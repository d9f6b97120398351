import Mathlib.Data.List.Forall2
import RackInventory.Proofs.Json.Numbers
import RackInventory.Proofs.Json.Strings

/-!
# Printed values

The values that documents can hold, what their numbers are read back as, and the bytes that they are
printed as. The first byte of a printed value tells it apart from what stands between values, and the
items of a list and the members of an object are read one after the other whatever they are.
-/

namespace RackInventory.Json

open Reader

mutual

/-- Whether all numbers are numbers of documents. -/
def IsDocument : Json → Prop
  | .number n => n.IsDocument
  | .array items => AreDocuments items
  | .object members => HoldDocuments members
  | _ => True

def AreDocuments : List Json → Prop
  | [] => True
  | v :: vs => v.IsDocument ∧ AreDocuments vs

def HoldDocuments : Members → Prop
  | [] => True
  | (_, v) :: ms => v.IsDocument ∧ HoldDocuments ms

end

mutual

def decideDocument : (v : Json) → Decidable v.IsDocument
  | .number n => inferInstanceAs (Decidable n.IsDocument)
  | .array items => decideDocuments items
  | .object members => decideMembers members
  | .null | .bool _ | .string _ => isTrue trivial

def decideDocuments : (vs : List Json) → Decidable (AreDocuments vs)
  | [] => isTrue trivial
  | v :: vs => @instDecidableAnd _ _ (decideDocument v) (decideDocuments vs)

def decideMembers : (ms : Members) → Decidable (HoldDocuments ms)
  | [] => isTrue trivial
  | (_, v) :: ms => @instDecidableAnd _ _ (decideDocument v) (decideMembers ms)

end

instance (v : Json) : Decidable v.IsDocument := decideDocument v

mutual

/-- A value with every number as it is read back. -/
def reread : Json → Json
  | .number n => .number n.reread
  | .array items => .array (rereadItems items)
  | .object members => .object (rereadMembers members)
  | v => v

def rereadItems : List Json → List Json
  | [] => []
  | v :: vs => v.reread :: rereadItems vs

def rereadMembers : Members → Members
  | [] => []
  | (name, v) :: ms => (name, v.reread) :: rereadMembers ms

end

theorem areDocuments_iff {vs : List Json} : AreDocuments vs ↔ ∀ v ∈ vs, v.IsDocument := by
  induction vs with
  | nil => exact iff_of_true trivial fun _ mem => absurd mem List.not_mem_nil
  | cons v vs ih => rw [AreDocuments, ih, List.forall_mem_cons]

theorem rereadItems_eq (vs : List Json) : rereadItems vs = vs.map reread := by
  induction vs with
  | nil => rfl
  | cons v vs ih => rw [rereadItems, ih, List.map_cons]

def bytes (v : Json) : Bytes := Utf8.encode v.print

def listTail : List Json → Bytes
  | [] => [0x5D]
  | v :: vs => 0x2C :: (v.bytes ++ listTail vs)

def listBody : List Json → Bytes
  | [] => [0x5D]
  | v :: vs => v.bytes ++ listTail vs

/-- The bytes of a member behind the mark that opens its name. -/
def memberBytes (m : String × Json) : Bytes := textTail m.1 ++ 0x3A :: m.2.bytes

def objectTail : Members → Bytes
  | [] => [0x7D]
  | m :: ms => 0x2C :: 0x22 :: (memberBytes m ++ objectTail ms)

def objectBody : Members → Bytes
  | [] => [0x7D]
  | m :: ms => 0x22 :: (memberBytes m ++ objectTail ms)

theorem bytes_string (s : String) : (Json.string s).bytes = 0x22 :: textTail s := rfl

theorem encode_printItems (v : Json) (vs : List Json) :
    Utf8.encode (printItems (v :: vs) ++ [']']) = v.bytes ++ listTail vs := by
  induction vs generalizing v with
  | nil => exact Utf8.encode_append ..
  | cons w vs ih =>
    rw [printItems, List.append_assoc, Utf8.encode_append]
    exact congrArg (v.bytes ++ 0x2C :: ·) (ih w)

theorem bytes_array : ∀ vs : List Json, (Json.array vs).bytes = 0x5B :: listBody vs
  | [] => rfl
  | v :: vs => congrArg (0x5B :: ·) (encode_printItems v vs)

theorem encode_printMember (m : String × Json) (cs : List Char) :
    Utf8.encode (printString m.1 ++ ':' :: print m.2 ++ cs) =
      0x22 :: (memberBytes m ++ Utf8.encode cs) := by
  rw [Utf8.encode_append, Utf8.encode_append]
  exact congrArg (0x22 :: · ++ Utf8.encode cs) rfl

theorem encode_printMembers (m : String × Json) (ms : Members) :
    Utf8.encode (printMembers (m :: ms) ++ ['}']) = 0x22 :: (memberBytes m ++ objectTail ms) := by
  induction ms generalizing m with
  | nil => exact encode_printMember m ['}']
  | cons n ms ih =>
    have front := encode_printMember m (',' :: (printMembers (n :: ms) ++ ['}']))
    rw [printMembers, List.append_assoc]
    exact front.trans (congrArg (0x22 :: memberBytes m ++ 0x2C :: ·) (ih n))

theorem bytes_object : ∀ ms : Members, (Json.object ms).bytes = 0x7B :: objectBody ms
  | [] => rfl
  | m :: ms => congrArg (0x7B :: ·) (encode_printMembers m ms)

theorem ends_listTail (vs : List Json) (rest : Bytes) : Ends (listTail vs ++ rest) := by
  cases vs with
  | nil => rintro _ ⟨⟩; exact .inr (.inl rfl)
  | cons v vs => rintro _ ⟨⟩; exact .inl rfl

theorem ends_objectTail (ms : Members) (rest : Bytes) : Ends (objectTail ms ++ rest) := by
  cases ms with
  | nil => rintro _ ⟨⟩; exact .inr (.inr rfl)
  | cons m ms => rintro _ ⟨⟩; exact .inl rfl

structure Starts (b : UInt8) : Prop where
  full : isSpace b = false
  inside : b ≠ 0x5D
  apart : b ≠ 0x2C

/-- The first byte of a printed value, which is a letter n only for null. -/
theorem exists_first {v : Json} (document : v.IsDocument) :
    ∃ b left, v.bytes = b :: left ∧ Starts b ∧ (v ≠ .null → b ≠ 0x6E) := by
  cases v with
  | null => exact ⟨_, _, rfl, ⟨rfl, by decide, by decide⟩, fun h => absurd rfl h⟩
  | bool b => cases b <;> exact ⟨_, _, rfl, ⟨rfl, by decide, by decide⟩, fun _ => by decide⟩
  | string s => exact ⟨_, _, rfl, ⟨rfl, by decide, by decide⟩, fun _ => by decide⟩
  | array items => exact ⟨_, _, rfl, ⟨rfl, by decide, by decide⟩, fun _ => by decide⟩
  | object members => exact ⟨_, _, rfl, ⟨rfl, by decide, by decide⟩, fun _ => by decide⟩
  | number n =>
    obtain ⟨negative, p, valid, written, -⟩ := n.exists_numeral document
    rw [bytes, print, written]
    cases negative with
    | true => exact ⟨_, _, rfl, ⟨rfl, by decide, by decide⟩, fun _ => by decide⟩
    | false =>
      obtain ⟨d, small, left, eq⟩ := Numeral.first_of_numeral valid []
      rw [List.append_nil] at eq
      have start : ∀ d < 10, isSpace (Numeral.digitByte d) = false ∧ Numeral.digitByte d ≠ 0x5D ∧
          Numeral.digitByte d ≠ 0x2C ∧ Numeral.digitByte d ≠ 0x6E := by decide
      obtain ⟨full, inside, apart, other⟩ := start d small
      exact ⟨_, left, eq, ⟨full, inside, apart⟩, fun _ => other⟩

theorem gives_moreItems_first {b : UInt8} (start : Starts b) (left : Bytes) :
    (moreItems true).Gives (b :: left) true (b :: left) := by
  refine (gives_peekToken start.full left).bind ?_
  split
  · contradiction
  · exact absurd (asChar_inj (Option.some.inj ‹_›)) start.inside
  · exact gives_pure true _
  · exact gives_pure true _

theorem gives_moreItems_next {b : UInt8} (start : Starts b) (left : Bytes) :
    (moreItems false).Gives (0x2C :: b :: left) true (b :: left) := by
  refine (gives_peekToken rfl _).bind ((gives_advance 0x2C _).bind
    ((gives_peekToken start.full left).bind ?_))
  split
  · exact absurd (asChar_inj (Option.some.inj ‹_›)) start.inside
  · exact gives_pure true _
  · contradiction

section Lists

variable {α : Type} {item : Reader α}

/-- Whether a reader takes a printed value for a value, whatever ends it. -/
def ReadsAs (item : Reader α) (v : Json) (a : α) : Prop :=
  v.IsDocument ∧ ∀ rest, Ends rest → item.Gives (v.bytes ++ rest) a rest

theorem gives_itemsFrom {vs : List Json} {as : List α} (each : List.Forall₂ (ReadsAs item) vs as)
    {fuel : Nat} (enough : vs.length < fuel) (rest : Bytes) :
    (itemsFrom item false fuel).Gives (listTail vs ++ rest) as (0x5D :: rest) := by
  induction each generalizing fuel with
  | nil =>
    obtain ⟨fuel, rfl⟩ := Nat.exists_eq_succ_of_ne_zero (Nat.ne_zero_of_lt enough)
    rfl
  | @cons v a vs as takes _ ih =>
    obtain ⟨fuel, rfl⟩ := Nat.exists_eq_succ_of_ne_zero (Nat.ne_zero_of_lt enough)
    obtain ⟨b, left, eq, start, -⟩ := exists_first takes.1
    have value := takes.2 _ (ends_listTail vs rest)
    have more := ih (Nat.lt_of_succ_lt_succ enough)
    rw [listTail, List.cons_append, List.append_assoc]
    rw [eq] at value ⊢
    exact (gives_moreItems_next start _).bind (value.bind (more.bind (gives_pure _ _)))

theorem length_lt_listTail (vs : List Json) : vs.length < (listTail vs).length := by
  induction vs with
  | nil => exact Nat.one_pos
  | cons v vs ih =>
    rw [listTail, List.length_cons, List.length_cons, List.length_append]
    omega

/-- A list is read item by item. -/
theorem gives_items {vs : List Json} {as : List α} (each : List.Forall₂ (ReadsAs item) vs as)
    (rest : Bytes) : (items item).Gives (listBody vs ++ rest) as rest := by
  refine (gives_bound _).bind ?_
  have closed : endList.Gives (0x5D :: rest) () rest := rfl
  suffices all : (itemsFrom item true ((listBody vs ++ rest).length + 1)).Gives
      (listBody vs ++ rest) as (0x5D :: rest) from all.bind (closed.bind (gives_pure _ rest))
  cases each with
  | nil => rfl
  | @cons v a vs as takes more =>
    obtain ⟨b, left, eq, start, -⟩ := exists_first takes.1
    have value := takes.2 _ (ends_listTail vs rest)
    have short := length_lt_listTail vs
    rw [listBody, List.append_assoc]
    have enough : vs.length < (v.bytes ++ (listTail vs ++ rest)).length := by
      rw [List.length_append, List.length_append]
      omega
    have later := gives_itemsFrom more enough rest
    rw [eq] at value later ⊢
    exact (gives_moreItems_first start _).bind (value.bind (later.bind (gives_pure _ _)))

end Lists

section Objects

variable {σ : Type} {member : String → σ → Reader σ}

/-- Whether the members of an object are taken one after the other. -/
inductive TakesAll (member : String → σ → Reader σ) : σ → Members → σ → Prop where
  | nil (s : σ) : TakesAll member s [] s
  | cons {s t u : σ} {m : String × Json} {ms : Members}
      (here : ∀ rest, Ends rest → (member m.1 s).Gives (0x3A :: m.2.bytes ++ rest) t rest)
      (later : TakesAll member t ms u) : TakesAll member s (m :: ms) u

theorem gives_member {s t : σ} {m : String × Json}
    (here : ∀ rest, Ends rest → (member m.1 s).Gives (0x3A :: m.2.bytes ++ rest) t rest)
    {rest : Bytes} (ends : Ends rest) {β : Type} {f : σ → Reader β} {b : β} {left : Bytes}
    (later : (f t).Gives rest b left) :
    (do advance; let name ← text; f (← member name s) : Reader β).Gives
      (0x22 :: (memberBytes m ++ rest)) b left := by
  refine (gives_advance 0x22 _).bind ?_
  rw [memberBytes, List.append_assoc]
  exact (gives_text m.1 _).bind ((here rest ends).bind later)

theorem gives_membersFrom {s t : σ} {ms : Members} (all : TakesAll member s ms t) {fuel : Nat}
    (enough : ms.length < fuel) (rest : Bytes) :
    (membersFrom member false s fuel).Gives (objectTail ms ++ rest) t (0x7D :: rest) := by
  induction all generalizing fuel with
  | nil s =>
    obtain ⟨fuel, rfl⟩ := Nat.exists_eq_succ_of_ne_zero (Nat.ne_zero_of_lt enough)
    rfl
  | @cons s t u m ms here _ ih =>
    obtain ⟨fuel, rfl⟩ := Nat.exists_eq_succ_of_ne_zero (Nat.ne_zero_of_lt enough)
    have more : (moreMembers false).Gives
        (0x2C :: 0x22 :: (memberBytes m ++ (objectTail ms ++ rest))) true
        (0x22 :: (memberBytes m ++ (objectTail ms ++ rest))) := rfl
    rw [objectTail, List.cons_append, List.cons_append, List.append_assoc]
    exact more.bind
      (gives_member here (ends_objectTail ms rest) (ih (Nat.lt_of_succ_lt_succ enough)))

theorem length_lt_objectTail (ms : Members) : ms.length < (objectTail ms).length := by
  induction ms with
  | nil => exact Nat.one_pos
  | cons m ms ih =>
    rw [objectTail, List.length_cons, List.length_cons, List.length_cons, List.length_append]
    omega

/-- An object is read member by member. -/
theorem gives_members {s t : σ} {ms : Members} (all : TakesAll member s ms t) (rest : Bytes) :
    (members member s).Gives (objectBody ms ++ rest) t rest := by
  refine (gives_bound _).bind ?_
  have closed : endObject.Gives (0x7D :: rest) () rest := rfl
  suffices final : (membersFrom member true s ((objectBody ms ++ rest).length + 1)).Gives
      (objectBody ms ++ rest) t (0x7D :: rest) from final.bind (closed.bind (gives_pure _ rest))
  cases all with
  | nil => rfl
  | @cons _ t' _ m ms here later =>
    have short := length_lt_objectTail ms
    have more : (moreMembers true).Gives (0x22 :: (memberBytes m ++ (objectTail ms ++ rest))) true
        (0x22 :: (memberBytes m ++ (objectTail ms ++ rest))) := rfl
    rw [objectBody, List.cons_append, List.append_assoc]
    exact more.bind (gives_member here (ends_objectTail ms rest) (gives_membersFrom later (by
      rw [List.length_cons, List.length_append, List.length_append]
      omega) rest))

end Objects

end RackInventory.Json
