import RackInventory.Proofs.Json.Skipping
import RackInventory.Proofs.Shape.Members
import RackInventory.Shape.OfText

/-!
# Reading a printed value

Reading the text of a value gives what the value stands for, once each of its numbers is replaced by
what its own text is read as. The nesting of a description bounds the depth that reading needs.
-/

namespace RackInventory

open Json Reader

mutual

/-- How deep lists and objects nest in what a description reads. -/
def Shape.height : {α : Type} → Shape α → Nat
  | _, .choice _ _ _ => 1
  | _, .list item => item.height + 1
  | _, .optional item => item.height
  | _, .map s _ _ _ => s.height
  | _, .record _ fields => fields.height + 1
  | _, _ => 0

def Fields.height : {α σ : Type} → Fields α σ → Nat
  | _, _, .nil => 0
  | _, _, .cons _ _ shape _ rest => max shape.height rest.height

end

theorem gives_peekValue {b : UInt8} (full : isSpace b = false) (rest : Bytes) :
    peekValue.Gives (b :: rest) (asChar b) (b :: rest) :=
  (gives_peekToken full rest).bind (gives_pure _ _)

theorem gives_deeper {depth : Nat} (deep : 0 < depth) (input : Bytes) :
    (deeper (depth + 1)).Gives input depth input := by
  rw [deeper, if_neg (by omega)]
  exact gives_pure _ input

theorem gives_readString (wanted s : String) (rest : Bytes) :
    (readString wanted).Gives ((Json.string s).bytes ++ rest) s rest :=
  (gives_peekValue rfl _).bind ((gives_advance 0x22 _).bind (gives_text s rest))

theorem gives_value_string (s : String) (depth : Nat) (rest : Bytes) :
    (value (depth + 1)).Gives ((Json.string s).bytes ++ rest) (.string s) rest :=
  (gives_peekToken rfl _).bind ((gives_advance 0x22 _).bind
    ((gives_text s rest).map (f := Json.string)))

theorem gives_value_number {n : Number} (document : n.IsDocument) (depth : Nat) {rest : Bytes}
    (ends : Ends rest) :
    (value (depth + 1)).Gives ((Json.number n).bytes ++ rest) (.number n.reread) rest := by
  obtain ⟨negative, p, valid, written, number⟩ := n.exists_numeral document
  rw [Json.bytes, print, written]
  exact Numeral.gives_value valid number ends depth

theorem gives_readNumber {α : Type} {wanted : String} {judge : Number → Except DecodeError α}
    {n : Number} (document : n.IsDocument) {a : α} (good : judge n.reread = .ok a) {rest : Bytes}
    (ends : Ends rest) : (readNumber wanted judge).Gives ((Json.number n).bytes ++ rest) a rest := by
  obtain ⟨negative, p, valid, written, number⟩ := n.exists_numeral document
  have read : (Numeral.read negative).Gives (Utf8.encode p.chars ++ rest) n.reread rest := by
    rw [Gives, Numeral.run_read valid ends, number]
    rfl
  have result : (do judged (judge (← Numeral.read negative)) : Reader α).Gives
      (Utf8.encode p.chars ++ rest) a rest := by
    refine read.bind ?_
    rw [good]
    exact gives_pure a rest
  rw [Json.bytes, print, written]
  cases negative with
  | true => exact (gives_peekValue rfl _).bind ((gives_advance 0x2D _).bind result)
  | false =>
    obtain ⟨d, small, left, eq⟩ := Numeral.first_of_numeral valid rest
    change (readNumber wanted judge).Gives (Utf8.encode p.chars ++ rest) a rest
    rw [eq] at result ⊢
    interval_cases d <;> exact (gives_peekValue rfl _).bind result

theorem reread_eq_null {v : Json} (h : v.reread = .null) : v = .null := by
  cases v <;> first | rfl | cases h

/-- A choice is read from its name, or from an object with its name and null. -/
theorem gives_readChoice {α : Type} {cases : List (String × α)} {a : α} {depth : Nat}
    (deep : 1 < depth) (rest : Bytes) : ∀ {v : Json}, decodeChoice cases v.reread = .ok a →
    (readChoice cases depth).Gives (v.bytes ++ rest) a rest
  | .string s, read => by
    have named : (judged (caseOf cases s)).Gives rest a rest := by
      rw [show caseOf cases s = .ok a from read]
      exact gives_pure a rest
    exact (gives_peekValue rfl _).bind ((gives_readString _ s rest).bind named)
  | .object [(name, v)], read => by
    obtain ⟨b, known, none⟩ := bind_eq_ok_iff.mp read
    have null : v = .null := reread_eq_null (by
      revert none
      generalize v.reread = w
      cases w <;> first | exact fun _ => rfl | exact nofun)
    subst null
    cases none
    obtain ⟨depth, rfl⟩ := Nat.exists_eq_succ_of_ne_zero (Nat.ne_zero_of_lt deep)
    have named (left : Bytes) : (judged (caseOf cases name)).Gives left a left := by
      rw [known]
      exact gives_pure a left
    have unit : readUnit.Gives ([0x6E, 0x75, 0x6C, 0x6C] ++ 0x7D :: rest) () (0x7D :: rest) := rfl
    have text := gives_readString "variant identifier" name
      (0x3A :: ([0x6E, 0x75, 0x6C, 0x6C] ++ 0x7D :: rest))
    have spelt : (Json.object [(name, .null)]).bytes ++ rest = 0x7B :: ((Json.string name).bytes ++
        0x3A :: ([0x6E, 0x75, 0x6C, 0x6C] ++ 0x7D :: rest)) := by
      rw [bytes_object, objectBody, memberBytes, bytes_string]
      simp [objectTail, Json.bytes, print]
      rfl
    rw [spelt]
    exact (gives_peekValue rfl _).bind (((gives_deeper (Nat.lt_of_succ_lt_succ deep) _).map).bind
      ((gives_advance 0x7B _).bind (text.bind ((named _).bind ((gives_colon _).bind
        (unit.bind ((gives_peekToken rfl _).bind ((gives_advance 0x7D _).bind (gives_pure a rest)))))))))

theorem length_rereadItems (vs : List Json) : (rereadItems vs).length = vs.length := by
  rw [rereadItems_eq, List.length_map]

/-- A record that is written as a list has no more items than fields. -/
theorem decode_items_eq_ok_iff {α σ : Type} {name : String} {fields : Fields α σ} {vs : List Json}
    {a : α} : (Shape.record name fields).decode (.array vs) = .ok a ↔
      vs.length ≤ fields.size ∧ fields.decodeItems name fields.size 0 vs = .ok a := by
  rw [Shape.decode]
  split_ifs with short
  · exact (and_iff_right short).symm
  · refine iff_of_false (fun read => ?_) fun read => short read.1
    obtain ⟨_, _, ⟨⟩⟩ := bind_eq_ok_iff.mp read

/-- Members that fill the fields one after the other are taken one after the other. -/
theorem takesAll_of_fillAll {α σ : Type} {fields : Fields α σ} {member : String → σ → Reader σ}
    (each : ∀ {filled filled' : σ} {name : String} {v : Json}, v.IsDocument →
      fields.fill filled name v.reread = .ok filled' → ∀ rest, Ends rest →
      (member name filled).Gives (0x3A :: v.bytes ++ rest) filled' rest) :
    ∀ {filled filled' : σ} (ms : Members), HoldDocuments ms →
      fields.fillAll filled (rereadMembers ms) = .ok filled' → TakesAll member filled ms filled'
  | _, _, [], _, fill => by
    cases fill
    exact .nil _
  | _, _, (name, v) :: ms, documents, fill => by
    obtain ⟨filled, here, later⟩ := bind_eq_ok_iff.mp fill
    exact .cons (each documents.1 here) (takesAll_of_fillAll each ms documents.2 later)

/-- The items of a list are counted by an index; only in front of the first one is no comma. -/
theorem gives_noItems (index : Nat) (rest : Bytes) :
    (moreItems (index = 0)).Gives ((if index = 0 then listBody [] else listTail []) ++ rest) false
      (0x5D :: rest) := by
  cases index <;> rfl

theorem gives_anItem {v : Json} (document : v.IsDocument) (vs : List Json) (index : Nat)
    (rest : Bytes) :
    (moreItems (index = 0)).Gives ((if index = 0 then listBody (v :: vs) else listTail (v :: vs)) ++ rest)
      true (v.bytes ++ (listTail vs ++ rest)) := by
  obtain ⟨b, left, eq, start, -⟩ := exists_first document
  rw [listBody, listTail, eq]
  cases index with
  | zero =>
    rw [if_pos rfl, List.append_assoc]
    exact gives_moreItems_first start _
  | succ index =>
    rw [if_neg (Nat.succ_ne_zero index), List.cons_append, List.append_assoc]
    exact gives_moreItems_next start _

section Values

variable {α σ : Type} {v : Json} {depth : Nat} {rest : Bytes}

theorem gives_readEither {name : String} {a : UInt64 ⊕ String} (document : v.IsDocument)
    (read : decodeEither name v.reread = .ok a) (ends : Ends rest) :
    ((Shape.either name).read (depth + 1)).Gives (v.bytes ++ rest) a rest := by
  have good : (judged (decodeEither name v.reread)).Gives rest a rest := by
    rw [read]
    exact gives_pure a rest
  cases v with
  | string s => exact (gives_value_string s depth rest).bind good
  | number n => exact (gives_value_number document depth ends).bind good
  | _ => cases read

theorem gives_readList {item : Shape α} {vs : List Json} {l : List α} (deep : 0 < depth)
    (each : ∀ {v : Json} {a : α}, v.IsDocument → item.decode v.reread = .ok a →
      ∀ {rest : Bytes}, Ends rest → (item.read depth).Gives (v.bytes ++ rest) a rest)
    (documents : AreDocuments vs) (read : (Shape.list item).decode (.array (rereadItems vs)) = .ok l) :
    ((Shape.list item).read (depth + 1)).Gives ((Json.array vs).bytes ++ rest) l rest := by
  have decoded : List.Forall₂ (fun v a => item.decode v = .ok a) (rereadItems vs) l :=
    Shape.decode_array_eq_ok_iff.mp read
  rw [rereadItems_eq, List.forall₂_map_left_iff] at decoded
  have items : List.Forall₂ (ReadsAs (item.read depth)) vs l :=
    ((List.forall₂_and_left _ _).mpr ⟨areDocuments_iff.mp documents, decoded⟩).imp
      fun _ _ ⟨document, read⟩ => ⟨document, fun _ => each document read⟩
  rw [bytes_array]
  exact (gives_peekValue rfl _).bind ((gives_deeper deep _).bind
    ((gives_advance 0x5B _).bind (gives_items items rest)))

/-- Null is told from any other value by its first letter. -/
theorem gives_readOptional {item : Shape α} {a : Option α} (document : v.IsDocument)
    (inner : ∀ x, item.decode v.reread = .ok x → (item.read depth).Gives (v.bytes ++ rest) x rest)
    (read : (Shape.optional item).decode v.reread = .ok a) :
    ((Shape.optional item).read depth).Gives (v.bytes ++ rest) a rest := by
  by_cases null : v = .null
  · subst null
    obtain rfl : none = a := Except.ok.inj read
    exact (gives_peekToken rfl _).bind ((gives_advance 0x6E _).bind rfl)
  · obtain ⟨b, left, eq, start, other⟩ := exists_first document
    rw [Shape.decode_optional_of_ne_null fun h => null (reread_eq_null h)] at read
    obtain ⟨x, value, ⟨⟩⟩ := bind_eq_ok_iff.mp read
    have some := (inner x value).map (f := some)
    have letter : Option.some (asChar b) ≠ Option.some 'n' := fun h =>
      other null (asChar_inj (Option.some.inj h))
    rw [eq] at some ⊢
    refine (gives_peekToken start.full _).bind ?_
    rw [if_neg letter]
    exact some

variable {name : String} {fields : Fields α σ} {a : α} (deep : 0 < depth)

include deep

theorem gives_readRecord_items {vs : List Json}
    (values : (fields.readItems name fields.size 0 depth).Gives (listBody vs ++ rest) a (0x5D :: rest)) :
    ((Shape.record name fields).read (depth + 1)).Gives ((Json.array vs).bytes ++ rest) a rest := by
  have closed : endList.Gives (0x5D :: rest) () rest := rfl
  rw [bytes_array]
  exact (gives_peekValue rfl _).bind ((gives_deeper deep _).bind
    ((gives_advance 0x5B _).bind (values.bind (closed.bind (gives_pure a rest)))))

theorem gives_readRecord_members {ms : Members}
    (each : ∀ {filled filled' : σ} {name : String} {v : Json}, v.IsDocument →
      fields.fill filled name v.reread = .ok filled' → ∀ rest, Ends rest →
      (fields.readMember filled name depth).Gives (0x3A :: v.bytes ++ rest) filled' rest)
    (documents : HoldDocuments ms)
    (read : (Shape.record name fields).decode (.object (rereadMembers ms)) = .ok a) :
    ((Shape.record name fields).read (depth + 1)).Gives ((Json.object ms).bytes ++ rest) a rest := by
  obtain ⟨filled, fill, finish⟩ := bind_eq_ok_iff.mp read
  have all : TakesAll (fun member filled => fields.readMember filled member depth) fields.empty ms
      filled := takesAll_of_fillAll each ms documents fill
  have done : (judged (fields.finish filled)).Gives rest a rest := by
    rw [finish]
    exact gives_pure a rest
  rw [bytes_object]
  exact (gives_peekValue rfl _).bind ((gives_deeper deep _).bind
    ((gives_advance 0x7B _).bind ((gives_members all rest).bind done)))

end Values

mutual

theorem Shape.gives_read : ∀ {α : Type} (s : Shape α) {v : Json} {a : α} {depth : Nat},
    v.IsDocument → s.height < depth → s.decode v.reread = .ok a → ∀ {rest : Bytes}, Ends rest →
    (s.read depth).Gives (v.bytes ++ rest) a rest
  | _, .string, v, _, _, _, _, read, rest, _ => by
    cases v with
    | string s => exact Except.ok.inj read ▸ gives_readString _ s rest
    | _ => cases read
  | _, .u32, v, _, _, document, _, read, _, ends => by
    cases v with
    | number n => exact gives_readNumber document read ends
    | _ => cases read
  | _, .u64, v, _, _, document, _, read, _, ends => by
    cases v with
    | number n => exact gives_readNumber document read ends
    | _ => cases read
  | _, .f64, v, _, _, document, _, read, _, ends => by
    cases v with
    | number n => exact gives_readNumber document read ends
    | _ => cases read
  | _, .either name, v, a, depth, document, deep, read, rest, ends => by
    obtain ⟨depth, rfl⟩ := Nat.exists_eq_succ_of_ne_zero (Nat.ne_zero_of_lt deep)
    exact gives_readEither document read ends
  | _, .choice cases _ _, v, a, depth, _, deep, read, rest, _ => gives_readChoice deep rest read
  | _, .list item, v, l, depth, document, deep, read, rest, ends => by
    obtain ⟨depth, rfl⟩ := Nat.exists_eq_succ_of_ne_zero (Nat.ne_zero_of_lt deep)
    have deep : item.height < depth := Nat.lt_of_succ_lt_succ deep
    cases v with
    | array vs =>
      exact gives_readList (Nat.zero_lt_of_lt deep)
        (fun document read => item.gives_read document deep read) document read
    | _ => cases read
  | _, .optional item, v, a, depth, document, deep, read, rest, ends =>
    gives_readOptional document (fun _ inner => item.gives_read document deep inner ends) read
  | _, .map s f _ _, v, a, depth, document, deep, read, rest, ends => by
    obtain ⟨b, inner, ⟨⟩⟩ := bind_eq_ok_iff.mp read
    exact (s.gives_read document deep inner ends).map
  | _, .record name fields, v, a, depth, document, deep, read, rest, ends => by
    obtain ⟨depth, rfl⟩ := Nat.exists_eq_succ_of_ne_zero (Nat.ne_zero_of_lt deep)
    have deep : fields.height < depth := Nat.lt_of_succ_lt_succ deep
    cases v with
    | array vs =>
      obtain ⟨short, items⟩ := decode_items_eq_ok_iff.mp read
      rw [length_rereadItems] at short
      exact gives_readRecord_items (Nat.zero_lt_of_lt deep)
        (fields.gives_readItems name fields.size 0 document deep short items rest)
    | object ms =>
      exact gives_readRecord_members (Nat.zero_lt_of_lt deep)
        (fun document fill rest ends => fields.gives_readMember document deep fill ends) document read
    | _ => cases read

/-- The member of a field is read, and any other is passed over. -/
theorem Fields.gives_readMember : ∀ {α σ : Type} (fields : Fields α σ) {filled filled' : σ}
    {name : String} {v : Json} {depth : Nat}, v.IsDocument → fields.height < depth →
    fields.fill filled name v.reread = .ok filled' → ∀ {rest : Bytes}, Ends rest →
    (fields.readMember filled name depth).Gives (0x3A :: v.bytes ++ rest) filled' rest
  | _, _, .nil, _, _, _, _, _, document, _, fill, rest, ends => by
    cases fill
    exact (gives_colon _).bind ((gives_skipValue document ends).bind (gives_pure _ rest))
  | _, _, .cons field aliases shape absent more, (a, filled), filled', name, v, depth, document, deep,
      fill, rest, ends => by
    obtain ⟨here, later⟩ := Nat.max_lt.mp deep
    cases named : Fields.isNamed field aliases name with
    | true =>
      rw [Fields.fill, if_pos named] at fill
      cases a with
      | some a => cases fill
      | none =>
        obtain ⟨x, read, ⟨⟩⟩ := bind_eq_ok_iff.mp fill
        rw [Fields.readMember, if_pos named]
        exact (gives_colon _).bind ((shape.gives_read document here read ends).bind
          (gives_pure (some x, filled) rest))
    | false =>
      rw [Fields.fill, named, if_neg Bool.false_ne_true] at fill
      obtain ⟨filled', inner, ⟨⟩⟩ := bind_eq_ok_iff.mp fill
      rw [Fields.readMember, named, if_neg Bool.false_ne_true]
      exact (more.gives_readMember document later inner ends).bind (gives_pure (a, filled') rest)

/-- The items of a list go to the fields in their order. -/
theorem Fields.gives_readItems : ∀ {α σ : Type} (fields : Fields α σ) (record : String)
    (count index : Nat) {a : α} {depth : Nat} {vs : List Json}, AreDocuments vs → fields.height < depth →
    vs.length ≤ fields.size → fields.decodeItems record count index (rereadItems vs) = .ok a →
    ∀ rest : Bytes, (fields.readItems record count index depth).Gives
      ((if index = 0 then listBody vs else listTail vs) ++ rest) a (0x5D :: rest)
  | _, _, .nil, _, _, index, _, _, vs, _, _, short, read, rest => by
    obtain rfl : vs = [] := List.eq_nil_of_length_eq_zero (Nat.eq_zero_of_le_zero short)
    rw [show listBody [] = listTail [] from rfl, ite_self]
    exact gives_pure () _
  | _, _, .cons field aliases shape absent more, record, count, index, a, depth, [], _, deep, _, read,
      rest => by
    obtain ⟨here, later⟩ := Nat.max_lt.mp deep
    refine (gives_noItems index rest).bind ?_
    cases absent with
    | none => cases read
    | some d =>
      obtain ⟨b, inner, ⟨⟩⟩ := bind_eq_ok_iff.mp read
      exact (more.gives_readItems record count (index + 1) (show AreDocuments [] from trivial) later
        (Nat.zero_le _) inner rest).bind (gives_pure (d, b) _)
  | _, _, .cons field aliases shape absent more, record, count, index, a, depth, v :: vs, documents,
      deep, short, read, rest => by
    obtain ⟨here, later⟩ := Nat.max_lt.mp deep
    obtain ⟨x, value, items⟩ := bind_eq_ok_iff.mp read
    obtain ⟨b, inner, ⟨⟩⟩ := bind_eq_ok_iff.mp items
    have behind := more.gives_readItems record count (index + 1) documents.2 later
      (Nat.le_of_succ_le_succ short) inner rest
    exact (gives_anItem documents.1 vs index rest).bind
      ((shape.gives_read documents.1 here value (ends_listTail vs rest)).bind
        (behind.bind (gives_pure (x, b) _)))

end

/-- The text of a list of values is read as the list of what they stand for. -/
theorem Shape.parse_list {α : Type} {item : Shape α} (shallow : item.height < 127) {vs : List Json}
    {l : List α} (documents : ∀ v ∈ vs, v.IsDocument)
    (read : List.Forall₂ (fun v a => item.decode v.reread = .ok a) vs l) :
    (Shape.list item).parse (Utf8.ofString (Json.array vs).render) = .ok l := by
  have decoded : (Shape.list item).decode (Json.array vs).reread = .ok l := by
    refine Shape.decode_array_eq_ok_iff.mpr ?_
    rw [rereadItems_eq, List.forall₂_map_left_iff]
    exact read
  have document : (Json.array vs).IsDocument := areDocuments_iff.mpr documents
  have deep : (Shape.list item).height < depthLimit := Nat.succ_lt_succ shallow
  have gives := (Shape.list item).gives_read document deep decoded ends_nil
  rw [List.append_nil] at gives
  rw [Shape.parse, Utf8.ofString, render, String.toList_ofList]
  exact runWhole_of_gives gives

end RackInventory
