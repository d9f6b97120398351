import RackInventory.Json.Collection
import RackInventory.Proofs.Json.Repeated

/-!
# Lists and objects that are read again

A list is read again where its items are, and an object where its members are; both end with a bracket,
so what follows does not matter. Where one item ends and the next one starts is told by the bytes: white
space, a comma and white space stand between them.
-/

namespace RackInventory.Json

open Reader

theorem repeats_moreItems (first : Bool) : (moreItems first).Repeats := by
  refine repeats_peekToken.bind fun c => ?_
  split
  · exact repeats_fail _
  · exact repeats_pure _
  · split
    · exact repeats_pure _
    · refine repeats_advance.bind fun _ => repeats_peekToken.bind fun d => ?_
      split
      · exact repeats_fail _
      · exact repeats_pure _
      · exact repeats_fail _
  · split
    · exact repeats_pure _
    · exact repeats_fail _

/-- Something that is not the end of a list is next. -/
def Opens (bytes : Bytes) : Prop := ∃ b tail, bytes = b :: tail ∧ isSpace b = false ∧ b ≠ 0x5D

section MoreItems

variable {input rest : Bytes}

theorem gives_moreItems_first_iff : (moreItems true).Gives input true rest ↔
    Opens rest ∧ ∃ blanks, Blank blanks ∧ input = blanks ++ rest := by
  rw [moreItems, gives_token_iff]
  constructor
  · rintro ⟨blanks, left, blank, rfl, full, later⟩
    split at later
    · cases later
    · cases later
    · next eq =>
      cases later
      obtain ⟨tail, rfl⟩ := exists_cons_of_token (b := 0x2C) eq
      exact ⟨⟨_, tail, rfl, rfl, by decide⟩, blanks, blank, rfl⟩
    · next c other _ eq =>
      cases later
      obtain ⟨b, first, rfl⟩ := Option.map_eq_some_iff.mp eq
      obtain ⟨tail, rfl⟩ := List.head?_eq_some_iff.mp first
      exact ⟨⟨b, tail, rfl, full b rfl, fun mark => other (congrArg asChar mark)⟩, blanks, blank, rfl⟩
  · rintro ⟨⟨b, tail, rfl, full, inside⟩, blanks, blank, rfl⟩
    refine ⟨blanks, _, blank, rfl, by rintro _ ⟨⟩; exact full, ?_⟩
    split
    · contradiction
    · exact absurd (asChar_inj (Option.some.inj ‹_›)) inside
    · exact gives_pure true _
    · exact gives_pure true _

theorem gives_moreItems_next_iff : (moreItems false).Gives input true rest ↔
    Opens rest ∧ ∃ before after, Blank before ∧ Blank after ∧
      input = before ++ 0x2C :: (after ++ rest) := by
  rw [moreItems, gives_token_iff]
  constructor
  · rintro ⟨before, left, blank, rfl, -, later⟩
    split at later
    · cases later
    · cases later
    · next eq =>
      obtain ⟨tail, rfl⟩ := exists_cons_of_token (b := 0x2C) eq
      obtain ⟨_, _, ⟨⟩, more⟩ := gives_bind_iff.mp later
      obtain ⟨after, left, blank', rfl, full, last⟩ := gives_token_iff.mp more
      split at last
      · cases last
      · next c other eq =>
        cases last
        obtain ⟨b, first, rfl⟩ := Option.map_eq_some_iff.mp eq
        obtain ⟨tail, rfl⟩ := List.head?_eq_some_iff.mp first
        exact ⟨⟨b, tail, rfl, full b rfl, fun mark => other (congrArg asChar mark)⟩, before, after,
          blank, blank', rfl⟩
      · cases last
    · cases later
  · rintro ⟨⟨b, tail, rfl, full, inside⟩, before, after, blank, blank', rfl⟩
    refine ⟨before, _, blank, rfl, by rintro _ ⟨⟩; rfl, (gives_advance 0x2C _).bind ?_⟩
    refine gives_token_iff.mpr ⟨after, _, blank', rfl, by rintro _ ⟨⟩; exact full, ?_⟩
    split
    · exact absurd (asChar_inj (Option.some.inj ‹_›)) inside
    · exact gives_pure true _
    · contradiction

theorem gives_moreItems_end_iff {first : Bool} : (moreItems first).Gives input false rest ↔
    (∃ tail, rest = 0x5D :: tail) ∧ ∃ blanks, Blank blanks ∧ input = blanks ++ rest := by
  rw [moreItems, gives_token_iff]
  constructor
  · rintro ⟨blanks, left, blank, rfl, -, later⟩
    split at later
    · cases later
    · next eq =>
      cases later
      exact ⟨exists_cons_of_token (b := 0x5D) eq, blanks, blank, rfl⟩
    · cases first with
      | true => cases later
      | false =>
        obtain ⟨_, _, -, more⟩ := gives_bind_iff.mp later
        obtain ⟨_, _, -, last⟩ := gives_bind_iff.mp more
        split at last <;> cases last
    · cases first <;> cases later
  · rintro ⟨⟨tail, rfl⟩, blanks, blank, rfl⟩
    exact ⟨blanks, _, blank, rfl, by rintro _ ⟨⟩; rfl, gives_pure false _⟩

theorem gives_endList_iff : endList.Gives input () rest ↔
    ∃ blanks, Blank blanks ∧ input = blanks ++ 0x5D :: rest := by
  refine gives_mark_iff rfl rfl fun c other input a rest gives => ?_
  split at gives
  · exact other rfl
  · obtain ⟨_, _, -, more⟩ := gives_bind_iff.mp gives
    obtain ⟨_, _, -, last⟩ := gives_bind_iff.mp more
    split at last <;> cases last
  · cases gives
  · cases gives

end MoreItems

theorem closedBy_endList : endList.ClosedBy endList := closedBy_of_mark gives_endList_iff

section Items

variable {α : Type} {item item' : Reader α}

/-- The items are taken again. A first item need not take anything, so one step more is allowed for
it. -/
theorem again_itemsFrom (each : item.RepeatedBy item') {fuel : Nat} {first : Bool}
    {input rest : Bytes} {all : List α} (gives : (itemsFrom item first fuel).Gives input all rest) :
    ∃ front, input = front ++ rest ∧ ∀ other : Bytes, other.head? = rest.head? →
      ∀ fuel, front.length + first.toNat < fuel →
        (itemsFrom item' first fuel).Gives (front ++ other) all other := by
  induction fuel generalizing first input all with
  | zero => exact (fails_fail _ gives).elim
  | succ n ih =>
    obtain ⟨more, left, here, later⟩ := gives_bind_iff.mp gives
    obtain ⟨front, rfl, moreAgain⟩ := repeats_moreItems first here
    cases more with
    | false =>
      cases later
      refine ⟨front, rfl, fun other same fuel enough => ?_⟩
      obtain ⟨fuel, rfl⟩ := Nat.exists_eq_succ_of_ne_zero (Nat.ne_zero_of_lt enough)
      exact (moreAgain other same).bind (gives_pure [] other)
    | true =>
      have counted : 1 ≤ front.length + first.toNat := by
        cases first with
        | true => exact Nat.le_add_left ..
        | false =>
          obtain ⟨-, before, after, -, -, eq⟩ := gives_moreItems_next_iff.mp here
          have whole := congrArg List.length eq
          simp only [List.length_append, List.length_cons] at whole
          simp only [Bool.toNat_false]
          omega
      obtain ⟨a, left, value, later⟩ := gives_bind_iff.mp later
      obtain ⟨as, left, others, ⟨⟩⟩ := gives_bind_iff.mp later
      obtain ⟨middle, rfl, itemAgain⟩ := each value
      obtain ⟨back, rfl, othersAgain⟩ := ih others
      refine ⟨front ++ (middle ++ back), by simp only [List.append_assoc], fun other same fuel enough => ?_⟩
      obtain ⟨fuel, rfl⟩ := Nat.exists_eq_succ_of_ne_zero (Nat.ne_zero_of_lt enough)
      simp only [List.length_append] at enough
      simp only [List.append_assoc]
      have backAgain := head?_append_congr same back
      refine (moreAgain _ (head?_append_congr backAgain middle)).bind ((itemAgain _ backAgain).bind
        ((othersAgain other same fuel ?_).bind (gives_pure _ other)))
      simp only [Bool.toNat_false]
      omega

theorem closedBy_items (each : item.RepeatedBy item') : (items item).ClosedBy (items item') := by
  intro input all rest gives
  obtain ⟨_, _, ⟨⟩, walked⟩ := gives_bind_iff.mp gives
  obtain ⟨all, left, inside, closed⟩ := gives_bind_iff.mp walked
  obtain ⟨_, left, close, ⟨⟩⟩ := gives_bind_iff.mp closed
  obtain ⟨front, rfl, again⟩ := again_itemsFrom each inside
  obtain ⟨back, filled, rfl, closeAgain⟩ := closedBy_endList close
  refine ⟨front ++ back, List.append_ne_nil_of_right_ne_nil _ filled, (List.append_assoc ..).symm,
    fun other => ?_⟩
  have some := List.length_pos_iff.mpr filled
  rw [List.append_assoc]
  refine (gives_bound _).bind ((again _ (head?_append_of_ne_nil filled rest other) _ ?_).bind
    ((closeAgain other).bind (gives_pure _ other)))
  simp only [List.length_append, Bool.toNat_true]
  omega

end Items

theorem repeats_moreMembers (first : Bool) : (moreMembers first).Repeats := by
  refine repeats_peekToken.bind fun c => ?_
  split
  · exact repeats_fail _
  · exact repeats_pure _
  · split
    · exact repeats_fail _
    · refine repeats_advance.bind fun _ => repeats_peekToken.bind fun d => ?_
      split
      · exact repeats_pure _
      · exact repeats_fail _
      · exact repeats_fail _
      · exact repeats_fail _
  · split
    · exact repeats_pure _
    · exact repeats_fail _
  · split
    · exact repeats_fail _
    · exact repeats_fail _

theorem gives_endObject_iff {input rest : Bytes} : endObject.Gives input () rest ↔
    ∃ blanks, Blank blanks ∧ input = blanks ++ 0x7D :: rest := by
  refine gives_mark_iff rfl rfl fun c other input a rest gives => ?_
  split at gives
  · exact other rfl
  · cases gives
  · cases gives
  · cases gives

theorem closedBy_endObject : endObject.ClosedBy endObject := closedBy_of_mark gives_endObject_iff

section Members

variable {σ : Type} {member member' : String → σ → Reader σ}

/-- One step of reading an object: the state so far, or the last one. -/
def memberStep (member : String → σ → Reader σ) (s : Bool × σ) : Reader ((Bool × σ) ⊕ σ) := do
  if ← moreMembers s.1 then
    advance
    let name ← text
    return .inl (false, ← member name s.2)
  else return .inr s.2

theorem membersFrom_succ (member : String → σ → Reader σ) (s : Bool × σ) (n : Nat) :
    membersFrom member s.1 s.2 (n + 1) =
      memberStep member s >>= Sum.elim (fun s => membersFrom member s.1 s.2 n) pure := by
  rw [membersFrom, memberStep, bind_assoc]
  congr
  funext more
  cases more <;> simp

theorem gives_moreMembers_true {first : Bool} {input rest : Bytes}
    (gives : (moreMembers first).Gives input true rest) : ∃ tail, rest = 0x22 :: tail := by
  obtain ⟨blanks, left, -, rfl, -, later⟩ := gives_token_iff.mp gives
  split at later
  · cases later
  · cases later
  · cases first with
    | true => cases later
    | false =>
      obtain ⟨_, _, -, more⟩ := gives_bind_iff.mp later
      obtain ⟨_, left, -, rfl, -, last⟩ := gives_token_iff.mp more
      split at last
      · next eq =>
        cases last
        exact exists_cons_of_token (b := 0x22) eq
      · cases last
      · cases last
      · cases last
  · next eq =>
    cases first with
    | true =>
      cases later
      exact exists_cons_of_token (b := 0x22) eq
    | false => cases later
  · cases first <;> cases later

theorem boundedBy_membersFrom (each : ∀ name s, (member name s).RepeatedBy (member' name s))
    (fuel : Nat) (s : Bool × σ) :
    (membersFrom member s.1 s.2 fuel).BoundedBy (membersFrom member' s.1 s.2) := by
  refine boundedBy_walk (fun s : Bool × σ => membersFrom member s.1 s.2)
    (fun s : Bool × σ => membersFrom member' s.1 s.2) (fun _ => fails_fail _)
    (membersFrom_succ member) (membersFrom_succ member') (fun s => ?_) (fun s input t rest gives => ?_)
    fuel s
  · refine RepeatedBy.bind (repeats_moreMembers _) fun more => ?_
    cases more with
    | true =>
      exact RepeatedBy.bind repeats_advance fun _ => RepeatedBy.bind repeats_text fun name =>
        RepeatedBy.bind (each name s.2) fun _ => repeats_pure _
    | false => exact repeats_pure _
  · obtain ⟨more, left, here, later⟩ := gives_bind_iff.mp gives
    cases more with
    | false => cases later
    | true =>
      obtain ⟨tail, rfl⟩ := gives_moreMembers_true here
      obtain ⟨_, _, ⟨⟩, named⟩ := gives_bind_iff.mp later
      obtain ⟨name, left, read, value⟩ := gives_bind_iff.mp named
      obtain ⟨_, _, taken, ⟨⟩⟩ := gives_bind_iff.mp value
      exact Nat.lt_of_le_of_lt (Nat.le_trans ((each name s.2).length_le taken)
        (repeats_text.length_le read)) ((repeats_moreMembers _).length_le here)

theorem closedBy_members (each : ∀ name s, (member name s).RepeatedBy (member' name s)) (s : σ) :
    (members member s).ClosedBy (members member' s) := by
  intro input final rest gives
  obtain ⟨_, _, ⟨⟩, walked⟩ := gives_bind_iff.mp gives
  obtain ⟨final, left, inside, closed⟩ := gives_bind_iff.mp walked
  obtain ⟨_, left, close, ⟨⟩⟩ := gives_bind_iff.mp closed
  obtain ⟨front, rfl, again⟩ := boundedBy_membersFrom each _ (true, s) inside
  obtain ⟨back, filled, rfl, closeAgain⟩ := closedBy_endObject close
  refine ⟨front ++ back, List.append_ne_nil_of_right_ne_nil _ filled, (List.append_assoc ..).symm,
    fun other => ?_⟩
  rw [List.append_assoc]
  refine (gives_bound _).bind ((again _ (head?_append_of_ne_nil filled rest other) _ ?_).bind
    ((closeAgain other).bind (gives_pure _ other)))
  rw [List.length_append]
  omega

end Members

end RackInventory.Json
