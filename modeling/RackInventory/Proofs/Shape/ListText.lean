import Mathlib.Data.List.Forall2
import RackInventory.Proofs.Shape.Locality

/-!
# The text of a list of records

A document is read as a list of records exactly when it is written as one: between brackets stand texts
apart by commas, and each of them is read on its own as the element in its place. So one bad element
anywhere spoils the whole list, and nothing else does.

Where a record starts and ends is told by its brackets; a list of numbers would need another argument,
as digits can run on.
-/

namespace RackInventory

open Json Reader

namespace Json.Reader

theorem runWhole_eq_ok_iff {α : Type} {r : Reader α} {bytes : Bytes} {a : α} :
    runWhole r bytes = .ok a ↔ ∃ rest, Blank rest ∧ r.Gives bytes a rest := by
  have blank_iff : ∀ rest : Bytes, (rest.dropWhile isSpace).isEmpty = true ↔ Blank rest := by
    intro rest
    rw [List.isEmpty_iff, List.dropWhile_eq_nil_iff]
    rfl
  cases taken : r.run bytes with
  | error e =>
    rw [runWhole, taken]
    refine iff_of_false (fun eq => ?_) ?_
    · cases eq
    · rintro ⟨rest, -, gives⟩
      cases taken.symm.trans gives
  | ok pair =>
    obtain ⟨b, left⟩ := pair
    have given : r.Gives bytes b left := taken
    have run : runWhole r bytes =
        if (left.dropWhile isSpace).isEmpty then .ok b else .error (.malformed .trailingCharacters) := by
      rw [runWhole, taken]
      rfl
    rw [run]
    constructor
    · intro whole
      split at whole
      · cases whole
        exact ⟨left, (blank_iff left).mp ‹_›, given⟩
      · cases whole
    · rintro ⟨rest, blank, gives⟩
      cases given.symm.trans gives
      rw [if_pos ((blank_iff left).mpr blank)]

/-- A reader of something that stands between brackets. -/
structure Bracketed {α : Type} (r : Reader α) : Prop where
  closed : r.ClosedBy r
  opened : ∀ ⦃input a rest⦄, r.Gives input a rest →
    ∃ blanks left, Blank blanks ∧ input = blanks ++ left ∧ Opens left
  skips : ∀ ⦃blanks input a rest⦄, Blank blanks →
    (r.Gives (blanks ++ input) a rest ↔ r.Gives input a rest)

section Bracketed

variable {α : Type} {r : Reader α} (item : r.Bracketed)

include item

/-- What is read on its own is taken from its place, whatever follows. -/
theorem Bracketed.exists_front {piece : Bytes} {a : α} (whole : runWhole r piece = .ok a) :
    ∃ blanks front back, Blank blanks ∧ Blank back ∧ piece = blanks ++ (front ++ back) ∧
      ∀ other, Opens (front ++ other) ∧ r.Gives (front ++ other) a other := by
  obtain ⟨back, blank', gives⟩ := runWhole_eq_ok_iff.mp whole
  obtain ⟨blanks, left, blank, rfl, b, tail, first, full, inside⟩ := item.opened gives
  obtain ⟨front, filled, rfl, again⟩ := item.closed ((item.skips blank).mp gives)
  refine ⟨blanks, front, back, blank, blank', rfl, fun other => ⟨?_, again other⟩⟩
  obtain ⟨c, more, rfl⟩ := List.exists_cons_of_ne_nil filled
  obtain rfl := List.head_eq_of_cons_eq first
  exact ⟨c, more ++ other, rfl, full, inside⟩

/-- What is taken from a place between white space is read on its own. -/
theorem Bracketed.whole {blanks front back rest : Bytes} {a : α} (blank : Blank blanks)
    (blank' : Blank back) (gives : r.Gives (front ++ rest) a rest) :
    runWhole r (blanks ++ (front ++ back)) = .ok a := by
  obtain ⟨front', -, eq, again⟩ := item.closed gives
  obtain rfl := List.append_cancel_right eq
  exact runWhole_eq_ok_iff.mpr ⟨back, blank', (item.skips blank).mpr (again back)⟩

end Bracketed

end Json.Reader

namespace Json

section Lists

variable {α : Type} {r : Reader α} {input rest : Bytes} {all : List α}

/-- Texts that are read as the elements of a list, each on its own. -/
def Pieces (r : Reader α) (pieces : List Bytes) (all : List α) : Prop :=
  List.Forall₂ (fun piece a => runWhole r piece = .ok a) pieces all

def withCommas (pieces : List Bytes) : Bytes := pieces.flatMap (0x2C :: ·)

theorem intercalate_eq (piece : Bytes) (pieces : List Bytes) :
    [0x2C].intercalate (piece :: pieces) = piece ++ withCommas pieces := by
  induction pieces generalizing piece with
  | nil => simp [withCommas]
  | cons next pieces ih =>
    rw [List.intercalate_cons_cons, ih]
    simp [withCommas]

/-- The items behind another one. -/
theorem exists_pieces_of_itemsFrom (item : r.Bracketed) {fuel : Nat}
    (gives : (itemsFrom r false fuel).Gives input all rest) :
    (∃ tail, rest = 0x5D :: tail) ∧ ∃ blanks pieces, Blank blanks ∧ Pieces r pieces all ∧
      input = blanks ++ (withCommas pieces ++ rest) := by
  induction fuel generalizing input all with
  | zero => exact (fails_fail _ gives).elim
  | succ n ih =>
    obtain ⟨more, left, here, later⟩ := gives_bind_iff.mp gives
    cases more with
    | false =>
      cases later
      obtain ⟨closed, blanks, blank, rfl⟩ := gives_moreItems_end_iff.mp here
      exact ⟨closed, blanks, [], blank, .nil, rfl⟩
    | true =>
      obtain ⟨-, before, after, blank, blank', rfl⟩ := gives_moreItems_next_iff.mp here
      obtain ⟨a, left, value, later⟩ := gives_bind_iff.mp later
      obtain ⟨as, left, others, ⟨⟩⟩ := gives_bind_iff.mp later
      obtain ⟨closed, blanks, pieces, blank'', each, rfl⟩ := ih others
      obtain ⟨front, -, rfl, -⟩ := item.closed value
      refine ⟨closed, before, (after ++ (front ++ blanks)) :: pieces, blank,
        .cons (item.whole blank' blank'' value) each, ?_⟩
      simp [withCommas]

theorem gives_itemsFrom_of_pieces (item : r.Bracketed) {pieces : List Bytes} (each : Pieces r pieces all)
    {blanks : Bytes} (blank : Blank blanks) {fuel : Nat} (enough : pieces.length < fuel)
    (tail : Bytes) :
    (itemsFrom r false fuel).Gives (blanks ++ (withCommas pieces ++ 0x5D :: tail)) all (0x5D :: tail) := by
  induction each generalizing blanks fuel with
  | nil =>
    obtain ⟨fuel, rfl⟩ := Nat.exists_eq_succ_of_ne_zero (Nat.ne_zero_of_lt enough)
    exact (gives_moreItems_end_iff.mpr ⟨⟨tail, rfl⟩, blanks, blank, rfl⟩).bind (gives_pure [] _)
  | @cons piece a pieces as whole _ ih =>
    obtain ⟨fuel, rfl⟩ := Nat.exists_eq_succ_of_ne_zero (Nat.ne_zero_of_lt enough)
    obtain ⟨before, front, back, blank', blank'', rfl, again⟩ := item.exists_front whole
    obtain ⟨opens, value⟩ := again (back ++ (withCommas pieces ++ 0x5D :: tail))
    have others := ih blank'' (Nat.lt_of_succ_lt_succ enough)
    refine Gives.bind (gives_moreItems_next_iff.mpr ⟨opens, blanks, before, blank, blank', ?_⟩)
      (value.bind (others.bind (gives_pure _ _)))
    simp [withCommas]

theorem length_le_withCommas (pieces : List Bytes) : pieces.length ≤ (withCommas pieces).length := by
  induction pieces with
  | nil => exact Nat.le_refl _
  | cons piece pieces ih =>
    rw [withCommas] at ih
    rw [withCommas, List.flatMap_cons, List.length_append, List.length_cons, List.length_cons]
    omega

/-- The items of a list behind its opening bracket, and the bracket that closes it. -/
theorem gives_items_iff (item : r.Bracketed) : (items r).Gives input all rest ↔
    ∃ inside, input = inside ++ 0x5D :: rest ∧ (Blank inside ∧ all = [] ∨
      ∃ pieces, inside = [0x2C].intercalate pieces ∧ Pieces r pieces all) := by
  constructor
  · intro gives
    obtain ⟨_, _, ⟨⟩, walked⟩ := gives_bind_iff.mp gives
    obtain ⟨all, left, first, closed⟩ := gives_bind_iff.mp walked
    obtain ⟨_, left, close, ⟨⟩⟩ := gives_bind_iff.mp closed
    obtain ⟨more, left, here, later⟩ := gives_bind_iff.mp first
    cases more with
    | false =>
      cases later
      obtain ⟨⟨tail, rfl⟩, blanks, blank, rfl⟩ := gives_moreItems_end_iff.mp here
      obtain rfl : _ = tail := close.rest_unique rfl
      exact ⟨blanks, rfl, .inl ⟨blank, rfl⟩⟩
    | true =>
      obtain ⟨-, before, blank, rfl⟩ := gives_moreItems_first_iff.mp here
      obtain ⟨a, left, value, later⟩ := gives_bind_iff.mp later
      obtain ⟨as, left, others, ⟨⟩⟩ := gives_bind_iff.mp later
      obtain ⟨⟨tail, rfl⟩, blanks, pieces, blank', each, rfl⟩ := exists_pieces_of_itemsFrom item others
      obtain ⟨front, -, rfl, -⟩ := item.closed value
      obtain rfl : _ = tail := close.rest_unique rfl
      refine ⟨[0x2C].intercalate ((before ++ (front ++ blanks)) :: pieces), ?_,
        .inr ⟨_, rfl, .cons (item.whole blank blank' value) each⟩⟩
      simp [intercalate_eq]
  · have close : endList.Gives (0x5D :: rest) () rest := rfl
    have blankCase {blanks : Bytes} (blank : Blank blanks) :
        (items r).Gives (blanks ++ 0x5D :: rest) [] rest :=
      (gives_bound _).bind (Gives.bind
        ((gives_moreItems_end_iff.mpr ⟨⟨rest, rfl⟩, blanks, blank, rfl⟩).bind (gives_pure [] _))
        (close.bind (gives_pure _ rest)))
    rintro ⟨inside, rfl, ⟨blank, rfl⟩ | ⟨_, rfl, each⟩⟩
    · exact blankCase blank
    cases each with
    | nil => exact @blankCase [] fun _ mem => nomatch mem
    | @cons piece a pieces as whole each =>
      obtain ⟨before, front, back, blank, blank', rfl, again⟩ := item.exists_front whole
      obtain ⟨opens, value⟩ := again (back ++ (withCommas pieces ++ 0x5D :: rest))
      have short := length_le_withCommas pieces
      rw [intercalate_eq]
      simp only [List.append_assoc]
      refine (gives_bound _).bind (Gives.bind (Gives.bind
        (gives_moreItems_first_iff.mpr ⟨opens, before, blank, rfl⟩)
        (value.bind ((gives_itemsFrom_of_pieces item each blank' ?_ rest).bind (gives_pure _ _))))
        (close.bind (gives_pure _ rest)))
      simp only [List.length_append, List.length_cons]
      omega

end Lists

end Json

namespace Shape

/-- Whether values are written as records are. -/
def IsRecord : {α : Type} → Shape α → Prop
  | _, .record _ _ => True
  | _, .map s _ _ _ => s.IsRecord
  | _, _ => False

theorem closedBy_read : ∀ {α : Type} {s : Shape α}, s.IsRecord → ∀ {depth depth' : Nat},
    s.height < depth' → (s.read depth).ClosedBy (s.read depth')
  | _, .record name fields, _, _, _, deep =>
    closedBy_readRecord name fields (Nat.lt_of_le_of_lt (Nat.le_add_left ..) deep)
      (fields.repeatedBy_readItems _ _ _ (Nat.lt_sub_of_add_lt deep))
      fun _ _ => fields.repeatedBy_readMember _ _ (Nat.lt_sub_of_add_lt deep)
  | _, .map s _ _ _, isRecord, _, _, deep =>
    (closedBy_read (s := s) isRecord deep).bind fun _ => stays_pure _

theorem bracketed_read : ∀ {α : Type} {s : Shape α}, s.IsRecord → ∀ {depth : Nat},
    s.height < depth → (s.read depth).Bracketed
  | _, .record name fields, isRecord, depth, deep => by
    refine ⟨closedBy_read isRecord deep, fun input a rest gives => ?_, fun blanks input a rest blank => ?_⟩
    · rw [Shape.read, peekValue, bind_assoc] at gives
      obtain ⟨blanks, left, blank, rfl, full, later⟩ := gives_token_iff.mp gives
      refine ⟨blanks, left, blank, rfl, ?_⟩
      cases left with
      | nil => cases later
      | cons b tail =>
        refine ⟨b, tail, rfl, full b rfl, ?_⟩
        rintro rfl
        exact (fails_refuseType _ later).elim
    · rw [Shape.read, peekValue, bind_assoc, Gives, run_token_blank blank]
      rfl
  | _, .map s f _ _, isRecord, depth, deep => by
    have inner := bracketed_read (s := s) isRecord deep
    refine ⟨closedBy_read (s := .map s f _ _) isRecord deep, fun input b rest gives => ?_,
      fun blanks input b rest blank => ?_⟩
    · obtain ⟨_, _, here, -⟩ := gives_bind_iff.mp gives
      exact inner.opened here
    · rw [Shape.read, gives_bind_iff, gives_bind_iff]
      simp only [inner.skips blank]

/-- Whether some bytes are the text of a list: between brackets stand texts apart by commas, each of
which is read on its own as the element in its place. White space may stand around the brackets, and
between the brackets of an empty list. -/
def IsListText {α : Type} (item : Shape α) (bytes : Bytes) (all : List α) : Prop :=
  ∃ before inside after, Blank before ∧ Blank after ∧
    bytes = before ++ 0x5B :: (inside ++ 0x5D :: after) ∧
    (Blank inside ∧ all = [] ∨ ∃ pieces, inside = [0x2C].intercalate pieces ∧
      List.Forall₂ (fun piece a => item.parse piece = .ok a) pieces all)

theorem gives_readList_iff {α : Type} {item : Shape α} {depth : Nat} {input rest : Bytes}
    {all : List α} : ((Shape.list item).read (depth + 2)).Gives input all rest ↔
      ∃ before tail, Blank before ∧ input = before ++ 0x5B :: tail ∧
        (items (item.read (depth + 1))).Gives tail all rest := by
  rw [Shape.read, peekValue, bind_assoc, gives_token_iff]
  constructor
  · rintro ⟨before, left, blank, rfl, -, later⟩
    cases left with
    | nil => cases later
    | cons b tail =>
      by_cases mark : asChar b = '['
      · obtain rfl : b = 0x5B := asChar_inj mark
        exact ⟨before, tail, blank, rfl, later⟩
      · obtain ⟨_, _, ⟨⟩, refused⟩ := gives_bind_iff.mp later
        rw [if_neg mark] at refused
        exact (fails_refuseType _ refused).elim
  · rintro ⟨before, tail, blank, rfl, gives⟩
    exact ⟨before, _, blank, rfl, by rintro _ ⟨⟩; rfl, gives⟩

/-- An element is read on its own as it is read inside a list. -/
theorem runWhole_read_iff {α : Type} {item : Shape α} {depth : Nat} (deep : item.height < depth)
    (shallow : item.height < depthLimit) {piece : Bytes} {a : α} :
    runWhole (item.read depth) piece = .ok a ↔ item.parse piece = .ok a := by
  rw [Shape.parse, runWhole_eq_ok_iff, runWhole_eq_ok_iff]
  constructor
  · rintro ⟨rest, blank, gives⟩
    exact ⟨rest, blank, (item.repeatedBy_read shallow).gives gives⟩
  · rintro ⟨rest, blank, gives⟩
    exact ⟨rest, blank, (item.repeatedBy_read deep).gives gives⟩

/-- A document is read as a list of records when it is the text of one. -/
theorem parse_list_eq_ok_iff {α : Type} {item : Shape α} (isRecord : item.IsRecord)
    (shallow : item.height < 127) {bytes : Bytes} {all : List α} :
    (Shape.list item).parse bytes = .ok all ↔ item.IsListText bytes all := by
  have each {piece : Bytes} {a : α} :
      runWhole (item.read 127) piece = .ok a ↔ item.parse piece = .ok a :=
    runWhole_read_iff shallow (Nat.lt_succ_of_lt shallow)
  rw [Shape.parse, runWhole_eq_ok_iff]
  constructor
  · rintro ⟨after, blank', gives⟩
    obtain ⟨before, tail, blank, rfl, listed⟩ := gives_readList_iff.mp gives
    obtain ⟨inside, rfl, contents⟩ := (gives_items_iff (bracketed_read isRecord shallow)).mp listed
    refine ⟨before, inside, after, blank, blank', rfl, contents.imp_right ?_⟩
    rintro ⟨pieces, eq, read⟩
    exact ⟨pieces, eq, read.imp fun _ _ => each.mp⟩
  · rintro ⟨before, inside, after, blank, blank', rfl, contents⟩
    refine ⟨after, blank', gives_readList_iff.mpr ⟨before, _, blank, rfl,
      (gives_items_iff (bracketed_read isRecord shallow)).mpr ⟨inside, rfl, contents.imp_right ?_⟩⟩⟩
    rintro ⟨pieces, eq, read⟩
    exact ⟨pieces, eq, read.imp fun _ _ => each.mpr⟩

end Shape

end RackInventory
