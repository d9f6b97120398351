import Mathlib.Data.List.TakeWhile
import RackInventory.Proofs.Json.Reading

/-!
# What follows does not matter

A reader that takes the front of some bytes looks at one byte behind it at most. Where the front stands
before another rest that starts with the same byte, it is taken again for the same value; and where a
closing mark is taken last, the rest can be any at all. The walks bound their steps by the number of
bytes left, which depends on the rest, so they are described with every bound that is large enough.

This is about what is taken. What is refused, and why, can depend on everything that follows.
-/

namespace RackInventory.Json.Reader

variable {α β : Type} {r r' : Reader α} {input rest left : Bytes} {a : α}

theorem gives_bind_iff {f : α → Reader β} {b : β} :
    (r >>= f).Gives input b rest ↔ ∃ a left, r.Gives input a left ∧ (f a).Gives left b rest := by
  constructor
  · intro both
    cases first : r.run input with
    | error e =>
      rw [Gives, StateT.run_bind, first] at both
      cases both
    | ok taken =>
      have here : r.Gives input taken.1 taken.2 := first
      rw [Gives, here.run_bind] at both
      exact ⟨taken.1, taken.2, first, both⟩
  · rintro ⟨a, left, first, second⟩
    exact first.bind second

theorem Gives.rest_unique {b : α} (first : r.Gives input a rest) (second : r.Gives input b left) :
    rest = left :=
  (Prod.mk.inj (Except.ok.inj (first.symm.trans second))).2

/-- What one reader takes from the front, another takes for the same value before every rest that
starts in the same way. -/
def RepeatedBy (r r' : Reader α) : Prop :=
  ∀ ⦃input a rest⦄, r.Gives input a rest → ∃ front, input = front ++ rest ∧
    ∀ other : Bytes, other.head? = rest.head? → r'.Gives (front ++ other) a other

/-- What a reader takes does not depend on what follows the next byte. -/
def Repeats (r : Reader α) : Prop := r.RepeatedBy r

/-- What one reader takes from the front, another takes for the same value before every rest. -/
def ClosedBy (r r' : Reader α) : Prop :=
  ∀ ⦃input a rest⦄, r.Gives input a rest → ∃ front, front ≠ [] ∧ input = front ++ rest ∧
    ∀ other, r'.Gives (front ++ other) a other

/-- What one reader takes from the front, a walk takes with every bound above the number of bytes
taken. -/
def BoundedBy (r : Reader α) (walk : Nat → Reader α) : Prop :=
  ∀ ⦃input a rest⦄, r.Gives input a rest → ∃ front, input = front ++ rest ∧
    ∀ other : Bytes, other.head? = rest.head? → ∀ fuel, front.length < fuel →
      (walk fuel).Gives (front ++ other) a other

/-- A step that repeats and takes something, if there is anything. -/
structure Advances (r : Reader α) : Prop where
  repeats : r.Repeats
  takes : ∀ ⦃b left a rest⦄, r.Gives (b :: left) a rest → rest.length ≤ left.length

/-- Nothing is taken, and what is given does not depend on what there is. -/
def Stays (r : Reader α) : Prop :=
  ∀ ⦃input a rest⦄, r.Gives input a rest → rest = input ∧ ∀ other, r.Gives other a other

/-- Nothing is given, whatever there is. -/
def Fails (r : Reader α) : Prop := ∀ ⦃input a rest⦄, ¬ r.Gives input a rest

theorem head?_append_congr {other : Bytes} (same : other.head? = rest.head?) (front : Bytes) :
    (front ++ other).head? = (front ++ rest).head? := by
  rw [List.head?_append, List.head?_append, same]

theorem head?_append_of_ne_nil {front : Bytes} (filled : front ≠ []) (rest other : Bytes) :
    (front ++ other).head? = (front ++ rest).head? := by
  cases front with
  | nil => exact absurd rfl filled
  | cons b front => rfl

theorem RepeatedBy.bind {f f' : α → Reader β} (first : r.RepeatedBy r')
    (second : ∀ a, (f a).RepeatedBy (f' a)) : (r >>= f).RepeatedBy (r' >>= f') := by
  intro input b rest both
  obtain ⟨a, left, here, later⟩ := gives_bind_iff.mp both
  obtain ⟨front, rfl, again⟩ := first here
  obtain ⟨back, rfl, more⟩ := second a later
  refine ⟨front ++ back, (List.append_assoc ..).symm, fun other same => ?_⟩
  rw [List.append_assoc]
  exact (again (back ++ other) (head?_append_congr same back)).bind (more other same)

theorem RepeatedBy.bind_closed {f f' : α → Reader β} (first : r.RepeatedBy r')
    (second : ∀ a, (f a).ClosedBy (f' a)) : (r >>= f).ClosedBy (r' >>= f') := by
  intro input b rest both
  obtain ⟨a, left, here, later⟩ := gives_bind_iff.mp both
  obtain ⟨front, rfl, again⟩ := first here
  obtain ⟨back, filled, rfl, more⟩ := second a later
  refine ⟨front ++ back, List.append_ne_nil_of_right_ne_nil _ filled, (List.append_assoc ..).symm,
    fun other => ?_⟩
  rw [List.append_assoc]
  exact (again (back ++ other) (head?_append_of_ne_nil filled rest other)).bind (more other)

theorem ClosedBy.bind {f : α → Reader β} (first : r.ClosedBy r') (second : ∀ a, (f a).Stays) :
    (r >>= f).ClosedBy (r' >>= f) := by
  intro input b rest both
  obtain ⟨a, left, here, later⟩ := gives_bind_iff.mp both
  obtain ⟨rfl, still⟩ := second a later
  obtain ⟨front, filled, eq, again⟩ := first here
  exact ⟨front, filled, eq, fun other => (again other).bind (still other)⟩

theorem ClosedBy.repeatedBy (h : r.ClosedBy r') : r.RepeatedBy r' := by
  intro input a rest gives
  obtain ⟨front, -, eq, again⟩ := h gives
  exact ⟨front, eq, fun other _ => again other⟩

theorem BoundedBy.bind {walk : Nat → Reader α} {f f' : α → Reader β} (first : r.BoundedBy walk)
    (second : ∀ a, (f a).RepeatedBy (f' a)) : (r >>= f).BoundedBy fun fuel => walk fuel >>= f' := by
  intro input b rest both
  obtain ⟨a, left, here, later⟩ := gives_bind_iff.mp both
  obtain ⟨front, rfl, again⟩ := first here
  obtain ⟨back, rfl, more⟩ := second a later
  refine ⟨front ++ back, (List.append_assoc ..).symm, fun other same fuel enough => ?_⟩
  rw [List.length_append] at enough
  rw [List.append_assoc]
  exact (again (back ++ other) (head?_append_congr same back) fuel
    (Nat.lt_of_le_of_lt (Nat.le_add_right ..) enough)).bind (more other same)

/-- A walk in steps, each of which takes something unless it is the last. The induction is on the bound
of the walk that is given. -/
theorem boundedBy_walk {σ : Type} (walk walk' : σ → Nat → Reader α) {step step' : σ → Reader (σ ⊕ α)}
    (zero : ∀ s, (walk s 0).Fails)
    (succ : ∀ s n, walk s (n + 1) = step s >>= Sum.elim (walk · n) pure)
    (succ' : ∀ s n, walk' s (n + 1) = step' s >>= Sum.elim (walk' · n) pure)
    (again : ∀ s, (step s).RepeatedBy (step' s))
    (onwards : ∀ ⦃s input t rest⦄, (step s).Gives input (.inl t) rest → rest.length < input.length)
    (fuel : Nat) (s : σ) : (walk s fuel).BoundedBy (walk' s) := by
  induction fuel generalizing s with
  | zero => exact fun _ _ _ gives => (zero s gives).elim
  | succ n ih =>
    intro input a rest gives
    rw [succ] at gives
    obtain ⟨t | b, left, here, later⟩ := gives_bind_iff.mp gives
    · have less := onwards here
      obtain ⟨front, rfl, first⟩ := again s here
      obtain ⟨back, rfl, more⟩ := ih t later
      refine ⟨front ++ back, (List.append_assoc ..).symm, fun other same fuel enough => ?_⟩
      rw [@List.length_append _ front] at less
      rw [List.length_append] at enough
      obtain ⟨fuel, rfl⟩ := Nat.exists_eq_succ_of_ne_zero (Nat.ne_zero_of_lt enough)
      rw [succ', List.append_assoc]
      exact (first _ (head?_append_congr same back)).bind (more other same fuel (by omega))
    · obtain ⟨front, rfl, first⟩ := again s here
      cases later
      refine ⟨front, rfl, fun other same fuel enough => ?_⟩
      obtain ⟨fuel, rfl⟩ := Nat.exists_eq_succ_of_ne_zero (Nat.ne_zero_of_lt enough)
      rw [succ']
      exact (first other same).bind (gives_pure _ other)

/-- The number of bytes left bounds a walk. -/
theorem BoundedBy.repeatedBy {walk walk' : Nat → Reader α} (h : ∀ fuel, (walk fuel).BoundedBy walk') :
    (bound >>= walk).RepeatedBy (bound >>= walk') := by
  intro input a rest gives
  obtain ⟨_, _, ⟨⟩, walked⟩ := gives_bind_iff.mp gives
  obtain ⟨front, eq, again⟩ := h _ walked
  refine ⟨front, eq, fun other same => (gives_bound _).bind (again other same _ ?_)⟩
  rw [List.length_append]
  omega

theorem Fails.repeatedBy (h : r.Fails) : r.RepeatedBy r' := fun _ _ _ gives => (h gives).elim

theorem Fails.closedBy (h : r.Fails) : r.ClosedBy r' := fun _ _ _ gives => (h gives).elim

theorem fails_bind {f : α → Reader β} (second : ∀ a, (f a).Fails) : (r >>= f).Fails := by
  intro input b rest both
  obtain ⟨a, left, -, later⟩ := gives_bind_iff.mp both
  exact second a later

theorem Repeats.bind {f : α → Reader β} (first : r.Repeats) (second : ∀ a, (f a).Repeats) :
    (r >>= f).Repeats :=
  RepeatedBy.bind first second

theorem Repeats.again (gives : r.Gives input a rest) (h : r.Repeats) :
    ∃ front, input = front ++ rest ∧
      ∀ other : Bytes, other.head? = rest.head? → r.Gives (front ++ other) a other :=
  h gives

theorem RepeatedBy.gives (h : r.RepeatedBy r') (gives : r.Gives input a rest) :
    r'.Gives input a rest := by
  obtain ⟨front, rfl, again⟩ := h gives
  exact again rest rfl

theorem RepeatedBy.length_le (h : r.RepeatedBy r') (gives : r.Gives input a rest) :
    rest.length ≤ input.length := by
  obtain ⟨front, rfl, -⟩ := h gives
  rw [List.length_append]
  exact Nat.le_add_left ..

theorem Advances.bind {f : α → Reader β} (first : r.Advances) (second : ∀ a, (f a).Repeats) :
    (r >>= f).Advances where
  repeats := first.repeats.bind second
  takes b left c rest both := by
    obtain ⟨a, middle, here, later⟩ := gives_bind_iff.mp both
    exact Nat.le_trans ((second a).length_le later) (first.takes here)

theorem Advances.length_lt (h : r.Advances) (empty : ∀ a rest, ¬ r.Gives [] a rest)
    (gives : r.Gives input a rest) : rest.length < input.length := by
  cases input with
  | nil => exact absurd gives (empty a rest)
  | cons b left => exact Nat.lt_succ_of_le (h.takes gives)

theorem repeats_pure (a : α) : (pure a : Reader α).Repeats := by
  rintro input _ rest ⟨⟩
  exact ⟨[], rfl, fun other _ => rfl⟩

theorem stays_pure (a : α) : (pure a : Reader α).Stays := by
  rintro input _ rest ⟨⟩
  exact ⟨rfl, fun _ => rfl⟩

theorem Fails.stays (h : r.Fails) : r.Stays := fun _ _ _ gives => (h gives).elim

theorem fails_fail (cause : SyntaxError) : (fail cause : Reader α).Fails := fun _ _ _ => nofun

theorem fails_refuse (cause : DecodeError) : (refuse cause : Reader α).Fails := fun _ _ _ => nofun

@[simp] theorem fail_bind (cause : SyntaxError) (f : α → Reader β) :
    (fail cause >>= f) = fail cause := rfl

theorem repeats_fail (cause : SyntaxError) : (fail cause : Reader α).Repeats :=
  (fails_fail cause).repeatedBy

theorem repeats_refuse (cause : DecodeError) : (refuse cause : Reader α).Repeats :=
  (fails_refuse cause).repeatedBy

/-- A step that is made only sometimes. -/
theorem Repeats.sometimes {step : Reader PUnit} (h : r.Repeats) (first : step.Repeats) (p : Prop)
    [Decidable p] : (if p then step >>= fun _ => r else r).Repeats := by
  split
  · exact first.bind fun _ => h
  · exact h

theorem gives_peek_iff {c : Option Char} :
    peek.Gives input c rest ↔ c = input.head?.map asChar ∧ rest = input := by
  change Except.ok (input.head?.map asChar, input) = .ok (c, rest) ↔ _
  rw [Except.ok.injEq, Prod.mk.injEq]
  exact and_congr eq_comm eq_comm

theorem repeats_peek : peek.Repeats := by
  intro input c rest gives
  obtain ⟨rfl, rfl⟩ := gives_peek_iff.mp gives
  exact ⟨[], rfl, fun other same => gives_peek_iff.mpr ⟨by rw [List.nil_append, same], rfl⟩⟩

theorem repeats_advance : advance.Repeats := by
  rintro (_ | ⟨b, left⟩) _ rest ⟨⟩
  · refine ⟨[], rfl, fun other same => ?_⟩
    obtain rfl : other = [] := List.head?_eq_none_iff.mp same
    rfl
  · exact ⟨[b], rfl, fun other _ => rfl⟩

theorem advances_advance : advance.Advances where
  repeats := repeats_advance
  takes b left _ rest gives := by
    cases gives
    exact Nat.le_refl _

theorem repeats_next : next.Repeats :=
  repeats_peek.bind fun _ => repeats_advance.bind fun _ => repeats_pure _

theorem advances_next : next.Advances where
  repeats := repeats_next
  takes b left _ rest gives := by
    cases gives
    exact Nat.le_refl _

theorem advances_fail (cause : SyntaxError) : (fail cause : Reader α).Advances where
  repeats := repeats_fail cause
  takes _ _ _ _ gives := (fails_fail cause gives).elim

/-- Bytes between the parts of a document. -/
def Blank (bytes : Bytes) : Prop := ∀ b ∈ bytes, isSpace b = true

theorem dropWhile_blank {blanks : Bytes} (blank : Blank blanks)
    (full : ∀ b ∈ rest.head?, isSpace b = false) : (blanks ++ rest).dropWhile isSpace = rest := by
  rw [List.dropWhile_append_of_pos blank]
  cases rest with
  | nil => rfl
  | cons b rest => exact List.dropWhile_cons_of_neg (by simp [full b rfl])

theorem gives_peekToken_iff {c : Option Char} :
    peekToken.Gives input c rest ↔ c = rest.head?.map asChar ∧
      (∀ b ∈ rest.head?, isSpace b = false) ∧ ∃ blanks, Blank blanks ∧ input = blanks ++ rest := by
  change peek.Gives (input.dropWhile isSpace) c rest ↔ _
  rw [gives_peek_iff]
  constructor
  · rintro ⟨rfl, rfl⟩
    refine ⟨rfl, fun b first => ?_, input.takeWhile isSpace, fun b mem => List.mem_takeWhile_imp mem,
      List.takeWhile_append_dropWhile.symm⟩
    have stops := List.head?_dropWhile_not isSpace input
    rw [Option.mem_def.mp first] at stops
    exact stops
  · rintro ⟨rfl, full, blanks, blank, rfl⟩
    rw [dropWhile_blank blank full]
    exact ⟨rfl, rfl⟩

/-- A mark is next. -/
theorem exists_cons_of_token {b : UInt8} (next : left.head?.map asChar = some (asChar b)) :
    ∃ tail, left = b :: tail := by
  obtain ⟨c, first, same⟩ := Option.map_eq_some_iff.mp next
  obtain rfl := asChar_inj same
  exact List.head?_eq_some_iff.mp first

/-- What is read after white space. -/
theorem gives_token_iff {f : Option Char → Reader β} {b : β} :
    (peekToken >>= f).Gives input b rest ↔ ∃ blanks left, Blank blanks ∧ input = blanks ++ left ∧
      (∀ b ∈ left.head?, isSpace b = false) ∧ (f (left.head?.map asChar)).Gives left b rest := by
  rw [gives_bind_iff]
  constructor
  · rintro ⟨c, left, token, later⟩
    obtain ⟨rfl, full, blanks, blank, rfl⟩ := gives_peekToken_iff.mp token
    exact ⟨blanks, left, blank, rfl, full, later⟩
  · rintro ⟨blanks, left, blank, rfl, full, later⟩
    exact ⟨_, left, gives_peekToken_iff.mpr ⟨rfl, full, blanks, blank, rfl⟩, later⟩

/-- White space in front of a token is passed over. -/
theorem run_token_blank {f : Option Char → Reader β} {blanks : Bytes} (blank : Blank blanks)
    (input : Bytes) : (peekToken >>= f).run (blanks ++ input) = (peekToken >>= f).run input := by
  have same : peekToken.run (blanks ++ input) = peekToken.run input := by
    change peek.run ((blanks ++ input).dropWhile isSpace) = peek.run (input.dropWhile isSpace)
    rw [List.dropWhile_append_of_pos blank]
  rw [StateT.run_bind, StateT.run_bind, same]

theorem repeats_peekToken : peekToken.Repeats := by
  intro input c rest gives
  obtain ⟨rfl, full, blanks, blank, rfl⟩ := gives_peekToken_iff.mp gives
  refine ⟨blanks, rfl, fun other same => gives_peekToken_iff.mpr ⟨by rw [same], ?_, blanks, blank, rfl⟩⟩
  rwa [same]

theorem advances_token {f : Option Char → Reader β} (some : ∀ c, (f (some c)).Advances)
    (none : (f none).Repeats) : (peekToken >>= f).Advances where
  repeats := repeats_peekToken.bind fun c => by
    cases c with
    | none => exact none
    | some c => exact (some c).repeats
  takes b input c rest gives := by
    obtain ⟨blanks, left, -, eq, -, last⟩ := gives_token_iff.mp gives
    have whole : input.length + 1 = blanks.length + left.length := by
      rw [← List.length_append, ← eq, List.length_cons]
    cases left with
    | nil => exact Nat.le_trans (none.length_le last) (Nat.zero_le _)
    | cons d left =>
      have taken := (some _).takes last
      rw [List.length_cons] at whole
      omega

/-- A mark is taken behind white space. -/
theorem gives_mark_iff {f : Option Char → Reader Unit} {mark : UInt8}
    (here : f (some (asChar mark)) = advance) (full : isSpace mark = false)
    (others : ∀ ⦃c⦄, c ≠ some (asChar mark) → (f c).Fails) :
    (peekToken >>= f).Gives input () rest ↔ ∃ blanks, Blank blanks ∧ input = blanks ++ mark :: rest := by
  rw [gives_token_iff]
  constructor
  · rintro ⟨blanks, left, blank, rfl, -, last⟩
    by_cases marked : left.head?.map asChar = some (asChar mark)
    · obtain ⟨tail, rfl⟩ := exists_cons_of_token marked
      rw [marked, here] at last
      cases last
      exact ⟨blanks, blank, rfl⟩
    · exact (others marked last).elim
  · rintro ⟨blanks, blank, rfl⟩
    exact ⟨blanks, _, blank, rfl, by rintro _ ⟨⟩; exact full, here ▸ gives_advance mark rest⟩

/-- What ends with a mark does not depend on what follows. -/
theorem closedBy_of_mark {close : Reader Unit} {mark : UInt8} (h : ∀ {input rest}, close.Gives input () rest ↔
    ∃ blanks, Blank blanks ∧ input = blanks ++ mark :: rest) : close.ClosedBy close := by
  intro input _ rest gives
  obtain ⟨blanks, blank, rfl⟩ := h.mp gives
  exact ⟨blanks ++ [mark], List.append_ne_nil_of_right_ne_nil _ (List.cons_ne_nil _ _),
    by rw [List.append_assoc]; rfl,
    fun other => h.mpr ⟨blanks, blank, by rw [List.append_assoc]; rfl⟩⟩

theorem repeats_takeDigits : takeDigits.Repeats := by
  rintro input _ rest ⟨⟩
  refine ⟨input.takeWhile isDigit, List.takeWhile_append_dropWhile.symm, fun other same => ?_⟩
  have digits : ∀ b ∈ input.takeWhile isDigit, isDigit b = true := fun b mem => List.mem_takeWhile_imp mem
  have stop : other.takeWhile isDigit = [] ∧ other.dropWhile isDigit = other := by
    cases other with
    | nil => exact ⟨rfl, rfl⟩
    | cons b other =>
      have ends := List.head?_dropWhile_not isDigit input
      rw [← same] at ends
      have no : ¬ isDigit b = true := by simpa using ends
      exact ⟨List.takeWhile_cons_of_neg no, List.dropWhile_cons_of_neg no⟩
  have run : takeDigits.run (input.takeWhile isDigit ++ other) =
      .ok (((input.takeWhile isDigit ++ other).takeWhile isDigit).map (fun b => b.toNat - 0x30),
        (input.takeWhile isDigit ++ other).dropWhile isDigit) := rfl
  rw [Gives, run, List.takeWhile_append_of_pos digits, List.dropWhile_append_of_pos digits, stop.1,
    stop.2, List.append_nil]

/-- Something is taken where digits must follow. -/
theorem advances_digits {f : List Nat → Reader β} (each : ∀ ds, (f ds).Repeats)
    (none : (f []).Fails) : (takeDigits >>= f).Advances where
  repeats := repeats_takeDigits.bind each
  takes b left c rest gives := by
    obtain ⟨_, _, ⟨⟩, later⟩ := gives_bind_iff.mp gives
    by_cases digit : isDigit b = true
    · have less := (each _).length_le later
      rw [List.dropWhile_cons_of_pos digit] at less
      exact Nat.le_trans less (List.length_dropWhile_le ..)
    · rw [List.takeWhile_cons_of_neg digit] at later
      exact (none later).elim

theorem repeats_word (cs : List Char) : (word cs).Repeats := by
  induction cs with
  | nil => exact repeats_pure ()
  | cons c cs ih =>
    refine repeats_next.bind fun d => ?_
    split
    · exact repeats_fail _
    · split
      · exact ih
      · exact repeats_fail _

theorem repeats_colon : colon.Repeats := by
  refine repeats_peekToken.bind fun c => ?_
  split
  · exact repeats_advance
  · exact repeats_fail _
  · exact repeats_fail _

end RackInventory.Json.Reader
