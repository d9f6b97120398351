import Mathlib.Tactic.SplitIfs
import RackInventory.Json.Skip
import RackInventory.Proofs.Json.Locality
import RackInventory.Proofs.Json.Numerals

/-!
# Texts, numerals and values that are passed over

Reading a text or a numeral, and passing over a value, take the same front before every rest that
starts in the same way. The walks are put as walks in steps, each of which takes something.
-/

namespace RackInventory.Json

open Reader

theorem repeats_hexEscape : hexEscape.Repeats := by
  intro input n rest gives
  obtain ⟨_, _, ⟨⟩, second⟩ := gives_bind_iff.mp gives
  split at second
  · next a b c d tail =>
    obtain ⟨_, _, ⟨⟩, last⟩ := gives_bind_iff.mp second
    obtain ⟨front, rfl, again⟩ := Repeats.again last <| by
      split
      · exact repeats_pure _
      · exact repeats_fail _
    exact ⟨a :: b :: c :: d :: front, rfl, fun other same =>
      (gives_get _).bind ((gives_set _ _).bind (again other same))⟩
  · cases second

theorem repeats_textByte : textByte.Repeats := by
  refine repeats_next.bind fun c => ?_
  split
  · exact repeats_pure _
  · exact repeats_fail _

theorem repeats_unicodeEscape : unicodeEscape.Repeats := by
  refine repeats_hexEscape.bind fun n => ?_
  split
  · exact repeats_fail _
  split
  · exact repeats_pure _
  refine repeats_textByte.bind fun c => Repeats.sometimes ?_ (repeats_fail _) _
  refine repeats_textByte.bind fun d => Repeats.sometimes ?_ (repeats_fail _) _
  refine repeats_hexEscape.bind fun low => ?_
  split
  · exact repeats_fail _
  · exact repeats_pure _

theorem repeats_escaped : escaped.Repeats := by
  refine repeats_textByte.bind fun c => ?_
  split
  all_goals first
    | exact repeats_pure _
    | exact repeats_fail _
    | exact repeats_unicodeEscape.bind fun _ => repeats_pure _

/-- One step of reading a text: the bytes so far, or all of them. -/
def textStep (reversed : Bytes) : Reader (Bytes ⊕ Bytes) := do
  match ← get with
  | [] => fail .endInString
  | b :: rest =>
    set rest
    if b = 0x22 then pure (.inr reversed)
    else if b = 0x5C then do return .inl ((← escaped).reverse ++ reversed)
    else if b < 0x20 then fail .controlCharacter
    else pure (.inl (b :: reversed))

theorem textBytes_succ (reversed : Bytes) (n : Nat) :
    textBytes reversed (n + 1) = textStep reversed >>= Sum.elim (textBytes · n) pure := by
  rw [textBytes, textStep, bind_assoc]
  congr
  funext bytes
  split
  · rfl
  · simp only [bind_assoc]
    congr
    funext _
    split_ifs
    · simp
    · simp
    · rfl
    · simp

theorem advances_textStep (reversed : Bytes) : (textStep reversed).Advances := by
  have here (b : UInt8) : Repeats
      (if b = 0x22 then pure (.inr reversed)
        else if b = 0x5C then do return .inl ((← escaped).reverse ++ reversed)
        else if b < 0x20 then fail .controlCharacter
        else pure (.inl (b :: reversed)) : Reader (Bytes ⊕ Bytes)) := by
    split_ifs
    · exact repeats_pure _
    · exact repeats_escaped.bind fun _ => repeats_pure _
    · exact repeats_fail _
    · exact repeats_pure _
  constructor
  · rintro (_ | ⟨b, tail⟩) s rest gives
    · cases gives
    obtain ⟨front, rfl, again⟩ := here b gives
    exact ⟨b :: front, rfl, again⟩
  · exact fun b left s rest gives => (here b).length_le gives

theorem boundedBy_textBytes (fuel : Nat) (reversed : Bytes) :
    (textBytes reversed fuel).BoundedBy (textBytes reversed) :=
  boundedBy_walk textBytes textBytes (fun _ => fails_fail _) textBytes_succ textBytes_succ
    (fun _ => (advances_textStep _).repeats)
    (fun _ _ _ _ => (advances_textStep _).length_lt fun _ _ => nofun) fuel reversed

theorem repeats_text : text.Repeats := by
  refine BoundedBy.repeatedBy fun fuel => (boundedBy_textBytes fuel []).bind fun bytes => ?_
  split
  · exact repeats_pure _
  · exact repeats_fail _

theorem repeats_skipEscape : skipEscape.Repeats := by
  refine repeats_textByte.bind fun c => ?_
  split
  all_goals first
    | exact repeats_pure _
    | exact repeats_fail _
    | exact repeats_hexEscape.bind fun _ => repeats_pure _

def skipTextStep : Reader (Unit ⊕ Unit) := do
  match ← next with
  | none => fail .endInString
  | some '"' => pure (.inr ())
  | some '\\' => do skipEscape; return .inl ()
  | some c => if c < ' ' then fail .controlCharacter else pure (.inl ())

theorem skipTextBytes_succ (n : Nat) :
    skipTextBytes (n + 1) = skipTextStep >>= Sum.elim (fun _ => skipTextBytes n) pure := by
  rw [skipTextBytes, skipTextStep, bind_assoc]
  congr
  funext c
  split
  · rfl
  · simp
  · simp
  · next c _ _ => by_cases control : c < ' ' <;> simp [control]

theorem advances_skipTextStep : skipTextStep.Advances := by
  refine advances_next.bind fun c => ?_
  split
  · exact repeats_fail _
  · exact repeats_pure _
  · exact repeats_skipEscape.bind fun _ => repeats_pure _
  · split
    · exact repeats_fail _
    · exact repeats_pure _

theorem boundedBy_skipTextBytes (fuel : Nat) : (skipTextBytes fuel).BoundedBy skipTextBytes :=
  boundedBy_walk (fun _ : Unit => skipTextBytes) (fun _ => skipTextBytes) (fun _ => fails_fail _)
    (fun _ => skipTextBytes_succ) (fun _ => skipTextBytes_succ)
    (fun _ => advances_skipTextStep.repeats)
    (fun _ _ _ _ => advances_skipTextStep.length_lt fun _ _ => nofun) fuel ()

theorem repeats_skipText : skipText.Repeats := BoundedBy.repeatedBy boundedBy_skipTextBytes

namespace Numeral

theorem repeats_integerDigits : integerDigits.Repeats := by
  refine repeats_takeDigits.bind fun ds => ?_
  split
  · refine repeats_next.bind fun c => ?_
    split
    · exact repeats_fail _
    · exact repeats_fail _
  · exact repeats_fail _
  · exact repeats_pure _

theorem repeats_fractionDigits : fractionDigits.Repeats := by
  refine repeats_takeDigits.bind fun ds => ?_
  split
  · refine repeats_peek.bind fun c => ?_
    split
    · exact repeats_fail _
    · exact repeats_fail _
  · exact repeats_pure _

theorem repeats_exponentPart : exponentPart.Repeats := by
  refine repeats_peek.bind fun sign => Repeats.sometimes ?_ repeats_advance _
  refine repeats_takeDigits.bind fun ds => ?_
  split
  · refine repeats_next.bind fun c => ?_
    split
    · exact repeats_fail _
    · exact repeats_fail _
  · exact repeats_pure _

theorem repeats_ofFloat? (x : Option Float) : (ofFloat? x).Repeats := by
  cases x with
  | none => exact repeats_fail _
  | some x => exact repeats_pure _

theorem repeats_read (negative : Bool) : (read negative).Repeats := by
  have exponent {f : Bool × List Nat → Option Float} :
      (advance >>= fun _ => exponentPart >>= fun p => ofFloat? (f p)).Repeats :=
    repeats_advance.bind fun _ => repeats_exponentPart.bind fun _ => repeats_ofFloat? _
  refine repeats_integerDigits.bind fun ds => repeats_peek.bind fun c => ?_
  split
  · refine repeats_advance.bind fun _ => repeats_fractionDigits.bind fun fs =>
      repeats_peek.bind fun mark => ?_
    split
    · exact exponent
    · exact repeats_ofFloat? _
  · exact exponent
  · exact exponent
  · split
    · exact repeats_pure _
    · exact repeats_ofFloat? _

theorem repeats_skipExponent : skip.skipExponent.Repeats := by
  refine repeats_advance.bind fun _ => repeats_peek.bind fun sign =>
    Repeats.sometimes ?_ repeats_advance _
  refine repeats_takeDigits.bind fun ds => ?_
  split
  · exact repeats_fail _
  · exact repeats_pure _

theorem repeats_skipRest : skipRest.Repeats := by
  refine repeats_peek.bind fun c => ?_
  split
  · refine repeats_advance.bind fun _ => repeats_takeDigits.bind fun ds =>
      Repeats.sometimes (repeats_peek.bind fun mark => ?_) (repeats_fail _) _
    split
    · exact repeats_skipExponent
    · exact repeats_pure _
  · exact repeats_skipExponent
  · exact repeats_skipExponent
  · exact repeats_pure _

theorem advances_skip : skip.Advances := by
  refine advances_digits (fun ds => ?_) (fun _ _ _ gives => ?_)
  · split
    · exact repeats_fail _
    · exact repeats_fail _
    · exact repeats_skipRest
  · cases gives

end Numeral

/-- One step of passing over a value: whether a value is next, and the brackets that are open. -/
def skipStep (beforeValue : Bool) (stack : List Bracket) : Reader ((Bool × List Bracket) ⊕ Unit) :=
  if beforeValue then do
    match ← peekToken with
    | none => fail .endInValue
    | some 'n' => do skipWord ['u', 'l', 'l']; return .inl (false, stack)
    | some 't' => do skipWord ['r', 'u', 'e']; return .inl (false, stack)
    | some 'f' => do skipWord ['a', 'l', 's', 'e']; return .inl (false, stack)
    | some '-' => do advance; Numeral.skip; return .inl (false, stack)
    | some '"' => do advance; skipText; return .inl (false, stack)
    | some '[' =>
      advance
      match ← peekToken with
      | some ']' => do advance; return .inl (false, stack)
      | some _ => return .inl (true, .list :: stack)
      | none => fail .endInList
    | some '{' =>
      advance
      match ← peekToken with
      | some '}' => do advance; return .inl (false, stack)
      | some _ => do skipName; return .inl (true, .object :: stack)
      | none => fail .endInObject
    | some c => if c.isDigit then do Numeral.skip; return .inl (false, stack) else fail .expectedValue
  else
    match stack with
    | [] => return .inr ()
    | .list :: outer => do
      match ← peekToken with
      | some ',' => do advance; return .inl (true, stack)
      | some ']' => do advance; return .inl (false, outer)
      | some _ => fail .expectedListCommaOrEnd
      | none => fail .endInList
    | .object :: outer => do
      match ← peekToken with
      | some ',' => do advance; skipName; return .inl (true, stack)
      | some '}' => do advance; return .inl (false, outer)
      | some _ => fail .expectedObjectCommaOrEnd
      | none => fail .endInObject

theorem skipFrom_succ (s : Bool × List Bracket) (n : Nat) :
    skipFrom s.1 s.2 (n + 1) =
      skipStep s.1 s.2 >>= Sum.elim (fun s => skipFrom s.1 s.2 n) pure := by
  obtain ⟨before, stack⟩ := s
  cases before with
  | true =>
    simp only [skipFrom, skipStep, if_true, bind_assoc]
    congr
    funext c
    split
    · simp
    · simp
    · simp
    · simp
    · simp
    · simp
    · simp only [bind_assoc]
      congr
      funext _
      congr
      funext d
      split <;> simp
    · simp only [bind_assoc]
      congr
      funext _
      congr
      funext d
      split <;> simp
    · next c _ _ _ _ _ _ _ => by_cases digit : c.isDigit = true <;> simp [digit]
  | false =>
    rcases stack with _ | ⟨_ | _, outer⟩
    · rfl
    · simp only [skipFrom, skipStep, Bool.false_eq_true, if_false, bind_assoc]
      congr
      funext c
      split <;> simp
    · simp only [skipFrom, skipStep, Bool.false_eq_true, if_false, bind_assoc]
      congr
      funext c
      split <;> simp

theorem advances_skipName : skipName.Advances := by
  refine advances_token (fun c => ?_) (repeats_fail _)
  split
  · exact advances_advance.bind fun _ => repeats_skipText.bind fun _ => repeats_colon
  · exact advances_fail _
  · contradiction

theorem advances_skipWord (cs : List Char) : (skipWord cs).Advances :=
  advances_advance.bind fun _ => repeats_word cs

/-- Every step but the last one takes something. -/
theorem advances_skipStep {s : Bool × List Bracket} (more : s ≠ (false, [])) :
    (skipStep s.1 s.2).Advances := by
  obtain ⟨before, stack⟩ := s
  cases before with
  | true =>
    refine advances_token (fun c => ?_) (repeats_fail _)
    split
    · contradiction
    · exact (advances_skipWord _).bind fun _ => repeats_pure _
    · exact (advances_skipWord _).bind fun _ => repeats_pure _
    · exact (advances_skipWord _).bind fun _ => repeats_pure _
    · exact advances_advance.bind fun _ => Numeral.advances_skip.repeats.bind fun _ => repeats_pure _
    · exact advances_advance.bind fun _ => repeats_skipText.bind fun _ => repeats_pure _
    · refine advances_advance.bind fun _ => repeats_peekToken.bind fun d => ?_
      split
      · exact repeats_advance.bind fun _ => repeats_pure _
      · exact repeats_pure _
      · exact repeats_fail _
    · refine advances_advance.bind fun _ => repeats_peekToken.bind fun d => ?_
      split
      · exact repeats_advance.bind fun _ => repeats_pure _
      · exact advances_skipName.repeats.bind fun _ => repeats_pure _
      · exact repeats_fail _
    · split
      · exact Numeral.advances_skip.bind fun _ => repeats_pure _
      · exact advances_fail _
  | false =>
    rcases stack with _ | ⟨_ | _, outer⟩
    · exact absurd rfl more
    · refine advances_token (fun c => ?_) (repeats_fail _)
      split
      · exact advances_advance.bind fun _ => repeats_pure _
      · exact advances_advance.bind fun _ => repeats_pure _
      · exact advances_fail _
      · exact advances_fail _
    · refine advances_token (fun c => ?_) (repeats_fail _)
      split
      · exact advances_advance.bind fun _ => advances_skipName.repeats.bind fun _ => repeats_pure _
      · exact advances_advance.bind fun _ => repeats_pure _
      · exact advances_fail _
      · exact advances_fail _

theorem boundedBy_skipFrom (fuel : Nat) (s : Bool × List Bracket) :
    (skipFrom s.1 s.2 fuel).BoundedBy (skipFrom s.1 s.2) := by
  have empty {s : Bool × List Bracket} (more : s ≠ (false, [])) (t) (rest : Bytes) :
      ¬ (skipStep s.1 s.2).Gives [] t rest := by
    rcases s with ⟨_ | _, _ | ⟨_ | _, _⟩⟩
    · exact absurd rfl more
    all_goals nofun
  refine boundedBy_walk (fun s : Bool × List Bracket => skipFrom s.1 s.2)
    (fun s => skipFrom s.1 s.2) (fun _ => fails_fail _) skipFrom_succ skipFrom_succ (fun s => ?_)
    (fun s input t rest gives => ?_) fuel s
  · by_cases more : s = (false, [])
    · rw [more]
      exact repeats_pure _
    · exact (advances_skipStep more).repeats
  · by_cases more : s = (false, [])
    · rw [more] at gives
      cases gives
    · exact (advances_skipStep more).length_lt (empty more) gives

theorem repeats_skipValue : skipValue.Repeats := by
  intro input _ rest gives
  obtain ⟨_, _, ⟨⟩, walked⟩ := gives_bind_iff.mp gives
  obtain ⟨front, rfl, again⟩ := boundedBy_skipFrom _ (true, []) walked
  refine ⟨front, rfl, fun other same => (gives_bound _).bind (again other same _ ?_)⟩
  rw [List.length_append]
  omega

end RackInventory.Json
