import RackInventory.Json.Numeral
import RackInventory.Proofs.Json.Reading
import RackInventory.Proofs.Url.Encoding

/-!
# Numerals are read whole

A numeral in parts has the digits of its integer part, those of its fraction if it has one, and a
signed exponent if it has one. Reading its text gives the number that the parts stand for, whatever
follows in a document, and passing over it leaves the same rest. A number is out of range in one
place of a document if it is in every place.
-/

namespace RackInventory.Json

open Reader

/-- What follows a value in a document: a comma, a closing bracket, or nothing. -/
def Ends (rest : Bytes) : Prop := ∀ b ∈ rest.head?, b = 0x2C ∨ b = 0x5D ∨ b = 0x7D

theorem ends_nil : Ends [] := fun _ next => nomatch next

namespace Numeral

def digitChars (ds : List Nat) : List Char := ds.map Nat.digitChar

def DigitsStop (rest : Bytes) : Prop := ∀ b ∈ rest.head?, isDigit b = false

theorem digitsStop_of_ends {rest : Bytes} (ends : Ends rest) : DigitsStop rest := by
  intro b next
  rcases ends b next with rfl | rfl | rfl <;> rfl

def digitByte (d : Nat) : UInt8 := UInt8.ofNat (0x30 + d)

theorem isDigit_digitByte : ∀ d < 10, isDigit (digitByte d) = true := by decide

theorem encode_digitChars_cons {d : Nat} (small : d < 10) (ds : List Nat) :
    Utf8.encode (digitChars (d :: ds)) = digitByte d :: Utf8.encode (digitChars ds) := by
  have ascii : ∀ d < 10, (Nat.digitChar d).toNat < 0x80 := by decide
  have byte : ∀ d < 10, UInt8.ofNat (Nat.digitChar d).toNat = digitByte d := by decide
  change String.utf8EncodeChar (Nat.digitChar d) ++ _ = _
  rw [Percent.encodeChar_ascii (ascii d small), byte d small]
  rfl

/-- Digits are taken up to the first byte that is none. -/
theorem gives_takeDigits {ds : List Nat} (small : ∀ d ∈ ds, d < 10) {rest : Bytes}
    (stop : DigitsStop rest) :
    takeDigits.Gives (Utf8.encode (digitChars ds) ++ rest) ds rest := by
  have spans : (Utf8.encode (digitChars ds) ++ rest).dropWhile isDigit = rest ∧
      ((Utf8.encode (digitChars ds) ++ rest).takeWhile isDigit).map (fun b => b.toNat - 0x30) = ds := by
    induction ds with
    | nil =>
      cases rest with
      | nil => exact ⟨rfl, rfl⟩
      | cons b rest =>
        have other : ¬ isDigit b = true := by rw [stop b rfl]; exact Bool.false_ne_true
        exact ⟨List.dropWhile_cons_of_neg other, by
          rw [digitChars, List.map_nil]
          exact congrArg _ (List.takeWhile_cons_of_neg other)⟩
    | cons d ds ih =>
      rw [List.forall_mem_cons] at small
      have digit := isDigit_digitByte d small.1
      have value : ∀ d < 10, (digitByte d).toNat - 0x30 = d := by decide
      rw [encode_digitChars_cons small.1, List.cons_append, List.dropWhile_cons_of_pos digit,
        List.takeWhile_cons_of_pos digit, List.map_cons, value d small.1, (ih small.2).2]
      exact ⟨(ih small.2).1, rfl⟩
  have run : takeDigits.run (Utf8.encode (digitChars ds) ++ rest) =
      .ok (((Utf8.encode (digitChars ds) ++ rest).takeWhile isDigit).map (fun b => b.toNat - 0x30),
        (Utf8.encode (digitChars ds) ++ rest).dropWhile isDigit) := rfl
  rw [Gives, run, spans.1, spans.2]

/-- A numeral after its minus sign, if it has one. No digits of a fraction stand for no fraction. -/
structure Parts where
  whole : List Nat
  fraction : List Nat
  power : Option (Bool × List Nat)

namespace Parts

structure Valid (p : Parts) : Prop where
  whole : ∀ d ∈ p.whole, d < 10
  filled : p.whole ≠ []
  leading : ∀ d e ds, p.whole = d :: e :: ds → d ≠ 0
  fraction : ∀ d ∈ p.fraction, d < 10
  power : ∀ down ds, p.power = some (down, ds) → ds ≠ [] ∧ ∀ d ∈ ds, d < 10

def fractionChars : List Nat → List Char
  | [] => []
  | ds => '.' :: digitChars ds

def powerChars : Option (Bool × List Nat) → List Char
  | none => []
  | some (down, ds) => 'e' :: (if down then '-' else '+') :: digitChars ds

def chars (p : Parts) : List Char :=
  digitChars p.whole ++ fractionChars p.fraction ++ powerChars p.power

def kept (p : Parts) : Scaled := p.whole.foldl pushInteger ⟨0, 0⟩

/-- The number that a numeral stands for; nothing when it is out of range. -/
def number (negative : Bool) (p : Parts) : Option Number :=
  match p.power with
  | some (down, ds) =>
    (withExponent negative (pushFraction p.kept p.fraction) down (ofDigits ds)).map .float
  | none =>
    if p.fraction = [] ∧ p.kept.exponent = 0 then some (integerNumber negative p.kept.significand)
    else ((pushFraction p.kept p.fraction).toFloat? negative).map .float

end Parts

section Digits

variable {p : Parts} {rest : Bytes}

/-- The integer part is not empty and has no zero in front. -/
theorem gives_integerDigits (valid : p.Valid) (stop : DigitsStop rest) :
    integerDigits.Gives (Utf8.encode (digitChars p.whole) ++ rest) p.whole rest := by
  refine (gives_takeDigits valid.whole stop).bind ?_
  have filled := valid.filled
  have leading := valid.leading
  generalize p.whole = ds at *
  match ds with
  | [] => exact absurd rfl filled
  | [0] => exact gives_pure _ rest
  | [_ + 1] => exact gives_pure _ rest
  | 0 :: e :: ds => exact absurd rfl (leading 0 e ds rfl)
  | (d + 1) :: e :: ds => exact gives_pure _ rest

theorem gives_fractionDigits {ds : List Nat} (filled : ds ≠ []) (small : ∀ d ∈ ds, d < 10)
    (stop : DigitsStop rest) :
    fractionDigits.Gives (Utf8.encode (digitChars ds) ++ rest) ds rest := by
  refine (gives_takeDigits small stop).bind ?_
  cases ds with
  | nil => exact absurd rfl filled
  | cons d ds => exact gives_pure _ rest

theorem gives_exponentPart {ds : List Nat} (filled : ds ≠ []) (small : ∀ d ∈ ds, d < 10)
    (down : Bool) (stop : DigitsStop rest) :
    exponentPart.Gives
      (Utf8.encode ((if down then '-' else '+') :: digitChars ds) ++ rest) (down, ds) rest := by
  have digits := gives_takeDigits small stop
  cases ds with
  | nil => exact absurd rfl filled
  | cons d ds =>
    cases down with
    | false =>
      exact (gives_peek 0x2B _).bind ((gives_advance 0x2B _).bind (digits.bind (gives_pure _ rest)))
    | true =>
      exact (gives_peek 0x2D _).bind ((gives_advance 0x2D _).bind (digits.bind (gives_pure _ rest)))

theorem gives_skipExponent {ds : List Nat} (filled : ds ≠ []) (small : ∀ d ∈ ds, d < 10)
    (down : Bool) (stop : DigitsStop rest) :
    skip.skipExponent.Gives
      (0x65 :: (Utf8.encode ((if down then '-' else '+') :: digitChars ds) ++ rest)) () rest := by
  have digits := gives_takeDigits small stop
  refine (gives_advance 0x65 _).bind ?_
  cases ds with
  | nil => exact absurd rfl filled
  | cons d ds =>
    cases down with
    | false =>
      exact (gives_peek 0x2B _).bind ((gives_advance 0x2B _).bind (digits.bind (gives_pure _ rest)))
    | true =>
      exact (gives_peek 0x2D _).bind ((gives_advance 0x2D _).bind (digits.bind (gives_pure _ rest)))

end Digits

/-- A number, or the complaint that it is out of range. -/
def numberOrFail : Option Number → Reader Number
  | some n => pure n
  | none => fail .numberOutOfRange

theorem ofFloat?_eq (x : Option Float) : ofFloat? x = numberOrFail (x.map .float) := by
  cases x <;> rfl

theorem encode_chars (p : Parts) (rest : Bytes) :
    Utf8.encode p.chars ++ rest = Utf8.encode (digitChars p.whole) ++
      (Utf8.encode (Parts.fractionChars p.fraction) ++
        (Utf8.encode (Parts.powerChars p.power) ++ rest)) := by
  rw [Parts.chars, Utf8.encode_append, Utf8.encode_append, List.append_assoc, List.append_assoc]

theorem digitsStop_power {power : Option (Bool × List Nat)} {rest : Bytes} (ends : Ends rest) :
    DigitsStop (Utf8.encode (Parts.powerChars power) ++ rest) := by
  match power with
  | none => exact digitsStop_of_ends ends
  | some (_, _) =>
    rintro b (_ | _)
    rfl

theorem digitsStop_fraction {ds : List Nat} {rest : Bytes} (stop : DigitsStop rest) :
    DigitsStop (Utf8.encode (Parts.fractionChars ds) ++ rest) := by
  cases ds with
  | nil => exact stop
  | cons d ds =>
    rintro b (_ | _)
    rfl

/-- Reading a numeral gives its number, or the complaint that it is out of range. -/
theorem run_read {p : Parts} (valid : p.Valid) {rest : Bytes} (ends : Ends rest) (negative : Bool) :
    (read negative).run (Utf8.encode p.chars ++ rest) =
      (numberOrFail (p.number negative)).run rest := by
  have stop : DigitsStop (Utf8.encode (Parts.powerChars p.power) ++ rest) := digitsStop_power ends
  rw [encode_chars, read, (gives_integerDigits valid (digitsStop_fraction stop)).run_bind]
  have power := valid.power
  have fraction := valid.fraction
  rcases p with ⟨whole, _ | ⟨d, ds⟩, _ | ⟨down, es⟩⟩
  · -- an integer
    have last : (if (whole.foldl pushInteger ⟨0, 0⟩).exponent = 0 then
          pure (integerNumber negative (whole.foldl pushInteger ⟨0, 0⟩).significand)
        else ofFloat? ((whole.foldl pushInteger ⟨0, 0⟩).toFloat? negative) : Reader Number) =
        numberOrFail (Parts.number negative ⟨whole, [], none⟩) := by
      simp only [Parts.number, Parts.kept, true_and]
      split
      · rfl
      · exact ofFloat?_eq _
    rw [← last]
    cases rest with
    | nil => rfl
    | cons b rest => rcases ends b rfl with rfl | rfl | rfl <;> rfl
  · -- an integer part and an exponent
    obtain ⟨filled, small⟩ := power down es rfl
    have exponent := gives_exponentPart filled small down (digitsStop_of_ends ends)
    exact ((gives_peek 0x65 _).run_bind.trans (gives_advance 0x65 _).run_bind).trans
      (exponent.run_bind.trans (congrArg (StateT.run · rest) (ofFloat?_eq _)))
  · -- a fraction
    have digits := gives_fractionDigits (List.cons_ne_nil d ds) fraction stop
    have last : ofFloat? ((pushFraction (whole.foldl pushInteger ⟨0, 0⟩) (d :: ds)).toFloat? negative) =
        numberOrFail (Parts.number negative ⟨whole, d :: ds, none⟩) := ofFloat?_eq _
    refine ((gives_peek 0x2E _).run_bind.trans (gives_advance 0x2E _).run_bind).trans
      (digits.run_bind.trans ?_)
    rw [← last]
    cases rest with
    | nil => rfl
    | cons b rest => rcases ends b rfl with rfl | rfl | rfl <;> rfl
  · -- a fraction and an exponent
    obtain ⟨filled, small⟩ := power down es rfl
    have digits := gives_fractionDigits (List.cons_ne_nil d ds) fraction stop
    have exponent := gives_exponentPart filled small down (digitsStop_of_ends ends)
    exact ((gives_peek 0x2E _).run_bind.trans (gives_advance 0x2E _).run_bind).trans
      (digits.run_bind.trans (((gives_peek 0x65 _).run_bind.trans (gives_advance 0x65 _).run_bind).trans
        (exponent.run_bind.trans (congrArg (StateT.run · rest) (ofFloat?_eq _)))))

def skipRest : Reader Unit := do
  match ← peek with
  | some '.' =>
    advance
    if (← takeDigits).isEmpty then fail .invalidNumber
    let mark ← peek
    if mark = some 'e' ∨ mark = some 'E' then skip.skipExponent
  | some 'e' | some 'E' => skip.skipExponent
  | _ => pure ()

theorem gives_skipRest {p : Parts} (valid : p.Valid) {rest : Bytes} (ends : Ends rest) :
    skipRest.Gives (Utf8.encode (Parts.fractionChars p.fraction) ++
      (Utf8.encode (Parts.powerChars p.power) ++ rest)) () rest := by
  have stop : DigitsStop (Utf8.encode (Parts.powerChars p.power) ++ rest) := digitsStop_power ends
  have power := valid.power
  have fraction := valid.fraction
  rcases p with ⟨whole, _ | ⟨d, ds⟩, _ | ⟨down, es⟩⟩
  · cases rest with
    | nil => rfl
    | cons b rest => rcases ends b rfl with rfl | rfl | rfl <;> rfl
  · obtain ⟨filled, small⟩ := power down es rfl
    exact (gives_peek 0x65 _).bind (gives_skipExponent filled small down (digitsStop_of_ends ends))
  · refine (gives_peek 0x2E _).bind ((gives_advance 0x2E _).bind
      ((gives_takeDigits fraction stop).bind ?_))
    cases rest with
    | nil => rfl
    | cons b rest => rcases ends b rfl with rfl | rfl | rfl <;> rfl
  · obtain ⟨filled, small⟩ := power down es rfl
    exact (gives_peek 0x2E _).bind ((gives_advance 0x2E _).bind
      ((gives_takeDigits fraction stop).bind ((gives_peek 0x65 _).bind
        (gives_skipExponent filled small down (digitsStop_of_ends ends)))))

/-- A numeral is passed over, also one that is out of range. -/
theorem gives_skip {p : Parts} (valid : p.Valid) {rest : Bytes} (ends : Ends rest) :
    skip.Gives (Utf8.encode p.chars ++ rest) () rest := by
  rw [encode_chars]
  refine (gives_takeDigits valid.whole (digitsStop_fraction (digitsStop_power ends))).bind ?_
  have after := gives_skipRest valid ends
  have filled := valid.filled
  have leading := valid.leading
  generalize p.whole = ds at *
  match ds with
  | [] => exact absurd rfl filled
  | [0] => exact after
  | [_ + 1] => exact after
  | 0 :: e :: ds => exact absurd rfl (leading 0 e ds rfl)
  | (d + 1) :: e :: ds => exact after

end Numeral

end RackInventory.Json
