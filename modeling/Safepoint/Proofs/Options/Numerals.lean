import Safepoint.Proofs.Options.Grammar

/-!
# Numbers and their digits

A number is written in decimal digits, and reading those digits gives the number back: they are a
text of the grammar, without a sign and without a scale.  The central statement says so for every
number that fits a word.
-/

namespace Safepoint.Options

/-- A row of ASCII decimal digits. -/
def AllDigits (text : List Char) : Prop := ∀ char ∈ text, char.isDigit = true

namespace AllDigits

variable {char : Char} {rest : List Char}

theorem head (decimal : AllDigits (char :: rest)) : char.isDigit = true :=
  decimal char List.mem_cons_self

theorem tail (decimal : AllDigits (char :: rest)) : AllDigits rest :=
  fun other member => decimal other (List.mem_cons_of_mem char member)

theorem toDigits (number : Nat) : AllDigits (Nat.toDigits 10 number) :=
  fun _ member => Nat.isDigit_of_mem_toDigits (by decide) (Nat.le_refl 10) member

end AllDigits

theorem digit?_of_isDigit {char : Char} (decimal : char.isDigit = true) :
    digit? 10 char = some (char.toNat - '0'.toNat) := by
  obtain ⟨zero_le, le_nine⟩ := Char.isDigit_iff_toNat.mp decimal
  have in_range : '0' ≤ char ∧ char ≤ '9' := ⟨zero_le, le_nine⟩
  have digit_lt : char.toNat - '0'.toNat < 10 := by
    change char.toNat ≤ 57 at le_nine
    change char.toNat - 48 < 10
    omega
  rw [digit?, digitValue, if_pos in_range]
  simp only [Option.filter_some, digit_lt, decide_true, if_true]

/-- Digits are read from the left, the value so far times ten for each. -/
theorem digits?_of_allDigits {text : List Char} (decimal : AllDigits text) (value : Nat) :
    digits? 10 value text = some (Nat.ofDigitChars 10 text value) := by
  induction text generalizing value with
  | nil => rfl
  | cons char rest ih =>
      rw [digits?, digit?_of_isDigit decimal.head, Option.bind_some, ih decimal.tail,
        Nat.ofDigitChars_cons, Nat.mul_comm value]

theorem digits?_toDigits (number : Nat) :
    digits? 10 0 (Nat.toDigits 10 number) = some number := by
  rw [digits?_of_allDigits (.toDigits number), Nat.ofDigitChars_ten_toDigits]

theorem written_toDigits (number : Nat) : Written (Nat.toDigits 10 number) number := by
  obtain ⟨values, row, number_eq⟩ :=
    exists_digitRow (by decide) Nat.toDigits_ne_nil (digits?_toDigits number)
  have written := Written.decimal (.plain row) .none
  rwa [List.append_nil, Nat.mul_one, ← number_eq] at written

/-- A word is read back from its digits. -/
theorem numeral?_decimal (word : Word) : numeral? (Word.decimal word).toList = some word := by
  rw [Word.decimal, String.toList_ofList, numeral?_eq_some_iff]
  exact written_toDigits word.toNat

end Safepoint.Options
