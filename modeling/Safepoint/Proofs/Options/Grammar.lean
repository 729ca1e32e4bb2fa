import Mathlib.Data.List.Forall2
import Mathlib.Data.Nat.Digits.Defs
import Safepoint.Options.Assignment

/-!
# The grammar of numbers

A number is written in one of two notations: hexadecimal digits behind `0x`, or decimal digits with
at most one letter for a binary scale behind them.  The grammar knows no bound.  A text follows it in
one way at most, and `Settings.heapBase_iff_written` states that a text is read as a number exactly
if it follows the grammar and its number fits a word.
-/

namespace Safepoint.Options

/-- The digits in lower case, each in the position of its value. -/
def lowerDigits : List Char :=
  ['0', '1', '2', '3', '4', '5', '6', '7', '8', '9', 'a', 'b', 'c', 'd', 'e', 'f']

/-- The digits in upper case, each in the position of its value. -/
def upperDigits : List Char :=
  ['0', '1', '2', '3', '4', '5', '6', '7', '8', '9', 'A', 'B', 'C', 'D', 'E', 'F']

/-- The character is a digit of the radix, in either case, and stands for `value`. -/
def IsDigit (radix : Nat) (char : Char) (value : Nat) : Prop :=
  value < radix ∧ (lowerDigits[value]? = some char ∨ upperDigits[value]? = some char)

/-- The text is a row of digits, one for each value, the most significant first. -/
def DigitRow (radix : Nat) (text : List Char) (values : List Nat) : Prop :=
  text ≠ [] ∧ List.Forall₂ (IsDigit radix) text values

/-- The text writes a number in a radix, as a row of digits behind at most one plus sign. -/
inductive Unsigned (radix : Nat) : List Char → Nat → Prop where
  | plain {text : List Char} {values : List Nat} (row : DigitRow radix text values) :
      Unsigned radix text (Nat.ofDigits radix values.reverse)
  | signed {text : List Char} {values : List Nat} (row : DigitRow radix text values) :
      Unsigned radix ('+' :: text) (Nat.ofDigits radix values.reverse)

/-- What may stand behind decimal digits, and the scale that it stands for. -/
inductive Scale : List Char → Nat → Prop where
  | none : Scale [] 1
  | kilo {letter : Char} (is_kilo : letter = 'K' ∨ letter = 'k') : Scale [letter] (2 ^ 10)
  | mega {letter : Char} (is_mega : letter = 'M' ∨ letter = 'm') : Scale [letter] (2 ^ 20)
  | giga {letter : Char} (is_giga : letter = 'G' ∨ letter = 'g') : Scale [letter] (2 ^ 30)

/-- The text writes a number, of whatever size. -/
inductive Written : List Char → Nat → Prop where
  | hexadecimal {text : List Char} {number : Nat} (unsigned : Unsigned 16 text number) :
      Written ('0' :: 'x' :: text) number
  | decimal {text letters : List Char} {number scale : Nat} (unsigned : Unsigned 10 text number)
      (scaled : Scale letters scale) : Written (text ++ letters) (number * scale)

section Digits

variable {radix value digit number : Nat} {char : Char} {text : List Char}

/-- A digit has one value, whatever its case. -/
theorem IsDigit.digitValue_eq (radix_le : radix ≤ 16) (is_digit : IsDigit radix char digit) :
    digitValue char = some digit := by
  have read_lower : ∀ digit < 16, lowerDigits[digit]?.bind digitValue = some digit := by decide
  have read_upper : ∀ digit < 16, upperDigits[digit]?.bind digitValue = some digit := by decide
  obtain ⟨digit_lt, lower | upper⟩ := is_digit
  · simpa [lower] using read_lower digit (by omega)
  · simpa [upper] using read_upper digit (by omega)

theorem isDigit_of_digitValue (radix_le : radix ≤ 16) (digit_lt : digit < radix)
    (read : digitValue char = some digit) : IsDigit radix char digit := by
  have decimal_at : ∀ digit < 10, lowerDigits[digit]? = some (Char.ofNat (48 + digit)) := by decide
  have lower_at : ∀ digit < 6, lowerDigits[10 + digit]? = some (Char.ofNat (97 + digit)) := by
    decide
  have upper_at : ∀ digit < 6, upperDigits[10 + digit]? = some (Char.ofNat (65 + digit)) := by
    decide
  have char_eq {code : Nat} (code_le : code ≤ char.toNat) :
      Char.ofNat (code + (char.toNat - code)) = char := by
    rw [Nat.add_sub_cancel' code_le, Char.ofNat_toNat]
  refine ⟨digit_lt, ?_⟩
  unfold digitValue at read
  split at read
  · rename_i in_range
    obtain ⟨zero_le, le_nine⟩ := in_range
    change 48 ≤ char.toNat at zero_le
    change char.toNat ≤ 57 at le_nine
    cases read
    left
    change lowerDigits[char.toNat - 48]? = _
    rw [decimal_at _ (by omega), char_eq zero_le]
  split at read
  · rename_i in_range
    obtain ⟨a_le, -⟩ := in_range
    change 97 ≤ char.toNat at a_le
    cases read
    change char.toNat - 97 + 10 < radix at digit_lt
    left
    change lowerDigits[char.toNat - 97 + 10]? = _
    rw [Nat.add_comm, lower_at _ (by omega), char_eq a_le]
  split at read
  · rename_i in_range
    obtain ⟨a_le, -⟩ := in_range
    change 65 ≤ char.toNat at a_le
    cases read
    change char.toNat - 65 + 10 < radix at digit_lt
    right
    change upperDigits[char.toNat - 65 + 10]? = _
    rw [Nat.add_comm, upper_at _ (by omega), char_eq a_le]
  · cases read

theorem digit?_eq_some_iff (radix_le : radix ≤ 16) :
    digit? radix char = some digit ↔ IsDigit radix char digit := by
  rw [digit?, Option.filter_eq_some_iff, decide_eq_true_iff]
  constructor
  · rintro ⟨read, digit_lt⟩
    exact isDigit_of_digitValue radix_le digit_lt read
  · intro is_digit
    exact ⟨is_digit.digitValue_eq radix_le, is_digit.1⟩

/-- Digits that are read from the left give the number that their values stand for. -/
theorem digits?_eq_some_iff (radix_le : radix ≤ 16) :
    digits? radix value text = some number ↔
      ∃ values, List.Forall₂ (IsDigit radix) text values ∧
        number = value * radix ^ text.length + Nat.ofDigits radix values.reverse := by
  induction text generalizing value with
  | nil =>
      simp [digits?, eq_comm]
  | cons char rest ih =>
      simp only [digits?, Option.bind_eq_some_iff, digit?_eq_some_iff radix_le, ih,
        List.forall₂_cons_left_iff]
      constructor
      · rintro ⟨digit, is_digit, values, row, rfl⟩
        refine ⟨digit :: values, ⟨digit, values, is_digit, row, rfl⟩, ?_⟩
        rw [List.reverse_cons, Nat.ofDigits_append, List.length_reverse, ← row.length_eq,
          Nat.ofDigits_singleton, List.length_cons]
        ring
      · rintro ⟨_, ⟨digit, values, is_digit, row, rfl⟩, rfl⟩
        refine ⟨digit, is_digit, values, row, ?_⟩
        rw [List.reverse_cons, Nat.ofDigits_append, List.length_reverse, ← row.length_eq,
          Nat.ofDigits_singleton, List.length_cons]
        ring

end Digits

section Unsigned

variable {radix number other : Nat} {char : Char} {text : List Char} {values : List Nat}

/-- Signs, letters for scales and the `x` of the prefix are no digits. -/
theorem IsDigit.ne (radix_le : radix ≤ 16) {digit : Nat} (is_digit : IsDigit radix char digit)
    {mark : Char} (no_value : (digitValue mark).all (radix ≤ ·) = true) : char ≠ mark := by
  rintro rfl
  rw [is_digit.digitValue_eq radix_le, Option.all_some, decide_eq_true_iff] at no_value
  exact absurd is_digit.1 (Nat.not_lt.mpr no_value)

theorem DigitRow.ne (radix_le : radix ≤ 16) (row : DigitRow radix text values)
    {mark : Char} (no_value : (digitValue mark).all (radix ≤ ·) = true) : mark ∉ text := by
  intro member
  obtain ⟨number, number_lt, rfl⟩ := List.getElem_of_mem member
  have values_lt : number < values.length := row.2.length_eq ▸ number_lt
  exact (row.2.get number_lt values_lt).ne radix_le no_value rfl

theorem DigitRow.digits?_eq (radix_le : radix ≤ 16) (row : DigitRow radix text values) :
    digits? radix 0 text = some (Nat.ofDigits radix values.reverse) := by
  rw [digits?_eq_some_iff radix_le]
  exact ⟨values, row.2, by rw [Nat.zero_mul, Nat.zero_add]⟩

theorem exists_digitRow (radix_le : radix ≤ 16) (text_ne : text ≠ [])
    (read : digits? radix 0 text = some number) :
    ∃ values, DigitRow radix text values ∧ number = Nat.ofDigits radix values.reverse := by
  rw [digits?_eq_some_iff radix_le] at read
  obtain ⟨values, row, number_eq⟩ := read
  rw [Nat.zero_mul, Nat.zero_add] at number_eq
  exact ⟨values, ⟨text_ne, row⟩, number_eq⟩

theorem dropPlus_of_not_mem (unsigned : '+' ∉ text) : dropPlus text = text := by
  unfold dropPlus
  split
  · exact absurd List.mem_cons_self unsigned
  · rfl

theorem dropPlus_cases (text : List Char) : text = dropPlus text ∨ text = '+' :: dropPlus text := by
  unfold dropPlus
  split
  · exact Or.inr rfl
  · exact Or.inl rfl

/-- The digits behind the plus sign, if there is one, decide what is written. -/
theorem unsigned_iff (radix_le : radix ≤ 16) :
    Unsigned radix text number ↔
      dropPlus text ≠ [] ∧ digits? radix 0 (dropPlus text) = some number := by
  have plus_no_value : (digitValue '+').all (radix ≤ ·) = true := rfl
  constructor
  · intro unsigned
    cases unsigned with
    | plain row =>
        rw [dropPlus_of_not_mem (row.ne radix_le plus_no_value)]
        exact ⟨row.1, row.digits?_eq radix_le⟩
    | signed row => exact ⟨row.1, row.digits?_eq radix_le⟩
  · rintro ⟨text_ne, read⟩
    obtain ⟨values, row, rfl⟩ := exists_digitRow radix_le text_ne read
    rcases dropPlus_cases text with text_eq | text_eq
    · rw [text_eq]
      exact .plain row
    · rw [text_eq]
      exact .signed row

theorem Unsigned.unique (radix_le : radix ≤ 16) (unsigned : Unsigned radix text number)
    (other_unsigned : Unsigned radix text other) : number = other := by
  have read := ((unsigned_iff radix_le).mp unsigned).2
  rw [((unsigned_iff radix_le).mp other_unsigned).2] at read
  exact (Option.some.inj read).symm

/-- A number in a radix is read if it fits a word. -/
theorem unsigned?_eq_some_iff (radix_le : radix ≤ 16) :
    unsigned? radix text = some number ↔ Unsigned radix text number ∧ number < Word.count := by
  rw [unsigned_iff radix_le]
  unfold unsigned?
  split
  · rename_i no_digits
    simp [no_digits]
  · rename_i digits_ne
    rw [Option.filter_eq_some_iff, decide_eq_true_iff, and_iff_right digits_ne]

theorem Unsigned.not_mem (radix_le : radix ≤ 16) (unsigned : Unsigned radix text number)
    {mark : Char} (mark_ne : mark ≠ '+')
    (no_value : (digitValue mark).all (radix ≤ ·) = true) : mark ∉ text := by
  cases unsigned with
  | plain row => exact row.ne radix_le no_value
  | signed row => exact List.not_mem_cons_of_ne_of_not_mem mark_ne (row.ne radix_le no_value)

end Unsigned

section Scales

variable {text letters rest : List Char} {number scale : Nat} {letter : Char}

theorem scale?_eq_some_iff : scale? letter = some scale ↔ Scale [letter] scale := by
  unfold scale?
  constructor
  · intro found
    split at found
    · cases found
      exact .kilo ‹_›
    split at found
    · cases found
      exact .mega ‹_›
    split at found
    · cases found
      exact .giga ‹_›
    · cases found
  · intro scaled
    cases scaled with
    | kilo is_kilo => exact if_pos is_kilo
    | mega is_mega =>
        rcases is_mega with rfl | rfl <;> rfl
    | giga is_giga =>
        rcases is_giga with rfl | rfl <;> rfl

theorem Scale.cases_letters (scaled : Scale letters scale) :
    (letters = [] ∧ scale = 1) ∨ ∃ letter, letters = [letter] ∧ scale? letter = some scale := by
  cases scaled with
  | none => exact Or.inl ⟨rfl, rfl⟩
  | kilo is_kilo => exact Or.inr ⟨_, rfl, scale?_eq_some_iff.mpr (.kilo is_kilo)⟩
  | mega is_mega => exact Or.inr ⟨_, rfl, scale?_eq_some_iff.mpr (.mega is_mega)⟩
  | giga is_giga => exact Or.inr ⟨_, rfl, scale?_eq_some_iff.mpr (.giga is_giga)⟩

theorem Scale.no_digit (scaled : Scale [letter] scale) :
    letter ≠ '+' ∧ (digitValue letter).all (10 ≤ ·) = true := by
  cases scaled with
  | kilo is_kilo => rcases is_kilo with rfl | rfl <;> decide
  | mega is_mega => rcases is_mega with rfl | rfl <;> decide
  | giga is_giga => rcases is_giga with rfl | rfl <;> decide

theorem not_mem_of_scale? (unsigned : Unsigned 10 text number)
    (found : scale? letter = some scale) : letter ∉ text := by
  obtain ⟨letter_ne, no_value⟩ := (scale?_eq_some_iff.mp found).no_digit
  exact unsigned.not_mem (by decide) letter_ne no_value

/-- Number and scale are told apart by the last letter. -/
theorem splitScale_append (unsigned : Unsigned 10 text number) (scaled : Scale letters scale) :
    splitScale (text ++ letters) = (text, scale) := by
  rcases scaled.cases_letters with ⟨rfl, rfl⟩ | ⟨letter, rfl, found⟩
  · have no_scale : text.getLast?.bind scale? = none := by
      rw [Option.bind_eq_none_iff]
      intro last last_at
      by_contra some_scale
      obtain ⟨scale, found⟩ := Option.ne_none_iff_exists'.mp some_scale
      exact not_mem_of_scale? unsigned found (List.mem_of_getLast? last_at)
    rw [List.append_nil, splitScale, no_scale]
  · rw [splitScale, List.getLast?_concat, Option.bind_some, found, List.dropLast_concat]

theorem exists_scale (text : List Char) :
    ∃ letters, text = (splitScale text).1 ++ letters ∧ Scale letters (splitScale text).2 := by
  unfold splitScale
  split
  · rename_i scale found
    obtain ⟨letter, last_at, found⟩ := Option.bind_eq_some_iff.mp found
    refine ⟨[letter], ?_, scale?_eq_some_iff.mp found⟩
    exact (List.dropLast_append_getLast? letter last_at).symm
  · exact ⟨[], (List.append_nil text).symm, .none⟩

/-- A decimal number does not start like a hexadecimal one. -/
theorem ne_hexadecimal (unsigned : Unsigned 10 text number) (scaled : Scale letters scale) :
    text ++ letters ≠ '0' :: 'x' :: rest := by
  intro same
  have x_mem : 'x' ∈ text ++ letters := by simp [same]
  rcases List.mem_append.mp x_mem with digit_x | letter_x
  · exact unsigned.not_mem (by decide) (by decide) rfl digit_x
  · rcases scaled.cases_letters with ⟨rfl, rfl⟩ | ⟨letter, rfl, found⟩
    · cases letter_x
    · rw [← List.mem_singleton.mp letter_x] at found
      cases found

/-- A decimal number is read if it fits a word together with its scale. -/
theorem scaled?_eq_some_iff :
    scaled? text = some number ↔
      number < Word.count ∧ ∃ front letters value scale, text = front ++ letters ∧
        Unsigned 10 front value ∧ Scale letters scale ∧ number = value * scale := by
  simp only [scaled?, Option.bind_eq_some_iff, unsigned?_eq_some_iff (show 10 ≤ 16 by decide),
    Option.ite_none_right_eq_some, Option.some.injEq]
  constructor
  · rintro ⟨value, ⟨unsigned, -⟩, fits, rfl⟩
    obtain ⟨letters, text_eq, scaled⟩ := exists_scale text
    exact ⟨fits, _, letters, value, _, text_eq, unsigned, scaled, rfl⟩
  · rintro ⟨fits, front, letters, value, scale, rfl, unsigned, scaled, rfl⟩
    rw [splitScale_append unsigned scaled]
    have scale_pos : 0 < scale := by
      cases scaled <;> decide
    have value_le : value ≤ value * scale := Nat.le_mul_of_pos_right value scale_pos
    exact ⟨value, ⟨unsigned, by omega⟩, fits, rfl⟩

end Scales

section Numbers

variable {text rest : List Char} {number other : Nat} {word : Word}

theorem written_hexadecimal_iff :
    Written ('0' :: 'x' :: rest) number ↔ Unsigned 16 rest number := by
  constructor
  · intro written
    generalize text_eq : '0' :: 'x' :: rest = text at written
    cases written with
    | hexadecimal unsigned =>
        cases text_eq
        exact unsigned
    | decimal unsigned scaled => exact absurd text_eq.symm (ne_hexadecimal unsigned scaled)
  · exact .hexadecimal

theorem written_decimal_iff (not_hexadecimal : ∀ rest, text ≠ '0' :: 'x' :: rest) :
    Written text number ↔ ∃ front letters value scale, text = front ++ letters ∧
      Unsigned 10 front value ∧ Scale letters scale ∧ number = value * scale := by
  constructor
  · intro written
    cases written with
    | hexadecimal unsigned => exact absurd rfl (not_hexadecimal _)
    | decimal unsigned scaled => exact ⟨_, _, _, _, rfl, unsigned, scaled, rfl⟩
  · rintro ⟨front, letters, value, scale, rfl, unsigned, scaled, rfl⟩
    exact .decimal unsigned scaled

/-- A text writes one number at most. -/
theorem Written.unique (written : Written text number) (other_written : Written text other) :
    number = other := by
  cases written with
  | hexadecimal unsigned =>
      exact unsigned.unique (by decide) (written_hexadecimal_iff.mp other_written)
  | decimal unsigned scaled =>
      have not_hexadecimal : ∀ rest, _ ≠ '0' :: 'x' :: rest := fun _ =>
        ne_hexadecimal unsigned scaled
      obtain ⟨front, letters, value, scale, text_eq, other_unsigned, other_scaled, rfl⟩ :=
        (written_decimal_iff not_hexadecimal).mp other_written
      have split_eq := splitScale_append unsigned scaled
      rw [text_eq, splitScale_append other_unsigned other_scaled] at split_eq
      obtain ⟨rfl, rfl⟩ := Prod.mk.inj split_eq
      rw [unsigned.unique (by decide) other_unsigned]

/-- A text is read as the number that it writes, if that fits a word. -/
theorem numeral?_eq_some_iff : numeral? text = some word ↔ Written text word.toNat := by
  have word_lt := word.toNat_lt
  have read_iff {found : Option Nat} (fits : ∀ number, found = some number → number < Word.count) :
      found.map UInt64.ofNat = some word ↔ found = some word.toNat := by
    rw [Option.map_eq_some_iff]
    constructor
    · rintro ⟨number, rfl, rfl⟩
      rw [UInt64.toNat_ofNat_of_lt' (fits number rfl)]
    · exact fun found_eq => ⟨_, found_eq, UInt64.ofNat_toNat⟩
  unfold numeral?
  split
  · rename_i rest
    rw [read_iff fun number found => ((unsigned?_eq_some_iff (by decide)).mp found).2,
      unsigned?_eq_some_iff (by decide), written_hexadecimal_iff, and_iff_left word_lt]
  · rename_i not_hexadecimal
    rw [read_iff fun number found => (scaled?_eq_some_iff.mp found).1, scaled?_eq_some_iff,
      written_decimal_iff not_hexadecimal, and_iff_right word_lt]

theorem numeral?_eq_none_iff :
    numeral? text = none ↔ ∀ number, Written text number → Word.count ≤ number := by
  constructor
  · intro unread number written
    by_contra too_small
    have number_lt : number < Word.count := Nat.lt_of_not_le too_small
    rw [← UInt64.toNat_ofNat_of_lt' number_lt, ← numeral?_eq_some_iff, unread] at written
    cases written
  · intro too_large
    refine Option.eq_none_iff_forall_ne_some.mpr fun word read => ?_
    exact absurd (too_large _ (numeral?_eq_some_iff.mp read)) (Nat.not_le.mpr word.toNat_lt)

end Numbers

end Safepoint.Options

namespace Safepoint.Settings

open Options

theorem process_heapBase (value : String) (settings : Settings) :
    process "heap_base" value settings =
      match numeral? value.toList with
      | some base => .ok () { settings with heapBase := base }
      | none => .error (.invalid "heap_base" value .notAddress) settings := by
  have read_eq : Assignment.read "heap_base" value =
      Assignment.heapBase <$> orRefuse "heap_base" value .notAddress (numeral? value.toList) := by
    simp [Assignment.read]
  rw [process, read_eq]
  cases numeral? value.toList <;> rfl

/--
A text is accepted as the base of the heap exactly if it follows the grammar and writes a number
that fits a word, which is the base afterwards.  Every other text is refused, and no text can be
understood in two ways.
-/
theorem heapBase_iff_written (value : String) (settings : Settings) :
    (∀ after, process "heap_base" value settings = .ok () after ↔
      ∃ base : Word, Written value.toList base.toNat ∧
        after = { settings with heapBase := base }) ∧
    (∀ refusal after, process "heap_base" value settings = .error refusal after ↔
      (∀ number, Written value.toList number → Word.count ≤ number) ∧
        refusal = .invalid "heap_base" value .notAddress ∧ after = settings) ∧
    (∀ number other, Written value.toList number → Written value.toList other →
      number = other) := by
  refine ⟨fun after => ?_, fun refusal after => ?_, fun number other => Written.unique⟩
  · simp only [process_heapBase, ← numeral?_eq_some_iff]
    cases numeral? value.toList <;> simp [eq_comm]
  · simp only [process_heapBase, ← numeral?_eq_none_iff]
    cases numeral? value.toList <;> simp [eq_comm]

/-- Both notations are accepted; a number that leaves the word only by its scale is refused. -/
theorem heapBase_iff_written_scaled :
    process "heap_base" "0x+Ff" { workers := 1 } = .ok () { heapBase := 255, workers := 1 } ∧
    process "heap_base" "+007k" { workers := 1 } = .ok () { heapBase := 7168, workers := 1 } ∧
    process "heap_base" "17179869184G" { workers := 1 } =
      .error (.invalid "heap_base" "17179869184G" .notAddress) { workers := 1 } := by
  refine ⟨?_, ?_, ?_⟩
  · have row : DigitRow 16 ['F', 'f'] [15, 15] := by
      unfold DigitRow IsDigit
      decide
    exact ((heapBase_iff_written _ _).1 _).mpr ⟨255, .hexadecimal (.signed row), rfl⟩
  · have row : DigitRow 10 ['0', '0', '7'] [0, 0, 7] := by
      unfold DigitRow IsDigit
      decide
    exact ((heapBase_iff_written _ _).1 _).mpr
      ⟨7168, .decimal (.signed row) (.kilo (Or.inr rfl)), rfl⟩
  · obtain ⟨-, refused_iff, unique⟩ := heapBase_iff_written "17179869184G" { workers := 1 }
    have row : DigitRow 10 ['1', '7', '1', '7', '9', '8', '6', '9', '1', '8', '4']
        [1, 7, 1, 7, 9, 8, 6, 9, 1, 8, 4] := by
      unfold DigitRow IsDigit
      decide
    have written : Written "17179869184G".toList (17179869184 * 2 ^ 30) :=
      .decimal (.plain row) (.giga (Or.inl rfl))
    refine (refused_iff _ _).mpr ⟨fun number number_written => ?_, rfl, rfl⟩
    rw [unique number _ number_written written]
    decide

end Safepoint.Settings
