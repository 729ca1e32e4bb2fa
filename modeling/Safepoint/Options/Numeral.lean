import Safepoint.Heap.Address

/-!
# Numerals

Sizes, counts and addresses are written as hexadecimal digits behind `0x`, or as decimal digits
that may be followed by one letter for a binary scale.  Either row of digits may stand behind a
plus sign, only ASCII digits count, and the number has to fit a word.
-/

namespace Safepoint.Options

/-- The value of an ASCII digit, letters of either case standing for ten and more. -/
def digitValue (char : Char) : Option Nat :=
  if '0' ≤ char ∧ char ≤ '9' then some (char.toNat - '0'.toNat)
  else if 'a' ≤ char ∧ char ≤ 'z' then some (char.toNat - 'a'.toNat + 10)
  else if 'A' ≤ char ∧ char ≤ 'Z' then some (char.toNat - 'A'.toNat + 10)
  else none

/-- The value of a digit of the given radix. -/
def digit? (radix : Nat) (char : Char) : Option Nat :=
  (digitValue char).filter fun value => decide (value < radix)

/-- The number written by a row of digits that continues one worth `value`. -/
def digits? (radix value : Nat) : List Char → Option Nat
  | [] => some value
  | char :: rest => (digit? radix char).bind fun digit => digits? radix (value * radix + digit) rest

/-- The text without one leading plus sign. -/
def dropPlus : List Char → List Char
  | '+' :: rest => rest
  | text => text

/-- The number written by one digit or more behind an optional plus sign, if it fits a word. -/
def unsigned? (radix : Nat) (text : List Char) : Option Nat :=
  match dropPlus text with
  | [] => none
  | digits => (digits? radix 0 digits).filter fun value => decide (value < Word.count)

/-- The binary scale that a letter stands for. -/
def scale? (char : Char) : Option Nat :=
  if char = 'K' ∨ char = 'k' then some 1024
  else if char = 'M' ∨ char = 'm' then some (1024 * 1024)
  else if char = 'G' ∨ char = 'g' then some (1024 * 1024 * 1024)
  else none

/-- The decimal digits of a text and the scale of its last letter, which is one without a letter. -/
def splitScale (text : List Char) : List Char × Nat :=
  match text.getLast?.bind scale? with
  | some scale => (text.dropLast, scale)
  | none => (text, 1)

/-- A decimal number with an optional scale, if it fits a word. -/
def scaled? (text : List Char) : Option Nat :=
  (unsigned? 10 (splitScale text).1).bind fun value =>
    if value * (splitScale text).2 < Word.count then some (value * (splitScale text).2) else none

/-- The number written by a text in either notation. -/
def numeral? : List Char → Option Word
  | '0' :: 'x' :: digits => (unsigned? 16 digits).map UInt64.ofNat
  | text => (scaled? text).map UInt64.ofNat

/-- The truth value written by a text. -/
def boolean? (text : String) : Option Bool :=
  if text = "true" ∨ text = "1" ∨ text = "yes" then some true
  else if text = "false" ∨ text = "0" ∨ text = "no" then some false
  else none

end Safepoint.Options
