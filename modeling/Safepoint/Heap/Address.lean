/-!
# Machine words, addresses and references

Everything the collector handles lives in a 64-bit address space.  This file gives the words of
that space with their checked arithmetic, and the four kinds of word the rest of the library tells
apart: addresses, object references, runtime threads and mutator numbers.  The central statements
say that a checked operation answers exactly when the result on natural numbers fits a word.
-/

namespace Safepoint

/-- A 64-bit machine word. -/
abbrev Word := UInt64

namespace Word

/-- How many words there are. -/
abbrev count : Nat := UInt64.size

/-- The sum, unless it leaves the word. -/
def add? (left right : Word) : Option Word :=
  if left.toNat + right.toNat < count then some (left + right) else none

/-- The product, unless it leaves the word. -/
def mul? (left right : Word) : Option Word :=
  if left.toNat * right.toNat < count then some (left * right) else none

theorem toNat_lt (word : Word) : word.toNat < count :=
  UInt64.toNat_lt_size word

theorem add?_eq_some_iff {left right sum : Word} :
    add? left right = some sum ↔ left.toNat + right.toNat = sum.toNat := by
  unfold add?
  have sum_lt := toNat_lt sum
  split
  · rename_i fits
    rw [Option.some.injEq, ← UInt64.toNat_inj, UInt64.toNat_add,
      Nat.mod_eq_of_lt (by simpa [count] using fits)]
  · rename_i overflows
    constructor
    · intro absurd_eq
      cases absurd_eq
    · intro sum_eq
      omega

theorem add?_eq_none_iff {left right : Word} :
    add? left right = none ↔ count ≤ left.toNat + right.toNat := by
  unfold add?
  split <;> simp <;> omega

theorem mul?_eq_some_iff {left right product : Word} :
    mul? left right = some product ↔ left.toNat * right.toNat = product.toNat := by
  unfold mul?
  have product_lt := toNat_lt product
  split
  · rename_i fits
    rw [Option.some.injEq, ← UInt64.toNat_inj, UInt64.toNat_mul,
      Nat.mod_eq_of_lt (by simpa [count] using fits)]
  · rename_i overflows
    constructor
    · intro absurd_eq
      cases absurd_eq
    · intro product_eq
      omega

/-- Lower-case hexadecimal digits behind `0x`, without leading zeros. -/
def hex (word : Word) : String :=
  "0x" ++ String.ofList (Nat.toDigits 16 word.toNat)

/-- Decimal digits. -/
def decimal (word : Word) : String :=
  String.ofList (Nat.toDigits 10 word.toNat)

end Word

/-- A machine address: of a heap slot, a root slot, a code blob or the start of an object. -/
structure Address where
  /-- Position in the address space. -/
  word : Word
  deriving DecidableEq, Repr

namespace Address

/-- The address as a natural number. -/
def toNat (address : Address) : Nat := address.word.toNat

theorem toNat_lt (address : Address) : address.toNat < Word.count :=
  Word.toNat_lt address.word

theorem toNat_inj {left right : Address} : left.toNat = right.toNat ↔ left = right := by
  cases left
  cases right
  simp [toNat, UInt64.toNat_inj]

/-- The address `bytes` further on, unless that leaves the address space. -/
def offset? (address : Address) (bytes : Word) : Option Address :=
  (Word.add? address.word bytes).map Address.mk

theorem offset?_eq_some_iff {address sum : Address} {bytes : Word} :
    address.offset? bytes = some sum ↔ address.toNat + bytes.toNat = sum.toNat := by
  obtain ⟨word⟩ := sum
  simp only [offset?, Option.map_eq_some_iff, Word.add?_eq_some_iff, toNat, Address.mk.injEq]
  constructor
  · rintro ⟨found, sum_eq, rfl⟩
    exact sum_eq
  · intro sum_eq
    exact ⟨word, sum_eq, rfl⟩

theorem exists_offset? {address : Address} {bytes : Word}
    (fits : address.toNat + bytes.toNat < Word.count) :
    ∃ sum, address.offset? bytes = some sum ∧ sum.toNat = address.toNat + bytes.toNat := by
  refine ⟨⟨UInt64.ofNat (address.toNat + bytes.toNat)⟩, ?_, UInt64.toNat_ofNat_of_lt' fits⟩
  rw [offset?_eq_some_iff]
  exact (UInt64.toNat_ofNat_of_lt' fits).symm

/--
Whether no bit below `alignment` is set: for a power of two, whether the address is a multiple of
it.  Zero has no bits below it, and the question then has no answer.
-/
def aligned? (address : Address) (alignment : Word) : Option Bool :=
  if alignment = 0 then none else some (address.word &&& (alignment - 1) == 0)

/-- Order of two addresses: by position. -/
def compare (left right : Address) : Ordering :=
  Ord.compare left.toNat right.toNat

/-- The address as it is shown in messages. -/
def text (address : Address) : String := Word.hex address.word

end Address

/-- A reference to a managed object, which is the address where the object starts; zero is null. -/
structure ObjectRef where
  /-- Start of the object. -/
  word : Word
  deriving DecidableEq, Repr

namespace ObjectRef

/-- The reference to no object. -/
def null : ObjectRef := ⟨0⟩

/-- Where the object starts. -/
def address (object : ObjectRef) : Address := ⟨object.word⟩

/-- The object that starts at an address. -/
def ofAddress (address : Address) : ObjectRef := ⟨address.word⟩

@[simp]
theorem address_ofAddress (address : Address) : (ofAddress address).address = address := rfl

@[simp]
theorem ofAddress_address (object : ObjectRef) : ofAddress object.address = object := rfl

/-- The reference as it is shown in messages. -/
def text (object : ObjectRef) : String :=
  if object = null then "null" else "obj@" ++ Word.hex object.word

end ObjectRef

/-- The name the runtime gives to one of its threads. -/
structure ThreadId where
  /-- The runtime's own number for the thread. -/
  word : Word
  deriving DecidableEq, Repr

/-- The thread as it is shown in messages. -/
def ThreadId.text (thread : ThreadId) : String :=
  "VmThread(" ++ Word.decimal thread.word ++ ")"

/-- The number a mutator gets when it attaches; numbers are handed out in order from zero. -/
structure MutatorId where
  /-- Position in the order of attachment. -/
  word : Word
  deriving DecidableEq, Repr

/-- The mutator as it is shown in messages. -/
def MutatorId.text (mutator : MutatorId) : String :=
  "MutatorId(" ++ Word.decimal mutator.word ++ ")"

end Safepoint
