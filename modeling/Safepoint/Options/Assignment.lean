import Safepoint.Options.Blank
import Safepoint.Options.Numeral
import Safepoint.Settings

/-!
# Options as assignments

An option names one setting and gives it a value.  Reading an option does not depend on the
settings, so a text of options is a row of assignments, cut off by the first option that cannot be
read.  The central statement says that the assignments before a refused option stay made.
-/

namespace Safepoint.Options

open Publication (BarrierMode)

/-- A new value for one setting. -/
inductive Assignment where
  | barrierMode (mode : BarrierMode)
  | logGranule (logGranule : UInt8)
  | heapBase (base : Word)
  | heapSize (size : Word)
  | rootsCapacity (capacity : Word)
  | visitsWhileParking (visits : Bool)
  | workers (count : Word)
  deriving DecidableEq, Repr

/-- The binary logarithm of a granule size, if it is one. -/
def logGranule? (bytes : Word) : Option Nat :=
  (List.range' minLogGranule (maxLogGranule + 1 - minLogGranule)).find? fun exponent =>
    Publication.granuleSize exponent = bytes.toNat

/-- The value, or the refusal of an option for a reason. -/
def orRefuse {Value : Type} (name value : String) (reason : Reason) (found : Option Value) :
    Except OptionError Value :=
  match found with
  | some found => .ok found
  | none => .error (.invalid name value reason)

/-- A number above zero, or the refusal of an option. -/
def readPositive (name value : String) (reason : Reason) : Except OptionError Word := do
  let number ← orRefuse name value reason (numeral? value.toList)
  if number = 0 then
    throw (.invalid name value .zero)
  return number

namespace Assignment

/-- The assignment that an option makes. -/
def read (name value : String) : Except OptionError Assignment :=
  if name = "barrier_fastpath" then do
    let inlined ← orRefuse name value .notBoolean (boolean? value)
    return .barrierMode (if inlined then .inlineChecks else .outOfLine)
  else if name = "granule_bytes" then do
    let bytes ← orRefuse name value .notSize (numeral? value.toList)
    let exponent ← orRefuse name value .notGranule (logGranule? bytes)
    return .logGranule (UInt8.ofNat exponent)
  else if name = "heap_base" then
    heapBase <$> orRefuse name value .notAddress (numeral? value.toList)
  else if name = "heap_size" then
    heapSize <$> readPositive name value .notSize
  else if name = "roots_buffer_capacity" then
    rootsCapacity <$> readPositive name value .notCount
  else if name = "scan_mutators_in_safepoint" then
    visitsWhileParking <$> orRefuse name value .notBoolean (boolean? value)
  else if name = "gc_threads" then
    workers <$> readPositive name value .notCount
  else
    .error (.unknown name)

/-- The assignment that a token makes: its name ends at the first equals sign. -/
def ofToken (token : List Char) : Except OptionError Assignment :=
  match splitAt? '=' token with
  | none => .error (.malformed (String.ofList token))
  | some (name, value) => read (String.ofList name) (String.ofList value)

end Assignment

end Safepoint.Options

namespace Safepoint.Settings

open Options

/-- The settings with one assignment made. -/
def assign (settings : Settings) : Assignment → Settings
  | .barrierMode mode => { settings with barrierMode := mode }
  | .logGranule logGranule => { settings with logGranule := logGranule }
  | .heapBase base => { settings with heapBase := base }
  | .heapSize size => { settings with heapSize := size }
  | .rootsCapacity capacity => { settings with rootsCapacity := capacity }
  | .visitsWhileParking visits => { settings with visitsWhileParking := visits }
  | .workers count => { settings with workers := count }

/-- Makes the assignment of one option. -/
def process (name value : String) : EStateM OptionError Settings Unit := fun settings =>
  match Assignment.read name value with
  | .ok assignment => .ok () (settings.assign assignment)
  | .error refusal => .error refusal settings

/-- Makes the assignments of a row of tokens, up to the first that is refused. -/
def processTokens : List (List Char) → EStateM OptionError Settings Unit
  | [] => fun settings => .ok () settings
  | token :: rest => fun settings =>
      match Assignment.ofToken token with
      | .ok assignment => processTokens rest (settings.assign assignment)
      | .error refusal => .error refusal settings

/-- Makes the assignments of an option text. -/
def processBulk (options : String) : EStateM OptionError Settings Unit :=
  processTokens (tokens options.toList)

/-- A refused option leaves the settings as they were. -/
theorem process_error {name value : String} {settings after : Settings} {refusal : OptionError}
    (refused : process name value settings = .error refusal after) : after = settings := by
  simp only [process] at refused
  split at refused <;> cases refused
  rfl

theorem processTokens_append (front rest : List (List Char)) (settings : Settings) :
    processTokens (front ++ rest) settings =
      match processTokens front settings with
      | .ok _ after => processTokens rest after
      | .error refusal after => .error refusal after := by
  induction front generalizing settings with
  | nil => rfl
  | cons token front ih =>
      simp only [List.cons_append, processTokens]
      cases Assignment.ofToken token with
      | ok assignment => exact ih (settings.assign assignment)
      | error refusal => rfl

/-- The environment variable that may hold an option text. -/
def variableName : String := "OTTER_GC_OPTIONS"

/-- The settings, if they break no constraint. -/
def checked (settings : Settings) : Except OptionError Settings := do
  settings.validate
  return settings

/--
The settings of a process on `processors` processors whose option variable holds the given bytes, if
it is set.  Bytes that are not text count as no options.
-/
def ofEnvironment (processors : Word) (setting : Option ByteArray) : Except OptionError Settings :=
  let defaults : Settings := { workers := processors }
  match setting.bind String.fromUTF8? with
  | none => defaults.checked
  | some options =>
      match processBulk options defaults with
      | .error refusal _ => .error refusal
      | .ok _ settings => settings.checked

end Safepoint.Settings
