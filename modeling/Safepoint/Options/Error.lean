/-!
# Refused options

Options and settings are refused for one of three causes.  This file lists them, with the reasons
for which a value is refused, and gives the one wording of each.
-/

namespace Safepoint.Options

/-- Why a value is refused. -/
inductive Reason where
  | notBoolean
  | notSize
  | notAddress
  | notCount
  | zero
  | notGranule
  /-- The granule of the settings is too small or too large. -/
  | granuleBounds
  /-- The heap starts inside a granule. -/
  | heapUnaligned
  /-- The heap ends behind the address space. -/
  | heapOverflow
  deriving DecidableEq, Repr

/-- The reason as it is shown in messages. -/
def Reason.text : Reason → String
  | notBoolean => "expected a boolean"
  | notSize => "expected a size"
  | notAddress => "expected an address"
  | notCount => "expected a count"
  | zero => "must be non-zero"
  | notGranule => "must be a power of two between 8 and 4096"
  | granuleBounds => "granule must be between 8 and 4096 bytes"
  | heapUnaligned => "must be aligned to the granule size"
  | heapOverflow => "heap range overflows the address space"

/-- Why an option or a setting is refused. -/
inductive OptionError where
  | unknown (name : String)
  | invalid (name value : String) (reason : Reason)
  /-- The token is not a name and a value with an equals sign between them. -/
  | malformed (token : String)
  deriving DecidableEq, Repr

/-- What is said about a refused option. -/
def OptionError.message : OptionError → String
  | unknown name => s!"unknown GC option: {name}"
  | invalid name value reason =>
      s!"invalid value `{value}` for GC option `{name}`: {reason.text}"
  | malformed token => s!"malformed GC option `{token}`, expected name=value"

end Safepoint.Options
