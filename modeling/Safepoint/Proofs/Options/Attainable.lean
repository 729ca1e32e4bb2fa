import Mathlib.Algebra.Group.Nat.Defs
import Safepoint.Options.Assignment
import Safepoint.Proofs.Options.Numerals

/-!
# The settings that options can produce

An option is accepted for what it says: `Accepted` lists the names, and for each the values and the
assignment that they make.  Every accepted option keeps the settings within the same bounds, and
every value within the bounds is written by some option.  `Settings.reaches_exact` concludes that
options lead from the defaults to exactly the settings within the bounds, whatever is refused on the
way.
-/

namespace Safepoint

open Publication (BarrierMode granuleSize)

namespace Options

section Except

variable {Value Result : Type}

theorem bind_eq_ok_iff {first : Except OptionError Value}
    {next : Value → Except OptionError Result} {result : Result} :
    (first >>= next) = .ok result ↔ ∃ value, first = .ok value ∧ next value = .ok result := by
  cases first <;> simp [bind, Except.bind]

theorem map_eq_ok_iff {change : Value → Result} {first : Except OptionError Value}
    {result : Result} :
    change <$> first = .ok result ↔ ∃ value, first = .ok value ∧ change value = result := by
  cases first <;> simp [Functor.map, Except.map]

theorem orRefuse_eq_ok_iff {name text : String} {reason : Reason} {found : Option Value}
    {value : Value} : orRefuse name text reason found = .ok value ↔ found = some value := by
  cases found <;> simp [orRefuse]

end Except

theorem readPositive_eq_ok_iff {name value : String} {reason : Reason} {number : Word} :
    readPositive name value reason = .ok number ↔
      numeral? value.toList = some number ∧ number ≠ 0 := by
  simp only [readPositive, bind_eq_ok_iff, orRefuse_eq_ok_iff]
  constructor
  · rintro ⟨found, read, checked⟩
    by_cases is_zero : found = 0
    · simp [is_zero, throw, throwThe, MonadExceptOf.throw, bind, Except.bind] at checked
    · simp only [is_zero, if_false] at checked
      cases checked
      exact ⟨read, is_zero⟩
  · rintro ⟨read, number_ne⟩
    exact ⟨number, read, by simp [number_ne, pure, Except.pure]⟩

theorem granuleSize_eq (exponent : Nat) : granuleSize exponent = 2 ^ exponent := by
  rw [granuleSize, Nat.one_shiftLeft]

theorem logGranule?_eq_some_iff {bytes : Word} {exponent : Nat} :
    logGranule? bytes = some exponent ↔
      3 ≤ exponent ∧ exponent ≤ 12 ∧ bytes.toNat = 2 ^ exponent := by
  have candidates_eq : List.range' minLogGranule (maxLogGranule + 1 - minLogGranule) =
      List.range' 3 10 := rfl
  rw [logGranule?, candidates_eq]
  constructor
  · intro found
    have listed := List.mem_range'_1.mp (List.mem_of_find?_eq_some found)
    have size_eq := List.find?_some found
    rw [decide_eq_true_iff, granuleSize_eq] at size_eq
    exact ⟨listed.1, by omega, size_eq.symm⟩
  · rintro ⟨exponent_ge, exponent_le, bytes_eq⟩
    have found :
        (List.range' 3 10).find? (fun other => granuleSize other = bytes.toNat) ≠ none := by
      rw [Ne, List.find?_eq_none]
      intro none_fits
      refine none_fits exponent (List.mem_range'_1.mpr (by omega)) ?_
      rw [decide_eq_true_iff, granuleSize_eq, bytes_eq]
    obtain ⟨other, other_found⟩ := Option.ne_none_iff_exists'.mp found
    have size_eq := List.find?_some other_found
    rw [decide_eq_true_iff, granuleSize_eq, bytes_eq] at size_eq
    rw [other_found, (Nat.pow_right_inj (by decide)).mp size_eq]

/-- An option that is accepted: its name, its value and the assignment that it makes. -/
inductive Accepted : (name value : String) → Assignment → Prop where
  | barrierMode {value : String} {inlined : Bool} (read : boolean? value = some inlined) :
      Accepted "barrier_fastpath" value
        (.barrierMode (if inlined then .inlineChecks else .outOfLine))
  /-- The size of a granule is a power of two, from a word up to four kilobytes. -/
  | logGranule {value : String} {bytes : Word} {exponent : UInt8}
      (read : numeral? value.toList = some bytes) (exponent_ge : 3 ≤ exponent.toNat)
      (exponent_le : exponent.toNat ≤ 12) (bytes_eq : bytes.toNat = 2 ^ exponent.toNat) :
      Accepted "granule_bytes" value (.logGranule exponent)
  | heapBase {value : String} {base : Word} (read : numeral? value.toList = some base) :
      Accepted "heap_base" value (.heapBase base)
  | heapSize {value : String} {size : Word} (read : numeral? value.toList = some size)
      (size_ne : size ≠ 0) : Accepted "heap_size" value (.heapSize size)
  | rootsCapacity {value : String} {capacity : Word}
      (read : numeral? value.toList = some capacity) (capacity_ne : capacity ≠ 0) :
      Accepted "roots_buffer_capacity" value (.rootsCapacity capacity)
  | visitsWhileParking {value : String} {visits : Bool} (read : boolean? value = some visits) :
      Accepted "scan_mutators_in_safepoint" value (.visitsWhileParking visits)
  | workers {value : String} {count : Word} (read : numeral? value.toList = some count)
      (count_ne : count ≠ 0) : Accepted "gc_threads" value (.workers count)

theorem accepted_of_read {name value : String} {assignment : Assignment}
    (read_ok : Assignment.read name value = .ok assignment) : Accepted name value assignment := by
  unfold Assignment.read at read_ok
  split at read_ok
  · rename_i name_eq
    simp only [bind_eq_ok_iff, orRefuse_eq_ok_iff] at read_ok
    obtain ⟨inlined, read, made⟩ := read_ok
    cases made
    exact name_eq ▸ .barrierMode read
  split at read_ok
  · rename_i name_eq
    simp only [bind_eq_ok_iff, orRefuse_eq_ok_iff, logGranule?_eq_some_iff] at read_ok
    obtain ⟨bytes, read, exponent, ⟨exponent_ge, exponent_le, bytes_eq⟩, made⟩ := read_ok
    cases made
    have exponent_lt : exponent < UInt8.size := Nat.lt_of_le_of_lt exponent_le (by decide)
    rw [← UInt8.toNat_ofNat_of_lt' exponent_lt] at exponent_ge exponent_le bytes_eq
    exact name_eq ▸ .logGranule read exponent_ge exponent_le bytes_eq
  split at read_ok
  · rename_i name_eq
    simp only [map_eq_ok_iff, orRefuse_eq_ok_iff] at read_ok
    obtain ⟨base, read, rfl⟩ := read_ok
    exact name_eq ▸ .heapBase read
  split at read_ok
  · rename_i name_eq
    simp only [map_eq_ok_iff, readPositive_eq_ok_iff] at read_ok
    obtain ⟨size, ⟨read, size_ne⟩, rfl⟩ := read_ok
    exact name_eq ▸ .heapSize read size_ne
  split at read_ok
  · rename_i name_eq
    simp only [map_eq_ok_iff, readPositive_eq_ok_iff] at read_ok
    obtain ⟨capacity, ⟨read, capacity_ne⟩, rfl⟩ := read_ok
    exact name_eq ▸ .rootsCapacity read capacity_ne
  split at read_ok
  · rename_i name_eq
    simp only [map_eq_ok_iff, orRefuse_eq_ok_iff] at read_ok
    obtain ⟨visits, read, rfl⟩ := read_ok
    exact name_eq ▸ .visitsWhileParking read
  split at read_ok
  · rename_i name_eq
    simp only [map_eq_ok_iff, readPositive_eq_ok_iff] at read_ok
    obtain ⟨count, ⟨read, count_ne⟩, rfl⟩ := read_ok
    exact name_eq ▸ .workers read count_ne
  · cases read_ok

theorem Accepted.read_eq {name value : String} {assignment : Assignment}
    (accepted : Accepted name value assignment) :
    Assignment.read name value = .ok assignment := by
  cases accepted with
  | barrierMode read => simp [Assignment.read, read, orRefuse, bind, Except.bind, pure, Except.pure]
  | logGranule read exponent_ge exponent_le bytes_eq =>
      have found := logGranule?_eq_some_iff.mpr ⟨exponent_ge, exponent_le, bytes_eq⟩
      simp [Assignment.read, read, found, orRefuse, bind, Except.bind, pure, Except.pure]
  | heapBase read => simp [Assignment.read, map_eq_ok_iff, orRefuse_eq_ok_iff, read]
  | heapSize read size_ne =>
      simp [Assignment.read, map_eq_ok_iff, readPositive_eq_ok_iff, read, size_ne]
  | rootsCapacity read capacity_ne =>
      simp [Assignment.read, map_eq_ok_iff, readPositive_eq_ok_iff, read, capacity_ne]
  | visitsWhileParking read => simp [Assignment.read, map_eq_ok_iff, orRefuse_eq_ok_iff, read]
  | workers read count_ne =>
      simp [Assignment.read, map_eq_ok_iff, readPositive_eq_ok_iff, read, count_ne]

/-- The options that can be read are those that are accepted. -/
theorem read_eq_ok_iff {name value : String} {assignment : Assignment} :
    Assignment.read name value = .ok assignment ↔ Accepted name value assignment :=
  ⟨accepted_of_read, Accepted.read_eq⟩

/-- A truth value as it is written in an option. -/
def booleanText (truth : Bool) : String := if truth then "true" else "false"

theorem boolean?_booleanText (truth : Bool) : boolean? (booleanText truth) = some truth := by
  cases truth <;> rfl

namespace Assignment

/-- The name of the option that makes the assignment. -/
def name : Assignment → String
  | barrierMode _ => "barrier_fastpath"
  | logGranule _ => "granule_bytes"
  | heapBase _ => "heap_base"
  | heapSize _ => "heap_size"
  | rootsCapacity _ => "roots_buffer_capacity"
  | visitsWhileParking _ => "scan_mutators_in_safepoint"
  | workers _ => "gc_threads"

/-- A value with which that option makes the assignment. -/
def value : Assignment → String
  | barrierMode mode => booleanText (decide (mode = .inlineChecks))
  | logGranule exponent => Word.decimal (UInt64.ofNat (2 ^ exponent.toNat))
  | heapBase base => Word.decimal base
  | heapSize size => Word.decimal size
  | rootsCapacity capacity => Word.decimal capacity
  | visitsWhileParking visits => booleanText visits
  | workers count => Word.decimal count

/-- The assigned value keeps the bounds of its setting. -/
def Bounded : Assignment → Prop
  | logGranule exponent => 3 ≤ exponent.toNat ∧ exponent.toNat ≤ 12
  | heapSize size => size ≠ 0
  | rootsCapacity capacity => capacity ≠ 0
  | workers count => count ≠ 0
  | barrierMode _ | heapBase _ | visitsWhileParking _ => True

end Assignment

variable {name value : String} {assignment : Assignment}

theorem Accepted.name_eq (accepted : Accepted name value assignment) :
    assignment.name = name := by
  cases accepted <;> rfl

theorem Accepted.bounded (accepted : Accepted name value assignment) : assignment.Bounded := by
  cases accepted with
  | barrierMode | heapBase | visitsWhileParking => trivial
  | logGranule read exponent_ge exponent_le bytes_eq => exact ⟨exponent_ge, exponent_le⟩
  | heapSize read size_ne => exact size_ne
  | rootsCapacity read capacity_ne => exact capacity_ne
  | workers read count_ne => exact count_ne

theorem Assignment.Bounded.accepted (bounded : assignment.Bounded) :
    Accepted assignment.name assignment.value assignment := by
  cases assignment with
  | barrierMode mode =>
      have accepted := Accepted.barrierMode (boolean?_booleanText (decide (mode = .inlineChecks)))
      cases mode <;> exact accepted
  | logGranule exponent =>
      obtain ⟨exponent_ge, exponent_le⟩ := bounded
      have size_lt : 2 ^ exponent.toNat < UInt64.size :=
        Nat.lt_of_le_of_lt (Nat.pow_le_pow_right (by decide) exponent_le) (by decide)
      exact .logGranule (numeral?_decimal _) exponent_ge exponent_le
        (UInt64.toNat_ofNat_of_lt' size_lt)
  | heapBase base => exact .heapBase (numeral?_decimal base)
  | heapSize size => exact .heapSize (numeral?_decimal size) bounded
  | rootsCapacity capacity => exact .rootsCapacity (numeral?_decimal capacity) bounded
  | visitsWhileParking visits => exact .visitsWhileParking (boolean?_booleanText visits)
  | workers count => exact .workers (numeral?_decimal count) bounded

end Options

namespace Settings

open Options

variable {start settings before after : Settings} {assignment : Assignment}
variable {name value : String}

/-- The bounds that options never leave. -/
structure Attainable (settings : Settings) : Prop where
  logGranule_ge : 3 ≤ settings.logGranule.toNat
  logGranule_le : settings.logGranule.toNat ≤ 12
  heapSize_ne : settings.heapSize ≠ 0
  rootsCapacity_ne : settings.rootsCapacity ≠ 0
  workers_ne : settings.workers ≠ 0

/-- The settings differ at most in the one that options of this name are about. -/
structure SameBut (name : String) (before after : Settings) : Prop where
  barrierMode_eq : name ≠ "barrier_fastpath" → after.barrierMode = before.barrierMode
  logGranule_eq : name ≠ "granule_bytes" → after.logGranule = before.logGranule
  heapBase_eq : name ≠ "heap_base" → after.heapBase = before.heapBase
  heapSize_eq : name ≠ "heap_size" → after.heapSize = before.heapSize
  rootsCapacity_eq : name ≠ "roots_buffer_capacity" → after.rootsCapacity = before.rootsCapacity
  visitsWhileParking_eq : name ≠ "scan_mutators_in_safepoint" →
    after.visitsWhileParking = before.visitsWhileParking
  workers_eq : name ≠ "gc_threads" → after.workers = before.workers

theorem sameBut_assign (settings : Settings) (assignment : Assignment) :
    SameBut assignment.name settings (settings.assign assignment) := by
  cases assignment <;> constructor <;> simp [assign, Assignment.name]

theorem Attainable.assign (attainable : settings.Attainable) (bounded : assignment.Bounded) :
    (settings.assign assignment).Attainable := by
  cases assignment with
  | barrierMode | heapBase | visitsWhileParking => exact { attainable with }
  | logGranule exponent =>
      exact { attainable with logGranule_ge := bounded.1, logGranule_le := bounded.2 }
  | heapSize size => exact { attainable with heapSize_ne := bounded }
  | rootsCapacity capacity => exact { attainable with rootsCapacity_ne := bounded }
  | workers count => exact { attainable with workers_ne := bounded }

/-- An option that succeeds makes an assignment to the setting of its name. -/
theorem exists_of_process_ok (ended : process name value before = .ok () after) :
    ∃ assignment, Accepted name value assignment ∧ after = before.assign assignment := by
  cases read : Assignment.read name value with
  | ok assignment =>
      simp only [process, read] at ended
      cases ended
      exact ⟨assignment, read_eq_ok_iff.mp read, rfl⟩
  | error refusal =>
      simp only [process, read] at ended
      cases ended

theorem process_of_accepted (accepted : Accepted name value assignment) (settings : Settings) :
    process name value settings = .ok () (settings.assign assignment) := by
  simp only [process, accepted.read_eq]

theorem granuleBytes_of_process (ended : process "granule_bytes" value before = .ok () after) :
    ∃ bytes, numeral? value.toList = some bytes ∧ after.granuleBytes = .ok bytes := by
  obtain ⟨assignment, accepted, rfl⟩ := exists_of_process_ok ended
  generalize name_eq : "granule_bytes" = name at accepted
  cases accepted with
  | @logGranule value bytes exponent read exponent_ge exponent_le bytes_eq =>
      have exponent_lt : exponent < 64 :=
        UInt8.lt_iff_toNat_lt.mpr (Nat.lt_of_le_of_lt exponent_le (by decide))
      refine ⟨bytes, read, ?_⟩
      rw [granuleBytes, assign, if_pos exponent_lt, granuleSize_eq, ← bytes_eq, UInt64.ofNat_toNat]
  | barrierMode | heapBase | heapSize | rootsCapacity | visitsWhileParking | workers =>
      simp at name_eq

/-- The settings that a call leaves, refused or not. -/
def left : EStateM.Result OptionError Settings Unit → Settings
  | .ok _ settings => settings
  | .error _ settings => settings

/-- The ways to give options. -/
inductive OptionCall where
  /-- One option with its name and its value. -/
  | one (name value : String)
  /-- A text of options. -/
  | text (options : String)

def OptionCall.perform : OptionCall → EStateM OptionError Settings Unit
  | one name value => process name value
  | text options => processBulk options

/-- The settings that calls lead to from `start`, whether or not they are refused. -/
inductive Reaches (start : Settings) : Settings → Prop where
  | start : Reaches start start
  | call {settings : Settings} (reached : Reaches start settings) (call : OptionCall) :
      Reaches start (left (call.perform settings))

theorem Attainable.process (attainable : settings.Attainable) (name value : String) :
    (left (process name value settings)).Attainable := by
  unfold Settings.process
  cases read : Assignment.read name value with
  | ok assignment => exact attainable.assign (accepted_of_read read).bounded
  | error refusal => exact attainable

theorem Attainable.processTokens (attainable : settings.Attainable) (tokens : List (List Char)) :
    (left (processTokens tokens settings)).Attainable := by
  induction tokens generalizing settings with
  | nil => exact attainable
  | cons token rest ih =>
      unfold Settings.processTokens Assignment.ofToken
      cases parts_eq : splitAt? '=' token with
      | none => exact attainable
      | some parts =>
          dsimp only
          cases read : Assignment.read (String.ofList parts.1) (String.ofList parts.2) with
          | ok assignment => exact ih (attainable.assign (accepted_of_read read).bounded)
          | error refusal => exact attainable

theorem Attainable.of_reaches (attainable : start.Attainable) (reaches : Reaches start settings) :
    settings.Attainable := by
  induction reaches with
  | start => exact attainable
  | call reached call ih =>
      cases call with
      | one name value => exact ih.process name value
      | text options => exact ih.processTokens (tokens options.toList)

theorem Reaches.assign (reaches : Reaches start settings) (bounded : assignment.Bounded) :
    Reaches start (settings.assign assignment) := by
  have reached := reaches.call (.one assignment.name assignment.value)
  rwa [OptionCall.perform, process_of_accepted bounded.accepted] at reached

theorem Reaches.assignAll {assignments : List Assignment} (reaches : Reaches start settings)
    (bounded : ∀ assignment ∈ assignments, assignment.Bounded) :
    Reaches start (assignments.foldl Settings.assign settings) := by
  induction assignments generalizing settings with
  | nil => exact reaches
  | cons assignment rest ih =>
      obtain ⟨first_bounded, rest_bounded⟩ := List.forall_mem_cons.mp bounded
      exact ih (reaches.assign first_bounded) rest_bounded

/-- The assignments that make these settings out of any others. -/
def assignments (settings : Settings) : List Assignment :=
  [.barrierMode settings.barrierMode, .logGranule settings.logGranule,
    .heapBase settings.heapBase, .heapSize settings.heapSize,
    .rootsCapacity settings.rootsCapacity, .visitsWhileParking settings.visitsWhileParking,
    .workers settings.workers]

theorem foldl_assignments (settings start : Settings) :
    settings.assignments.foldl assign start = settings := rfl

/-- All settings within the bounds are reached, whatever the start. -/
theorem Attainable.reaches (attainable : settings.Attainable) (start : Settings) :
    Reaches start settings := by
  rw [← settings.foldl_assignments start]
  apply Reaches.start.assignAll
  intro assignment member
  simp only [assignments, List.mem_cons, List.not_mem_nil, or_false] at member
  rcases member with rfl | rfl | rfl | rfl | rfl | rfl | rfl
  · trivial
  · exact ⟨attainable.logGranule_ge, attainable.logGranule_le⟩
  · trivial
  · exact attainable.heapSize_ne
  · exact attainable.rootsCapacity_ne
  · trivial
  · exact attainable.workers_ne

/--
Options lead from the defaults to exactly the settings within the bounds.  An option that is refused
changes nothing, one that is accepted changes no setting but its own, and an accepted size of
granules is the size that they have afterwards.
-/
theorem reaches_exact {workers : Word} (workers_ne : workers ≠ 0) :
    (∀ settings, Reaches { workers := workers } settings ↔ settings.Attainable) ∧
    (∀ name value before after refusal,
      process name value before = .error refusal after → after = before) ∧
    (∀ name value before after, process name value before = .ok () after →
      SameBut name before after ∧
        ∃ assignment, assignment.name = name ∧ after = before.assign assignment) ∧
    (∀ value before after, process "granule_bytes" value before = .ok () after →
      ∃ bytes, numeral? value.toList = some bytes ∧ after.granuleBytes = .ok bytes) := by
  have defaults_attainable : Attainable { workers := workers } :=
    { logGranule_ge := show 3 ≤ (3 : UInt8).toNat by decide
      logGranule_le := show (3 : UInt8).toNat ≤ 12 by decide
      heapSize_ne := show (0x10000000 : Word) ≠ 0 by decide
      rootsCapacity_ne := show (4096 : Word) ≠ 0 by decide
      workers_ne := workers_ne }
  refine ⟨fun settings => ⟨defaults_attainable.of_reaches, fun attainable => ?_⟩, ?_, ?_, ?_⟩
  · exact attainable.reaches _
  · intro name value before after refusal refused
    exact process_error refused
  · intro name value before after ended
    obtain ⟨assignment, accepted, rfl⟩ := exists_of_process_ok ended
    have same := sameBut_assign before assignment
    rw [accepted.name_eq] at same
    exact ⟨same, assignment, accepted.name_eq, rfl⟩
  · intro value before after ended
    exact granuleBytes_of_process ended

/-- Settings at the upper ends of all ranges. -/
def widest : Settings where
  barrierMode := .outOfLine
  logGranule := 12
  heapBase := 0xffffffffffffffff
  heapSize := 0xffffffffffffffff
  rootsCapacity := 0xffffffffffffffff
  visitsWhileParking := false
  workers := 0xffffffffffffffff

/-- From the defaults with one worker, options lead to the widest settings and not beyond. -/
theorem reaches_exact_widest :
    Reaches { workers := 1 } widest ∧
      ¬Reaches { workers := 1 } { widest with logGranule := 13 } := by
  have one_ne : (1 : Word) ≠ 0 := by decide
  have reaches_iff := (reaches_exact one_ne).1
  constructor
  · exact (reaches_iff _).mpr
      { logGranule_ge := by decide
        logGranule_le := by decide
        heapSize_ne := by decide
        rootsCapacity_ne := by decide
        workers_ne := by decide }
  · intro reaches
    have logGranule_le := ((reaches_iff _).mp reaches).logGranule_le
    exact absurd logGranule_le (by decide)

end Settings

end Safepoint
