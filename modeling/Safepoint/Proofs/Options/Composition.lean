import Safepoint.Proofs.Options.Attainable
import Safepoint.Proofs.Options.Tokens

/-!
# Texts of options compose

A text of options does what its tokens do one after another, up to the first that is refused.  What
an option assigns depends on nothing else, so of several options for one setting the last one counts.
`Settings.processBulk_composes` puts this together: texts may be joined and cut at blanks, a refusal
is that of the first token that is refused, and options for different settings may change places.
-/

namespace Safepoint.Options

variable {token : List Char} {name value : String}

/-- The token is an option: a name and a value around the first equals sign. -/
structure Parts (token : List Char) (name value : String) : Prop where
  token_eq : token = name.toList ++ '=' :: value.toList
  name_free : '=' ∉ name.toList

theorem Parts.splitAt?_eq (parts : Parts token name value) :
    splitAt? '=' token = some (name.toList, value.toList) :=
  splitAt?_eq_some_iff.mpr ⟨parts.token_eq, parts.name_free⟩

theorem Parts.ofToken_eq (parts : Parts token name value) :
    Assignment.ofToken token = Assignment.read name value := by
  rw [Assignment.ofToken, parts.splitAt?_eq]
  simp only [String.ofList_toList]

theorem ofToken_of_malformed (no_sign : '=' ∉ token) :
    Assignment.ofToken token = .error (.malformed (String.ofList token)) := by
  rw [Assignment.ofToken, splitAt?_eq_none_iff.mpr no_sign]

theorem malformed_or_parts (token : List Char) :
    '=' ∉ token ∨ ∃ name value, Parts token name value := by
  cases cut : splitAt? '=' token with
  | none => exact Or.inl (splitAt?_eq_none_iff.mp cut)
  | some parts =>
      obtain ⟨token_eq, name_free⟩ := splitAt?_eq_some_iff.mp cut
      refine Or.inr ⟨String.ofList parts.1, String.ofList parts.2, ?_, ?_⟩
      · simpa using token_eq
      · simpa using name_free

/-- The token is an option of this name. -/
def isNamed (name : String) (token : List Char) : Bool :=
  (splitAt? '=' token).any fun parts => decide (String.ofList parts.1 = name)

theorem Parts.isNamed_iff (parts : Parts token name value) {other : String} :
    isNamed other token = true ↔ name = other := by
  simp [isNamed, parts.splitAt?_eq]

section Except

variable {Value Result : Type} {refusal : OptionError}

theorem bind_eq_error_iff {first : Except OptionError Value}
    {next : Value → Except OptionError Result} :
    (first >>= next) = .error refusal ↔
      first = .error refusal ∨ ∃ value, first = .ok value ∧ next value = .error refusal := by
  cases first <;> simp [bind, Except.bind]

theorem map_eq_error_iff {change : Value → Result} {first : Except OptionError Value} :
    change <$> first = .error refusal ↔ first = .error refusal := by
  cases first <;> simp [Functor.map, Except.map]

theorem orRefuse_eq_error_iff {text : String} {reason : Reason} {found : Option Value} :
    orRefuse name text reason found = .error refusal ↔
      found = none ∧ refusal = .invalid name text reason := by
  cases found <;> simp [orRefuse, eq_comm]

end Except

theorem refusal_of_readPositive {reason : Reason} {refusal : OptionError}
    (refused : readPositive name value reason = .error refusal) :
    ∃ cause, refusal = .invalid name value cause := by
  simp only [readPositive, bind_eq_error_iff, orRefuse_eq_error_iff] at refused
  rcases refused with ⟨-, refusal_eq⟩ | ⟨number, -, checked⟩
  · exact ⟨reason, refusal_eq⟩
  · by_cases is_zero : number = 0
    · simp only [is_zero, if_true, throw, throwThe, MonadExceptOf.throw, bind, Except.bind] at checked
      cases checked
      exact ⟨.zero, rfl⟩
    · simp only [is_zero, if_false] at checked
      cases checked

/-- A refusal names the option and repeats the value that it refuses. -/
theorem refusal_of_read {refusal : OptionError}
    (refused : Assignment.read name value = .error refusal) :
    refusal = .unknown name ∨ ∃ reason, refusal = .invalid name value reason := by
  unfold Assignment.read at refused
  split at refused
  · simp only [bind_eq_error_iff, orRefuse_eq_error_iff] at refused
    rcases refused with ⟨-, refusal_eq⟩ | ⟨inlined, -, made⟩
    · exact Or.inr ⟨_, refusal_eq⟩
    · cases made
  split at refused
  · simp only [bind_eq_error_iff, orRefuse_eq_error_iff] at refused
    rcases refused with ⟨-, refusal_eq⟩ | ⟨bytes, -, ⟨-, refusal_eq⟩ | ⟨exponent, -, made⟩⟩
    · exact Or.inr ⟨_, refusal_eq⟩
    · exact Or.inr ⟨_, refusal_eq⟩
    · cases made
  split at refused
  · rw [map_eq_error_iff, orRefuse_eq_error_iff] at refused
    exact Or.inr ⟨_, refused.2⟩
  split at refused
  · exact Or.inr (refusal_of_readPositive (map_eq_error_iff.mp refused))
  split at refused
  · exact Or.inr (refusal_of_readPositive (map_eq_error_iff.mp refused))
  split at refused
  · rw [map_eq_error_iff, orRefuse_eq_error_iff] at refused
    exact Or.inr ⟨_, refused.2⟩
  split at refused
  · exact Or.inr (refusal_of_readPositive (map_eq_error_iff.mp refused))
  · cases refused
    exact Or.inl rfl

end Safepoint.Options

namespace Safepoint.Settings

open Options

variable {settings before after left right : Settings} {refusal : OptionError}
variable {token : List Char} {row front rest : List (List Char)} {name value : String}

/-- All the tokens are options that are accepted, one after another. -/
inductive Applies : List (List Char) → Settings → Settings → Prop where
  | done {settings : Settings} : Applies [] settings settings
  | next {token : List Char} {rest : List (List Char)} {name value : String}
      {before middle after : Settings} (parts : Parts token name value)
      (accepted : process name value before = .ok () middle)
      (applies : Applies rest middle after) : Applies (token :: rest) before after

/-- The token is refused: it is no option, or its option is refused. -/
inductive Refused (settings : Settings) (token : List Char) : OptionError → Prop where
  | malformed (no_sign : '=' ∉ token) : Refused settings token (.malformed (String.ofList token))
  | option {name value : String} {refusal : OptionError} (parts : Parts token name value)
      (refused : process name value settings = .error refusal settings) :
      Refused settings token refusal

/-- The token is an option that is accepted. -/
def Acceptable (token : List Char) : Prop :=
  ∃ name value, Parts token name value ∧ ∃ before after, process name value before = .ok () after

theorem process_eq_ok_iff :
    process name value before = .ok () after ↔
      ∃ assignment, Assignment.read name value = .ok assignment ∧
        after = before.assign assignment := by
  simp only [read_eq_ok_iff]
  constructor
  · exact exists_of_process_ok
  · rintro ⟨assignment, accepted, rfl⟩
    exact process_of_accepted accepted before

theorem process_eq_error_iff :
    process name value before = .error refusal after ↔
      Assignment.read name value = .error refusal ∧ after = before := by
  unfold process
  cases Assignment.read name value <;> simp [eq_comm]

theorem processTokens_of_accepted {assignment : Assignment}
    (read : Assignment.ofToken token = .ok assignment) (rest : List (List Char))
    (settings : Settings) :
    processTokens (token :: rest) settings = processTokens rest (settings.assign assignment) := by
  rw [processTokens, read]

theorem processTokens_of_refused (read : Assignment.ofToken token = .error refusal)
    (rest : List (List Char)) (settings : Settings) :
    processTokens (token :: rest) settings = .error refusal settings := by
  rw [processTokens, read]

theorem refused_iff : Refused settings token refusal ↔ Assignment.ofToken token = .error refusal := by
  constructor
  · intro refused
    cases refused with
    | malformed no_sign => exact ofToken_of_malformed no_sign
    | option parts refused =>
        rw [parts.ofToken_eq]
        exact (process_eq_error_iff.mp refused).1
  · intro read
    rcases malformed_or_parts token with no_sign | ⟨name, value, parts⟩
    · rw [ofToken_of_malformed no_sign] at read
      cases read
      exact .malformed no_sign
    · rw [parts.ofToken_eq] at read
      exact .option parts (process_eq_error_iff.mpr ⟨read, rfl⟩)

theorem Refused.malformed_iff (refused : Refused settings token refusal) :
    refusal = .malformed (String.ofList token) ↔ '=' ∉ token := by
  cases refused with
  | malformed no_sign => exact iff_of_true rfl no_sign
  | option parts refused =>
      have has_sign : '=' ∈ token := by simp [parts.token_eq]
      refine iff_of_false (fun refusal_eq => ?_) fun no_sign => no_sign has_sign
      rcases refusal_of_read (process_eq_error_iff.mp refused).1 with rfl | ⟨reason, rfl⟩ <;>
        cases refusal_eq

theorem applies_cons_iff :
    Applies (token :: rest) before after ↔
      ∃ assignment, Assignment.ofToken token = .ok assignment ∧
        Applies rest (before.assign assignment) after := by
  constructor
  · intro applies
    cases applies with
    | next parts accepted applies =>
        obtain ⟨assignment, read, rfl⟩ := process_eq_ok_iff.mp accepted
        exact ⟨assignment, parts.ofToken_eq.trans read, applies⟩
  · rintro ⟨assignment, read, applies⟩
    rcases malformed_or_parts token with no_sign | ⟨name, value, parts⟩
    · rw [ofToken_of_malformed no_sign] at read
      cases read
    · rw [parts.ofToken_eq] at read
      exact .next parts (process_eq_ok_iff.mpr ⟨assignment, read, rfl⟩) applies

theorem processTokens_eq_ok_iff :
    processTokens row before = .ok () after ↔ Applies row before after := by
  induction row generalizing before with
  | nil =>
      constructor
      · rintro ⟨⟩
        exact .done
      · rintro ⟨⟩
        rfl
  | cons token rest ih =>
      rw [applies_cons_iff]
      cases read : Assignment.ofToken token with
      | ok assignment => simp [processTokens_of_accepted read, ih]
      | error refusal => simp [processTokens_of_refused read]

/-- The first token that is refused decides, and all tokens before it have been applied. -/
theorem processTokens_eq_error_iff :
    processTokens row before = .error refusal after ↔
      ∃ front token rest, row = front ++ token :: rest ∧ Applies front before after ∧
        Refused after token refusal := by
  constructor
  · intro ended
    induction row generalizing before with
    | nil => cases ended
    | cons token rest ih =>
        cases read : Assignment.ofToken token with
        | ok assignment =>
            rw [processTokens_of_accepted read] at ended
            obtain ⟨front, first, others, rfl, applies, refused⟩ := ih ended
            exact ⟨token :: front, first, others, rfl,
              applies_cons_iff.mpr ⟨assignment, read, applies⟩, refused⟩
        | error refusal =>
            rw [processTokens_of_refused read] at ended
            cases ended
            exact ⟨[], token, rest, rfl, .done, refused_iff.mpr read⟩
  · rintro ⟨front, token, rest, rfl, applies, refused⟩
    rw [processTokens_append, processTokens_eq_ok_iff.mpr applies]
    exact processTokens_of_refused (refused_iff.mp refused) rest after

/-! ## The last option for a setting counts -/

theorem Acceptable.exists_read (acceptable : Acceptable token) :
    ∃ assignment, Assignment.ofToken token = .ok assignment := by
  obtain ⟨name, value, parts, before, after, accepted⟩ := acceptable
  obtain ⟨assignment, read, -⟩ := process_eq_ok_iff.mp accepted
  exact ⟨assignment, parts.ofToken_eq.trans read⟩

/-- Tokens that are accepted somewhere are accepted in a row, whatever the settings. -/
theorem exists_applies (acceptable : ∀ token ∈ row, Acceptable token) (before : Settings) :
    ∃ after, Applies row before after := by
  induction row generalizing before with
  | nil => exact ⟨before, .done⟩
  | cons token rest ih =>
      obtain ⟨token_acceptable, rest_acceptable⟩ := List.forall_mem_cons.mp acceptable
      obtain ⟨assignment, read⟩ := token_acceptable.exists_read
      obtain ⟨after, applies⟩ := ih rest_acceptable (before.assign assignment)
      exact ⟨after, applies_cons_iff.mpr ⟨assignment, read, applies⟩⟩

/-- What the settings hold for the option of a name, as the assignment that makes it. -/
def held (settings : Settings) (name : String) : Option Assignment :=
  settings.assignments.find? fun assignment => assignment.name = name

/-- The names of all options. -/
def optionNames : List String :=
  ["barrier_fastpath", "granule_bytes", "heap_base", "heap_size", "roots_buffer_capacity",
    "scan_mutators_in_safepoint", "gc_threads"]

theorem assignments_eq (settings : Settings) :
    settings.assignments = optionNames.filterMap settings.held := by
  simp [optionNames, held, assignments, Assignment.name]

/-- Settings are what they hold for each option. -/
theorem eq_of_held (same : ∀ name, left.held name = right.held name) : left = right := by
  have assignments_same : left.assignments = right.assignments := by
    rw [left.assignments_eq, right.assignments_eq, funext same]
  rw [← left.foldl_assignments right, assignments_same, right.foldl_assignments]

theorem held_assign (settings : Settings) (assignment : Assignment) (name : String) :
    (settings.assign assignment).held name =
      if assignment.name = name then some assignment else settings.held name := by
  by_cases name_eq : assignment.name = name
  · subst name_eq
    cases assignment <;> simp [held, assignments, assign, Assignment.name]
  · rw [if_neg name_eq]
    cases assignment <;>
      simp_all [held, assignments, assign, Assignment.name, List.find?_cons]

theorem isNamed_of_read {assignment : Assignment} (read : Assignment.ofToken token = .ok assignment) :
    isNamed name token = decide (assignment.name = name) := by
  rcases malformed_or_parts token with no_sign | ⟨token_name, value, parts⟩
  · rw [ofToken_of_malformed no_sign] at read
    cases read
  · rw [parts.ofToken_eq] at read
    rw [Bool.eq_iff_iff, parts.isNamed_iff, decide_eq_true_iff, (accepted_of_read read).name_eq]

/-- After a row of options, the last one of a name decides what is held for it. -/
theorem Applies.held_eq (applies : Applies row before after) (name : String) :
    after.held name =
      match (row.filter (isNamed name)).getLast? with
      | some token => (Assignment.ofToken token).toOption
      | none => before.held name := by
  induction row generalizing before with
  | nil =>
      cases applies
      rfl
  | cons token rest ih =>
      obtain ⟨assignment, read, rest_applies⟩ := applies_cons_iff.mp applies
      rw [ih rest_applies, held_assign, List.filter_cons, isNamed_of_read read]
      by_cases name_eq : assignment.name = name
      · simp only [name_eq, decide_true, if_true, List.getLast?_cons]
        cases (rest.filter (isNamed name)).getLast? with
        | some last => rfl
        | none => simp [read, Except.toOption]
      · simp only [name_eq, decide_false, if_false, Bool.false_eq_true]

/-- Options for different settings changed places. -/
inductive Reorders : List (List Char) → List (List Char) → Prop where
  | refl {row : List (List Char)} : Reorders row row
  | cons {token : List Char} {left right : List (List Char)} (reorders : Reorders left right) :
      Reorders (token :: left) (token :: right)
  | swap {first second : List Char} {first_name first_value second_name second_value : String}
      {rest : List (List Char)} (first_parts : Parts first first_name first_value)
      (second_parts : Parts second second_name second_value)
      (names_ne : first_name ≠ second_name) :
      Reorders (first :: second :: rest) (second :: first :: rest)
  | trans {left middle right : List (List Char)} (to_middle : Reorders left middle)
      (to_right : Reorders middle right) : Reorders left right

theorem Reorders.filter_eq {left right : List (List Char)} (reorders : Reorders left right)
    (name : String) : left.filter (isNamed name) = right.filter (isNamed name) := by
  induction reorders with
  | refl => rfl
  | cons reorders ih => simp only [List.filter_cons, ih]
  | @swap first second first_name first_value second_name second_value rest first_parts second_parts
      names_ne =>
      by_cases is_first : first_name = name
      · have not_second : isNamed name second = false := by
          rw [Bool.eq_false_iff, Ne, second_parts.isNamed_iff]
          exact fun is_second => names_ne (is_first.trans is_second.symm)
        simp [List.filter_cons, not_second]
      · have not_first : isNamed name first = false := by
          rw [Bool.eq_false_iff, Ne, first_parts.isNamed_iff]
          exact is_first
        simp [List.filter_cons, not_first]
  | trans _ _ to_middle to_right => exact to_middle.trans to_right

theorem Reorders.mem_iff {left right : List (List Char)} (reorders : Reorders left right) :
    token ∈ left ↔ token ∈ right := by
  induction reorders with
  | refl => rfl
  | cons reorders ih => simp only [List.mem_cons, ih]
  | swap => simp only [List.mem_cons, or_left_comm]
  | trans _ _ to_middle to_right => exact to_middle.trans to_right

/-- Rows with the same last option of each name do the same. -/
theorem processTokens_eq_of_last {left right : List (List Char)}
    (left_acceptable : ∀ token ∈ left, Acceptable token)
    (right_acceptable : ∀ token ∈ right, Acceptable token)
    (same_last : ∀ name,
      (left.filter (isNamed name)).getLast? = (right.filter (isNamed name)).getLast?)
    (before : Settings) : processTokens left before = processTokens right before := by
  obtain ⟨left_after, left_applies⟩ := exists_applies left_acceptable before
  obtain ⟨right_after, right_applies⟩ := exists_applies right_acceptable before
  have after_eq : left_after = right_after := by
    apply eq_of_held
    intro name
    rw [left_applies.held_eq, right_applies.held_eq, same_last]
  rw [processTokens_eq_ok_iff.mpr left_applies, processTokens_eq_ok_iff.mpr right_applies, after_eq]

theorem processBulk_of_row {options : String} (row_of : Row options.toList row) :
    processBulk options = processTokens row := by
  rw [processBulk, row_of.tokens_eq]

/--
Two texts with blanks between them do what they do one after the other.  A text is refused for the
first of its tokens that is refused, after all tokens before it were applied.  If all tokens are
accepted, only the last one of each name counts, and those of different names may change places.
-/
theorem processBulk_composes :
    (∀ left blank right : String, blank ≠ "" → AllBlank blank.toList → ∀ before,
      processBulk (left ++ blank ++ right) before =
        (do processBulk left; processBulk right : EStateM OptionError Settings Unit) before) ∧
    (∀ options before, ∃ row, Row options.toList row ∧
      (∀ after, processBulk options before = .ok () after ↔ Applies row before after) ∧
      ∀ refusal after, processBulk options before = .error refusal after ↔
        ∃ front token rest, row = front ++ token :: rest ∧ Applies front before after ∧
          Refused after token refusal ∧
          (refusal = .malformed (String.ofList token) ↔ '=' ∉ token)) ∧
    (∀ options row, Row options.toList row → (∀ token ∈ row, Acceptable token) → ∀ before,
      ∃ after, processBulk options before = .ok () after) ∧
    (∀ left right left_row right_row, Row left.toList left_row → Row right.toList right_row →
      (∀ token ∈ left_row, Acceptable token) → (∀ token ∈ right_row, Acceptable token) →
      (∀ name, (left_row.filter (isNamed name)).getLast? =
        (right_row.filter (isNamed name)).getLast?) →
      ∀ before, processBulk left before = processBulk right before) ∧
    (∀ left right left_row right_row, Row left.toList left_row → Row right.toList right_row →
      (∀ token ∈ left_row, Acceptable token) → Reorders left_row right_row →
      ∀ before, processBulk left before = processBulk right before) := by
  refine ⟨?_, ?_, ?_, ?_, ?_⟩
  · intro left blank right blank_ne all_blank before
    have blank_list_ne : blank.toList ≠ [] := by simpa using blank_ne
    rw [processBulk, String.toList_append, String.toList_append,
      tokens_append_append blank_list_ne all_blank, processTokens_append]
    simp only [bind, EStateM.bind, processBulk]
    cases processTokens (tokens left.toList) before <;> rfl
  · intro options before
    have row_of := row_tokens options.toList
    refine ⟨_, row_of, fun after => ?_, fun refusal after => ?_⟩
    · rw [processBulk_of_row row_of, processTokens_eq_ok_iff]
    · rw [processBulk_of_row row_of, processTokens_eq_error_iff]
      constructor
      · rintro ⟨front, token, rest, row_eq, applies, refused⟩
        exact ⟨front, token, rest, row_eq, applies, refused, refused.malformed_iff⟩
      · rintro ⟨front, token, rest, row_eq, applies, refused, -⟩
        exact ⟨front, token, rest, row_eq, applies, refused⟩
  · intro options row row_of acceptable before
    obtain ⟨after, applies⟩ := exists_applies acceptable before
    exact ⟨after, by rw [processBulk_of_row row_of, processTokens_eq_ok_iff.mpr applies]⟩
  · intro left right left_row right_row left_of right_of left_acceptable right_acceptable same_last
      before
    rw [processBulk_of_row left_of, processBulk_of_row right_of]
    exact processTokens_eq_of_last left_acceptable right_acceptable same_last before
  · intro left right left_row right_row left_of right_of left_acceptable reorders before
    have right_acceptable : ∀ token ∈ right_row, Acceptable token :=
      fun token member => left_acceptable token (reorders.mem_iff.mpr member)
    rw [processBulk_of_row left_of, processBulk_of_row right_of]
    exact processTokens_eq_of_last left_acceptable right_acceptable
      (fun name => by rw [reorders.filter_eq]) before

private def sizeToken : List Char := "heap_size=2K".toList

private def baseToken : List Char := "heap_base=0x10".toList

private theorem sizeToken_parts : Parts sizeToken "heap_size" "2K" := ⟨by decide, by decide⟩

private theorem baseToken_parts : Parts baseToken "heap_base" "0x10" := ⟨by decide, by decide⟩

/-- An option for the size and one for the base, apart by an em space, in either order. -/
theorem processBulk_composes_swapped :
    processBulk "heap_size=2K\u2003heap_base=0x10" { workers := 1 } =
        (do processBulk "heap_size=2K"; processBulk "heap_base=0x10" :
          EStateM OptionError Settings Unit) { workers := 1 } ∧
      processBulk "heap_size=2K\u2003heap_base=0x10" { workers := 1 } =
        processBulk "heap_base=0x10 heap_size=2K" { workers := 1 } := by
  obtain ⟨joined, -, -, -, reordered⟩ := processBulk_composes
  have size_first : Row "heap_size=2K\u2003heap_base=0x10".toList [sizeToken, baseToken] :=
    tokens_eq_iff.mp (by decide)
  have base_first : Row "heap_base=0x10 heap_size=2K".toList [baseToken, sizeToken] :=
    tokens_eq_iff.mp (by decide)
  have size_acceptable : Acceptable sizeToken :=
    ⟨_, _, sizeToken_parts, { workers := 1 }, _,
      process_of_accepted
        (.heapSize (show numeral? "2K".toList = some 2048 by decide) (by decide)) _⟩
  have base_acceptable : Acceptable baseToken :=
    ⟨_, _, baseToken_parts, { workers := 1 }, _,
      process_of_accepted (.heapBase (show numeral? "0x10".toList = some 16 by decide)) _⟩
  have acceptable : ∀ token ∈ [sizeToken, baseToken], Acceptable token :=
    List.forall_mem_cons.mpr ⟨size_acceptable, List.forall_mem_singleton.mpr base_acceptable⟩
  have em_space_blank : AllBlank "\u2003".toList := by
    change AllBlank ['\u2003']
    exact List.forall_mem_singleton.mpr (by decide)
  refine ⟨?_, ?_⟩
  · exact joined "heap_size=2K" "\u2003" "heap_base=0x10" (by decide) em_space_blank { workers := 1 }
  · exact reordered _ _ _ _ size_first base_first acceptable
      (.swap sizeToken_parts baseToken_parts (by decide)) { workers := 1 }

end Safepoint.Settings
