import TaskFilter.Proofs.Command.Pipelines

/-!
# Command lines as they are written

A command line can be written for everything that a command with an input can be asked for, and reading it
gives what was asked for. Hence what is said of two command lines that are read in some way is said of lines
that there are.

## Layers

- **Arguments**: the form of a long name, with and without a value (`formOf_switch`, `formOf_valued`).
- **Levels**: what reading some of the arguments adds to what was given (`readLevel_switches`,
  `readLevel_dialect`, `readLevel_source`), and where the name of a command leads (`readLevel_command`).
- **Main statements**: `readArguments_lineOf`, and `run_lineOf_of_standsFor` for an input and a text that
  stands for it.
-/

namespace TaskFilter.Command

/-! ## Lines -/

def InputVerb.name : InputVerb → String
  | .compile => "compile"
  | .check => "check"
  | .tree => "ast"

/-- Whether an invocation wants a switch. -/
def Invocation.wants (asked : Invocation) (asTree : Bool) : Switch → Bool
  | .verbose => asked.verbose
  | .quiet => asked.quiet
  | .json => asked.json
  | .noColor => asked.noColor
  | .tree => asTree

def Invocation.switches (asked : Invocation) (asTree : Bool) : List Switch :=
  [.verbose, .quiet, .json, .noColor, .tree].filter (asked.wants asTree)

/-- The argument for a switch. -/
def Switch.written (switch : Switch) : String :=
  "--" ++ switch.long

def Dialect.written (dialect : Option Dialect) : List String :=
  (dialect.map fun dialect => "--target=" ++ dialect.name).toList

/-- The arguments that name an input. A path is kept apart, whatever it looks like. -/
def Source.written : Source → List String
  | .inline text => ["--filter=" ++ text]
  | .file path => ["--", path]
  | .standardInput => []

/-- A command line for a command with an input. -/
def lineOf (asked : Invocation) (verb : InputVerb) (source : Source) (asTree : Bool) : List String :=
  verb.name :: ((asked.switches asTree).map Switch.written ++ (Dialect.written asked.dialect ++ source.written))

theorem mem_switches {asked : Invocation} {asTree : Bool} {switch : Switch} :
    switch ∈ asked.switches asTree ↔ asked.wants asTree switch = true := by
  rw [Invocation.switches, List.mem_filter]
  cases switch <;> simp

theorem nodup_switches (asked : Invocation) (asTree : Bool) : (asked.switches asTree).Nodup :=
  List.Nodup.sublist List.filter_sublist (by decide)

/-! ## Arguments -/

theorem formOf_switch (switch : Switch) : formOf switch.written = .long switch.long none := by
  cases switch <;> rfl

theorem formOf_valued (parameter : Parameter) (value : String) :
    formOf ("--" ++ parameter.long ++ "=" ++ value) = .long parameter.long (some value) := by
  have cs : ("--" ++ parameter.long ++ "=" ++ value).toList =
      '-' :: '-' :: (parameter.long.toList ++ '=' :: value.toList) := by
    cases parameter <;> simp [Parameter.long]
  rw [formOf, cs]
  -- the first equals sign ends the name, whatever the value has in it
  cases parameter <;> simp [Parameter.long]

/-! ## Levels -/

variable {standing : Option String} {level : Level} {verb : InputVerb} {given : Given} {rest : List String}

theorem formOf_command {entry : String × Level} (listed : entry ∈ level.commands) :
    formOf entry.1 = .word := by
  cases level <;> simp only [Level.commands, List.mem_cons, List.not_mem_nil, or_false] at listed
  case top => rcases listed with rfl | rfl | rfl | rfl | rfl | rfl | rfl <;> rfl
  case settings => rcases listed with rfl | rfl <;> rfl

/-- An argument that is no word is neither the name of a command nor a request for help. -/
theorem readLevel_dashed {argument : String} (dashed : formOf argument ≠ .word) :
    readLevel standing level false given (argument :: rest) =
      match formOf argument with
      | .onlyOperands => readLevel standing level true given rest
      | .long name value =>
        (given.takeLong level name value).bind fun given => readLevel standing level false given rest
      | .letters cs =>
        (given.takeLetters level cs).bind fun given => readLevel standing level false given rest
      | .word => (given.takeWord level argument).bind fun given => readLevel standing level false given rest := by
  have lookup : level.commands.lookup argument = none := by
    rw [List.lookup_eq_none_iff]
    intro entry listed
    rw [bne_iff_ne]
    rintro rfl
    exact dashed (formOf_command listed)
  have noName : (if given.waits then none else level.commands.lookup argument) = none := by
    rw [lookup]
    exact ite_self _
  have other : argument ≠ "help" := by
    rintro rfl
    exact dashed rfl
  have isNoHelp : (!given.waits && !level.commands.isEmpty && decide (argument = "help")) = false := by
    rw [decide_eq_false other, Bool.and_false]
  rw [readLevel, isNoHelp, noName]
  rfl

/-- A long name is taken up at once. -/
theorem readLevel_long {argument name : String} {value : Option String}
    (form : formOf argument = .long name value) :
    readLevel standing level false given (argument :: rest) =
      (given.takeLong level name value).bind fun given => readLevel standing level false given rest := by
  rw [readLevel_dashed (by simp [form]), form]

theorem takeLong_switch {switch : Switch} (offered : switch ∈ level.switches)
    (settled : given.pending = .nothing) (fresh : given.switches.contains switch = false) :
    given.takeLong level switch.long none = .ok { given with switches := switch :: given.switches } := by
  obtain ⟨switches, dialect, filter, operand, pending⟩ := given
  obtain rfl : pending = .nothing := settled
  have taken : Given.takeSwitch level switch ⟨switches, dialect, filter, operand, .nothing⟩ =
      .ok ⟨switch :: switches, dialect, filter, operand, .nothing⟩ := by
    show (if switches.contains switch then _ else _) = _
    rw [fresh]
    rfl
  rw [← taken]
  cases level with
  | input verb => cases switch <;> rfl
  | top | fields | settings | settingsVerb | completions =>
    -- only a command with an input is asked for a tree
    cases switch <;> first | rfl | exact absurd offered (by simp [Level.switches])

theorem takeLong_parameter {parameter : Parameter} {value : String} (offered : parameter ∈ level.parameters)
    (settled : given.pending = .nothing) :
    given.takeLong level parameter.long (some value) = given.assign parameter value := by
  obtain ⟨switches, dialect, filter, operand, pending⟩ := given
  obtain rfl : pending = .nothing := settled
  cases level with
  | input verb => cases parameter <;> rfl
  | top | fields | settings | settingsVerb | completions =>
    cases parameter <;> first | rfl | exact absurd offered (by simp [Level.parameters])

theorem dialect_mem_parameters (level : Level) : .dialect ∈ level.parameters := by
  cases level <;> exact List.mem_cons_self

/-- Switches are taken up one after the other, if none is given twice. -/
theorem readLevel_switches {switches : List Switch} (offered : ∀ switch ∈ switches, switch ∈ level.switches)
    (settled : given.pending = .nothing) (distinct : switches.Nodup)
    (fresh : ∀ switch ∈ switches, switch ∉ given.switches) :
    readLevel standing level false given (switches.map Switch.written ++ rest) =
      readLevel standing level false
        { given with switches := switches.reverse ++ given.switches } rest := by
  induction switches generalizing given with
  | nil => rfl
  | cons switch switches ih =>
    obtain ⟨apart, distinct⟩ := List.nodup_cons.mp distinct
    obtain ⟨first, fresh⟩ := List.forall_mem_cons.mp fresh
    obtain ⟨known, offered⟩ := List.forall_mem_cons.mp offered
    have absent : given.switches.contains switch = false := by simpa using first
    show readLevel _ _ _ _ (switch.written :: (switches.map Switch.written ++ rest)) = _
    rw [readLevel_long (formOf_switch switch), takeLong_switch known settled absent]
    -- the switch that was taken up is none of those to come
    have fresher : ∀ other ∈ switches, other ∉ switch :: given.switches := by
      intro other listed
      rw [List.mem_cons, not_or]
      refine ⟨?_, fresh other listed⟩
      rintro rfl
      exact apart listed
    have later := @ih { given with switches := switch :: given.switches } offered settled distinct fresher
    rw [List.reverse_cons, List.append_assoc]
    exact later

theorem lookup_dialectNames (dialect : Dialect) : dialectNames.lookup dialect.name = some dialect := by
  cases dialect <;> rfl

theorem readLevel_dialect {dialect : Option Dialect} (settled : given.pending = .nothing)
    (fresh : given.dialect = none) :
    readLevel standing level false given (Dialect.written dialect ++ rest) =
      readLevel standing level false { given with dialect } rest := by
  cases dialect with
  | none =>
    have same : { given with dialect := none } = given := by rw [← fresh]
    rw [same]
    rfl
  | some dialect =>
    show readLevel _ _ _ _ (("--" ++ Parameter.dialect.long ++ "=" ++ dialect.name) :: rest) = _
    rw [readLevel_long (formOf_valued ..), takeLong_parameter (dialect_mem_parameters level) settled,
      Given.assign, fresh, lookup_dialectNames]
    rfl

/-- The name of a dialect that stands in is one that is accepted, if there is any. -/
def Accepted (standing : Option String) : Prop :=
  (standing.all fun name => (dialectNames.lookup name).isSome) = true

/-- A level ends with what was settled, if that fits together. -/
theorem finish_of_settle {settled : Given} (accepted : Accepted standing)
    (h : given.settle level = .ok settled) (complete : level = .completions → settled.operand ≠ none)
    (loud : .quiet ∈ settled.switches → .verbose ∉ settled.switches)
    (single : settled.filter = none ∨ settled.operand = none) :
    given.finish level standing = .ok settled := by
  have named : (standing.all fun name => (dialectNames.lookup name).isSome) = true := accepted
  have one : (settled.switches.contains .quiet && settled.switches.contains .verbose) = false := by
    rw [Bool.and_eq_false_imp]
    simpa using loud
  have single : (settled.filter.isSome && settled.operand.isSome) = false := by
    rcases single with h | h <;> simp [h]
  have whole : (decide (level = .completions) && settled.operand.isNone) = false := by
    rw [Bool.and_eq_false_imp]
    simpa [Option.isSome_iff_ne_none] using complete
  rw [Given.finish, h]
  simp only [bind, Except.bind, pure, Except.pure, named, one, single, whole]
  simp

/-- The name of a command leads to the level behind it, which is read before the level of the name ends. -/
theorem readLevel_command {below : Level} {name : String} {inner : Invocation} {settled : Given}
    (ready : given.pending = .nothing) (named : level.commands.lookup name = some below)
    (read : readLevel standing below false {} rest = .ok inner)
    (ends : given.finish level standing = .ok settled) :
    readLevel standing level false given (name :: rest) = .ok (settled.widen inner) := by
  have noCommand : level.commands.lookup "help" = none := by
    cases level <;> rfl
  have noHelp : name ≠ "help" := by
    rintro rfl
    rw [noCommand] at named
    cases named
  have waits : given.waits = false := by
    rw [Given.waits, ready]
  have isNoHelp : (!given.waits && !level.commands.isEmpty && decide (name = "help")) = false := by
    rw [decide_eq_false noHelp, Bool.and_false]
  have found : (if given.waits then none else level.commands.lookup name) = some below := by
    rw [waits, named]
    rfl
  rw [readLevel, isNoHelp, found]
  show ((readLevel standing below false {} rest).bind fun inner =>
    (given.finish level standing).bind fun given => .ok (given.widen inner)) = _
  rw [read, ends]
  rfl

/-- The input is taken up last. -/
theorem readLevel_source {source : Source} (accepted : Accepted standing)
    (settled : given.pending = .nothing) (unfiltered : given.filter = none)
    (alone : given.operand = none) (loud : .quiet ∈ given.switches → .verbose ∉ given.switches)
    (plain : source ≠ .file "-") :
    readLevel standing (.input verb) false given source.written =
      .ok (given.widen { request := .input verb source (given.switches.contains .tree) }) := by
  obtain ⟨switches, dialect, filter, operand, pending⟩ := given
  obtain rfl : pending = .nothing := settled
  obtain rfl : filter = none := unfiltered
  obtain rfl : operand = none := alone
  cases source with
  | inline text =>
    have taken : Given.settle (.input verb) ⟨switches, dialect, some text, none, .nothing⟩ =
        .ok ⟨switches, dialect, some text, none, .nothing⟩ := rfl
    show readLevel standing _ false _ [("--" ++ Parameter.filter.long ++ "=" ++ text)] = _
    rw [readLevel_long (formOf_valued ..), takeLong_parameter (List.mem_cons_of_mem _ List.mem_cons_self) rfl]
    show readLevel standing _ false ⟨switches, dialect, some text, none, .nothing⟩ [] = _
    rw [readLevel, finish_of_settle accepted taken nofun loud (.inr rfl)]
    rfl
  | file path =>
    have taken : Given.settle (.input verb) ⟨switches, dialect, none, none, .operand path⟩ =
        .ok ⟨switches, dialect, none, some path, .nothing⟩ := rfl
    have notHanded : path ≠ "-" := by
      rintro rfl
      exact plain rfl
    have source : Given.source ⟨switches, dialect, none, some path, .nothing⟩ = .file path := by
      rw [Given.source]
      split
      · next h => cases h
      · next h => exact absurd (Option.some.inj h) notHanded
      · next h =>
        cases h
        rfl
      · next h => cases h
    -- behind the two hyphens the path is an operand, which is looked at when the level ends
    show readLevel standing (.input verb) true ⟨switches, dialect, none, none, .operand path⟩ [] = _
    rw [readLevel, finish_of_settle accepted taken nofun loud (.inl rfl)]
    show Except.ok (Given.widen _ { request := .input verb (Given.source _) _ }) = _
    rw [source]
    rfl
  | standardInput =>
    have taken : Given.settle (.input verb) ⟨switches, dialect, none, none, .nothing⟩ =
        .ok ⟨switches, dialect, none, none, .nothing⟩ := rfl
    show readLevel standing _ false _ [] = _
    rw [readLevel, finish_of_settle accepted taken nofun loud (.inl rfl)]
    rfl

/-! ## Reading what was written -/

/-- The level of a command gives what was written for it. -/
theorem readLevel_written {source : Source} (accepted : Accepted standing) (plain : source ≠ .file "-")
    {asked : Invocation} (loud : asked.quiet = true → asked.verbose = false) (verb : InputVerb) (asTree : Bool) :
    readLevel standing (.input verb) false {}
        ((asked.switches asTree).map Switch.written ++ (Dialect.written asked.dialect ++ source.written)) =
      .ok { asked with request := .input verb source asTree } := by
  -- what was taken up in all is what was wanted
  have given : ∀ switch, ((asked.switches asTree).reverse ++ []).contains switch =
      asked.wants asTree switch := by
    intro switch
    rw [Bool.eq_iff_iff, List.contains_iff_mem, List.append_nil, List.mem_reverse, mem_switches]
  have loud : .quiet ∈ (asked.switches asTree).reverse ++ [] →
      .verbose ∉ (asked.switches asTree).reverse ++ [] := by
    simp only [← List.contains_iff_mem, given, Bool.not_eq_true]
    exact loud
  have offered : ∀ switch ∈ asked.switches asTree, switch ∈ (Level.input verb).switches := by
    intro switch _
    cases switch <;> simp [Level.switches]
  rw [readLevel_switches offered rfl (nodup_switches ..) (fun _ _ => List.not_mem_nil),
    readLevel_dialect rfl rfl, readLevel_source accepted rfl rfl rfl loud plain, Given.widen]
  simp only [given]
  simp [Invocation.wants]

/-- What is asked for where a variable may name a dialect: that stands in if no dialect is given. -/
def Invocation.under (asked : Invocation) (standing : Option String) : Invocation :=
  { asked with dialect := asked.dialect.or (standing.bind fun name => dialectNames.lookup name) }

/-- Reading undoes writing. A path that is a hyphen cannot be written, since a hyphen names what is handed to
the run, and no line asks a run to be quiet and verbose. -/
theorem readArguments_lineOf {source : Source} (accepted : Accepted standing) (plain : source ≠ .file "-")
    {asked : Invocation} (loud : asked.quiet = true → asked.verbose = false) (verb : InputVerb) (asTree : Bool) :
    readArguments standing (lineOf asked verb source asTree) =
      .ok { asked.under standing with request := .input verb source asTree } := by
  have named : Level.top.commands.lookup verb.name = some (.input verb) := by
    cases verb <;> rfl
  -- nothing is given before the name of the command
  have top : Given.finish .top standing {} = .ok {} :=
    finish_of_settle accepted rfl nofun nofun (.inl rfl)
  have read : readLevel standing .top false {} (lineOf asked verb source asTree) =
      .ok { asked with request := .input verb source asTree } := by
    rw [lineOf, readLevel_command rfl named (readLevel_written accepted plain loud verb asTree) top,
      Given.widen]
    simp
  rw [readArguments, read]
  rfl

example : readArguments none ["check", "--json", "--ast", "--", "-v"] =
    .ok { json := true, request := .input .check (.file "-v") true } := rfl

/-- A text that stands for an input does so on the lines that are written for the two. -/
theorem run_lineOf_of_standsFor {world other : World} {source place : Source} {text : String}
    (stands : world.StandsFor source text) (same : world.Agree other)
    (found : other.sourceText place = .ok text) (accepted : Accepted (world.env? "OFQ_TARGET"))
    (plain : source ≠ .file "-") (plain' : place ≠ .file "-") {asked : Invocation}
    (loud : asked.quiet = true → asked.verbose = false) (verb : InputVerb) :
    ∃ first second, run world (lineOf asked verb source false) = .ok first ∧
      run other (lineOf asked verb place true) = .ok second ∧ second.SameButLog first ∧
        (world.WarnsOnly asked → second.log = [] ∧ first.log = world.ignored source) := by
  let given := asked.under (world.env? "OFQ_TARGET")
  have asks : world.invocation (lineOf asked verb source false) =
      .ok { given with request := .input verb source false } :=
    readArguments_lineOf accepted plain loud ..
  have asksLater : other.invocation (lineOf asked verb place true) =
      .ok { given with request := .input verb place true } := by
    rw [← same.invocation]
    exact readArguments_lineOf accepted plain' loud ..
  obtain ⟨first, second, ran, ranLater, alike, logs⟩ :=
    stands other place same found given verb _ _ asks asksLater
  exact ⟨first, second, ran, ranLater, alike, fun shown => logs ⟨shown.unfiltered, shown.terse⟩⟩

end TaskFilter.Command
