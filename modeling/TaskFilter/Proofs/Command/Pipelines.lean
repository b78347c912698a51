import TaskFilter.Proofs.Command.Logging
import TaskFilter.Proofs.Record.Writing
import TaskFilter.Proofs.Report.Writing

/-!
# One step and two

A record can be compiled or checked at once, or its tree can be printed first and be given to the command as
a tree later, in another run. Both ways end with the same status and print the same, on both channels, but for
the log: what is ignored of the record is logged where the record is read, and never again.

## Layers

- **Worlds**: the later run may find its input elsewhere, so that worlds are compared by what else a run
  depends on (`World.Agree`), with the three places where a text can be put.
- **Texts**: a text stands for an input (`World.StandsFor`) if commands do with it, as a tree, what they do
  with the input as a record. Every text of the record's tree does (`standsFor_of_readInput`).
- **Main statement**: `standsFor_printed`, for the output of two commands, with a record of which something is
  ignored (`standardError_of_ignored_bias`).
-/

namespace TaskFilter.Command

/-! ## Worlds -/

/-- The two worlds have the same variables and the same settings, and the same is asked to be shown of a log. The
texts in them are not compared. -/
structure World.Agree (world other : World) : Prop where
  environment : world.env? = other.env?
  settings : world.settings = other.settings
  logFilter : world.logFilter? = other.logFilter?

namespace World.Agree

variable {world other : World}

theorem invocation (same : world.Agree other) (arguments : List String) :
    world.invocation arguments = other.invocation arguments := by
  rw [World.invocation, World.invocation, same.environment]

theorem context (same : world.Agree other) (given : Invocation) (settings : Settings) :
    world.context given settings = other.context given settings := by
  rw [World.context, World.context, same.environment]

theorem warnsOnly (same : world.Agree other) {given : Invocation} (plain : world.WarnsOnly given) :
    other.WarnsOnly given :=
  ⟨same.logFilter ▸ plain.unfiltered, plain.terse⟩

end World.Agree

/-- The world with another text handed to the run. -/
def World.hand (world : World) (text : String) : World :=
  { world with standardInput := .ok text }

theorem sourceText_hand (world : World) (text : String) :
    (world.hand text).sourceText .standardInput = .ok text :=
  rfl

/-- The world with a text in a file. -/
def World.put (world : World) (path text : String) : World :=
  { world with
    textAt := fun other => if other = path then .ok text else world.textAt other
    present := fun other => other = path || world.present other }

@[simp] theorem textAt_put (world : World) (path text : String) :
    (world.put path text).textAt path = .ok text :=
  if_pos rfl

theorem agree_hand (world : World) (text : String) : world.Agree (world.hand text) :=
  ⟨rfl, rfl, rfl⟩

/-- A text can be put into any file but the one with the settings. -/
theorem agree_put {world : World} {path : String} (h : world.settingsPath ≠ .ok path) (text : String) :
    world.Agree (world.put path text) := by
  refine ⟨rfl, ?_, rfl⟩
  have place : (world.put path text).settingsPath = world.settingsPath := rfl
  rw [World.settings, World.settings, place]
  cases own : world.settingsPath with
  | error cause => rfl
  | ok settingsPath =>
    have other : settingsPath ≠ path := by
      rintro rfl
      exact h own
    have kept : (world.put path text).textAt settingsPath = world.textAt settingsPath := if_neg other
    have found : (world.put path text).present settingsPath = world.present settingsPath := by
      show (decide (settingsPath = path) || _) = _
      rw [decide_eq_false other, Bool.false_or]
    show world.settingsAt settingsPath = (world.put path text).settingsAt settingsPath
    rw [World.settingsAt, World.settingsAt, kept, found]
    rfl

/-! ## Texts in place of inputs -/

/-- A text stands for an input: wherever the text is found, in a world that agrees with this one, whatever a
command is asked to do with it as a tree ends as it does with the input as a record. That is said of every
two command lines that ask for the same otherwise. Runs that are shown warnings only log what is ignored of the
record, and nothing of the tree. -/
def World.StandsFor (world : World) (source : Source) (text : String) : Prop :=
  ∀ (other : World) (place : Source), world.Agree other → other.sourceText place = .ok text →
    ∀ (given : Invocation) (verb : InputVerb) (line later : List String),
      world.invocation line = .ok { given with request := .input verb source false } →
        other.invocation later = .ok { given with request := .input verb place true } →
          ∃ first second, run world line = .ok first ∧ run other later = .ok second ∧
            second.SameButLog first ∧
              (world.WarnsOnly given → second.log = [] ∧ first.log = world.ignored source)

variable {world : World} {source : Source} {tree : Tree} {text : String}

/-- Where nothing is ignored of the input, the runs are the same, logs included. -/
theorem run_eq_of_standsFor (stands : world.StandsFor source text) (unignored : world.ignored source = [])
    {other : World} {place : Source} (same : world.Agree other) (found : other.sourceText place = .ok text)
    (given : Invocation) (plain : world.WarnsOnly given) {verb : InputVerb} {line later : List String}
    (asks : world.invocation line = .ok { given with request := .input verb source false })
    (asksLater : other.invocation later = .ok { given with request := .input verb place true }) :
    run other later = run world line := by
  obtain ⟨first, second, ran, ranLater, alike, logs⟩ :=
    stands other place same found given verb line later asks asksLater
  obtain ⟨silent, logged⟩ := logs plain
  rw [ran, ranLater, alike.eq_of_log (silent.trans (logged.trans unignored).symm)]

/-- A text that is read as the tree of an input stands for the input. -/
theorem standsFor_of_readInput {settings : Settings}
    (ready : world.prepare source false = .ok (settings, tree)) (read : readInput text true = .ok tree) :
    world.StandsFor source text := by
  intro other place same found given verb line later asks asksLater
  have own := (prepare_eq_ok_iff.mp ready).1
  have again : other.prepare place true = .ok (settings, tree) :=
    prepare_eq_ok_iff.mpr ⟨same.settings ▸ own, loadTree_eq_ok_iff.mpr ⟨text, found, read⟩⟩
  refine ⟨_, _, run_of_invocation asks, run_of_invocation asksLater, ?_, fun plain => ⟨?_, ?_⟩⟩
  · -- the commands get the same tree, and the same context
    rw [runInvocation_of_prepared rfl ready, runInvocation_of_prepared rfl again, same.context]
    exact ⟨rfl, rfl, rfl⟩
  · -- nothing is ignored of a tree
    rw [log_runInvocation]
    exact @log_of_input other { given with request := .input verb place true } verb place true
      ⟨(same.warnsOnly plain).unfiltered, plain.terse⟩ rfl settings (same.settings ▸ own)
  · rw [log_runInvocation]
    exact @log_of_input world { given with request := .input verb source false } verb source false
      ⟨plain.unfiltered, plain.terse⟩ rfl settings own

/-- Every text of the tree of an input stands for the input, with any white space around it. -/
theorem standsFor_of_spells {written : String} {settings : Settings}
    (ready : world.prepare source false = .ok (settings, tree))
    (spelled : Json.Spells written tree.toJson) (same : Text.trim text = Text.trim written) :
    world.StandsFor source text := by
  obtain ⟨record, rfl⟩ := exists_record_of_loadTree (prepare_eq_ok_iff.mp ready).2
  have flat : record.toTree.toJson.depth ≤ Json.nestingLimit :=
    Nat.le_trans record.flat_toTree.depth_le (by decide)
  have trimmed : readInput text true = readInput written true := by
    rw [readInput, readInput, same]
  apply standsFor_of_readInput ready
  rw [trimmed]
  exact readInput_of_spells_tree spelled flat

/-! ## What commands print -/

/-- A run that shows a tree does not fail, and prints it. -/
theorem status_and_output_of_tree {given : Invocation} {settings : Settings} {asTree : Bool}
    (asked : given.request = .input .tree source asTree)
    (ready : world.prepare source asTree = .ok (settings, tree)) :
    (runInvocation world given).status = 0 ∧
      (runInvocation world given).output = tree.toJson.pretty ++ "\n" := by
  rw [runInvocation_of_prepared asked ready]
  exact ⟨rfl, rfl⟩

/-- A filter that is compiled is printed as JSON with the tree that it was made from. -/
theorem exists_compiled_of_success {context : Context} (json : context.json = true)
    (success : (performOn context tree .compile).failure = none) :
    ∃ compiled : Compiled, compiled.tree = tree ∧
      (performOn context tree .compile).output = compiled.toJson.pretty ++ "\n" := by
  obtain ⟨-, e, -, shown⟩ := exists_emit_of_success success
  rw [shown, showCompiled, if_pos json]
  exact ⟨_, rfl, rfl⟩

/-- One step or two. Let a command line be read, its run succeed, and its input be a record. If it asks for
the tree of the input, the text that it prints stands for the input, with the white space around it or
without. If it asks for a compiled filter as JSON, what it prints is read as an object with a tree in it, and
every text of that tree stands for the input. -/
theorem standsFor_printed {line : List String} {given : Invocation} {outcome : Outcome}
    (reads : world.invocation line = .ok given) (ran : run world line = .ok outcome)
    (success : outcome.status = 0) :
    (given.request = .input .tree source false →
      ∀ text, Text.trim text = Text.trim outcome.output → world.StandsFor source text) ∧
    (given.json = true → given.request = .input .compile source false →
      ∃ members value, Json.Source.read Json.readValue outcome.output = .ok (.object members) ∧
        members.lookup "ast" = some value ∧
          ∀ text, Json.Spells text value → world.StandsFor source text) := by
  obtain rfl : runInvocation world given = outcome :=
    Except.ok.inj ((run_of_invocation reads).symm.trans ran)
  constructor
  · intro asked text same
    obtain ⟨settings, tree, ready, -⟩ := exists_prepared_of_status_eq_zero asked success
    have loaded := (prepare_eq_ok_iff.mp ready).2
    obtain ⟨record, rfl⟩ := exists_record_of_loadTree loaded
    rw [(status_and_output_of_tree asked ready).2] at same
    exact standsFor_of_spells ready (Json.spells_line record.flat_toTree.integral) same
  · intro json asked
    obtain ⟨settings, tree, ready, passed⟩ := exists_prepared_of_status_eq_zero asked success
    have loaded := (prepare_eq_ok_iff.mp ready).2
    obtain ⟨record, rfl⟩ := exists_record_of_loadTree loaded
    obtain ⟨compiled, made, printed⟩ := exists_compiled_of_success json passed
    have flat : compiled.toJson.Flat 8 :=
      Compiled.flat_toJson (made ▸ record.flat_toTree) (by decide)
    obtain ⟨members, object, held⟩ : ∃ members, compiled.toJson = .object members ∧
        members.lookup "ast" = some compiled.tree.toJson := ⟨_, rfl, rfl⟩
    rw [made] at held
    refine ⟨members, _, ?_, held, fun text spelled => standsFor_of_spells ready spelled rfl⟩
    rw [runInvocation_of_prepared asked ready, ← object]
    show Json.Source.read Json.readValue (performOn _ record.toTree .compile).output = _
    rw [printed]
    exact Json.read_line flat (by decide)

/-- A flag and a search for a text with quotes, in two steps. -/
theorem standsFor_printed_search :
    let record : Record := { flagged := some true, text := some "say \"yes\" || no" }
    let world := World.handed record.toJson.compact
    ∃ printed compiled, run world ["ast"] = .ok printed ∧
      run (world.hand printed.output) ["check", "--json", "--ast"] = run world ["check", "--json"] ∧
      run world ["compile", "--json"] = .ok compiled ∧
      ∃ members value, Json.Source.read Json.readValue compiled.output = .ok (.object members) ∧
        members.lookup "ast" = some value ∧
          ∀ text, Json.Spells text value →
            run (world.put "tree.json" text) ["compile", "-t", "omni", "--ast", "tree.json"] =
              run world ["-t", "omnijs", "c"] := by
  intro record world
  have ready : world.prepare .standardInput false = .ok ({}, record.toTree) :=
    prepare_handed (readInput_of_spells_record (Json.spells_compact (Record.integral_toJson record)))
  have printing : world.invocation ["ast"] = .ok { request := .input .tree .standardInput false } := rfl
  have compiling : world.invocation ["compile", "--json"] =
      .ok { json := true, request := .input .compile .standardInput false } := rfl
  have printed : (runInvocation world { request := .input .tree .standardInput false }).status = 0 :=
    (status_and_output_of_tree rfl ready).1
  have compiled : (runInvocation world
      { json := true, request := .input .compile .standardInput false }).status = 0 := by
    rw [runInvocation_of_prepared rfl ready]
    rfl
  have first : _ → ∀ text, _ → world.StandsFor .standardInput text :=
    (standsFor_printed printing (run_of_invocation printing) printed).1
  have second : _ → _ → ∃ members value, _ ∧ _ ∧
      ∀ text, Json.Spells text value → world.StandsFor .standardInput text :=
    (standsFor_printed compiling (run_of_invocation compiling) compiled).2
  obtain ⟨members, value, read, held, stands⟩ := second rfl rfl
  have unignored : world.ignored .standardInput = [] :=
    (ignored_handed record).trans (by decide +kernel)
  refine ⟨_, _, run_of_invocation printing, ?_, run_of_invocation compiling, members, value, read, held, ?_⟩
  · exact run_eq_of_standsFor (first rfl _ rfl) unignored (agree_hand ..) (sourceText_hand ..)
      { json := true } ⟨rfl, rfl⟩ rfl rfl
  · intro text spelled
    have apart : world.settingsPath ≠ .ok "tree.json" := by
      intro same
      exact absurd (Except.ok.inj same) (by decide)
    have found : (world.put "tree.json" text).sourceText (.file "tree.json") = .ok text :=
      textAt_put ..
    exact run_eq_of_standsFor (stands text spelled) unignored (agree_put apart text) found
      { dialect := some .omnijs } ⟨rfl, rfl⟩ rfl rfl

/-- A record with a bound, and with a bias that is no sign. -/
def biasedBetween : Record where
  dueBefore := some "2025-01-01"
  dueBias := some "between"

/-- The bias of that record is ignored by a run that reads the record, with a warning on the channel for errors.
It is gone from the tree, so that a run that is given the printed tree does not warn. The lines of the log may
look like anything. -/
theorem standardError_of_ignored_bias :
    let world := World.handed biasedBetween.toJson.compact
    ∃ printed once later, run world ["ast"] = .ok printed ∧ printed.status = 0 ∧
      run world ["compile"] = .ok once ∧ run (world.hand printed.output) ["compile", "--ast"] = .ok later ∧
        ∀ write, (∀ n event, write n event ≠ "") →
          later.standardError write ≠ once.standardError write := by
  intro world
  have ready : world.prepare .standardInput false = .ok ({}, biasedBetween.toTree) :=
    prepare_handed (readInput_of_spells_record (Json.spells_compact biasedBetween.integral_toJson))
  have printing : world.invocation ["ast"] = .ok { request := .input .tree .standardInput false } := rfl
  obtain ⟨passed, printed⟩ :=
    @status_and_output_of_tree world .standardInput _ { request := .input .tree .standardInput false } {} false
      rfl ready
  have stands : world.StandsFor .standardInput (biasedBetween.toTree.toJson.pretty ++ "\n") :=
    standsFor_of_spells ready (Json.spells_line biasedBetween.flat_toTree.integral) rfl
  obtain ⟨once, later, ran, ranLater, same, logs⟩ :=
    stands (world.hand (biasedBetween.toTree.toJson.pretty ++ "\n")) .standardInput (agree_hand ..) rfl {}
      .compile ["compile"] ["compile", "--ast"] rfl rfl
  obtain ⟨silent, logged⟩ := logs ⟨rfl, rfl⟩
  have warned : once.log = [.biasIgnored "between"] :=
    (logged.trans (ignored_handed biasedBetween)).trans (by decide +kernel)
  refine ⟨_, once, later, run_of_invocation printing, passed, ran, ?_, ?_⟩
  · rw [printed]
    exact ranLater
  · intro write visible equal
    rw [same.standardError_eq_iff visible silent, warned] at equal
    cases equal

end TaskFilter.Command
