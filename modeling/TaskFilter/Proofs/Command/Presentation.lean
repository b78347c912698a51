import TaskFilter.Proofs.Command.Flags
import TaskFilter.Proofs.Command.Statuses
import TaskFilter.Proofs.Json.Members
import TaskFilter.Proofs.Report.Writing
import TaskFilter.Proofs.Script.OneLine
import TaskFilter.Proofs.Script.Refusing

/-!
# Presentation

What a run finds does not depend on how it shows it. Two runs on one input that differ in flags, in the
variable against colours and in the colour setting end with the same status, print the same expression or the
same tree, and tell of the same error, each in its own way.

## Layers

- **Settings**: files that differ in the colour setting only (`Settings.SameButColor`), and worlds that differ
  in what switches colours (`World.SameButColors`).
- **Preparation**: in such worlds, a command is prepared alike (`prepare_sameButColors`).
- **Commands**: contexts that differ in presentation (`Context.JudgesLike`), and what commands do in them.

Main statement: `outcome_of_sameButFlags`.
-/

namespace TaskFilter

open Toml (Entries)

/-! ## Settings -/

namespace Settings

def uncolored (settings : Settings) : Settings :=
  { settings with color := none }

/-- Two settings files that differ at most in the group of the colour setting. In each of them the setting is
left out or a truth value. -/
structure SameButColor (entries others : Entries) : Prop where
  elsewhere : ∀ name, name ≠ "output" → others.lookup name = entries.lookup name
  color : flagIn? "output" "color" entries ≠ none
  color' : flagIn? "output" "color" others ≠ none

/-- What was read of a settings file, without the colour setting. -/
def uncolor (read : Nat × Settings) : Nat × Settings :=
  (read.1, read.2.uncolored)

theorem map_uncolor_ofEntries? {entries others : Entries} (same : SameButColor entries others) :
    (ofEntries? others).map uncolor = (ofEntries? entries).map uncolor := by
  obtain ⟨color, present⟩ := Option.ne_none_iff_exists'.mp same.color
  obtain ⟨color', present'⟩ := Option.ne_none_iff_exists'.mp same.color'
  have version : versionOf? others = versionOf? entries := by
    rw [versionOf?, versionOf?, same.elsewhere _ (by decide)]
  have dialect : dialectIn? others = dialectIn? entries := by
    rw [dialectIn?, dialectIn?, same.elsewhere _ (by decide)]
  have warnings : flagIn? "validation" "warnings_as_errors" others =
      flagIn? "validation" "warnings_as_errors" entries := by
    rw [flagIn?, flagIn?, same.elsewhere _ (by decide)]
  rw [ofEntries?, ofEntries?, version, dialect, warnings, present, present']
  cases versionOf? entries with
  | none => rfl
  | some version =>
    cases dialectIn? entries with
    | none => rfl
    | some dialect => cases flagIn? "validation" "warnings_as_errors" entries <;> rfl

/-- What is made of a settings file of which this was read. -/
def ofRead : Option (Nat × Settings) → Except SettingsError Settings
  | none => .error .invalid
  | some (fileVersion, settings) =>
    if version < fileVersion then .error (.tooNew fileVersion) else .ok settings

theorem map_uncolored_ofRead {read other : Option (Nat × Settings)}
    (h : other.map uncolor = read.map uncolor) :
    (ofRead other).map uncolored = (ofRead read).map uncolored := by
  have through : ∀ read, (ofRead read).map uncolored = (ofRead (read.map uncolor)).map uncolored := by
    intro read
    cases read with
    | none => rfl
    | some read =>
      show Except.map _ (if _ then _ else _) = Except.map _ (if _ then _ else _)
      split <;> rfl
  rw [through, h, ← through]

/-- Files that differ in the colour setting only hold settings that do, or none for one and the same reason. -/
theorem ofRead_sameButColor {entries others : Entries} (same : SameButColor entries others) :
    (∃ cause, ofRead (ofEntries? entries) = .error cause ∧ ofRead (ofEntries? others) = .error cause) ∨
      ∃ settings settings', ofRead (ofEntries? entries) = .ok settings ∧
        ofRead (ofEntries? others) = .ok settings' ∧ settings'.uncolored = settings.uncolored := by
  have agree := map_uncolored_ofRead (map_uncolor_ofEntries? same)
  cases held : ofRead (ofEntries? entries) with
  | error cause =>
    cases held' : ofRead (ofEntries? others) with
    | error cause' =>
      rw [held, held'] at agree
      obtain rfl : cause' = cause := Except.error.inj agree
      exact .inl ⟨cause', rfl, rfl⟩
    | ok settings' =>
      rw [held, held'] at agree
      cases agree
  | ok settings =>
    cases held' : ofRead (ofEntries? others) with
    | error cause' =>
      rw [held, held'] at agree
      cases agree
    | ok settings' =>
      rw [held, held'] at agree
      exact .inr ⟨settings, settings', rfl, rfl, Except.ok.inj agree⟩

theorem ofText_eq_ofRead (text : String) : ofText text = ofRead ((Toml.ofText? text).bind ofEntries?) := by
  rw [ofText]
  cases (Toml.ofText? text).bind ofEntries? <;> rfl

end Settings

namespace Command

open Json (Shows bind_eq_ok_iff shows_of_spells spells_line)
open Validation (validate)

/-- The items of the settings file at a path, if they can be read. A file that is not there has none. -/
def World.entriesAt? (world : World) (path : String) : Option Entries :=
  if world.present path then
    match world.textAt path with
    | .ok text => Toml.ofText? text
    | .error _ => none
  else some []

/-- What is made of such items. The words of the reader are those on the text of the file. -/
theorem settingsAt_of_entriesAt? {world : World} {path : String} {entries : Entries}
    (h : world.entriesAt? path = some entries) :
    ∃ text, world.settingsAt path = (Settings.ofRead (Settings.ofEntries? entries)).mapError fun cause =>
      .unusable cause (world.wordsOnSettings text cause) := by
  rw [World.entriesAt?] at h
  rw [World.settingsAt]
  cases present : world.present path with
  | false =>
    rw [present] at h
    obtain rfl : [] = entries := Option.some.inj h
    exact ⟨"", rfl⟩
  | true =>
    rw [present, if_pos rfl] at h
    rw [if_pos rfl]
    cases found : world.textAt path with
    | error cause =>
      rw [found] at h
      cases h
    | ok text =>
      rw [found] at h
      refine ⟨text, ?_⟩
      show (Settings.ofText text).mapError _ = _
      rw [Settings.ofText_eq_ofRead, show Toml.ofText? text = some entries from h]
      rfl

/-- The settings file of the one world is that of the other. -/
def World.SameFile (world other : World) : Prop :=
  ∀ path, world.settingsPath = .ok path →
    other.textAt path = world.textAt path ∧ other.present path = world.present path

/-- Two worlds that differ at most in what switches colours: in the variable against them, and in the colour
setting of the settings file. -/
structure World.SameButColors (world other : World) : Prop where
  env : ∀ name, name ≠ "NO_COLOR" → other.env? name = world.env? name
  home : other.accountHome = world.accountHome
  words : other.words = world.words
  settings : world.SameFile other ∨ ∀ path, world.settingsPath = .ok path →
    ∃ entries others, world.entriesAt? path = some entries ∧ other.entriesAt? path = some others ∧
      Settings.SameButColor entries others

/-- A run that fails as another does. Only the words in which the reader of a settings file refuses it may
differ, if the runs have not one file. -/
def Failure.Repeats (oneFile : Prop) (failure failure' : Failure) : Prop :=
  failure' = failure ∨ ¬ oneFile ∧ ∃ words words',
    failure = .settings (.unusable .invalid words) ∧ failure' = .settings (.unusable .invalid words')

section Worlds

variable {world other : World} (same : world.SameButColors other)

include same

theorem settingsPath_sameButColors : other.settingsPath = world.settingsPath := by
  have home : other.home? = world.home? := by
    rw [World.home?, World.home?, same.env _ (by decide), same.home]
  rw [World.settingsPath, World.settingsPath, same.env "OFQ_CONFIG" (by decide),
    same.env "XDG_CONFIG_HOME" (by decide), home]

/-- One file holds one and the same settings, in both worlds. -/
theorem settings_sameFile (oneFile : world.SameFile other) : other.settings = world.settings := by
  rw [World.settings, World.settings, settingsPath_sameButColors same]
  cases placed : world.settingsPath with
  | error cause => rfl
  | ok path =>
    obtain ⟨text, present⟩ := oneFile path placed
    have words : other.wordsOnSettings = world.wordsOnSettings := by
      funext text cause
      simp only [World.wordsOnSettings, same.words]
    show other.settingsAt path = world.settingsAt path
    rw [World.settingsAt, World.settingsAt, text, present, words]

/-- There are settings in both worlds, and those are alike but for the colour setting, or in neither. -/
theorem settings_sameButColors :
    (∃ cause cause', world.settings = .error cause ∧ other.settings = .error cause' ∧
        Failure.Repeats (world.SameFile other) (.settings cause) (.settings cause')) ∨
      ∃ settings settings', world.settings = .ok settings ∧ other.settings = .ok settings' ∧
        settings'.uncolored = settings.uncolored := by
  by_cases oneFile : world.SameFile other
  · rw [settings_sameFile same oneFile]
    cases world.settings with
    | error cause => exact .inl ⟨cause, cause, rfl, rfl, .inl rfl⟩
    | ok settings => exact .inr ⟨settings, settings, rfl, rfl, rfl⟩
  · have files := same.settings.resolve_left oneFile
    rw [World.settings, World.settings, settingsPath_sameButColors same]
    cases placed : world.settingsPath with
    | error cause => exact .inl ⟨cause, cause, rfl, rfl, .inl rfl⟩
    | ok path =>
      obtain ⟨entries, others, read, read', colors⟩ := files path placed
      obtain ⟨text, own⟩ := settingsAt_of_entriesAt? read
      obtain ⟨text', own'⟩ := settingsAt_of_entriesAt? read'
      show (∃ cause cause', world.settingsAt path = _ ∧ other.settingsAt path = _ ∧ _) ∨
        ∃ settings settings', world.settingsAt path = _ ∧ other.settingsAt path = _ ∧ _
      rw [own, own']
      rcases Settings.ofRead_sameButColor colors with
        ⟨cause, held, held'⟩ | ⟨settings, settings', held, held', agree⟩
      · rw [held, held']
        refine .inl ⟨_, _, rfl, rfl, ?_⟩
        -- a version is told in words of the program, and no others
        cases cause with
        | invalid => exact .inr ⟨oneFile, _, _, rfl, rfl⟩
        | tooNew version => exact .inl rfl
      · rw [held, held']
        exact .inr ⟨settings, settings', rfl, rfl, agree⟩

variable {source : Source} {asTree : Bool}

/-- A command is prepared in both worlds alike, or in neither, and for the same reason. -/
theorem prepare_sameButColors (input : other.sourceText source = world.sourceText source) :
    (∃ failure failure', world.prepare source asTree = .error failure ∧
        other.prepare source asTree = .error failure' ∧ failure.Repeats (world.SameFile other) failure') ∨
      ∃ settings settings' tree, world.prepare source asTree = .ok (settings, tree) ∧
        other.prepare source asTree = .ok (settings', tree) ∧
        settings'.uncolored = settings.uncolored := by
  have words : other.wordsOnInput = world.wordsOnInput := by
    funext text cause
    simp only [World.wordsOnInput, same.words]
  have loads : other.loadTree source asTree = world.loadTree source asTree := by
    rw [World.loadTree, World.loadTree, input, words]
  rw [World.prepare, World.prepare, loads]
  rcases settings_sameButColors same with
    ⟨cause, cause', own, own', repeats⟩ | ⟨settings, settings', own, own', agree⟩
  · rw [own, own']
    exact .inl ⟨_, _, rfl, rfl, repeats⟩
  · rw [own, own']
    cases world.loadTree source asTree with
    | error failure => exact .inl ⟨failure, failure, rfl, rfl, .inl rfl⟩
    | ok tree => exact .inr ⟨settings, settings', tree, rfl, rfl, agree⟩

end Worlds

/-! ## Commands -/

/-- The contexts may differ in how they show what they judge alike. -/
structure Context.JudgesLike (context other : Context) : Prop where
  dialect : other.dialect = context.dialect
  warningsAsErrors : other.warningsAsErrors = context.warningsAsErrors

variable {context other : Context} {tree : Tree}

theorem compileIn_judgesLike (like : context.JudgesLike other) :
    compileIn other tree = compileIn context tree := by
  rw [compileIn, compileIn, like.dialect, like.warningsAsErrors]

theorem failure_judgesLike (like : context.JudgesLike other) (verb : InputVerb) :
    (performOn other tree verb).failure = (performOn context tree verb).failure := by
  cases verb with
  | tree => rfl
  | check =>
    show verdict other (validate tree) = verdict context (validate tree)
    rw [verdict, verdict, like.warningsAsErrors]
  | compile =>
    rw [performOn, performOn, compileIn_judgesLike like]
    cases compileIn context tree with
    | ok compiled => rw [failure_showCompiled, failure_showCompiled]
    | error failure => rfl

/-! ## Outcomes -/

/-- The output is the expression: the only line of it, or a member of it, if JSON was asked for. -/
def Outcome.PrintsExpression (outcome : Outcome) (json : Bool) (expression : String) : Prop :=
  if json then Shows outcome.output ["expression"] (.string (some expression))
  else outcome.output = expression ++ "\n" ∧ '\n' ∉ expression.toList

/-- A text tells a message: behind a word of its only line, or as a member, if JSON was asked for. -/
def TellsMessage (json : Bool) (message text : String) : Prop :=
  if json then Shows text ["error", "message"] (.string (some message))
  else text = "Error: " ++ message ++ "\n"

/-- Numbers fit no field, so that a valid tree has none. -/
theorem hasIntegers_of_valid (valid : (validate tree).valid = true) : tree.HasIntegers := by
  intro path operator number listed
  have fine := Validation.ownFinding?_of_valid valid listed
  obtain ⟨field, -, fits⟩ := Script.fits_of_comparisonFinding? fine
  cases kind : field.kind <;> rw [kind] at fits <;> cases fits

theorem printsExpression_showCompiled {e : Script.Expr} {dialect : Dialect}
    (valid : (validate tree).valid = true) (emitted : Script.emit dialect tree = .ok e)
    (target : Dialect) (warnings : List Diagnostic) (log : List Event) :
    ((showCompiled context ⟨tree, target, e.text, warnings⟩).outcome context.json log).PrintsExpression
      context.json e.text := by
  rw [Outcome.PrintsExpression]
  cases json : context.json with
  | true =>
    have flat : tree.toJson.Flat (tree.toJson.depth + 3) :=
      ⟨tree.integral_toJson (hasIntegers_of_valid valid), by omega⟩
    have whole := @Compiled.flat_toJson _ ⟨tree, target, e.text, warnings⟩ flat (by omega)
    have written := spells_line whole.integral
    rw [if_pos rfl]
    show Shows (showCompiled context _).output _ _
    rw [showCompiled, if_pos json]
    exact shows_of_spells written rfl
  | false =>
    rw [if_neg Bool.false_ne_true]
    refine ⟨?_, fun line => ?_⟩
    · show (showCompiled context _).output = _
      rw [showCompiled, json]
      rfl
    · have printable := Script.printable_of_mem_text emitted line
      exact absurd printable (by decide)

theorem tells_tellsMessage {effect : Effect} {json : Bool} {log : List Event} {failure : Failure}
    (noted : effect.notes = "") (h : effect.failure = some failure) :
    (effect.outcome json log).Tells (TellsMessage json failure.message) := by
  apply tells_of_errors
  rw [TellsMessage, errors_outcome_of_failure noted h, failureText]
  cases json with
  | true =>
    rw [if_pos rfl, if_pos rfl]
    refine shows_of_spells (spells_line failure.flat_toJson.integral) ?_
    rw [Failure.toJson]
    cases failure.report? <;> rfl
  | false =>
    rw [if_neg Bool.false_ne_true, if_neg Bool.false_ne_true]
    rfl

/-! ## Runs -/

/-- What two runs have in common, each of which shows it in its own way. -/
structure Outcome.ShowsLike (oneFile : Prop) (verb : InputVerb) (json json' : Bool)
    (outcome outcome' : Outcome) : Prop where
  status : outcome'.status = outcome.status
  expression : verb = .compile → outcome.status = 0 → ∃ expression,
    outcome.PrintsExpression json expression ∧ outcome'.PrintsExpression json' expression
  tree : verb = .tree → outcome'.output = outcome.output
  message : outcome.status ≠ 0 → ∃ failure failure' : Failure,
    outcome.Tells (TellsMessage json failure.message) ∧
      outcome'.Tells (TellsMessage json' failure'.message) ∧ failure.Repeats oneFile failure'

variable {oneFile : Prop} {log log' : List Event}

theorem status_of_repeats {failure failure' : Failure} (h : failure.Repeats oneFile failure') :
    failure'.status = failure.status := by
  obtain rfl | ⟨-, words, words', rfl, rfl⟩ := h
  · rfl
  · rfl

/-- Commands that failed for the same reason, and printed nothing but a report. -/
theorem showsLike_of_failure {effect effect' : Effect} {json json' : Bool} {verb : InputVerb}
    {failure failure' : Failure} (failed : effect.failure = some failure)
    (failed' : effect'.failure = some failure') (repeats : failure.Repeats oneFile failure')
    (noted : effect.notes = "") (noted' : effect'.notes = "")
    (output : verb = .tree → effect'.output = effect.output) :
    Outcome.ShowsLike oneFile verb json json' (effect.outcome json log) (effect'.outcome json' log') where
  status := by
    rw [status_outcome_of_failure failed, status_outcome_of_failure failed', status_of_repeats repeats]
  expression _ success := by
    rw [status_outcome_eq_zero_iff, failed] at success
    cases success
  tree := output
  message _ :=
    ⟨failure, failure', tells_tellsMessage noted failed, tells_tellsMessage noted' failed', repeats⟩

/-- A command that does not fail does not in the other context, and shows the same there. -/
theorem showsLike_performOn (like : context.JudgesLike other) (verb : InputVerb) :
    Outcome.ShowsLike oneFile verb context.json other.json
      ((performOn context tree verb).outcome context.json log)
      ((performOn other tree verb).outcome other.json log') := by
  have failures := @failure_judgesLike context other tree like verb
  have output : verb = .tree →
      (performOn other tree verb).output = (performOn context tree verb).output := by
    rintro rfl
    rfl
  cases failed : (performOn context tree verb).failure with
  | some failure =>
    rw [failed] at failures
    exact showsLike_of_failure failed failures (.inl rfl) (performOn_of_failure failed).2.1
      (performOn_of_failure failures).2.1 output
  | none =>
    rw [failed] at failures
    have success : ((performOn context tree verb).outcome context.json log).status = 0 :=
      status_outcome_eq_zero_iff.mpr failed
    refine ⟨?_, ?_, output, fun failing => absurd success failing⟩
    · rw [success, status_outcome_eq_zero_iff.mpr failures]
    · rintro rfl -
      obtain ⟨valid, e, emitted, shown⟩ := exists_emit_of_success failed
      obtain ⟨-, e', emitted', shown'⟩ := exists_emit_of_success failures
      rw [like.dialect, emitted] at emitted'
      obtain rfl := Except.ok.inj emitted'
      rw [shown, shown']
      exact ⟨e.text, printsExpression_showCompiled valid emitted _ _ _,
        printsExpression_showCompiled valid emitted _ _ _⟩

/-- The same dialect is asked for, and but for colours the same settings were found. -/
theorem judgesLike_context {world other : World} {asked asked' : Invocation}
    {settings settings' : Settings} (like : asked.AsksLike asked')
    (agree : settings'.uncolored = settings.uncolored) :
    (world.context asked settings).JudgesLike (other.context asked' settings') where
  dialect := by
    have dialect : settings'.uncolored.dialect = settings.uncolored.dialect := by rw [agree]
    show (asked'.dialect.or settings'.dialect).getD _ = (asked.dialect.or settings.dialect).getD _
    rw [like.dialect, show settings'.dialect = settings.dialect from dialect]
  warningsAsErrors := by
    show settings'.uncolored.warningsAsErrors.getD false = settings.uncolored.warningsAsErrors.getD false
    rw [agree]

/-- For all worlds that differ at most in the variable against colours and in the colour setting of the
settings file, and all command lines that differ at most in flags: if both lines are read, and the first asks
for a command with an input that is the same in both worlds, the two runs end with the same status. If they
compile a filter, they print the same expression, in the only line of the output or as a member of it; if they
show the tree of the input, they print the same text; and if they fail, they tell the same message behind their
logs. Only the words in which the reader of a settings file refuses it may differ, where the files do. -/
theorem outcome_of_sameButFlags {world other : World} {line others : List String}
    {given shown : Invocation} {verb : InputVerb} {source : Source} {asTree : Bool}
    (colors : world.SameButColors other) (flags : SameButFlags line others)
    (reads : world.invocation line = .ok given) (reads' : other.invocation others = .ok shown)
    (asked : given.request = .input verb source asTree)
    (input : other.sourceText source = world.sourceText source) :
    ∃ outcome outcome', run world line = .ok outcome ∧ run other others = .ok outcome' ∧
      outcome.ShowsLike (world.SameFile other) verb given.json shown.json outcome' := by
  have standing : other.env? "OFQ_TARGET" = world.env? "OFQ_TARGET" := colors.env _ (by decide)
  have like : given.AsksLike shown := by
    rw [World.invocation, ← standing] at reads
    exact asksLike_of_sameButFlags flags reads reads'
  have asked' : shown.request = .input verb source asTree := like.request.trans asked
  refine ⟨_, _, run_of_invocation reads, run_of_invocation reads', ?_⟩
  rcases prepare_sameButColors colors input with
    ⟨failure, failure', stopped, stopped', repeats⟩ | ⟨settings, settings', tree, ready, ready', agree⟩
  · -- neither command begins
    rw [runInvocation_of_unprepared asked stopped, runInvocation_of_unprepared asked' stopped']
    exact showsLike_of_failure rfl rfl repeats rfl rfl fun _ => rfl
  · rw [runInvocation_of_prepared asked ready, runInvocation_of_prepared asked' ready']
    exact showsLike_performOn (judgesLike_context like agree) verb

/-- A settings file that says something about colours only. -/
theorem exists_ofText?_colorless :
    ∃ others, Toml.ofText? "[output]\ncolor = false\n" = some others ∧
      Settings.SameButColor [] others := by
  have read : ((Toml.ofText? "[output]\ncolor = false\n").map fun entries =>
      (entries.map Prod.fst, Settings.flagIn? "output" "color" entries)) =
        some (["output"], some (some false)) := by decide +kernel
  obtain ⟨others, parsed, found⟩ := Option.map_eq_some_iff.mp read
  obtain ⟨names, color⟩ := Prod.mk.inj found
  refine ⟨others, parsed, fun name apart => ?_, Option.some_ne_none _, ?_⟩
  · rw [List.lookup_nil, List.lookup_eq_none_iff]
    intro entry listed
    have named : entry.1 ∈ others.map Prod.fst := List.mem_map_of_mem listed
    rw [names, List.mem_singleton] at named
    rw [named]
    exact bne_iff_ne.mpr apart
  · rw [color]
    exact Option.some_ne_none _

/-- A world without settings, and the same with settings and a variable that turn colours off. -/
theorem outcome_of_sameButFlags_flagged :
    let tree := Tree.comparison Field.flagged.path .eq (.bool true)
    let world := World.handed tree.toJson.compact
    let other : World := { world with
      env? := fun name => if name = "NO_COLOR" then some "1" else none
      textAt := fun path =>
        if path = "/root/.config/ofq/config.toml" then .ok "[output]\ncolor = false\n" else .error .notFound
      present := fun path => path = "/root/.config/ofq/config.toml" }
    ∃ outcome outcome', run world ["compile", "--ast"] = .ok outcome ∧
      run other ["-q", "compile", "--json", "--ast", "--no-color"] = .ok outcome' ∧
      outcome.status = 0 ∧ outcome.ShowsLike (world.SameFile other) .compile false true outcome' := by
  intro tree world other
  have colors : world.SameButColors other := by
    refine ⟨fun name apart => if_neg apart, rfl, rfl, ?_⟩
    have place : world.settingsPath = .ok "/root/.config/ofq/config.toml" := by decide +kernel
    refine .inr fun path placed => ?_
    obtain rfl : "/root/.config/ofq/config.toml" = path := Except.ok.inj (place.symm.trans placed)
    obtain ⟨others, parsed, colored⟩ := exists_ofText?_colorless
    exact ⟨[], others, rfl, parsed, colored⟩
  have flags : SameButFlags ["compile", "--ast"] ["-q", "compile", "--json", "--ast", "--no-color"] :=
    @SameButFlags.right ("-q", .quiet) (by simp [Command.flags]) _ _ <| .argument (by decide) <|
      @SameButFlags.right ("--json", .json) (by simp [Command.flags]) _ _ <| .argument (by decide) <|
      @SameButFlags.right ("--no-color", .noColor) (by simp [Command.flags]) _ _ .nil
  have reads : world.invocation ["compile", "--ast"] =
      .ok { request := .input .compile .standardInput true } := rfl
  have reads' : other.invocation ["-q", "compile", "--json", "--ast", "--no-color"] = .ok
      { quiet := true, json := true, noColor := true, request := .input .compile .standardInput true } := rfl
  obtain ⟨outcome, outcome', ran, ran', alike⟩ := outcome_of_sameButFlags colors flags reads reads' rfl rfl
  have integral : tree.toJson.Integral := ⟨trivial, trivial, trivial, trivial, trivial⟩
  have ready := prepare_handed (readInput_of_spells_tree (Json.spells_compact integral) (by decide))
  refine ⟨outcome, outcome', ran, ran', ?_, alike⟩
  obtain rfl : runInvocation world _ = outcome :=
    Except.ok.inj ((run_of_invocation reads).symm.trans ran)
  rw [runInvocation_of_prepared rfl ready]
  rfl

end Command

end TaskFilter
