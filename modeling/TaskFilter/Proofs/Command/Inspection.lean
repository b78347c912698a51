import TaskFilter.Proofs.Command.Lines
import TaskFilter.Proofs.Command.Statuses

/-!
# Inspecting settings that cannot be used

Some requests are carried out although the settings file cannot be used: they go on as if nothing were set.
Of these the listing of the settings reads the file once more, and fails for what was let pass before. All
others end with success whatever the file holds, once a place for it can be told.

## Layers

- **Requests**: the settings that a tolerant request is carried out under (`exists_settingsFor`), and the
  failure that each of them ends with, if any.
- **Lines**: the command lines that ask for such a request (`Inspection.written`), with options at every
  level, and that they are read as what they ask for (`exists_invocation_of_inspection`).
- **Main statement**: `status_of_inspection`.
-/

namespace TaskFilter.Command

variable {world : World} {path : String} {invocation : Invocation} {context : Context}

/-! ## Requests -/

/-- A tolerant request has settings to be carried out under, be they those of the file or none. -/
theorem exists_settingsFor {request : Request} (tolerant : request.toleratesSettings = true) :
    ∃ settings, world.settingsFor request = .ok settings := by
  rw [World.settingsFor]
  cases world.settings with
  | ok settings => exact ⟨settings, rfl⟩
  | error cause => exact ⟨{}, if_pos tolerant⟩

theorem runInvocation_of_settingsFor {settings : Settings}
    (own : world.settingsFor invocation.request = .ok settings) :
    runInvocation world invocation =
      (perform world (world.context invocation settings) invocation.request).outcome invocation.json
        (world.log invocation) := by
  rw [runInvocation, own]

/-- Telling the place of the settings file does not read it. -/
theorem failure_showSettingsPath (placed : world.settingsPath = .ok path) :
    (effectOf (showSettingsPath world context)).failure = none := by
  rw [showSettingsPath, placed]
  cases context.json <;> rfl

/-- Listing the settings does not fail if there are any to be listed. -/
theorem failure_showSettings_of_ok {settings : Settings} (placed : world.settingsPath = .ok path)
    (own : world.settings = .ok settings) : (effectOf (showSettings world context)).failure = none := by
  obtain ⟨json, colors, quiet, dialect, warningsAsErrors⟩ := context
  rw [showSettings, own, placed]
  cases json <;> cases quiet <;> rfl

theorem failure_showSettings_of_error {cause : SettingsFailure} (h : world.settings = .error cause) :
    (effectOf (showSettings world context)).failure = some (.settings cause) := by
  rw [showSettings, h]
  rfl

/-- Where a place can be told, there are no settings exactly if the file at that place cannot be used. -/
theorem exists_settings_error_iff_spoilt (placed : world.settingsPath = .ok path) :
    (∃ cause, world.settings = .error cause) ↔ world.Spoilt path := by
  rw [← exists_settingsAt_error_iff, World.settings, placed]
  rfl

open Classical in
/-- The status of a tolerant request: success, but for a listing of settings that cannot be used. -/
theorem status_of_tolerant (placed : world.settingsPath = .ok path)
    (tolerant : invocation.request.toleratesSettings = true) :
    (runInvocation world invocation).status =
      if invocation.request = .settings .list ∧ world.Spoilt path then 5 else 0 := by
  obtain ⟨settings, own⟩ : ∃ settings, world.settingsFor invocation.request = .ok settings :=
    exists_settingsFor tolerant
  rw [runInvocation_of_settingsFor own]
  cases asked : invocation.request with
  | input | fields =>
    -- these go no further without settings
    rw [asked] at tolerant
    cases tolerant
  | banner | completions => rw [if_neg (by simp)]; rfl
  | settings verb =>
    cases verb with
    | path =>
      rw [if_neg (by simp), status_outcome_eq_zero_iff]
      exact failure_showSettingsPath placed
    | list =>
      cases read : world.settings with
      | ok listed =>
        have sound : ¬ world.Spoilt path := by
          rw [← exists_settings_error_iff_spoilt placed, read]
          rintro ⟨_, ⟨⟩⟩
        rw [if_neg fun h => sound h.2, status_outcome_eq_zero_iff]
        exact failure_showSettings_of_ok placed read
      | error cause =>
        -- the file was let pass at first, and is read again
        have spoilt := (exists_settings_error_iff_spoilt placed).mp ⟨cause, read⟩
        rw [if_pos ⟨rfl, spoilt⟩]
        exact status_outcome_of_failure (failure_showSettings_of_error read)

/-! ## Lines -/

/-- The options that every level has. -/
structure Options where
  switches : List Switch
  dialect : Option Dialect
  distinct : switches.Nodup
  common : .tree ∉ switches
  /-- A run is not quiet and verbose at once. -/
  loud : .quiet ∈ switches → .verbose ∉ switches

def Options.none : Options :=
  ⟨[], .none, List.nodup_nil, List.not_mem_nil, nofun⟩

def Options.written (options : Options) : List String :=
  options.switches.map Switch.written ++ Dialect.written options.dialect

/-- What was given at a level of which the options were read. -/
def Options.given (options : Options) : Given :=
  { switches := options.switches.reverse, dialect := options.dialect }

def SettingsVerb.name : SettingsVerb → String
  | .list => "show"
  | .path => "path"

/-- The command lines that inspect settings, with options before and behind every name. -/
inductive Inspection where
  /-- The program alone. -/
  | banner (top : Options)
  | settings (top below : Options)
  | settingsVerb (top middle below : Options) (verb : SettingsVerb)
  | completions (top below : Options) (shell : String) (known : shell ∈ shells)

def Inspection.written : Inspection → List String
  | .banner top => top.written
  | .settings top below => top.written ++ "config" :: below.written
  | .settingsVerb top middle below verb =>
    top.written ++ "config" :: (middle.written ++ verb.name :: below.written)
  | .completions top below shell _ => top.written ++ "completions" :: (below.written ++ [shell])

/-- What a line asks for. Without a verb the settings are listed. -/
def Inspection.request : Inspection → Request
  | .banner _ => .banner
  | .settings _ _ => .settings .list
  | .settingsVerb _ _ _ verb => .settings verb
  | .completions .. => .completions

theorem Inspection.toleratesSettings_request (inspection : Inspection) :
    inspection.request.toleratesSettings = true := by
  cases inspection <;> rfl

variable {standing : Option String} {level : Level} {rest : List String}

theorem mem_switches_of_ne_tree {switch : Switch} (common : switch ≠ .tree) : switch ∈ level.switches := by
  cases level <;> cases switch <;> simp [Level.switches] at common ⊢

theorem readLevel_options (options : Options) :
    readLevel standing level false {} (options.written ++ rest) =
      readLevel standing level false options.given rest := by
  have offered : ∀ switch ∈ options.switches, switch ∈ level.switches := by
    intro switch listed
    refine mem_switches_of_ne_tree ?_
    rintro rfl
    exact options.common listed
  rw [Options.written, List.append_assoc,
    readLevel_switches offered rfl options.distinct (fun _ _ => List.not_mem_nil), readLevel_dialect rfl rfl,
    List.append_nil]
  rfl

theorem finish_options (accepted : Accepted standing) (options : Options) (plain : level ≠ .completions) :
    options.given.finish level standing = .ok options.given := by
  refine finish_of_settle accepted rfl (fun same => absurd same plain) ?_ (.inl rfl)
  show .quiet ∈ options.switches.reverse → .verbose ∉ options.switches.reverse
  rw [List.mem_reverse, List.mem_reverse]
  exact options.loud

/-- A level with options only asks for what the level asks for. -/
theorem readLevel_options_end (accepted : Accepted standing) (options : Options)
    (plain : level ≠ .completions) :
    readLevel standing level false {} options.written =
      .ok (options.given.widen { request := level.request options.given }) := by
  have read : readLevel standing level false {} (options.written ++ []) =
      readLevel standing level false options.given [] := readLevel_options options
  rw [List.append_nil] at read
  rw [read, readLevel, finish_options accepted options plain]
  rfl

/-- The name of a command behind options leads to the level of the command. -/
theorem readLevel_options_command (accepted : Accepted standing) (options : Options)
    (plain : level ≠ .completions) {below : Level} {name : String} {inner : Invocation}
    (named : level.commands.lookup name = some below)
    (read : readLevel standing below false {} rest = .ok inner) :
    readLevel standing level false {} (options.written ++ name :: rest) =
      .ok (options.given.widen inner) := by
  rw [readLevel_options]
  exact readLevel_command rfl named read (finish_options accepted options plain)

/-- The name of a shell completes the level of completions. -/
theorem readLevel_shell (accepted : Accepted standing) (options : Options) {shell : String}
    (known : shell ∈ shells) :
    readLevel standing .completions false {} (options.written ++ [shell]) =
      .ok (options.given.widen { request := .completions }) := by
  have settled : Given.settle .completions { options.given with pending := .operand shell } =
      .ok { options.given with operand := some shell } := by
    show (if true && !shells.contains shell then _ else _) = _
    rw [List.contains_iff_mem.mpr known]
    rfl
  have ends : Given.finish .completions standing { options.given with pending := .operand shell } =
      .ok { options.given with operand := some shell } := by
    refine finish_of_settle accepted settled (fun _ => nofun) ?_ (.inl rfl)
    show .quiet ∈ options.switches.reverse → .verbose ∉ options.switches.reverse
    rw [List.mem_reverse, List.mem_reverse]
    exact options.loud
  have word : formOf shell = .word := by
    simp only [shells, List.mem_cons, List.not_mem_nil, or_false] at known
    rcases known with rfl | rfl | rfl | rfl <;> rfl
  rw [readLevel_options, readLevel, word]
  -- the name is an operand, which is looked at when the level ends
  show readLevel standing .completions false { options.given with pending := .operand shell } [] = _
  rw [readLevel, ends]
  rfl

/-- Each of the lines is read, and asks for what it says. -/
theorem exists_invocation_of_inspection (accepted : Accepted standing) (inspection : Inspection) :
    ∃ invocation, readArguments standing inspection.written = .ok invocation ∧
      invocation.request = inspection.request := by
  -- what is asked for is decided by the last level, and the levels around it only add their options
  have read : ∃ inner, readLevel standing .top false {} inspection.written = .ok inner ∧
      inner.request = inspection.request := by
    cases inspection with
    | banner top => exact ⟨_, readLevel_options_end accepted top (by simp), rfl⟩
    | settings top below =>
      have named : Level.top.commands.lookup "config" = some .settings := rfl
      exact ⟨_, readLevel_options_command accepted top (by simp) named
        (readLevel_options_end accepted below (by simp)), rfl⟩
    | settingsVerb top middle below verb =>
      have named : Level.top.commands.lookup "config" = some .settings := rfl
      have namedVerb : Level.settings.commands.lookup verb.name = some (.settingsVerb verb) := by
        cases verb <;> rfl
      exact ⟨_, readLevel_options_command accepted top (by simp) named
        (readLevel_options_command accepted middle (by simp) namedVerb
          (readLevel_options_end accepted below (by simp))), rfl⟩
    | completions top below shell known =>
      have named : Level.top.commands.lookup "completions" = some .completions := rfl
      exact ⟨_, readLevel_options_command accepted top (by simp) named (readLevel_shell accepted below known),
        rfl⟩
  obtain ⟨inner, read, asked⟩ := read
  exact ⟨{ inner with dialect := inner.dialect.or (standing.bind fun name => dialectNames.lookup name) },
    by rw [readArguments, read]; rfl, asked⟩

/-! ## Runs -/

open Classical in
/-- Where a place for the settings file can be told, every line that asks for a tolerant request ends with
success, whatever is at that place, but for a listing of settings that cannot be used, which ends with the
status of such settings. The program alone, the settings, their place and completions are such lines, with
any options at each level, unless a variable names a dialect that there is not. -/
theorem status_of_inspection (placed : world.settingsPath = .ok path) :
    (∀ line invocation, world.invocation line = .ok invocation →
      invocation.request.toleratesSettings = true →
        ∃ outcome, run world line = .ok outcome ∧
          outcome.status = if invocation.request = .settings .list ∧ world.Spoilt path then 5 else 0) ∧
    (Accepted (world.env? "OFQ_TARGET") → ∀ inspection : Inspection,
      ∃ outcome, run world inspection.written = .ok outcome ∧
        outcome.status = if inspection.request = .settings .list ∧ world.Spoilt path then 5 else 0) := by
  constructor
  · intro line invocation asks tolerant
    exact ⟨_, run_of_invocation asks, status_of_tolerant placed tolerant⟩
  · intro accepted inspection
    obtain ⟨invocation, asks, asked⟩ := exists_invocation_of_inspection accepted inspection
    have tolerant : invocation.request.toleratesSettings = true := by
      rw [asked]
      exact inspection.toleratesSettings_request
    refine ⟨_, run_of_invocation asks, ?_⟩
    rw [status_of_tolerant placed tolerant, asked]

/-- A world in which a variable names the settings file, and the file holds a text. -/
def World.holding (text : String) : World where
  env? name := if name = "OFQ_CONFIG" then some "config.toml" else none
  accountHome := none
  textAt path := if path = "config.toml" then .ok text else .error .notFound
  standardInput := .ok ""

theorem spoilt_holding {text : String} (h : (Toml.ofText? text).bind Settings.ofEntries? = none) :
    (World.holding text).Spoilt "config.toml" :=
  .malformed text rfl rfl h

/-- A file that is no settings file by its syntax stops neither completions nor the place of the file from
being printed. -/
theorem status_of_inspection_malformed :
    (World.holding "target = [").Spoilt "config.toml" ∧
      (∃ outcome, run (World.holding "target = [") ["completions", "zsh"] = .ok outcome ∧
        outcome.status = 0) ∧
      ∃ outcome, run (World.holding "target = [") ["config", "path"] = .ok outcome ∧ outcome.status = 0 := by
  have placed : (World.holding "target = [").settingsPath = .ok "config.toml" := rfl
  have asks : (World.holding "target = [").invocation ["config", "path"] =
      .ok { request := .settings .path } := rfl
  obtain ⟨lines, inspections⟩ := status_of_inspection placed
  refine ⟨spoilt_holding (by decide +kernel), ?_, ?_⟩
  · obtain ⟨outcome, ran, status⟩ := inspections rfl (.completions .none .none "zsh" (by decide))
    refine ⟨outcome, ran, ?_⟩
    rw [status, if_neg (by simp [Inspection.request])]
  · obtain ⟨outcome, ran, status⟩ := lines _ _ asks rfl
    refine ⟨outcome, ran, ?_⟩
    rw [status, if_neg (by simp)]

/-- The listing of the settings fails for such a file. -/
theorem run_config_show_malformed :
    (World.holding "target = [").settingsPath = .ok "config.toml" ∧
      (run (World.holding "target = [") ["config", "show", "--quiet"]).toOption =
        some { status := 5, output := "", errors := "Error: configuration error: Failed to parse config\n" } :=
  ⟨rfl, by decide +kernel⟩

end TaskFilter.Command
