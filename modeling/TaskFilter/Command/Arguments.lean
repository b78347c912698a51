import TaskFilter.Script.Dialect

/-!
# Arguments of the command line

How a row of arguments is read: switches, parameters with a value, commands and their operands. Four
switches and one parameter can be given before or behind the name of a command; each level counts for
itself when it is asked whether something was given twice.

Every fault of a command line ends the reading in the same way, and so does a request for help; of the two
the one that comes first counts. The value of a parameter is looked at when the next thing is taken up, or
at the end of its level, which is after the levels below it.
-/

namespace TaskFilter.Command

/-! ## What can be given -/

inductive Switch where
  | verbose | quiet | json | noColor
  /-- The input is a tree and not a record. -/
  | tree
  deriving DecidableEq, Repr

inductive Parameter where
  | dialect
  | filter
  deriving DecidableEq, Repr

/-- What a command with an input does with it. -/
inductive InputVerb where
  | compile | check | tree
  deriving DecidableEq, Repr

inductive SettingsVerb where
  | list | path
  deriving DecidableEq, Repr

/-- A level of the command line: what stands before a command, or behind its name. -/
inductive Level where
  | top
  | input (verb : InputVerb)
  | fields
  | settings
  | settingsVerb (verb : SettingsVerb)
  | completions
  deriving DecidableEq, Repr

namespace Level

/-- The commands of a level, and the level behind each. -/
def commands : Level → List (String × Level)
  | .top => [("compile", .input .compile), ("c", .input .compile), ("check", .input .check),
      ("ast", .input .tree), ("fields", .fields), ("config", .settings), ("completions", .completions)]
  | .settings => [("show", .settingsVerb .list), ("path", .settingsVerb .path)]
  | _ => []

def switches : Level → List Switch
  | .input _ => [.verbose, .quiet, .json, .noColor, .tree]
  | _ => [.verbose, .quiet, .json, .noColor]

def parameters : Level → List Parameter
  | .input _ => [.dialect, .filter]
  | _ => [.dialect]

def hasOperand : Level → Bool
  | .input _ | .completions => true
  | _ => false

/-- Whether a row of names leads from a level to something that there is help for. -/
def explains : Level → List String → Bool
  | _, [] => true
  | level, name :: rest =>
    match level.commands.lookup name with
    | some below => explains below rest
    | none => name = "help" && !level.commands.isEmpty && rest.isEmpty

end Level

def Switch.long : Switch → String
  | .verbose => "verbose"
  | .quiet => "quiet"
  | .json => "json"
  | .noColor => "no-color"
  | .tree => "ast"

def Switch.short? : Switch → Option Char
  | .verbose => some 'v'
  | .quiet => some 'q'
  | _ => none

def Parameter.long : Parameter → String
  | .dialect => "target"
  | .filter => "filter"

def Parameter.short : Parameter → Char
  | .dialect => 't'
  | .filter => 'f'

/-- The dialects that can be asked for, under the names that are accepted. -/
def dialectNames : List (String × Dialect) :=
  [("jxa", .jxa), ("omnijs", .omnijs), ("omni", .omnijs)]

def shells : List String :=
  ["bash", "zsh", "fish", "powershell"]

/-! ## What was given -/

/-- How a command line ends that does not lead to a run. -/
inductive Usage where
  /-- Help, or the version, was asked for. -/
  | help
  | wrong
  deriving DecidableEq, Repr

/-- Something that was taken up and not yet looked at. -/
inductive Pending where
  | nothing
  | waiting (parameter : Parameter)
  | valued (parameter : Parameter) (value : String)
  | operand (value : String)
  deriving DecidableEq, Repr

/-- What was given at one level. -/
structure Given where
  switches : List Switch := []
  dialect : Option Dialect := none
  filter : Option String := none
  operand : Option String := none
  pending : Pending := .nothing
  deriving DecidableEq, Repr

namespace Given

/-- Gives a value to a parameter that has none yet. -/
def assign (given : Given) : Parameter → String → Except Usage Given
  | .dialect, value =>
    match given.dialect, dialectNames.lookup value with
    | none, some dialect => .ok { given with dialect := some dialect }
    | _, _ => .error .wrong
  | .filter, value =>
    if given.filter.isSome then .error .wrong else .ok { given with filter := some value }

/-- Looks at what was taken up last. -/
def settle (level : Level) (given : Given) : Except Usage Given :=
  let settled := { given with pending := .nothing }
  match given.pending with
  | .nothing => .ok settled
  | .waiting _ => .error .wrong
  | .valued parameter value => settled.assign parameter value
  | .operand value =>
    if level = .completions && !shells.contains value then .error .wrong
    else .ok { settled with operand := some value }

def takeHelp (level : Level) (given : Given) : Except Usage Given := do
  let _ ← given.settle level
  throw .help

/-- Takes up a switch, which must not have been given at this level. -/
def takeSwitch (level : Level) (switch : Switch) (given : Given) : Except Usage Given := do
  let given ← given.settle level
  if given.switches.contains switch then throw .wrong
  return { given with switches := switch :: given.switches }

/-- Takes up a parameter with the value attached to it, or one whose value is the next argument. -/
def takeParameter (level : Level) (parameter : Parameter) (value : Option String) (given : Given) :
    Except Usage Given := do
  let given ← given.settle level
  match value with
  | some value => given.assign parameter value
  | none => return { given with pending := .waiting parameter }

/-- Takes up an operand, if the level has one that was not given. -/
def takeOperand (level : Level) (value : String) (given : Given) : Except Usage Given := do
  let given ← given.settle level
  if level.hasOperand && given.operand.isNone then
    return { given with pending := .operand value }
  else throw .wrong

/-- Takes up a long name, with the value attached to it. -/
def takeLong (level : Level) (name : String) (value : Option String) (given : Given) :
    Except Usage Given :=
  match level.parameters.find? (·.long == name) with
  | some parameter => given.takeParameter level parameter value
  | none =>
    if value.isSome then .error .wrong
    else if name = "help" || name = "version" then given.takeHelp level
    else
      match level.switches.find? (·.long == name) with
      | some switch => given.takeSwitch level switch
      | none => .error .wrong

/-- The value attached to a letter: what follows it, without an equals sign at its start. -/
def attached : List Char → Option String
  | [] => none
  | '=' :: rest => some (String.ofList rest)
  | rest => some (String.ofList rest)

/-- Takes up a row of letters: switches, and at its end a parameter with what follows as its value. -/
def takeLetters (level : Level) (given : Given) : List Char → Except Usage Given
  | [] => .ok given
  | letter :: rest =>
    match level.parameters.find? (·.short == letter) with
    | some parameter => given.takeParameter level parameter (attached rest)
    | none =>
      if letter = 'h' || letter = 'V' then given.takeHelp level
      else
        match level.switches.find? (·.short? == some letter) with
        | some switch => do
          let given ← given.takeSwitch level switch
          takeLetters level given rest
        | none => .error .wrong

/-- Ends a level. `standing` is the name of a dialect that stands in where none is given. -/
def finish (level : Level) (standing : Option String) (given : Given) : Except Usage Given := do
  let given ← given.settle level
  if given.dialect.isNone && !(standing.all fun name => (dialectNames.lookup name).isSome) then
    throw .wrong
  if given.switches.contains .quiet && given.switches.contains .verbose then throw .wrong
  if given.filter.isSome && given.operand.isSome then throw .wrong
  if level = .completions && given.operand.isNone then throw .wrong
  return given

end Given

/-! ## What was asked for -/

inductive Source where
  | inline (text : String)
  | file (path : String)
  | standardInput
  deriving DecidableEq, Repr

/-- What a run is asked to do. -/
inductive Request where
  /-- Nothing: the program says what it is. -/
  | banner
  | input (verb : InputVerb) (source : Source) (asTree : Bool)
  | fields
  | settings (verb : SettingsVerb)
  | completions
  deriving DecidableEq, Repr

/-- A command line that leads to a run. -/
structure Invocation where
  verbose : Bool := false
  quiet : Bool := false
  json : Bool := false
  noColor : Bool := false
  dialect : Option Dialect := none
  request : Request := .banner
  deriving DecidableEq, Repr

/-- Where the input of a level is taken from: the text that was given, the file that was named, or what is
handed to the program; a hyphen names the last. -/
def Given.source (given : Given) : Source :=
  match given.filter, given.operand with
  | some text, _ => .inline text
  | none, some "-" => .standardInput
  | none, some path => .file path
  | none, none => .standardInput

/-- What the last level of a command line asks for. -/
def Level.request (level : Level) (given : Given) : Request :=
  match level with
  | .top => .banner
  | .input verb => .input verb given.source (given.switches.contains .tree)
  | .fields => .fields
  | .settings => .settings .list
  | .settingsVerb verb => .settings verb
  | .completions => .completions

/-- What a level adds to the invocation of a level below it, or to its own request. -/
def Given.widen (given : Given) (inner : Invocation) : Invocation where
  verbose := given.switches.contains .verbose || inner.verbose
  quiet := given.switches.contains .quiet || inner.quiet
  json := given.switches.contains .json || inner.json
  noColor := given.switches.contains .noColor || inner.noColor
  dialect := inner.dialect.or given.dialect
  request := inner.request

/-! ## Reading -/

/-- How an argument is meant by its form. -/
inductive Form where
  /-- Two hyphens alone: only operands follow. -/
  | onlyOperands
  | long (name : String) (value : Option String)
  | letters (cs : List Char)
  | word

/-- The form of an argument. A hyphen alone is a word. -/
def formOf (argument : String) : Form :=
  match argument.toList with
  | ['-', '-'] => .onlyOperands
  | '-' :: '-' :: cs =>
    match cs.dropWhile (· ≠ '=') with
    | _ :: value => .long (String.ofList (cs.takeWhile (· ≠ '='))) (some (String.ofList value))
    | [] => .long (String.ofList cs) none
  | '-' :: c :: cs => .letters (c :: cs)
  | _ => .word

/-- Takes up a word: the value of a parameter that waits for one, or else an operand. -/
def Given.takeWord (level : Level) (value : String) (given : Given) : Except Usage Given :=
  match given.pending with
  | .waiting parameter => .ok { given with pending := .valued parameter value }
  | _ => given.takeOperand level value

/-- Whether an argument can be the name of a command here: a parameter that waits takes it as a value. -/
def Given.waits (given : Given) : Bool :=
  match given.pending with
  | .waiting _ => true
  | _ => false

/-- Reads the arguments of a level and of those below it. -/
def readLevel (standing : Option String) (level : Level) (onlyOperands : Bool) (given : Given) :
    List String → Except Usage Invocation
  | [] => do
    let given ← given.finish level standing
    return given.widen { request := level.request given }
  | argument :: rest =>
    if onlyOperands then do
      let given ← given.takeOperand level argument
      readLevel standing level true given rest
    else if !given.waits && !level.commands.isEmpty && argument = "help" then
      .error (if level.explains rest then .help else .wrong)
    else
      -- a parameter that waits takes whatever comes, even the name of a command
      match if given.waits then none else level.commands.lookup argument with
      | some below => do
        let inner ← readLevel standing below false {} rest
        let given ← given.finish level standing
        return given.widen inner
      | none =>
        match formOf argument with
        | .onlyOperands => readLevel standing level true given rest
        | .long name value => do
          let given ← given.takeLong level name value
          readLevel standing level false given rest
        | .letters cs => do
          let given ← given.takeLetters level cs
          readLevel standing level false given rest
        | .word => do
          let given ← given.takeWord level argument
          readLevel standing level false given rest

/-- Reads a command line. `standing` is the name of a dialect that stands in where none is given. -/
def readArguments (standing : Option String) (arguments : List String) : Except Usage Invocation := do
  let invocation ← readLevel standing .top false {} arguments
  return { invocation with
    dialect := invocation.dialect.or (standing.bind fun name => dialectNames.lookup name) }

end TaskFilter.Command
