/-!
# Settings files as tables

What a settings file holds: scalars, arrays, and tables of named items. A table remembers how it came to
be, because that decides whether it may be extended: by a header of its own, by a longer header or a
dotted key that passes through it, or written between braces.
-/

namespace TaskFilter.Toml

/-- How a table came to be. -/
inductive Origin where
  | braces
  | header
  /-- By a header that passes through it. -/
  | passing
  /-- By a dotted key. -/
  | dotted
  deriving DecidableEq, Repr

/-- An item of a settings file. Of numbers with a fraction and of dates nothing is kept, because no
setting asks for them. -/
inductive Item where
  | boolean (value : Bool)
  | integer (value : Int)
  | float
  | moment
  | string (value : String)
  | array (items : List Item)
  | table (origin : Origin) (entries : List (String × Item))
  /-- Tables under one header each, which make up an array. -/
  | tables (elements : List (List (String × Item)))

abbrev Entries := List (String × Item)

/-- The entries with another item under a name that is there. -/
def Entries.replace (entries : Entries) (name : String) (item : Item) : Entries :=
  entries.map fun e => if e.1 = name then (name, item) else e

/-! ## Placing items -/

/-- Changes the table at the end of a path. `made` is the origin of the tables that have to be made on the
way, and `passes` says which tables the path may lead through; an array of tables is entered at its last
element. -/
def changeAt (made : Origin) (passes : Origin → Bool) (change : Origin → Entries → Option Entries) :
    List String → Origin → Entries → Option Entries
  | [], origin, entries => change origin entries
  | name :: path, _, entries =>
    match entries.lookup name with
    | none => do
      let inner ← changeAt made passes change path made []
      some (entries ++ [(name, .table made inner)])
    | some (.table origin inner) => do
      guard (passes origin)
      let inner ← changeAt made passes change path origin inner
      some (Entries.replace entries name (.table origin inner))
    | some (.tables elements) => do
      -- whatever made it, an element is open for headers
      let last ← elements.getLast?
      let last ← changeAt made passes change path .header last
      some (Entries.replace entries name (.tables (elements.dropLast ++ [last])))
    | some _ => none

/-- Places an item under a dotted key. The name must be new, and a table that the key leads to must have
been made by dotted keys alone. -/
def insertDotted (path : List String) (name : String) (item : Item) (entries : Entries) :
    Option Entries :=
  changeAt .dotted (fun origin => origin = .passing || origin = .dotted)
    (fun origin inner =>
      if (path.isEmpty || origin = .dotted) && (inner.lookup name).isNone then
        some (inner ++ [(name, item)])
      else none)
    path .header entries

/-- Changes the table that a header leads to. -/
def changeUnder (path : List String) (change : Entries → Option Entries) (entries : Entries) :
    Option Entries :=
  changeAt .passing (· ≠ .braces) (fun _ inner => change inner) path .header entries

/-- Opens a table under a header: it must be new, or known only from longer headers. -/
def openTable (path : List String) (name : String) (entries : Entries) : Option Entries :=
  changeUnder path (fun inner =>
    match inner.lookup name with
    | none => some (inner ++ [(name, .table .header [])])
    | some (.table .passing own) => some (Entries.replace inner name (.table .header own))
    | some _ => none) entries

/-- Opens a further table of an array under a header. -/
def openElement (path : List String) (name : String) (entries : Entries) : Option Entries :=
  changeUnder path (fun inner =>
    match inner.lookup name with
    | none => some (inner ++ [(name, .tables [[]])])
    | some (.tables elements) => some (Entries.replace inner name (.tables (elements ++ [[]])))
    | some _ => none) entries

end TaskFilter.Toml
