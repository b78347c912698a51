import TaskFilter.Command.World

/-!
# Trees of files

Texts at places of one tree, and how a path is followed in it: from the root, or from the directory that a
run works in. Around that directory lies what every system has: its directories, some of its texts, and
its devices, of which one holds the text that is handed to the run.
-/

namespace TaskFilter.Command

/-- A place in a tree of files: the names on the way to it from the root. -/
abbrev Place := List String

/-- A tree of files: its directories, and what is read at its other places. A directory with anything in
it need not be listed. -/
structure FileTree where
  directories : List Place
  texts : List (Place × Except AccessError String)

namespace FileTree

/-! ## Paths -/

/-- The names in a path: what stands between its slashes, without gaps and references to the same
place. -/
def names (path : String) : List String :=
  ((path.toList.splitOn '/').map String.ofList).filter fun name => name ≠ "" && name ≠ "."

def startsAtRoot (path : String) : Bool :=
  path.toList.head? = some '/'

/-- Whether a path asks for a directory by its end: a slash, or a reference to the same place. -/
def asksForDirectory (path : String) : Bool :=
  (path.toList.splitOn '/').getLast? = some [] || (path.toList.splitOn '/').getLast? = some ['.']

def maxName : Nat := 255

def maxPath : Nat := 4095

/-! ## Places -/

/-- Whether a place is a directory: the root, one that is listed, or one that a text lies below. -/
def isDirectory (tree : FileTree) (place : Place) : Bool :=
  place.isEmpty || tree.directories.contains place ||
    tree.texts.any fun entry => place.isPrefixOf entry.1 && place.length < entry.1.length

/-- Whether a place holds something else than a directory. -/
def isText (tree : FileTree) (place : Place) : Bool :=
  (tree.texts.lookup place).isSome

/-- Follows names from a place on. The place above the root is the root. -/
def follow (tree : FileTree) (place : Place) : List String → Except AccessError Place
  | [] => if tree.isDirectory place || tree.isText place then .ok place else .error .notFound
  | name :: rest =>
    if tree.isDirectory place then
      if name = ".." then follow tree place.dropLast rest
      else if maxName < name.utf8ByteSize then .error .nameTooLong
      else follow tree (place ++ [name]) rest
    else if tree.isText place then .error .notADirectory
    else .error .notFound

/-- The directory that a run works in. No path can spell its name. -/
def workplace : Place := ["tmp", ""]

/-- The text at a path, as a run finds it. -/
def textAt (tree : FileTree) (path : String) : Except AccessError String := do
  if path.isEmpty then throw .notFound
  if path.toList.contains '\x00' then throw .nulInPath
  if maxPath < path.utf8ByteSize then throw .nameTooLong
  let place ← tree.follow (if startsAtRoot path then [] else workplace) (names path)
  if tree.isDirectory place then throw .isADirectory
  if asksForDirectory path then throw .notADirectory
  (tree.texts.lookup place).getD (.error .notFound)

/-- A path that is too long leads nowhere, whatever is there. -/
theorem textAt_of_long (tree : FileTree) {path : String} (long : maxPath < path.utf8ByteSize)
    (whole : path.toList.contains '\x00' = false) : tree.textAt path = .error .nameTooLong := by
  have filled : path.isEmpty = false := by
    cases empty : path.isEmpty with
    | false => rfl
    | true =>
      rw [String.isEmpty_iff] at empty
      subst empty
      exact absurd long (by decide)
  rw [textAt, filled, whole]
  simp only [if_pos long]
  rfl

/-! ## What every system has -/

def systemDirectories : List Place :=
  ["bin", "boot", "dev", "etc", "home", "lib", "media", "mnt", "opt", "proc", "root", "run", "sbin",
   "srv", "sys", "tmp", "usr", "var"].map fun name => [name]

/-- The devices: one is empty, one leads to nothing, and three are the texts that are handed to the run
and that it prints, of which nothing is printed when a text is read. -/
def devices (standardInput : Except AccessError String) : List (Place × Except AccessError String) :=
  [(["dev", "null"], .ok ""), (["dev", "tty"], .error .noDevice),
   (["dev", "stdin"], standardInput), (["dev", "stdout"], .ok ""), (["dev", "stderr"], .ok "")] ++
  [["dev", "fd"], ["proc", "self", "fd"]].flatMap fun place =>
    [(place ++ ["0"], standardInput), (place ++ ["1"], .ok ""), (place ++ ["2"], .ok "")]

/-- A text that is neither a filter nor settings. Of the texts of a system no more is known. -/
def otherText : String := "root\n"

/-- Texts of the system, and a program, which is no text. -/
def systemTexts : List (Place × Except AccessError String) :=
  [(["etc", "passwd"], .ok otherText), (["etc", "group"], .ok otherText),
   (["etc", "hosts"], .ok otherText), (["etc", "hostname"], .ok otherText),
   (["bin", "sh"], .error .notText)]

/-- The tree of a run: texts at paths below the directory that it works in, and what every system has. -/
def ofFiles (standardInput : Except AccessError String) (files : List (String × String)) :
    FileTree where
  directories := workplace :: systemDirectories
  texts :=
    files.map (fun file => (workplace ++ names file.1, .ok file.2)) ++ devices standardInput ++
      systemTexts

end FileTree

end TaskFilter.Command
