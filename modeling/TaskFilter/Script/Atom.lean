import TaskFilter.Json.Quoted
import TaskFilter.Operand
import TaskFilter.Operator

/-!
# Atoms of the script

The conditions that the expressions of a script are made of: a property compared with a fixed value, a
text searched for a term, names looked up in a collection, or a call that yields a truth value. No atom
has a connective at its top.

What an atom says is kept beside its text, and the text is a row of pieces: code, and string literals that
stand for operands. A literal is written as a JSON string, which is a string of the script too.
-/

namespace TaskFilter.Script

/-! ## Pieces of text -/

inductive Piece where
  /-- Code, written as it is. -/
  | code (text : String)
  /-- A text operand, written as a string literal. -/
  | literal (value : String)
  deriving DecidableEq, Repr

def Piece.write : Piece → List Char
  | .code text => text.toList
  | .literal value => Json.encode value

/-- The items of a list as an array of the script. -/
def arrayPieces : List String → List Piece
  | [] => [.code "[]"]
  | first :: rest =>
    .code "[" :: .literal first :: rest.flatMap (fun item => [.code ",", .literal item]) ++ [.code "]"]

def operandPieces : Operand → List Piece
  | .bool b => [.code (Operand.boolText b)]
  | .number n => [.code (String.ofList n.write)]
  | .string s => [.literal s]
  | .array items => arrayPieces items

/-! ## Atoms -/

/-- A fixed value that a property is compared with. -/
inductive Term where
  | operand (value : Operand)
  | null
  /-- A value that the script has a name for. -/
  | symbol (name : String)
  deriving BEq

def Term.pieces : Term → List Piece
  | .operand value => operandPieces value
  | .null => [.code "null"]
  | .symbol name => [.code name]

/-- A moment that a property is compared with. -/
inductive Moment where
  | date (text : String)
  | now
  deriving DecidableEq, Repr

def Moment.pieces : Moment → List Piece
  | .date text => [.code "new Date(", .literal text, .code ")"]
  | .now => [.code "new Date()"]

/-- How many of some names must be in a collection. -/
inductive Quantifier where
  | every
  | some
  deriving DecidableEq, Repr

def Quantifier.method : Quantifier → String
  | .every => "every"
  | .some => "some"

/-- A condition without a connective at its top. -/
inductive Atom where
  | constant (value : Bool)
  /-- The property is a value, or is not: `same` says which. -/
  | equality (property : String) (same : Bool) (term : Term)
  | order (property : String) (operator : Operator) (moment : Moment)
  /-- The text of the property in lower case, or no text, contains the term. -/
  | contains (property term : String)
  /-- The text of the property, or no text, matches the pattern in any case. -/
  | matches (property pattern : String)
  | membership (quantifier : Quantifier) (names : List String) (collection : String)
  /-- A call that yields a truth value. -/
  | test (call : String)
  deriving BEq

def Atom.pieces : Atom → List Piece
  | .constant value => [.code (Operand.boolText value)]
  | .equality property same term =>
    .code (property ++ if same then " === " else " !== ") :: term.pieces
  | .order property operator moment =>
    .code (property ++ " " ++ operator.token ++ " ") :: moment.pieces
  | .contains property term =>
    [.code ("(" ++ property ++ " || \"\").toLowerCase().includes("), .literal term, .code ")"]
  | .matches property pattern =>
    [.code "new RegExp(", .literal pattern, .code (", \"i\").test(" ++ property ++ " || \"\")")]
  | .membership quantifier names collection =>
    arrayPieces names ++
      [.code ("." ++ quantifier.method ++ "(t => " ++ collection ++ ".includes(t))")]
  | .test call => [.code call]

end TaskFilter.Script
