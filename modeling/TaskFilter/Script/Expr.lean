import TaskFilter.Script.Atom

/-!
# Expressions of the script

A Boolean expression as it is written: atoms joined by connectives, negations and parentheses. The
structure is kept beside the text, so that what an expression means can be told without reading it.
-/

namespace TaskFilter.Script

inductive Junction where
  | and
  | or
  deriving DecidableEq, Repr

/-- The sign of a junction, with spaces around it. -/
def Junction.sign : Junction → String
  | .and => " && "
  | .or => " || "

/-- The constant that changes no group of a junction. -/
def Junction.neutral : Junction → Bool
  | .and => true
  | .or => false

inductive Expr where
  | atom (condition : Atom)
  /-- The negation of an expression that binds tightly. -/
  | not (operand : Expr)
  | parens (inner : Expr)
  /-- Expressions joined by one connective. -/
  | joined (junction : Junction) (parts : List Expr)
  deriving BEq

namespace Expr

mutual

/-- The pieces of an expression, in the order of its text. -/
def pieces : Expr → List Piece
  | .atom condition => condition.pieces
  | .not operand => .code "!" :: pieces operand
  | .parens inner => .code "(" :: pieces inner ++ [.code ")"]
  | .joined junction parts => joinedPieces junction parts

/-- The pieces of the parts of a group, with the connective between them. -/
def joinedPieces (junction : Junction) : List Expr → List Piece
  | [] => []
  | [part] => pieces part
  | part :: rest => pieces part ++ .code junction.sign :: joinedPieces junction rest

end

def write (e : Expr) : List Char :=
  e.pieces.flatMap Piece.write

def text (e : Expr) : String :=
  String.ofList e.write

end Expr

end TaskFilter.Script
