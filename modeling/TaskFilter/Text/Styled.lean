/-!
# Text for a terminal

Colours and weights, and the padding of a column. A style is a control sequence before the text and one
after it; what stands between is untouched.
-/

namespace TaskFilter.Text

/-- How a piece of text can be set off in a terminal. -/
inductive Style
  | dimmed | bold | red | green | yellow | cyan
  deriving DecidableEq, Repr

/-- The number of the control sequence that starts the style, and of the one that ends it. -/
def Style.codes : Style → Nat × Nat
  | .dimmed => (2, 0)
  | .bold => (1, 0)
  | .red => (31, 39)
  | .green => (32, 39)
  | .yellow => (33, 39)
  | .cyan => (36, 39)

/-- The control sequence of a number. -/
def controlSequence (code : Nat) : String :=
  "\x1b[" ++ Nat.repr code ++ "m"

def Style.apply (style : Style) (text : String) : String :=
  controlSequence style.codes.1 ++ text ++ controlSequence style.codes.2

/-- The text in several styles, the first outermost; plain if colours are off. -/
def styled (colors : Bool) (styles : List Style) (text : String) : String :=
  if colors then styles.foldr Style.apply text else text

/-- The text, filled with spaces on the right up to `width` characters. -/
def padded (width : Nat) (text : String) : String :=
  text ++ String.ofList (List.replicate (width - text.length) ' ')

theorem styled_plain (styles : List Style) (text : String) : styled false styles text = text := rfl

end TaskFilter.Text
