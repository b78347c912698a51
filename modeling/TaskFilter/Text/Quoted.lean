import TaskFilter.Text.DisplayTables

/-!
# Texts in quotes, for display

How a text is shown inside a message: between double quotes, with the usual short escapes, and every
character that would not show written by its code point.
-/

namespace TaskFilter.Text

/-- The digits of a number in base sixteen, small letters, no padding. -/
def hex (n : Nat) : List Char :=
  Nat.toDigits 16 n

/-- A character by its code point, as in `\u{200b}`. -/
def codePointEscape (c : Char) : List Char :=
  ['\\', 'u', '\x7b'] ++ hex c.toNat ++ ['\x7d']

/-- Whether a character is one of the two half-width sound marks. -/
def isHalfWidthMark (c : Char) : Bool :=
  c = '\uff9e' || c = '\uff9f'

/-- Whether a character is drawn onto its neighbour. The half-width sound marks extend their neighbour too,
and still stand beside it in a place of their own. -/
def isAttached (c : Char) : Bool :=
  extendingRanges.contains c && !isHalfWidthMark c

/-- Whether a character shows by itself when a text is displayed. -/
def isVisible (c : Char) : Bool :=
  if c.toNat < 0x7f then 0x20 ≤ c.toNat
  else !isAttached c && !shapelessRanges.contains c && !ignorableRanges.contains c

def quotedChar (c : Char) : List Char :=
  if c = '\x00' then ['\\', '0']
  else if c = '\t' then ['\\', 't']
  else if c = '\r' then ['\\', 'r']
  else if c = '\n' then ['\\', 'n']
  else if c = '"' then ['\\', '"']
  else if c = '\\' then ['\\', '\\']
  else if isVisible c then [c]
  else codePointEscape c

def quoted (s : String) : String :=
  String.ofList ('"' :: s.toList.flatMap quotedChar ++ ['"'])

def quotedList (items : List String) : String :=
  "[" ++ ", ".intercalate (items.map quoted) ++ "]"

end TaskFilter.Text
