import TaskFilter.Text.Ranges

/-!
# White space

The characters with the Unicode property `White_Space`, and trimming by it. Every place of the library
that ignores surrounding space (operators, date bias, the text of an input) uses this one notion.
-/

namespace TaskFilter.Text

/-- The characters with the property `White_Space`. -/
def blankRanges : Ranges :=
  [(0x9, 0xd), (0x20, 0x20), (0x85, 0x85), (0xa0, 0xa0), (0x1680, 0x1680), (0x2000, 0x200a),
   (0x2028, 0x2029), (0x202f, 0x202f), (0x205f, 0x205f), (0x3000, 0x3000)]

def isBlank (c : Char) : Bool :=
  blankRanges.contains c

def skipBlanks (cs : List Char) : List Char :=
  cs.dropWhile isBlank

def trim (s : String) : String :=
  String.ofList (skipBlanks (skipBlanks s.toList).reverse).reverse

end TaskFilter.Text
