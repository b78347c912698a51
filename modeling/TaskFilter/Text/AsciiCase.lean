/-!
# Letter case of the basic letters

Names of operators and dialects are compared without regard to the case of the letters A to Z. All other
characters count as they are.
-/

namespace TaskFilter.Text

def asciiUpper (s : String) : String :=
  String.ofList (s.toList.map Char.toUpper)

def asciiLower (s : String) : String :=
  String.ofList (s.toList.map Char.toLower)

end TaskFilter.Text
