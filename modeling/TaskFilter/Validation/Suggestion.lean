import TaskFilter.Field
import TaskFilter.Text.LowerCase
import TaskFilter.Text.Segments
import TaskFilter.Text.Similarity

/-!
# Suggestions for unknown fields

Which known fields may have been meant by an unknown path. A field comes into question if its path
contains the last segment of the unknown one, or that segment contains the field's last segment; letter
case does not count. The most similar ones are suggested.
-/

namespace TaskFilter.Validation

/-- The most suggestions that are made. -/
def maxSuggestions : Nat := 3

/-- The part of an unknown path that is compared: its last segment, in lower case. -/
def needle (path : String) : List Char :=
  (Text.lower (Text.lastSegment path)).toList

/-- The part of a field's path that is compared: its last segment, in lower case. -/
def fieldSegment (field : Field) : List Char :=
  (Text.lastSegment (Text.lower field.path)).toList

/-- Whether a field comes into question for a needle. -/
def overlaps (needle : List Char) (field : Field) : Bool :=
  Text.occursIn needle (Text.lower field.path).toList || Text.occursIn (fieldSegment field) needle

/-- How similar a field is to a needle; greater is more similar. -/
def score (needle : List Char) (field : Field) : UInt64 :=
  Text.similarityKey needle (fieldSegment field)

/-- Whether a field is suggested no later than another: the more similar first, and among equally similar
ones by path. -/
def suggestedFirst (needle : List Char) (f g : Field) : Bool :=
  score needle g < score needle f || (score needle f == score needle g && decide (f.path ≤ g.path))

/-- All fields that come into question, the best first. -/
def ranked (needle : List Char) : List Field :=
  (Field.all.filter (overlaps needle)).mergeSort (suggestedFirst needle)

/-- The paths that are suggested for an unknown one. -/
def suggestions (path : String) : List String :=
  if (needle path).isEmpty then [] else ((ranked (needle path)).take maxSuggestions).map Field.path

end TaskFilter.Validation
