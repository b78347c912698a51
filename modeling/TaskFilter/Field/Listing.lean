import TaskFilter.Field
import TaskFilter.Json.Printer
import TaskFilter.Text.Styled

/-!
# The listing of fields

All fields with their kinds and descriptions, as JSON and as a table. Derived fields are marked.
-/

namespace TaskFilter.Field

open TaskFilter.Text (padded styled)

def toJson (field : Field) : Json :=
  .object [("path", .string field.path), ("kind", .string field.kind.name),
    ("synthetic", .bool field.isDerived), ("description", .string field.description)]

def listingJson : Json :=
  .object [("fields", .array (all.map toJson))]

def listingHeader (colors : Bool) : String :=
  styled colors [.dimmed]
    (padded 24 "Field" ++ " " ++ padded 8 "Kind" ++ " " ++ padded 2 "" ++ " " ++ "Description") ++ "\n"

def listingRow (colors : Bool) (field : Field) : String :=
  styled colors [.bold] (padded 24 field.path) ++ " " ++ padded 8 field.kind.name ++ " " ++
    padded 2 (if field.isDerived then "*" else " ") ++ " " ++ field.description ++ "\n"

def listingTable (colors : Bool) : String :=
  listingHeader colors ++ String.join (all.map (listingRow colors)) ++
    "\n* expanded per dialect at emission time\n"

end TaskFilter.Field
