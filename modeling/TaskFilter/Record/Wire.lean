import TaskFilter.Json.Layout
import TaskFilter.Record.Basic

/-!
# The JSON form of filter records

A record is written as an object of the keys that are set, in their order. It is read from an object with
its keys in any order, where `null` leaves a key unset and keys of no meaning are skipped, or from an
array of values in the order of the keys. A rule that is not recognised counts as unset.
-/

namespace TaskFilter.Record

open TaskFilter.Json (Document Layout ReadError Slot)

/-- Reads a value of a kind, or `null`. -/
def Key.Kind.read : (kind : Key.Kind) → Document → Except ReadError (Option kind.Value)
  | .flag, document => Document.readOptional Document.readBool document
  | .text, document => Document.readOptional Document.readString document
  | .tags, document => Document.readOptional (Document.readList Document.readString) document
  | .tagRule, document =>
    (Document.readOptional Document.readString document).map (·.bind TagRule.ofText?)
  | .textRule, document =>
    (Document.readOptional Document.readString document).map (·.bind TextRule.ofText?)

def Key.Kind.toJson : (kind : Key.Kind) → kind.Value → Json
  | .flag, value => .bool value
  | .text, value => .string value
  | .tags, value => .strings value
  | .tagRule, value => .string (TagRule.name value)
  | .textRule, value => .string (TextRule.name value)

def Key.slot (key : Key) : Slot Record where
  key := key.name
  fill document record := (key.kind.read document).map (record.set key)

def layout : Layout Record where
  name := "struct FilterSpec"
  slots := Key.all.map Key.slot

/-- Reads a record; no key is required. -/
def read (document : Document) : Except ReadError Record :=
  layout.read 0 (fun _ => none) {} document

def ofText (text : String) : Except ReadError Record :=
  Json.Source.read read text

def member (record : Record) (key : Key) : Option (String × Json) :=
  (record.get key).map fun value => (key.name, key.kind.toJson value)

def toJson (record : Record) : Json :=
  .object (Key.all.filterMap record.member)

end TaskFilter.Record
