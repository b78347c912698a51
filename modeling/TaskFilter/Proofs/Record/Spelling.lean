import TaskFilter.Proofs.Json.Printing
import TaskFilter.Proofs.Json.Reading
import TaskFilter.Proofs.Record.Rules
import TaskFilter.Record.Wire

/-!
# Spellings of records

One record can be written in many ways: as an object with its keys in any order, with other members among
them, or as an array of values. An object says what the record holds under a key in one place only, and
where it stands makes no difference.

## Layers

- **Keys**: `Key.ofName?`, and the keys that members are written for.
- **Members**: `fillMembers_eq_ok_iff` says when members are read as a record, without reading them in
  their order.
- **Values**: `SpelledValue`, what can be written under a key.
- **Texts**: `ofText_of_spelled`, the main statement.
-/

namespace TaskFilter.Record

open TaskFilter.Json (Document ReadError Source bind_eq_ok_iff map_eq_ok_iff)

/-! ## Keys -/

namespace Key

/-- The key of a name. -/
def ofName? (name : String) : Option Key :=
  all.find? (·.name == name)

theorem ofName?_name (key : Key) : ofName? key.name = some key := by
  cases key <;> rfl

theorem name_of_ofName? {name : String} {key : Key} (h : ofName? name = some key) :
    key.name = name := by
  simpa using List.find?_some h

theorem name_injective {key other : Key} (h : key.name = other.name) : key = other := by
  have found := ofName?_name key
  rw [h, ofName?_name] at found
  exact (Option.some.inj found).symm

end Key

/-- The slots of the layout are found by the names of the keys. -/
theorem find?_slots (name : String) :
    layout.slots.find? (·.key == name) = (Key.ofName? name).map Key.slot :=
  List.find?_map ..

/-- The keys that members are written for, in the order of the members. -/
def keysOf (members : List (Option String × Document)) : List Key :=
  members.filterMap fun member => member.1.bind Key.ofName?

section

variable {name : String} {key : Key} (document : Document) (members : List (Option String × Document))

theorem keysOf_cons_of_none (h : Key.ofName? name = none) :
    keysOf ((some name, document) :: members) = keysOf members :=
  List.filterMap_cons_none h

theorem keysOf_cons_name : keysOf ((some key.name, document) :: members) = key :: keysOf members :=
  List.filterMap_cons_some (Key.ofName?_name key)

end

/-! ## Members -/

/-- The members of an object, read after others that stood under the names in `seen`, turn one record into
another. -/
structure Accepts (seen : List String) (record : Record) (members : List (Option String × Document))
    (result : Record) : Prop where
  named : ∀ member ∈ members, member.1.isSome = true
  /-- What stands under a name of no key is well formed. -/
  whole : ∀ name document, (some name, document) ∈ members → Key.ofName? name = none →
    document.isWhole = true
  once : (keysOf members).Nodup
  fresh : ∀ key ∈ keysOf members, key.name ∉ seen
  read : ∀ (key : Key) (document : Document), (some key.name, document) ∈ members →
    key.kind.read document = .ok (result.get key)
  kept : ∀ key : Key, key ∉ keysOf members → result.get key = record.get key

theorem accepts_nil {seen : List String} {record result : Record} :
    Accepts seen record [] result ↔ record = result := by
  constructor
  · exact fun accepted => ext_get fun key => (accepted.kept key List.not_mem_nil).symm
  · rintro rfl
    exact ⟨nofun, nofun, List.nodup_nil, nofun, nofun, fun _ _ => rfl⟩

theorem accepts_cons_unknown {seen : List String} {record result : Record} {name : String}
    {document : Document} {members : List (Option String × Document)} (h : Key.ofName? name = none) :
    Accepts seen record ((some name, document) :: members) result ↔
      document.isWhole = true ∧ Accepts seen record members result := by
  have keys := keysOf_cons_of_none document members h
  constructor
  · rintro ⟨named, whole, once, fresh, read, kept⟩
    rw [keys] at once fresh kept
    exact ⟨whole name document List.mem_cons_self h,
      fun member listed => named member (List.mem_cons_of_mem _ listed),
      fun name document listed => whole name document (List.mem_cons_of_mem _ listed), once, fresh,
      fun key document listed => read key document (List.mem_cons_of_mem _ listed), kept⟩
  · rintro ⟨own, named, whole, once, fresh, read, kept⟩
    refine ⟨List.forall_mem_cons.mpr ⟨rfl, named⟩, ?_, keys ▸ once, keys ▸ fresh, ?_, keys ▸ kept⟩
    · intro name document listed
      rcases List.mem_cons.mp listed with same | later
      · obtain ⟨-, rfl⟩ := Prod.mk.inj same
        exact fun _ => own
      · exact whole name document later
    · intro key document listed
      rcases List.mem_cons.mp listed with same | later
      · obtain rfl := Option.some.inj (Prod.mk.inj same).1
        rw [Key.ofName?_name] at h
        cases h
      · exact read key document later

/-- A member under a key sets the key, which must not have been set before. -/
theorem accepts_cons_key {seen : List String} {record result : Record} {key : Key}
    {document : Document} {members : List (Option String × Document)} :
    Accepts seen record ((some key.name, document) :: members) result ↔
      key.name ∉ seen ∧ ∃ value, key.kind.read document = .ok value ∧
        Accepts (key.name :: seen) (record.set key value) members result := by
  have keys := @keysOf_cons_name key document members
  constructor
  · rintro ⟨named, whole, once, fresh, read, kept⟩
    rw [keys] at once fresh kept
    obtain ⟨new, once⟩ := List.nodup_cons.mp once
    -- the key is set to what the result holds
    refine ⟨fresh key List.mem_cons_self, result.get key, read key document List.mem_cons_self,
      fun member listed => named member (List.mem_cons_of_mem _ listed),
      fun name document listed => whole name document (List.mem_cons_of_mem _ listed), once, ?_,
      fun key document listed => read key document (List.mem_cons_of_mem _ listed), ?_⟩
    · intro other listed before
      rcases List.mem_cons.mp before with same | before
      · exact new (Key.name_injective same ▸ listed)
      · exact fresh other (List.mem_cons_of_mem _ listed) before
    · intro other absent
      -- a key without another member keeps what it was set to, or what it was before
      by_cases same : other = key
      · rw [same, get_set_self]
      · rw [get_set_of_ne _ same]
        exact kept other fun listed => (List.mem_cons.mp listed).elim same absent
  · rintro ⟨new, value, own, named, whole, once, fresh, read, kept⟩
    -- the key has been seen, so it does not stand among the members behind
    have absent : key ∉ keysOf members := fun listed => fresh key listed List.mem_cons_self
    refine ⟨List.forall_mem_cons.mpr ⟨rfl, named⟩, ?_, ?_, ?_, ?_, ?_⟩
    · intro name document listed unknown
      rcases List.mem_cons.mp listed with same | later
      · obtain rfl := Option.some.inj (Prod.mk.inj same).1
        rw [Key.ofName?_name] at unknown
        cases unknown
      · exact whole name document later unknown
    · rw [keys]
      exact List.nodup_cons.mpr ⟨absent, once⟩
    · rw [keys]
      exact List.forall_mem_cons.mpr
        ⟨new, fun other listed before => fresh other listed (List.mem_cons_of_mem _ before)⟩
    · intro other document listed
      rcases List.mem_cons.mp listed with same | later
      · obtain ⟨name, rfl⟩ := Prod.mk.inj same
        obtain rfl := Key.name_injective (Option.some.inj name)
        rw [own, kept other absent, get_set_self]
      · exact read other document later
    · intro other listed
      rw [keys, List.mem_cons, not_or] at listed
      rw [kept other listed.2, get_set_of_ne _ listed.1]

/-- Members are read as a record if each of them says what the record holds, and no two the same. -/
theorem fillMembers_eq_ok_iff (members : List (Option String × Document)) :
    ∀ {seen : List String} {record result : Record},
      layout.fillMembers seen record members = .ok result ↔ Accepts seen record members result := by
  induction members with
  | nil =>
    intro seen record result
    rw [accepts_nil, Json.Layout.fillMembers]
    simp
  | cons member members ih =>
    intro seen record result
    obtain ⟨_ | name, document⟩ := member
    -- a broken key is refused
    · refine ⟨nofun, fun accepted => ?_⟩
      cases accepted.named _ List.mem_cons_self
    · rw [Json.Layout.fillMembers, find?_slots]
      cases found : Key.ofName? name with
      | none =>
        rw [accepts_cons_unknown found, ← ih]
        by_cases whole : document.isWhole = true <;> simp [whole]
      | some key =>
        obtain rfl := Key.name_of_ofName? found
        rw [accepts_cons_key]
        by_cases before : key.name ∈ seen
        · simp [before]
        · simp only [← ih]
          simp [before, Key.slot, bind_eq_ok_iff, map_eq_ok_iff]

theorem read_object_eq_ok_iff {members : List (Option String × Document)} {closed : Bool}
    {record : Record} :
    read (.object members closed) = .ok record ↔ closed = true ∧ Accepts [] {} members record := by
  rw [← fillMembers_eq_ok_iff, read, Json.Layout.read]
  cases layout.fillMembers [] {} members with
  | error cause => simp [bind, Except.bind]
  | ok result =>
    cases closed <;> simp [bind, Except.bind, pure, Except.pure, throw, throwThe, MonadExceptOf.throw]

/-- The order of the members makes no difference. -/
theorem Accepts.perm {seen : List String} {record result : Record}
    {members others : List (Option String × Document)} (order : members.Perm others)
    (h : Accepts seen record members result) : Accepts seen record others result := by
  have keys : (keysOf members).Perm (keysOf others) := order.filterMap _
  exact ⟨fun member listed => h.named member (order.mem_iff.mpr listed),
    fun name document listed => h.whole name document (order.mem_iff.mpr listed),
    keys.nodup_iff.mp h.once, fun key listed => h.fresh key (keys.mem_iff.mpr listed),
    fun key document listed => h.read key document (order.mem_iff.mpr listed),
    fun key absent => h.kept key fun listed => absent (keys.mem_iff.mp listed)⟩

/-- No key stands twice among members that are accepted. -/
theorem Accepts.not_repeated {seen : List String} {record result : Record}
    {members : List (Option String × Document)} (h : Accepts seen record members result) (key : Key) :
    ¬[some key.name, some key.name].Sublist (members.map Prod.fst) := by
  intro twice
  have keys : [key, key].Sublist (keysOf members) := by
    have found := twice.filterMap fun name => name.bind Key.ofName?
    rw [List.filterMap_map] at found
    simpa [keysOf, Function.comp_def, Key.ofName?_name] using found
  exact (List.nodup_cons.mp (h.once.sublist keys)).1 List.mem_cons_self

/-! ## Values -/

/-- What can be written under a key that holds a value, or none. A rule is unset as well if it is written as a
text that is no rule's. -/
inductive SpelledValue : (kind : Key.Kind) → Option kind.Value → Document → Prop where
  | null (kind : Key.Kind) : SpelledValue kind none .null
  | flag (value : Bool) : SpelledValue .flag (some value) (.bool value)
  | text (value : String) : SpelledValue .text (some value) (.string (some value))
  | tags (items : List String) :
      SpelledValue .tags (some items) (.array (items.map fun item => .string (some item)) true)
  | tagRule {rule : TagRule} {text : String} (h : SpelledRule TagRule.names rule text) :
      SpelledValue .tagRule (some rule) (.string (some text))
  | noTagRule {text : String} (h : ∀ rule, ¬SpelledRule TagRule.names rule text) :
      SpelledValue .tagRule none (.string (some text))
  | textRule {rule : TextRule} {text : String} (h : SpelledRule TextRule.names rule text) :
      SpelledValue .textRule (some rule) (.string (some text))
  | noTextRule {text : String} (h : ∀ rule, ¬SpelledRule TextRule.names rule text) :
      SpelledValue .textRule none (.string (some text))

theorem mapM_readString (items : List String) :
    (items.map fun item => Document.string (some item)).mapM Document.readString = .ok items := by
  induction items with
  | nil => rfl
  | cons item items ih =>
    rw [List.map_cons, List.mapM_cons, ih]
    rfl

theorem areWhole_strings (items : List String) :
    Document.areWhole (items.map fun item => .string (some item)) = true := by
  induction items with
  | nil => rfl
  | cons item items ih =>
    rw [List.map_cons, Document.areWhole, ih]
    rfl

theorem readString_some (text : String) :
    Document.readOptional Document.readString (.string (some text)) = .ok (some text) :=
  rfl

theorem map_some_bind {α : Type} (text : String) (f : String → Option α) :
    (Except.ok (some text) : Except ReadError (Option String)).map (·.bind f) = .ok (f text) :=
  rfl

section

variable {kind : Key.Kind} {value : Option kind.Value} {document : Document}

theorem SpelledValue.read (h : SpelledValue kind value document) : kind.read document = .ok value := by
  cases h with
  | null => cases kind <;> rfl
  | flag | text => rfl
  | tags items =>
    rw [Key.Kind.read, Document.readOptional, Document.readList, mapM_readString]
    · rfl
    · exact nofun
  | tagRule h => rw [Key.Kind.read, readString_some, map_some_bind, TagRule.ofText?_eq_some_iff.mpr h]
  | @noTagRule text h =>
    have none : TagRule.ofText? text = none := Option.eq_none_iff_forall_ne_some.mpr
      fun rule found => h rule (TagRule.ofText?_eq_some_iff.mp found)
    rw [Key.Kind.read, readString_some, map_some_bind, none]
  | textRule h => rw [Key.Kind.read, readString_some, map_some_bind, TextRule.ofText?_eq_some_iff.mpr h]
  | @noTextRule text h =>
    have none : TextRule.ofText? text = none := Option.eq_none_iff_forall_ne_some.mpr
      fun rule found => h rule (TextRule.ofText?_eq_some_iff.mp found)
    rw [Key.Kind.read, readString_some, map_some_bind, none]

theorem SpelledValue.isWhole (h : SpelledValue kind value document) : document.isWhole = true := by
  cases h with
  | tags items => rw [Document.isWhole, areWhole_strings]; rfl
  | _ => rfl

end

/-! ## Objects -/

/-- What can be written for a record as the members of an object: each key that is set, in any order, and keys
that are unset where they please, among members of other names. -/
structure SpelledMembers (record : Record) (members : List (Option String × Document)) : Prop where
  named : ∀ member ∈ members, member.1.isSome = true
  listed : ∀ key : Key, (record.get key).isSome = true → key ∈ keysOf members
  once : (keysOf members).Nodup
  spelled : ∀ (key : Key) (document : Document), (some key.name, document) ∈ members →
    SpelledValue key.kind (record.get key) document
  others : ∀ name document, (some name, document) ∈ members → Key.ofName? name = none →
    document.isWhole = true

section

variable {record : Record} {members : List (Option String × Document)}

theorem SpelledMembers.accepts (h : SpelledMembers record members) : Accepts [] {} members record where
  named := h.named
  whole := h.others
  once := h.once
  fresh := fun _ _ => List.not_mem_nil
  read := fun key document listed => (h.spelled key document listed).read
  kept := fun key absent => by
    have unset : record.get key = none :=
      Option.not_isSome_iff_eq_none.mp fun set => absent (h.listed key set)
    rw [unset]
    cases key <;> rfl

theorem areMembersWhole_of_forall {members : List (Option String × Document)}
    (h : ∀ member ∈ members, member.2.isWhole = true) : Document.areMembersWhole members = true := by
  induction members with
  | nil => rfl
  | cons member members ih =>
    obtain ⟨own, rest⟩ := List.forall_mem_cons.mp h
    rw [Document.areMembersWhole, own, ih rest]
    rfl

theorem SpelledMembers.isWhole (h : SpelledMembers record members) :
    (Document.object members true).isWhole = true := by
  rw [Document.isWhole, areMembersWhole_of_forall, Bool.and_self]
  rintro ⟨_ | name, document⟩ listed
  · cases h.named _ listed
  · cases found : Key.ofName? name with
    | none => exact h.others name document listed found
    | some key =>
      obtain rfl := Key.name_of_ofName? found
      exact (h.spelled key document listed).isWhole

theorem ofText_of_spelledMembers (h : SpelledMembers record members) {text : String}
    (written : Json.Spelled (Document.object members true).tokens text.toList) :
    ofText text = .ok record := by
  rw [ofText, Source.read_of_spelled h.isWhole written, read_object_eq_ok_iff]
  exact ⟨rfl, h.accepts⟩

end

/-! ## Arrays -/

/-- What can be written for a record as the items of an array: the values of the keys in their order, of which
the last may be left out if they are unset. -/
def SpelledItems (record : Record) (items : List Document) : Prop :=
  ∃ front back, Key.all = front ++ back ∧
    List.Forall₂ (fun key document => SpelledValue key.kind (record.get key) document) front items ∧
      ∀ key ∈ back, record.get key = none

section

variable {record : Record} {items : List Document}

/-- The record with some keys taken from another one. -/
def takeKeys (record : Record) (keys : List Key) (start : Record) : Record :=
  keys.foldl (fun state key => state.set key (record.get key)) start

theorem get_takeKeys (keys : List Key) (start : Record) (key : Key) :
    (takeKeys record keys start).get key = if key ∈ keys then record.get key else start.get key := by
  induction keys generalizing start with
  | nil => rfl
  | cons first keys ih =>
    rw [takeKeys, List.foldl_cons, ← takeKeys, ih]
    by_cases later : key ∈ keys
    · simp [later]
    · by_cases same : key = first
      · subst same
        simp [later, get_set_self]
      · simp [later, same, get_set_of_ne]

theorem fillItems_of_read {front back : List Key}
    (h : List.Forall₂ (fun key document => key.kind.read document = .ok (record.get key)) front items) :
    ∀ {start : Record}, Json.Layout.fillItems start ((front ++ back).map Key.slot) items =
      .ok (takeKeys record front start, back.map Key.slot, []) := by
  induction h with
  | nil =>
    intro start
    cases back <;> rfl
  | @cons key document front items first _ ih =>
    intro start
    have own : key.slot.fill document start = .ok (start.set key (record.get key)) :=
      map_eq_ok_iff.mpr ⟨_, first, rfl⟩
    rw [List.cons_append, List.map_cons, Json.Layout.fillItems, own]
    exact ih

theorem SpelledItems.read (h : SpelledItems record items) : read (.array items true) = .ok record := by
  obtain ⟨front, back, all, spelled, unset⟩ := h
  have filled := @fillItems_of_read record items front back (spelled.imp fun _ _ => SpelledValue.read) {}
  -- keys that were cut off are unset in both records
  have whole : takeKeys record front {} = record := by
    refine ext_get fun key => ?_
    rw [get_takeKeys]
    split
    · rfl
    next absent =>
      have listed := List.mem_append.mp (all ▸ Key.mem_all key)
      rw [unset key (listed.resolve_left absent)]
      cases key <;> rfl
  rw [whole, ← all] at filled
  rw [Record.read, Json.Layout.read, layout, filled]
  rfl

theorem SpelledItems.isWhole (h : SpelledItems record items) :
    (Document.array items true).isWhole = true := by
  obtain ⟨front, back, -, spelled, -⟩ := h
  rw [Document.isWhole, Bool.and_true]
  induction spelled with
  | nil => rfl
  | cons first _ ih =>
    rw [Document.areWhole, first.isWhole, ih]
    rfl

theorem ofText_of_spelledItems (h : SpelledItems record items) {text : String}
    (written : Json.Spelled (Document.array items true).tokens text.toList) :
    ofText text = .ok record := by
  rw [ofText, Source.read_of_spelled h.isWhole written, h.read]

end

/-! ## Written records -/

theorem spelledValue_toJson (kind : Key.Kind) (value : kind.Value) :
    SpelledValue kind (some value) (Document.ofJson (kind.toJson value)) := by
  cases kind with
  | flag => exact .flag value
  | text => exact .text value
  | tags =>
    rw [Key.Kind.toJson, Json.strings, Document.ofJson, Document.ofJsons_strings]
    exact .tags value
  | tagRule => exact .tagRule (TagRule.ofText?_eq_some_iff.mp (TagRule.ofText?_name value))
  | textRule => exact .textRule (TextRule.ofText?_eq_some_iff.mp (TextRule.ofText?_name value))

theorem integral_kind (kind : Key.Kind) (value : kind.Value) : (kind.toJson value).Integral := by
  cases kind with
  | tags => exact Json.allIntegral_strings value
  | _ => exact trivial

theorem integral_toJson (record : Record) : record.toJson.Integral := by
  have each : ∀ keys : List Key, Json.MembersIntegral (keys.filterMap record.member) := by
    intro keys
    induction keys with
    | nil => exact trivial
    | cons key keys ih =>
      cases held : record.get key with
      | none =>
        rw [List.filterMap_cons_none (by rw [member, held]; rfl)]
        exact ih
      | some value =>
        rw [List.filterMap_cons_some (by rw [member, held]; rfl)]
        exact ⟨integral_kind key.kind value, ih⟩
  exact each Key.all

/-- The members that a record is written as: the keys that are set. -/
theorem keysOf_toJson (record : Record) (keys : List Key) :
    keysOf (Document.ofMembers (keys.filterMap record.member)) =
      keys.filter fun key => (record.get key).isSome := by
  induction keys with
  | nil => rfl
  | cons key keys ih =>
    cases held : record.get key with
    | none =>
      rw [List.filterMap_cons_none (by rw [member, held]; rfl), ih,
        List.filter_cons_of_neg (by simp [held])]
    | some value =>
      rw [List.filterMap_cons_some (by rw [member, held]; rfl), Document.ofMembers, keysOf_cons_name, ih,
        List.filter_cons_of_pos (by simp [held])]

theorem spelledMembers_toJson (record : Record) :
    SpelledMembers record (Document.ofMembers (Key.all.filterMap record.member)) := by
  have written : ∀ name document, (some name, document) ∈
      Document.ofMembers (Key.all.filterMap record.member) → ∃ key value, record.get key = some value ∧
        name = key.name ∧ document = Document.ofJson (key.kind.toJson value) := by
    intro name document listed
    rw [Document.ofMembers_eq_map] at listed
    obtain ⟨own, held, same⟩ := List.mem_map.mp listed
    obtain ⟨key, -, set⟩ := List.mem_filterMap.mp held
    obtain ⟨value, value_eq, rfl⟩ := Option.map_eq_some_iff.mp set
    obtain ⟨⟨⟩, rfl⟩ := Prod.mk.inj same
    exact ⟨key, value, value_eq, rfl, rfl⟩
  refine ⟨?_, ?_, ?_, ?_, ?_⟩
  · intro member listed
    rw [Document.ofMembers_eq_map] at listed
    obtain ⟨_, -, rfl⟩ := List.mem_map.mp listed
    rfl
  · intro key set
    rw [keysOf_toJson]
    exact List.mem_filter.mpr ⟨Key.mem_all key, set⟩
  · rw [keysOf_toJson]
    exact List.Pairwise.filter _ (by decide)
  · intro key document listed
    obtain ⟨own, value, held, name, rfl⟩ := written key.name document listed
    obtain rfl := Key.name_injective name
    rw [held]
    exact spelledValue_toJson key.kind value
  · intro name document listed unknown
    obtain ⟨key, value, -, rfl, -⟩ := written name document listed
    rw [Key.ofName?_name] at unknown
    cases unknown

theorem ofText_toJson (record : Record) :
    ofText record.toJson.compact = .ok record ∧ ofText record.toJson.pretty = .ok record :=
  ⟨ofText_of_spelledMembers (spelledMembers_toJson record) (Json.spells_compact (integral_toJson record)),
    ofText_of_spelledMembers (spelledMembers_toJson record) (Json.spells_pretty (integral_toJson record))⟩

/-! ## Texts -/

section

variable {record : Record} {text : String} {members : List (Option String × Document)} {closed : Bool}

theorem accepts_of_ofText (root : (Source.ofText text).root = .object members closed)
    (accepted : ofText text = .ok record) : Accepts [] {} members record := by
  rw [ofText, Source.read_eq_ok_iff, root, read_object_eq_ok_iff] at accepted
  exact accepted.1.2

theorem ofText_eq_ok_iff {complete : Bool}
    (source : Source.ofText text = ⟨.object members closed, complete⟩) :
    ofText text = .ok record ↔ (closed = true ∧ Accepts [] {} members record) ∧ complete = true := by
  rw [ofText, Source.read_eq_ok_iff, source, read_object_eq_ok_iff]

end

/-- Reading a record undoes writing it, whatever the order. Every text that spells the record as an object or
as an array is read as the record, and so are the two texts that are written for it. An object in which a key
stands twice is rejected, the order of the members makes no difference, and an object that is read says
nothing under a key but what the record holds. -/
theorem ofText_of_spelled_members_or_items (record : Record) :
    (∀ text members, SpelledMembers record members →
      Json.Spelled (Document.object members true).tokens text.toList → ofText text = .ok record) ∧
    (∀ text items, SpelledItems record items →
      Json.Spelled (Document.array items true).tokens text.toList → ofText text = .ok record) ∧
    (ofText record.toJson.compact = .ok record ∧ ofText record.toJson.pretty = .ok record) ∧
    (∀ text members closed (key : Key), (Source.ofText text).root = .object members closed →
      [some key.name, some key.name].Sublist (members.map Prod.fst) →
        ∃ cause, ofText text = .error cause) ∧
    (∀ text other members others closed complete,
      Source.ofText text = ⟨.object members closed, complete⟩ →
      Source.ofText other = ⟨.object others closed, complete⟩ → members.Perm others →
        (ofText text = .ok record ↔ ofText other = .ok record)) ∧
    (∀ text members closed (key : Key) document, (Source.ofText text).root = .object members closed →
      (some key.name, document) ∈ members → ofText text = .ok record →
        key.kind.read document = .ok (record.get key)) := by
  refine ⟨fun text members h => ofText_of_spelledMembers h, fun text items h => ofText_of_spelledItems h,
    ofText_toJson record, ?_, ?_, ?_⟩
  · intro text members closed key root twice
    cases accepted : ofText text with
    | error cause => exact ⟨cause, rfl⟩
    | ok result => exact absurd twice ((accepts_of_ofText root accepted).not_repeated key)
  · intro text other members others closed complete source source' order
    rw [ofText_eq_ok_iff source, ofText_eq_ok_iff source']
    exact ⟨fun h => ⟨⟨h.1.1, h.1.2.perm order⟩, h.2⟩, fun h => ⟨⟨h.1.1, h.1.2.perm order.symm⟩, h.2⟩⟩
  · intro text members closed key document root listed accepted
    exact (accepts_of_ofText root accepted).read key document listed

/-- One flag, among an unknown key and an unknown rule, in either order; in an array; and in an object with
the flag twice. -/
theorem ofText_of_spelled_members_or_items_flagged :
    let record : Record := { flagged := some true }
    ofText "\x7b\"note\":[],\"textOperator\":\"fuzzy\",\"flagged\":true\x7d" = .ok record ∧
    ofText "\x7b\"flagged\":true,\"textOperator\":\"fuzzy\",\"note\":[]\x7d" = .ok record ∧
    ofText "[null,true]" = .ok record ∧
    (∃ cause, ofText "\x7b\"flagged\":null,\"note\":[],\"flagged\":true\x7d" = .error cause) ∧
    Key.flagged.kind.read (.bool true) = .ok (record.get .flagged) := by
  intro record
  obtain ⟨objects, arrays, -, repeated, order, held⟩ := ofText_of_spelled_members_or_items record
  let members : List (String × Json) :=
    [("note", .array []), ("textOperator", .string "fuzzy"), ("flagged", .bool true)]
  have integral : (Json.object members).Integral := ⟨trivial, trivial, trivial, trivial⟩
  have reversed : (Json.object members.reverse).Integral := ⟨trivial, trivial, trivial, trivial⟩
  have twice : (Json.object [("flagged", .null), ("note", .array []), ("flagged", .bool true)]).Integral :=
    ⟨trivial, trivial, trivial, trivial⟩
  have noRule : ∀ rule, ¬SpelledRule TextRule.names rule "fuzzy" := by
    intro rule spelled
    have found := TextRule.ofText?_eq_some_iff.mpr spelled
    revert found
    cases rule <;> decide
  have source : ∀ {value : Json}, value.Integral →
      Source.ofText value.compact = ⟨Document.ofJson value, true⟩ :=
    fun {value} h => Source.ofText_of_spelled (Document.isWhole_ofJson value) (Json.spells_compact h)
  have spelled : SpelledMembers record (Document.ofMembers members) := by
    have three : ∀ name document, (some name, document) ∈ Document.ofMembers members →
        (name = "note" ∧ document = .array [] true) ∨
        (name = "textOperator" ∧ document = .string (some "fuzzy")) ∨
        (name = "flagged" ∧ document = .bool true) := by
      simp [members, Document.ofMembers, Document.ofJson, Document.ofJsons]
    refine ⟨by simp [members, Document.ofMembers], ?_, by decide, ?_, ?_⟩
    · intro key set
      cases key
      case flagged => decide
      all_goals cases set
    · intro key document listed
      rcases three key.name document listed with ⟨name, rfl⟩ | ⟨name, rfl⟩ | ⟨name, rfl⟩
      · have known := Key.ofName?_name key
        rw [name] at known
        cases known
      · obtain rfl : key = .textRule := Key.name_injective name
        exact .noTextRule noRule
      · obtain rfl : key = .flagged := Key.name_injective name
        exact .flag true
    · intro name document listed _
      rcases three name document listed with ⟨-, rfl⟩ | ⟨-, rfl⟩ | ⟨-, rfl⟩ <;> rfl
  have first := objects _ _ spelled (Json.spells_compact integral)
  refine ⟨first, ?_, ?_, ?_, ?_⟩
  · exact (order _ _ _ _ _ _ (source integral) (source reversed) (List.reverse_perm _).symm).mp first
  · refine arrays _ [.null, .bool true] ⟨[.completed, .flagged], Key.all.drop 2, rfl, ?_, ?_⟩
      (@Json.spells_compact (.array [.null, .bool true]) ⟨trivial, trivial, trivial⟩)
    · exact .cons (.null _) (.cons (.flag true) .nil)
    · decide
  · exact repeated _ _ _ .flagged (congrArg Source.root (source twice)) (by decide)
  · exact held _ _ _ .flagged _ (congrArg Source.root (source integral))
      (List.mem_cons_of_mem _ (List.mem_cons_of_mem _ List.mem_cons_self)) first

end TaskFilter.Record
