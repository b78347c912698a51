import TaskFilter.Proofs.Report.Rows

/-!
# Colours of a table

With colours, a table has control sequences in it: around the names of the columns, around the level of each
row and around each hint. Everything is padded before it is set off, so that without the sequences the table is
the plain one, character by character.

## Layers

- **Sequences**: a text without its control sequences (`unstyled`).
- **Decoration**: texts that differ in control sequences only (`Decorates`), and how such texts are put
  together.
- **Main statement**: `unstyled_table`.
-/

namespace TaskFilter

namespace Text

/-! ## Control sequences -/

/-- What follows the control sequence in front of a text, if there is one: an escape character, a bracket,
digits, and the letter `m`. -/
def afterSequence? : List Char → Option (List Char)
  | '\x1b' :: '[' :: rest =>
    match rest.takeWhile Char.isDigit, rest.dropWhile Char.isDigit with
    | _ :: _, 'm' :: others => some others
    | _, _ => none
  | _ => none

theorem length_lt_of_afterSequence? {text others : List Char} (h : afterSequence? text = some others) :
    others.length < text.length := by
  unfold afterSequence? at h
  split at h
  next rest =>
    split at h
    next _ more _ dropped =>
      obtain rfl := Option.some.inj h
      -- what is left is a part of what follows the bracket
      have part := (List.dropWhile_sublist Char.isDigit (l := rest)).length_le
      rw [dropped] at part
      simp only [List.length_cons] at part ⊢
      omega
    next => cases h
  next => cases h

/-- The characters of a text that belong to no control sequence. -/
def withoutSequences : List Char → List Char
  | [] => []
  | c :: rest =>
    match _ : afterSequence? (c :: rest) with
    | some others => withoutSequences others
    | none => c :: withoutSequences rest
termination_by text => text.length
decreasing_by
  · exact length_lt_of_afterSequence? ‹_›
  · exact Nat.lt_succ_self _

/-- The text with every control sequence deleted. -/
def unstyled (text : String) : String :=
  String.ofList (withoutSequences text.toList)

theorem withoutSequences_nil : withoutSequences [] = [] := by
  rw [withoutSequences]

theorem withoutSequences_cons_of_ne {c : Char} (h : c ≠ '\x1b') (rest : List Char) :
    withoutSequences (c :: rest) = c :: withoutSequences rest := by
  have none : afterSequence? (c :: rest) = none := by
    unfold afterSequence?
    split
    next same => exact absurd (List.cons.inj same).1 h
    next => rfl
  rw [withoutSequences]
  split
  next found => simp [none] at found
  next => rfl

/-- A text without escape characters stays as it is. -/
theorem withoutSequences_append_of_not_mem {front : List Char} (h : '\x1b' ∉ front) (rest : List Char) :
    withoutSequences (front ++ rest) = front ++ withoutSequences rest := by
  induction front with
  | nil => rfl
  | cons c front ih =>
    rw [List.mem_cons, not_or] at h
    rw [List.cons_append, withoutSequences_cons_of_ne (Ne.symm h.1), ih h.2, List.cons_append]

theorem afterSequence?_controlSequence (code : Nat) (rest : List Char) :
    afterSequence? ((controlSequence code).toList ++ rest) = some rest := by
  have digits : ∀ c ∈ Nat.toDigits 10 code, c.isDigit = true :=
    fun _ listed => Nat.isDigit_of_mem_toDigits (by decide) (by decide) listed
  obtain ⟨first, others, written⟩ := List.exists_cons_of_ne_nil (Nat.toDigits_ne_nil (n := code) (b := 10))
  have text : (controlSequence code).toList ++ rest =
      '\x1b' :: '[' :: (Nat.toDigits 10 code ++ 'm' :: rest) := by
    simp [controlSequence, Nat.repr]
  have taken : (Nat.toDigits 10 code ++ 'm' :: rest).takeWhile Char.isDigit = first :: others := by
    rw [List.takeWhile_append_of_pos digits, written]
    simp
  have dropped : (Nat.toDigits 10 code ++ 'm' :: rest).dropWhile Char.isDigit = 'm' :: rest := by
    rw [List.dropWhile_append_of_pos digits]
    rfl
  rw [text]
  simp only [afterSequence?, taken, dropped]

theorem withoutSequences_controlSequence (code : Nat) (rest : List Char) :
    withoutSequences ((controlSequence code).toList ++ rest) = withoutSequences rest := by
  have after := afterSequence?_controlSequence code rest
  cases text : (controlSequence code).toList ++ rest with
  | nil =>
    rw [text] at after
    cases after
  | cons c more =>
    rw [text] at after
    rw [withoutSequences]
    split
    next others found =>
      obtain rfl := Option.some.inj (found.symm.trans after)
      rfl
    next found => simp [after] at found

/-! ## Decoration -/

/-- The one text is the other with control sequences put in, whatever follows. -/
def Decorates (decorated plain : String) : Prop :=
  ∀ rest, withoutSequences (decorated.toList ++ rest) = plain.toList ++ withoutSequences rest

variable {decorated plain text : String}

theorem Decorates.unstyled_eq (h : Decorates decorated plain) : unstyled decorated = plain := by
  have whole := h []
  rw [List.append_nil, withoutSequences_nil, List.append_nil] at whole
  rw [unstyled, whole, String.ofList_toList]

theorem decorates_self (h : '\x1b' ∉ text.toList) : Decorates text text :=
  fun rest => withoutSequences_append_of_not_mem h rest

theorem Decorates.append {decorated' plain' : String} (h : Decorates decorated plain)
    (h' : Decorates decorated' plain') : Decorates (decorated ++ decorated') (plain ++ plain') := by
  intro rest
  rw [String.toList_append, String.toList_append, List.append_assoc, List.append_assoc, h, h']

theorem Decorates.apply (h : Decorates decorated plain) (style : Style) :
    Decorates (style.apply decorated) plain := by
  intro rest
  rw [Style.apply, String.toList_append, String.toList_append, List.append_assoc, List.append_assoc,
    withoutSequences_controlSequence, h, withoutSequences_controlSequence]

/-- A text that is set off in any number of styles is decorated. -/
theorem decorates_styled (h : '\x1b' ∉ text.toList) (styles : List Style) :
    Decorates (styled true styles text) text := by
  have nested : Decorates (styles.foldr Style.apply text) text := by
    induction styles with
    | nil => exact decorates_self h
    | cons style rest ih => exact ih.apply style
  exact nested

theorem decorates_join {α : Type} {f g : α → String} {items : List α}
    (h : ∀ item ∈ items, Decorates (f item) (g item)) :
    Decorates (String.join (items.map f)) (String.join (items.map g)) := by
  induction items with
  | nil => exact decorates_self (by simp)
  | cons item rest ih =>
    rw [List.forall_mem_cons] at h
    rw [List.map_cons, List.map_cons, String.join_cons, String.join_cons]
    exact h.1.append (ih h.2)

end Text

/-! ## Tables -/

namespace Report

open Text (Decorates decorates_self decorates_styled decorates_join mem_padded_iff padded styled unstyled)

variable {report : Report} {level : Level} {d : Diagnostic}

theorem escape_control : '\x1b'.toNat < 0x20 := by
  decide

theorem decorates_header : Decorates (header true) (header false) :=
  (decorates_styled (by decide) _).append (decorates_self (by decide))

theorem decorates_hint {suggestions : List String}
    (h : ∀ suggestion ∈ suggestions, '\x1b' ∉ suggestion.toList) :
    Decorates (hint true suggestions) (hint false suggestions) := by
  have text := (not_mem_hint_iff escape_control suggestions).mpr h
  have indent : Decorates (padded 44 "" ++ " ") (padded 44 "" ++ " ") := decorates_self (by decide)
  exact (indent.append (decorates_styled text _)).append (decorates_self (by decide))

/-- The row of a finding is decorated at its level and its hint. What stands between has no colours. -/
theorem decorates_row (h : d.Lacks '\x1b') : Decorates (row true level d) (row false level d) := by
  have path := (not_mem_path_iff escape_control).mpr h.path
  have blank : Decorates " " " " := decorates_self (by decide)
  have cell : ∀ {text : String} (width : Nat), '\x1b' ∉ text.toList →
      Decorates (padded width text) (padded width text) :=
    fun width lacks => decorates_self (mt (mem_padded_iff (ne_blank escape_control) width _).mp lacks)
  have below : Decorates (if d.suggestions.isEmpty then "" else hint true d.suggestions)
      (if d.suggestions.isEmpty then "" else hint false d.suggestions) := by
    split
    · exact decorates_self (by simp)
    · exact decorates_hint h.suggestions
  have front : Decorates (styled true level.styles (padded 8 level.name)) (padded 8 level.name) :=
    decorates_styled (mt (mem_padded_iff (ne_blank escape_control) 8 _).mp (not_mem_level escape_control level))
      level.styles
  have kind := not_mem_kind escape_control d.kind
  exact (((((((front.append blank).append (cell 14 kind)).append blank).append (cell 20 path)).append
    blank).append (decorates_self h.message)).append (decorates_self (by decide))).append below

/-- Without its control sequences, the table with colours of a report whose texts have no escape characters is
the plain table. There are such sequences in it just if there is anything to be listed. -/
theorem unstyled_table (lacks : ∀ d ∈ report.errors ++ report.warnings, d.Lacks '\x1b') :
    unstyled (report.table true) = report.table false ∧
      ('\x1b' ∈ (report.table true).toList ↔ report.errors ≠ [] ∨ report.warnings ≠ []) := by
  rw [table, table]
  cases clean : report.errors.isEmpty && report.warnings.isEmpty with
  | true =>
    have nothing : Decorates "No problems found.\n" "No problems found.\n" := decorates_self (by decide)
    refine ⟨nothing.unstyled_eq, ?_⟩
    simp only [Bool.and_eq_true, List.isEmpty_iff] at clean
    simp [clean]
  | false =>
    have errors : Decorates (String.join (report.errors.map (row true .error)))
        (String.join (report.errors.map (row false .error))) :=
      decorates_join fun d listed => decorates_row (lacks d (List.mem_append_left _ listed))
    have warnings : Decorates (String.join (report.warnings.map (row true .warning)))
        (String.join (report.warnings.map (row false .warning))) :=
      decorates_join fun d listed => decorates_row (lacks d (List.mem_append_right _ listed))
    have feed : Decorates "\n" "\n" := decorates_self (by decide)
    have summed := decorates_self ((counts_summary report).not_mem escape_control)
    have whole := ((((decorates_header.append errors).append warnings).append feed).append summed).append feed
    refine ⟨whole.unstyled_eq, ?_⟩
    have found : report.errors ≠ [] ∨ report.warnings ≠ [] := by
      simpa [← not_and_or] using clean
    have heading : '\x1b' ∈ (header true).toList := by decide
    simp [found, heading]

/-- An error whose message looks like a control sequence but for the escape character, with a hint, and a
warning without a place. -/
theorem unstyled_table_bracket :
    let report : Report := ⟨false,
      [⟨.unknownField, "unknown field '[31m'", some "$.child", ["task.id", "task.name"]⟩],
      [⟨.emptyNode, "empty 'or' group", none, []⟩]⟩
    unstyled (report.table true) = report.table false ∧ '\x1b' ∈ (report.table true).toList := by
  intro report
  have lacks : ∀ d ∈ report.errors ++ report.warnings, d.Lacks '\x1b' := by
    intro d listed
    simp only [report, List.cons_append, List.nil_append, List.mem_cons, List.not_mem_nil, or_false] at listed
    rcases listed with rfl | rfl
    · exact ⟨by decide, by simp, by simp⟩
    · exact ⟨by decide, by simp, by simp⟩
  obtain ⟨same, colored⟩ := unstyled_table lacks
  exact ⟨same, colored.mpr (.inl (by simp [report]))⟩

end Report

end TaskFilter
