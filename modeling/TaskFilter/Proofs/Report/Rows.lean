import TaskFilter.Proofs.Text.Lines
import TaskFilter.Report.Table

/-!
# The rows of a table

A table for a person is meant to have one line for each finding, with the finding in its cells, and a line for
the hint below it. The texts of a finding are put into the cells as they are, so that the lines are those if no
text has a line feed in it. Otherwise a row goes on over as many lines as there are line feeds.

## Layers

- **Tables**: what the lines of a table are meant to be (`Tabulates`), in terms of cells with blanks between
  them (`Cells`).
- **Writing**: the lines that are written for a report (`tableLines`) are a table of it
  (`tabulates_tableLines`).
- **Main statements**: `exists_tabulates_iff` and `exists_consistsOf_table`.
-/

namespace TaskFilter

/-- The character stands in no text of the finding. -/
structure Diagnostic.Lacks (d : Diagnostic) (c : Char) : Prop where
  message : c ∉ d.message.toList
  path : ∀ path ∈ d.path, c ∉ path.toList
  suggestions : ∀ suggestion ∈ d.suggestions, c ∉ suggestion.toList

namespace Report

open Text (ConsistsOf ofLines padded ofLines_cons ofLines_append not_mem_of_printable not_mem_toDigits)

/-! ## Tables -/

/-- The line holds these cells, in this order and with blanks in between. -/
inductive Cells : List String → String → Prop where
  | last (cell : String) : Cells [cell] cell
  | next (cell : String) (blanks : Nat) {others : List String} {line : String}
      (later : Cells others line) :
      Cells (cell :: others) (cell ++ String.ofList (List.replicate (blanks + 1) ' ') ++ line)

/-- The cells of a finding. A dash stands for a place that is not known. -/
def cells (level : Level) (d : Diagnostic) : List String :=
  [level.name, d.kind.name, d.path.getD "-", d.message]

/-- The cells of the hint below a finding. The first is empty. -/
def hintCells (suggestions : List String) : List String :=
  ["", "did you mean: " ++ ", ".intercalate suggestions]

/-- The lines for findings of one level: one for each, and one for its hint if there is something to
suggest. -/
inductive Listed (level : Level) : List Diagnostic → List String → Prop where
  | nil : Listed level [] []
  | plain {d : Diagnostic} {rest : List Diagnostic} {line : String} {lines : List String}
      (silent : d.suggestions = []) (row : Cells (cells level d) line)
      (later : Listed level rest lines) : Listed level (d :: rest) (line :: lines)
  | hinted {d : Diagnostic} {rest : List Diagnostic} {line hint : String} {lines : List String}
      (suggests : d.suggestions ≠ []) (row : Cells (cells level d) line)
      (below : Cells (hintCells d.suggestions) hint) (later : Listed level rest lines) :
      Listed level (d :: rest) (line :: hint :: lines)

/-- The line tells how many errors and warnings there are. -/
def Counts (errors warnings : Nat) (line : String) : Prop :=
  ∃ error ∈ ["error", "errors"], ∃ warning ∈ ["warning", "warnings"],
    line = Nat.repr errors ++ " " ++ error ++ ", " ++ Nat.repr warnings ++ " " ++ warning

/-- The lines are a table of the report: the names of the columns, the errors in order and then the warnings,
an empty line, and how many there are of each. -/
inductive Tabulates (report : Report) : List String → Prop where
  | intro {header counts : String} {errors warnings : List String}
      (titles : Cells ["Level", "Kind", "Path", "Message"] header)
      (listed : Listed .error report.errors errors) (listed' : Listed .warning report.warnings warnings)
      (counted : Counts report.errors.length report.warnings.length counts) :
      Tabulates report (header :: (errors ++ warnings ++ ["", counts]))

/-! ## Characters of cells -/

variable {report : Report} {level : Level} {d : Diagnostic}

/-- But for blanks, a line has the characters of its cells. -/
theorem Cells.mem_iff {texts : List String} {line : String} (h : Cells texts line) {c : Char}
    (solid : c ≠ ' ') : c ∈ line.toList ↔ ∃ text ∈ texts, c ∈ text.toList := by
  induction h with
  | last cell => simp
  | next cell blanks later ih => simp [ih, solid]

section Control

variable {c : Char} (control : c.toNat < 0x20)

include control

theorem ne_blank : c ≠ ' ' := by
  rintro rfl
  exact absurd control (by decide)

theorem not_mem_level (level : Level) : c ∉ level.name.toList := by
  cases level <;> exact not_mem_of_printable control (by decide)

theorem not_mem_kind (kind : Diagnostic.Kind) : c ∉ kind.name.toList := by
  cases kind <;> exact not_mem_of_printable control (by decide)

/-- The place of a finding has the character only if it is known and has it. -/
theorem not_mem_path_iff : c ∉ (d.path.getD "-").toList ↔ ∀ path ∈ d.path, c ∉ path.toList := by
  have dash : c ∉ "-".toList := not_mem_of_printable control (by decide)
  cases d.path with
  | none => simpa using dash
  | some path => simp

theorem not_mem_hint_iff (suggestions : List String) :
    c ∉ ("did you mean: " ++ ", ".intercalate suggestions).toList ↔
      ∀ suggestion ∈ suggestions, c ∉ suggestion.toList := by
  have front : c ∉ "did you mean: ".toList := not_mem_of_printable control (by decide)
  have mark : c ∉ ", ".toList := not_mem_of_printable control (by decide)
  rw [String.toList_append, List.mem_append, Text.mem_intercalate_iff mark]
  simp only [front, false_or, not_exists, not_and]

theorem Counts.not_mem {errors warnings : Nat} {line : String} (h : Counts errors warnings line) :
    c ∉ line.toList := by
  obtain ⟨error, noun, warning, noun', rfl⟩ := h
  have first : c ∉ error.toList := by
    simp only [List.mem_cons, List.not_mem_nil, or_false] at noun
    rcases noun with rfl | rfl <;> exact not_mem_of_printable control (by decide)
  have second : c ∉ warning.toList := by
    simp only [List.mem_cons, List.not_mem_nil, or_false] at noun'
    rcases noun' with rfl | rfl <;> exact not_mem_of_printable control (by decide)
  have blank : c ∉ " ".toList := not_mem_of_printable control (by decide)
  have comma : c ∉ ", ".toList := not_mem_of_printable control (by decide)
  simp only [String.toList_append, Nat.repr, String.toList_ofList, List.mem_append, not_or]
  exact ⟨⟨⟨⟨⟨⟨not_mem_toDigits control errors, blank⟩, first⟩, comma⟩,
    not_mem_toDigits control warnings⟩, blank⟩, second⟩

end Control

theorem not_mem_cells_iff {line : String} (row : Cells (cells level d) line) :
    '\n' ∉ line.toList ↔ (∀ path ∈ d.path, '\n' ∉ path.toList) ∧ '\n' ∉ d.message.toList := by
  have control : '\n'.toNat < 0x20 := by decide
  rw [row.mem_iff (ne_blank control), ← not_mem_path_iff control]
  simp [cells, not_mem_level control, not_mem_kind control]

theorem not_mem_hintCells_iff {suggestions : List String} {line : String}
    (hint : Cells (hintCells suggestions) line) :
    '\n' ∉ line.toList ↔ ∀ suggestion ∈ suggestions, '\n' ∉ suggestion.toList := by
  have control : '\n'.toNat < 0x20 := by decide
  rw [hint.mem_iff (ne_blank control), ← not_mem_hint_iff control, hintCells]
  simp only [List.exists_mem_cons_iff, List.not_mem_nil, false_and, exists_false, or_false]
  simp

/-- If no line is broken, no text of a finding is. -/
theorem Listed.lacks {findings : List Diagnostic} {lines : List String} (h : Listed level findings lines)
    (unbroken : ∀ line ∈ lines, '\n' ∉ line.toList) : ∀ d ∈ findings, d.Lacks '\n' := by
  induction h with
  | nil => exact fun _ member => absurd member List.not_mem_nil
  | plain silent row _ ih =>
    rw [List.forall_mem_cons] at unbroken ⊢
    obtain ⟨path, message⟩ := (not_mem_cells_iff row).mp unbroken.1
    refine ⟨⟨message, path, ?_⟩, ih unbroken.2⟩
    simp [silent]
  | hinted _ row below _ ih =>
    rw [List.forall_mem_cons, List.forall_mem_cons] at unbroken
    obtain ⟨path, message⟩ := (not_mem_cells_iff row).mp unbroken.1
    rw [List.forall_mem_cons]
    exact ⟨⟨message, path, (not_mem_hintCells_iff below).mp unbroken.2.1⟩,
      ih unbroken.2.2⟩

/-! ## The lines that are written -/

theorem cells_padded (width : Nat) (cell : String) {others : List String} {line : String}
    (later : Cells others line) : Cells (cell :: others) (padded width cell ++ (" " ++ line)) := by
  -- a cell that is wider than its column is still set off by the blank behind it
  have blanks : padded width cell ++ (" " ++ line) =
      cell ++ String.ofList (List.replicate (width - cell.length + 1) ' ') ++ line := by
    apply String.toList_inj.mp
    simp [padded, List.replicate_succ']
  rw [blanks]
  exact .next cell _ later

/-- The names of the columns, each as wide as its column. -/
def headerLine : String :=
  padded 8 "Level" ++ (" " ++ (padded 14 "Kind" ++ (" " ++ (padded 20 "Path" ++ (" " ++ "Message")))))

def rowLine (level : Level) (d : Diagnostic) : String :=
  padded 8 level.name ++ (" " ++ (padded 14 d.kind.name ++ (" " ++ (padded 20 (d.path.getD "-") ++
    (" " ++ d.message)))))

def hintLine (suggestions : List String) : String :=
  padded 44 "" ++ (" " ++ ("did you mean: " ++ ", ".intercalate suggestions))

/-- The lines that are written for a finding. -/
def rowLines (level : Level) (d : Diagnostic) : List String :=
  rowLine level d :: if d.suggestions.isEmpty then [] else [hintLine d.suggestions]

/-- The lines that are written for a report with findings. -/
def tableLines (report : Report) : List String :=
  headerLine :: (report.errors.flatMap (rowLines .error) ++ report.warnings.flatMap (rowLines .warning) ++
    ["", report.summary])

theorem cells_rowLine (level : Level) (d : Diagnostic) : Cells (cells level d) (rowLine level d) :=
  cells_padded _ _ (cells_padded _ _ (cells_padded _ _ (.last _)))

theorem cells_hintLine (suggestions : List String) :
    Cells (hintCells suggestions) (hintLine suggestions) :=
  cells_padded _ _ (.last _)

theorem listed_rowLines (level : Level) (findings : List Diagnostic) :
    Listed level findings (findings.flatMap (rowLines level)) := by
  induction findings with
  | nil => exact .nil
  | cons d rest ih =>
    rw [List.flatMap_cons, rowLines]
    cases silent : d.suggestions with
    | nil => exact .plain silent (cells_rowLine level d) ih
    | cons name names =>
      have suggests : d.suggestions ≠ [] := by simp [silent]
      rw [← silent]
      simpa [suggests] using
        Listed.hinted suggests (cells_rowLine level d) (cells_hintLine d.suggestions) ih

theorem counts_summary (report : Report) :
    Counts report.errors.length report.warnings.length report.summary := by
  refine ⟨if report.errors.length = 1 then "error" else "errors", ?_,
    if report.warnings.length = 1 then "warning" else "warnings", ?_, ?_⟩
  · split <;> simp
  · split <;> simp
  · simp only [summary, counted, String.append_assoc]

/-- What is written is a table of the report, if its lines are taken for lines. -/
theorem tabulates_tableLines (report : Report) : Tabulates report report.tableLines :=
  .intro (cells_padded _ _ (cells_padded _ _ (cells_padded _ _ (.last _))))
    (listed_rowLines .error report.errors) (listed_rowLines .warning report.warnings)
    (counts_summary report)

theorem row_eq_ofLines (level : Level) (d : Diagnostic) :
    row false level d = ofLines (rowLines level d) := by
  apply String.toList_inj.mp
  cases silent : d.suggestions with
  | nil => simp [row, rowLines, rowLine, Text.styled_plain, Text.toList_ofLines, silent]
  | cons name names =>
    simp [row, hint, rowLines, rowLine, hintLine, Text.styled_plain, Text.toList_ofLines, silent]

theorem join_rows_eq_ofLines (level : Level) (findings : List Diagnostic) :
    String.join (findings.map (row false level)) = ofLines (findings.flatMap (rowLines level)) := by
  induction findings with
  | nil => rfl
  | cons d rest ih =>
    rw [List.map_cons, String.join_cons, ih, List.flatMap_cons, ofLines_append, row_eq_ofLines]

/-- A report with findings is written line by line. -/
theorem table_eq_ofLines (found : report.errors ≠ [] ∨ report.warnings ≠ []) :
    report.table false = ofLines report.tableLines := by
  have some : (report.errors.isEmpty && report.warnings.isEmpty) = false := by
    simpa [← not_and_or] using found
  rw [table, some, join_rows_eq_ofLines, join_rows_eq_ofLines, tableLines, ofLines_cons, ofLines_append,
    ofLines_append]
  apply String.toList_inj.mp
  simp [header, headerLine, Text.styled_plain, Text.toList_ofLines]

/-! ## Main statements -/

theorem unbroken_rowLines (h : d.Lacks '\n') : ∀ line ∈ rowLines level d, '\n' ∉ line.toList := by
  have row : '\n' ∉ (rowLine level d).toList :=
    (not_mem_cells_iff (cells_rowLine level d)).mpr ⟨h.path, h.message⟩
  have hint : '\n' ∉ (hintLine d.suggestions).toList :=
    (not_mem_hintCells_iff (cells_hintLine d.suggestions)).mpr h.suggestions
  intro line listed
  rw [rowLines] at listed
  split at listed <;> simp at listed
  · rw [listed]
    exact row
  · rcases listed with rfl | rfl
    · exact row
    · exact hint

/-- What is printed of a report with findings consists of the lines of a table if and only if no text of a
finding has a line feed in it. -/
theorem exists_tabulates_iff (found : report.errors ≠ [] ∨ report.warnings ≠ []) :
    (∃ lines, ConsistsOf (report.table false) lines ∧ Tabulates report lines) ↔
      ∀ d ∈ report.errors ++ report.warnings, d.Lacks '\n' := by
  constructor
  · -- each finding is in the cells of some line, and no line has a line feed
    intro ⟨lines, consists, tabulates⟩
    have unbroken := consists.unbroken
    cases tabulates with
    | intro titles listed listed' counted =>
      intro d member
      rcases List.mem_append.mp member with error | warning
      · exact listed.lacks (fun line own => unbroken line (by simp [own])) d error
      · exact listed'.lacks (fun line own => unbroken line (by simp [own])) d warning
  · intro lacks
    refine ⟨report.tableLines, ⟨table_eq_ofLines found, ?_⟩, tabulates_tableLines report⟩
    intro line written
    rw [tableLines] at written
    simp only [List.mem_cons, List.mem_append, List.mem_flatMap, List.not_mem_nil, or_false] at written
    rcases written with rfl | (⟨d, error, own⟩ | ⟨d, warning, own⟩) | rfl | rfl
    · decide
    · exact unbroken_rowLines (lacks d (List.mem_append_left _ error)) line own
    · exact unbroken_rowLines (lacks d (List.mem_append_right _ warning)) line own
    · simp
    · exact (counts_summary report).not_mem (by decide)

/-- How many lines the row of a finding takes: one more than its message has line feeds, and one for a
hint. -/
def height (d : Diagnostic) : Nat :=
  d.message.toList.count '\n' + 1 + if d.suggestions.isEmpty then 0 else 1

theorem count_rowLine (path : ∀ path ∈ d.path, '\n' ∉ path.toList) :
    (rowLine level d).toList.count '\n' = d.message.toList.count '\n' := by
  have name : level.name.toList.count '\n' = 0 := by
    cases level <;> decide
  have kind : d.kind.name.toList.count '\n' = 0 := by
    cases d.kind <;> decide
  have place : (d.path.getD "-").toList.count '\n' = 0 :=
    List.count_eq_zero_of_not_mem ((not_mem_path_iff (by decide)).mpr path)
  have blank : " ".toList.count '\n' = 0 := by decide
  have solid : '\n' ≠ ' ' := by decide
  simp only [rowLine, String.toList_append, List.count_append, Text.count_padded solid, name, kind, place,
    blank, Nat.zero_add]

theorem sum_rowLines (path : ∀ path ∈ d.path, '\n' ∉ path.toList)
    (suggestions : ∀ suggestion ∈ d.suggestions, '\n' ∉ suggestion.toList) :
    ((rowLines level d).map fun line => line.toList.count '\n' + 1).sum = height d := by
  have hint : (hintLine d.suggestions).toList.count '\n' = 0 :=
    List.count_eq_zero_of_not_mem ((not_mem_hintCells_iff (cells_hintLine _)).mpr suggestions)
  rw [rowLines, height, List.map_cons, List.sum_cons, count_rowLine path]
  split
  · rfl
  · simp [hint]

/-- What is printed of a report with findings consists of lines, however the texts are broken: three for the
whole, and those of the rows. -/
theorem exists_consistsOf_table (found : report.errors ≠ [] ∨ report.warnings ≠ [])
    (path : ∀ d ∈ report.errors ++ report.warnings, ∀ path ∈ d.path, '\n' ∉ path.toList)
    (suggestions : ∀ d ∈ report.errors ++ report.warnings,
      ∀ suggestion ∈ d.suggestions, '\n' ∉ suggestion.toList) :
    ∃ lines, ConsistsOf (report.table false) lines ∧
      lines.length = ((report.errors ++ report.warnings).map height).sum + 3 := by
  obtain ⟨lines, consists⟩ := Text.exists_consistsOf_ofLines report.tableLines
  rw [← table_eq_ofLines found] at consists
  refine ⟨lines, consists, ?_⟩
  -- there are as many lines as line feeds, and those are counted row by row
  have rows : ∀ (level : Level) (findings : List Diagnostic),
      (∀ d ∈ findings, d ∈ report.errors ++ report.warnings) →
      ((findings.flatMap (rowLines level)).map fun line => line.toList.count '\n' + 1).sum =
        (findings.map height).sum := by
    intro level findings own
    induction findings with
    | nil => rfl
    | cons d rest ih =>
      rw [List.forall_mem_cons] at own
      rw [List.flatMap_cons, List.map_append, List.sum_append_nat, ih own.2,
        sum_rowLines (path d own.1) (suggestions d own.1), List.map_cons, List.sum_cons]
  have header : headerLine.toList.count '\n' = 0 := by decide
  have counts : report.summary.toList.count '\n' = 0 :=
    List.count_eq_zero_of_not_mem ((counts_summary report).not_mem (by decide))
  rw [consists.length_eq_count, table_eq_ofLines found, Text.count_ofLines, tableLines]
  simp only [List.map_cons, List.map_append, List.sum_cons, List.sum_append_nat, List.map_nil, List.sum_nil,
    rows .error report.errors (fun _ => List.mem_append_left _),
    rows .warning report.warnings (fun _ => List.mem_append_right _), header, counts]
  simp
  omega

end Report

end TaskFilter
