import TaskFilter.Proofs.Text.LowerCase
import TaskFilter.Proofs.Validation.Located

/-!
# Suggestions

For an unknown path the fields are suggested that have something in common with it, the most similar ones
first. Nothing else is suggested, and what is left out would have come later.

## Layers

- **Overlaps**: which fields come into question, in terms of the texts (`overlaps_iff`).
- **Order**: the order in which fields are suggested is linear (`Ahead`), and the ranked list has all fields
  that come into question in this order.
- **Own paths**: the segment of a field is most similar to the field itself (`score_lt_score_own`).
- **Suggestions**: the fields that belong to an unknown path (`SuggestedFor`), first among them the field whose
  path it is in another letter case, and that they are suggested (`exists_suggestedFor`).
- **Main statement**: `suggestions_validate`.
-/

namespace TaskFilter.Validation

open Text (lower lastSegment)

variable {unknown : String} {f g : Field}

/-! ## Overlaps -/

/-- The field has the last segment of an unknown path somewhere in its own path, or its last segment somewhere
in that segment. Letter case does not count. -/
def Overlaps (unknown : String) (field : Field) : Prop :=
  (lower (lastSegment unknown)).toList <:+: (lower field.path).toList ∨
    (lower (lastSegment field.path)).toList <:+: (lower (lastSegment unknown)).toList

instance : DecidablePred (Overlaps unknown) :=
  fun _ => inferInstanceAs (Decidable (_ ∨ _))

theorem toNat_lt_of_mem_path (field : Field) : ∀ c ∈ field.path.toList, c.toNat < 0x80 := by
  have all : (field.path.toList.all fun c => c.toNat < 0x80) = true := by
    cases field <;> rfl
  exact fun c member => of_decide_eq_true (List.all_eq_true.mp all c member)

theorem fieldSegment_eq (field : Field) : fieldSegment field = (lower (lastSegment field.path)).toList := by
  have noSigma : 'Σ' ∉ field.path.toList :=
    fun member => absurd (toNat_lt_of_mem_path field _ member) (by decide)
  rw [fieldSegment, Text.lastSegment_lower noSigma]

theorem overlaps_iff : overlaps (needle unknown) f = true ↔ Overlaps unknown f := by
  rw [overlaps, Bool.or_eq_true, Text.occursIn_iff, Text.occursIn_iff, fieldSegment_eq]
  rfl

/-! ## Order -/

/-- The field is suggested before another: it is more similar to the unknown path, or as similar and its path
comes first. -/
def Ahead (unknown : String) (f g : Field) : Prop :=
  score (needle unknown) g < score (needle unknown) f ∨
    score (needle unknown) f = score (needle unknown) g ∧ f.path < g.path

theorem suggestedFirst_iff {needle : List Char} : suggestedFirst needle f g = true ↔
    score needle g < score needle f ∨ score needle f = score needle g ∧ f.path ≤ g.path := by
  rw [suggestedFirst, Bool.or_eq_true, Bool.and_eq_true, decide_eq_true_eq, beq_iff_eq, decide_eq_true_eq]

theorem suggestedFirst_trans (needle : List Char) (f g h : Field) (first : suggestedFirst needle f g = true)
    (second : suggestedFirst needle g h = true) : suggestedFirst needle f h = true := by
  rw [suggestedFirst_iff] at *
  generalize score needle f = a at *
  generalize score needle g = b at *
  generalize score needle h = c at *
  rcases first with more | ⟨rfl, before⟩
  · rcases second with more' | ⟨rfl, -⟩
    · exact .inl (UInt64.lt_trans more' more)
    · exact .inl more
  · rcases second with more' | ⟨rfl, before'⟩
    · exact .inl more'
    · exact .inr ⟨rfl, String.le_trans before before'⟩

theorem suggestedFirst_total (needle : List Char) (f g : Field) :
    (suggestedFirst needle f g || suggestedFirst needle g f) = true := by
  rw [Bool.or_eq_true, suggestedFirst_iff, suggestedFirst_iff]
  generalize score needle f = a
  generalize score needle g = b
  by_cases less : a < b
  · exact .inr (.inl less)
  by_cases more : b < a
  · exact .inl (.inl more)
  obtain rfl : a = b := UInt64.le_antisymm (UInt64.not_lt.mp more) (UInt64.not_lt.mp less)
  exact (String.le_total f.path g.path).imp (fun before => .inr ⟨rfl, before⟩) fun before => .inr ⟨rfl, before⟩

theorem ahead_of_suggestedFirst (h : suggestedFirst (needle unknown) f g = true) (apart : f ≠ g) :
    Ahead unknown f g := by
  rcases suggestedFirst_iff.mp h with more | ⟨same, before⟩
  · exact .inl more
  · refine .inr ⟨same, ?_⟩
    by_contra late
    exact apart (Field.path_injective (String.le_antisymm before (String.not_lt.mp late)))

theorem pairwise_ranked (needle : List Char) :
    (ranked needle).Pairwise fun f g => suggestedFirst needle f g = true :=
  List.pairwise_mergeSort (suggestedFirst_trans needle) (suggestedFirst_total needle) _

theorem nodup_ranked (needle : List Char) : (ranked needle).Nodup := by
  have all : Field.all.Nodup := by decide
  exact (List.mergeSort_perm ..).nodup_iff.mpr (all.sublist List.filter_sublist)

theorem mem_ranked_iff : f ∈ ranked (needle unknown) ↔ Overlaps unknown f := by
  rw [ranked, List.mem_mergeSort, List.mem_filter, overlaps_iff]
  exact and_iff_right (Field.mem_all f)

/-! ## Own paths -/

theorem exchanges_eq_zero {shared : List (Char × Nat)} (ordered : shared.Pairwise fun x y => x.2 ≤ y.2) :
    Text.exchanges shared = 0 := by
  have sorted : shared.mergeSort (fun x y => decide (x.2 ≤ y.2)) = shared :=
    List.mergeSort_of_pairwise (ordered.imp decide_eq_true)
  have same : ((shared.zip shared).filter fun p => p.1.1 != p.2.1) = [] := by
    rw [List.filter_eq_nil_iff, List.zip_eq_zipWith, List.zipWith_self]
    intro p listed
    obtain ⟨x, -, rfl⟩ := List.mem_map.mp listed
    simp
  rw [Text.exchanges, sorted, same]
  rfl

theorem lower_path (field : Field) : lower field.path = String.ofList (field.path.toList.map Text.lowerBasic) :=
  Text.lower_of_basic (toNat_lt_of_mem_path field)

/-- The last segment of a path, lowered as basic characters are. -/
def ownSegment (field : Field) : List Char :=
  (lastSegment (String.ofList (field.path.toList.map Text.lowerBasic))).toList

theorem fieldSegment_eq_ownSegment (field : Field) : fieldSegment field = ownSegment field := by
  rw [fieldSegment, lower_path, ownSegment]

/-- The segments of two fields are parts of one another, and no other path has to do with that of another
field. -/
theorem eq_of_overlaps_own (apart : f ≠ g) (h : overlaps (fieldSegment f) g = true) :
    (f = .id ∧ g = .tagStatusValid) ∨ (f = .tagStatusValid ∧ g = .id) := by
  have all : (Field.all.all fun f => Field.all.all fun g => f == g ||
      !(Text.occursIn (ownSegment f) (g.path.toList.map Text.lowerBasic) ||
        Text.occursIn (ownSegment g) (ownSegment f)) ||
      (f == .id && g == .tagStatusValid || f == .tagStatusValid && g == .id)) = true := by decide +kernel
  have checked := List.all_eq_true.mp (List.all_eq_true.mp all f (Field.mem_all f)) g (Field.mem_all g)
  rw [overlaps, fieldSegment_eq_ownSegment, fieldSegment_eq_ownSegment, lower_path, String.toList_ofList] at h
  simp only [h, beq_eq_false_iff_ne.mpr apart, Bool.not_true, Bool.false_or, Bool.or_eq_true,
    Bool.and_eq_true, beq_iff_eq] at checked
  exact checked

theorem fieldSegment_id : fieldSegment .id = "id".toList := by
  rw [fieldSegment_eq_ownSegment]
  decide +kernel

theorem fieldSegment_tagStatusValid : fieldSegment .tagStatusValid = "tagstatusvalid".toList := by
  rw [fieldSegment_eq_ownSegment]
  decide +kernel

/-- A field that its own segment is compared with is more similar than any other that comes into question. -/
theorem score_lt_score_own (apart : f ≠ g) (h : overlaps (fieldSegment f) g = true) :
    score (fieldSegment f) g < score (fieldSegment f) f := by
  have short : Text.exchanges (Text.sharedLetters "id".toList "id".toList) = 0 :=
    exchanges_eq_zero (by decide +kernel)
  have long : Text.exchanges (Text.sharedLetters "tagstatusvalid".toList "tagstatusvalid".toList) = 0 :=
    exchanges_eq_zero (by decide +kernel)
  rcases eq_of_overlaps_own apart h with ⟨rfl, rfl⟩ | ⟨rfl, rfl⟩
  · rw [score, score, fieldSegment_id, fieldSegment_tagStatusValid]
    have other : Text.similarityKey "id".toList "tagstatusvalid".toList = 0 := by decide +kernel
    rw [other, Text.similarityKey, Text.similarity, Text.letterSimilarity]
    simp only [short]
    decide +kernel
  · rw [score, score, fieldSegment_id, fieldSegment_tagStatusValid]
    have other : Text.similarityKey "tagstatusvalid".toList "id".toList = 0 := by decide +kernel
    rw [other, Text.similarityKey, Text.similarity, Text.letterSimilarity]
    simp only [long]
    decide +kernel

/-! ## Suggestions -/

/-- The fields that are suggested for an unknown path. -/
structure SuggestedFor (unknown : String) (fields : List Field) : Prop where
  distinct : (fields.map Field.path).Nodup
  overlapping : ∀ f ∈ fields, Overlaps unknown f
  length : fields.length = min 3 (Field.all.filter fun f => Overlaps unknown f).length
  ordered : fields.Pairwise (Ahead unknown)
  /-- What is left out comes later. -/
  best : ∀ f ∈ fields, ∀ g, Overlaps unknown g → g ∉ fields → Ahead unknown f g
  /-- The path of a field in another letter case is taken for this field. -/
  recased : ∀ f, lower unknown = lower f.path → fields.head? = some f

theorem pairwise_ahead_ranked (unknown : String) : (ranked (needle unknown)).Pairwise (Ahead unknown) :=
  ((pairwise_ranked (needle unknown)).and (nodup_ranked (needle unknown))).imp
    fun ⟨first, apart⟩ => ahead_of_suggestedFirst first apart

theorem length_ranked (unknown : String) :
    (ranked (needle unknown)).length = (Field.all.filter fun f => Overlaps unknown f).length := by
  have same : Field.all.filter (overlaps (needle unknown)) = Field.all.filter fun f => Overlaps unknown f := by
    refine List.filter_congr fun f _ => ?_
    rw [Bool.eq_iff_iff, overlaps_iff, decide_eq_true_eq]
  rw [ranked, List.length_mergeSort, same]

/-- The part that is compared is that of the field, if the path is the field's but for letter case. -/
theorem needle_of_recased (h : lower unknown = lower f.path) : needle unknown = fieldSegment f := by
  have noSigma : 'Σ' ∉ unknown.toList := by
    intro sigma
    have all : (Field.all.all fun f => (f.path.toList.map Text.lowerBasic).all (· < '\x80')) = true := by
      decide +kernel
    have basic := List.all_eq_true.mp (List.all_eq_true.mp all f (Field.mem_all f))
    rw [← String.toList_ofList (l := f.path.toList.map Text.lowerBasic), ← lower_path, ← h] at basic
    rcases Text.exists_mem_lower_of_sigma sigma with small | final
    · exact absurd (basic _ small) (by decide)
    · exact absurd (basic _ final) (by decide)
  rw [needle, fieldSegment, ← Text.lastSegment_lower noSigma, h]

theorem head?_ranked_of_recased (h : lower unknown = lower f.path) :
    (ranked (needle unknown)).head? = some f := by
  have same := needle_of_recased h
  have own : Overlaps unknown f := by
    refine .inr ?_
    rw [← fieldSegment_eq, ← same]
    exact List.infix_refl _
  have listed := mem_ranked_iff.mpr own
  cases ranks : ranked (needle unknown) with
  | nil =>
    rw [ranks] at listed
    exact absurd listed List.not_mem_nil
  | cons g rest =>
    rw [ranks] at listed
    rcases List.mem_cons.mp listed with rfl | later
    · rfl
    · -- another field ahead would be less similar
      have sorted := pairwise_ahead_ranked unknown
      have distinct := nodup_ranked (needle unknown)
      have member : g ∈ ranked (needle unknown) := ranks ▸ List.mem_cons_self
      rw [ranks] at sorted distinct
      have apart : f ≠ g := fun equal => (List.nodup_cons.mp distinct).1 (equal ▸ later)
      have less := score_lt_score_own apart (same ▸ overlaps_iff.mpr (mem_ranked_iff.mp member))
      rw [← same] at less
      rcases (List.pairwise_cons.mp sorted).1 f later with more | ⟨equal, -⟩
      · exact absurd more (UInt64.lt_asymm less)
      · rw [equal] at less
        exact absurd less (UInt64.lt_irrefl _)

theorem suggestedFor_take (unknown : String) :
    SuggestedFor unknown ((ranked (needle unknown)).take maxSuggestions) where
  distinct := ((nodup_ranked _).sublist (List.take_sublist ..)).map fun _ _ => Field.path_injective
  overlapping := fun _ member => mem_ranked_iff.mp (List.mem_of_mem_take member)
  length := by rw [List.length_take, length_ranked, maxSuggestions]
  ordered := (pairwise_ahead_ranked unknown).sublist (List.take_sublist ..)
  best := by
    intro f taken g overlap left
    have sorted := pairwise_ahead_ranked unknown
    have member := mem_ranked_iff.mpr overlap
    rw [← List.take_append_drop maxSuggestions (ranked (needle unknown))] at sorted member
    exact (List.pairwise_append.mp sorted).2.2 f taken g ((List.mem_append.mp member).resolve_left left)
  recased := by
    intro f h
    rw [List.head?_take, if_neg (by decide), head?_ranked_of_recased h]

/-- Of a well-formed path something is compared. -/
theorem needle_ne_nil (formed : ¬ Malformed unknown) : needle unknown ≠ [] := by
  obtain ⟨last, ends, segment⟩ := Text.exists_lastSegment unknown
  rw [needle, segment]
  intro nothing
  have empty := Text.eq_nil_of_lower_eq_nil nothing
  rw [String.toList_ofList] at empty
  rw [empty] at ends
  exact formed (.inr (List.mem_map.mpr ⟨[], List.mem_of_getLast? ends, rfl⟩))

/-- The paths that are suggested are those of the suggested fields. -/
theorem exists_suggestedFor (formed : ¬ Malformed unknown) :
    ∃ fields, SuggestedFor unknown fields ∧ suggestions unknown = fields.map Field.path := by
  refine ⟨_, suggestedFor_take unknown, ?_⟩
  rw [suggestions, if_neg]
  rw [List.isEmpty_iff]
  exact needle_ne_nil formed

/-! ## Reports -/

/-- The condition at a place of the tree is on a well-formed path of no field. -/
structure NamesUnknown (tree : Tree) (location : Location) (path : String) : Prop where
  named : ∃ node, nodeAt? location tree = some node ∧ node.field? = some path
  formed : ¬ Malformed path
  absent : ∀ field : Field, field.path ≠ path

/-- The diagnostic of an unknown path, with the fields that are suggested. -/
def unknownFieldError (location : Location) (path : String) (fields : List Field) : Diagnostic where
  kind := .unknownField
  message := "unknown field '" ++ path ++ "'"
  path := some location.text
  suggestions := fields.map Field.path

theorem toDiagnostic_unknownField {fields : List Field} {names : List String}
    (h : names = fields.map Field.path) (location : Location) (path : String) :
    (Finding.unknownField path names).toDiagnostic location = unknownFieldError location path fields := by
  rw [h]
  rfl

/-- Suggestions are sound, complete and ranked. Where a condition is on a well-formed path of no field, there
is an error that suggests the fields that belong to the path, and there are no other errors of this kind. -/
theorem suggestions_validate (tree : Tree) :
    (∀ location path, NamesUnknown tree location path →
      ∃ fields, SuggestedFor path fields ∧ unknownFieldError location path fields ∈ (validate tree).errors) ∧
    (∀ error ∈ (validate tree).errors, error.kind = .unknownField →
      ∃ location path fields, NamesUnknown tree location path ∧ SuggestedFor path fields ∧
        error = unknownFieldError location path fields) := by
  constructor
  · intro location path ⟨⟨node, stands, named⟩, formed, absent⟩
    obtain ⟨fields, suggested, same⟩ := exists_suggestedFor formed
    refine ⟨fields, suggested, ?_⟩
    have own := ownFinding?_of_resolve named (resolve_of_unknown formed absent)
    rw [← toDiagnostic_unknownField same]
    exact mem_errors_of_ownFinding? stands own rfl
  · intro error member kind
    rcases cases_of_mem_errors member with ⟨location, node, finding, stands, own, rfl⟩ | conflict
    · obtain ⟨path, named⟩ | ⟨vacant, -⟩ := ownFinding?_cases own
      · have faulty := faulty_of_ownFinding? named own
        generalize sort : finding.kind = found at faulty
        obtain rfl : found = .unknownField := sort.symm.trans kind
        cases faulty with
        | unknown named' formed absent =>
          obtain ⟨fields, suggested, same⟩ := exists_suggestedFor formed
          rw [ownFinding?_of_resolve named' (resolve_of_unknown formed absent)] at own
          refine ⟨location, _, fields, ⟨⟨node, stands, named'⟩, formed, absent⟩, suggested, ?_⟩
          rw [← Option.some.inj own, toDiagnostic_unknownField same]
      · generalize sort : finding.kind = found at vacant
        obtain rfl : found = .unknownField := sort.symm.trans kind
        cases vacant
    · rw [conflict] at kind
      cases kind

/-- In another letter case, an identifier's path is unknown, and the field is suggested first. -/
theorem suggestions_validate_recased : ∃ fields, fields.head? = some .id ∧ fields.length ≤ 3 ∧
    unknownFieldError [.negated] "Task.ID" fields ∈ (validate (.not (.presence "Task.ID" true))).errors := by
  have formed : ¬ Malformed "Task.ID" := by
    rw [← isWellFormedPath_eq_false_iff]
    decide +kernel
  have absent : ∀ field : Field, field.path ≠ "Task.ID" := by
    intro field
    cases field <;> decide +kernel
  have all : ("Task.ID".toList.all fun c => c.toNat < 0x80) = true := by decide +kernel
  have basic : ∀ c ∈ "Task.ID".toList, c.toNat < 0x80 :=
    fun c member => of_decide_eq_true (List.all_eq_true.mp all c member)
  obtain ⟨fields, suggested, listed⟩ := (suggestions_validate (.not (.presence "Task.ID" true))).1
    [.negated] "Task.ID" ⟨⟨_, rfl, rfl⟩, formed, absent⟩
  refine ⟨fields, suggested.recased .id ?_, ?_, listed⟩
  · rw [Text.lower_of_basic basic, lower_path]
    decide +kernel
  · rw [suggested.length]
    exact Nat.min_le_left ..

end TaskFilter.Validation
