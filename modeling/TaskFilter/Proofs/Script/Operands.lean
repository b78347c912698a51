import TaskFilter.Proofs.Decimal.Writing
import TaskFilter.Proofs.Script.Fragments
import TaskFilter.Proofs.Script.Scanning
import TaskFilter.Proofs.Tree.Shape

/-!
# Operands stay literals

Whatever the text operands of a tree are, each stands in the emitted text as one literal, and the rest of
the text is the same. So no operand can become code.

## Layers

- **Forms**: pieces that differ in their literals only (`Parallel`), and scanned texts that do (`Fills`).
- **Emission**: trees of the same shape are expressed in parallel pieces.
- **Sealed pieces**: what expressions are written with ends outside of literals (`covers_sealed`), so that
  pieces can be scanned one by one.
- **Main statement**: `emit_sameShape`.
-/

namespace TaskFilter.Script

/-! ## Forms -/

/-- Two rows of pieces with the same code, and the values of their literals. -/
inductive Parallel : List Piece → List String → List Piece → List String → Prop where
  | nil : Parallel [] [] [] []
  | code (text : String) {ps qs : List Piece} {values others : List String} :
      Parallel ps values qs others →
      Parallel (.code text :: ps) values (.code text :: qs) others
  | literal (value other : String) {ps qs : List Piece} {values others : List String} :
      Parallel ps values qs others →
      Parallel (.literal value :: ps) (value :: values) (.literal other :: qs) (other :: others)

/-- A place in a form of a text. -/
inductive Slot where
  /-- A part that is always the same. -/
  | fixed (mark : Mark)
  /-- A literal to be filled in. -/
  | operand

/-- The text is the form, with literals that stand for the values in its open places. -/
inductive Fills : List Slot → List String → List Mark → Prop where
  | nil : Fills [] [] []
  | fixed (mark : Mark) {slots : List Slot} {values : List String} {marks : List Mark} :
      Fills slots values marks → Fills (.fixed mark :: slots) values (mark :: marks)
  | operand {raw : List Char} {value : String} (h : Json.decode raw = some value)
      {slots : List Slot} {values : List String} {marks : List Mark} :
      Fills slots values marks →
      Fills (.operand :: slots) (value :: values) (.literal raw :: marks)

/-- The same character of code, or two literals. -/
inductive Mark.Agree : Mark → Mark → Prop where
  | same (mark : Mark) : Agree mark mark
  | literals (raw other : List Char) : Agree (.literal raw) (.literal other)

theorem Parallel.append {ps qs ps' qs' : List Piece} {values others values' others' : List String}
    (h : Parallel ps values qs others) (h' : Parallel ps' values' qs' others') :
    Parallel (ps ++ ps') (values ++ values') (qs ++ qs') (others ++ others') := by
  induction h with
  | nil => exact h'
  | code text _ ih => exact .code text ih
  | literal value other _ ih => exact .literal value other ih

/-- Code without literals is parallel to itself. -/
theorem Parallel.of_code {ps : List Piece} (h : ∀ piece ∈ ps, ∃ text, piece = .code text) :
    Parallel ps [] ps [] := by
  induction ps with
  | nil => exact .nil
  | cons piece ps ih =>
    rw [List.forall_mem_cons] at h
    obtain ⟨⟨text, rfl⟩, rest⟩ := h
    exact .code text (ih rest)

theorem Fills.append_fixed (marks : List Mark) {slots : List Slot} {values : List String}
    {others : List Mark} (h : Fills slots values others) :
    Fills (marks.map Slot.fixed ++ slots) values (marks ++ others) := by
  induction marks with
  | nil => exact h
  | cons mark marks ih => exact .fixed mark ih

/-- Texts of one form agree from end to end, up to what their literals hold. -/
theorem Fills.agree {slots : List Slot} {values others : List String} {marks more : List Mark}
    (h : Fills slots values marks) (h' : Fills slots others more) :
    List.Forall₂ Mark.Agree marks more := by
  induction h generalizing others more with
  | nil =>
    cases h'
    exact .nil
  | fixed mark _ ih =>
    cases h' with
    | fixed _ rest => exact .cons (.same mark) (ih rest)
  | operand _ _ ih =>
    cases h' with
    | operand _ rest => exact .cons (.literals _ _) (ih rest)

/-! ## Operands in pieces -/

theorem parallel_arrayPieces {items others : List String} (h : items.length = others.length) :
    Parallel (arrayPieces items) items (arrayPieces others) others := by
  match items, others, h with
  | [], [], _ => exact .code "[]" .nil
  | first :: rest, other :: more, h =>
    -- every item but the first brings a comma along
    have separated : Parallel (rest.flatMap fun item => [.code ",", .literal item]) rest
        (more.flatMap fun item => [.code ",", .literal item]) more := by
      have same : rest.length = more.length := Nat.succ.inj h
      clear h
      induction rest generalizing more with
      | nil =>
        obtain rfl := List.eq_nil_of_length_eq_zero same.symm
        exact .nil
      | cons item rest ih =>
        match more, same with
        | item' :: more, same => exact .code "," (.literal item item' (ih more (Nat.succ.inj same)))
    have closed := separated.append (.code "]" .nil)
    rw [List.append_nil, List.append_nil] at closed
    exact .code "[" (.literal first other closed)

theorem parallel_operandPieces {a b : Operand} (h : a.SameShape b) :
    Parallel (operandPieces a) a.texts (operandPieces b) b.texts := by
  cases h with
  | bool value => exact .code _ .nil
  | number value => exact .code _ .nil
  | string s t => exact .literal s t .nil
  | array items others same => exact parallel_arrayPieces same

/-! ## Emission -/

/-- The same error, or expressions with the same code and the given values in their literals. -/
inductive Alike (values others : List String) :
    Except EmissionError Expr → Except EmissionError Expr → Prop where
  | error (cause : EmissionError) : Alike values others (.error cause) (.error cause)
  | ok {e f : Expr} (h : Parallel e.pieces values f.pieces others) :
      Alike values others (.ok e) (.ok f)

variable {a b : Operand}

theorem alike_needString (h : a.SameShape b) (field : Field) (written : String → String)
    {build : String → Atom}
    (built : ∀ s t, Parallel (build s).pieces [written s] (build t).pieces [written t]) :
    Alike (a.texts.map written) (b.texts.map written)
      (((needString field a).map build).map Expr.atom)
      (((needString field b).map build).map Expr.atom) := by
  cases h with
  | string s t => exact .ok (built s t)
  | bool | number | array => exact .error _

theorem alike_needSet (h : a.SameShape b) (field : Field) {build : List String → Atom}
    (built : ∀ items others : List String, items.length = others.length →
      Parallel (build items).pieces items (build others).pieces others) :
    Alike a.texts b.texts (((needSet field a).map build).map Expr.atom)
      (((needSet field b).map build).map Expr.atom) := by
  cases h with
  | string s t => exact .ok (built [s] [t] rfl)
  | array items others same => exact .ok (built items others same)
  | bool | number => exact .error _

theorem alike_propertyAtom (h : a.SameShape b) (dialect : Dialect) (field : Field)
    (operator : Operator) :
    Alike (a.textsFor operator) (b.textsFor operator)
      ((propertyAtom dialect field operator a).map Expr.atom)
      ((propertyAtom dialect field operator b).map Expr.atom) := by
  have equality : ∀ same, Parallel
      (Atom.equality (dialect.accessor field.path) same (.operand a)).pieces a.texts
      (Atom.equality (dialect.accessor field.path) same (.operand b)).pieces b.texts :=
    fun same => .code _ (parallel_operandPieces h)
  have order : ∀ s t, Parallel
      (Atom.order (dialect.accessor field.path) operator (.date s)).pieces [id s]
      (Atom.order (dialect.accessor field.path) operator (.date t)).pieces [id t] :=
    fun s t => .code _ (.code _ (.literal s t (.code _ .nil)))
  have membership : ∀ quantifier (items others : List String), items.length = others.length →
      Parallel (Atom.membership quantifier items (dialect.accessor field.path)).pieces items
        (Atom.membership quantifier others (dialect.accessor field.path)).pieces others := by
    intro quantifier items others same
    have closed := (parallel_arrayPieces same).append
      (.code ("." ++ quantifier.method ++ "(t => " ++ dialect.accessor field.path ++ ".includes(t))")
        .nil)
    rwa [List.append_nil, List.append_nil] at closed
  have pattern : ∀ s t, Parallel
      (Atom.matches (dialect.accessor field.path) s).pieces [id s]
      (Atom.matches (dialect.accessor field.path) t).pieces [id t] :=
    fun s t => .code _ (.literal s t (.code _ .nil))
  -- which atom it is, or which error, depends on the operator and the field and not on the operand
  unfold propertyAtom
  generalize field.kind = kind
  cases operator with
  | eq | ne =>
    cases kind with
    | boolean | string => exact .ok (equality _)
    | date | array | object => exact .error _
  | lt | gt | le | ge =>
    cases kind with
    | date => simpa [Operand.textsFor] using alike_needString h field id order
    | boolean | string | array | object => exact .error _
  | contains =>
    cases kind with
    | string =>
      exact alike_needString h field Text.lower fun s t => .code _ (.literal _ _ (.code _ .nil))
    | boolean | date | array | object => exact .error _
  | «matches» =>
    cases kind with
    | string =>
      simpa [Operand.textsFor] using alike_needString h field id pattern
    | boolean | date | array | object => exact .error _
  | all =>
    cases kind with
    | array => exact alike_needSet h field (membership .every)
    | boolean | string | date | object => exact .error _
  | any =>
    cases kind with
    | array => exact alike_needSet h field (membership .some)
    | boolean | string | date | object => exact .error _

/-- A derived truth value is compared without literals. -/
theorem code_of_derivedPredicate? {dialect : Dialect} {field : Field} {predicate : Expr}
    (h : derivedPredicate? dialect field = some predicate) :
    ∀ piece ∈ predicate.pieces, ∃ text, piece = .code text := by
  -- a property of finitely many fixed expressions, which is looked up for each of them
  have all : ∀ dialect field, ((derivedPredicate? dialect field).all fun predicate =>
      predicate.pieces.all fun piece => (piece matches .code _)) = true := by
    intro dialect field
    cases dialect <;> cases field <;> rfl
  have each := all dialect field
  simp only [h, Option.all_some, List.all_eq_true] at each
  intro piece member
  have code := each piece member
  cases piece with
  | code text => exact ⟨text, rfl⟩
  | literal value => cases code

theorem alike_truthComparison (h : a.SameShape b) (dialect : Dialect) (field : Field)
    {predicate : Expr} (code : ∀ piece ∈ predicate.pieces, ∃ text, piece = .code text)
    (operator : Operator) :
    Alike (a.textsFor operator) (b.textsFor operator)
      (truthComparison dialect field predicate operator a)
      (truthComparison dialect field predicate operator b) := by
  cases h with
  | bool value =>
    cases polarity : polarity? operator with
    | none =>
      simp only [truthComparison, Operand.bool?, polarity]
      exact .error _
    | some positive =>
      have same := Parallel.of_code code
      have negated : Parallel (Expr.not (.parens predicate)).pieces []
          (Expr.not (.parens predicate)).pieces [] :=
        .code "!" (.code "(" (same.append (.code ")" .nil)))
      have none : (Operand.bool value).textsFor operator = [] := by
        cases operator <;> rfl
      simp only [truthComparison, Operand.bool?, polarity, none]
      -- the truth value decides on a negation, and it is the same on both sides
      split
      · exact .ok same
      · exact .ok negated
  | number | string | array => exact .error _

/-- References that both look like identifiers, or both do not, are compared with one property. -/
theorem alike_projectComparison (h : a.SameShape b) (reference : a.SameReference b)
    (dialect : Dialect) (operator : Operator) :
    Alike (a.textsFor operator) (b.textsFor operator) (projectComparison dialect operator a)
      (projectComparison dialect operator b) := by
  cases h with
  | string s t =>
    have property : referenceProperty dialect s = referenceProperty dialect t := by
      simp only [referenceProperty, reference s t rfl rfl]
    have same : Parallel (projectMatch dialect s).pieces [s] (projectMatch dialect t).pieces [t] := by
      rw [projectMatch, projectMatch, property]
      exact .code _ (.code _ (.code _ (.code _ (.code _ (.literal s t (.code _ .nil))))))
    cases operator with
    | eq => exact .ok same
    | ne => exact .ok (.code "!" same)
    | lt | gt | le | ge | contains | «matches» | all | any => exact .error _
  | bool | number | array => exact .error _

theorem alike_comparison (h : a.SameShape b) (dialect : Dialect) {path : String}
    (reference : path = Field.containingProject.path → a.SameReference b) (operator : Operator) :
    Alike (a.textsFor operator) (b.textsFor operator) (comparison dialect path operator a)
      (comparison dialect path operator b) := by
  unfold comparison
  cases known : Field.ofPath? path with
  | none => exact .error _
  | some field =>
    have named := Field.path_of_ofPath? known
    by_cases project : field = .containingProject
    · subst project
      exact alike_projectComparison h (reference named.symm) dialect operator
    · simp only [derivedComparison?, project, ↓reduceIte]
      cases derived : derivedPredicate? dialect field with
      | none => exact alike_propertyAtom h dialect field operator
      | some predicate =>
        exact alike_truthComparison h dialect field (code_of_derivedPredicate? derived) operator

theorem alike_presence (dialect : Dialect) (path : String) (present : Bool) :
    Alike [] [] (presence dialect path present) (presence dialect path present) := by
  unfold presence
  cases Field.ofPath? path with
  | none => exact .error _
  | some field =>
    dsimp only
    split
    · exact .error _
    · exact .ok (.code _ (.code _ .nil))

/-- The same error, or as many expressions, which are parallel when they are joined. -/
inductive AlikeAll (values others : List String) :
    Except EmissionError (List Expr) → Except EmissionError (List Expr) → Prop where
  | error (cause : EmissionError) : AlikeAll values others (.error cause) (.error cause)
  | ok {parts more : List Expr} (length : parts.length = more.length)
      (h : ∀ junction, Parallel (Expr.joinedPieces junction parts) values
        (Expr.joinedPieces junction more) others) :
      AlikeAll values others (.ok parts) (.ok more)

theorem parallel_parens {e f : Expr} {values others : List String}
    (h : Parallel e.pieces values f.pieces others) :
    Parallel (Expr.parens e).pieces values (Expr.parens f).pieces others := by
  have closed := h.append (.code ")" .nil)
  rw [List.append_nil, List.append_nil] at closed
  exact .code "(" closed

theorem parallel_group {parts more : List Expr} {values others : List String}
    (length : parts.length = more.length) (junction : Junction)
    (h : Parallel (Expr.joinedPieces junction parts) values
      (Expr.joinedPieces junction more) others) :
    Parallel (group junction parts).pieces values (group junction more).pieces others := by
  match parts, more, length with
  | [], [], _ =>
    cases h
    exact .code _ .nil
  | part :: rest, part' :: rest', _ => exact parallel_parens h

theorem parallel_joined_cons {part part' : Expr} {rest rest' : List Expr}
    {values others values' others' : List String} (junction : Junction)
    (length : rest.length = rest'.length)
    (head : Parallel part.pieces values part'.pieces others)
    (tail : Parallel (Expr.joinedPieces junction rest) values'
      (Expr.joinedPieces junction rest') others') :
    Parallel (Expr.joinedPieces junction (part :: rest)) (values ++ values')
      (Expr.joinedPieces junction (part' :: rest')) (others ++ others') := by
  match rest, rest', length with
  | [], [], _ =>
    -- the last part has no sign behind it, and no literals are left
    cases tail
    rw [List.append_nil, List.append_nil]
    exact head
  | second :: rest, second' :: rest', _ => exact head.append (.code junction.sign tail)

mutual

theorem alike_emit (dialect : Dialect) : (t u : Tree) → t.SameShape u →
    Alike t.operandTexts u.operandTexts (emit dialect t) (emit dialect u)
  | .literal value, .literal other, h => by
    rw [Tree.SameShape] at h
    rw [h]
    exact .ok (.code _ .nil)
  | .comparison path operator a, .comparison path' operator' b, h => by
    obtain ⟨rfl, rfl, operands, reference⟩ := h
    exact alike_comparison operands dialect reference operator
  | .presence path present, .presence path' present', h => by
    obtain ⟨rfl, rfl⟩ := h
    exact alike_presence dialect path present
  | .all children, .all others, h => by
    rw [Tree.SameShape] at h
    rw [emit, emit]
    -- the children are refused with the same error, or become groups of the same form
    have alike := alike_emitAll dialect children others h
    generalize emitAll dialect children = parts, emitAll dialect others = more at alike
    cases alike with
    | error cause => exact .error cause
    | ok length joined => exact .ok (parallel_group length .and (joined .and))
  | .any children, .any others, h => by
    rw [Tree.SameShape] at h
    rw [emit, emit]
    have alike := alike_emitAll dialect children others h
    generalize emitAll dialect children = parts, emitAll dialect others = more at alike
    cases alike with
    | error cause => exact .error cause
    | ok length joined => exact .ok (parallel_group length .or (joined .or))
  | .not child, .not other, h => by
    rw [Tree.SameShape] at h
    rw [emit, emit]
    have alike := alike_emit dialect child other h
    generalize emit dialect child = inner, emit dialect other = inner' at alike
    cases alike with
    | error cause => exact .error cause
    | ok same => exact .ok (.code "!" (parallel_parens same))

theorem alike_emitAll (dialect : Dialect) : (children others : List Tree) →
    Tree.SameShapes children others →
    AlikeAll (Tree.allOperandTexts children) (Tree.allOperandTexts others)
      (emitAll dialect children) (emitAll dialect others)
  | [], [], _ => .ok rfl fun _ => .nil
  | child :: rest, other :: others, h => by
    rw [Tree.SameShapes] at h
    rw [emitAll, emitAll]
    have first := alike_emit dialect child other h.1
    have alike := alike_emitAll dialect rest others h.2
    generalize emit dialect child = part, emit dialect other = part' at first
    generalize emitAll dialect rest = parts, emitAll dialect others = parts' at alike
    cases first with
    | error cause => exact .error cause
    | ok head =>
      cases alike with
      | error cause => exact .error cause
      | ok length tail =>
        exact .ok (congrArg Nat.succ length) fun junction =>
          parallel_joined_cons junction length head (tail junction)

end

/-! ## Sealed pieces -/

/-- The parts of a text, of which no literal holds a control character. -/
structure Printed (cs : List Char) (marks : List Mark) : Prop where
  scan : scan cs = some marks
  printable : ∀ raw, .literal raw ∈ marks → ∀ c ∈ raw, 0x20 ≤ c.toNat

/-- The piece begins and ends outside of literals. -/
def Piece.Sealed (piece : Piece) : Prop :=
  ∃ marks, Printed piece.write marks

theorem Printed.append {cs ds : List Char} {marks others : List Mark} (h : Printed cs marks)
    (h' : Printed ds others) : Printed (cs ++ ds) (marks ++ others) where
  scan := scan_append h.scan h'.scan
  printable := by
    intro raw member
    rcases List.mem_append.mp member with first | second
    · exact h.printable raw first
    · exact h'.printable raw second

theorem printed_of_not_mem {cs : List Char} (h : '"' ∉ cs) : Printed cs (cs.map Mark.code) where
  scan := scan_of_not_mem h
  printable := by simp

theorem printed_encode (s : String) :
    Printed (Json.encode s) [.literal (s.toList.flatMap Json.encodeChar)] where
  scan := scan_encode s
  printable := by
    intro raw member c inside
    obtain rfl := Mark.literal.inj (List.mem_singleton.mp member)
    obtain ⟨d, _, written⟩ := List.mem_flatMap.mp inside
    exact Json.printable_of_mem_encodeChar written

theorem sealed_literal (value : String) : (Piece.literal value).Sealed :=
  ⟨_, printed_encode value⟩

theorem sealed_code_append {a b : String} (ha : (Piece.code a).Sealed)
    (hb : (Piece.code b).Sealed) : (Piece.code (a ++ b)).Sealed := by
  obtain ⟨marks, printed⟩ := ha
  obtain ⟨others, printed'⟩ := hb
  refine ⟨marks ++ others, ?_⟩
  rw [Piece.write, String.toList_append]
  exact printed.append printed'

/-- Code whose literals, if it has any, are printable. -/
theorem sealed_of_scan {text : String} {marks : List Mark} (h : scan text.toList = some marks)
    (printable : (marks.all fun mark => mark.text.all fun c => 0x20 ≤ c.toNat) = true) :
    (Piece.code text).Sealed := by
  simp only [List.all_eq_true, decide_eq_true_eq] at printable
  refine ⟨marks, h, fun raw member c inside => ?_⟩
  exact printable _ member c (by simp [Mark.text, inside])

/-! ### Expressions -/

theorem not_mem_of_numeral {cs : List Char} (h : Decimal.Numeral cs) : '"' ∉ cs :=
  fun member => absurd (h _ member) (by decide)

/-- Some fragments have literals of their own, but none begins or ends within one. -/
theorem covers_sealed : Covers Piece.Sealed where
  literal := sealed_literal
  numeral number := by
    refine ⟨_, printed_of_not_mem ?_⟩
    rw [Piece.write, String.toList_ofList]
    exact not_mem_of_numeral number.numeral_write
  append := sealed_code_append
  fragment text listed := by
    have all : (fragments.all fun text => (scan text.toList).any fun marks =>
        marks.all fun mark => mark.text.all fun c => 0x20 ≤ c.toNat) = true := by decide +kernel
    obtain ⟨marks, scanned, printable⟩ :=
      (Option.any_eq_true _ _).mp (List.all_eq_true.mp all text listed)
    exact sealed_of_scan scanned printable

/-- Every piece of the expression is sealed. -/
def Expr.Sealed (e : Expr) : Prop :=
  ∀ piece ∈ e.pieces, piece.Sealed

/-- Every expression of a tree is made of sealed pieces. -/
theorem emits_sealed (dialect : Dialect) : Emits dialect Expr.Sealed :=
  covers_sealed.emits dialect

/-! ## Operands in texts -/

/-- Parallel rows of sealed pieces are texts of one form, filled with the values of their literals. -/
theorem fills_of_parallel {ps qs : List Piece} {values others : List String}
    (h : Parallel ps values qs others) (sealed : ∀ piece ∈ ps, piece.Sealed) :
    ∃ slots marks more, Printed (ps.flatMap Piece.write) marks ∧
      Printed (qs.flatMap Piece.write) more ∧ Fills slots values marks ∧ Fills slots others more := by
  induction h with
  | nil => exact ⟨[], [], [], ⟨rfl, by simp⟩, ⟨rfl, by simp⟩, .nil, .nil⟩
  | code text _ ih =>
    -- the same code on both sides, literals of its own included
    rw [List.forall_mem_cons] at sealed
    obtain ⟨⟨own, printed⟩, rest⟩ := sealed
    obtain ⟨slots, marks, more, first, second, filled, filled'⟩ := ih rest
    exact ⟨own.map Slot.fixed ++ slots, own ++ marks, own ++ more, printed.append first,
      printed.append second, filled.append_fixed own, filled'.append_fixed own⟩
  | literal value other _ ih =>
    -- two literals in one place, each of which is read back as its value
    rw [List.forall_mem_cons] at sealed
    obtain ⟨slots, marks, more, first, second, filled, filled'⟩ := ih sealed.2
    exact ⟨.operand :: slots, .literal (value.toList.flatMap Json.encodeChar) :: marks,
      .literal (other.toList.flatMap Json.encodeChar) :: more, (printed_encode value).append first,
      (printed_encode other).append second, .operand (Json.decode_encoded value) filled,
      .operand (Json.decode_encoded other) filled'⟩

/-- No operand becomes code. Of two trees that differ in the characters of their text operands only, both
have an expression or neither has. The two texts have the same code and literals in the same places, and
they are one form, in which the literals that stand for operands are filled in the order of the tree. No
literal holds a control character. -/
theorem emit_sameShape (dialect : Dialect) {t u : Tree} (h : t.SameShape u) :
    (∃ cause, emit dialect t = .error cause ∧ emit dialect u = .error cause) ∨
      ∃ e f slots marks others, emit dialect t = .ok e ∧ emit dialect u = .ok f ∧
        scan e.text.toList = some marks ∧ scan f.text.toList = some others ∧
        List.Forall₂ Mark.Agree marks others ∧
        Fills slots t.operandTexts marks ∧ Fills slots u.operandTexts others ∧
        ∀ raw, .literal raw ∈ marks ++ others → ∀ c ∈ raw, 0x20 ≤ c.toNat := by
  have alike := alike_emit dialect t u h
  cases first : emit dialect t with
  | error cause =>
    rw [first] at alike
    generalize emit dialect u = second at alike
    cases alike
    exact .inl ⟨cause, rfl, rfl⟩
  | ok e =>
    cases second : emit dialect u with
    | error cause =>
      -- trees of one shape are refused together
      rw [first, second] at alike
      cases alike
    | ok f =>
      rw [first, second] at alike
      cases alike with
      | ok parallel =>
        have sealed : e.Sealed := (emits_sealed dialect).emit t first
        obtain ⟨slots, marks, others, printed, printed', filled, filled'⟩ :=
          fills_of_parallel parallel sealed
        refine .inr ⟨e, f, slots, marks, others, rfl, rfl, ?_, ?_, filled.agree filled', filled,
          filled', ?_⟩
        · rw [Expr.text, String.toList_ofList]
          exact printed.scan
        · rw [Expr.text, String.toList_ofList]
          exact printed'.scan
        · intro raw member
          rcases List.mem_append.mp member with own | other
          · exact printed.printable raw own
          · exact printed'.printable raw other

/-- An operand that is written like the end of a literal stays one. -/
theorem emit_sameShape_quotes :
    ∃ e f slots marks others,
      emit .jxa (.comparison Field.name.path .contains (.string "Tax")) = .ok e ∧
      emit .jxa (.comparison Field.name.path .contains (.string "\" || \"")) = .ok f ∧
      scan e.text.toList = some marks ∧ scan f.text.toList = some others ∧
      List.Forall₂ Mark.Agree marks others ∧
      Fills slots ["tax"] marks ∧ Fills slots ["\" || \""] others ∧
      ∀ raw, .literal raw ∈ marks ++ others → ∀ c ∈ raw, 0x20 ≤ c.toNat := by
  have same : (Tree.comparison Field.name.path .contains (.string "Tax")).SameShape
      (.comparison Field.name.path .contains (.string "\" || \"")) :=
    ⟨rfl, rfl, .string _ _, fun project => absurd project (by decide)⟩
  rcases emit_sameShape .jxa same with ⟨cause, refused, _⟩ | expressed
  · cases refused
  · exact expressed

end TaskFilter.Script
