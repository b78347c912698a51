import TaskFilter.Proofs.Command.Lines
import TaskFilter.Proofs.Json.Reading

/-!
# Flags of command lines

Three switches decide how a run shows what it found, and not what it finds. Command lines that differ in
these flags only ask for the same: for the same input, read in the same way, and for the same dialect.

## Layers

- **Flags**: the rows of arguments that differ in flags (`SameButFlags`), and how a flag is taken up.
- **Levels**: what is given at a level, up to flags (`Given.SameButFlags`), and what taking up an argument
  preserves. What was taken up last may have been looked at on one of two lines and not yet on the other
  (`Given.Alike`).
- **Lines**: `asksLike_of_readLevel` by induction on the two rows.

Main statement: `asksLike_of_sameButFlags`.
-/

namespace TaskFilter.Command

open Json (bind_eq_ok_iff)

/-! ## Flags -/

/-- The flags, as they are given, and the switches that they stand for. -/
def flags : List (String × Switch) :=
  [("--quiet", .quiet), ("-q", .quiet), ("--json", .json), ("--no-color", .noColor)]

/-- Two rows of arguments that differ in flags only. Behind two hyphens there are no flags. -/
inductive SameButFlags : List String → List String → Prop where
  | nil : SameButFlags [] []
  | operands (rest : List String) : SameButFlags ("--" :: rest) ("--" :: rest)
  | argument {argument : String} (h : argument ≠ "--") {rest others : List String} :
      SameButFlags rest others → SameButFlags (argument :: rest) (argument :: others)
  | left {flag : String × Switch} (h : flag ∈ flags) {rest others : List String} :
      SameButFlags rest others → SameButFlags (flag.1 :: rest) others
  | right {flag : String × Switch} (h : flag ∈ flags) {rest others : List String} :
      SameButFlags rest others → SameButFlags rest (flag.1 :: others)

variable {standing : Option String} {level : Level}

theorem ne_tree_of_mem_flags {flag : String × Switch} (h : flag ∈ flags) : flag.2 ≠ .tree := by
  simp only [flags, List.mem_cons, List.not_mem_nil, or_false] at h
  rcases h with rfl | rfl | rfl | rfl <;> simp

/-- A flag is taken up as its switch, at every level. -/
theorem readLevel_flag {given : Given} {flag : String × Switch} (h : flag ∈ flags) (rest : List String) :
    readLevel standing level false given (flag.1 :: rest) =
      (given.takeSwitch level flag.2).bind fun given => readLevel standing level false given rest := by
  have long : ∀ switch, switch ∈ [Switch.quiet, .json, .noColor] →
      readLevel standing level false given (switch.written :: rest) =
        (given.takeSwitch level switch).bind fun given => readLevel standing level false given rest := by
    intro switch common
    have taken : given.takeLong level switch.long none = given.takeSwitch level switch := by
      simp only [List.mem_cons, List.not_mem_nil, or_false] at common
      rcases common with rfl | rfl | rfl <;> cases level <;> rfl
    rw [readLevel_long (formOf_switch switch), taken]
  simp only [flags, List.mem_cons, List.not_mem_nil, or_false] at h
  rcases h with rfl | rfl | rfl | rfl
  · exact long .quiet (by simp)
  · have form : formOf "-q" = .letters ['q'] := rfl
    have taken : given.takeLetters level ['q'] = given.takeSwitch level .quiet := by
      have one : given.takeLetters level ['q'] = (given.takeSwitch level .quiet).bind .ok := by
        cases level <;> rfl
      rw [one]
      cases given.takeSwitch level .quiet <;> rfl
    rw [readLevel_dashed (by simp [form]), form]
    show (given.takeLetters level ['q']).bind _ = _
    rw [taken]
  · exact long .json (by simp)
  · exact long .noColor (by simp)

/-! ## Levels -/

namespace Given

variable {given other settled taken taken' : Given}

def withSwitches (given : Given) (switches : List Switch) : Given :=
  { given with switches }

/-- The same was given, up to switches that say nothing about the input. -/
structure SameButFlags (given other : Given) : Prop where
  form : other = given.withSwitches other.switches
  tree : other.switches.contains .tree = given.switches.contains .tree

/-- The function looks at everything but switches, which it leaves as they are. -/
def IgnoresSwitches (f : Given → Except Usage Given) : Prop :=
  ∀ given switches, f (given.withSwitches switches) = (f given).map (·.withSwitches switches)

theorem ignoresSwitches_assign (parameter : Parameter) (value : String) :
    IgnoresSwitches fun given => given.assign parameter value := by
  rintro ⟨_, dialect, filter, _, _⟩ switches
  cases parameter with
  | dialect =>
    cases dialect <;> cases named : dialectNames.lookup value <;>
      simp [assign, withSwitches, named, Except.map]
  | filter => cases filter <;> rfl

theorem ignoresSwitches_settle (level : Level) : IgnoresSwitches fun given => given.settle level := by
  rintro ⟨_, dialect, filter, operand, pending⟩ switches
  cases pending with
  | nothing | waiting => rfl
  | valued parameter value =>
    exact ignoresSwitches_assign parameter value ⟨_, dialect, filter, operand, .nothing⟩ switches
  | operand value =>
    show (if _ then _ else _) = Except.map _ (if _ then _ else _)
    split <;> rfl

theorem switches_eq_of_ignoresSwitches {f : Given → Except Usage Given} (ignores : IgnoresSwitches f)
    (h : f given = .ok taken) : taken.switches = given.switches := by
  have same := ignores given given.switches
  rw [show given.withSwitches given.switches = given from rfl, h] at same
  rw [Except.ok.inj same]
  rfl

theorem SameButFlags.of_ignoresSwitches {f : Given → Except Usage Given} (ignores : IgnoresSwitches f)
    (same : given.SameButFlags other) (h : f given = .ok taken) (h' : f other = .ok taken') :
    taken.SameButFlags taken' := by
  rw [same.form, ignores, h] at h'
  obtain rfl := Except.ok.inj h'
  refine ⟨rfl, ?_⟩
  show other.switches.contains .tree = _
  rw [same.tree, switches_eq_of_ignoresSwitches ignores h]

theorem sameButFlags_empty : SameButFlags {} {} :=
  ⟨rfl, rfl⟩

theorem SameButFlags.symm (same : given.SameButFlags other) : other.SameButFlags given := by
  refine ⟨?_, same.tree.symm⟩
  rw [same.form]
  rfl

theorem pending_of_settle (h : given.settle level = .ok settled) : settled.pending = .nothing := by
  obtain ⟨switches, dialect, filter, operand, pending⟩ := given
  cases pending with
  | nothing =>
    cases h
    rfl
  | waiting => cases h
  | valued parameter value =>
    cases parameter with
    | dialect =>
      cases dialect <;> cases named : dialectNames.lookup value <;>
        simp [settle, assign, named] at h
      rw [← h]
    | filter =>
      cases filter <;> cases h
      rfl
  | operand value =>
    unfold settle at h
    dsimp only at h
    split at h <;> cases h
    rfl

theorem settle_of_nothing (none : given.pending = .nothing) : given.settle level = .ok given := by
  obtain ⟨switches, dialect, filter, operand, pending⟩ := given
  obtain rfl : pending = .nothing := none
  rfl

theorem waits_of_settle (h : given.settle level = .ok settled) : given.waits = false := by
  obtain ⟨switches, dialect, filter, operand, pending⟩ := given
  cases pending with
  | waiting => cases h
  | nothing | valued | operand => rfl

theorem takeWord_of_not_waits (h : given.waits = false) (value : String) :
    given.takeWord level value = given.takeOperand level value := by
  obtain ⟨switches, dialect, filter, operand, pending⟩ := given
  cases pending with
  | waiting => cases h
  | nothing | valued | operand => rfl

theorem eq_ok_of_unless {fault : Prop} [Decidable fault] {rest : PUnit → Except Usage Given}
    (h : (if fault then throw Usage.wrong >>= rest else rest ()) = .ok taken) : rest () = .ok taken := by
  split at h
  · cases h
  · exact h

/-- A level ends with what was taken up last being looked at. Of the faults that are looked for then, it has
none. -/
theorem settle_of_finish (h : given.finish level standing = .ok taken) :
    given.settle level = .ok taken := by
  obtain ⟨settled, first, h⟩ := bind_eq_ok_iff.mp h
  have last : settled = taken :=
    Except.ok.inj (eq_ok_of_unless (eq_ok_of_unless (eq_ok_of_unless (eq_ok_of_unless h))))
  rw [first, last]

/-- The same was given up to flags, if what was taken up last is looked at. A parameter that waits does so on
both sides. -/
structure Alike (level : Level) (given other : Given) : Prop where
  waits : other.waits = given.waits
  waiting : given.waits = true → given.SameButFlags other
  settled : ∀ {settled settled' : Given}, given.settle level = .ok settled →
    other.settle level = .ok settled' → settled.SameButFlags settled'

theorem SameButFlags.alike (same : given.SameButFlags other) : Alike level given other where
  waits := by
    rw [same.form]
    rfl
  waiting _ := same
  settled h h' := SameButFlags.of_ignoresSwitches (ignoresSwitches_settle level) same h h'

theorem Alike.symm (alike : Alike level given other) : Alike level other given where
  waits := alike.waits.symm
  waiting h := (alike.waiting (alike.waits ▸ h)).symm
  settled h h' := (alike.settled h' h).symm

/-- What looks at what was taken up last and ignores switches keeps the two sides the same. -/
theorem Alike.sameButFlags {f : Given → Except Usage Given} (ignores : IgnoresSwitches f)
    (alike : Alike level given other) (h : given.settle level >>= f = .ok taken)
    (h' : other.settle level >>= f = .ok taken') : taken.SameButFlags taken' := by
  obtain ⟨settled, first, h⟩ := bind_eq_ok_iff.mp h
  obtain ⟨settled', first', h'⟩ := bind_eq_ok_iff.mp h'
  exact (alike.settled first first').of_ignoresSwitches ignores h h'

theorem takeSwitch_eq_ok {switch : Switch} (h : given.takeSwitch level switch = .ok taken) :
    ∃ settled, given.settle level = .ok settled ∧
      taken = settled.withSwitches (switch :: settled.switches) := by
  obtain ⟨settled, first, h⟩ := bind_eq_ok_iff.mp h
  refine ⟨settled, first, ?_⟩
  cases repeated : settled.switches.contains switch with
  | true =>
    rw [repeated] at h
    cases h
  | false =>
    rw [repeated] at h
    exact (Except.ok.inj h).symm

/-- A flag that is taken up on one side only leaves the sides alike. -/
theorem Alike.flag {flag : String × Switch} (listed : flag ∈ flags) (alike : Alike level given other)
    (h : given.takeSwitch level flag.2 = .ok taken) : Alike level taken other := by
  obtain ⟨settled, first, rfl⟩ := takeSwitch_eq_ok h
  have idle : (settled.withSwitches (flag.2 :: settled.switches)).pending = .nothing := by
    show settled.pending = .nothing
    exact pending_of_settle first
  have still : (settled.withSwitches (flag.2 :: settled.switches)).waits = false :=
    @waits_of_settle level _ _ (settle_of_nothing idle)
  refine ⟨?_, ?_, ?_⟩
  · rw [alike.waits, waits_of_settle first, still]
  · intro waiting
    rw [still] at waiting
    cases waiting
  · intro settled₁ settled₂ h₁ h₂
    rw [settle_of_nothing idle] at h₁
    obtain rfl := Except.ok.inj h₁
    have same := alike.settled first h₂
    refine ⟨same.form, ?_⟩
    show settled₂.switches.contains .tree = (flag.2 :: settled.switches).contains .tree
    have apart : (Switch.tree == flag.2) = false := beq_eq_false_iff_ne.mpr (ne_tree_of_mem_flags listed).symm
    rw [same.tree, List.contains_cons, apart, Bool.false_or]

section Taking

variable (alike : Alike level given other)

include alike

theorem sameButFlags_of_takeSwitch {switch : Switch} (h : given.takeSwitch level switch = .ok taken)
    (h' : other.takeSwitch level switch = .ok taken') : taken.SameButFlags taken' := by
  obtain ⟨settled, first, rfl⟩ := takeSwitch_eq_ok h
  obtain ⟨settled', first', rfl⟩ := takeSwitch_eq_ok h'
  have same := alike.settled first first'
  refine ⟨?_, ?_⟩
  · rw [same.form]
    rfl
  · show (switch :: settled'.switches).contains .tree = (switch :: settled.switches).contains .tree
    rw [List.contains_cons, List.contains_cons, same.tree]

theorem sameButFlags_of_takeParameter {parameter : Parameter} {value : Option String}
    (h : given.takeParameter level parameter value = .ok taken)
    (h' : other.takeParameter level parameter value = .ok taken') : taken.SameButFlags taken' := by
  refine alike.sameButFlags ?_ h h'
  cases value with
  | some value => exact ignoresSwitches_assign parameter value
  | none => exact fun _ _ => rfl

theorem sameButFlags_of_takeOperand {value : String} (h : given.takeOperand level value = .ok taken)
    (h' : other.takeOperand level value = .ok taken') : taken.SameButFlags taken' := by
  refine alike.sameButFlags (fun given switches => ?_) h h'
  show (if level.hasOperand && given.operand.isNone then _ else _) = Except.map _ (if _ then _ else _)
  split <;> rfl

theorem sameButFlags_of_takeLong {name : String} {value : Option String}
    (h : given.takeLong level name value = .ok taken)
    (h' : other.takeLong level name value = .ok taken') : taken.SameButFlags taken' := by
  unfold takeLong at h h'
  cases offered : level.parameters.find? (·.long == name) with
  | some parameter =>
    rw [offered] at h h'
    exact sameButFlags_of_takeParameter alike h h'
  | none =>
    rw [offered] at h h'
    dsimp only at h h'
    split at h
    · cases h
    next unvalued =>
      rw [if_neg unvalued] at h'
      split at h
      · obtain ⟨_, -, stopped⟩ := bind_eq_ok_iff.mp h
        cases stopped
      next plain =>
        rw [if_neg plain] at h'
        cases found : level.switches.find? (·.long == name) with
        | none =>
          rw [found] at h
          cases h
        | some switch =>
          rw [found] at h h'
          exact sameButFlags_of_takeSwitch alike h h'

/-- A word is the value of a parameter that waits, on both sides, or an operand. -/
theorem sameButFlags_of_takeWord {value : String} (h : given.takeWord level value = .ok taken)
    (h' : other.takeWord level value = .ok taken') : taken.SameButFlags taken' := by
  cases waits : given.waits with
  | true =>
    have same := alike.waiting waits
    obtain ⟨switches, dialect, filter, operand, pending⟩ := given
    rw [same.form] at h'
    cases pending with
    | waiting parameter =>
      cases h
      cases h'
      exact ⟨rfl, same.tree⟩
    | nothing | valued | operand => cases waits
  | false =>
    rw [takeWord_of_not_waits waits] at h
    rw [takeWord_of_not_waits (alike.waits.trans waits)] at h'
    exact sameButFlags_of_takeOperand alike h h'

theorem sameButFlags_of_finish (h : given.finish level standing = .ok taken)
    (h' : other.finish level standing = .ok taken') : taken.SameButFlags taken' :=
  alike.settled (settle_of_finish h) (settle_of_finish h')

end Taking

theorem Alike.alike_of_takeLetters {cs : List Char} (alike : Alike level given other)
    (h : given.takeLetters level cs = .ok taken) (h' : other.takeLetters level cs = .ok taken') :
    Alike level taken taken' := by
  induction cs generalizing given other with
  | nil =>
    cases h
    cases h'
    exact alike
  | cons letter rest ih =>
    unfold takeLetters at h h'
    cases offered : level.parameters.find? (·.short == letter) with
    | some parameter =>
      rw [offered] at h h'
      exact (sameButFlags_of_takeParameter alike h h').alike
    | none =>
      rw [offered] at h h'
      dsimp only at h h'
      split at h
      · obtain ⟨_, -, stopped⟩ := bind_eq_ok_iff.mp h
        cases stopped
      next plain =>
        rw [if_neg plain] at h'
        cases found : level.switches.find? (·.short? == some letter) with
        | none =>
          rw [found] at h
          cases h
        | some switch =>
          rw [found] at h h'
          obtain ⟨first, took, h⟩ := bind_eq_ok_iff.mp h
          obtain ⟨first', took', h'⟩ := bind_eq_ok_iff.mp h'
          exact ih (sameButFlags_of_takeSwitch alike took took').alike h h'

end Given

/-! ## Lines -/

/-- The two invocations ask for the same and in the same dialect. -/
structure Invocation.AsksLike (asked other : Invocation) : Prop where
  request : other.request = asked.request
  dialect : other.dialect = asked.dialect

variable {given other : Given} {asked asked' : Invocation}

theorem request_sameButFlags (same : given.SameButFlags other) (level : Level) :
    level.request other = level.request given := by
  cases level with
  | input verb =>
    show Request.input verb other.source (other.switches.contains .tree) = _
    rw [same.tree, same.form]
    rfl
  | top | fields | settings | settingsVerb | completions => rfl

theorem asksLike_widen (same : given.SameButFlags other) (inner : asked.AsksLike asked') :
    (given.widen asked).AsksLike (other.widen asked') where
  request := inner.request
  dialect := by
    show asked'.dialect.or other.dialect = asked.dialect.or given.dialect
    rw [inner.dialect, same.form]
    rfl

theorem asksLike_of_end {operandsOnly : Bool} (alike : Given.Alike level given other)
    (h : readLevel standing level operandsOnly given [] = .ok asked)
    (h' : readLevel standing level operandsOnly other [] = .ok asked') : asked.AsksLike asked' := by
  rw [readLevel] at h h'
  obtain ⟨finished, ends, h⟩ := bind_eq_ok_iff.mp h
  obtain ⟨finished', ends', h'⟩ := bind_eq_ok_iff.mp h'
  obtain rfl := Except.ok.inj h
  obtain rfl := Except.ok.inj h'
  have same := Given.sameButFlags_of_finish alike ends ends'
  exact asksLike_widen same ⟨request_sameButFlags same level, rfl⟩

/-- Behind two hyphens every argument is an operand. -/
theorem asksLike_of_operands {rest : List String} (alike : Given.Alike level given other)
    (h : readLevel standing level true given rest = .ok asked)
    (h' : readLevel standing level true other rest = .ok asked') : asked.AsksLike asked' := by
  induction rest generalizing given other with
  | nil => exact asksLike_of_end alike h h'
  | cons argument rest ih =>
    rw [readLevel] at h h'
    obtain ⟨taken, took, h⟩ := bind_eq_ok_iff.mp h
    obtain ⟨taken', took', h'⟩ := bind_eq_ok_iff.mp h'
    exact ih (Given.sameButFlags_of_takeOperand alike took took').alike h h'

theorem eq_of_formOf_onlyOperands {argument : String} (form : formOf argument = .onlyOperands) :
    argument = "--" := by
  unfold formOf at form
  split at form
  next cs => exact String.toList_inj.mp cs
  next => split at form <;> cases form
  next => cases form
  next => cases form

/-- By induction on the two rows: an argument of both is taken up on both sides, a flag on one of them. -/
theorem asksLike_of_readLevel {rest others : List String} (same : SameButFlags rest others)
    (alike : Given.Alike level given other) (h : readLevel standing level false given rest = .ok asked)
    (h' : readLevel standing level false other others = .ok asked') : asked.AsksLike asked' := by
  induction same generalizing level given other asked asked' with
  | nil => exact asksLike_of_end alike h h'
  | operands rest =>
    have form : formOf "--" = .onlyOperands := rfl
    rw [readLevel_dashed (by simp [form]), form] at h h'
    exact asksLike_of_operands alike h h'
  | left listed _ ih =>
    rw [readLevel_flag listed] at h
    obtain ⟨taken, took, h⟩ := bind_eq_ok_iff.mp h
    exact ih (alike.flag listed took) h h'
  | right listed _ ih =>
    rw [readLevel_flag listed] at h'
    obtain ⟨taken, took, h'⟩ := bind_eq_ok_iff.mp h'
    exact ih (alike.symm.flag listed took).symm h h'
  | @argument argument plain rest others _ ih =>
    rw [readLevel] at h h'
    simp only [Bool.false_eq_true, if_false] at h h'
    rw [alike.waits] at h'
    split at h
    · cases h
    next noHelp =>
      rw [if_neg noHelp] at h'
      cases below : if given.waits then none else level.commands.lookup argument with
      | some below =>
        -- the level below starts with nothing given on either side
        rw [below] at h h'
        obtain ⟨inner, read, h⟩ := bind_eq_ok_iff.mp h
        obtain ⟨inner', read', h'⟩ := bind_eq_ok_iff.mp h'
        obtain ⟨finished, ends, h⟩ := bind_eq_ok_iff.mp h
        obtain ⟨finished', ends', h'⟩ := bind_eq_ok_iff.mp h'
        obtain rfl := Except.ok.inj h
        obtain rfl := Except.ok.inj h'
        exact asksLike_widen (Given.sameButFlags_of_finish alike ends ends')
          (ih Given.sameButFlags_empty.alike read read')
      | none =>
        rw [below] at h h'
        cases form : formOf argument with
        | onlyOperands => exact absurd (eq_of_formOf_onlyOperands form) plain
        | long name value =>
          rw [form] at h h'
          obtain ⟨taken, took, h⟩ := bind_eq_ok_iff.mp h
          obtain ⟨taken', took', h'⟩ := bind_eq_ok_iff.mp h'
          exact ih (Given.sameButFlags_of_takeLong alike took took').alike h h'
        | letters cs =>
          rw [form] at h h'
          obtain ⟨taken, took, h⟩ := bind_eq_ok_iff.mp h
          obtain ⟨taken', took', h'⟩ := bind_eq_ok_iff.mp h'
          exact ih (alike.alike_of_takeLetters took took') h h'
        | word =>
          rw [form] at h h'
          obtain ⟨taken, took, h⟩ := bind_eq_ok_iff.mp h
          obtain ⟨taken', took', h'⟩ := bind_eq_ok_iff.mp h'
          exact ih (Given.sameButFlags_of_takeWord alike took took').alike h h'

/-- Lines that differ in flags only ask for the same, if both are read. -/
theorem asksLike_of_sameButFlags {line others : List String} (same : SameButFlags line others)
    (h : readArguments standing line = .ok asked) (h' : readArguments standing others = .ok asked') :
    asked.AsksLike asked' := by
  obtain ⟨inner, read, h⟩ := bind_eq_ok_iff.mp h
  obtain ⟨inner', read', h'⟩ := bind_eq_ok_iff.mp h'
  obtain rfl := Except.ok.inj h
  obtain rfl := Except.ok.inj h'
  have like := asksLike_of_readLevel same Given.sameButFlags_empty.alike read read'
  refine ⟨like.request, ?_⟩
  show inner'.dialect.or _ = inner.dialect.or _
  rw [like.dialect]

end TaskFilter.Command
