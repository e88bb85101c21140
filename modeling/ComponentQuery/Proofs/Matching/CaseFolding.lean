import ComponentQuery.Proofs.Matching.Satisfaction
import ComponentQuery.Proofs.Query.Selection
import ComponentQuery.Proofs.Unicode.UpperCase

/-!
# Leaving case out of account

A predicate that takes no account of case compares texts in upper case.  The parts into which a text
falls around another one are parts of the upper case as well (`TextRelation.Parts.upperCase`), so
that whatever satisfies a comparison with a text satisfies it without regard to case.  And it makes
no difference whether a text is in upper case already (`Comparison.holds_upperCase`).

A selector becomes wider if some of its comparisons with texts no longer take account of case.  It
then selects all elements that it selected before: `Selector.Widened.select_subset`.
-/

namespace ComponentQuery

open Unicode (upperCase)

/-! ## Parts of texts -/

/-- **The parts of a text in upper case** are the parts in upper case. -/
lemma TextRelation.Parts.upperCase {r : TextRelation} {s v : List Char} (h : r.Parts s v) :
    r.Parts (Unicode.upperCase s) (Unicode.upperCase v) := by
  cases h with
  | contains a v b =>
    rw [Unicode.upperCase_append, Unicode.upperCase_append]
    exact .contains _ _ _
  | startsWith v b =>
    rw [Unicode.upperCase_append]
    exact .startsWith _ _
  | endsWith a v =>
    rw [Unicode.upperCase_append]
    exact .endsWith _ _
  | whole v => exact .whole _
  | dashed v b =>
    rw [Unicode.upperCase_append, Unicode.upperCase_cons]
    exact .dashed _ _
  | @token a v b hv ha hb =>
    rw [Unicode.upperCase_append, Unicode.upperCase_append]
    refine .token (Unicode.space_not_mem_upperCase hv) ?_ ?_
    · rcases List.eq_nil_or_concat a with rfl | ⟨a, c, rfl⟩
      · simp
      · obtain rfl : c = ' ' := ha c (by simp)
        rw [List.concat_eq_append, Unicode.upperCase_append]
        show ∀ c ∈ (Unicode.upperCase a ++ [' ']).getLast?, c = ' '
        simp
    · cases b with
      | nil => simp
      | cons c b =>
        obtain rfl : c = ' ' := hb c rfl
        rw [Unicode.upperCase_cons]
        show ∀ c ∈ (' ' :: Unicode.upperCase b).head?, c = ' '
        simp

/-! ## Comparisons -/

/-- A value with its text in upper case, if it is one. -/
def Shape.upperCase : Shape → Shape
  | .text s => .text (String.ofList (Unicode.upperCase s.toList))
  | shape => shape

lemma Shape.upperCase_upperCase (shape : Shape) : shape.upperCase.upperCase = shape.upperCase := by
  cases shape with
  | text s => simp only [upperCase, String.toList_ofList, Unicode.upperCase_upperCase]
  | _ => rfl

/-- A comparison with its text in upper case, if it is with one. -/
def Comparison.upperCase : Comparison → Comparison
  | .equals (.text v) => .equals (.text (String.ofList (Unicode.upperCase v.toList)))
  | .relates r v => .relates r (String.ofList (Unicode.upperCase v.toList))
  | c => c

/-- **Without regard to case, only the upper case counts**, of the value and of the text with which
it is compared. -/
lemma Comparison.holds_upperCase (c : Comparison) (shape : Shape) :
    c.upperCase.holds false shape.upperCase = c.holds false shape := by
  -- Without regard to case a text is compared by its upper case, which upper case leaves alone.
  have hform : ∀ s : String,
      caseForm false (String.ofList (Unicode.upperCase s.toList)).toList =
        caseForm false s.toList := by
    intro s
    rw [String.toList_ofList]
    exact Unicode.upperCase_upperCase s.toList
  cases c with
  | truthy =>
    cases shape with
    | text s =>
      have hempty : String.ofList (Unicode.upperCase s.toList) = "" ↔ s = "" := by
        rw [← String.toList_inj, ← @String.toList_inj s "", String.toList_ofList]
        exact Unicode.upperCase_eq_nil_iff
      exact decide_eq_decide.2 (not_congr hempty)
    | _ => rfl
  | relates r v =>
    cases shape with
    | text s => simp only [upperCase, Shape.upperCase, holds, hform]
    | _ => rfl
  | equals operand =>
    cases operand with
    | text v =>
      cases shape with
      | text s => simp only [upperCase, Shape.upperCase, holds, Operand.equalsShape, hform]
      | _ => rfl
    | regex r =>
      cases shape with
      | text s => simp only [upperCase, Shape.upperCase, holds, Operand.equalsShape, hform]
      | _ => rfl
    | number x => cases shape <;> rfl
    | boolean b => cases shape <;> rfl

lemma Comparison.SatisfiedBy.upperCase {c : Comparison} {shape : Shape} {v : String}
    (hc : c.operand? = some (.text v)) (h : c.SatisfiedBy (caseForm true) shape) :
    c.SatisfiedBy (caseForm false) shape := by
  cases h with
  | truthy => simp [operand?] at hc
  | number => simp [operand?] at hc
  | boolean => simp [operand?] at hc
  | regex => simp [operand?] at hc
  | text htext => exact .text (congrArg Unicode.upperCase htext)
  | relates hparts => exact .relates hparts.upperCase

/-! ## Predicates -/

namespace Predicate

/-- The predicate that takes no account of case. -/
def insensitive (p : Predicate) : Predicate := { p with caseSensitive := false }

lemma holds_insensitive {p : Predicate} {v : String} (hv : p.comparison.operand? = some (.text v))
    {subject : Option Shape} (h : p.holds subject = true) :
    p.insensitive.holds subject = true := by
  rw [holds_iff_exists] at h ⊢
  obtain ⟨shape, hshape, h⟩ := h
  refine ⟨shape, hshape, ?_⟩
  show p.comparison.SatisfiedBy (caseForm false) shape
  cases hsensitive : p.caseSensitive with
  | false => rwa [hsensitive] at h
  | true =>
    rw [hsensitive] at h
    exact h.upperCase hv

lemma insensitive_holds_upperCase (p : Predicate) (subject : Option Shape) :
    (insensitive { p with comparison := p.comparison.upperCase }).holds
      (subject.map Shape.upperCase) = p.insensitive.holds subject := by
  cases subject with
  | none => rfl
  | some shape => exact p.comparison.holds_upperCase shape

/-- The same predicate, or, if it compares with a text, the one that takes no account of case. -/
inductive Widened : Predicate → Predicate → Prop where
  | same (p : Predicate) : Widened p p
  | insensitive {p : Predicate} {v : String} (hv : p.comparison.operand? = some (.text v)) :
      Widened p p.insensitive

lemma Widened.accepts {p q : Predicate} (h : p.Widened q) {properties : Option Json}
    (hp : p.accepts properties = true) : q.accepts properties = true := by
  cases h with
  | same => exact hp
  | insensitive hv => exact holds_insensitive hv hp

lemma forall_accepts_of_widened {ps qs : List Predicate} (h : List.Forall₂ Widened ps qs)
    {properties : Option Json} (hps : ∀ p ∈ ps, p.accepts properties = true) :
    ∀ q ∈ qs, q.accepts properties = true := by
  induction h with
  | nil => simp
  | cons hwidened _ ih =>
    rw [List.forall_mem_cons] at hps ⊢
    exact ⟨hwidened.accepts hps.1, ih hps.2⟩

end Predicate

/-! ## Selectors -/

namespace Selector

/-- The selector of the same name of which some predicates take no account of case any more. -/
structure Widened (s t : Selector) : Prop where
  name : s.name = t.name
  predicates : List.Forall₂ Predicate.Widened s.predicates t.predicates

variable {ε : Type} {s t : Selector}

lemma Widened.acceptsRecord (h : s.Widened t) {r : Record ε} (hr : s.acceptsRecord r = true) :
    t.acceptsRecord r = true := by
  rw [acceptsRecord_iff] at hr ⊢
  obtain ⟨hname, hall⟩ := hr
  exact ⟨h.name ▸ hname, Predicate.forall_accepts_of_widened h.predicates hall⟩

/-- **A wider selector selects no less.** -/
theorem Widened.select_subset [DecidableEq ε] (h : s.Widened t) (records : List (Record ε)) :
    s.select records ⊆ t.select records :=
  select_subset_of_forall fun _ _ => h.acceptsRecord

end Selector

end ComponentQuery
