import ComponentQuery.Proofs.Matching.Satisfaction
import ComponentQuery.Proofs.Query.Selection

/-!
# Equal selectors

Equality of selectors does not look at all that they are made of.  Of regular expressions it
compares what is written, which determines the rest; and it compares doubles as numbers, so that
zero is equal to zero whatever its sign, and what is no number is equal to nothing.
`Operand.SameButZero` says what this leaves open: equal operands are the same, but perhaps for the
sign of zero.

No comparison can tell the signs of zero apart, whatever it is asked of.  So equal selectors may
stand for each other: `Selector.interchangeable_of_beq`.
-/

namespace ComponentQuery

/-! ## Operands -/

/-- The same operand, but perhaps for the sign of zero. -/
inductive Operand.SameButZero : Operand → Operand → Prop where
  | same (v : Operand) : SameButZero v v
  | zero {x y : Binary64} (hx : x.isZero = true) (hy : y.isZero = true) :
      SameButZero (.number x) (.number y)

/-- **Equal operands are the same**, but perhaps for the sign of zero. -/
lemma Operand.sameButZero_of_beq {v w : Operand} (h : (v == w) = true) : v.SameButZero w := by
  cases v with
  | text s =>
    cases w with
    | text t =>
      obtain rfl : s = t := eq_of_beq h
      exact .same _
    | _ => cases h
  | boolean b =>
    cases w with
    | boolean c =>
      obtain rfl : b = c := eq_of_beq h
      exact .same _
    | _ => cases h
  | regex q =>
    cases w with
    | regex r =>
      obtain rfl : q = r := Regex.eq_of_beq h
      exact .same _
    | _ => cases h
  | number x =>
    cases w with
    | number y =>
      obtain ⟨-, rfl | ⟨hx, hy⟩⟩ := Binary64.beq_iff_sameNumber.1 h
      · exact .same _
      · exact .zero hx hy
    | _ => cases h

lemma Binary64.beq_iff_of_isZero {x y : Binary64} (hx : x.isZero = true) :
    (y == x) = true ↔ y.isNaN = false ∧ y.isZero = true := by
  rw [beq_iff_sameNumber, SameNumber]
  refine and_congr_right fun _ => ⟨?_, fun hy => .inr ⟨hy, hx⟩⟩
  rintro (rfl | ⟨hy, -⟩)
  · exact hx
  · exact hy

/-- No value tells the signs of zero apart. -/
lemma Operand.SameButZero.equalsShape_eq {v w : Operand} (h : v.SameButZero w)
    (caseSensitive : Bool) (shape : Shape) :
    v.equalsShape caseSensitive shape = w.equalsShape caseSensitive shape := by
  cases h with
  | same => rfl
  | @zero x y hx hy =>
    cases shape with
    | number z =>
      show (z == x) = (z == y)
      rw [Bool.eq_iff_iff, Binary64.beq_iff_of_isZero hx, Binary64.beq_iff_of_isZero hy]
    | _ => rfl

/-! ## Comparisons and predicates -/

lemma Comparison.holds_eq_of_beq {c d : Comparison} (h : (c == d) = true) (caseSensitive : Bool)
    (shape : Shape) : c.holds caseSensitive shape = d.holds caseSensitive shape := by
  cases c with
  | truthy =>
    cases d with
    | truthy => rfl
    | _ => cases h
  | equals v =>
    cases d with
    | equals w => exact (Operand.sameButZero_of_beq h).equalsShape_eq caseSensitive shape
    | _ => cases h
  | relates q s =>
    cases d with
    | relates r t =>
      have hparts : (q == r && s == t) = true := h
      simp only [Bool.and_eq_true, beq_iff_eq] at hparts
      obtain ⟨rfl, rfl⟩ := hparts
      rfl
    | _ => cases h

namespace Predicate

variable {p q : Predicate}

lemma beq_iff : (p == q) = true ↔
    p.path = q.path ∧ (p.comparison == q.comparison) = true ∧
      p.caseSensitive = q.caseSensitive := by
  show (p.path == q.path && p.comparison == q.comparison &&
    p.caseSensitive == q.caseSensitive) = true ↔ _
  simp only [Bool.and_eq_true, beq_iff_eq, and_assoc]

lemma accepts_eq_of_beq (h : (p == q) = true) (properties : Option Json) :
    p.accepts properties = q.accepts properties := by
  obtain ⟨hpath, hcomparison, hcase⟩ := beq_iff.1 h
  unfold accepts holds
  rw [hpath, hcase]
  exact congrArg (Option.any · _) (funext (Comparison.holds_eq_of_beq hcomparison _))

lemma all_accepts_eq_of_beq {ps qs : List Predicate} (h : (ps == qs) = true)
    (properties : Option Json) :
    ps.all (·.accepts properties) = qs.all (·.accepts properties) := by
  induction ps generalizing qs with
  | nil =>
    cases qs with
    | nil => rfl
    | cons q qs => simp at h
  | cons p ps ih =>
    cases qs with
    | nil => simp at h
    | cons q qs =>
      rw [List.cons_beq_cons, Bool.and_eq_true] at h
      rw [List.all_cons, List.all_cons, accepts_eq_of_beq h.1, ih h.2]

end Predicate

/-! ## Selectors -/

namespace Selector

variable {s t : Selector}

lemma beq_iff : (s == t) = true ↔ s.name = t.name ∧ (s.predicates == t.predicates) = true := by
  show (s.name == t.name && s.predicates == t.predicates) = true ↔ _
  rw [Bool.and_eq_true, beq_iff_eq]

lemma accepts_eq_of_beq (h : (s == t) = true) (name : Option String) (properties : Option Json) :
    s.accepts name properties = t.accepts name properties := by
  obtain ⟨hname, hpredicates⟩ := beq_iff.1 h
  unfold accepts acceptsName
  rw [hname, Predicate.all_accepts_eq_of_beq hpredicates]

/-- **Equal selectors are interchangeable**, whether they are read or built: they accept the same
components, whatever their names and properties are, and select the same elements of all records in
the same order. -/
theorem interchangeable_of_beq (h : (s == t) = true) :
    (∀ name properties, s.accepts name properties = t.accepts name properties) ∧
      ∀ (ε : Type) [DecidableEq ε] (records : List (Record ε)),
        s.select records = t.select records :=
  ⟨accepts_eq_of_beq h,
    fun _ _ _ => select_congr fun r _ => accepts_eq_of_beq h r.name r.properties⟩

/-- Zeros of different sign are equal operands that are not the same. -/
theorem interchangeable_of_beq_zeros :
    let selector (negative : Bool) : Selector :=
      ⟨"a", [⟨["b"], by simp, .equals (.number (.zero negative)), true⟩]⟩
    let records (negative : Bool) : List (Record Nat) :=
      [⟨some "a", some (.object [("b", .number (.double (.zero negative)))]), 1⟩,
        ⟨some "a", none, 2⟩]
    selector true ≠ selector false ∧ (selector true == selector false) = true ∧
      ∀ negative, (selector true).select (records negative) =
        (selector false).select (records negative) := by
  intro selector records
  have hne : Operand.number (.zero true) ≠ .number (.zero false) := by simp [Binary64.zero]
  have hbeq : (selector true == selector false) = true := by decide
  refine ⟨fun h => hne ?_, hbeq, fun negative => (interchangeable_of_beq hbeq).2 Nat _⟩
  have hpredicates := (Selector.mk.inj h).2
  exact Comparison.equals.inj (Predicate.mk.inj (List.cons.inj hpredicates).1).2.1

end Selector

end ComponentQuery
