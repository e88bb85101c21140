import Mathlib.Data.List.Basic
import ComponentQuery.Query.Engine

/-!
# Selections

A selector selects the elements of the records that it accepts, each once, at the place of the first
of them.  What one more record in front does to a selection is said by `select_cons_of_accepts` and
`select_cons_of_rejects`: one that is rejected does nothing, and one that is accepted puts its
element first and takes it out of the rest.  All else follows by induction on the records.

The main result is `Selector.select_at_first_accepted`.
-/

namespace ComponentQuery

/-- Duplicates go, whether before or after other elements. -/
lemma eraseDups_filter {α : Type} [BEq α] [LawfulBEq α] (p : α → Bool) (as : List α) :
    (as.filter p).eraseDups = as.eraseDups.filter p := by
  match as with
  | [] => rfl
  | a :: as =>
    have hlength := List.length_filter_le (fun b => !b == a) as
    have ih := eraseDups_filter p (as.filter fun b => !b == a)
    by_cases ha : p a = true
    · calc ((a :: as).filter p).eraseDups
          = a :: ((as.filter p).filter fun b => !b == a).eraseDups := by
            rw [List.filter_cons_of_pos ha, List.eraseDups_cons]
        _ = a :: ((as.filter fun b => !b == a).filter p).eraseDups := by rw [List.filter_comm]
        _ = a :: (as.filter fun b => !b == a).eraseDups.filter p := by rw [ih]
        _ = (a :: as).eraseDups.filter p := by
            rw [List.eraseDups_cons, List.filter_cons_of_pos ha]
    · -- nothing equal to `a` is left in, so that it makes no difference to take it out first
      have hfilter : (as.filter fun b => !b == a).filter p = as.filter p := by
        rw [List.filter_filter]
        refine List.filter_congr fun b _ => ?_
        by_cases hb : b = a
        · simp [hb, ha]
        · simp [hb]
      calc ((a :: as).filter p).eraseDups
          = ((as.filter fun b => !b == a).filter p).eraseDups := by
            rw [List.filter_cons_of_neg ha, hfilter]
        _ = (as.filter fun b => !b == a).eraseDups.filter p := ih
        _ = (a :: as).eraseDups.filter p := by
            rw [List.eraseDups_cons, List.filter_cons_of_neg ha]
termination_by as.length

namespace Selector

variable {ε : Type} {s : Selector} {r : Record ε} {rs rs' : List (Record ε)}

/-! ## What is accepted -/

/-- A selector accepts a record if its name is empty or that of the record, and all its predicates
hold of the properties of the record. -/
lemma acceptsRecord_iff :
    s.acceptsRecord r = true ↔
      (s.name = "" ∨ r.name = some s.name) ∧ ∀ p ∈ s.predicates, p.accepts r.properties = true := by
  simp [acceptsRecord, accepts, acceptsName]

/-- Some records are others of which some that are rejected have been deleted. -/
inductive DeletesRejected (s : Selector) : List (Record ε) → List (Record ε) → Prop where
  | nil : DeletesRejected s [] []
  | keep (r : Record ε) {rs rs' : List (Record ε)} (h : DeletesRejected s rs rs') :
      DeletesRejected s (r :: rs) (r :: rs')
  | delete {r : Record ε} {rs rs' : List (Record ε)} (hr : s.acceptsRecord r = false)
      (h : DeletesRejected s rs rs') : DeletesRejected s (r :: rs) rs'

variable [DecidableEq ε]

/-- The place of the first record that is accepted and shows an element. -/
def firstAccepted (s : Selector) (rs : List (Record ε)) (e : ε) : Nat :=
  rs.findIdx fun r => s.acceptsRecord r && r.element == e

/-! ## One more record -/

lemma select_cons_of_rejects (h : s.acceptsRecord r = false) :
    s.select (r :: rs) = s.select rs := by
  simp [select, h]

lemma select_cons_of_accepts (h : s.acceptsRecord r = true) :
    s.select (r :: rs) = r.element :: (s.select rs).filter fun e => !e == r.element := by
  simp only [select, List.filter_cons_of_pos h, List.map_cons, List.eraseDups_cons,
    eraseDups_filter]

lemma firstAccepted_cons_of_rejects (h : s.acceptsRecord r = false) (e : ε) :
    s.firstAccepted (r :: rs) e = s.firstAccepted rs e + 1 := by
  simp [firstAccepted, List.findIdx_cons, h]

lemma firstAccepted_cons_self (h : s.acceptsRecord r = true) :
    s.firstAccepted (r :: rs) r.element = 0 := by
  simp [firstAccepted, List.findIdx_cons, h]

lemma firstAccepted_cons_of_ne {e : ε} (h : e ≠ r.element) :
    s.firstAccepted (r :: rs) e = s.firstAccepted rs e + 1 := by
  have hne : (r.element == e) = false := beq_false_of_ne h.symm
  simp [firstAccepted, List.findIdx_cons, hne]

/-! ## Selections as a whole -/

lemma mem_select {e : ε} :
    e ∈ s.select rs ↔ ∃ r ∈ rs, r.element = e ∧ s.acceptsRecord r = true := by
  simp only [select, List.mem_eraseDups, List.mem_map, List.mem_filter]
  exact exists_congr fun r => by rw [and_assoc, and_comm (a := r.element = e)]

lemma select_subset_of_forall {t : Selector}
    (h : ∀ r ∈ rs, s.acceptsRecord r = true → t.acceptsRecord r = true) :
    s.select rs ⊆ t.select rs := by
  intro e he
  obtain ⟨r, hr, helement, haccepts⟩ := mem_select.1 he
  exact mem_select.2 ⟨r, hr, helement, h r hr haccepts⟩

lemma select_congr {t : Selector} (h : ∀ r ∈ rs, s.acceptsRecord r = t.acceptsRecord r) :
    s.select rs = t.select rs := by
  unfold select
  rw [List.filter_congr h]

/-- **Elements are selected in the order of their first accepted records.** -/
lemma pairwise_select (s : Selector) (rs : List (Record ε)) :
    (s.select rs).Pairwise fun e f => s.firstAccepted rs e < s.firstAccepted rs f := by
  induction rs with
  | nil => exact .nil
  | cons r rs ih =>
    by_cases hr : s.acceptsRecord r = true
    · rw [select_cons_of_accepts hr, List.pairwise_cons]
      have hne : ∀ e ∈ (s.select rs).filter fun e => !e == r.element, e ≠ r.element := by
        intro e he
        simpa using (List.mem_filter.1 he).2
      constructor
      · intro e he
        rw [firstAccepted_cons_self hr, firstAccepted_cons_of_ne (hne e he)]
        exact Nat.succ_pos _
      · refine (ih.filter _).imp_of_mem fun he hf hlt => ?_
        rw [firstAccepted_cons_of_ne (hne _ he), firstAccepted_cons_of_ne (hne _ hf)]
        exact Nat.succ_lt_succ hlt
    · have hr : s.acceptsRecord r = false := eq_false_of_ne_true hr
      rw [select_cons_of_rejects hr]
      refine ih.imp fun hlt => ?_
      rw [firstAccepted_cons_of_rejects hr, firstAccepted_cons_of_rejects hr]
      exact Nat.succ_lt_succ hlt

lemma nodup_select (s : Selector) (rs : List (Record ε)) : (s.select rs).Nodup := by
  refine (pairwise_select s rs).imp ?_
  rintro e f hlt rfl
  exact Nat.lt_irrefl _ hlt

/-- Of more records the elements that have not been selected yet are selected after the others. -/
lemma select_append (s : Selector) (rs rs' : List (Record ε)) :
    s.select (rs ++ rs') =
      s.select rs ++ (s.select rs').filter fun e => !(s.select rs).contains e := by
  have hcontains : ∀ e, (s.select rs).contains e =
      ((rs.filter s.acceptsRecord).map (·.element)).contains e := by
    intro e
    rw [Bool.eq_iff_iff, List.contains_iff_mem, List.contains_iff_mem, select,
      List.mem_eraseDups]
  let elements (rs : List (Record ε)) := (rs.filter s.acceptsRecord).map (·.element)
  calc s.select (rs ++ rs')
      = (elements rs ++ elements rs').eraseDups := by
        rw [select, List.filter_append, List.map_append]
    _ = s.select rs ++ ((elements rs').filter fun e => !(elements rs).contains e).eraseDups := by
        rw [List.eraseDups_append]
        rfl
    _ = s.select rs ++ (s.select rs').filter fun e => !(elements rs).contains e := by
        rw [eraseDups_filter]
        rfl
    _ = s.select rs ++ (s.select rs').filter fun e => !(s.select rs).contains e := by
        simp only [hcontains, elements]

/-- Records that are rejected may be deleted. -/
lemma DeletesRejected.select_eq (h : DeletesRejected s rs rs') : s.select rs' = s.select rs := by
  induction h with
  | nil => rfl
  | @keep r rs rs' _ ih =>
    by_cases hr : s.acceptsRecord r = true
    · rw [select_cons_of_accepts hr, select_cons_of_accepts hr, ih]
    · have hr : s.acceptsRecord r = false := eq_false_of_ne_true hr
      rw [select_cons_of_rejects hr, select_cons_of_rejects hr, ih]
  | delete hr _ ih => rw [ih, select_cons_of_rejects hr]

/-- **Every element is selected once, at its first accepted record.**  The elements that are
selected are those with a record that is accepted, in the order of the first such records; records
of an element that are rejected do not count.  So what more records add comes after the rest, and
records that are rejected may be deleted. -/
theorem select_at_first_accepted (s : Selector) (rs : List (Record ε)) :
    (s.select rs).Nodup ∧
      (∀ e, e ∈ s.select rs ↔ ∃ r ∈ rs, r.element = e ∧
        (s.name = "" ∨ r.name = some s.name) ∧
          ∀ p ∈ s.predicates, p.accepts r.properties = true) ∧
      (s.select rs).Pairwise (fun e f => s.firstAccepted rs e < s.firstAccepted rs f) ∧
      (∀ rs', s.select (rs ++ rs') =
        s.select rs ++ (s.select rs').filter fun e => !(s.select rs).contains e) ∧
      ∀ rs', DeletesRejected s rs rs' → s.select rs' = s.select rs := by
  refine ⟨nodup_select s rs, fun e => ?_, pairwise_select s rs, select_append s rs,
    fun rs' h => h.select_eq⟩
  simp only [mem_select, acceptsRecord_iff]

/-- A record that is rejected gives its element no place. -/
example :
    let s : Selector := ⟨"a", []⟩
    s.select [⟨some "b", none, 1⟩, ⟨some "a", none, 2⟩, ⟨some "a", none, 1⟩] = [2, 1] := by
  decide

end Selector

end ComponentQuery
