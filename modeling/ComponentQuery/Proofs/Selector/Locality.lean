import Mathlib.Logic.Relation
import ComponentQuery.Proofs.Selector.Grammar

/-!
# Pieces and what follows them

The grammar derives a piece from the text before what follows, and so what follows might have a part
in what the piece is.  But it has so by its first character only (`Local`), which must not continue
the piece; and what ends in a mark or a bracket of its own does not depend on it at all
(`Closed`).  Both are kept if one piece follows another (`Local.comp`, `Local.comp_closed`), which
is how the rules of the grammar are made.

Hence the text behind a piece may be replaced by another one with the same first character
(`Local.congr`), and more text may be added at its end (`Local.append`, `Closed.append`).
-/

namespace ComponentQuery.Grammar

open Relation (Comp)

/-! ## Local and closed pieces -/

/-- Pieces of a kind depend on what follows by its first character only. -/
def Local (D : List Char → List Char → Prop) : Prop :=
  ∀ cs rest, D cs rest →
    ∃ piece, cs = piece ++ rest ∧ ∀ w : List Char, w.head? = rest.head? → D (piece ++ w) w

/-- Pieces of a kind do not depend on what follows. -/
def Closed (D : List Char → List Char → Prop) : Prop :=
  ∀ cs rest, D cs rest → ∃ piece ≠ [], cs = piece ++ rest ∧ ∀ w : List Char, D (piece ++ w) w

section

variable {D E : List Char → List Char → Prop} {before cs rest w : List Char}

/-- What follows a local piece may be replaced. -/
lemma Local.congr (hD : Local D) (h : D (before ++ rest) rest) (hw : w.head? = rest.head?) :
    D (before ++ w) w := by
  obtain ⟨piece, heq, hpiece⟩ := hD _ rest h
  rw [List.append_cancel_right heq]
  exact hpiece w hw

lemma Local.append (hD : Local D) (h : D cs rest) (hne : rest ≠ []) (w : List Char) :
    cs ≠ [] ∧ D (cs ++ w) (rest ++ w) := by
  obtain ⟨piece, rfl, hpiece⟩ := hD cs rest h
  rw [List.append_assoc]
  exact ⟨List.append_ne_nil_of_right_ne_nil _ hne, hpiece _ (List.head?_append_of_ne_nil _ hne)⟩

lemma Closed.append (hD : Closed D) (h : D cs rest) (w : List Char) :
    cs ≠ [] ∧ D (cs ++ w) (rest ++ w) := by
  obtain ⟨piece, hne, rfl, hpiece⟩ := hD cs rest h
  rw [List.append_assoc]
  exact ⟨List.append_ne_nil_of_left_ne_nil hne _, hpiece _⟩

lemma Closed.local (hD : Closed D) : Local D := by
  intro cs rest h
  obtain ⟨piece, -, hcs, hpiece⟩ := hD cs rest h
  exact ⟨piece, hcs, fun w _ => hpiece w⟩

/-- Local pieces one after the other are local. -/
lemma Local.comp (hD : Local D) (hE : Local E) : Local (Comp D E) := by
  rintro cs rest ⟨mid, h, h'⟩
  obtain ⟨second, rfl, hsecond⟩ := hE mid rest h'
  obtain ⟨first, rfl, hfirst⟩ := hD _ _ h
  refine ⟨first ++ second, (List.append_assoc ..).symm, fun w hw => ?_⟩
  have hhead : (second ++ w).head? = (second ++ rest).head? := by
    rw [List.head?_append, List.head?_append, hw]
  rw [List.append_assoc]
  exact ⟨_, hfirst _ hhead, hsecond w hw⟩

/-- A local piece before a closed one is closed together with it. -/
lemma Local.comp_closed (hD : Local D) (hE : Closed E) : Closed (Comp D E) := by
  rintro cs rest ⟨mid, h, h'⟩
  obtain ⟨second, hne, rfl, hsecond⟩ := hE mid rest h'
  obtain ⟨first, rfl, hfirst⟩ := hD _ _ h
  refine ⟨first ++ second, by simp [hne], (List.append_assoc ..).symm, fun w => ?_⟩
  have hhead : (second ++ w).head? = (second ++ rest).head? := by
    rw [List.head?_append_of_ne_nil _ hne, List.head?_append_of_ne_nil _ hne]
  rw [List.append_assoc]
  exact ⟨_, hfirst _ hhead, hsecond w⟩

lemma Local.of_iff (hD : Local D) (h : ∀ cs rest, E cs rest ↔ D cs rest) : Local E := by
  obtain rfl : E = D := funext₂ fun cs rest => propext (h cs rest)
  exact hD

lemma Closed.of_iff (hD : Closed D) (h : ∀ cs rest, E cs rest ↔ D cs rest) : Closed E := by
  obtain rfl : E = D := funext₂ fun cs rest => propext (h cs rest)
  exact hD

end

/-! ## Runs, gaps and single characters -/

lemma isRun_congr {p : Char → Bool} {run rest w : List Char} (h : IsRun p run rest)
    (hw : w.head? = rest.head?) : IsRun p run w :=
  ⟨h.all, hw ▸ h.maximal⟩

lemma local_run (p : Char → Bool) (run : List Char) :
    Local fun cs rest => cs = run ++ rest ∧ IsRun p run rest := by
  rintro _ rest ⟨rfl, h⟩
  exact ⟨run, rfl, fun w hw => ⟨rfl, isRun_congr h hw⟩⟩

lemma local_gap : Local Gap := by
  rintro _ _ ⟨hrun⟩
  exact ⟨_, rfl, fun w hw => .intro (isRun_congr hrun hw)⟩

lemma closed_char (c : Char) : Closed fun cs rest => cs = c :: rest := by
  rintro _ rest rfl
  exact ⟨[c], List.cons_ne_nil _ _, rfl, fun _ => rfl⟩

/-! ## The pieces of the grammar -/

lemma local_part (part : Part) : Local (DerivesPart · part ·) := by
  intro cs rest h
  cases h with
  | bare hne hrun => exact ⟨_, rfl, fun w hw => .bare hne (isRun_congr hrun hw)⟩
  | @quoted mark body _ _ hm hs hne =>
    refine ⟨mark :: (body ++ [mark]), by simp, fun w _ => ?_⟩
    rw [List.cons_append, List.append_assoc, List.singleton_append]
    exact .quoted hm hs hne

lemma local_more (more : List Part) : Local (DerivesMore · more ·) := by
  induction more with
  | nil =>
    refine local_gap.of_iff fun cs rest => ⟨?_, .nil⟩
    rintro ⟨hg⟩
    exact hg
  | cons part more ih =>
    refine (local_gap.comp ((closed_char '.').local.comp
      (local_gap.comp ((local_part part).comp ih)))).of_iff fun cs rest => ⟨?_, ?_⟩
    · intro h
      cases h with
      | cons h₁ h₂ h₃ h₄ => exact ⟨_, h₁, _, rfl, _, h₂, _, h₃, h₄⟩
    · rintro ⟨_, h₁, _, rfl, _, h₂, _, h₃, h₄⟩
      exact .cons h₁ h₂ h₃ h₄

lemma closed_operator (op : Operator) : Closed (DerivesOperator · op ·) := by
  intro cs rest h
  cases h with
  | equals => exact ⟨['='], List.cons_ne_nil _ _, rfl, fun w => .equals w⟩
  | relates r => exact ⟨[r.sign, '='], List.cons_ne_nil _ _, rfl, fun w => .relates r w⟩

lemma local_literal (l : Literal) : Local (DerivesLiteral · l ·) := by
  intro cs rest h
  cases h with
  | @quoted mark body _ _ hm hs =>
    refine ⟨mark :: (body ++ [mark]), by simp, fun w _ => ?_⟩
    rw [List.cons_append, List.append_assoc, List.singleton_append]
    exact .quoted hm hs
  | @lettered mark letter body _ _ _ _ hm hs hg hl =>
    obtain ⟨blanks, rfl, hblanks⟩ := local_gap _ _ hg
    refine ⟨mark :: (body ++ mark :: (blanks ++ [letter])), by simp, fun w _ => ?_⟩
    simpa using DerivesLiteral.lettered hm hs (hblanks (letter :: w) rfl) hl
  | @regex source flags _ hs hf =>
    refine ⟨'/' :: (source ++ '/' :: flags), by simp, fun w hw => ?_⟩
    simpa using DerivesLiteral.regex hs (isRun_congr hf hw)
  | token hrun => exact ⟨_, rfl, fun w hw => .token (isRun_congr hrun hw)⟩

lemma closed_comparison (comparison : Option (Operator × Literal)) :
    Closed (DerivesComparison · comparison ·) := by
  cases comparison with
  | none =>
    refine (closed_char ']').of_iff fun cs rest => ⟨?_, ?_⟩
    · rintro ⟨⟩
      rfl
    · rintro rfl
      exact .absent rest
  | some written =>
    obtain ⟨op, l⟩ := written
    refine ((closed_operator op).local.comp_closed (local_gap.comp_closed
      ((local_literal l).comp_closed (local_gap.comp_closed (closed_char ']'))))).of_iff
        fun cs rest => ⟨?_, ?_⟩
    · intro h
      cases h with
      | present h₁ h₂ h₃ h₄ => exact ⟨_, h₁, _, h₂, _, h₃, _, h₄, rfl⟩
    · rintro ⟨_, h₁, _, h₂, _, h₃, _, h₄, rfl⟩
      exact .present h₁ h₂ h₃ h₄

lemma closed_clause (clause : Clause) : Closed (DerivesClause · clause ·) := by
  obtain ⟨first, more, comparison⟩ := clause
  refine ((closed_char '[').local.comp_closed (local_gap.comp_closed
    ((local_part first).comp_closed ((local_more more).comp_closed
      (closed_comparison comparison))))).of_iff fun cs rest => ⟨?_, ?_⟩
  · rintro ⟨h₁, h₂, h₃, h₄⟩
    exact ⟨_, rfl, _, h₁, _, h₂, _, h₃, h₄⟩
  · rintro ⟨_, rfl, _, h₁, _, h₂, _, h₃, h₄⟩
    exact .intro h₁ h₂ h₃ h₄

end ComponentQuery.Grammar
