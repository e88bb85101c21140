import Mathlib.Data.List.Perm.Basic
import ComponentQuery.Proofs.Selector.Composition
import ComponentQuery.Proofs.Selector.Unambiguity

/-!
# Texts cut at their clauses

The text of a selector can be cut into its head, which is what stands before the first bracket, and
pieces, which are its clauses with the blanks behind each (`Cut`).  What a clause stands for does
not depend on the head, nor on the other clauses: reading the pieces is reading each by itself
(`Reading.clauses_flatMap_iff`), and if there are any, the head decides about the name alone
(`Reading.selector_head_iff`).

So clauses may change places, and the blanks between them may be others: the text is still read, and
the predicates change places with the clauses (`Reading.selector_of_perm`).  Every text that is read
can be cut in this way (`Cut.exists_of_derives`).
-/

namespace ComponentQuery

open Grammar

/-! ## Cuts -/

/-- A clause as written, and the blanks behind it. -/
structure Piece where
  clause : List Char
  blanks : List Char
  isClause : ∃ written, DerivesClause clause written []
  areBlank : ∀ c ∈ blanks, isBlank c = true

/-- The characters of a piece. -/
def Piece.chars (piece : Piece) : List Char := piece.clause ++ piece.blanks

/-- What stands before the first bracket of a text, and the pieces from there on. -/
structure Cut where
  head : List Char
  pieces : List Piece
  bracket_notMem : '[' ∉ head

namespace Cut

/-- The text that is cut. -/
def text (cut : Cut) : String := String.ofList (cut.head ++ cut.pieces.flatMap Piece.chars)

/-- The clauses as written. -/
def clauses (cut : Cut) : List (List Char) := cut.pieces.map (·.clause)

end Cut

/-- The predicate that a clause, as written, stands for. -/
def StandsFor (config : Config) (clause : List Char) (p : Predicate) : Prop :=
  ∃ written, DerivesClause clause written [] ∧ written.Denotes config p

namespace Grammar

/-- A clause is the same whatever stands behind it. -/
lemma DerivesClause.before {clause : List Char} {written : Clause}
    (h : DerivesClause clause written []) (rest : List Char) :
    DerivesClause (clause ++ rest) written rest := by
  simpa using (derivesClause_append h rest).2

lemma exists_cons_flatMap_chars (piece : Piece) (pieces : List Piece) :
    ∃ w, (piece :: pieces).flatMap Piece.chars = '[' :: w := by
  obtain ⟨written, hwritten⟩ := piece.isClause
  obtain ⟨start, hstart⟩ := Reading.exists_cons_of_derivesClause hwritten
  exact ⟨_, by rw [List.flatMap_cons, Piece.chars, hstart]; rfl⟩

lemma gap_blanks (piece : Piece) (pieces : List Piece) :
    Gap (piece.blanks ++ pieces.flatMap Piece.chars) (pieces.flatMap Piece.chars) := by
  refine gap_append piece.areBlank ?_
  cases pieces with
  | nil => simp
  | cons next pieces =>
    obtain ⟨w, hw⟩ := exists_cons_flatMap_chars next pieces
    simpa [hw] using (by decide : isBlank '[' = false)

end Grammar

namespace Reading

variable {config : Config} {cs : List Char} {s : Selector}

/-! ## Reading the pieces -/

lemma clauses_of_derivesClause {written : Clause} {left : List Char} {ps : List Predicate}
    (h : DerivesClause cs written left) (hread : clauses config cs = .ok (ps, [])) :
    ∃ p ps', ps = p :: ps' ∧ written.Denotes config p ∧ clauses config left = .ok (ps', []) := by
  obtain ⟨start, rfl⟩ := exists_cons_of_derivesClause h
  obtain ⟨p, ps, rfl⟩ := List.exists_cons_of_ne_nil (ne_nil_of_clauses_bracket hread)
  obtain ⟨start', left', hopen, hc, hrest⟩ := clauses_cons_iff.1 hread
  rw [skipBlanks_cons (by decide)] at hopen
  obtain rfl := (List.cons.inj hopen).2
  obtain ⟨written', hd, hdenotes⟩ := clause_eq_ok_iff.1 hc
  obtain ⟨rfl, rfl⟩ := h.unique hd
  exact ⟨p, ps, rfl, hdenotes, hrest⟩

/-- **Pieces are read one by one**, each as the predicate that its clause stands for. -/
lemma clauses_flatMap_iff {pieces : List Piece} {ps : List Predicate} :
    clauses config (pieces.flatMap Piece.chars) = .ok (ps, []) ↔
      List.Forall₂ (StandsFor config) (pieces.map (·.clause)) ps := by
  induction pieces generalizing ps with
  | nil =>
    rw [List.map_nil, List.forall₂_nil_left_iff]
    constructor
    · intro h
      have hnil : clauses config [] = .ok ([], []) := clauses_nil_iff.2 rfl
      exact (Prod.mk.inj (Except.ok.inj (h.symm.trans hnil))).1
    · rintro rfl
      exact clauses_nil_iff.2 rfl
  | cons piece pieces ih =>
    obtain ⟨written, hwritten⟩ := piece.isClause
    have hclause := hwritten.before (piece.blanks ++ pieces.flatMap Piece.chars)
    -- The blanks behind a piece are read as those before the next one.
    have hgap : clauses config _ = clauses config _ := clauses_of_gap (gap_blanks piece pieces)
    rw [List.flatMap_cons, Piece.chars, List.append_assoc, List.map_cons,
      List.forall₂_cons_left_iff]
    constructor
    · intro h
      obtain ⟨p, ps, rfl, hp, hrest⟩ := clauses_of_derivesClause hclause h
      exact ⟨p, ps, ⟨written, hwritten, hp⟩, ih.1 (hgap ▸ hrest), rfl⟩
    · rintro ⟨p, ps, ⟨written', hwritten', hp⟩, hps, rfl⟩
      have hclause' := hwritten'.before (piece.blanks ++ pieces.flatMap Piece.chars)
      obtain ⟨start, hstart⟩ := exists_cons_of_derivesClause hclause'
      rw [hstart] at hclause' ⊢
      have hread := clause_eq_ok_iff.2 ⟨written', hclause', hp⟩
      calc clauses config ('[' :: start)
        _ = withLeading [p] (clauses config (piece.blanks ++ pieces.flatMap Piece.chars)) :=
          clauses_of_clause (skipBlanks_cons (by decide) start) hread
        _ = withLeading [p] (.ok (ps, [])) := by rw [hgap, ih.2 hps]

/-! ## Reading the head -/

/-- The name that a head gives to a selector with clauses. -/
def HeadNames (head : List Char) (name : String) : Prop :=
  ∃ left, run isNameChar (skipBlanks head) = (name.toList, left) ∧ skipBlanks left = []

/-- **The head decides about the name alone.** -/
lemma selector_head_iff {head : List Char} (hhead : '[' ∉ head) (w : List Char) :
    selector config (head ++ '[' :: w) = .ok s ↔
      HeadNames head s.name ∧ clauses config ('[' :: w) = .ok (s.predicates, []) := by
  obtain ⟨name, left, hcs, hrun, hname⟩ := exists_run isNameChar (skipBlanks head)
  -- The bracket stops the name, and so nothing behind it matters for what the head leaves.
  have hname' : run isNameChar (skipBlanks (head ++ '[' :: w)) = (name, left ++ '[' :: w) := by
    rw [skipBlanks_eq_iff.2 (gap_append_cons (gap_skipBlanks head) (by decide) w), hcs,
      List.append_assoc]
    exact run_append_eq (isRun_append_cons hrun (by decide) w)
  have hgap := gap_append_cons (gap_skipBlanks left) (by decide : isBlank '[' = false) w
  rw [selector_iff, hname', HeadNames, hname]
  constructor
  · rintro ⟨_, hleft, hread, -⟩
    obtain ⟨rfl, rfl⟩ := Prod.mk.inj hleft
    rw [clauses_of_gap hgap] at hread
    cases hskip : skipBlanks left with
    | nil =>
      rw [hskip] at hread
      exact ⟨⟨left, rfl, hskip⟩, hread⟩
    | cons c rest =>
      have hmem : c ∈ head := by
        have hsuffix : skipBlanks left <:+ head :=
          ((skipBlanks_isSuffix left).trans (hcs ▸ List.suffix_append _ left)).trans
            (skipBlanks_isSuffix head)
        exact hsuffix.subset (hskip ▸ List.mem_cons_self)
      have hne : c ≠ '[' := by
        rintro rfl
        exact hhead hmem
      rw [hskip] at hread hgap
      have hself := gap_self hgap.head_not_blank
      rw [clauses_of_no_bracket hself (by simpa using hne)] at hread
      simp at hread
  · rintro ⟨⟨_, hleft, hskip⟩, hread⟩
    obtain ⟨rfl, rfl⟩ := Prod.mk.inj hleft
    rw [hskip] at hgap
    refine ⟨_, rfl, (clauses_of_gap hgap).trans hread, fun h => ?_⟩
    exact ne_nil_of_clauses_bracket hread h.2

/-- **A text with clauses is read** if its head has a name and each clause stands for a
predicate. -/
lemma selector_cut_iff {cut : Cut} (hne : cut.pieces ≠ []) :
    selector config cut.text.toList = .ok s ↔
      HeadNames cut.head s.name ∧ List.Forall₂ (StandsFor config) cut.clauses s.predicates := by
  obtain ⟨piece, pieces, hpieces⟩ := List.exists_cons_of_ne_nil hne
  obtain ⟨w, hw⟩ := exists_cons_flatMap_chars piece pieces
  have htext : cut.text.toList = cut.head ++ '[' :: w := by
    rw [Cut.text, String.toList_ofList, hpieces, hw]
  calc selector config cut.text.toList = .ok s
    _ ↔ HeadNames cut.head s.name ∧ clauses config ('[' :: w) = .ok (s.predicates, []) := by
      rw [htext, selector_head_iff cut.bracket_notMem]
    _ ↔ HeadNames cut.head s.name ∧ List.Forall₂ (StandsFor config) cut.clauses s.predicates := by
      rw [← hw, clauses_flatMap_iff, Cut.clauses, hpieces]

/-- **Clauses may change places**, and the blanks between them may be others: the text is read, and
the predicates have changed places. -/
theorem selector_of_perm {cut cut' : Cut} (hhead : cut'.head = cut.head)
    (hperm : cut'.clauses.Perm cut.clauses) (h : selector config cut.text.toList = .ok s) :
    ∃ ps, selector config cut'.text.toList = .ok ⟨s.name, ps⟩ ∧ ps.Perm s.predicates := by
  have hlength := hperm.length_eq
  simp only [Cut.clauses, List.length_map] at hlength
  by_cases hne : cut.pieces = []
  · have hne' : cut'.pieces = [] := by simpa [hne] using hlength
    have htext : cut'.text = cut.text := by rw [Cut.text, Cut.text, hhead, hne, hne']
    exact ⟨s.predicates, htext ▸ h, .refl _⟩
  · have hne' : cut'.pieces ≠ [] := fun h => hne (by simpa [h] using hlength.symm)
    obtain ⟨hname, hps⟩ := (selector_cut_iff hne).1 h
    obtain ⟨ps, hps', hpsPerm⟩ := List.perm_comp_forall₂ hperm hps
    exact ⟨ps, (selector_cut_iff hne').2 ⟨hhead ▸ hname, hps'⟩, hpsPerm⟩

end Reading

/-! ## Texts that are read -/

namespace Cut

/-- Clauses with gaps behind them are pieces. -/
lemma exists_pieces_of_derivesClauses {cs : List Char} {written : List Clause}
    (h : DerivesClauses cs written) : ∃ pieces : List Piece, cs = pieces.flatMap Piece.chars := by
  induction h with
  | nil => exact ⟨[], rfl⟩
  | cons h₁ h₂ _ ih =>
    obtain ⟨pieces, rfl⟩ := ih
    obtain ⟨clause, -, rfl, hclause⟩ := closed_clause _ _ _ h₁
    cases h₂ with | @intro blanks _ hrun =>
    have hwritten := hclause []
    rw [List.append_nil] at hwritten
    exact ⟨⟨clause, blanks, ⟨_, hwritten⟩, hrun.all⟩ :: pieces, by simp [Piece.chars]⟩

/-- **Every text that the grammar derives can be cut.** -/
lemma exists_of_derives {text : String} {tree : Tree} (h : Derives text.toList tree) :
    ∃ cut : Cut, cut.text = text := by
  generalize hcs : text.toList = cs at h
  cases h with | @intro _ cs₃ name _ hgap hname hgap' hclauses =>
  cases hgap with | @intro blanks _ hblanks =>
  cases hgap' with | @intro blanks' _ hblanks' =>
  obtain ⟨pieces, rfl⟩ := exists_pieces_of_derivesClauses hclauses
  have hbracket : '[' ∉ blanks ++ (name ++ blanks') := by
    have hblank : isBlank '[' = false := by decide
    have hnameChar : Reading.isNameChar '[' = false := by decide
    simp only [List.mem_append, not_or]
    refine ⟨fun hmem => ?_, fun hmem => ?_, fun hmem => ?_⟩
    · exact Bool.false_ne_true (hblank.symm.trans (hblanks.all _ hmem))
    · exact Bool.false_ne_true (hnameChar.symm.trans (hname.all _ hmem))
    · exact Bool.false_ne_true (hblank.symm.trans (hblanks'.all _ hmem))
  refine ⟨⟨blanks ++ (name ++ blanks'), pieces, hbracket⟩, ?_⟩
  rw [← String.toList_inj, hcs]
  simp [Cut.text]

end Cut

end ComponentQuery
