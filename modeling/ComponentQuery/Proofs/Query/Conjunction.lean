import ComponentQuery.Proofs.Query.Accounting
import ComponentQuery.Proofs.Selector.Cuts

/-!
# Predicates as a conjunction

A selector asks for all of its predicates, and so only which predicates it has can matter, not their
order nor how often they are there; and with more of them it accepts less.  What holds of records
holds of selections with some care: an element that is selected by fewer predicates may have its
first accepted record earlier, so that the selection by more of them is a part of the other one, but
need not be in the same order.

Of texts the same is said by their cuts: clauses may change places.  The main result is
`Engine.filter_conjunction`.
-/

namespace ComponentQuery

namespace Selector

variable {ε : Type} {name : String} {A B : List Predicate} {r : Record ε}

/-! ## Records -/

/-- More predicates accept less. -/
lemma acceptsRecord_of_subset (h : A ⊆ B) (hr : acceptsRecord ⟨name, B⟩ r = true) :
    acceptsRecord ⟨name, A⟩ r = true := by
  rw [acceptsRecord_iff] at hr ⊢
  exact ⟨hr.1, fun p hp => hr.2 p (h hp)⟩

/-- Only which predicates there are matters. -/
lemma acceptsRecord_eq_of_mem_iff (h : ∀ p, p ∈ A ↔ p ∈ B) :
    acceptsRecord ⟨name, A⟩ r = acceptsRecord ⟨name, B⟩ r := by
  rw [Bool.eq_iff_iff]
  exact ⟨acceptsRecord_of_subset fun p hp => (h p).2 hp,
    acceptsRecord_of_subset fun p hp => (h p).1 hp⟩

lemma acceptsRecord_append_iff :
    acceptsRecord ⟨name, A ++ B⟩ r = true ↔
      acceptsRecord ⟨name, A⟩ r = true ∧ acceptsRecord ⟨name, B⟩ r = true := by
  simp only [acceptsRecord_iff, List.forall_mem_append]
  exact and_and_left

lemma acceptsRecord_nameless (h : acceptsRecord ⟨name, A⟩ r = true) :
    acceptsRecord ⟨"", A⟩ r = true := by
  rw [acceptsRecord_iff] at h ⊢
  exact ⟨.inl rfl, h.2⟩

/-! ## Selections -/

variable [DecidableEq ε] {records : List (Record ε)}

lemma select_eq_of_mem_iff (h : ∀ p, p ∈ A ↔ p ∈ B) :
    select ⟨name, A⟩ records = select ⟨name, B⟩ records :=
  select_congr fun _ _ => acceptsRecord_eq_of_mem_iff h

end Selector

namespace Engine

open Selector (acceptsRecord)

variable {ε : Type} [DecidableEq ε]

/-- Texts whose clauses have changed places have the same answer. -/
lemma filter_of_perm {engine : Engine} {cut cut' : Cut} {s : Selector}
    (hhead : cut'.head = cut.head) (hperm : cut'.clauses.Perm cut.clauses)
    (h : Selector.parse engine.config cut.text = .ok s) (records : List (Record ε)) :
    (engine.filter cut'.text records).value = (engine.filter cut.text records).value := by
  obtain ⟨ps, hread, hps⟩ := Reading.selector_of_perm hhead hperm (Selector.parse_eq_ok_iff.1 h)
  have h' := Selector.parse_eq_ok_iff.2 hread
  calc (engine.filter cut'.text records).value
    _ = .ok (Selector.select ⟨s.name, ps⟩ records) := by rw [filter_of_ok h']
    _ = .ok (s.select records) :=
      congrArg Except.ok (Selector.select_eq_of_mem_iff fun _ => hps.mem_iff)
    _ = (engine.filter cut.text records).value := by rw [filter_of_ok h]

/-- **Predicates are a conjunction.**  Selectors of one name that have the same predicates, in
whatever order and however often, select the same elements in the same order.  A record is accepted
by the predicates of two lists if it is accepted by those of both, so that more predicates select no
other elements, and neither does a name where there was none.  And every text that is read can be
cut at its clauses: if these change places, and the blanks between them are others, a query for it
has the same answer. -/
theorem filter_conjunction (engine : Engine) (name : String) (A B : List Predicate)
    (records : List (Record ε)) :
    ((∀ p, p ∈ A ↔ p ∈ B) →
        Selector.select ⟨name, A⟩ records = Selector.select ⟨name, B⟩ records) ∧
      (∀ r : Record ε, acceptsRecord ⟨name, A ++ B⟩ r = true ↔
        acceptsRecord ⟨name, A⟩ r = true ∧ acceptsRecord ⟨name, B⟩ r = true) ∧
      Selector.select ⟨name, A ++ B⟩ records ⊆ Selector.select ⟨name, A⟩ records ∧
      (∀ r : Record ε, acceptsRecord ⟨name, A⟩ r = true → acceptsRecord ⟨"", A⟩ r = true) ∧
      Selector.select ⟨name, A⟩ records ⊆ Selector.select ⟨"", A⟩ records ∧
      ∀ text s, Selector.parse engine.config text = .ok s →
        (∃ cut : Cut, cut.text = text) ∧
          ∀ cut cut' : Cut, cut.text = text → cut'.head = cut.head →
            cut'.clauses.Perm cut.clauses →
              (engine.filter text records).value = .ok (s.select records) ∧
                (engine.filter cut'.text records).value =
                  (engine.filter text records).value := by
  refine ⟨Selector.select_eq_of_mem_iff, fun r => Selector.acceptsRecord_append_iff,
    Selector.select_subset_of_forall fun r _ hr => (Selector.acceptsRecord_append_iff.1 hr).1,
    fun r => Selector.acceptsRecord_nameless,
    Selector.select_subset_of_forall fun r _ => Selector.acceptsRecord_nameless,
    fun text s h => ⟨?_, ?_⟩⟩
  · obtain ⟨tree, hd, -⟩ := Reading.selector_eq_ok_iff.1 (Selector.parse_eq_ok_iff.1 h)
    exact Cut.exists_of_derives hd
  · rintro cut cut' rfl hhead hperm
    exact ⟨by rw [filter_of_ok h], filter_of_perm hhead hperm h records⟩

/-- Two clauses that change places, with a blank between them, and the predicates of the first
selector in the order of the second, one of them twice. -/
theorem filter_conjunction_swap :
    let p : Predicate := ⟨["b"], by simp, .truthy, true⟩
    let q : Predicate := ⟨["c"], by simp, .equals (.text "d"), true⟩
    let records : List (Record Nat) :=
      [⟨some "a", some (.object [("b", .boolean true), ("c", .string "d")]), 1⟩,
        ⟨some "a", some (.object [("b", .boolean true)]), 2⟩]
    (∀ o, o ∈ [p, q] ↔ o ∈ [q, p, q]) ∧
      Selector.select ⟨"a", [p, q]⟩ records = Selector.select ⟨"a", [q, p, q]⟩ records ∧
      Selector.parse ⟨false⟩ "a[b][c='d']" = .ok ⟨"a", [p, q]⟩ ∧
      (filter ⟨⟨false⟩⟩ "a[c='d'] [b]" records).value = .ok [1] := by
  intro p q records
  have hp : Reading.clause ⟨false⟩ "b]".toList = .ok (p, []) := by
    have hmore := Reading.moreSegments_of_no_dot (gap_skipBlanks "]".toList) (by decide)
    exact Reading.clause_iff.2 ⟨_, _, _, _, rfl, hmore, rfl, .inl ⟨rfl, rfl, rfl⟩⟩
  have hq : Reading.clause ⟨false⟩ "c='d']".toList = .ok (q, []) := by
    have hmore := Reading.moreSegments_of_no_dot (gap_skipBlanks "='d']".toList) (by decide)
    exact Reading.clause_iff.2 ⟨_, _, _, _, rfl, hmore, rfl, .inr ⟨by decide, rfl⟩⟩
  obtain ⟨b, hb, hbp⟩ := Reading.clause_eq_ok_iff.1 hp
  obtain ⟨c, hc, hcq⟩ := Reading.clause_eq_ok_iff.1 hq
  have hspace : ∀ c ∈ [' '], isBlank c = true := List.forall_mem_singleton.2 rfl
  let cut : Cut := ⟨['a'], [⟨_, [], ⟨b, hb⟩, by simp⟩, ⟨_, [], ⟨c, hc⟩, by simp⟩], by decide⟩
  let cut' : Cut :=
    ⟨['a'], [⟨_, [' '], ⟨c, hc⟩, hspace⟩, ⟨_, [], ⟨b, hb⟩, by simp⟩], by decide⟩
  have htext : cut.text = "a[b][c='d']" := rfl
  have htext' : cut'.text = "a[c='d'] [b]" := rfl
  have hhead : Reading.HeadNames ['a'] "a" := ⟨[], by decide, rfl⟩
  have hparse : Selector.parse ⟨false⟩ "a[b][c='d']" = .ok ⟨"a", [p, q]⟩ := by
    rw [← htext, Selector.parse_eq_ok_iff, Reading.selector_cut_iff (by simp [cut])]
    exact ⟨hhead, .cons ⟨b, hb, hbp⟩ (.cons ⟨c, hc, hcq⟩ .nil)⟩
  have hmem : ∀ o, o ∈ [p, q] ↔ o ∈ [q, p, q] := by
    intro o
    simp only [List.mem_cons, List.not_mem_nil, or_false]
    exact ⟨fun h => h.elim (.inr ∘ .inl) .inl, fun h => h.elim .inr id⟩
  obtain ⟨hselect, -, -, -, -, htexts⟩ :=
    filter_conjunction ⟨⟨false⟩⟩ "a" [p, q] [q, p, q] records
  obtain ⟨hvalue, hvalue'⟩ := (htexts _ _ hparse).2 cut cut' htext rfl (.swap _ _ _)
  refine ⟨hmem, hselect hmem, hparse, ?_⟩
  rw [← htext', hvalue', hvalue]
  exact congrArg Except.ok (by decide +kernel)

end Engine

end ComponentQuery
