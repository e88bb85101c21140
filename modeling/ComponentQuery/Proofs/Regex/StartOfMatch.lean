import ComponentQuery.Proofs.Regex.FlagGroup
import ComponentQuery.Proofs.Regex.Trials

/-!
# Patterns that leave the start of the match alone

The escape `\K` lets a match begin where the escape stands.  `Pattern.movesStart` tells whether a
pattern has it somewhere.  Its plan has no task that moves the start of the match otherwise
(`Plan.yields_make`), and a source in which a backslash is never followed by the letter gives no
pattern that has it (`keepsStart_of_not_infix`), with and without flags in front
(`KeepsStart.patternText`).
-/

namespace ComponentQuery.Regex

/-! ## Patterns -/

namespace Pattern

mutual

/-- Whether a pattern can tell the match to begin elsewhere. -/
def movesStart : Pattern → Bool
  | .matchStart => true
  | .sequence ps | .choice ps => someMovesStart ps
  | .group _ p | .look _ _ p | .repetition p .. | .atomic p => p.movesStart
  | .conditional c yes no => c.movesStart || yes.movesStart || no.movesStart
  | _ => false

/-- Whether one of some patterns can. -/
def someMovesStart : List Pattern → Bool
  | [] => false
  | p :: ps => p.movesStart || someMovesStart ps

end

lemma someMovesStart_eq_false_iff {ps : List Pattern} :
    someMovesStart ps = false ↔ ∀ p ∈ ps, p.movesStart = false := by
  induction ps with
  | nil => simp [someMovesStart]
  | cons p ps ih => simp [someMovesStart, ih]

variable {allowed : Prop} {p q : Pattern} {ps qs : List Pattern}

mutual

/-- Similar patterns can both tell the match to begin elsewhere, if that is allowed, or neither. -/
theorem Similar.movesStart_eq {p q : Pattern} (h : Similar allowed p q) :
    p.movesStart = q.movesStart :=
  match h with
  | .empty | .char _ | .assertion _ | .reference _ | .matchStart _ | .searchStart
  | .matched _ => by simp only [movesStart]
  | .sequence h | .choice h => by simp only [movesStart, h.someMovesStart_eq]
  | .group _ h | .look _ _ h | .repetition _ _ _ h | .atomic h => by
    simp only [movesStart, h.movesStart_eq]
  | .conditional hc hy hn => by
    simp only [movesStart, hc.movesStart_eq, hy.movesStart_eq, hn.movesStart_eq]

theorem SimilarAll.someMovesStart_eq {ps qs : List Pattern} (h : SimilarAll allowed ps qs) :
    someMovesStart ps = someMovesStart qs :=
  match h with
  | .nil => rfl
  | .cons h hs => by simp only [someMovesStart, h.movesStart_eq, hs.someMovesStart_eq]

end

mutual

theorem Similar.allowed_of_movesStart {p q : Pattern} (h : Similar allowed p q)
    (hmoves : p.movesStart = true) : allowed :=
  match h with
  | .empty | .char _ | .assertion _ | .reference _ | .searchStart
  | .matched _ => by simp [movesStart] at hmoves
  | .matchStart h => h
  | .sequence h | .choice h => h.allowed_of_someMovesStart (by simpa only [movesStart] using hmoves)
  | .group _ h | .look _ _ h | .repetition _ _ _ h | .atomic h =>
    h.allowed_of_movesStart (by simpa only [movesStart] using hmoves)
  | .conditional hc hy hn => by
    simp only [movesStart, Bool.or_eq_true] at hmoves
    rcases hmoves with (hmoves | hmoves) | hmoves
    · exact hc.allowed_of_movesStart hmoves
    · exact hy.allowed_of_movesStart hmoves
    · exact hn.allowed_of_movesStart hmoves

theorem SimilarAll.allowed_of_someMovesStart {ps qs : List Pattern} (h : SimilarAll allowed ps qs)
    (hmoves : someMovesStart ps = true) : allowed :=
  match h with
  | .nil => by simp [someMovesStart] at hmoves
  | .cons h hs => by
    simp only [someMovesStart, Bool.or_eq_true] at hmoves
    rcases hmoves with hmoves | hmoves
    · exact h.allowed_of_movesStart hmoves
    · exact hs.allowed_of_someMovesStart hmoves

end

end Pattern

/-! ## Plans -/

/-- Everything that a computation can give has a property. -/
def Yields {α : Type} (P : α → Prop) (x : Except PatternError α) : Prop := ∀ a, x = .ok a → P a

namespace Yields

variable {α β : Type} {P : α → Prop} {Q : β → Prop} {x : Except PatternError α}

lemma ok {a : α} (h : P a) : Yields P (.ok a) := fun _ ha => Except.ok.inj ha ▸ h

lemma error (e : PatternError) : Yields P (.error e) := fun _ ha => nomatch ha

lemma bind {f : α → Except PatternError β} (h : Yields P x) (hf : ∀ a, P a → Yields Q (f a)) :
    Yields Q (x >>= f) := by
  cases x with
  | ok a => exact hf a (h a rfl)
  | error e => exact error e

lemma mapM {f : α → Except PatternError β} {as : List α} (h : ∀ a ∈ as, Yields Q (f a)) :
    Yields (fun bs => ∀ b ∈ bs, Q b) (as.mapM f) := by
  induction as with
  | nil => exact ok (by simp)
  | cons a as ih =>
    rw [List.forall_mem_cons] at h
    rw [List.mapM_cons]
    exact h.1.bind fun b hb => (ih h.2).bind fun bs hbs => ok (List.forall_mem_cons.2 ⟨hb, hbs⟩)

end Yields

namespace Plan

variable {referred : List Nat}

lemma yields_joined (ps : List Pattern) :
    Yields (fun plans : List Plan => ∀ p ∈ plans, p.movesStart = false) (joined ps) := by
  unfold joined
  split
  · exact .ok (by simp)
  · exact .ok (by simp [movesStart])
  · exact Yields.bind (P := fun _ => True) (fun _ _ => trivial)
      fun a _ => .ok (by simp [movesStart])

lemma yields_lookBehind (negative : Bool) (p : Pattern) {inside : Plan}
    (h : inside.movesStart = false) :
    Yields (fun p : Plan => p.movesStart = false) (lookBehind negative p inside) := by
  unfold lookBehind
  split
  · exact .ok (by simpa only [movesStart] using h)
  · exact .error _

lemma mem_of_mem_cut {revisable : Bool} {ps : List Pattern} {p : Pattern}
    (h : p ∈ (cut referred revisable ps).2.1) : p ∈ ps :=
  (List.dropWhile_suffix _).mem (List.mem_of_mem_take h)

theorem yields_make (fuel : Nat) : ∀ (revisable : Bool) {p : Pattern}, p.movesStart = false →
    Yields (fun plan : Plan => plan.movesStart = false) (make referred fuel revisable p) := by
  induction fuel with
  | zero => exact fun _ _ _ => .error _
  | succ fuel ih =>
    intro revisable p hp
    have hall : ∀ {revisable : Bool} {ps : List Pattern}, (∀ p ∈ ps, p.movesStart = false) →
        Yields (fun plans : List Plan => ∀ p ∈ plans, p.movesStart = false)
          (ps.mapM (make referred fuel revisable)) :=
      fun hps => Yields.mapM fun p hp => ih _ (hps p hp)
    have hparts : ∀ {plans : List Plan}, (∀ p ∈ plans, p.movesStart = false) →
        (Plan.sequence plans).movesStart = false ∧ (Plan.choice plans).movesStart = false :=
      fun hplans => by simpa only [movesStart, and_self, someMovesStart_eq_false_iff] using hplans
    unfold make
    split
    -- What is regular is left to automata, which never move the start.
    · exact (yields_joined [p]).bind fun plans hplans => .ok (hparts hplans).1
    · cases p with
      | empty | char | assertion | reference | matched | searchStart =>
        exact .ok (by simp [movesStart, someMovesStart])
      | matchStart => simp [Pattern.movesStart] at hp
      | sequence ps =>
        have hps := Pattern.someMovesStart_eq_false_iff.1 hp
        refine (yields_joined _).bind fun first hfirst => ?_
        refine (hall fun p hp => hps p (mem_of_mem_cut hp)).bind fun middle hmiddle => ?_
        refine (yields_joined _).bind fun last hlast => .ok (hparts ?_).1
        exact List.forall_mem_append.2 ⟨List.forall_mem_append.2 ⟨hfirst, hmiddle⟩, hlast⟩
      | choice ps =>
        have hps := Pattern.someMovesStart_eq_false_iff.1 hp
        exact (hall hps).bind fun plans hplans => .ok (hparts hplans).2
      | group k p =>
        exact (ih _ (p := p) hp).bind fun _ h => .ok h
      | repetition p least most greedy =>
        exact (ih _ (p := p) hp).bind fun _ h => .ok h
      | atomic p =>
        exact (ih _ (p := p) hp).bind fun _ h => .ok h
      | conditional c yes no =>
        simp only [Pattern.movesStart, Bool.or_eq_false_iff] at hp
        refine (ih _ hp.1.1).bind fun c hc => (ih _ hp.1.2).bind fun yes hyes => ?_
        exact (ih _ hp.2).bind fun no hno => .ok (by simp [movesStart, hc, hyes, hno])
      | look direction negative p =>
        cases direction with
        | ahead => exact (ih _ (p := p) hp).bind fun _ h => .ok h
        | behind =>
          have hlook : Yields (fun p : Plan => p.movesStart = false)
              (make referred fuel false p >>= lookBehind negative p) :=
            (ih false (p := p) hp).bind fun _ h => yields_lookBehind negative p h
          cases p with
          | choice ps =>
            have hps := Pattern.someMovesStart_eq_false_iff.1 hp
            simp only
            split
            · exact hlook
            · refine (Yields.mapM fun p hp => (ih _ (hps p hp)).bind fun _ h =>
                yields_lookBehind negative p h).bind fun looks hlooks => .ok ?_
              split
              · exact (hparts hlooks).1
              · exact (hparts hlooks).2
          | _ => exact hlook

lemma movesStart_of_ofPattern {p : Pattern} {plan : Plan} (h : ofPattern referred p = .ok plan)
    (hp : p.movesStart = false) : plan.movesStart = false :=
  yields_make _ true hp plan h

end Plan

/-! ## Sources -/

/-- A source leaves the start of the match alone: the pattern that it gives does, if it gives
one. -/
def KeepsStart (source : List Char) : Prop :=
  ∀ t, Pattern.read source = .ok t → t.pattern.movesStart = false

lemma exists_alternatives {source : List Char} {t : PatternText}
    (h : Pattern.read source = .ok t) : ∃ ctx : Context,
      alternatives (12 * (source.length + 1)) 0 {} source = .ok (t.pattern, ctx, []) := by
  unfold Pattern.read at h
  cases halternatives : alternatives (12 * (source.length + 1)) 0 {} source with
  | error e => simp [halternatives, bind, Except.bind] at h
  | ok step =>
    obtain ⟨p, ctx, rest⟩ := step
    simp only [halternatives, bind, Except.bind] at h
    split at h
    case isTrue hrest =>
      obtain rfl := List.isEmpty_iff.1 hrest
      obtain rfl := Except.ok.inj h
      exact ⟨ctx, rfl⟩
    case isFalse => simp at h

theorem keepsStart_of_not_infix {source : List Char} (h : ¬ ['\\', 'K'] <:+: source) :
    KeepsStart source := by
  intro t ht
  obtain ⟨ctx, halternatives⟩ := exists_alternatives ht
  have hagree : Agree (Pattern.Similar (['\\', 'K'] <:+: source)) source
      (alternatives (12 * (source.length + 1)) 0 {} source)
      (alternatives (12 * (source.length + 1)) 0 {} source) :=
    (readersAgree _ _ _).alternatives 0 (.refl _) (by omega) (by omega) id
  rw [halternatives] at hagree
  exact Bool.eq_false_iff.2 fun hmoves => h (hagree.of_ok.1.allowed_of_movesStart hmoves)

theorem KeepsStart.flagged {letters source : List Char} (h : KeepsStart source)
    (hletters : ∀ c ∈ letters, isInline c = true) (hne : letters ≠ []) :
    KeepsStart (flagged letters source) := by
  intro t ht
  by_cases hlimits : beginsWithLimits source = true
  · rw [read_flagged_of_limits hletters hne hlimits] at ht
    nomatch ht
  · obtain ⟨ctx, halternatives⟩ := exists_alternatives ht
    have hagree := (agree_flagged hletters hne (by simpa using hlimits)
      (fun _ => trivial : ['\\', 'K'] <:+: source → True)).1
    rw [halternatives] at hagree
    generalize hsource : alternatives (12 * (source.length + 1)) 0 {} source = x at hagree
    cases hagree with
    | @ok p _ ctx' _ _ hp _ _ =>
      have hread : Pattern.read source = .ok ⟨p, ctx'.opened, ctx'.referred⟩ := by
        rw [Pattern.read, hsource]
        rfl
      rw [← hp.movesStart_eq]
      exact h _ hread

lemma KeepsStart.patternText {source : List Char} (h : KeepsStart source) (flags : List Char) :
    KeepsStart (patternText source flags) := by
  rw [patternText_eq]
  split
  · exact h
  · exact h.flagged isInline_of_mem_inlineLetters ‹_›

end ComponentQuery.Regex
