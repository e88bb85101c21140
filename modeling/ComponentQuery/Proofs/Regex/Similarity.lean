import ComponentQuery.Regex.Matcher
import Mathlib.Data.List.Forall2

/-!
# Patterns that differ in flags only

The flags of a regular expression change three things in a pattern: whether a test ignores case,
whether a dot accepts line feeds, and whether an anchor holds at every line.  `Pattern.Similar`
relates two patterns that differ in these only, where the second ignores case wherever the first
does.

Whatever decides how a pattern is tested does not look at these three things: lengths, whether the
pattern is regular, its limits and its depth are those of every similar pattern.  The one exception
is the size of automata, since a letter that ignores case needs more room.  So two similar
patterns can be made ready for tests or not together, except that the second may be too large
(`Matcher.ofPatternText_similar`).
-/

namespace ComponentQuery.Regex

/-! ## Similar patterns -/

/-- Tests of one character that are alike but for flags. -/
inductive CharTest.Similar : CharTest → CharTest → Prop where
  | dot {t u : CharTest} (ht : t = .any ∨ t = .notNewline) (hu : u = .any ∨ u = .notNewline) :
      Similar t u
  | literal (c : Char) {i j : Bool} (h : i = true → j = true) :
      Similar (.literal c i) (.literal c j)
  | oneOf (s : ClassSet) {i j : Bool} (h : i = true → j = true) :
      Similar (.oneOf s i) (.oneOf s j)

/-- The condition that an anchor is where lines do not count. -/
def Assertion.ofText : Assertion → Assertion
  | .startOfLine => .startOfText
  | .endOfLine => .endOfText
  | a => a

namespace Pattern

mutual

/-- Patterns that are alike but for flags.  A match may be told to begin elsewhere only if
`allowed`. -/
inductive Similar (allowed : Prop) : Pattern → Pattern → Prop where
  | empty : Similar allowed .empty .empty
  | char {t u : CharTest} (h : t.Similar u) : Similar allowed (.char t) (.char u)
  | assertion {a b : Assertion} (h : a.ofText = b.ofText) :
      Similar allowed (.assertion a) (.assertion b)
  | sequence {ps qs : List Pattern} (h : SimilarAll allowed ps qs) :
      Similar allowed (.sequence ps) (.sequence qs)
  | choice {ps qs : List Pattern} (h : SimilarAll allowed ps qs) :
      Similar allowed (.choice ps) (.choice qs)
  | group (number : Nat) {p q : Pattern} (h : Similar allowed p q) :
      Similar allowed (.group number p) (.group number q)
  | look (direction : Direction) (negative : Bool) {p q : Pattern} (h : Similar allowed p q) :
      Similar allowed (.look direction negative p) (.look direction negative q)
  | repetition {p q : Pattern} (least : Nat) (most : Option Nat) (greedy : Bool)
      (h : Similar allowed p q) :
      Similar allowed (.repetition p least most greedy) (.repetition q least most greedy)
  | reference (number : Nat) : Similar allowed (.reference number) (.reference number)
  | atomic {p q : Pattern} (h : Similar allowed p q) : Similar allowed (.atomic p) (.atomic q)
  | matchStart (h : allowed) : Similar allowed .matchStart .matchStart
  | searchStart : Similar allowed .searchStart .searchStart
  | matched (number : Nat) : Similar allowed (.matched number) (.matched number)
  | conditional {c c' y y' n n' : Pattern} (hc : Similar allowed c c') (hy : Similar allowed y y')
      (hn : Similar allowed n n') : Similar allowed (.conditional c y n) (.conditional c' y' n')

/-- Lists of patterns that are alike but for flags. -/
inductive SimilarAll (allowed : Prop) : List Pattern → List Pattern → Prop where
  | nil : SimilarAll allowed [] []
  | cons {p q : Pattern} {ps qs : List Pattern} (h : Similar allowed p q)
      (hs : SimilarAll allowed ps qs) : SimilarAll allowed (p :: ps) (q :: qs)

end

variable {allowed : Prop} {referred : List Nat}

lemma similarAll_iff {ps qs : List Pattern} :
    SimilarAll allowed ps qs ↔ List.Forall₂ (Similar allowed) ps qs := by
  induction ps generalizing qs with
  | nil => exact ⟨fun h => by cases h; exact .nil, fun h => by cases h; exact .nil⟩
  | cons p ps ih =>
    constructor
    · rintro ⟨⟩
      exact .cons ‹_› (ih.1 ‹_›)
    · rintro ⟨⟩
      exact .cons ‹_› (ih.2 ‹_›)

/-! ## What similar patterns share -/

lemma isAboutWords_ofText (a : Assertion) : a.ofText.isAboutWords = a.isAboutWords := by
  cases a <;> rfl

mutual

theorem Similar.minLength_eq {p q : Pattern} (h : Similar allowed p q) :
    p.minLength = q.minLength :=
  match h with
  | .empty | .char _ | .assertion _ | .look .. | .reference _ | .matchStart _ | .searchStart
  | .matched _ => by simp only [minLength]
  | .sequence h => by simp only [minLength, h.sumMinLength_eq]
  | .choice .nil => rfl
  | .choice (.cons h hs) => by simp only [minLength, h.minLength_eq, hs.leastMinLength_eq]
  | .group _ h | .repetition _ _ _ h | .atomic h => by simp only [minLength, h.minLength_eq]
  | .conditional hc hy hn => by
    simp only [minLength, hc.minLength_eq, hy.minLength_eq, hn.minLength_eq]

theorem SimilarAll.sumMinLength_eq {ps qs : List Pattern} (h : SimilarAll allowed ps qs) :
    sumMinLength ps = sumMinLength qs :=
  match h with
  | .nil => rfl
  | .cons h hs => by simp only [sumMinLength, h.minLength_eq, hs.sumMinLength_eq]

theorem SimilarAll.leastMinLength_eq {least : Nat} {ps qs : List Pattern}
    (h : SimilarAll allowed ps qs) :
    leastMinLength least ps = leastMinLength least qs :=
  match h with
  | .nil => rfl
  | .cons h hs => by simp only [leastMinLength, h.minLength_eq, hs.leastMinLength_eq]

end

mutual

theorem Similar.isFixed_eq {p q : Pattern} (h : Similar allowed p q) :
    p.isFixed = q.isFixed :=
  match h with
  | .empty | .char _ | .assertion _ | .look .. | .reference _ | .matchStart _ | .searchStart
  | .matched _ => by simp only [isFixed]
  | .sequence h => by simp only [isFixed, h.allFixed_eq]
  | .choice .nil => rfl
  | .choice (.cons h hs) => by
    simp only [isFixed, h.isFixed_eq, h.minLength_eq, hs.allFixedAt_eq]
  | .group _ h | .repetition _ _ _ h | .atomic h => by simp only [isFixed, h.isFixed_eq]
  | .conditional hc hy hn => by
    simp only [isFixed, hc.isFixed_eq, hy.isFixed_eq, hn.isFixed_eq, hc.minLength_eq,
      hy.minLength_eq, hn.minLength_eq]

theorem SimilarAll.allFixed_eq {ps qs : List Pattern} (h : SimilarAll allowed ps qs) :
    allFixed ps = allFixed qs :=
  match h with
  | .nil => rfl
  | .cons h hs => by simp only [allFixed, h.isFixed_eq, hs.allFixed_eq]

theorem SimilarAll.allFixedAt_eq {length : Nat} {ps qs : List Pattern}
    (h : SimilarAll allowed ps qs) :
    allFixedAt length ps = allFixedAt length qs :=
  match h with
  | .nil => rfl
  | .cons h hs => by simp only [allFixedAt, h.isFixed_eq, h.minLength_eq, hs.allFixedAt_eq]

end

mutual

theorem Similar.isRegular_eq {p q : Pattern} (h : Similar allowed p q) :
    p.isRegular referred = q.isRegular referred :=
  match h with
  | .empty | .char _ | .look .. | .reference _ | .matchStart _ | .searchStart | .matched _
  | .atomic _ | .conditional .. => by simp only [isRegular]
  | @Similar.assertion _ a b h => by
    simp only [isRegular, ← isAboutWords_ofText a, ← isAboutWords_ofText b, h]
  | .sequence h | .choice h => by simp only [isRegular, h.allRegular_eq]
  | .group _ h | .repetition _ _ _ h => by simp only [isRegular, h.isRegular_eq]

theorem SimilarAll.allRegular_eq {ps qs : List Pattern} (h : SimilarAll allowed ps qs) :
    allRegular referred ps = allRegular referred qs :=
  match h with
  | .nil => rfl
  | .cons h hs => by simp only [allRegular, h.isRegular_eq, hs.allRegular_eq]

end

mutual

theorem Similar.depth_eq {p q : Pattern} (h : Similar allowed p q) :
    p.depth = q.depth :=
  match h with
  | .empty | .char _ | .assertion _ | .reference _ | .matchStart _ | .searchStart
  | .matched _ => by simp only [depth]
  | .sequence h | .choice h => by simp only [depth, h.depths_eq]
  | .group _ h | .look _ _ h | .repetition _ _ _ h | .atomic h => by simp only [depth, h.depth_eq]
  | .conditional hc hy hn => by simp only [depth, hc.depth_eq, hy.depth_eq, hn.depth_eq]

theorem SimilarAll.depths_eq {ps qs : List Pattern} (h : SimilarAll allowed ps qs) :
    depths ps = depths qs :=
  match h with
  | .nil => rfl
  | .cons h hs => by simp only [depths, h.depth_eq, hs.depths_eq]

end

end Pattern

/-! ## Sizes -/

namespace Automaton

open Pattern

variable {allowed : Prop}

mutual

theorem hasReversedLimits_similar {p q : Pattern} (h : Similar allowed p q) :
    hasReversedLimits p = hasReversedLimits q :=
  match h with
  | .empty | .char _ | .assertion _ | .look .. | .reference _ | .matchStart _ | .searchStart
  | .matched _ | .atomic _ | .conditional .. => by simp only [hasReversedLimits]
  | .sequence h | .choice h => by simp only [hasReversedLimits, someReversedLimits_similar h]
  | .group _ h | .repetition _ _ _ h => by
    simp only [hasReversedLimits, hasReversedLimits_similar h]

theorem someReversedLimits_similar {ps qs : List Pattern} (h : SimilarAll allowed ps qs) :
    someReversedLimits ps = someReversedLimits qs :=
  match h with
  | .nil => rfl
  | .cons h hs => by
    simp only [someReversedLimits, hasReversedLimits_similar h, someReversedLimits_similar hs]

end

lemma charTestRoom_similar {t u : CharTest} (h : t.Similar u) :
    charTestRoom t ≤ charTestRoom u := by
  cases h with
  | dot ht hu => rcases ht with rfl | rfl <;> rcases hu with rfl | rfl <;> exact Nat.le_refl _
  | oneOf s h => exact Nat.le_refl _
  | @literal c i j h =>
    have hpos : 1 ≤ (Unicode.caseVariants c.toNat).length := by simp [Unicode.caseVariants]
    have hroom : ∀ {n : Nat}, 1 ≤ n → testRoom 1 ≤ testRoom n := by
      intro n hn
      simp only [testRoom, if_true]
      split <;> omega
    have hone : charTestRoom (.literal c false) ≤ charTestRoom (.literal c true) := by
      simp only [charTestRoom, if_true, Bool.false_eq_true, if_false]
      split
      · exact hroom hpos
      · exact Nat.mul_le_mul_right _ (Nat.mul_le_mul_right _ hpos)
    cases i with
    | true =>
      obtain rfl := h rfl
      exact Nat.le_refl _
    | false =>
      cases j with
      | true => exact hone
      | false => exact Nat.le_refl _

mutual

theorem room_similar {p q : Pattern} (h : Similar allowed p q) :
    room p ≤ room q :=
  match h with
  | .empty | .assertion _ | .look .. | .reference _ | .matchStart _ | .searchStart | .matched _
  | .atomic _ | .conditional .. => by simp only [room, Nat.le_refl]
  | .char h => by simpa only [room] using charTestRoom_similar h
  | .sequence h => by simpa only [room] using rooms_similar h
  | .choice h => by
    have hrooms := rooms_similar h
    have hlength := (similarAll_iff.1 h).length_eq
    simp only [room, hlength]
    omega
  | .group _ h => by
    have hroom := room_similar h
    simp only [room]
    omega
  | .repetition least (some most) _ h => by
    have hroom := room_similar h
    have hfork := Nat.add_le_add_right hroom (forkRoom 2)
    simp only [room]
    exact Nat.add_le_add_right (Nat.add_le_add (Nat.mul_le_mul_left least hroom)
      (Nat.mul_le_mul_left (most - least) hfork)) _
  | .repetition least none _ h => by
    have hroom := room_similar h
    simp only [room]
    exact Nat.add_le_add_right (Nat.mul_le_mul_left (max least 1) hroom) _

theorem rooms_similar {ps qs : List Pattern} (h : SimilarAll allowed ps qs) :
    rooms ps ≤ rooms qs :=
  match h with
  | .nil => Nat.le_refl _
  | .cons h hs => by
    simp only [rooms]
    exact Nat.add_le_add (room_similar h) (rooms_similar hs)

end

end Automaton

/-! ## Failing for size only -/

/-- The second result is there whenever the first is, except that it may be refused for its size,
and is not there if the first is not. -/
inductive Harder {α β : Type} : Except PatternError α → Except PatternError β → Prop where
  | ok (a : α) (b : β) : Harder (.ok a) (.ok b)
  | tooLarge (a : α) : Harder (.ok a) (.error .tooLarge)
  | error (e e' : PatternError) : Harder (.error e) (.error e')

namespace Harder

variable {α β γ δ : Type} {x : Except PatternError α} {y : Except PatternError β}

/-- What is done with results that are there keeps the relation. -/
lemma bind {f : α → Except PatternError γ} {g : β → Except PatternError δ} (h : Harder x y)
    (hfg : ∀ a b, Harder (f a) (g b)) : Harder (x >>= f) (y >>= g) := by
  cases h with
  | ok a b => exact hfg a b
  | error e e' => exact .error e e'
  | tooLarge a =>
    change Harder (f a) (.error .tooLarge)
    cases f a with
    | ok c => exact .tooLarge c
    | error e => exact .error e .tooLarge

lemma mapM {γ' : Type} {f : γ → Except PatternError α} {g : γ' → Except PatternError β}
    {as : List γ} {bs : List γ'} (h : List.Forall₂ (fun a b => Harder (f a) (g b)) as bs) :
    Harder (as.mapM f) (bs.mapM g) := by
  induction h with
  | nil => exact .ok [] []
  | cons hab _ ih =>
    rw [List.mapM_cons, List.mapM_cons]
    exact hab.bind fun _ _ => ih.bind fun _ _ => .ok _ _

end Harder

/-! ## Plans -/

section Lists

variable {α : Type} {r : α → α → Prop} {f : α → Bool} {as bs : List α}

lemma forall₂_takeWhile (hf : ∀ a b, r a b → f a = f b) (h : List.Forall₂ r as bs) :
    List.Forall₂ r (as.takeWhile f) (bs.takeWhile f) := by
  induction h with
  | nil => exact .nil
  | @cons a b _ _ hab _ ih =>
    rw [List.takeWhile_cons, List.takeWhile_cons, hf a b hab]
    split
    · exact .cons hab ih
    · exact .nil

lemma forall₂_dropWhile (hf : ∀ a b, r a b → f a = f b) (h : List.Forall₂ r as bs) :
    List.Forall₂ r (as.dropWhile f) (bs.dropWhile f) := by
  induction h with
  | nil => exact .nil
  | @cons a b _ _ hab hs ih =>
    rw [List.dropWhile_cons, List.dropWhile_cons, hf a b hab]
    split
    · exact ih
    · exact .cons hab hs

end Lists

open Pattern

variable {allowed : Prop} {referred : List Nat} {p q : Pattern} {ps qs : List Pattern}

lemma Automaton.ofPattern_similar (h : Similar allowed p q) :
    Harder (Automaton.ofPattern p) (Automaton.ofPattern q) := by
  have hroom := Automaton.room_similar h
  unfold Automaton.ofPattern
  rw [Automaton.hasReversedLimits_similar h]
  split
  · exact .error _ _
  · split
    · rw [if_pos (by omega)]
      exact .error _ _
    · split
      · exact .tooLarge _
      · exact .ok _ _

namespace Plan

lemma joined_similar (h : List.Forall₂ (Similar allowed) ps qs) :
    Harder (joined ps) (joined qs) := by
  have hsequence := Automaton.ofPattern_similar (.sequence (similarAll_iff.2 h))
  have hmany : Harder (do return [Plan.automaton (← Automaton.ofPattern (.sequence ps))])
      (do return [Plan.automaton (← Automaton.ofPattern (.sequence qs))]) :=
    hsequence.bind fun _ _ => .ok _ _
  cases h with
  | nil => exact .ok _ _
  | cons hp hps =>
    cases hps with
    | cons => simpa only [joined] using hmany
    | nil =>
      cases hp with
      | char => exact .ok _ _
      | _ => exact hmany

lemma cut_similar (referred : List Nat) (revisable : Bool)
    (h : List.Forall₂ (Similar allowed) ps qs) :
    List.Forall₂ (Similar allowed) (cut referred revisable ps).1 (cut referred revisable qs).1 ∧
      List.Forall₂ (Similar allowed) (cut referred revisable ps).2.1
        (cut referred revisable qs).2.1 ∧
      List.Forall₂ (Similar allowed) (cut referred revisable ps).2.2
        (cut referred revisable qs).2.2 := by
  have hfirst : ∀ p q, Similar allowed p q →
      (p.isFixed && p.isRegular referred) = (q.isFixed && q.isRegular referred) := by
    intro p q h
    rw [h.isFixed_eq, h.isRegular_eq]
  have hlast : ∀ p q, Similar allowed p q →
      ((!revisable || p.isFixed) && p.isRegular referred) =
        ((!revisable || q.isFixed) && q.isRegular referred) := by
    intro p q h
    rw [h.isFixed_eq, h.isRegular_eq]
  have hrest := forall₂_dropWhile hfirst h
  have hend := List.forall₂_reverse_iff.2
    (forall₂_takeWhile hlast (List.forall₂_reverse_iff.2 hrest))
  refine ⟨forall₂_takeWhile hfirst h, ?_, hend⟩
  simp only [cut]
  rw [hend.length_eq, hrest.length_eq]
  exact List.forall₂_take _ hrest

lemma lookBehind_similar (negative : Bool) (h : Similar allowed p q) (inside inside' : Plan) :
    Harder (lookBehind negative p inside) (lookBehind negative q inside') := by
  unfold lookBehind
  rw [h.isFixed_eq]
  split
  · exact .ok _ _
  · exact .error _ _

/-- Plans of similar patterns are made or not together, except that the second may be too large. -/
theorem make_similar (fuel : Nat) : ∀ (revisable : Bool) {p q : Pattern}, Similar allowed p q →
    Harder (make referred fuel revisable p) (make referred fuel revisable q) := by
  induction fuel with
  | zero => exact fun _ _ _ _ => .error _ _
  | succ fuel ih =>
    intro revisable p q h
    have hall : ∀ {revisable : Bool} {ps qs : List Pattern},
        List.Forall₂ (Similar allowed) ps qs →
        Harder (ps.mapM (make referred fuel revisable)) (qs.mapM (make referred fuel revisable)) :=
      fun h => Harder.mapM (h.imp fun _ _ h => ih _ h)
    have hequal : q.isRegular referred = p.isRegular referred := h.isRegular_eq.symm
    -- Either both patterns are made into one automaton as a whole, or both are taken apart.
    by_cases hregular : (!revisable && p.isRegular referred) = true
    · have hjoined := joined_similar (List.Forall₂.cons h .nil)
      unfold make
      rw [hequal, if_pos hregular, if_pos hregular]
      exact hjoined.bind fun _ _ => .ok _ _
    · unfold make
      rw [hequal, if_neg hregular, if_neg hregular]
      cases h with
      | empty => exact .ok _ _
      | char => exact .ok _ _
      | assertion => exact .ok _ _
      | reference => exact .ok _ _
      | matched => exact .ok _ _
      | matchStart => exact .ok _ _
      | searchStart => exact .ok _ _
      | sequence hs =>
        obtain ⟨hfirst, hmiddle, hlast⟩ :=
          cut_similar referred revisable (similarAll_iff.1 hs)
        exact (joined_similar hfirst).bind fun _ _ => (hall hmiddle).bind fun _ _ =>
          (joined_similar hlast).bind fun _ _ => .ok _ _
      | choice hs => exact (hall (similarAll_iff.1 hs)).bind fun _ _ => .ok _ _
      | group _ h => exact (ih _ h).bind fun _ _ => .ok _ _
      | repetition _ _ _ h =>
        exact (ih _ h).bind fun _ _ => .ok _ _
      | atomic h => exact (ih _ h).bind fun _ _ => .ok _ _
      | conditional hc hy hn =>
        exact (ih _ hc).bind fun _ _ => (ih _ hy).bind fun _ _ => (ih _ hn).bind fun _ _ => .ok _ _
      | look direction negative h =>
        cases direction with
        | ahead => exact (ih _ h).bind fun _ _ => .ok _ _
        | behind =>
          -- If the length is not fixed, each alternative is looked for by itself.
          have hfixed := h.isFixed_eq
          have hlook := (ih false h).bind (lookBehind_similar negative h)
          cases h with
          | choice hs =>
            have hlooks := Harder.mapM ((similarAll_iff.1 hs).imp fun r r' hr =>
              (ih false hr).bind (lookBehind_similar negative hr))
            simp only [hfixed]
            split
            · exact hlook
            · exact hlooks.bind fun _ _ => .ok _ _
          | _ => exact hlook

lemma ofPattern_similar (h : Similar allowed p q) :
    Harder (Plan.ofPattern referred p) (Plan.ofPattern referred q) := by
  unfold Plan.ofPattern
  rw [h.depth_eq]
  exact make_similar _ _ h

end Plan

/-- **Patterns that differ in flags only can be tested or not together**, except that the one that
ignores case more often may be too large. -/
theorem Matcher.ofPatternText_similar {t u : PatternText} (h : Similar allowed t.pattern u.pattern)
    (hreferred : t.referred = u.referred) :
    Harder (Matcher.ofPatternText t) (Matcher.ofPatternText u) := by
  unfold Matcher.ofPatternText
  rw [hreferred, h.isRegular_eq]
  split
  · exact (Automaton.ofPattern_similar h).bind fun _ _ => .ok _ _
  · exact (Plan.ofPattern_similar h).bind fun _ _ => .ok _ _

end ComponentQuery.Regex
