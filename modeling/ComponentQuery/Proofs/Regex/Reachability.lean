import ComponentQuery.Regex.Automaton
import Mathlib.Logic.Relation
import Mathlib.Tactic.Common

/-!
# What automata find

An automaton is a graph of pairs of an instruction and a place in the subject, and a match that
starts at a place is a path from the first instruction to a place behind the last
(`Automaton.MatchesAt`).  A run is a search through that graph, depth first, which enters no pair
twice.  `Explored` is its invariant: what has been entered is no end, and leads to nothing but what
has been entered or is about to be.

The numbers by which pairs are entered belong to one pair each only as long as the code
does not lead beyond its own end.  `closed_lay` shows that for all patterns.  With that, a run that
finds nothing has entered all that can be reached (`explored_of_run`), so that nothing is lost when
the next start keeps what has been entered: `find?_eq_some_iff` says that the leftmost match is
found.
-/

namespace ComponentQuery.Regex

/-! ## Places -/

/-- What holds at a place and from the next one on, up to some place, holds from that place on. -/
lemma forall_of_succ {P Q : Nat → Prop} {k : Nat} (hk : P k)
    (hlater : ∀ i, k + 1 ≤ i → Q i → P i) : ∀ i, k ≤ i → Q i → P i := by
  intro i hi hq
  rcases Nat.eq_or_lt_of_le hi with rfl | hlt
  · exact hk
  · exact hlater i hlt hq

lemma eq_of_first {P : Nat → Prop} {j k : Nat} (hj : P j) (hbefore : ∀ i < j, ¬ P i) (hk : P k)
    (hbefore' : ∀ i < k, ¬ P i) : j = k := by
  rcases Nat.lt_trichotomy j k with hlt | rfl | hlt
  · exact absurd hj (hbefore' j hlt)
  · rfl
  · exact absurd hk (hbefore k hlt)

/-! ## Code that leads nowhere else -/

/-- An instruction leads back over at most `back` instructions, and ahead by at most `ahead`. -/
def Instruction.Within (back ahead : Nat) : Instruction → Prop
  | .fork preferred other =>
    (-(back : Int) ≤ preferred ∧ preferred ≤ ahead) ∧ -(back : Int) ≤ other ∧ other ≤ ahead
  | .jump distance => -(back : Int) ≤ distance ∧ distance ≤ ahead
  | _ => True

lemma Instruction.Within.mono {back ahead back' ahead' : Nat} {instruction : Instruction}
    (h : instruction.Within back ahead) (hback : back ≤ back') (hahead : ahead ≤ ahead') :
    instruction.Within back' ahead' := by
  cases instruction <;> simp only [Instruction.Within] at h ⊢ <;> omega

/-- Code that stands behind `back` instructions and before `after` of them leads to those, to
its own or to the place behind all of them. -/
def Closed (back after : Nat) (code : List Instruction) : Prop :=
  ∀ (k : Nat) (instruction : Instruction), code[k]? = some instruction →
    instruction.Within (back + k) (code.length - k + after)

namespace Closed

variable {back after back' after' : Nat} {code code' : List Instruction}

lemma nil : Closed back after [] := by
  intro k instruction hk
  simp at hk

lemma mono (h : Closed back after code) (hback : back ≤ back') (hafter : after ≤ after') :
    Closed back' after' code :=
  fun k instruction hk => (h k instruction hk).mono (by omega) (by omega)

lemma singleton {instruction : Instruction} (h : instruction.Within back (1 + after)) :
    Closed back after [instruction] := by
  intro k instruction' hk
  obtain ⟨rfl, rfl⟩ : k = 0 ∧ instruction = instruction' := by
    cases k <;> simp_all
  exact h

lemma append (h : Closed back (code'.length + after) code)
    (h' : Closed (back + code.length) after code') : Closed back after (code ++ code') := by
  intro k instruction hk
  rw [List.length_append]
  by_cases hlt : k < code.length
  · rw [List.getElem?_append_left hlt] at hk
    exact (h k instruction hk).mono (Nat.le_refl _) (by omega)
  · rw [List.getElem?_append_right (by omega)] at hk
    exact (h' _ instruction hk).mono (by omega) (by omega)

lemma cons {instruction : Instruction} (h : instruction.Within back (code.length + 1 + after))
    (h' : Closed (back + 1) after code) : Closed back after (instruction :: code) :=
  append (singleton (h.mono (Nat.le_refl _) (by omega))) h'

/-- Codes that each lead nowhere else can follow each other. -/
lemma append_self (h : Closed 0 0 code) (h' : Closed 0 0 code') : Closed 0 0 (code ++ code') :=
  append (h.mono (Nat.le_refl _) (Nat.zero_le _)) (h'.mono (Nat.zero_le _) (Nat.le_refl _))

lemma flatten_replicate (h : Closed 0 0 code) (n : Nat) :
    Closed 0 0 (List.replicate n code).flatten := by
  induction n with
  | zero => exact nil
  | succ n ih =>
    rw [List.replicate_succ, List.flatten_cons]
    exact h.append_self ih

end Closed

namespace Automaton

variable {code code' : List Instruction}

lemma enter_within (greedy : Bool) {size back ahead : Nat} (h : size + 1 ≤ ahead) :
    (enter greedy size).Within back ahead := by
  unfold enter
  split <;> simp only [Instruction.Within] <;> omega

lemma goBack_within (greedy : Bool) {size back ahead : Nat} (h : size ≤ back) (h' : 1 ≤ ahead) :
    (goBack greedy size).Within back ahead := by
  unfold goBack
  split <;> simp only [Instruction.Within] <;> omega

lemma closed_layChoice {codes : List (List Instruction)} (h : ∀ code ∈ codes, Closed 0 0 code) :
    Closed 0 0 (layChoice codes) := by
  induction codes with
  | nil => exact .nil
  | cons code codes ih =>
    rw [List.forall_mem_cons] at h
    cases codes with
    | nil => exact h.1
    | cons code' codes =>
      have hrest := ih h.2
      unfold layChoice
      generalize layChoice (code' :: codes) = rest at hrest ⊢
      refine .append (.cons ?_ (h.1.mono (Nat.zero_le _) (Nat.zero_le _))) (.cons ?_ ?_)
      · simp only [Instruction.Within, List.length_cons]
        omega
      · simp only [Instruction.Within]
        omega
      · exact hrest.mono (Nat.zero_le _) (Nat.le_refl _)

lemma closed_layOptional (greedy : Bool) (h : Closed 0 0 code) (n : Nat) :
    Closed 0 0 (layOptional greedy code n) := by
  induction n with
  | zero => exact .nil
  | succ n ih =>
    unfold layOptional
    refine .append (.cons (enter_within greedy (by omega)) ?_)
      (ih.mono (Nat.zero_le _) (Nat.le_refl _))
    exact h.mono (Nat.zero_le _) (Nat.zero_le _)

lemma closed_layLoop (greedy canBeEmpty : Bool) (h : Closed 0 0 code) :
    Closed 0 0 (layLoop greedy canBeEmpty code) := by
  have hcode : Closed 1 1 code := h.mono (Nat.zero_le _) (Nat.zero_le _)
  unfold layLoop
  split
  · refine .append (.cons (enter_within greedy (by simp)) hcode) (.singleton ?_)
    exact goBack_within greedy (by simp) (by omega)
  · refine .append (.cons (enter_within greedy (by simp)) hcode) (.singleton ?_)
    simp only [Instruction.Within, List.length_cons]
    omega

lemma closed_layRepetition (greedy canBeEmpty : Bool) (least : Nat) (most : Option Nat)
    (h : Closed 0 0 code) : Closed 0 0 (layRepetition greedy canBeEmpty least most code) := by
  unfold layRepetition
  cases most with
  | some most => exact (h.flatten_replicate least).append_self (closed_layOptional greedy h _)
  | none =>
    cases least with
    | zero => exact closed_layLoop greedy canBeEmpty h
    | succ least =>
      -- the last of the copies that have to be there is the one that is gone back to
      refine .append
        (((h.flatten_replicate least).append_self h).mono (Nat.le_refl _) (Nat.zero_le _))
        (.singleton (goBack_within greedy ?_ (by omega)))
      simp

mutual

/-- What is laid out for a pattern leads nowhere else. -/
theorem closed_lay : (p : Pattern) → Closed 0 0 (lay p)
  | .char _ | .assertion _ => by
    simp only [lay]
    exact .singleton trivial
  | .sequence ps => by
    simp only [lay]
    exact closed_laySequence ps
  | .choice ps => by
    simp only [lay]
    exact closed_layChoice (closed_layEach ps)
  | .group _ p => by
    simp only [lay]
    exact closed_lay p
  | .repetition p least most greedy => by
    simp only [lay]
    exact closed_layRepetition greedy _ least most (closed_lay p)
  | .empty | .look .. | .reference _ | .atomic _ | .matchStart | .searchStart | .matched _
  | .conditional .. => by
    simp only [lay]
    exact .nil

theorem closed_laySequence : (ps : List Pattern) → Closed 0 0 (laySequence ps)
  | [] => by
    simp only [laySequence]
    exact .nil
  | p :: ps => by
    simp only [laySequence]
    exact (closed_lay p).append_self (closed_laySequence ps)

theorem closed_layEach : (ps : List Pattern) → ∀ code ∈ layEach ps, Closed 0 0 code
  | [] => by simp only [layEach, List.not_mem_nil, false_imp_iff, implies_true]
  | p :: ps => by
    simp only [layEach, List.forall_mem_cons]
    exact ⟨closed_lay p, closed_layEach ps⟩

end

/-- The code of an automaton leads nowhere else. -/
def IsClosed (a : Automaton) : Prop := Closed 0 0 a.code.toList

lemma isClosed_of_ofPattern {p : Pattern} {a : Automaton} (h : ofPattern p = .ok a) :
    a.IsClosed := by
  unfold ofPattern at h
  split at h
  · simp at h
  · split at h
    · simp at h
    · obtain rfl := Except.ok.inj h
      simpa [IsClosed] using closed_lay p

/-! ## Paths -/

variable (a : Automaton) (s : Subject)

/-- From one pair of an instruction and a place, one step leads to another. -/
def Leads (x y : Nat × Nat) : Prop :=
  ∃ instruction, a.code[x.1]? = some instruction ∧ y ∈ successors s x.1 x.2 instruction

/-- Steps lead from one pair to another. -/
def Reaches : Nat × Nat → Nat × Nat → Prop := Relation.ReflTransGen (a.Leads s)

/-- A pair behind the last instruction, where a match has been found. -/
def IsEnd (x : Nat × Nat) : Prop := a.code[x.1]? = none

/-- A match starts at a place: steps lead from the first instruction to an end. -/
def MatchesAt (i : Nat) : Prop := ∃ x, a.Reaches s (0, i) x ∧ a.IsEnd x

/-- A pair of a place in the code, or the one behind it, and of a place in the subject. -/
def IsPair (x : Nat × Nat) : Prop := x.1 ≤ a.code.size ∧ x.2 ≤ s.size

variable {a s}

lemma IsPair.pairNumber_lt {x : Nat × Nat} (h : a.IsPair s x) :
    a.pairNumber x.1 x.2 < (a.code.size + 1) * (s.size + 1) := by
  calc x.2 * (a.code.size + 1) + x.1
    _ < x.2 * (a.code.size + 1) + (a.code.size + 1) :=
      Nat.add_lt_add_left (Nat.lt_succ_of_le h.1) _
    _ = (x.2 + 1) * (a.code.size + 1) := (Nat.succ_mul ..).symm
    _ ≤ (s.size + 1) * (a.code.size + 1) := Nat.mul_le_mul_right _ (Nat.succ_le_succ h.2)
    _ = (a.code.size + 1) * (s.size + 1) := Nat.mul_comm ..

lemma IsPair.pairNumber_inj {x y : Nat × Nat} (hx : a.IsPair s x) (hy : a.IsPair s y)
    (h : a.pairNumber x.1 x.2 = a.pairNumber y.1 y.2) : x = y := by
  have hsplit : ∀ {z : Nat × Nat}, a.IsPair s z →
      a.pairNumber z.1 z.2 % (a.code.size + 1) = z.1 ∧
        a.pairNumber z.1 z.2 / (a.code.size + 1) = z.2 := by
    intro z hz
    have hlt : z.1 < a.code.size + 1 := Nat.lt_succ_of_le hz.1
    refine ⟨Nat.mul_add_mod_of_lt hlt, ?_⟩
    calc a.pairNumber z.1 z.2 / (a.code.size + 1)
      _ = ((a.code.size + 1) * z.2 + z.1) / (a.code.size + 1) := by rw [pairNumber, Nat.mul_comm]
      _ = z.2 + z.1 / (a.code.size + 1) := Nat.mul_add_div (Nat.succ_pos _) ..
      _ = z.2 := by rw [Nat.div_eq_of_lt hlt, Nat.add_zero]
  exact Prod.ext ((hsplit hx).1.symm.trans (h ▸ (hsplit hy).1))
    ((hsplit hx).2.symm.trans (h ▸ (hsplit hy).2))

lemma target_le {pc size : Nat} {distance : Int} (hpc : pc < size)
    (h : distance ≤ (size - pc : Nat)) : target pc distance ≤ size := by
  unfold target
  omega

lemma Leads.isPair (ha : a.IsClosed) {x y : Nat × Nat} (h : a.Leads s x y) (hx : a.IsPair s x) :
    a.IsPair s y := by
  obtain ⟨instruction, hcode, hy⟩ := h
  have hpc : x.1 < a.code.size := (Array.getElem?_eq_some_iff.1 hcode).1
  have hwithin := ha x.1 instruction (by simpa using hcode)
  simp only [Array.length_toList, Nat.add_zero, Nat.zero_add] at hwithin
  have htarget : ∀ {distance : Int}, distance ≤ (a.code.size - x.1 : Nat) →
      a.IsPair s (target x.1 distance, x.2) := fun h => ⟨target_le hpc h, hx.2⟩
  cases instruction with
  | take test =>
    simp only [successors] at hy
    split at hy
    case isFalse => simp at hy
    case isTrue hpasses =>
      obtain rfl := List.mem_singleton.1 hy
      have hi : x.2 < s.size := by
        by_contra hge
        simp [Subject.passes, hge] at hpasses
      exact ⟨hpc, hi⟩
  | check condition =>
    simp only [successors] at hy
    split at hy
    · obtain rfl := List.mem_singleton.1 hy
      exact ⟨hpc, hx.2⟩
    · simp at hy
  | fork preferred other =>
    simp only [successors, List.mem_cons, List.not_mem_nil, or_false] at hy
    obtain rfl | rfl := hy
    · exact htarget hwithin.1.2
    · exact htarget hwithin.2.2
  | jump distance =>
    obtain rfl := List.mem_singleton.1 hy
    exact htarget hwithin.2

/-! ## Pairs that have been entered -/

/-- A pair has been entered. -/
def Seen (a : Automaton) (visited : Visited) (x : Nat × Nat) : Prop :=
  visited.getD (a.pairNumber x.1 x.2) true = true

/-- What has been entered when `stack` is yet to be entered: no end, and where it leads to, except
to the stack. -/
structure Explored (a : Automaton) (s : Subject) (visited : Visited) (stack : List (Nat × Nat)) :
    Prop where
  size_eq : visited.size = (a.code.size + 1) * (s.size + 1)
  isPair : ∀ x ∈ stack, a.IsPair s x
  not_isEnd : ∀ x, a.IsPair s x → a.Seen visited x → ¬ a.IsEnd x
  leads : ∀ x y, a.IsPair s x → a.Seen visited x → a.Leads s x y → a.Seen visited y ∨ y ∈ stack

/-- The pair that is entered is seen, and no other one is that was not. -/
lemma seen_set {visited : Visited} (hsize : visited.size = (a.code.size + 1) * (s.size + 1))
    {x y : Nat × Nat} (hx : a.IsPair s x) (hy : a.IsPair s y) :
    a.Seen (visited.setIfInBounds (a.pairNumber x.1 x.2) true) y ↔ y = x ∨ a.Seen visited y := by
  have hlt := hx.pairNumber_lt
  rw [← hsize] at hlt
  have hnumber : a.pairNumber x.1 x.2 = a.pairNumber y.1 y.2 ↔ y = x :=
    ⟨fun h => hy.pairNumber_inj hx h.symm, fun h => h ▸ rfl⟩
  unfold Seen
  rw [Array.getD_eq_getD_getElem?, Array.getD_eq_getD_getElem?, Array.getElem?_setIfInBounds,
    ← hnumber]
  by_cases heq : a.pairNumber x.1 x.2 = a.pairNumber y.1 y.2
  · simp [heq, heq ▸ hlt]
  · simp [heq]

/-- How many numbers of pairs have not been entered. -/
def unseen (visited : Visited) : Nat := visited.countP (!·)

lemma unseen_set {visited : Visited} {n : Nat} (h : ¬ visited.getD n true = true) :
    unseen (visited.setIfInBounds n true) + 1 = unseen visited := by
  rw [Array.getD_eq_getD_getElem?] at h
  have hn : n < visited.size := by
    by_contra hge
    simp [hge] at h
  have hfalse : visited[n] = false := by simpa [hn] using h
  have hpos : 0 < visited.countP (!·) :=
    Array.countP_pos_iff.2 ⟨visited[n], Array.getElem_mem hn, by simp [hfalse]⟩
  unfold unseen
  rw [Array.setIfInBounds, dif_pos hn, Array.countP_set]
  simp only [hfalse, Bool.not_false, Bool.not_true, if_true, Bool.false_eq_true, if_false]
  omega

namespace Explored

variable {visited : Visited} {stack : List (Nat × Nat)} {x : Nat × Nat}

lemma unvisited (a : Automaton) (s : Subject) : a.Explored s (a.unvisited s) [] where
  size_eq := by simp [Automaton.unvisited]
  isPair := by simp
  not_isEnd := by
    intro x hx hseen
    have hlt := hx.pairNumber_lt
    simp [Seen, Automaton.unvisited, hlt] at hseen
  leads := by
    intro x y hx hseen
    have hlt := hx.pairNumber_lt
    simp [Seen, Automaton.unvisited, hlt] at hseen

lemma push (h : a.Explored s visited stack) (hx : a.IsPair s x) :
    a.Explored s visited (x :: stack) where
  size_eq := h.size_eq
  isPair := List.forall_mem_cons.2 ⟨hx, h.isPair⟩
  not_isEnd := h.not_isEnd
  leads := fun y z hy hseen hleads =>
    (h.leads y z hy hseen hleads).imp_right (List.mem_cons_of_mem x)

lemma pop (h : a.Explored s visited (x :: stack)) (hx : a.Seen visited x) :
    a.Explored s visited stack where
  size_eq := h.size_eq
  isPair := (List.forall_mem_cons.1 h.isPair).2
  not_isEnd := h.not_isEnd
  leads := by
    intro y z hy hseen hleads
    rcases h.leads y z hy hseen hleads with hz | hz
    · exact .inl hz
    · obtain rfl | hz := List.mem_cons.1 hz
      · exact .inl hx
      · exact .inr hz

/-- A pair is entered, and where it leads to is put in its stead. -/
lemma enter (ha : a.IsClosed) (h : a.Explored s visited (x :: stack)) {instruction : Instruction}
    (hcode : a.code[x.1]? = some instruction) :
    a.Explored s (visited.setIfInBounds (a.pairNumber x.1 x.2) true)
      (successors s x.1 x.2 instruction ++ stack) where
  size_eq := by rw [Array.size_setIfInBounds, h.size_eq]
  isPair := by
    obtain ⟨hx, hstack⟩ := List.forall_mem_cons.1 h.isPair
    intro y hy
    rcases List.mem_append.1 hy with hy | hy
    · exact Leads.isPair ha ⟨instruction, hcode, hy⟩ hx
    · exact hstack y hy
  not_isEnd := by
    intro y hy hseen
    rcases (seen_set h.size_eq (h.isPair x List.mem_cons_self) hy).1 hseen with rfl | hseen
    · simp [IsEnd, hcode]
    · exact h.not_isEnd y hy hseen
  leads := by
    intro y z hy hseen hleads
    have hx := h.isPair x List.mem_cons_self
    have hz := hleads.isPair ha hy
    rw [seen_set h.size_eq hx hz, List.mem_append]
    rcases (seen_set h.size_eq hx hy).1 hseen with rfl | hseen
    · -- What the new pair leads to has just been put on the stack.
      obtain ⟨instruction', hcode', hmem⟩ := hleads
      obtain rfl : instruction = instruction' := by simpa [hcode] using hcode'
      exact .inr (.inl hmem)
    · rcases h.leads y z hy hseen hleads with hz | hz
      · exact .inl (.inr hz)
      · obtain rfl | hz := List.mem_cons.1 hz
        · exact .inl (.inl rfl)
        · exact .inr (.inr hz)

/-- Where nothing is left to be entered, no match starts at a pair that has been entered. -/
lemma not_reaches_end (ha : a.IsClosed) (h : a.Explored s visited []) (hx : a.IsPair s x)
    (hseen : a.Seen visited x) {y : Nat × Nat} (hy : a.Reaches s x y) : ¬ a.IsEnd y := by
  have hentered : a.IsPair s y ∧ a.Seen visited y := by
    induction hy with
    | refl => exact ⟨hx, hseen⟩
    | tail _ hleads ih =>
      refine ⟨hleads.isPair ha ih.1, ?_⟩
      simpa using h.leads _ _ ih.1 ih.2 hleads
  exact h.not_isEnd y hentered.1 hentered.2

end Explored

/-! ## Runs -/

lemma length_successors_le (s : Subject) (pc i : Nat) (instruction : Instruction) :
    (successors s pc i instruction).length ≤ 2 := by
  cases instruction <;> simp only [successors] <;> (try split) <;> simp

section

variable {fuel : Nat} {visited : Visited} {x : Nat × Nat} {stack : List (Nat × Nat)}

lemma run_cons_of_seen (h : a.Seen visited x) :
    run a s (fuel + 1) visited (x :: stack) = run a s fuel visited stack :=
  if_pos h

lemma run_cons_of_end (hnew : ¬ a.Seen visited x) (hend : a.code[x.1]? = none) :
    run a s (fuel + 1) visited (x :: stack) =
      (some x.2, visited.setIfInBounds (a.pairNumber x.1 x.2) true) := by
  refine (if_neg hnew).trans ?_
  rw [hend]

lemma run_cons_of_code {instruction : Instruction} (hnew : ¬ a.Seen visited x)
    (hcode : a.code[x.1]? = some instruction) :
    run a s (fuel + 1) visited (x :: stack) =
      run a s fuel (visited.setIfInBounds (a.pairNumber x.1 x.2) true)
        (successors s x.1 x.2 instruction ++ stack) := by
  refine (if_neg hnew).trans ?_
  rw [hcode]

end

/-- A run that finds no match has entered all that it was to enter and all that follows from it. -/
theorem explored_of_run (ha : a.IsClosed) {fuel : Nat} {visited visited' : Visited}
    {stack : List (Nat × Nat)} (h : a.Explored s visited stack)
    (hfuel : 2 * unseen visited + stack.length ≤ fuel)
    (hrun : run a s fuel visited stack = (none, visited')) :
    a.Explored s visited' [] ∧
      ∀ x, a.IsPair s x → a.Seen visited x ∨ x ∈ stack → a.Seen visited' x := by
  induction fuel generalizing visited stack with
  | zero =>
    obtain rfl := List.eq_nil_of_length_eq_zero (show stack.length = 0 by omega)
    obtain rfl : visited = visited' := by simpa [run] using hrun
    exact ⟨h, fun x _ hx => by simpa using hx⟩
  | succ fuel ih =>
    cases stack with
    | nil =>
      obtain rfl : visited = visited' := by simpa [run] using hrun
      exact ⟨h, fun x _ hx => by simpa using hx⟩
    | cons x stack =>
      rw [List.length_cons] at hfuel
      by_cases hseen : a.Seen visited x
      · rw [run_cons_of_seen hseen] at hrun
        -- A pair on top of the stack that was seen before is dropped; it stays among the seen ones.
        obtain ⟨hexplored, hentered⟩ := ih (h.pop hseen) (by omega) hrun
        refine ⟨hexplored, fun y hy hmem => hentered y hy ?_⟩
        rcases hmem with hy | hy
        · exact .inl hy
        · obtain rfl | hy := List.mem_cons.1 hy
          · exact .inl hseen
          · exact .inr hy
      · cases hcode : a.code[x.1]? with
        | none => simp [run_cons_of_end hseen hcode] at hrun
        | some instruction =>
          rw [run_cons_of_code hseen hcode] at hrun
          -- A pair seen for the first time costs one unseen pair and leaves at most two on the
          -- stack, which is why the fuel counts every unseen pair twice.
          have hx := h.isPair x List.mem_cons_self
          have hunseen := unseen_set hseen
          have hlength := length_successors_le s x.1 x.2 instruction
          have hfuel' : 2 * unseen (visited.setIfInBounds (a.pairNumber x.1 x.2) true) +
              (successors s x.1 x.2 instruction ++ stack).length ≤ fuel := by
            rw [List.length_append]
            omega
          obtain ⟨hexplored, hentered⟩ := ih (h.enter ha hcode) hfuel' hrun
          refine ⟨hexplored, fun y hy hmem => hentered y hy ?_⟩
          rw [seen_set h.size_eq hx hy, List.mem_append]
          rcases hmem with hy | hy
          · exact .inl (.inr hy)
          · obtain rfl | hy := List.mem_cons.1 hy
            · exact .inl (.inl rfl)
            · exact .inr (.inr hy)

/-- A run that finds a match has come to an end from what it was to enter. -/
theorem reaches_of_run {fuel : Nat} {visited visited' : Visited} {stack : List (Nat × Nat)}
    {i : Nat} (hrun : run a s fuel visited stack = (some i, visited')) :
    ∃ x ∈ stack, ∃ y, a.Reaches s x y ∧ a.IsEnd y := by
  induction fuel generalizing visited stack with
  | zero => simp [run] at hrun
  | succ fuel ih =>
    cases stack with
    | nil => simp [run] at hrun
    | cons x stack =>
      by_cases hseen : a.Seen visited x
      · rw [run_cons_of_seen hseen] at hrun
        obtain ⟨x', hx', hend⟩ := ih hrun
        exact ⟨x', List.mem_cons_of_mem _ hx', hend⟩
      · cases hcode : a.code[x.1]? with
        | none => exact ⟨x, List.mem_cons_self, x, .refl, hcode⟩
        | some instruction =>
          rw [run_cons_of_code hseen hcode] at hrun
          obtain ⟨x', hx', y, hreaches, hend⟩ := ih hrun
          rcases List.mem_append.1 hx' with hx' | hx'
          · exact ⟨x, List.mem_cons_self, y, .head ⟨instruction, hcode, hx'⟩ hreaches, hend⟩
          · exact ⟨x', List.mem_cons_of_mem _ hx', y, hreaches, hend⟩

/-! ## The leftmost match -/

lemma unseen_le {visited : Visited} (h : visited.size = (a.code.size + 1) * (s.size + 1)) :
    2 * unseen visited + 2 ≤ a.stepBound s := by
  calc 2 * unseen visited + 2
    _ ≤ 2 * visited.size + 2 :=
      Nat.add_le_add_right (Nat.mul_le_mul_left 2 Array.countP_le_size) 2
    _ = a.stepBound s := by rw [h, stepBound]

lemma findFrom_spec (ha : a.IsClosed) {count start : Nat} {visited : Visited}
    (hcount : start + count = s.size + 1) (h : a.Explored s visited []) :
    (∀ k, a.findFrom s count start visited = some k →
        start ≤ k ∧ k ≤ s.size ∧ a.MatchesAt s k ∧ ∀ j, start ≤ j → j < k → ¬ a.MatchesAt s j) ∧
      (a.findFrom s count start visited = none →
        ∀ j, start ≤ j → j ≤ s.size → ¬ a.MatchesAt s j) := by
  induction count generalizing start visited with
  | zero =>
    refine ⟨fun k hk => by simp [findFrom] at hk, fun _ j hj hj' => ?_⟩
    omega
  | succ count ih =>
    have hpair : a.IsPair s (0, start) := ⟨Nat.zero_le _, by simp only; omega⟩
    rw [findFrom]
    cases hrun : run a s (a.stepBound s) visited [(0, start)] with
    | mk found visited' =>
      cases found with
      | some i =>
        obtain ⟨x, hx, y, hreaches, hend⟩ := reaches_of_run hrun
        obtain rfl := List.mem_singleton.1 hx
        refine ⟨fun k hk => ?_, fun hnone => by simp at hnone⟩
        obtain rfl : start = k := by simpa using hk
        exact ⟨Nat.le_refl _, hpair.2, ⟨y, hreaches, hend⟩, fun j hj hj' => by omega⟩
      | none =>
        -- What the failed search has seen stays closed, so the search from the next start may keep
        -- it.
        obtain ⟨hexplored, hentered⟩ := explored_of_run ha (h.push hpair)
          (Nat.le_of_succ_le (unseen_le h.size_eq)) hrun
        have hstart : ¬ a.MatchesAt s start := by
          rintro ⟨y, hreaches, hend⟩
          exact hexplored.not_reaches_end ha hpair
            (hentered _ hpair (.inr List.mem_cons_self)) hreaches hend
        obtain ⟨hsome, hnone⟩ := ih (by omega : start + 1 + count = s.size + 1) hexplored
        refine ⟨fun k hk => ?_, fun hk => forall_of_succ hstart (hnone hk)⟩
        obtain ⟨hle, hk', hmatch, hbefore⟩ := hsome k hk
        exact ⟨by omega, hk', hmatch, forall_of_succ hstart hbefore⟩

/-- **An automaton finds the leftmost match.** -/
theorem find?_eq_some_iff (ha : a.IsClosed) {k : Nat} :
    a.find? s = some k ↔ k ≤ s.size ∧ a.MatchesAt s k ∧ ∀ j < k, ¬ a.MatchesAt s j := by
  obtain ⟨hsome, hnone⟩ :=
    findFrom_spec ha (Nat.zero_add (s.size + 1)) (Explored.unvisited a s)
  constructor
  · intro hk
    obtain ⟨-, hle, hmatch, hbefore⟩ := hsome k hk
    exact ⟨hle, hmatch, fun j => hbefore j (Nat.zero_le j)⟩
  · rintro ⟨hle, hmatch, hbefore⟩
    cases hfind : a.find? s with
    | none => exact absurd hmatch (hnone hfind k (Nat.zero_le k) hle)
    | some k' =>
      obtain ⟨-, -, hmatch', hbefore'⟩ := hsome k' hfind
      exact congrArg some
        (eq_of_first hmatch' (fun j => hbefore' j (Nat.zero_le j)) hmatch hbefore)

end Automaton

end ComponentQuery.Regex
