import ComponentQuery.Proofs.Regex.Reachability
import ComponentQuery.Proofs.Regex.Runs
import ComponentQuery.Proofs.Regex.StartOfMatch

/-!
# Matchers find the leftmost match

A matcher has a match at a place if an attempt succeeds that starts there
(`Matcher.MatchesAt`).  For a plan, such an attempt has nothing to do with the search through the
subject, nor with the limits of a machine.

The search passes over one character after the other, and tries the plan at each place; so it comes
to what the first attempt comes to that succeeds (`exists_of_tries_scan`).  The match starts there
unless the plan moves its start.  Together with what automata find, `Matcher.findStart?_eq_some_iff`
says that a test finds the leftmost match, unless it is given up.
-/

namespace ComponentQuery.Regex

namespace Plan

variable {s : Subject} {p : Plan} {groups k : Nat} {r : Option Thread}

/-- The thread that tries a plan at a place, where the match is to start. -/
def attempt (p : Plan) (groups k : Nat) : Thread :=
  ⟨[.carryOut p], k, Array.replicate (2 * (groups + 1)) none, k⟩

/-- A plan has a match that starts its search at a place. -/
def MatchesAt (p : Plan) (groups : Nat) (s : Subject) (k : Nat) : Prop :=
  ∃ t, Tries s 0 [p.attempt groups k] (some t)

/-- The thread that searches from a place on, after it has passed over `done` characters. -/
def scan (p : Plan) (groups k done : Nat) (last : Option Nat) : Thread :=
  ⟨[.iterate (.take .any) 0 none false false done last, .carryOut .matchStart, .carryOut p], k,
    Array.replicate (2 * (groups + 1)) none, 0⟩

/-- A search that has yet to pass over a character. -/
def passOver (p : Plan) (groups k done : Nat) (last : Option Nat) : Thread :=
  (p.scan groups k done last).withTasks
    (.carryOut (.take .any) :: (p.scan groups k done last).tasks)

/-- A search tries the plan where it stands, and then passes over the next character. -/
lemma tries_scan {done : Nat} {last : Option Nat} (h : Tries s 0 [p.scan groups k done last] r) :
    Tries s 0 ([p.attempt groups k] ++ [p.passOver groups k (done + 1) (some k)]) r := by
  have hleave := (Tries.step_iff rfl rfl rfl).1 h
  exact (Tries.step_iff rfl rfl rfl).1 hleave

lemma tries_passOver {done : Nat} {last : Option Nat} (hlt : k < s.size)
    (h : Tries s 0 [p.passOver groups k done last] r) :
    Tries s 0 [p.scan groups (k + 1) done last] r := by
  have hmove : ((Task.carryOut (.take .any)).move s 0 0 (p.passOver groups k done last)
      (p.scan groups k done last).tasks).threads? = some [p.scan groups (k + 1) done last] := by
    simp [Task.move, Plan.move, passOver, scan, Subject.passes, CharTest.accepts, hlt,
      Thread.withTasks, Move.threads?]
  exact (Tries.step_iff rfl rfl hmove).1 h

lemma tries_passOver_end {done : Nat} {last : Option Nat} (hle : s.size ≤ k)
    (h : Tries s 0 [p.passOver groups k done last] r) : r = none := by
  have hmove : ((Task.carryOut (.take .any)).move s 0 0 (p.passOver groups k done last)
      (p.scan groups k done last).tasks).threads? = some [] := by
    simp [Task.move, Plan.move, passOver, scan, Subject.passes, hle, Thread.withTasks,
      Move.threads?]
  exact Tries.nil_iff.1 ((Tries.step_iff rfl rfl hmove).1 h)

/-- A search comes to what the first attempt comes to that succeeds. -/
lemma exists_of_tries_scan {n done : Nat} {last : Option Nat} (hk : k + n = s.size)
    (h : Tries s 0 [p.scan groups k done last] r) :
    (∃ j t, k ≤ j ∧ j ≤ s.size ∧ r = some t ∧ Tries s 0 [p.attempt groups j] (some t) ∧
        ∀ i, k ≤ i → i < j → Tries s 0 [p.attempt groups i] none) ∨
      (r = none ∧ ∀ i, k ≤ i → i ≤ s.size → Tries s 0 [p.attempt groups i] none) := by
  -- On the number of characters that are left to be passed over.
  induction n generalizing k done last with
  | zero =>
    rcases (tries_scan h).split with ⟨t, rfl, ht⟩ | ⟨hnone, h⟩
    · exact .inl ⟨k, t, Nat.le_refl _, by omega, rfl, ht, fun i hi hi' => by omega⟩
    · refine .inr ⟨tries_passOver_end (by omega) h, fun i hi hi' => ?_⟩
      obtain rfl : k = i := by omega
      exact hnone
  | succ n ih =>
    rcases (tries_scan h).split with ⟨t, rfl, ht⟩ | ⟨hnone, h⟩
    · exact .inl ⟨k, t, Nat.le_refl _, by omega, rfl, ht, fun i hi hi' => by omega⟩
    · rcases ih (by omega) (tries_passOver (by omega) h) with
        ⟨j, t, hj, hj', hr, ht, hbefore⟩ | ⟨hr, hnever⟩
      · exact .inl ⟨j, t, by omega, hj', hr, ht, forall_of_succ hnone hbefore⟩
      · exact .inr ⟨hr, forall_of_succ hnone hnever⟩

/-- A search comes to what the threads that search from the first place on come to. -/
lemma run_spec (hrun : p.run groups s ≠ .givenUp) :
    (∃ t, Tries s 0 [p.scan groups 0 0 none] (some t) ∧ p.run groups s = .found t.start) ∨
      (Tries s 0 [p.scan groups 0 0 none] none ∧ p.run groups s = .notFound) := by
  have hscan : ∀ {r}, Tries s 0
      [⟨[.carryOut p.search], 0, Array.replicate (2 * (groups + 1)) none, 0⟩] r →
      Tries s 0 [p.scan groups 0 0 none] r := by
    intro r h
    have hsequence := (Tries.step_iff rfl rfl rfl).1 h
    exact (Tries.step_iff rfl rfl rfl).1 hsequence
  have hplain : Thread.IsPlain
      ⟨[.carryOut p.search], 0, Array.replicate (2 * (groups + 1)) none, 0⟩ := by
    simp [Thread.IsPlain, Task.IsPlain]
  rcases Machine.run_spec hplain hrun with ⟨t, h, hfound⟩ | ⟨h, hnotFound⟩
  · exact .inl ⟨t, hscan h, hfound⟩
  · exact .inr ⟨hscan h, hnotFound⟩

/-- **A plan that does not move the start of the match finds the leftmost one**, unless its run is
given up. -/
theorem run_eq_found_iff (hkeeps : p.movesStart = false) (hrun : p.run groups s ≠ .givenUp) :
    p.run groups s = .found k ↔
      k ≤ s.size ∧ p.MatchesAt groups s k ∧ ∀ j < k, ¬ p.MatchesAt groups s j := by
  have hfail : ∀ {j}, Tries s 0 [p.attempt groups j] none → ¬ p.MatchesAt groups s j := by
    rintro j hnone ⟨t, ht⟩
    exact absurd (hnone.unique ht) (by simp)
  -- Nothing in the pattern moves the start, so a thread reports the place it was begun at.
  have hstart : ∀ {j t}, Tries s 0 [p.attempt groups j] (some t) → t.start = j := by
    intro j t ht
    refine ht.start_eq (List.forall_mem_singleton.2 ⟨?_, rfl, ?_⟩) t rfl
    · simp [attempt, Thread.IsPlain, Task.IsPlain]
    · simpa [attempt, Task.movesStart] using hkeeps
  rcases run_spec hrun with ⟨t, htries, hfound⟩ | ⟨htries, hnotFound⟩
  · rcases exists_of_tries_scan (Nat.zero_add s.size) htries with
      ⟨j, t', -, hj, htt', ht', hbefore⟩ | ⟨hr, -⟩
    · obtain rfl := Option.some.inj htt'
      -- The first thread that ends gives the answer, and every start before it has failed.
      obtain rfl := hstart ht'
      rw [hfound]
      constructor
      · intro h
        obtain rfl : t.start = k := by simpa using h
        exact ⟨hj, ⟨t, ht'⟩, fun i hi => hfail (hbefore i (Nat.zero_le i) hi)⟩
      · rintro ⟨-, hmatch, hbefore'⟩
        exact congrArg Outcome.found
          (eq_of_first ⟨t, ht'⟩ (fun i hi => hfail (hbefore i (Nat.zero_le i) hi)) hmatch hbefore')
    · simp at hr
  · rcases exists_of_tries_scan (Nat.zero_add s.size) htries with
      ⟨j, t', -, hj, hr, -⟩ | ⟨-, hnever⟩
    · simp at hr
    · rw [hnotFound]
      constructor
      · intro h
        simp at h
      · rintro ⟨hk, hmatch, -⟩
        exact absurd hmatch (hfail (hnever k (Nat.zero_le k) hk))

end Plan

/-! ## Matchers -/

namespace Matcher

/-- A matcher has a match that starts its search at a place. -/
def MatchesAt : Matcher → Subject → Nat → Prop
  | .regular a => a.MatchesAt
  | .backtracking p groups => p.MatchesAt groups

/-- A test is given up: it went back too often or kept too much. -/
def GivesUp : Matcher → Subject → Prop
  | .regular _, _ => False
  | .backtracking p groups, s => p.run groups s = .givenUp

lemma not_givesUp {m : Matcher} {s : Subject} {k : Nat} (h : m.findStart? s = some k) :
    ¬ m.GivesUp s := by
  cases m with
  | regular a => exact not_false
  | backtracking p groups =>
    intro hgives
    simp [findStart?, show p.run groups s = .givenUp from hgives] at h

/-- **A test that is not given up finds the leftmost match** of a pattern that leaves the start of
the match alone. -/
theorem findStart?_eq_some_iff {t : PatternText} {m : Matcher} {s : Subject} {k : Nat}
    (hm : ofPatternText t = .ok m) (hkeeps : t.pattern.movesStart = false) (h : ¬ m.GivesUp s) :
    m.findStart? s = some k ↔ k ≤ s.size ∧ m.MatchesAt s k ∧ ∀ j < k, ¬ m.MatchesAt s j := by
  unfold ofPatternText at hm
  split at hm
  · cases ha : Automaton.ofPattern t.pattern with
    | error e => simp [ha, bind, Except.bind] at hm
    | ok a =>
      obtain rfl : Matcher.regular a = m := by simpa [ha] using hm
      exact Automaton.find?_eq_some_iff (Automaton.isClosed_of_ofPattern ha)
  · cases hp : Plan.ofPattern t.referred t.pattern with
    | error e => simp [hp, bind, Except.bind] at hm
    | ok p =>
      obtain rfl : Matcher.backtracking p t.groups = m := by simpa [hp] using hm
      refine Iff.trans ?_ (Plan.run_eq_found_iff (Plan.movesStart_of_ofPattern hp hkeeps) h)
      simp only [findStart?]
      cases p.run t.groups s <;> simp

end Matcher

end ComponentQuery.Regex
