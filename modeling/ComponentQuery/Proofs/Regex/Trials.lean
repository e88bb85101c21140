import ComponentQuery.Regex.Backtracking
import Mathlib.Tactic.Common

/-!
# What threads come to

A machine that tries and goes back has limits, and the tasks that end a test cut into the states
that it keeps.  Without both, what it does is simple: of some threads in order, it looks for the
first that comes to the end of its tasks.  `Tries` says what that search comes to.  A task that
makes a test, such as a look ahead for what must not follow, is a `Trial` there: its thread
is searched by itself, and what the search comes to decides how to go on.

What threads come to is determined (`Tries.unique`), and threads that follow others matter only if
those come to nothing (`Tries.split`).  What a task does is independent of the tasks behind it
(`Task.exists_threads`), and a plan in which nothing moves the start of the match keeps it
(`Tries.start_eq`).
-/

namespace ComponentQuery.Regex

/-! ## Threads without a machine -/

/-- The threads that a move goes on with, in order of preference; none if it forgets states. -/
def Move.threads? : Move → Option (List Thread)
  | .goOn t => some [t]
  | .branch t other => some [t, other]
  | .alternatives ts => some ts
  | .fail => some []
  | .drop .. | .dropAndFail _ => none

/-- A test that is made before a thread goes on, and of which one success is enough: the thread of
the test, and with which thread to go on after a success and after a failure. -/
structure Trial where
  thread : Thread
  onSuccess : Thread → Option Thread
  onFailure : Option Thread

/-- The test that a task makes before anything else, if it makes one. -/
def Task.trial? (t : Thread) (rest : List Task) : Task → Option Trial
  | .carryOut (.atomic p) =>
    some ⟨t.withTasks [.carryOut p], fun t' => some (t'.withTasks rest), none⟩
  | .carryOut (.ahead true p) =>
    some ⟨t.withTasks [.carryOut p], fun _ => none, some (t.withTasks rest)⟩
  | .carryOut (.behind true length p) =>
    if t.place < length then none
    else
      some ⟨{ t with tasks := [.carryOut p], place := t.place - length }, fun _ => none,
        some (t.withTasks rest)⟩
  | .carryOut (.conditional c yes no) =>
    some ⟨t.withTasks [.carryOut c], fun t' => some (t'.first yes rest), some (t.first no rest)⟩
  | _ => none

/-- Of some threads, tried one after the other, the first that comes to an end, if one does. -/
inductive Tries (s : Subject) (searchFrom : Nat) : List Thread → Option Thread → Prop where
  | nil : Tries s searchFrom [] none
  | done {t : Thread} {ts : List Thread} (htasks : t.tasks = []) :
      Tries s searchFrom (t :: ts) (some t)
  | step {t : Thread} {ts us : List Thread} {task : Task} {rest : List Task} {r : Option Thread}
      (htasks : t.tasks = task :: rest) (htrial : task.trial? t rest = none)
      (hmove : (task.move s searchFrom 0 t rest).threads? = some us)
      (h : Tries s searchFrom (us ++ ts) r) : Tries s searchFrom (t :: ts) r
  | accepted {t t' : Thread} {ts : List Thread} {task : Task} {rest : List Task} {trial : Trial}
      {r : Option Thread} (htasks : t.tasks = task :: rest)
      (htrial : task.trial? t rest = some trial) (h : Tries s searchFrom [trial.thread] (some t'))
      (hrest : Tries s searchFrom ((trial.onSuccess t').toList ++ ts) r) :
      Tries s searchFrom (t :: ts) r
  | rejected {t : Thread} {ts : List Thread} {task : Task} {rest : List Task} {trial : Trial}
      {r : Option Thread} (htasks : t.tasks = task :: rest)
      (htrial : task.trial? t rest = some trial) (h : Tries s searchFrom [trial.thread] none)
      (hrest : Tries s searchFrom (trial.onFailure.toList ++ ts) r) : Tries s searchFrom (t :: ts) r

namespace Tries

variable {s : Subject} {searchFrom : Nat} {ts us : List Thread} {t : Thread} {task : Task}
  {rest : List Task} {trial : Trial} {r r' : Option Thread}

lemma nil_iff : Tries s searchFrom [] r ↔ r = none := by
  constructor
  · intro h
    cases h
    rfl
  · rintro rfl
    exact .nil

lemma done_iff (htasks : t.tasks = []) : Tries s searchFrom (t :: ts) r ↔ r = some t := by
  constructor
  · intro h
    cases h <;> simp_all
  · rintro rfl
    exact .done htasks

lemma step_iff (htasks : t.tasks = task :: rest) (htrial : task.trial? t rest = none)
    (hmove : (task.move s searchFrom 0 t rest).threads? = some us) :
    Tries s searchFrom (t :: ts) r ↔ Tries s searchFrom (us ++ ts) r := by
  constructor
  · intro h
    cases h <;> simp_all
  · exact .step htasks htrial hmove

lemma trial_iff (htasks : t.tasks = task :: rest) (htrial : task.trial? t rest = some trial) :
    Tries s searchFrom (t :: ts) r ↔
      (∃ t', Tries s searchFrom [trial.thread] (some t') ∧
        Tries s searchFrom ((trial.onSuccess t').toList ++ ts) r) ∨
      (Tries s searchFrom [trial.thread] none ∧
        Tries s searchFrom (trial.onFailure.toList ++ ts) r) := by
  constructor
  · intro h
    cases h with
    | accepted htasks' htrial' h hrest =>
      obtain ⟨rfl, rfl⟩ := List.cons.inj (htasks.symm.trans htasks')
      obtain rfl := Option.some.inj (htrial.symm.trans htrial')
      exact .inl ⟨_, h, hrest⟩
    | rejected htasks' htrial' h hrest =>
      obtain ⟨rfl, rfl⟩ := List.cons.inj (htasks.symm.trans htasks')
      obtain rfl := Option.some.inj (htrial.symm.trans htrial')
      exact .inr ⟨h, hrest⟩
    | _ => simp_all
  · rintro (⟨t', h, hrest⟩ | ⟨h, hrest⟩)
    · exact .accepted htasks htrial h hrest
    · exact .rejected htasks htrial h hrest

/-- What threads come to is determined. -/
theorem unique (h : Tries s searchFrom ts r) (h' : Tries s searchFrom ts r') : r = r' := by
  induction h generalizing r' with
  | nil => exact (nil_iff.1 h').symm
  | done htasks => exact ((done_iff htasks).1 h').symm
  | step htasks htrial hmove _ ih => exact ih ((step_iff htasks htrial hmove).1 h')
  | accepted htasks htrial _ _ ih ihrest =>
    rcases (trial_iff htasks htrial).1 h' with ⟨t', h', hrest'⟩ | ⟨h', -⟩
    · obtain rfl := Option.some.inj (ih h')
      exact ihrest hrest'
    · nomatch ih h'
  | rejected htasks htrial _ _ ih ihrest =>
    rcases (trial_iff htasks htrial).1 h' with ⟨t', h', -⟩ | ⟨-, hrest'⟩
    · nomatch ih h'
    · exact ihrest hrest'

lemma tasks_eq_nil (h : Tries s searchFrom ts (some t)) : t.tasks = [] := by
  generalize hr : some t = r at h
  induction h with
  | nil => simp at hr
  | done htasks => exact Option.some.inj hr ▸ htasks
  | step _ _ _ _ ih => exact ih hr
  | accepted _ _ _ _ _ ih => exact ih hr
  | rejected _ _ _ _ _ ih => exact ih hr

/-- What threads and others behind them come to, the threads or the others come to. -/
theorem split {ts us : List Thread} (h : Tries s searchFrom (ts ++ us) r) :
    (∃ t, r = some t ∧ Tries s searchFrom ts (some t)) ∨
      (Tries s searchFrom ts none ∧ Tries s searchFrom us r) := by
  -- By induction on how the threads are tried: the one that is tried is the first of `ts`, or there
  -- are none in `ts`.
  generalize hl : ts ++ us = l at h
  induction h generalizing ts with
  | nil =>
    obtain ⟨rfl, rfl⟩ := List.append_eq_nil_iff.1 hl
    exact .inr ⟨.nil, .nil⟩
  | @done t ts' htasks =>
    rcases List.append_eq_cons_iff.1 hl with ⟨rfl, rfl⟩ | ⟨ts, rfl, -⟩
    · exact .inr ⟨.nil, .done htasks⟩
    · exact .inl ⟨t, rfl, .done htasks⟩
  | step htasks htrial hmove h ih =>
    rcases List.append_eq_cons_iff.1 hl with ⟨rfl, rfl⟩ | ⟨ts, rfl, rfl⟩
    · exact .inr ⟨.nil, .step htasks htrial hmove h⟩
    · exact (ih (List.append_assoc ..)).imp
        (fun ⟨t, hr, h⟩ => ⟨t, hr, .step htasks htrial hmove h⟩)
        (fun ⟨h, hus⟩ => ⟨.step htasks htrial hmove h, hus⟩)
  | accepted htasks htrial h hrest _ ih =>
    rcases List.append_eq_cons_iff.1 hl with ⟨rfl, rfl⟩ | ⟨ts, rfl, rfl⟩
    · exact .inr ⟨.nil, .accepted htasks htrial h hrest⟩
    · exact (ih (List.append_assoc ..)).imp
        (fun ⟨t, hr, hrest⟩ => ⟨t, hr, .accepted htasks htrial h hrest⟩)
        (fun ⟨hrest, hus⟩ => ⟨.accepted htasks htrial h hrest, hus⟩)
  | rejected htasks htrial h hrest _ ih =>
    rcases List.append_eq_cons_iff.1 hl with ⟨rfl, rfl⟩ | ⟨ts, rfl, rfl⟩
    · exact .inr ⟨.nil, .rejected htasks htrial h hrest⟩
    · exact (ih (List.append_assoc ..)).imp
        (fun ⟨t, hr, hrest⟩ => ⟨t, hr, .rejected htasks htrial h hrest⟩)
        (fun ⟨hrest, hus⟩ => ⟨.rejected htasks htrial h hrest, hus⟩)

end Tries

/-! ## Threads with more to do -/

/-- A thread with more tasks behind its own. -/
def Thread.extend (tail : List Task) (t : Thread) : Thread := t.withTasks (t.tasks ++ tail)

/-- A plan that makes no test goes on in the same ways whatever is to be done afterwards. -/
lemma Plan.threads?_move {s : Subject} {searchFrom : Nat} {t : Thread} {p : Plan}
    {rest : List Task} (htrial : (Task.carryOut p).trial? t rest = none) (kept : Nat)
    (tasks behind : List Task) :
    (p.move s searchFrom kept (t.withTasks tasks) behind).threads? =
      (p.move s searchFrom 0 t []).threads?.map (List.map (Thread.extend behind)) := by
  -- A plan looks at the place and the groups of the thread, not at its tasks, and only puts others
  -- before them.
  cases p with
  | ahead negative p =>
    cases negative with
    | false => rfl
    | true => simp [Task.trial?] at htrial
  | behind negative length p =>
    cases negative with
    | false =>
      simp only [Plan.move, apply_ite Move.threads?, apply_ite (Option.map _)]
      rfl
    | true =>
      have hlt : t.place < length := by simpa [Task.trial?] using htrial
      simp only [Plan.move, Thread.withTasks, hlt, if_true]
      rfl
  | atomic p => simp [Task.trial?] at htrial
  | conditional c yes no => simp [Task.trial?] at htrial
  | group | repetition | matchStart => rfl
  | sequence ps => simp [Plan.move, Move.threads?, Thread.extend, Thread.withTasks]
  | choice ps => simp [Plan.move, Move.threads?, Thread.extend, Thread.withTasks, Thread.first]
  | take | check | matched | searchStart =>
    simp only [Plan.move, apply_ite Move.threads?, apply_ite (Option.map _)]
    rfl
  | automaton a =>
    simp only [Plan.move, Thread.withTasks]
    cases a.matchEnd? s t.place <;> rfl
  | reference k =>
    have hfirst : (t.withTasks tasks).groupStart? k = t.groupStart? k := rfl
    have hlast : (t.withTasks tasks).groupEnd? k = t.groupEnd? k := rfl
    simp only [Plan.move, hfirst, hlast]
    split
    · simp only [apply_ite Move.threads?, apply_ite (Option.map _)]
      rfl
    · rfl

/-- A task that makes no test goes on in the same ways whatever is to be done afterwards. -/
lemma Task.threads?_move {s : Subject} {searchFrom : Nat} {t : Thread} {task : Task}
    {rest : List Task} (htrial : task.trial? t rest = none) (kept : Nat)
    (tasks behind : List Task) :
    (task.move s searchFrom kept (t.withTasks tasks) behind).threads? =
      (task.move s searchFrom 0 t []).threads?.map (List.map (Thread.extend behind)) := by
  cases task with
  | carryOut p => exact Plan.threads?_move htrial kept tasks behind
  | iterate p least most greedy guarded done last =>
    simp only [Task.move, apply_ite Move.threads?, apply_ite (Option.map _)]
    rfl
  | _ => rfl

/-! ## What threads go on with -/

/-- A task is none of those that forget states. -/
def Task.IsPlain : Task → Prop
  | .commit _ | .refute _ => False
  | _ => True

mutual

/-- Whether a plan can move the start of the match. -/
def Plan.movesStart : Plan → Bool
  | .matchStart => true
  | .sequence ps | .choice ps => Plan.someMovesStart ps
  | .group _ p | .repetition p .. | .ahead _ p | .behind _ _ p | .atomic p => p.movesStart
  | .conditional c yes no => c.movesStart || yes.movesStart || no.movesStart
  | _ => false

/-- Whether one of some plans can. -/
def Plan.someMovesStart : List Plan → Bool
  | [] => false
  | p :: ps => p.movesStart || Plan.someMovesStart ps

end

/-- Whether a task can move the start of the match. -/
def Task.movesStart : Task → Bool
  | .carryOut p => p.movesStart
  | .iterate p .. => p.movesStart
  | _ => false

lemma Plan.someMovesStart_eq_false_iff {ps : List Plan} :
    Plan.someMovesStart ps = false ↔ ∀ p ∈ ps, p.movesStart = false := by
  induction ps with
  | nil => simp [Plan.someMovesStart]
  | cons p ps ih => simp [Plan.someMovesStart, ih]

/-- How a thread goes on: with tasks that forget no states and, unless the start of the match may be
moved, with the same start and tasks that do not move it. -/
structure Thread.GoesOn (movesStart : Bool) (t u : Thread) : Prop where
  isPlain : ∀ task ∈ u.tasks, task.IsPlain
  start_eq : movesStart = false → u.start = t.start
  tasks_keep : movesStart = false → ∀ task ∈ u.tasks, task.movesStart = false

/-- A move goes on with threads, or with none, and forgets no states. -/
def Move.GoesOn (movesStart : Bool) (t : Thread) (m : Move) : Prop :=
  ∃ us, m.threads? = some us ∧ ∀ u ∈ us, t.GoesOn movesStart u

section

variable {movesStart : Bool} {t u v : Thread}

lemma Thread.GoesOn.of_tasks_eq_nil (htasks : u.tasks = []) (hstart : u.start = t.start) :
    t.GoesOn movesStart u :=
  ⟨by simp [htasks], fun _ => hstart, by simp [htasks]⟩

lemma Move.goesOn_fail : Move.fail.GoesOn movesStart t := ⟨[], rfl, by simp⟩

lemma Move.goesOn_goOn (h : t.GoesOn movesStart u) : (Move.goOn u).GoesOn movesStart t :=
  ⟨[u], rfl, by simpa using h⟩

lemma Move.goesOn_branch (hu : t.GoesOn movesStart u) (hv : t.GoesOn movesStart v) :
    (Move.branch u v).GoesOn movesStart t :=
  ⟨[u, v], rfl, by simpa using ⟨hu, hv⟩⟩

lemma Move.goesOn_ite {m m' : Move} {P : Prop} [Decidable P] (h : P → m.GoesOn movesStart t)
    (h' : ¬ P → m'.GoesOn movesStart t) : (if P then m else m').GoesOn movesStart t := by
  split
  · exact h ‹P›
  · exact h' ‹¬ P›

end

/-- A plan that makes no test fails or goes on with other threads. -/
lemma Plan.goesOn_move {s : Subject} {searchFrom : Nat} {t : Thread} {p : Plan}
    {rest : List Task} (htrial : (Task.carryOut p).trial? t rest = none) :
    (p.move s searchFrom 0 t []).GoesOn p.movesStart t := by
  -- A plan that looks at one place has done its task or fails; one made of others puts these in its
  -- stead.
  cases p with
  | atomic p => simp [Task.trial?] at htrial
  | conditional c yes no => simp [Task.trial?] at htrial
  | take | check | matched | searchStart =>
    exact Move.goesOn_ite (fun _ => Move.goesOn_goOn (.of_tasks_eq_nil rfl rfl))
      fun _ => Move.goesOn_fail
  | automaton a =>
    simp only [Plan.move]
    cases a.matchEnd? s t.place with
    | some i => exact Move.goesOn_goOn (.of_tasks_eq_nil rfl rfl)
    | none => exact Move.goesOn_fail
  | reference k =>
    simp only [Plan.move]
    split
    · exact Move.goesOn_ite (fun _ => Move.goesOn_goOn (.of_tasks_eq_nil rfl rfl))
        fun _ => Move.goesOn_fail
    · exact Move.goesOn_fail
  | matchStart =>
    exact Move.goesOn_goOn ⟨by simp, by simp [Plan.movesStart], by simp⟩
  | sequence ps =>
    refine Move.goesOn_goOn ⟨?_, fun _ => rfl, ?_⟩
    · simp [Thread.withTasks, Task.IsPlain]
    · simp [Thread.withTasks, Task.movesStart, Plan.movesStart, Plan.someMovesStart_eq_false_iff]
  | choice ps =>
    refine ⟨_, rfl, fun u hu => ?_⟩
    obtain ⟨p, hp, rfl⟩ := List.mem_map.1 hu
    refine ⟨?_, fun _ => rfl, fun hkeeps => ?_⟩
    · simp [Thread.first, Thread.withTasks, Task.IsPlain]
    · simpa [Thread.first, Thread.withTasks, Task.movesStart] using
        Plan.someMovesStart_eq_false_iff.1 hkeeps p hp
  | group k p =>
    exact Move.goesOn_goOn ⟨by simp [Task.IsPlain], fun _ => rfl,
      by simp [Task.movesStart, Plan.movesStart]⟩
  | repetition p least most greedy guarded =>
    exact Move.goesOn_goOn ⟨by simp [Thread.withTasks, Task.IsPlain], fun _ => rfl,
      by simp [Thread.withTasks, Task.movesStart, Plan.movesStart]⟩
  | ahead negative p =>
    cases negative with
    | true => simp [Task.trial?] at htrial
    | false =>
      exact Move.goesOn_goOn ⟨by simp [Thread.first, Thread.withTasks, Task.IsPlain], fun _ => rfl,
        by simp [Thread.first, Thread.withTasks, Task.movesStart, Plan.movesStart]⟩
  | behind negative length p =>
    cases negative with
    | false =>
      exact Move.goesOn_ite (fun _ => Move.goesOn_fail) fun _ => Move.goesOn_goOn
        ⟨by simp [Task.IsPlain], fun _ => rfl, by simp [Task.movesStart, Plan.movesStart]⟩
    | true =>
      have hlt : t.place < length := by simpa [Task.trial?] using htrial
      simp only [Plan.move, hlt, if_true]
      exact Move.goesOn_goOn (.of_tasks_eq_nil rfl rfl)

/-- A task that makes no test and forgets no states fails or goes on with other threads. -/
lemma Task.goesOn_move {s : Subject} {searchFrom : Nat} {t : Thread} {task : Task}
    {rest : List Task} (htrial : task.trial? t rest = none) (hplain : task.IsPlain) :
    (task.move s searchFrom 0 t []).GoesOn task.movesStart t := by
  cases task with
  | carryOut p => exact Plan.goesOn_move htrial
  | closeGroup k => exact Move.goesOn_goOn (.of_tasks_eq_nil rfl rfl)
  | comeBack i => exact Move.goesOn_goOn (.of_tasks_eq_nil rfl rfl)
  | commit kept => exact hplain.elim
  | refute kept => exact hplain.elim
  | iterate p least most greedy guarded done last =>
    have hleave : t.GoesOn p.movesStart (t.withTasks []) := .of_tasks_eq_nil rfl rfl
    have hagain : ∀ last, t.GoesOn p.movesStart
        (t.first p [.iterate p least most greedy guarded (done + 1) last]) := fun last =>
      ⟨by simp [Thread.first, Thread.withTasks, Task.IsPlain], fun _ => rfl,
        by simp [Thread.first, Thread.withTasks, Task.movesStart]⟩
    refine Move.goesOn_ite (fun _ => Move.goesOn_goOn hleave) fun _ => ?_
    refine Move.goesOn_ite (fun _ => Move.goesOn_goOn (hagain last)) fun _ => ?_
    exact Move.goesOn_ite (fun _ => Move.goesOn_branch (hagain _) hleave)
      fun _ => Move.goesOn_branch hleave (hagain _)

/-- A test that goes on: with its thread and, after it, with threads that have the tasks that were
left behind their own. -/
structure Trial.GoesOn (movesStart : Bool) (t : Thread) (rest : List Task) (trial : Trial) :
    Prop where
  thread : t.GoesOn movesStart trial.thread
  onSuccess : ∀ t', ∀ u ∈ trial.onSuccess t', ∃ v, t'.GoesOn movesStart v ∧ u = v.extend rest
  onFailure : ∀ u ∈ trial.onFailure, ∃ v, t.GoesOn movesStart v ∧ u = v.extend rest

lemma Task.goesOn_trial {t : Thread} {task : Task} {rest : List Task} {trial : Trial}
    (htrial : task.trial? t rest = some trial) : trial.GoesOn task.movesStart t rest := by
  have hfirst : ∀ {movesStart} (t : Thread) (p : Plan),
      (movesStart = false → p.movesStart = false) →
      t.GoesOn movesStart (t.withTasks [.carryOut p]) :=
    fun t p h => ⟨by simp [Thread.withTasks, IsPlain], fun _ => rfl,
      by simpa [Thread.withTasks, Task.movesStart] using h⟩
  have hdone : ∀ {movesStart} (t : Thread), t.GoesOn movesStart (t.withTasks []) := fun t =>
    .of_tasks_eq_nil rfl rfl
  unfold Task.trial? at htrial
  split at htrial
  case h_1 =>
    obtain rfl := Option.some.inj htrial
    refine ⟨hfirst _ _ id, ?_, by simp⟩
    simpa using fun t' => ⟨_, hdone t', rfl⟩
  case h_2 =>
    obtain rfl := Option.some.inj htrial
    refine ⟨hfirst _ _ id, by simp, ?_⟩
    simpa using ⟨_, hdone t, rfl⟩
  case h_3 =>
    split at htrial
    · simp at htrial
    · obtain rfl := Option.some.inj htrial
      refine ⟨⟨by simp [IsPlain], fun _ => rfl, by simp [Task.movesStart, Plan.movesStart]⟩,
        by simp, ?_⟩
      simpa using ⟨_, hdone t, rfl⟩
  case h_4 c yes no =>
    -- a conditional: its branches are tried from the thread where the condition ends
    obtain rfl := Option.some.inj htrial
    simp only [Task.movesStart, Plan.movesStart]
    refine ⟨hfirst _ c (by simp +contextual), ?_, ?_⟩
    · simpa using fun t' => ⟨_, hfirst t' yes (by simp +contextual), rfl⟩
    · simpa using ⟨_, hfirst t no (by simp +contextual), rfl⟩
  case h_5 => simp at htrial

/-- A thread forgets no states. -/
def Thread.IsPlain (t : Thread) : Prop := ∀ task ∈ t.tasks, task.IsPlain

lemma Thread.IsPlain.of_tasks_eq_cons {t : Thread} {task : Task} {rest : List Task}
    (ht : t.IsPlain) (htasks : t.tasks = task :: rest) :
    task.IsPlain ∧ ∀ task ∈ rest, task.IsPlain := by
  rw [IsPlain, htasks] at ht
  exact List.forall_mem_cons.1 ht

/-- A thread forgets no states and has a match start at a place, wherever it gets to. -/
structure Thread.KeepsStart (k : Nat) (t : Thread) : Prop where
  isPlain : t.IsPlain
  start_eq : t.start = k
  tasks_keep : ∀ task ∈ t.tasks, task.movesStart = false

namespace Thread.GoesOn

variable {movesStart : Bool} {t u : Thread} {rest : List Task} {k : Nat}

lemma isPlain_extend (h : t.GoesOn movesStart u) (hrest : ∀ task ∈ rest, task.IsPlain) :
    (u.extend rest).IsPlain := by
  intro task htask
  rcases List.mem_append.1 htask with htask | htask
  · exact h.isPlain task htask
  · exact hrest task htask

lemma keepsStart (h : t.GoesOn false u) (hstart : t.start = k) : u.KeepsStart k :=
  ⟨h.isPlain, (h.start_eq rfl).trans hstart, h.tasks_keep rfl⟩

lemma keepsStart_extend (h : t.GoesOn false u) (hstart : t.start = k)
    (hplain : ∀ task ∈ rest, task.IsPlain) (hrest : ∀ task ∈ rest, task.movesStart = false) :
    (u.extend rest).KeepsStart k := by
  refine ⟨h.isPlain_extend hplain, (h.start_eq rfl).trans hstart, fun task htask => ?_⟩
  rcases List.mem_append.1 htask with htask | htask
  · exact h.tasks_keep rfl task htask
  · exact hrest task htask

end Thread.GoesOn

/-- A task that makes no test goes on with the same threads whatever is behind it. -/
lemma Task.exists_threads (s : Subject) (searchFrom : Nat) {t : Thread} {task : Task}
    {rest : List Task} (htrial : task.trial? t rest = none) (hplain : task.IsPlain) :
    ∃ us : List Thread, (∀ u ∈ us, t.GoesOn task.movesStart u) ∧ ∀ kept tasks behind,
      (task.move s searchFrom kept (t.withTasks tasks) behind).threads? =
        some (us.map (Thread.extend behind)) := by
  have hmoves : (task.move s searchFrom 0 t []).GoesOn task.movesStart t :=
    goesOn_move htrial hplain
  obtain ⟨us, hmove, hgoesOn⟩ := hmoves
  refine ⟨us, hgoesOn, fun kept tasks behind => ?_⟩
  rw [threads?_move htrial, hmove]
  rfl

/-- The first task of a thread that keeps the start of the match keeps it, and so does what the
thread goes on with afterwards. -/
lemma Thread.KeepsStart.of_tasks_eq_cons {k : Nat} {t : Thread} {task : Task} {rest : List Task}
    (ht : t.KeepsStart k) (htasks : t.tasks = task :: rest) :
    task.IsPlain ∧ task.movesStart = false ∧ ∀ {t' u : Thread}, t'.start = k →
      t'.GoesOn task.movesStart u → (u.extend rest).KeepsStart k := by
  obtain ⟨htask, hrest⟩ := ht.isPlain.of_tasks_eq_cons htasks
  obtain ⟨hkeeps, hrest'⟩ := List.forall_mem_cons.1 (htasks ▸ ht.tasks_keep)
  exact ⟨htask, hkeeps, fun hstart hu => (hkeeps ▸ hu).keepsStart_extend hstart hrest hrest'⟩

theorem Tries.start_eq {s : Subject} {searchFrom k : Nat} {ts : List Thread} {r : Option Thread}
    (h : Tries s searchFrom ts r) (hts : ∀ t ∈ ts, t.KeepsStart k) : ∀ t ∈ r, t.start = k := by
  induction h with
  | nil => simp
  | done htasks => simpa using (hts _ List.mem_cons_self).start_eq
  | step htasks htrial hmove _ ih =>
    obtain ⟨ht, hts⟩ := List.forall_mem_cons.1 hts
    obtain ⟨hplain, -, hextend⟩ := ht.of_tasks_eq_cons htasks
    obtain ⟨us, hgoesOn, hmove'⟩ := Task.exists_threads s _ htrial hplain
    obtain rfl := Option.some.inj (hmove.symm.trans (hmove' 0 _ _))
    exact ih (List.forall_mem_append.2
      ⟨List.forall_mem_map.2 fun u hu => hextend ht.start_eq (hgoesOn u hu), hts⟩)
  | accepted htasks htrial _ _ ih ihrest =>
    obtain ⟨ht, hts⟩ := List.forall_mem_cons.1 hts
    obtain ⟨-, hkeeps, hextend⟩ := ht.of_tasks_eq_cons htasks
    have hgoesOn := Task.goesOn_trial htrial
    -- The thread that the test has come to starts where it did, and what goes on goes on from that
    -- one.
    have hfound := ih (List.forall_mem_singleton.2
      ((hkeeps ▸ hgoesOn.thread).keepsStart ht.start_eq)) _ rfl
    refine ihrest (List.forall_mem_append.2 ⟨fun u hu => ?_, hts⟩)
    obtain ⟨v, hv, rfl⟩ := hgoesOn.onSuccess _ u (by simpa using hu)
    exact hextend hfound hv
  | rejected htasks htrial _ _ ih ihrest =>
    obtain ⟨ht, hts⟩ := List.forall_mem_cons.1 hts
    obtain ⟨-, -, hextend⟩ := ht.of_tasks_eq_cons htasks
    refine ihrest (List.forall_mem_append.2 ⟨fun u hu => ?_, hts⟩)
    obtain ⟨v, hv, rfl⟩ := (Task.goesOn_trial htrial).onFailure u (by simpa using hu)
    exact hextend ht.start_eq hv

end ComponentQuery.Regex
