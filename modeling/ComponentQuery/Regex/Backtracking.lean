import ComponentQuery.Regex.Plan

/-!
# Tests by trying and going back

A plan is carried out by a machine that works on a list of tasks and keeps, for every choice it
has made, the state in which the other alternative would be tried.  When a task fails, it
goes back to the last such state.  A machine gives up, and the test counts as failed, when it has
gone back `retreatLimit` times or keeps `choiceLimit` states.
-/

namespace ComponentQuery.Regex

/-- Something that a machine is yet to do. -/
inductive Task where
  | carryOut (p : Plan)
  /-- Goes on with a repetition after `done` matches of its inside, the last choice of which
  was made at `last`. -/
  | iterate (inside : Plan) (least : Nat) (most : Option Nat) (greedy guarded : Bool) (done : Nat)
    (last : Option Nat)
  | closeGroup (k : Nat)
  /-- Returns to a place. -/
  | comeBack (i : Nat)
  /-- Forgets all states but the first `kept`. -/
  | commit (kept : Nat)
  /-- Forgets all states but the first `kept` and fails. -/
  | refute (kept : Nat)

/-- Where a machine stands: what is to be done, the place, the limits of the groups, and where the
match starts. -/
structure Thread where
  tasks : List Task
  place : Nat
  limits : Array (Option Nat)
  start : Nat

/-- What a machine comes to. -/
inductive Outcome where
  | found (start : Nat)
  | notFound
  | givenUp
deriving DecidableEq, Repr

/-- What one task does. -/
inductive Move where
  | goOn (t : Thread)
  /-- Goes on with one thread and keeps another. -/
  | branch (t other : Thread)
  /-- Goes on with the first of some threads and keeps the others. -/
  | alternatives (ts : List Thread)
  /-- Goes on after all but the first `kept` states are forgotten. -/
  | drop (kept : Nat) (t : Thread)
  /-- Fails, after all but the first `kept` states are forgotten. -/
  | dropAndFail (kept : Nat)
  | fail

namespace Thread

/-- The first place of the last match of a group. -/
def groupStart? (t : Thread) (k : Nat) : Option Nat := t.limits.getD (2 * k) none

/-- The place after the last match of a group. -/
def groupEnd? (t : Thread) (k : Nat) : Option Nat := t.limits.getD (2 * k + 1) none

/-- Goes on with other tasks. -/
def withTasks (t : Thread) (tasks : List Task) : Thread := { t with tasks := tasks }

/-- Carries out a plan before the tasks that are left. -/
def first (t : Thread) (p : Plan) (rest : List Task) : Thread := t.withTasks (.carryOut p :: rest)

end Thread

/-- Carries out a plan, with `rest` to do afterwards; `kept` states are kept. -/
def Plan.move (s : Subject) (searchFrom kept : Nat) (t : Thread) (rest : List Task) : Plan → Move
  | .take test =>
    if s.passes t.place test then .goOn { t with tasks := rest, place := t.place + 1 } else .fail
  | .automaton a =>
    match a.matchEnd? s t.place with
    | some i => .goOn { t with tasks := rest, place := i }
    | none => .fail
  | .check a => if s.meets t.place a then .goOn (t.withTasks rest) else .fail
  | .sequence ps => .goOn (t.withTasks (ps.map .carryOut ++ rest))
  | .choice ps => .alternatives (ps.map fun p => t.first p rest)
  | .group k p =>
    .goOn { t with
      tasks := .carryOut p :: .closeGroup k :: rest
      limits := t.limits.setIfInBounds (2 * k) (some t.place) }
  | .repetition p least most greedy guarded =>
    .goOn (t.withTasks (.iterate p least most greedy guarded 0 none :: rest))
  | .ahead false p => .goOn (t.first p (.comeBack t.place :: rest))
  | .ahead true p => .branch (t.first p [.refute kept]) (t.withTasks rest)
  | .behind false length p =>
    if t.place < length then .fail
    else
      .goOn { t with
        tasks := .carryOut p :: .comeBack t.place :: rest
        place := t.place - length }
  | .behind true length p =>
    if t.place < length then .goOn (t.withTasks rest)
    else
      .branch { t with tasks := [.carryOut p, .refute kept], place := t.place - length }
        (t.withTasks rest)
  | .reference k =>
    match t.groupStart? k, t.groupEnd? k with
    | some first, some last =>
      let text := s.between first last
      if s.hasAt t.place text then .goOn { t with tasks := rest, place := t.place + text.length }
      else .fail
    | _, _ => .fail
  | .matched k =>
    if (t.groupStart? k).isSome then .goOn (t.withTasks rest) else .fail
  | .atomic p => .goOn (t.first p (.commit kept :: rest))
  | .matchStart => .goOn { t with tasks := rest, start := t.place }
  | .searchStart => if t.place = searchFrom then .goOn (t.withTasks rest) else .fail
  | .conditional c yes no =>
    .branch (t.first c (.commit kept :: .carryOut yes :: rest)) (t.first no rest)

/-- Does a task, with `rest` to do afterwards. -/
def Task.move (s : Subject) (searchFrom kept : Nat) (t : Thread) (rest : List Task) : Task → Move
  | .carryOut p => p.move s searchFrom kept t rest
  | .closeGroup k =>
    .goOn { t with
      tasks := rest
      limits := t.limits.setIfInBounds (2 * k + 1) (some t.place) }
  | .comeBack i => .goOn { t with tasks := rest, place := i }
  | .commit kept => .drop kept (t.withTasks rest)
  | .refute kept => .dropAndFail kept
  | .iterate p least most greedy guarded done last =>
    let leave := t.withTasks rest
    if most = some done ∨ (guarded ∧ 0 < done ∧ last = some t.place) then .goOn leave
    else
      let again (last : Option Nat) : Thread :=
        t.first p (.iterate p least most greedy guarded (done + 1) last :: rest)
      if done < least then .goOn (again last)
      else if greedy then .branch (again (some t.place)) leave
      else .branch leave (again (some t.place))

/-- How often a machine may go back. -/
def retreatLimit : Nat := 1000000

/-- How many states a machine may keep. -/
def choiceLimit : Nat := 1000000

/-- A number of steps that no machine comes to in any time. -/
def stepLimit : Nat := 0x4000000000000000

/-- A machine: the thread it works on, the threads it keeps with their number, and how often it has
gone back. -/
structure Machine where
  thread : Thread
  kept : List Thread
  height : Nat
  retreats : Nat

namespace Machine

/-- Forgets all states but the first `height`. -/
def forget (m : Machine) (height : Nat) : Machine :=
  { m with kept := m.kept.drop (m.height - height), height := min height m.height }

/-- Keeps one more state; none if there are too many. -/
def keep? (m : Machine) (t : Thread) : Option Machine :=
  if m.height < choiceLimit then
    some { m with kept := t :: m.kept, height := m.height + 1 }
  else none

/-- Keeps some states, the first of which is to be tried first. -/
def keepAll? (m : Machine) (ts : List Thread) : Option Machine :=
  ts.reverse.foldlM keep? m

/-- Goes back to the last state kept. -/
def retreat (m : Machine) : Machine ⊕ Outcome :=
  match m.kept with
  | [] => .inr .notFound
  | t :: kept =>
    if m.retreats < retreatLimit then .inl ⟨t, kept, m.height - 1, m.retreats + 1⟩
    else .inr .givenUp

/-- One step of a machine. -/
def step (s : Subject) (searchFrom : Nat) (m : Machine) : Machine ⊕ Outcome :=
  let goOn (m? : Option Machine) (t : Thread) : Machine ⊕ Outcome :=
    match m? with
    | some m => .inl { m with thread := t }
    | none => .inr .givenUp
  match m.thread.tasks with
  | [] => .inr (.found m.thread.start)
  | task :: rest =>
    match task.move s searchFrom m.height m.thread rest with
    | .goOn t => .inl { m with thread := t }
    | .branch t other => goOn (m.keep? other) t
    | .alternatives [] => m.retreat
    | .alternatives (t :: others) => goOn (m.keepAll? others) t
    | .drop kept t => .inl { m.forget kept with thread := t }
    | .dropAndFail kept => (m.forget kept).retreat
    | .fail => m.retreat

/-- Runs a machine for a number of steps. -/
def run (s : Subject) (searchFrom : Nat) : Nat → Machine → Outcome
  | 0, _ => .givenUp
  | fuel + 1, m =>
    match m.step s searchFrom with
    | .inl next => run s searchFrom fuel next
    | .inr outcome => outcome

end Machine

/-- A plan for the search through the whole subject: places are tried from the first one on, and the
match starts at the one that is tried. -/
def Plan.search (p : Plan) : Plan :=
  .sequence [.repetition (.take .any) 0 none false false, .matchStart, p]

/-- Looks for a match of a plan with the given number of groups. -/
def Plan.run (p : Plan) (groups : Nat) (s : Subject) : Outcome :=
  let thread : Thread :=
    ⟨[.carryOut p.search], 0, Array.replicate (2 * (groups + 1)) none, 0⟩
  Machine.run s 0 stepLimit ⟨thread, [], 0, 0⟩

end ComponentQuery.Regex
