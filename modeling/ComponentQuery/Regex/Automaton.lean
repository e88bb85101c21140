import ComponentQuery.Regex.PatternError
import ComponentQuery.Regex.Subject

/-!
# Regular patterns as automata

A regular pattern is laid out as a list of instructions, of which every one leads to its neighbour
or to a place at a fixed distance.  A run goes through pairs of an instruction and a place of
the subject, depth first, in the order of preference of the alternatives, and enters no pair twice:
what has failed once fails again.  So a test takes time in proportion to the product of the
lengths of pattern and subject, and the match found is the preferred one.
-/

namespace ComponentQuery.Regex

/-- An instruction.  Distances count from the instruction itself. -/
inductive Instruction where
  /-- Takes a character that passes a test. -/
  | take (test : CharTest)
  | check (a : Assertion)
  /-- Goes on at one of two distances, the first one preferred. -/
  | fork (preferred other : Int)
  | jump (distance : Int)
deriving Repr

/-- An automaton: its instructions, after the last of which it has found a match. -/
structure Automaton where
  code : Array Instruction

namespace Automaton

/-! ## Layout -/

/-- A fork that prefers to enter what follows it if it is greedy, and else to pass `size`
instructions by. -/
def enter (greedy : Bool) (size : Nat) : Instruction :=
  if greedy then .fork 1 (size + 1) else .fork (size + 1) 1

/-- A fork that prefers to go `size` instructions back if it is greedy, and else to go on. -/
def goBack (greedy : Bool) (size : Nat) : Instruction :=
  if greedy then .fork (-size) 1 else .fork 1 (-size)

/-- Alternatives, each laid out already. -/
def layChoice : List (List Instruction) → List Instruction
  | [] => []
  | [code] => code
  | code :: others =>
    let rest := layChoice others
    .fork 1 (code.length + 2) :: code ++ .jump (rest.length + 1) :: rest

/-- Up to `n` optional copies, each of which is only reached through the one before. -/
def layOptional (greedy : Bool) (code : List Instruction) : Nat → List Instruction
  | 0 => []
  | n + 1 =>
    let rest := layOptional greedy code n
    enter greedy (code.length + rest.length) :: code ++ rest

/-- Any number of copies.  What can match nothing is wrapped in an option around a loop that runs at
least once, so that it is entered before the loop is left. -/
def layLoop (greedy canBeEmpty : Bool) (code : List Instruction) : List Instruction :=
  if canBeEmpty then
    enter greedy (code.length + 1) :: code ++ [goBack greedy code.length]
  else enter greedy (code.length + 1) :: code ++ [.jump (-(code.length + 1 : Int))]

/-- Copies between two limits. -/
def layRepetition (greedy canBeEmpty : Bool) (least : Nat) (most : Option Nat)
    (code : List Instruction) : List Instruction :=
  match most with
  | some most =>
    (List.replicate least code).flatten ++ layOptional greedy code (most - least)
  | none =>
    match least with
    | 0 => layLoop greedy canBeEmpty code
    | least + 1 =>
      (List.replicate least code).flatten ++ code ++ [goBack greedy code.length]

mutual

/-- The instructions of a regular pattern; what is not regular has none. -/
def lay : Pattern → List Instruction
  | .char test => [.take test]
  | .assertion a => [.check a]
  | .sequence ps => laySequence ps
  | .choice ps => layChoice (layEach ps)
  | .group _ p => lay p
  | .repetition p least most greedy =>
    layRepetition greedy (p.minLength == 0) least most (lay p)
  | _ => []

/-- The instructions of patterns one after the other. -/
def laySequence : List Pattern → List Instruction
  | [] => []
  | p :: ps => lay p ++ laySequence ps

/-- The instructions of every one of some patterns. -/
def layEach : List Pattern → List (List Instruction)
  | [] => []
  | p :: ps => lay p :: layEach ps

end

/-! ## Limits -/

/-- The bytes that a state takes. -/
def stateRoom : Nat := 32

/-- The bytes that a state takes which tests for some bytes. -/
def testRoom (bytes : Nat) : Nat :=
  if bytes = 1 then stateRoom else stateRoom + 8 * bytes

/-- The bytes that a state takes from which several others can be reached. -/
def forkRoom (ways : Nat) : Nat := stateRoom + 4 * ways

/-- The bytes that the states take which test for all characters but for a few. -/
def broadRoom : Nat := 24 * stateRoom

/-- The bytes that the states of a set take, about two states for each range in its
description. -/
def setRoom : ClassSet → Nat
  | .empty => 0
  | .range .. => 2 * stateRoom
  | .property s => (s.tables.map (·.bounds.size)).foldl (· + ·) 0 * stateRoom
  | .union a b => setRoom a + setRoom b
  | .combine _ a b => setRoom a + setRoom b
  | .bracket negated inside => setRoom inside + if negated then broadRoom else 0

/-- The bytes that the states of a test take.  An ASCII letter takes one state, also if case does
not count, and another character as many as its encoding has bytes. -/
def charTestRoom : CharTest → Nat
  | .any => broadRoom
  | .notNewline => broadRoom
  | .literal c ignoreCase =>
    let variants := if ignoreCase then (Unicode.caseVariants c.toNat).length else 1
    if c.toNat < 0x80 then testRoom variants else variants * c.utf8Size * stateRoom
  | .oneOf s _ => setRoom s

mutual

/-- The bytes that the states of a pattern take, all repetitions being written out. -/
def room : Pattern → Nat
  | .char test => charTestRoom test
  | .sequence ps => rooms ps
  | .choice ps => rooms ps + forkRoom ps.length + stateRoom
  | .group _ p => room p + 2 * stateRoom
  | .repetition p least (some most) _ =>
    least * room p + (most - least) * (room p + forkRoom 2) + stateRoom
  | .repetition p least none _ => max least 1 * room p + forkRoom 2
  | _ => stateRoom

/-- The bytes that the states of some patterns take. -/
def rooms : List Pattern → Nat
  | [] => 0
  | p :: ps => room p + rooms ps

end

mutual

/-- Whether a repetition in a pattern has a lower limit above its upper one. -/
def hasReversedLimits : Pattern → Bool
  | .sequence ps => someReversedLimits ps
  | .choice ps => someReversedLimits ps
  | .group _ p => hasReversedLimits p
  | .repetition p least most _ => most.any (· < least) || hasReversedLimits p
  | _ => false

/-- Whether one of some patterns has such a repetition. -/
def someReversedLimits : List Pattern → Bool
  | [] => false
  | p :: ps => hasReversedLimits p || someReversedLimits ps

end

/-- The bytes that the states of a regular pattern may take. -/
def maxRoom : Nat := 0xa00000

/-- The automaton of a regular pattern. -/
def ofPattern (p : Pattern) : Except PatternError Automaton :=
  if hasReversedLimits p then .error .reversedLimits
  else if room p > maxRoom then .error .tooLarge
  else .ok ⟨(lay p).toArray⟩

/-! ## Runs -/

/-- Which pairs of an instruction and a place have been entered: the pairs of a place stand
together. -/
abbrev Visited := Array Bool

/-- No pair has been entered. -/
def unvisited (a : Automaton) (s : Subject) : Visited :=
  Array.replicate ((a.code.size + 1) * (s.size + 1)) false

/-- The number of a pair. -/
def pairNumber (a : Automaton) (pc i : Nat) : Nat := i * (a.code.size + 1) + pc

/-- The instruction at a distance. -/
def target (pc : Nat) (distance : Int) : Nat := (pc + distance).toNat

/-- The pairs that a pair leads to, in order of preference. -/
def successors (s : Subject) (pc i : Nat) : Instruction → List (Nat × Nat)
  | .take test => if s.passes i test then [(pc + 1, i + 1)] else []
  | .check a => if s.meets i a then [(pc + 1, i)] else []
  | .fork preferred other => [(target pc preferred, i), (target pc other, i)]
  | .jump distance => [(target pc distance, i)]

/-- Runs from the pairs of `stack`, the first one preferred: the place where the preferred match
ends, if there is a match, and the pairs entered until then. -/
def run (a : Automaton) (s : Subject) : Nat → Visited → List (Nat × Nat) → Option Nat × Visited
  | 0, visited, _ => (none, visited)
  | _, visited, [] => (none, visited)
  | fuel + 1, visited, (pc, i) :: stack =>
    let number := a.pairNumber pc i
    if visited.getD number true then run a s fuel visited stack
    else
      let visited := visited.setIfInBounds number true
      match a.code[pc]? with
      | none => (some i, visited)
      | some instruction => run a s fuel visited (successors s pc i instruction ++ stack)

/-- A number of steps that no run exceeds: each pair is entered once and leads to at most two. -/
def stepBound (a : Automaton) (s : Subject) : Nat :=
  2 * ((a.code.size + 1) * (s.size + 1)) + 2

/-- Where the preferred match that starts at a place ends. -/
def matchEnd? (a : Automaton) (s : Subject) (start : Nat) : Option Nat :=
  (run a s (a.stepBound s) (a.unvisited s) [(0, start)]).1

/-- The first place from `start` on where a match starts; `count` places are tried.  What has been
entered from one place need not be entered from the next. -/
def findFrom (a : Automaton) (s : Subject) : Nat → Nat → Visited → Option Nat
  | 0, _, _ => none
  | count + 1, start, visited =>
    match run a s (a.stepBound s) visited [(0, start)] with
    | (some _, _) => some start
    | (none, visited) => findFrom a s count (start + 1) visited

/-- Where the leftmost match starts. -/
def find? (a : Automaton) (s : Subject) : Option Nat :=
  a.findFrom s (s.size + 1) 0 (a.unvisited s)

end Automaton

end ComponentQuery.Regex
