import ComponentQuery.Regex.Automaton

/-!
# Plans of patterns that are not regular

A pattern that is not regular is tested by trying and going back.  Its plan says how: what is
regular in it is left to automata, each of which offers its preferred match and no other, and the
rest is taken apart.  Regular parts at the start of a sequence are joined if they have a
fixed length.  At its end they are joined too: those of a fixed length always, the others only where
nothing after the sequence could ask them for another match.

`Plan.ofPattern` makes the plan, given whether something after the pattern could ask for another
match of it.
-/

namespace ComponentQuery.Regex

/-- How to test a pattern that is not regular. -/
inductive Plan where
  | take (test : CharTest)
  | automaton (a : Automaton)
  | check (a : Assertion)
  | sequence (parts : List Plan)
  | choice (alternatives : List Plan)
  | group (number : Nat) (inside : Plan)
  /-- With `guarded`, a match of nothing ends the repetition. -/
  | repetition (inside : Plan) (least : Nat) (most : Option Nat) (greedy guarded : Bool)
  | ahead (negative : Bool) (inside : Plan)
  | behind (negative : Bool) (length : Nat) (inside : Plan)
  | reference (group : Nat)
  | matched (group : Nat)
  | atomic (inside : Plan)
  | matchStart
  | searchStart
  | conditional (condition yes no : Plan)

namespace Plan

instance : Inhabited Plan := ⟨.sequence []⟩

/-- The plan of regular patterns that follow each other: none if there are none. -/
def joined : List Pattern → Except PatternError (List Plan)
  | [] => .ok []
  | [.char test] => .ok [.take test]
  | ps => do return [.automaton (← Automaton.ofPattern (.sequence ps))]

/-- A sequence cut in three: the regular parts at the start that have a fixed length, the middle,
and the regular parts at the end, which must have a fixed length too if `revisable`. -/
def cut (referred : List Nat) (revisable : Bool) (ps : List Pattern) :
    List Pattern × List Pattern × List Pattern :=
  let isFixedRegular (p : Pattern) := p.isFixed && p.isRegular referred
  let isLast (p : Pattern) := (!revisable || p.isFixed) && p.isRegular referred
  let rest := ps.dropWhile isFixedRegular
  let last := (rest.reverse.takeWhile isLast).reverse
  (ps.takeWhile isFixedRegular, rest.take (rest.length - last.length), last)

/-- A look behind for something of a fixed length. -/
def lookBehind (negative : Bool) (p : Pattern) (inside : Plan) : Except PatternError Plan :=
  if p.isFixed then .ok (.behind negative p.minLength inside) else .error .lookBehindLength

/-- Makes the plan of a pattern.  `revisable` tells whether something after it could ask
for another match.  Each step down takes one from `fuel`. -/
def make (referred : List Nat) : Nat → Bool → Pattern → Except PatternError Plan
  | 0, _, _ => .error .tooLarge
  | fuel + 1, revisable, p =>
    if !revisable && p.isRegular referred then do return .sequence (← joined [p])
    else
      match p with
      | .empty => .ok (.sequence [])
      | .char test => .ok (.take test)
      | .assertion a => .ok (.check a)
      | .sequence ps => do
        let (first, middle, last) := cut referred revisable ps
        let first ← joined first
        let middle ← middle.mapM (make referred fuel true)
        let last ← joined last
        return .sequence (first ++ middle ++ last)
      | .choice ps => do return .choice (← ps.mapM (make referred fuel revisable))
      | .group k p => do return .group k (← make referred fuel revisable p)
      | .repetition q least most greedy => do
        let isOption := least == 0 && most == some 1
        let inside ← make referred fuel (revisable || (!isOption && !p.isRegular referred)) q
        return .repetition inside least most greedy (most == none && q.minLength == 0)
      | .look .ahead negative q => do return .ahead negative (← make referred fuel false q)
      | .look .behind negative q =>
        match q with
        | .choice qs =>
          if q.isFixed then do
            lookBehind negative q (← make referred fuel false q)
          else do
            let looks ← qs.mapM fun r => do lookBehind negative r (← make referred fuel false r)
            return if negative then .sequence looks else .choice looks
        | _ => do lookBehind negative q (← make referred fuel false q)
      | .reference k => .ok (.reference k)
      | .matched k => .ok (.matched k)
      | .atomic q => do return .atomic (← make referred fuel false q)
      | .matchStart => .ok .matchStart
      | .searchStart => .ok .searchStart
      | .conditional c yes no => do
        return .conditional (← make referred fuel revisable c)
          (← make referred fuel revisable yes) (← make referred fuel revisable no)

end Plan

mutual

/-- How deeply a pattern is nested. -/
def Pattern.depth : Pattern → Nat
  | .sequence ps => Pattern.depths ps + 1
  | .choice ps => Pattern.depths ps + 1
  | .group _ p => p.depth + 1
  | .look _ _ p => p.depth + 1
  | .repetition p _ _ _ => p.depth + 1
  | .atomic p => p.depth + 1
  | .conditional c y n => max c.depth (max y.depth n.depth) + 1
  | _ => 1

/-- How deeply the deepest of some patterns is nested. -/
def Pattern.depths : List Pattern → Nat
  | [] => 0
  | p :: ps => max p.depth (Pattern.depths ps)

end

/-- The plan of a pattern whose matches something after it could ask to revise. -/
def Plan.ofPattern (referred : List Nat) (p : Pattern) : Except PatternError Plan :=
  Plan.make referred (2 * p.depth + 1) true p

end ComponentQuery.Regex
