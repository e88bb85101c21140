import ComponentQuery.Regex.Backtracking
import ComponentQuery.Regex.PatternReading

/-!
# Matchers

A matcher is a pattern made ready for tests: an automaton if the pattern is regular, and a plan with
its number of groups otherwise.  `Matcher.findStart?` tells where the first match in a subject
starts.
-/

namespace ComponentQuery.Regex

/-- A pattern made ready for tests. -/
inductive Matcher where
  | regular (a : Automaton)
  | backtracking (p : Plan) (groups : Nat)

namespace Matcher

/-- Makes a pattern ready for tests. -/
def ofPatternText (t : PatternText) : Except PatternError Matcher :=
  if t.pattern.isRegular t.referred then do
    return .regular (← Automaton.ofPattern t.pattern)
  else do
    return .backtracking (← Plan.ofPattern t.referred t.pattern) t.groups

/-- Reads the text of a pattern and makes it ready for tests. -/
def ofText (cs : List Char) : Except PatternError Matcher := do
  ofPatternText (← Pattern.read cs)

/-- Where the first match in a subject starts.  A test that is given up counts as failed. -/
def findStart? : Matcher → Subject → Option Nat
  | .regular a, s => a.find? s
  | .backtracking p groups, s =>
    match p.run groups s with
    | .found start => some start
    | _ => none

end Matcher

end ComponentQuery.Regex
