import ComponentQuery.Regex.ClassSet

/-!
# Patterns

The syntax of regular expressions as a tree.  Brackets that do not capture leave no trace in it,
and every capturing group carries its number.

A pattern is *regular* when it can be decided by looking at each place of the subject once per
place of the pattern.  References back, looking around, groups that give nothing back and word
boundaries are not regular, nor is a group that is referred to.  `Pattern.minLength` and
`Pattern.isFixed` say how many characters a match takes at least, and whether it always takes so
many.
-/

namespace ComponentQuery.Regex

/-- A condition on a place of the subject. -/
inductive Assertion where
  | startOfText
  | endOfText
  | startOfLine
  | endOfLine
  | wordBoundary
  | noWordBoundary
  | startOfWord
  | endOfWord
deriving DecidableEq, Repr

/-- Whether the condition looks at the characters on both sides of a place. -/
def Assertion.isAboutWords : Assertion → Bool
  | .wordBoundary | .noWordBoundary | .startOfWord | .endOfWord => true
  | _ => false

/-- A test of one character. -/
inductive CharTest where
  | any
  | notNewline
  | literal (c : Char) (ignoreCase : Bool)
  | oneOf (s : ClassSet) (ignoreCase : Bool)
deriving Repr

/-- Whether a test accepts a character. -/
def CharTest.accepts : CharTest → Char → Bool
  | .any, _ => true
  | .notNewline, x => x != '\n'
  | .literal c ignoreCase, x => ClassSet.someVariant ignoreCase (· == c.toNat) x.toNat
  | .oneOf s ignoreCase, x => s.contains ignoreCase x.toNat

/-- Where a look-around looks. -/
inductive Direction where
  | ahead
  | behind
deriving DecidableEq, Repr

/-- A regular expression. -/
inductive Pattern where
  | empty
  | char (test : CharTest)
  | assertion (a : Assertion)
  | sequence (parts : List Pattern)
  | choice (alternatives : List Pattern)
  | group (number : Nat) (inside : Pattern)
  | look (direction : Direction) (negative : Bool) (inside : Pattern)
  /-- From `least` to `most` matches one after the other, without an upper limit if `most` is
  none. -/
  | repetition (inside : Pattern) (least : Nat) (most : Option Nat) (greedy : Bool)
  /-- The text that a group has matched. -/
  | reference (group : Nat)
  /-- A match of the inside that is never revised. -/
  | atomic (inside : Pattern)
  /-- The match is to begin here. -/
  | matchStart
  /-- The search has begun here. -/
  | searchStart
  /-- A group has matched. -/
  | matched (group : Nat)
  | conditional (condition yes no : Pattern)
deriving Repr

namespace Pattern

instance : Inhabited Pattern := ⟨.empty⟩

/-! ## Lengths -/

mutual

/-- The least number of characters that a match takes. -/
def minLength : Pattern → Nat
  | .char _ => 1
  | .sequence ps => sumMinLength ps
  | .choice [] => 0
  | .choice (p :: ps) => leastMinLength p.minLength ps
  | .group _ p => p.minLength
  | .repetition p least _ _ => p.minLength * least
  | .atomic p => p.minLength
  | .conditional c y n => c.minLength + min y.minLength n.minLength
  | _ => 0

/-- The least number of characters that matches one after the other take. -/
def sumMinLength : List Pattern → Nat
  | [] => 0
  | p :: ps => p.minLength + sumMinLength ps

/-- The smallest of a number and the least numbers of characters of some patterns. -/
def leastMinLength (least : Nat) : List Pattern → Nat
  | [] => least
  | p :: ps => leastMinLength (min least p.minLength) ps

end

mutual

/-- Whether all matches take the same number of characters, as far as the form of the pattern
tells. -/
def isFixed : Pattern → Bool
  | .sequence ps => allFixed ps
  | .choice [] => true
  | .choice (p :: ps) => p.isFixed && allFixedAt p.minLength ps
  | .group _ p => p.isFixed
  | .repetition p least most _ => p.isFixed && most == some least
  | .atomic p => p.isFixed
  | .reference _ => false
  | .conditional c y n =>
    c.isFixed && y.isFixed && n.isFixed && c.minLength + y.minLength == n.minLength
  | _ => true

/-- Whether all of some patterns have matches of one length each. -/
def allFixed : List Pattern → Bool
  | [] => true
  | p :: ps => p.isFixed && allFixed ps

/-- Whether all of some patterns have matches of the given length only. -/
def allFixedAt (length : Nat) : List Pattern → Bool
  | [] => true
  | p :: ps => p.isFixed && p.minLength == length && allFixedAt length ps

end

/-! ## Regular patterns -/

mutual

/-- Whether a pattern is regular, given the groups that are referred to. -/
def isRegular (referred : List Nat) : Pattern → Bool
  | .empty | .char _ => true
  | .assertion a => !a.isAboutWords
  | .sequence ps => allRegular referred ps
  | .choice ps => allRegular referred ps
  | .group k p => p.isRegular referred && !referred.contains k
  | .repetition p _ _ _ => p.isRegular referred
  | _ => false

/-- Whether all of some patterns are regular. -/
def allRegular (referred : List Nat) : List Pattern → Bool
  | [] => true
  | p :: ps => p.isRegular referred && allRegular referred ps

end

end Pattern

end ComponentQuery.Regex
