import ComponentQuery.Regex.Pattern

/-!
# Subjects

The text that a pattern is tested against, as an array of characters, and the conditions that a
place in it can meet.  A place lies before the character of its number; the last place is after
all characters.
-/

namespace ComponentQuery.Regex

/-- The text that a pattern is tested against. -/
abbrev Subject := Array Char

/-- Whether a character belongs to a word. -/
def isWordChar (c : Char) : Bool := Unicode.CharSet.wordCharacters.containsCode c.toNat

namespace Subject

/-- The character before a place. -/
def before? (s : Subject) (i : Nat) : Option Char := if i = 0 then none else s[i - 1]?

/-- Whether a word character stands before a place. -/
def wordBefore (s : Subject) (i : Nat) : Bool := ((s.before? i).map isWordChar).getD false

/-- Whether a word character stands after a place. -/
def wordAfter (s : Subject) (i : Nat) : Bool := (s[i]?.map isWordChar).getD false

/-- Whether a place meets a condition. -/
def meets (s : Subject) (i : Nat) : Assertion → Bool
  | .startOfText => i == 0
  | .endOfText => i == s.size
  | .startOfLine => i == 0 || s.before? i == some '\n'
  | .endOfLine => i == s.size || s[i]? == some '\n'
  | .wordBoundary => s.wordBefore i != s.wordAfter i
  | .noWordBoundary => s.wordBefore i == s.wordAfter i
  | .startOfWord => !s.wordBefore i && s.wordAfter i
  | .endOfWord => s.wordBefore i && !s.wordAfter i

/-- Whether the character after a place passes a test. -/
def passes (s : Subject) (i : Nat) (test : CharTest) : Bool := (s[i]?.map test.accepts).getD false

/-- The characters between two places. -/
def between (s : Subject) (first last : Nat) : List Char := (s.extract first last).toList

/-- Whether a text stands after a place. -/
def hasAt (s : Subject) (i : Nat) (text : List Char) : Bool := s.between i (i + text.length) == text

end Subject

end ComponentQuery.Regex
