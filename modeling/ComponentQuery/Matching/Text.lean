import ComponentQuery.Selector.Operator
import ComponentQuery.Unicode.Case

/-!
# Relations between texts

When case does not count, texts are compared in upper case.
-/

namespace ComponentQuery

/-- The form of a text in which it is compared: itself, or its upper case if case does not count. -/
def caseForm (caseSensitive : Bool) (cs : List Char) : List Char :=
  if caseSensitive then cs else Unicode.upperCase cs

/-- Whether a text stands somewhere in another. -/
def occursIn (part : List Char) : List Char → Bool
  | [] => part.isEmpty
  | c :: cs => part.isPrefixOf (c :: cs) || occursIn part cs

/-- A text occurs in another if this is some text, the first one, and some text in a row. -/
theorem occursIn_iff_isInfix {part cs : List Char} : occursIn part cs = true ↔ part <:+: cs := by
  induction cs with
  | nil => simp [occursIn]
  | cons c cs ih => simp [occursIn, ih, List.infix_cons_iff]

/-- Whether what follows the part that two texts have in common is nothing or begins with a
dash. -/
def endsOrDash : List Char → Bool
  | [] => true
  | c :: _ => c == '-'

/-- Whether a text has a relation to a given one. -/
def TextRelation.holds : TextRelation → (subject given : List Char) → Bool
  | contains, s, v => occursIn v s
  | startsWith, s, v => v.isPrefixOf s
  | endsWith, s, v => v.isSuffixOf s
  | dashPrefix, s, v => v.isPrefixOf s && endsOrDash (s.drop v.length)
  | token, s, v => (s.splitOn ' ').contains v

end ComponentQuery
