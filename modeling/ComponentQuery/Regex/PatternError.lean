/-!
# What can be wrong with a pattern

The reasons for which the text of a regular expression is refused.
-/

namespace ComponentQuery.Regex

/-- A reason for which a pattern is refused. -/
inductive PatternError where
  /-- The text goes on where the pattern is complete. -/
  | textLeft
  /-- A bracket or comment is not closed. -/
  | unclosedGroup
  /-- Something that cannot be repeated is followed by a quantifier. -/
  | notRepeatable
  /-- Brackets are nested too deeply. -/
  | tooDeep
  /-- A backslash ends the pattern, or what follows it has no meaning. -/
  | badEscape
  /-- The digits of a numeric escape are missing or denote no character. -/
  | badCodePoint
  /-- A bracket expression is not closed or has a bad range. -/
  | badClass
  /-- There is no property of that name. -/
  | unknownProperty
  /-- The name of a group is missing or malformed. -/
  | badGroupName
  /-- There is no such group so far. -/
  | unknownGroup
  /-- Groups are referred to by number although some have names. -/
  | mixedReferences
  /-- A letter that is no flag stands among flags, or they are incomplete. -/
  | badFlags
  /-- A condition has no branches. -/
  | badCondition
  /-- What is looked for behind a place has no fixed length. -/
  | lookBehindLength
  /-- A repetition has a lower limit above its upper one. -/
  | reversedLimits
  /-- The pattern describes too many steps. -/
  | tooLarge
deriving DecidableEq, Repr

end ComponentQuery.Regex
