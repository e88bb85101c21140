import ComponentQuery.Regex.ClassSet
import ComponentQuery.Regex.PatternError

/-!
# Reading bracket expressions

A bracket expression is read in two passes.  The first, which is part of the reading of patterns,
finds where the expression ends and turns its escapes into `ClassToken`s; here the tokens are read
as a set.  Inside the brackets a closing bracket that comes first is a character, and so
are hyphens at the start and before the end; a hyphen between two characters makes a range;
brackets may be nested; `&&`, `--` and `~~` stand for the set operations, which all bind alike, from
the left, and weaker than juxtaposition.
-/

namespace ComponentQuery.Regex

/-- A piece of a bracket expression. -/
inductive ClassToken where
  /-- A character as written, which may be punctuation of the expression. -/
  | plain (c : Char)
  /-- A character that stands for itself. -/
  | literal (c : Char)
  /-- The set of a shorthand or property escape. -/
  | set (s : ClassSet)
deriving Repr

namespace ClassReading

/-- An operation that waits for its right side, with its left side. -/
abbrev Pending := Option (SetOperation × ClassSet)

/-- The operation that two punctuation characters stand for. -/
def operation? : List ClassToken → Option (SetOperation × List ClassToken)
  | .plain '&' :: .plain '&' :: rest => some (.intersection, rest)
  | .plain '-' :: .plain '-' :: rest => some (.difference, rest)
  | .plain '~' :: .plain '~' :: rest => some (.symmetricDifference, rest)
  | _ => none

/-- The set read so far: the pending operation applied to the items after it. -/
def settle (pending : Pending) (items : List ClassSet) : ClassSet :=
  let right := ClassSet.unions items
  match pending with
  | none => right
  | some (op, left) => .combine op left right

/-- The characters up to a colon, and what follows them. -/
def nameTokens : List ClassToken → List Char × List ClassToken
  | .plain c :: rest =>
    if c = ':' then ([], .plain c :: rest)
    else let (cs, after) := nameTokens rest; (c :: cs, after)
  | tokens => ([], tokens)

/-- A named class, such as `[:digit:]`, whose opening bracket is behind. -/
def namedClass? : List ClassToken → Option (ClassSet × List ClassToken)
  | .plain ':' :: rest =>
    let (negated, rest) :=
      match rest with
      | .plain '^' :: rest => (true, rest)
      | _ => (false, rest)
    match nameTokens rest with
    | (name, .plain ':' :: .plain ']' :: after) =>
      (ClassSet.named? name).map fun s => (.bracket negated s, after)
    | _ => none
  | _ => none

/-- The character that a token stands for as the end of a range. -/
def endpoint? : ClassToken → Option Char
  | .plain c => some c
  | .literal c => some c
  | .set _ => none

/-- One item that is no bracket: a character, a range, or the set of an escape. -/
def item : ClassToken → List ClassToken → Except PatternError (ClassSet × List ClassToken)
  | first, .plain '-' :: next :: rest =>
    let alone : ClassSet × List ClassToken :=
      (match first with
        | .plain c | .literal c => ClassSet.single c
        | .set s => s, .plain '-' :: next :: rest)
    match next with
    | .plain ']' => .ok alone
    | .plain '-' => .ok alone
    | _ =>
      match endpoint? first, endpoint? next with
      | some a, some b =>
        if a ≤ b then .ok (.range a.toNat b.toNat, rest) else .error .badClass
      | _, _ => .error .badClass
  | .plain c, rest => .ok (ClassSet.single c, rest)
  | .literal c, rest => .ok (ClassSet.single c, rest)
  | .set s, rest => .ok (s, rest)

/-- The hyphens at the start of an expression. -/
def leadingHyphens : List ClassToken → List ClassSet × List ClassToken
  | .plain '-' :: rest =>
    let (items, after) := leadingHyphens rest
    (ClassSet.single '-' :: items, after)
  | tokens => ([], tokens)

/-- What stands at the start of an expression whose opening bracket is behind: its negation, and
the items that only stand there. -/
def opening (tokens : List ClassToken) : Bool × List ClassSet × List ClassToken :=
  let (negated, tokens) :=
    match tokens with
    | .plain '^' :: rest => (true, rest)
    | _ => (false, tokens)
  match leadingHyphens tokens with
  | ([], .plain ']' :: rest) => (negated, [ClassSet.single ']'], rest)
  | (items, rest) => (negated, items, rest)

mutual

/-- An expression whose opening bracket is behind, and the tokens after its closing one. -/
def bracket : Nat → List ClassToken → Except PatternError (ClassSet × List ClassToken)
  | 0, _ => .error .badClass
  | fuel + 1, tokens => do
    let (negated, items, tokens) := opening tokens
    let (inside, rest) ← entries fuel none items tokens
    return (.bracket negated inside, rest)

/-- The rest of an expression, given the operation that waits for its right side and the items of
that side so far. -/
def entries : Nat → Pending → List ClassSet → List ClassToken →
    Except PatternError (ClassSet × List ClassToken)
  | 0, _, _, _ => .error .badClass
  | fuel + 1, pending, items, tokens =>
    match operation? tokens with
    | some (op, rest) => entries fuel (some (op, settle pending items)) [] rest
    | none =>
      match tokens with
      | [] => .error .badClass
      | .plain ']' :: rest => .ok (settle pending items, rest)
      | .plain '[' :: rest =>
        match namedClass? rest with
        | some (s, rest) => entries fuel pending (items ++ [s]) rest
        | none => do
          let (s, rest) ← bracket fuel rest
          entries fuel pending (items ++ [s]) rest
      | first :: rest => do
        let (s, rest) ← item first rest
        entries fuel pending (items ++ [s]) rest

end

/-- The set of a whole expression whose opening bracket is behind. -/
def read (tokens : List ClassToken) : Except PatternError ClassSet := do
  let (s, rest) ← bracket (2 * tokens.length + 2) tokens
  if rest.isEmpty then return s else .error .badClass

end ClassReading

end ComponentQuery.Regex
