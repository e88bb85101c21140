import ComponentQuery.Number.Decimal
import ComponentQuery.Regex.ClassReading
import ComponentQuery.Regex.Pattern

/-!
# Reading patterns

The text of a regular expression, read as a `Pattern`.  The reader goes through the text once and
carries along which flags are set, which groups have been opened, and which groups are
referred to.  Flags set inside capturing brackets stay set after them; only brackets
that are opened for the flags alone bound their effect.

`Pattern.read` reads a whole text.
-/

namespace ComponentQuery.Regex

/-- The flags that a pattern can set for what follows. -/
structure Flags where
  ignoreCase : Bool := false
  /-- Anchors hold at every line. -/
  multiLine : Bool := false
  /-- The dot accepts line feeds. -/
  dotAll : Bool := false
  /-- Quantifiers are lazy, and greedy where they are marked. -/
  swapGreed : Bool := false
  /-- Blanks and comments in the pattern do not count. -/
  ignoreSpace : Bool := false
deriving DecidableEq, Repr

/-- What the reader knows at a place of the pattern. -/
structure Context where
  flags : Flags := {}
  /-- The number of capturing groups opened so far. -/
  opened : Nat := 0
  /-- The groups with names, the latest first. -/
  names : List (List Char × Nat) := []
  /-- Some group is referred to by an escaped number. -/
  byNumber : Bool := false
  /-- The groups that are referred to. -/
  referred : List Nat := []
deriving Repr

/-- What a reader gives: what it has read, what is known then, and the rest of the text. -/
abbrev Step (α : Type) := α × Context × List Char

/-! ## What does not count -/

/-- What is being passed over. -/
inductive Passing where
  | blanks
  | lineComment
  | groupComment
deriving DecidableEq, Repr

/-- The blanks that do not count where blanks are ignored. -/
def isIgnorable (c : Char) : Bool := c == ' ' || c == '\r' || c == '\n' || c == '\t'

/-- Passes over comments in brackets and, if they are ignored, blanks and comments up to the end of
a line. -/
def passOver (spaces : Bool) : Passing → List Char → Except PatternError (List Char)
  | .blanks, [] => .ok []
  | .blanks, '(' :: '?' :: '#' :: rest => passOver spaces .groupComment rest
  | .blanks, c :: rest =>
    if spaces && isIgnorable c then passOver spaces .blanks rest
    else if spaces && c == '#' then passOver spaces .lineComment rest
    else .ok (c :: rest)
  | .lineComment, [] => .ok []
  | .lineComment, c :: rest =>
    passOver spaces (if c = '\n' then .blanks else .lineComment) rest
  | .groupComment, [] => .error .unclosedGroup
  | .groupComment, ['\\'] => .error .unclosedGroup
  | .groupComment, '\\' :: _ :: rest => passOver spaces .groupComment rest
  | .groupComment, c :: rest =>
    passOver spaces (if c = ')' then .blanks else .groupComment) rest

/-- The text from the next character that counts. -/
def Flags.skip (f : Flags) (cs : List Char) : Except PatternError (List Char) :=
  passOver f.ignoreSpace .blanks cs

/-! ## Numbers and names -/

/-- The greatest number that may be written in a pattern. -/
def maxNumber : Nat := 0xffffffffffffffff

/-- The decimal number at the start of a text. -/
def number? (cs : List Char) : Option (Nat × List Char) :=
  let ds := cs.takeWhile Char.isDigit
  let n := Decimal.ofDigits ds
  if ds.isEmpty || n > maxNumber then none else some (n, cs.dropWhile Char.isDigit)

/-- The characters of group names. -/
def isNameChar (c : Char) : Bool :=
  c == '_' || Unicode.CharSet.alphanumeric.containsCode c.toNat

/-- A group name before a closing character. -/
def groupName? (closing : Char) (cs : List Char) : Option (List Char × List Char) :=
  let name := cs.takeWhile isNameChar
  match cs.dropWhile isNameChar with
  | c :: rest => if c = closing ∧ ¬ name.isEmpty then some (name, rest) else none
  | [] => none

/-! ## Quantifiers -/

/-- The limits of a repetition: the least number, and the most if there is one. -/
abbrev Limits := Nat × Option Nat

/-- Limits between braces, the opening one behind; none if the text has another form. -/
def limits? (f : Flags) (cs : List Char) : Option (Limits × List Char) := do
  let skip (cs : List Char) : Option (List Char) := (f.skip cs).toOption
  let cs ← skip cs
  let (least, cs) ←
    match cs with
    | ',' :: _ => some (0, cs)
    | _ => number? cs
  match ← skip cs with
  | '\x7d' :: rest => return ((least, some least), rest)
  | ',' :: rest =>
    let rest ← skip rest
    let (most, rest) :=
      match number? rest with
      | some (n, rest) => (some n, rest)
      | none => (none, rest)
    match ← skip rest with
    | '\x7d' :: rest => return ((least, most), rest)
    | _ => none
  | _ => none

/-- The limits that the quantifier at the start of a text sets; none if there is no quantifier. -/
def quantifier? (f : Flags) : List Char → Option (Limits × List Char)
  | '?' :: rest => some ((0, some 1), rest)
  | '*' :: rest => some ((0, none), rest)
  | '+' :: rest => some ((1, none), rest)
  | '\x7b' :: rest => limits? f rest
  | _ => none

/-- Whether a quantifier may follow a pattern. -/
def Pattern.isRepeatable : Pattern → Bool
  | .empty | .assertion _ | .look .. => false
  | _ => true

/-- A pattern with the quantifier that follows it, if one does: a question mark after the quantifier
changes its preference, and a plus makes the repetition atomic. -/
def quantified (p : Pattern) (ctx : Context) (cs : List Char) :
    Except PatternError (Step Pattern) := do
  let cs ← ctx.flags.skip cs
  match quantifier? ctx.flags cs with
  | none => return (p, ctx, cs)
  | some ((least, most), rest) =>
    if !p.isRepeatable then .error .notRepeatable
    else
      let rest ← ctx.flags.skip rest
      let (marked, rest) :=
        match rest with
        | '?' :: rest => (true, rest)
        | _ => (false, rest)
      let repetition := Pattern.repetition p least most (marked == ctx.flags.swapGreed)
      match rest with
      | '+' :: rest => return (.atomic repetition, ctx, rest)
      | _ => return (repetition, ctx, rest)

/-! ## Escapes -/

/-- What an escape stands for inside and outside of brackets alike; `folds` tells whether it
takes part in ignoring case. -/
inductive Escape where
  | char (c : Char) (folds : Bool)
  | set (s : ClassSet)
  | hexDigit (negated : Bool)
deriving Repr

/-- The value of a digit of base 16. -/
def hexValue? (c : Char) : Option Nat :=
  if c.isDigit then some (c.toNat - '0'.toNat)
  else if 'a' ≤ c ∧ c ≤ 'f' then some (c.toNat - 'a'.toNat + 10)
  else if 'A' ≤ c ∧ c ≤ 'F' then some (c.toNat - 'A'.toNat + 10)
  else none

/-- The character whose code point is written in base 16. -/
def charOfHex (cs : List Char) : Except PatternError Char :=
  let n := cs.foldl (fun n c => n * 16 + (hexValue? c).getD 0) 0
  if n.isValidChar then .ok (Char.ofNat n) else .error .badCodePoint

/-- A code point after its introducing letter: as many digits of base 16 as the letter asks for, or
up to eight between braces. -/
def codePoint (digits : Nat) (cs : List Char) : Except PatternError (Char × List Char) :=
  let isHex (c : Char) := (hexValue? c).isSome
  if (cs.take digits).length = digits ∧ (cs.take digits).all isHex then do
    return (← charOfHex (cs.take digits), cs.drop digits)
  else
    match cs with
    | '\x7b' :: rest =>
      let ds := rest.takeWhile isHex
      match rest.dropWhile isHex with
      | '\x7d' :: after =>
        if ds.isEmpty || ds.length > 8 then .error .badCodePoint
        else do return (← charOfHex ds, after)
      | _ => .error .badCodePoint
    | _ => .error .badCodePoint

/-- The set of a property query, or with `complemented` what is not in it. -/
def propertySet (complemented : Bool) (query : List Char) : Except PatternError ClassSet :=
  match Unicode.CharSet.query? query with
  | none => .error .unknownProperty
  | some q => .ok (.bracket (q.negated != complemented) (.property q.set))

/-- A property escape after its letter: one letter, or a query between braces. -/
def propertyEscape (complemented : Bool) :
    List Char → Except PatternError (ClassSet × List Char)
  | [] => .error .badEscape
  | '\x7b' :: rest =>
    match rest.dropWhile (· != '\x7d') with
    | _ :: after => do
      return (← propertySet complemented (rest.takeWhile (· != '\x7d')), after)
    | [] => .error .badEscape
  | c :: rest => do return (← propertySet complemented [c], rest)

/-- The characters that letters stand for when they are escaped. -/
def controlLetter? : Char → Option Char
  | 'a' => some '\x07'
  | 'e' => some '\x1b'
  | 'f' => some '\x0c'
  | 'n' => some '\n'
  | 'r' => some '\r'
  | 't' => some '\t'
  | 'v' => some '\x0b'
  | _ => none

/-- The letters that have a meaning outside of brackets only, where they are read before. -/
def isOuterLetter (c : Char) : Bool := "kAzBKG".toList.contains c

/-- An escape after its backslash, apart from those with a meaning outside of brackets only. -/
def sharedEscape : List Char → Except PatternError (Escape × List Char)
  | [] => .error .badEscape
  | 'd' :: rest => .ok (.set .digit, rest)
  | 'D' :: rest => .ok (.set (.bracket true .digit), rest)
  | 's' :: rest => .ok (.set .space, rest)
  | 'S' :: rest => .ok (.set (.bracket true .space), rest)
  | 'w' :: rest => .ok (.set .word, rest)
  | 'W' :: rest => .ok (.set (.bracket true .word), rest)
  | 'h' :: rest => .ok (.hexDigit false, rest)
  | 'H' :: rest => .ok (.hexDigit true, rest)
  | 'x' :: rest => do let (c, rest) ← codePoint 2 rest; return (.char c true, rest)
  | 'u' :: rest => do let (c, rest) ← codePoint 4 rest; return (.char c true, rest)
  | 'U' :: rest => do let (c, rest) ← codePoint 8 rest; return (.char c true, rest)
  | 'p' :: rest => do let (s, rest) ← propertyEscape false rest; return (.set s, rest)
  | 'P' :: rest => do let (s, rest) ← propertyEscape true rest; return (.set s, rest)
  | 'b' :: rest => .ok (.char '\x08' false, rest)
  | c :: rest =>
    match controlLetter? c with
    | some control => .ok (.char control false, rest)
    | none =>
      if c.isAlpha && !isOuterLetter c then .error .badEscape else .ok (.char c false, rest)

/-! ## Bracket expressions -/

/-- The hexadecimal digits, or with `negated` all else, as a bracket expression of their own. -/
def hexTokens (negated : Bool) : List ClassToken :=
  [.plain '['] ++ (if negated then [.plain '^'] else []) ++
    ("0-9A-Fa-f]".toList.map .plain)

/-- The tokens of an escape inside brackets. -/
def Escape.tokens : Escape → List ClassToken
  | .char c _ => [.literal c]
  | .set s => [.set s]
  | .hexDigit negated => hexTokens negated

/-- The tokens of a bracket expression up to the bracket that closes it, `nested` brackets being
open. -/
def classTokens : Nat → Nat → List Char → Except PatternError (List ClassToken × List Char)
  | 0, _, _ => .error .badClass
  | _, _, [] => .error .badClass
  | fuel + 1, nested, '\\' :: cs => do
    let (escape, rest) ←
      match cs with
      | d :: _ => if d.isDigit then .error .badClass else sharedEscape cs
      | [] => .error .badEscape
    let (tokens, after) ← classTokens fuel nested rest
    return (escape.tokens ++ tokens, after)
  | fuel + 1, nested, c :: cs =>
    if c = ']' ∧ nested = 1 then .ok ([.plain c], cs)
    else do
      let nested := if c = '[' then nested + 1 else if c = ']' then nested - 1 else nested
      let (tokens, after) ← classTokens fuel nested cs
      return (.plain c :: tokens, after)

/-- The tokens of a bracket expression whose opening bracket is behind.  A closing bracket that
comes first is passed over when the end is sought. -/
def wholeClass (cs : List Char) : Except PatternError (List ClassToken × List Char) := do
  let (start, cs) : List ClassToken × List Char :=
    match cs with
    | '^' :: ']' :: rest => ([.plain '^', .plain ']'], rest)
    | '^' :: rest => ([.plain '^'], rest)
    | ']' :: rest => ([.plain ']'], rest)
    | _ => ([], cs)
  let (tokens, rest) ← classTokens cs.length 1 cs
  return (start ++ tokens, rest)

/-! ## References -/

/-- A reference to a group. -/
def refer (group : Nat) (ctx : Context) (rest : List Char) : Step Nat :=
  (group, { ctx with referred := group :: ctx.referred }, rest)

/-- A reference by number. -/
def numberedReference (ctx : Context) (cs : List Char) : Except PatternError (Step Nat) :=
  match number? cs with
  | none => .error .unknownGroup
  | some (group, rest) => .ok (refer group { ctx with byNumber := true } rest)

/-- The group that a name stands for: a name that has been given, or a number. -/
def groupOf? (ctx : Context) (name : List Char) : Option Nat :=
  match ctx.names.lookup name with
  | some group => some group
  | none =>
    match number? name with
    | some (group, []) => some group
    | _ => none

/-- The group a number of places before the next group to be opened. -/
def groupBefore? (ctx : Context) (places : Nat) : Option Nat :=
  if 0 < places ∧ places ≤ ctx.opened + 1 then some (ctx.opened + 1 - places) else none

/-- A reference by name, by number or by the number of groups that lie between, before a closing
character. -/
def namedReference (closing : Char) (relative : Bool) (ctx : Context) (cs : List Char) :
    Except PatternError (Step Nat) :=
  match groupName? closing cs with
  | some (name, rest) =>
    match groupOf? ctx name with
    | some group => .ok (refer group ctx rest)
    | none => .error .unknownGroup
  | none =>
    match relative, cs with
    | true, '-' :: digits =>
      match number? digits with
      | some (places, c :: rest) =>
        if c = closing then
          match groupBefore? ctx places with
          | some group => .ok (refer group ctx rest)
          | none => .error .unknownGroup
        else .error .badGroupName
      | _ => .error .badGroupName
    | _, _ => .error .badGroupName

/-- A reference between quotation marks or pointed brackets. -/
def delimitedReference (ctx : Context) : List Char → Except PatternError (Step Nat)
  | '\'' :: rest => namedReference '\'' true ctx rest
  | '<' :: rest => namedReference '>' true ctx rest
  | _ => .error .badGroupName

/-- A reference whose group is one that has been opened before.  The whole match, which has the
number zero, is none. -/
def checkedGroup (step : Step Nat) : Except PatternError (Step Nat) :=
  let (group, ctx, _) := step
  if 0 < group ∧ group ≤ ctx.opened then .ok step else .error .unknownGroup

/-- The pattern of a reference. -/
def referencePattern (step : Step Nat) : Except PatternError (Step Pattern) := do
  let (group, ctx, rest) ← checkedGroup step
  return (.reference group, ctx, rest)

/-! ## Escapes outside of brackets -/

/-- What an escape stands for outside of brackets, the backslash being behind. -/
def outerEscape (ctx : Context) (cs : List Char) : Except PatternError (Step Pattern) :=
  let assertion (a : Assertion) (rest : List Char) : Except PatternError (Step Pattern) :=
    .ok (.assertion a, ctx, rest)
  match cs with
  | 'k' :: rest => do referencePattern (← delimitedReference ctx rest)
  | 'A' :: rest => assertion .startOfText rest
  | 'z' :: rest => assertion .endOfText rest
  | 'b' :: '\x7b' :: _ => .error .badEscape
  | 'B' :: '\x7b' :: _ => .error .badEscape
  | 'b' :: rest => assertion .wordBoundary rest
  | 'B' :: rest => assertion .noWordBoundary rest
  | '<' :: rest => assertion .startOfWord rest
  | '>' :: rest => assertion .endOfWord rest
  | 'K' :: rest => .ok (.matchStart, ctx, rest)
  | 'G' :: rest => .ok (.searchStart, ctx, rest)
  | _ =>
    if (cs.head?.map Char.isDigit).getD false then do
      referencePattern (← numberedReference ctx cs)
    else do
      let (escape, rest) ← sharedEscape cs
      let test : CharTest :=
        match escape with
        | .char c folds => .literal c (folds && ctx.flags.ignoreCase)
        | .set s => .oneOf s ctx.flags.ignoreCase
        | .hexDigit negated => .oneOf (.bracket negated .hexDigit) false
      return (.char test, ctx, rest)

/-! ## Groups -/

/-- How deeply brackets may be nested. -/
def maxDepth : Nat := 63

/-- A context in which one more capturing group is open. -/
def Context.openGroup (ctx : Context) : Context := { ctx with opened := ctx.opened + 1 }

/-- A context in which one more group with a name is open. -/
def Context.openNamed (ctx : Context) (name : List Char) : Context :=
  { ctx with opened := ctx.opened + 1, names := (name, ctx.opened + 1) :: ctx.names }

/-- Sets or clears the flag of a letter; none if the letter is no flag. -/
def Flags.set? (f : Flags) (on : Bool) : Char → Option Flags
  | 'i' => some { f with ignoreCase := on }
  | 'm' => some { f with multiLine := on }
  | 's' => some { f with dotAll := on }
  | 'U' => some { f with swapGreed := on }
  | 'x' => some { f with ignoreSpace := on }
  | 'u' => if on then some f else none
  | _ => none

/-- Flag letters after `(?` up to the closing bracket or colon: the flags that they set, whether a
colon ends them, and the rest.  `on` tells whether no hyphen has been read, `first` whether nothing
has, `hyphen` whether a hyphen stands just before. -/
def flagLetters : Nat → Flags → Bool → Bool → Bool → List Char →
    Except PatternError (Flags × Bool × List Char)
  | 0, _, _, _, _, _ => .error .unclosedGroup
  | fuel + 1, f, on, first, hyphen, cs => do
    let rest ← f.skip cs
    let moved := rest.length != cs.length
    let first := first && !moved
    let hyphen := hyphen && !moved
    match rest with
    | [] => .error .unclosedGroup
    | '-' :: rest =>
      if on then flagLetters fuel f false false true rest else .error .badFlags
    | ')' :: rest => if first || hyphen then .error .badFlags else return (f, false, rest)
    | ':' :: rest => if hyphen then .error .badFlags else return (f, true, rest)
    | c :: rest =>
      match f.set? on c with
      | some f => flagLetters fuel f on false false rest
      | none => .error .badFlags

/-- Passes over what does not count and the closing bracket of a group. -/
def closeGroup (ctx : Context) (cs : List Char) : Except PatternError (List Char) := do
  match ← ctx.flags.skip cs with
  | ')' :: rest => return rest
  | _ => .error .unclosedGroup

/-- One pattern for parts that follow each other. -/
def Pattern.ofParts : List Pattern → Pattern
  | [] => .empty
  | [p] => p
  | ps => .sequence ps

/-- A conditional of a condition and the pattern between it and the closing bracket: the
first alternative of that pattern is for the case that the condition holds, the others for the case
that it does not.  With nothing in between, the condition stands alone. -/
def Pattern.ofBranches (condition branches : Pattern) : Pattern :=
  let condition :=
    match condition with
    | .reference k => .matched k
    | p => p
  let (yes, no) : Pattern × Pattern :=
    match branches with
    | .choice (yes :: [no]) => (yes, no)
    | .choice (yes :: rest) => (yes, .choice rest)
    | p => (p, .empty)
  match yes, no with
  | .empty, .empty => condition
  | _, _ => .conditional condition yes no

/-- Whether a pattern asks for a group. -/
def Pattern.isReference : Pattern → Bool
  | .reference _ | .matched _ => true
  | _ => false

/-- The condition that a group has matched. -/
def matchedCondition (step : Step Nat) : Except PatternError (Step Pattern) := do
  let (group, ctx, rest) ← checkedGroup step
  return (.matched group, ctx, rest)

mutual

/-- Alternatives up to something that belongs to none. -/
def alternatives : Nat → Nat → Context → List Char → Except PatternError (Step Pattern)
  | 0, _, _, _ => .error .tooDeep
  | fuel + 1, depth, ctx, cs => do
    let (first, ctx, rest) ← branch fuel depth ctx cs
    let (others, ctx, rest) ← otherAlternatives fuel depth ctx rest
    if others.isEmpty then
      if ctx.byNumber && !ctx.names.isEmpty then .error .mixedReferences
      else return (first, ctx, rest)
    else return (.choice (first :: others), ctx, rest)

/-- The alternatives after the first, each after a bar. -/
def otherAlternatives : Nat → Nat → Context → List Char → Except PatternError (Step (List Pattern))
  | 0, _, _, _ => .error .tooDeep
  | fuel + 1, depth, ctx, cs => do
    match ← ctx.flags.skip cs with
    | '|' :: rest =>
      let (p, ctx, rest) ← branch fuel depth ctx rest
      let (ps, ctx, rest) ← otherAlternatives fuel depth ctx rest
      return (p :: ps, ctx, rest)
    | rest => return ([], ctx, rest)

/-- One alternative. -/
def branch : Nat → Nat → Context → List Char → Except PatternError (Step Pattern)
  | 0, _, _, _ => .error .tooDeep
  | fuel + 1, depth, ctx, cs => do
    let (ps, ctx, rest) ← pieces fuel depth ctx cs
    return (.ofParts ps, ctx, rest)

/-- The parts of an alternative: one after the other, until one takes nothing of the text. -/
def pieces : Nat → Nat → Context → List Char → Except PatternError (Step (List Pattern))
  | 0, _, _, _ => .error .tooDeep
  | fuel + 1, depth, ctx, cs => do
    if cs.isEmpty then return ([], ctx, cs)
    else
      let (p, next, rest) ← piece fuel depth ctx cs
      if rest.length = cs.length then return ([], ctx, cs)
      else
        let (ps, ctx, rest) ← pieces fuel depth next rest
        match p with
        | .empty => return (ps, ctx, rest)
        | p => return (p :: ps, ctx, rest)

/-- A part of an alternative with its quantifier. -/
def piece : Nat → Nat → Context → List Char → Except PatternError (Step Pattern)
  | 0, _, _, _ => .error .tooDeep
  | fuel + 1, depth, ctx, cs => do
    let (p, ctx, rest) ← atom fuel depth ctx cs
    quantified p ctx rest

/-- A part of an alternative without quantifier.  Where none starts, it is empty. -/
def atom : Nat → Nat → Context → List Char → Except PatternError (Step Pattern)
  | 0, _, _, _ => .error .tooDeep
  | fuel + 1, depth, ctx, cs => do
    let cs ← ctx.flags.skip cs
    match cs with
    | [] => return (.empty, ctx, [])
    | '.' :: rest => return (.char (if ctx.flags.dotAll then .any else .notNewline), ctx, rest)
    | '^' :: rest =>
      return (.assertion (if ctx.flags.multiLine then .startOfLine else .startOfText), ctx, rest)
    | '$' :: rest =>
      return (.assertion (if ctx.flags.multiLine then .endOfLine else .endOfText), ctx, rest)
    | '(' :: rest => if depth < maxDepth then bracketed fuel (depth + 1) ctx rest else .error .tooDeep
    | '\\' :: rest => outerEscape ctx rest
    | '[' :: rest =>
      let (tokens, rest) ← wholeClass rest
      let s ← ClassReading.read tokens
      return (.char (.oneOf s ctx.flags.ignoreCase), ctx, rest)
    | c :: rest =>
      if "+*?|)".toList.contains c then return (.empty, ctx, cs)
      else return (.char (.literal c ctx.flags.ignoreCase), ctx, rest)

/-- What stands between brackets, the opening one being behind, with what its first characters make
of it. -/
def bracketed : Nat → Nat → Context → List Char → Except PatternError (Step Pattern)
  | 0, _, _, _ => .error .tooDeep
  | fuel + 1, depth, ctx, cs => do
    let cs ← ctx.flags.skip cs
    match cs with
    | '?' :: '=' :: rest => wrapped fuel depth (.look .ahead false) ctx rest
    | '?' :: '!' :: rest => wrapped fuel depth (.look .ahead true) ctx rest
    | '?' :: '<' :: '=' :: rest => wrapped fuel depth (.look .behind false) ctx rest
    | '?' :: '<' :: '!' :: rest => wrapped fuel depth (.look .behind true) ctx rest
    | '?' :: '>' :: rest => wrapped fuel depth .atomic ctx rest
    | '?' :: '<' :: rest => named fuel depth ctx rest
    | '?' :: 'P' :: '<' :: rest => named fuel depth ctx rest
    | '?' :: 'P' :: '=' :: rest => referencePattern (← namedReference ')' false ctx rest)
    | '?' :: '(' :: rest => conditional fuel depth ctx rest
    | '?' :: rest => do
      let (flags, bounded, rest) ← flagLetters (rest.length + 1) ctx.flags true true false rest
      if bounded then
        let (p, after, rest) ← alternatives fuel depth { ctx with flags := flags } rest
        match rest with
        | ')' :: rest => return (p, { after with flags := ctx.flags }, rest)
        | _ => .error .unclosedGroup
      else return (.empty, { ctx with flags := flags }, rest)
    | _ => wrapped fuel depth (.group (ctx.opened + 1)) ctx.openGroup cs

/-- Alternatives up to the closing bracket, made into one pattern. -/
def wrapped : Nat → Nat → (Pattern → Pattern) → Context → List Char →
    Except PatternError (Step Pattern)
  | 0, _, _, _, _ => .error .tooDeep
  | fuel + 1, depth, wrap, ctx, cs => do
    let (p, ctx, rest) ← alternatives fuel depth ctx cs
    let rest ← closeGroup ctx rest
    return (wrap p, ctx, rest)

/-- A group with a name. -/
def named : Nat → Nat → Context → List Char → Except PatternError (Step Pattern)
  | 0, _, _, _ => .error .tooDeep
  | fuel + 1, depth, ctx, cs =>
    match groupName? '>' cs with
    | none => .error .badGroupName
    | some (name, rest) =>
      wrapped fuel depth (.group (ctx.opened + 1)) (ctx.openNamed name) rest

/-- A conditional, whose two opening brackets are behind. -/
def conditional : Nat → Nat → Context → List Char → Except PatternError (Step Pattern)
  | 0, _, _, _ => .error .tooDeep
  | fuel + 1, depth, ctx, cs => do
    let (condition, ctx, rest) ←
      match cs with
      | [] => .error .unclosedGroup
      | c :: _ =>
        if c = '\'' ∨ c = '<' then matchedCondition (← delimitedReference ctx cs)
        else if c.isDigit then matchedCondition (← numberedReference ctx cs)
        else alternatives fuel depth ctx cs
    let inside ← closeGroup ctx rest
    let (branches, ctx, rest) ← alternatives fuel depth ctx inside
    if rest.length = inside.length && !condition.isReference then .error .badCondition
    else
      let rest ← closeGroup ctx rest
      return (.ofBranches condition branches, ctx, rest)

end

/-- A pattern that has been read, with the number of its groups and those that it refers to. -/
structure PatternText where
  pattern : Pattern
  groups : Nat
  referred : List Nat
deriving Repr

/-- Reads the whole text of a pattern. -/
def Pattern.read (cs : List Char) : Except PatternError PatternText := do
  let (p, ctx, rest) ← alternatives (12 * (cs.length + 1)) 0 {} cs
  if rest.isEmpty then return ⟨p, ctx.opened, ctx.referred⟩ else .error .textLeft

end ComponentQuery.Regex
