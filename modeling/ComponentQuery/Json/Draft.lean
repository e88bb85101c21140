import ComponentQuery.Number.Decimal

/-!
# JSON texts, read as far as they go

A text need not be JSON to the end.  `Draft` is what can be read of one: a tree like a value, in
which every place where the text stops making sense is marked with a `Break`, telling whether the
text merely ends there or is malformed.  A draft loses nothing that a reader with expectations
might still want: duplicate members stay in the order in which they are written, numbers keep the
form they were written in, and strings remember a surrogate without its partner, which
matters only to a reader that wants the string.

`Draft.ofText` reads a whole text.  It never fails: what is left after the value is part of its
result.
-/

namespace ComponentQuery

/-- Why a text is not JSON from some place on: it ends too early, or it is malformed. -/
inductive Json.Break where
  | ends
  | malformed
deriving DecidableEq, Repr

namespace Json

/-- How the brackets of an array or object close: they do; something that is neither a comma nor the
closing bracket stands after the last entry; or nothing good stands after a comma. -/
inductive Closing where
  | closed
  | unclosed (why : Break)
  | comma (why : Break)
deriving DecidableEq, Repr

/-- A number as written: its digits without the point, the power of ten that they are to be
multiplied by, and whether it has neither fraction nor exponent. -/
structure NumberDraft where
  negative : Bool
  digits : Nat
  exponent : Int
  isWhole : Bool
deriving DecidableEq, Repr

/-- A string as written: its characters, whether a surrogate in it lacks its partner, and how it
ends if not with a quotation mark. -/
structure StringDraft where
  chars : List Char
  loneSurrogate : Bool
  ending : Option Break
deriving DecidableEq, Repr

/-- What can be read of a JSON text. -/
inductive Draft where
  | null
  | boolean (b : Bool)
  | number (n : NumberDraft)
  /-- A number whose next digit is missing because the text ends. -/
  | halfNumber
  | string (s : StringDraft)
  | array (items : List Draft) (closing : Closing)
  | object (members : List (StringDraft × Draft)) (closing : Closing)
  /-- No value starts here. -/
  | broken (why : Break)

instance : Inhabited Draft := ⟨.null⟩

/-! ## Blanks -/

/-- The four characters that may separate the tokens of JSON. -/
def isSpace (c : Char) : Bool := c == ' ' || c == '\t' || c == '\n' || c == '\r'

/-- A text without the blanks it begins with. -/
def skipSpace (cs : List Char) : List Char := cs.dropWhile isSpace

/-! ## Strings -/

/-- A piece of a string: a character, or the sixteen bits of a numeric escape. -/
inductive Piece where
  | char (c : Char)
  | unit (n : Nat)
deriving DecidableEq, Repr

/-- The value of a digit of base 16. -/
def hexValue? (c : Char) : Option Nat :=
  if c.isDigit then some (c.toNat - '0'.toNat)
  else if 'a' ≤ c ∧ c ≤ 'f' then some (c.toNat - 'a'.toNat + 10)
  else if 'A' ≤ c ∧ c ≤ 'F' then some (c.toNat - 'A'.toNat + 10)
  else none

/-- The number that four digits of base 16 denote. -/
def hexUnit? (a b c d : Char) : Option Nat :=
  match hexValue? a, hexValue? b, hexValue? c, hexValue? d with
  | some a, some b, some c, some d => some (((a * 16 + b) * 16 + c) * 16 + d)
  | _, _, _, _ => none

/-- The character that an escape by a letter stands for. -/
def unescape? : Char → Option Char
  | '"' => some '"'
  | '\\' => some '\\'
  | '/' => some '/'
  | 'b' => some '\x08'
  | 'f' => some '\x0c'
  | 'n' => some '\n'
  | 'r' => some '\r'
  | 't' => some '\t'
  | _ => none

/-- Why a numeric escape is broken off: the text has less than four bytes left, or they are not
four digits. -/
def hexBreak (rest : List Char) : Break :=
  if rest.foldl (fun n c => n + c.utf8Size) 0 < 4 then .ends else .malformed

/-- The pieces of a string whose opening quotation mark is behind, how it ends, and the text after
it. -/
def pieces : List Char → List Piece × Option Break × List Char
  | [] => ([], some .ends, [])
  | '"' :: rest => ([], none, rest)
  | ['\\'] => ([], some .ends, [])
  | '\\' :: 'u' :: a :: b :: c :: d :: rest =>
    match hexUnit? a b c d with
    | none => ([], some (hexBreak (a :: b :: c :: d :: rest)), [])
    | some n => let (ps, ending, after) := pieces rest; (.unit n :: ps, ending, after)
  | '\\' :: e :: rest =>
    if e = 'u' then ([], some (hexBreak rest), [])
    else
      match unescape? e with
      | none => ([], some .malformed, [])
      | some c => let (ps, ending, after) := pieces rest; (.char c :: ps, ending, after)
  | c :: rest =>
    if c.toNat < 0x20 then ([], some .malformed, [])
    else let (ps, ending, after) := pieces rest; (.char c :: ps, ending, after)

/-- Whether sixteen bits are the first half of a pair of surrogates. -/
def isHighSurrogate (n : Nat) : Bool := 0xd800 ≤ n && n < 0xdc00

/-- Whether sixteen bits are the second half of a pair of surrogates. -/
def isLowSurrogate (n : Nat) : Bool := 0xdc00 ≤ n && n < 0xe000

/-- Joins pairs of surrogates.  A half without its partner ends the characters, unless it is the
last piece of a text that ends there, where the partner may be missing with the rest. -/
def joinPieces (textEnds : Bool) : List Piece → List Char × Bool
  | [] => ([], false)
  | .char c :: ps => let (cs, lone) := joinPieces textEnds ps; (c :: cs, lone)
  | .unit n :: .unit m :: ps =>
    if isHighSurrogate n then
      if isLowSurrogate m then
        let c := Char.ofNat (0x10000 + (n - 0xd800) * 0x400 + (m - 0xdc00))
        let (cs, lone) := joinPieces textEnds ps
        (c :: cs, lone)
      else ([], true)
    else if isLowSurrogate n then ([], true)
    else let (cs, lone) := joinPieces textEnds (.unit m :: ps); (Char.ofNat n :: cs, lone)
  | .unit n :: ps =>
    if isHighSurrogate n then ([], !(ps.isEmpty && textEnds))
    else if isLowSurrogate n then ([], true)
    else let (cs, lone) := joinPieces textEnds ps; (Char.ofNat n :: cs, lone)

/-- A string whose opening quotation mark is behind, and the text after it. -/
def stringDraft (cs : List Char) : StringDraft × List Char :=
  let (ps, ending, rest) := pieces cs
  let (chars, lone) := joinPieces (ending == some .ends) ps
  (⟨chars, lone, ending⟩, rest)

/-! ## Numbers -/

/-- The break of a number that lacks a digit. -/
def missingDigit : List Char → Draft
  | [] => .halfNumber
  | _ :: _ => .broken .malformed

/-- The exponent of a number whose mark of the exponent is behind. -/
def exponentDraft (negative : Bool) (digits : Nat) (places : Nat) (cs : List Char) :
    Draft × List Char :=
  let (down, rest) :=
    match cs with
    | '-' :: rest => (true, rest)
    | '+' :: rest => (false, rest)
    | _ => (false, cs)
  let ds := rest.takeWhile Char.isDigit
  let after := rest.dropWhile Char.isDigit
  if ds = [] then (missingDigit after, after)
  else
    let power : Int := Decimal.ofDigits ds
    (.number ⟨negative, digits, (if down then -power else power) - places, false⟩, after)

/-- A number whose sign is behind. -/
def numberDraft (negative : Bool) (cs : List Char) : Draft × List Char :=
  let whole := cs.takeWhile Char.isDigit
  let rest := cs.dropWhile Char.isDigit
  let isMark (c : Char) := c == 'e' || c == 'E'
  match whole with
  | [] => (missingDigit rest, rest)
  | '0' :: _ :: _ => (.broken .malformed, rest)
  | _ =>
    match rest with
    | '.' :: rest =>
      let fraction := rest.takeWhile Char.isDigit
      let rest := rest.dropWhile Char.isDigit
      let digits := Decimal.ofDigits (whole ++ fraction)
      if fraction = [] then (missingDigit rest, rest)
      else
        match rest with
        | c :: after =>
          if isMark c then exponentDraft negative digits fraction.length after
          else (.number ⟨negative, digits, -(fraction.length : Int), false⟩, rest)
        | [] => (.number ⟨negative, digits, -(fraction.length : Int), false⟩, rest)
    | c :: after =>
      if isMark c then exponentDraft negative (Decimal.ofDigits whole) 0 after
      else (.number ⟨negative, Decimal.ofDigits whole, 0, true⟩, rest)
    | [] => (.number ⟨negative, Decimal.ofDigits whole, 0, true⟩, rest)

/-! ## Values -/

/-- The break of a text that is to go on with `expected`. -/
def missing (expected : List Char) (cs : List Char) : Break :=
  if cs.isPrefixOf expected then .ends else .malformed

/-- A value spelt by a word whose first letter is behind. -/
def wordDraft (value : Draft) (letters : List Char) (cs : List Char) : Draft × List Char :=
  if letters.isPrefixOf cs then (value, cs.drop letters.length)
  else (.broken (missing letters cs), [])

mutual

/-- The value that a text begins with, after blanks, and the text after it.  Each step down
or along takes one from `fuel`. -/
def valueDraft : Nat → List Char → Draft × List Char
  | 0, cs => (.broken .ends, cs)
  | fuel + 1, cs =>
    match skipSpace cs with
    | [] => (.broken .ends, [])
    | 'n' :: rest => wordDraft .null ['u', 'l', 'l'] rest
    | 't' :: rest => wordDraft (.boolean true) ['r', 'u', 'e'] rest
    | 'f' :: rest => wordDraft (.boolean false) ['a', 'l', 's', 'e'] rest
    | '"' :: rest => let (s, after) := stringDraft rest; (.string s, after)
    | '-' :: rest => numberDraft true rest
    | '[' :: rest =>
      match skipSpace rest with
      | ']' :: after => (.array [] .closed, after)
      | [] => (.array [] (.unclosed .ends), [])
      | rest =>
        let (items, closing, after) := itemDrafts fuel rest
        (.array items closing, after)
    | '\x7b' :: rest =>
      match skipSpace rest with
      | '\x7d' :: after => (.object [] .closed, after)
      | [] => (.object [] (.unclosed .ends), [])
      | '"' :: rest =>
        let (members, closing, after) := memberDrafts fuel rest
        (.object members closing, after)
      | _ => (.object [] (.unclosed .malformed), [])
    | c :: rest =>
      if c.isDigit then numberDraft false (c :: rest) else (.broken .malformed, [])

/-- The items of an array from the next one on, how they close, and the text after. -/
def itemDrafts : Nat → List Char → List Draft × Closing × List Char
  | 0, cs => ([], .unclosed .ends, cs)
  | fuel + 1, cs =>
    let (item, rest) := valueDraft fuel cs
    match skipSpace rest with
    | [] => ([item], .unclosed .ends, [])
    | ']' :: after => ([item], .closed, after)
    | ',' :: rest =>
      match skipSpace rest with
      | [] => ([item], .comma .ends, [])
      | ']' :: _ => ([item], .comma .malformed, [])
      | rest =>
        let (items, closing, after) := itemDrafts fuel rest
        (item :: items, closing, after)
    | _ :: _ => ([item], .unclosed .malformed, [])

/-- The members of an object from the one whose opening quotation mark is behind, how they close,
and the text after. -/
def memberDrafts : Nat → List Char → List (StringDraft × Draft) × Closing × List Char
  | 0, cs => ([], .unclosed .ends, cs)
  | fuel + 1, cs =>
    let (name, rest) := stringDraft cs
    match skipSpace rest with
    | [] => ([(name, .broken .ends)], .unclosed .ends, [])
    | ':' :: rest =>
      let (value, rest) := valueDraft fuel rest
      match skipSpace rest with
      | [] => ([(name, value)], .unclosed .ends, [])
      | '\x7d' :: after => ([(name, value)], .closed, after)
      | ',' :: rest =>
        match skipSpace rest with
        | [] => ([(name, value)], .comma .ends, [])
        | '"' :: rest =>
          let (members, closing, after) := memberDrafts fuel rest
          ((name, value) :: members, closing, after)
        | _ :: _ => ([(name, value)], .comma .malformed, [])
      | _ :: _ => ([(name, value)], .unclosed .malformed, [])
    | _ :: _ => ([(name, .broken .malformed)], .unclosed .malformed, [])

end

/-- What can be read of a whole text, and whether something other than blanks is left. -/
def Draft.ofText (cs : List Char) : Draft × Bool :=
  let (draft, rest) := valueDraft (2 * cs.length + 2) cs
  (draft, !(skipSpace rest).isEmpty)

end Json

end ComponentQuery
