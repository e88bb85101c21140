import ComponentQuery.Json.Value
import ComponentQuery.Number.Notation

/-!
# JSON as text

The compact form of a value: no blanks, members in the order in which the value has them, strings
with the fewest escapes.  Only the quotation mark, the backslash and the control characters below
U+0020 are escaped.
-/

namespace ComponentQuery.Json

/-- The letter that escapes a character, if it has one. -/
def escapeLetter? : Char → Option Char
  | '"' => some '"'
  | '\\' => some '\\'
  | '\x08' => some 'b'
  | '\x09' => some 't'
  | '\x0a' => some 'n'
  | '\x0c' => some 'f'
  | '\x0d' => some 'r'
  | _ => none

/-- A digit of base 16, in lower case. -/
def hexDigit (n : Nat) : Char := Nat.digitChar (n % 16)

/-- A character inside a written string. -/
def escapeChar (c : Char) : List Char :=
  match escapeLetter? c with
  | some letter => ['\\', letter]
  | none =>
    if c.toNat < 0x20 then ['\\', 'u', '0', '0', hexDigit (c.toNat / 16), hexDigit c.toNat]
    else [c]

/-- A string in quotation marks. -/
def quote (cs : List Char) : List Char := '"' :: cs.flatMap escapeChar ++ ['"']

/-- A number; an integer has neither fraction nor exponent. -/
def Number.chars : Number → List Char
  | .integer n => (if n < 0 then ['-'] else []) ++ Decimal.digitsText n.natAbs
  | .double x => x.jsonText

mutual

/-- The compact text of a value. -/
def chars : Json → List Char
  | .null => "null".toList
  | .boolean b => if b then "true".toList else "false".toList
  | .number n => n.chars
  | .string s => quote s.toList
  | .array [] => ['[', ']']
  | .array (v :: rest) => '[' :: (chars v ++ itemChars rest) ++ [']']
  | .object [] => ['\x7b', '\x7d']
  | .object ((k, v) :: rest) =>
    '\x7b' :: (quote k.toList ++ ':' :: chars v ++ memberChars rest) ++ ['\x7d']

/-- The items after the first, each after a comma. -/
def itemChars : List Json → List Char
  | [] => []
  | v :: rest => ',' :: chars v ++ itemChars rest

/-- The members after the first, each after a comma. -/
def memberChars : List (String × Json) → List Char
  | [] => []
  | (k, v) :: rest => ',' :: quote k.toList ++ ':' :: chars v ++ memberChars rest

end

/-- The compact text of a value. -/
def text (v : Json) : String := String.ofList v.chars

end ComponentQuery.Json
