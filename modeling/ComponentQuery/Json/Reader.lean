import ComponentQuery.Json.Draft
import ComponentQuery.Json.Value
import ComponentQuery.Number.Notation
import ComponentQuery.Unicode.Printable

/-!
# Reading JSON with expectations

Readers of this library want a JSON text to have a certain shape.  A `Json.Reader α` goes through a
draft in the order of the text and either gives an `α` or reports the first problem that it meets:
the text ends, it is malformed, or what stands there is not what was wanted.  Each reader is given
the number of brackets that may still be opened; a text nested more deeply counts as malformed.

`Reader.value` reads any value, `Reader.fields` reads a record given by its fields, and `Json.read`
reads a whole text.
-/

namespace ComponentQuery.Json

/-! ## Problems -/

/-- What a reader found in place of what it wanted. -/
inductive Found where
  | null
  | boolean (b : Bool)
  | integer (n : Int)
  | double (x : Binary64)
  | string (s : String)
  | sequence
  | map
deriving DecidableEq

/-- What a reader wants. -/
inductive Wanted where
  | string
  | boolean
  | sequence
  | count
  | nothing
  | record (name : String)
deriving DecidableEq, Repr

/-- How a text fails to have the shape that is wanted. -/
inductive Mismatch where
  | missingField (name : String)
  | duplicateField (name : String)
  | wrongType (found : Found) (wanted : Wanted)
  | negativeCount (n : Int)
  | tooShort (length : Nat) (record : String) (fields : Nat)
  | unknownVariant (name : String) (known : List String)
deriving DecidableEq

/-- A problem met while reading. -/
inductive Fault where
  | broken (why : Break)
  | mismatch (m : Mismatch)
deriving DecidableEq

/-- The text of what was found. -/
def Found.text : Found → String
  | .null => "null"
  | .boolean b => "boolean `" ++ (if b then "true" else "false") ++ "`"
  | .integer n => "integer `" ++ toString n ++ "`"
  | .double x => "floating point `" ++ String.ofList x.jsonText ++ "`"
  | .string s => "string " ++ String.ofList (Unicode.showText s.toList)
  | .sequence => "sequence"
  | .map => "map"

/-- The text of what was wanted. -/
def Wanted.text : Wanted → String
  | .string => "a string"
  | .boolean => "a boolean"
  | .sequence => "a sequence"
  | .count => "usize"
  | .nothing => "unit"
  | .record name => "struct " ++ name

/-- A name in backticks. -/
def ticked (name : String) : String := "`" ++ name ++ "`"

/-- The message of a mismatch. -/
def Mismatch.message : Mismatch → String
  | .missingField name => "missing field " ++ ticked name
  | .duplicateField name => "duplicate field " ++ ticked name
  | .wrongType found wanted => "invalid type: " ++ found.text ++ ", expected " ++ wanted.text
  | .negativeCount n =>
    "invalid value: integer `" ++ toString n ++ "`, expected " ++ Wanted.text .count
  | .tooShort length record fields =>
    "invalid length " ++ toString length ++ ", expected struct " ++ record ++ " with " ++
      toString fields ++ " elements"
  | .unknownVariant name known =>
    "unknown variant " ++ ticked name ++ ", expected one of " ++
      String.intercalate ", " (known.map ticked)

/-! ## Leaves -/

/-- What a reader makes of a draft, with the number of brackets that may still be opened. -/
abbrev Reader (α : Type) := Nat → Draft → Except Fault α

/-- The number of brackets that a text may have open at one place. -/
def depthLimit : Nat := 127

/-- A text that is malformed. -/
def malformed {α : Type} : Except Fault α := .error (.broken .malformed)

/-- The string of a draft of one. -/
def StringDraft.read (s : StringDraft) : Except Fault String :=
  if s.loneSurrogate then malformed
  else
    match s.ending with
    | some why => .error (.broken why)
    | none => .ok (String.ofList s.chars)

/-- The greatest integer that is kept as one. -/
def maxInteger : Nat := 0xffffffffffffffff

/-- The magnitude of the least integer that is kept as one. -/
def maxNegative : Nat := 0x8000000000000000

/-- The number that a text denotes.  Whole numbers of 64 bits are integers, save the negative zero;
all others are doubles, and too large a double is malformed.

A double is assumed to be the nearest one.  A reader that takes a faster way to it, as JSON readers
may where they are not asked for exact round trips, can be off by one in the last place; all that is
said here of doubles in JSON texts is said of the exact reader. -/
def NumberDraft.read (n : NumberDraft) : Except Fault Number :=
  if n.isWhole ∧ ¬ n.negative ∧ n.digits ≤ maxInteger then .ok (.integer n.digits)
  else if n.isWhole ∧ n.negative ∧ n.digits ≠ 0 ∧ n.digits ≤ maxNegative then
    .ok (.integer (-n.digits))
  else
    match Binary64.ofDecimal n.negative n.digits n.exponent with
    | .infinite _ => malformed
    | x => .ok (.double x)

/-- The problem with a draft of another type than the wanted one. -/
def mismatch {α : Type} (wanted : Wanted) (d : Draft) : Except Fault α :=
  let wrong (found : Found) : Except Fault α := .error (.mismatch (.wrongType found wanted))
  match d with
  | .null => wrong .null
  | .boolean b => wrong (.boolean b)
  | .number n =>
    match n.read with
    | .error e => .error e
    | .ok (.integer i) => wrong (.integer i)
    | .ok (.double x) => wrong (.double x)
  | .halfNumber => .error (.broken .ends)
  | .string s =>
    match s.read with
    | .error e => .error e
    | .ok s => wrong (.string s)
  | .array .. => wrong .sequence
  | .object .. => wrong .map
  | .broken why => .error (.broken why)

/-- Reads a string. -/
def Reader.string : Reader String
  | _, .string s => s.read
  | _, d => mismatch .string d

/-- Reads a boolean. -/
def Reader.boolean : Reader Bool
  | _, .boolean b => .ok b
  | _, d => mismatch .boolean d

/-- Reads a natural number of 64 bits. -/
def Reader.count : Reader Nat
  | _, .number n =>
    match n.read with
    | .error e => .error e
    | .ok (.integer (.ofNat k)) => .ok k
    | .ok (.integer i) => .error (.mismatch (.negativeCount i))
    | .ok (.double x) => .error (.mismatch (.wrongType (.double x) .count))
  | _, d => mismatch .count d

/-- Reads nothing or what another reader reads; `null` is nothing. -/
def Reader.optional {α : Type} (read : Reader α) : Reader (Option α)
  | _, .null => .ok none
  | room, d => (read room d).map some

/-! ## Values that nobody wants -/

mutual

/-- The first break in a draft that is passed over.  Strings may have surrogates without a partner,
and a number that lacks a digit is malformed even where the text ends. -/
def Draft.firstBreak? : Draft → Option Break
  | .halfNumber => some .malformed
  | .string s => s.ending
  | .array items closing => itemsBreak? items closing
  | .object members closing => membersBreak? members closing
  | .broken why => some why
  | _ => none

/-- The first break among items that are passed over. -/
def itemsBreak? : List Draft → Closing → Option Break
  | [], .closed => none
  | [], .unclosed why => some why
  | [], .comma why => some why
  | d :: ds, closing =>
    match d.firstBreak? with
    | some why => some why
    | none => itemsBreak? ds closing

/-- The first break among members that are passed over. -/
def membersBreak? : List (StringDraft × Draft) → Closing → Option Break
  | [], .closed => none
  | [], .unclosed why => some why
  | [], .comma why => some why
  | (name, d) :: rest, closing =>
    match name.ending with
    | some why => some why
    | none =>
      match d.firstBreak? with
      | some why => some why
      | none => membersBreak? rest closing

end

/-- Passes over a value. -/
def ignored (d : Draft) : Except Fault Unit :=
  match d.firstBreak? with
  | some why => .error (.broken why)
  | none => .ok ()

/-- The end of brackets after their last entry. -/
def Closing.check : Closing → Except Fault Unit
  | .closed => .ok ()
  | .unclosed why => .error (.broken why)
  | .comma why => .error (.broken why)

/-! ## Lists and free values -/

/-- Reads a list of what another reader reads. -/
def Reader.list {α : Type} (read : Reader α) : Reader (List α)
  | 0, .array .. => malformed
  | room + 1, .array items closing => do
    let xs ← items.mapM (read room)
    closing.check
    return xs
  | _, d => mismatch .sequence d

/-- Reads any value.  The members of an object come out in the order of their names, and of members
of one name the last counts. -/
def Reader.value : Reader Json
  | _, .null => .ok .null
  | _, .boolean b => .ok (.boolean b)
  | _, .number n => n.read.map .number
  | _, .halfNumber => .error (.broken .ends)
  | _, .string s => s.read.map .string
  | _, .broken why => .error (.broken why)
  | 0, .array .. => malformed
  | 0, .object .. => malformed
  | room + 1, .array items closing => do
    let xs ← items.mapM (Reader.value room)
    closing.check
    return .array xs
  | room + 1, .object members closing => do
    let ms ← members.mapM fun (name, d) => do
      let name ← name.read
      let v ← Reader.value room d
      return (name, v)
    closing.check
    return ofMembers ms

/-! ## Records -/

/-- What happens when a field is left out. -/
inductive Presence where
  /-- It may not be. -/
  | required
  /-- It may be left out of an object; in the form of an array it must be there. -/
  | optional
  /-- It may be left out of either form. -/
  | defaulted
deriving DecidableEq, Repr

/-- A field of a record that is read into an `α`, which starts with the values of all fields that
are left out. -/
structure Field (α : Type) where
  name : String
  presence : Presence
  read : Nat → Draft → α → Except Fault α

/-- A field whose value is read by itself and then put into the record. -/
def Field.of {α β : Type} (name : String) (presence : Presence) (read : Reader β)
    (put : β → α → α) : Field α :=
  ⟨name, presence, fun room d a => (read room d).map (put · a)⟩

/-- Reads the members of an object into a record; `seen` names the fields that have been read. -/
def membersInto {α : Type} (fields : List (Field α)) (room : Nat) :
    List (StringDraft × Draft) → List String → α → Except Fault (List String × α)
  | [], seen, a => .ok (seen, a)
  | (name, d) :: rest, seen, a => do
    let name ← name.read
    match fields.find? (·.name == name) with
    | none =>
      ignored d
      membersInto fields room rest seen a
    | some field =>
      if seen.contains name then .error (.mismatch (.duplicateField name))
      else
        let a ← field.read room d a
        membersInto fields room rest (name :: seen) a

/-- Reads the items of an array into a record, one field after the other; `done` counts those that
have been read, out of `all`. -/
def itemsInto {α : Type} (record : String) (room all : Nat) (closing : Closing) :
    List (Field α) → List Draft → Nat → α → Except Fault α
  | [], [], _, a =>
    match closing with
    | .closed => .ok a
    | .unclosed why => .error (.broken why)
    | .comma _ => malformed
  | [], _ :: _, _, _ => malformed
  | field :: fields, [], done, a => do
    closing.check
    if field.presence = .defaulted then
      itemsInto record room all closing fields [] (done + 1) a
    else .error (.mismatch (.tooShort done record all))
  | field :: fields, d :: ds, done, a => do
    let a ← field.read room d a
    itemsInto record room all closing fields ds (done + 1) a

/-- Reads a record from an object of its fields, in any order and among others that are passed over,
or from an array of its fields in their order. -/
def Reader.fields {α : Type} (record : String) (fs : List (Field α)) (start : α) : Reader α
  | 0, .array .. => malformed
  | 0, .object .. => malformed
  | room + 1, .array items closing => itemsInto record room fs.length closing fs items 0 start
  | room + 1, .object members closing => do
    let (seen, a) ← membersInto fs room members [] start
    closing.check
    match fs.find? fun f => f.presence = .required ∧ !seen.contains f.name with
    | some field => .error (.mismatch (.missingField field.name))
    | none => return a
  | _, d => mismatch (.record record) d

/-! ## Variants -/

/-- The variant of a name. -/
def variant {α : Type} (known : List (String × α)) (s : StringDraft) : Except Fault α := do
  let name ← s.read
  match known.lookup name with
  | some a => return a
  | none => .error (.mismatch (.unknownVariant name (known.map (·.1))))

/-- Reads one of some named variants: its name, or an object whose one member has that name and
the value `null`. -/
def Reader.oneOf {α : Type} (known : List (String × α)) : Reader α
  | _, .string s => variant known s
  | _, .broken why => .error (.broken why)
  | 0, .object .. => malformed
  | _ + 1, .object [] (.unclosed why) => .error (.broken why)
  | _ + 1, .object ((name, d) :: rest) closing => do
    let a ← variant known name
    match d with
    | .null =>
      match rest, closing with
      | [], .closed => return a
      | [], .unclosed why => .error (.broken why)
      | _, _ => malformed
    | _ => mismatch .nothing d
  | _, _ => malformed

/-! ## Whole texts -/

/-- Reads a whole text; nothing but blanks may follow the value. -/
def read {α : Type} (reader : Reader α) (text : String) : Except Fault α :=
  let (draft, more) := Draft.ofText text.toList
  match reader depthLimit draft with
  | .error e => .error e
  | .ok a => if more then malformed else .ok a

end ComponentQuery.Json
