import ComponentQuery.Unicode.CaseRun
import ComponentQuery.Unicode.BinaryProperty

/-!
# Upper and lower case

The full case mappings of the Unicode standard.  Upper casing goes character by character and may
give several characters for one: `ß` becomes `SS`.  Lower casing does the same but for the capital
sigma, whose image depends on its place: at the end of a word it becomes `ς`, elsewhere `σ`.
-/

namespace ComponentQuery.Unicode

/-! ## Upper case -/

/-- The upper case image of a code point beyond ASCII. -/
def upperCodes (x : Nat) : List Nat :=
  match upperExpansions.lookup x with
  | some image => image
  | none => [(upperRuns.findSome? (·.image? x)).getD x]

/-- The upper case image of a character. -/
def upperChar (c : Char) : List Char :=
  if c.toNat < 0x80 then [c.toUpper] else (upperCodes c.toNat).map Char.ofNat

/-- A text in upper case. -/
def upperCase (cs : List Char) : List Char := cs.flatMap upperChar

@[simp] theorem upperCase_nil : upperCase [] = [] := rfl

@[simp] theorem upperCase_cons (c : Char) (cs : List Char) :
    upperCase (c :: cs) = upperChar c ++ upperCase cs := by
  simp [upperCase]

@[simp] theorem upperCase_append (s t : List Char) :
    upperCase (s ++ t) = upperCase s ++ upperCase t := by
  simp [upperCase]

/-! ## Lower case -/

/-- The lower case image of a code point beyond ASCII, wherever it stands. -/
def lowerCode (x : Nat) : Nat := (lowerRuns.findSome? (·.image? x)).getD x

/-- The lower case image of a character other than the capital sigma.  The dotted capital I is the
only one with two characters for its image. -/
def lowerChar (c : Char) : List Char :=
  if c.toNat < 0x80 then [c.toLower]
  else if c = '\u0130' then ['i', '\u0307']
  else [Char.ofNat (lowerCode c.toNat)]

/-- The characters that have case. -/
def casedTable : RangeTable := cased.table

/-- The characters that are passed over when the case of a neighbour is sought. -/
def caseIgnorableTable : RangeTable := caseIgnorable.table

/-- Whether the first character that counts, on one side of a sigma, has case. -/
def meetsCased (side : List Char) : Bool :=
  match side.dropWhile caseIgnorableTable.contains with
  | [] => false
  | c :: _ => casedTable.contains c

/-- The image of a capital sigma between `before`, nearest character first, and `after`: a sigma
ends a word when a cased character comes before it and none comes after. -/
def lowerSigma (before after : List Char) : Char :=
  if meetsCased before && !meetsCased after then 'ς' else 'σ'

/-- The lower case image of a text that follows `before`, nearest character first. -/
def lowerAfter (before : List Char) : List Char → List Char
  | [] => []
  | c :: cs =>
    (if c = 'Σ' then [lowerSigma before cs] else lowerChar c) ++ lowerAfter (c :: before) cs

/-- A text in lower case. -/
def lowerCase (cs : List Char) : List Char := lowerAfter [] cs

end ComponentQuery.Unicode
