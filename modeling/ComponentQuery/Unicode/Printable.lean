import ComponentQuery.Unicode.BinaryProperty
import ComponentQuery.Unicode.Property

/-!
# Texts shown in quotation marks

A text that stands in a message is shown in quotation marks, with every character that could not
be seen, or that would attach itself to its neighbour, as a numbered escape.
-/

namespace ComponentQuery.Unicode

/-- The categories of the characters that leave a mark, or are the ASCII space. -/
def visibleCategories : CharSet :=
  CharSet.ofCategories (Category.all.filter fun c =>
    c ≠ .control ∧ c ≠ .format ∧ c ≠ .privateUse ∧ c ≠ .lineSeparator ∧ c ≠ .paragraphSeparator
      ∧ c ≠ .spaceSeparator)

/-- The characters that attach themselves to the one before. -/
def attached : CharSet := ⟨(binaryProperties.filter (·.names.contains "grext")).map (·.table), false⟩

/-- Whether a character is shown as itself. -/
def isShownAsItself (c : Char) : Bool :=
  if c.toNat < 0x7f then 0x20 ≤ c.toNat
  else visibleCategories.containsCode c.toNat && !attached.containsCode c.toNat

/-- A character as it is shown. -/
def showChar (c : Char) : List Char :=
  if c = '"' then ['\\', '"']
  else if c = '\\' then ['\\', '\\']
  else if c = '\n' then ['\\', 'n']
  else if c = '\r' then ['\\', 'r']
  else if c = '\t' then ['\\', 't']
  else if c = '\x00' then ['\\', '0']
  else if isShownAsItself c then [c]
  else ['\\', 'u', '\x7b'] ++ Nat.toDigits 16 c.toNat ++ ['\x7d']

/-- A text as it is shown. -/
def showText (cs : List Char) : List Char := '"' :: cs.flatMap showChar ++ ['"']

end ComponentQuery.Unicode
