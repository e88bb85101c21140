import ComponentQuery.Unicode.BinaryProperty
import ComponentQuery.Unicode.Category
import ComponentQuery.Unicode.Script

/-!
# Property queries

What stands between the braces of a property escape names a set of characters: a binary property, a
general category or group of categories, or a script; or it gives the kind of property and
its value, as in `Script=Greek` and `gc!=Lu`.  Names are compared loosely: without regard to case,
blanks, hyphens and low lines, and to a leading `is`.  `CharSet.query?` finds the set.

The kinds of property that have values here are the general category, the script and the script
extensions.  An engine may know four more: the age of a character (`Age`) and its classes among the
rules for breaking text into graphemes, words and sentences (`gcb`, `wb`, `sb`).  Their tables are
left out, so that a query such as `Age=3.2` or `gcb=Extend` is taken for one that names nothing,
and a pattern with it is refused.

The sets of the shorthand classes are here too: `digits`, `wordCharacters`.
-/

namespace ComponentQuery.Unicode

/-- A set of characters: those of some tables, or all others. -/
structure CharSet where
  tables : List RangeTable
  complemented : Bool
deriving Repr

namespace CharSet

/-- Whether a code point belongs to the set. -/
def containsCode (s : CharSet) (x : Nat) : Bool :=
  (s.tables.any (·.containsCode x)) != s.complemented

/-- The set of the characters that `s` has not. -/
def complement (s : CharSet) : CharSet := ⟨s.tables, !s.complemented⟩

/-- The characters of some general categories. -/
def ofCategories (cs : List Category) : CharSet := ⟨cs.map Category.table, false⟩

/-! ## Loose names -/

/-- A name without what does not count: capitals, separators, characters beyond ASCII. -/
def looseLetters (name : List Char) : List Char :=
  (name.filter fun c => c.toNat < 0x80 && c != ' ' && c != '_' && c != '-').map Char.toLower

/-- A name as it is compared.  A leading `is` does not count, save in `isc`, which is a name of its
own. -/
def looseName (name : List Char) : String :=
  match name with
  | i :: s :: more =>
    if i.toLower = 'i' ∧ s.toLower = 's' then
      let rest := looseLetters more
      if rest = ['c'] then "isc" else String.ofList rest
    else String.ofList (looseLetters name)
  | _ => String.ofList (looseLetters name)

/-! ## General categories -/

/-- The groups of categories that have names of their own. -/
def categoryGroups : List (List String × List Category) :=
  [(["l", "letter"],
    [.uppercaseLetter, .lowercaseLetter, .titlecaseLetter, .modifierLetter, .otherLetter]),
   (["lc", "casedletter"], [.uppercaseLetter, .lowercaseLetter, .titlecaseLetter]),
   (["m", "mark", "combiningmark"], [.spacingMark, .enclosingMark, .nonspacingMark]),
   (["n", "number"], [.decimalNumber, .letterNumber, .otherNumber]),
   (["p", "punctuation", "punct"],
    [.connectorPunctuation, .dashPunctuation, .closePunctuation, .finalPunctuation,
     .initialPunctuation, .otherPunctuation, .openPunctuation]),
   (["s", "symbol"], [.currencySymbol, .modifierSymbol, .mathSymbol, .otherSymbol]),
   (["z", "separator"], [.lineSeparator, .paragraphSeparator, .spaceSeparator])]

/-- The categories whose characters are neither controls, formats, private nor unassigned. -/
def graphicCategories : List Category :=
  Category.all.filter fun c => c ≠ .control ∧ c ≠ .format ∧ c ≠ .privateUse

/-- The set that a general category, or a group of them, names. -/
def category? (name : String) : Option CharSet :=
  match Category.all.find? (·.names.contains name) with
  | some c => some (ofCategories [c])
  | none =>
    match categoryGroups.find? (·.1.contains name) with
    | some (_, cs) => some (ofCategories cs)
    | none =>
      if name = "any" then some ⟨[], true⟩
      else if name = "assigned" then some (ofCategories Category.all)
      else if name = "ascii" then some ⟨[⟨#[0, 0x80]⟩], false⟩
      else if name = "cn" ∨ name = "unassigned" then some (ofCategories Category.all).complement
      else if name = "c" ∨ name = "other" then some (ofCategories graphicCategories).complement
      else none

/-! ## Scripts -/

/-- The script of a name or code. -/
def script? (name : String) : Option Script :=
  let name := (scriptSynonyms.lookup name).getD name
  scripts.find? fun s => s.code == name || s.name == name

/-! ## Queries -/

/-- The set that a single name stands for.  Three codes belong both to a category and to a kind of
property; they mean the category. -/
def ofName? (name : String) : Option CharSet :=
  let ambiguous := name = "cf" ∨ name = "sc" ∨ name = "lc"
  let binary := if ambiguous then none else binaryProperties.find? (·.names.contains name)
  match binary with
  | some p => some ⟨[p.table], false⟩
  | none =>
    match category? name with
    | some s => some s
    | none => (script? name).map fun s => ⟨[s.table], false⟩

/-- The set of the characters whose property of the kind `kind` has the value `value`; of the kinds
with values, `age`, `gcb`, `wb` and `sb` are not known. -/
def ofValue? (kind value : String) : Option CharSet :=
  if kind = "gc" ∨ kind = "generalcategory" then category? value
  else if kind = "sc" ∨ kind = "script" then
    (script? value).map fun s => ⟨[s.table], false⟩
  else if kind = "scx" ∨ kind = "scriptextensions" then
    (script? value).map fun s => ⟨[s.extendedTable], false⟩
  else none

/-- Splits a query at the first place where `mark` stands in it. -/
def splitAt? (mark : List Char) (query : List Char) : Option (List Char × List Char) :=
  match query with
  | [] => none
  | c :: cs =>
    if mark.isPrefixOf (c :: cs) then some ([], (c :: cs).drop mark.length)
    else (splitAt? mark cs).map fun (before, after) => (c :: before, after)

/-- What a query asks for: the characters of a set, or those that are not in it. -/
structure Query where
  negated : Bool
  set : CharSet
deriving Repr

/-- What a query text asks for, none if there is no such property or value. -/
def query? (text : List Char) : Option Query :=
  let value (parts : List Char × List Char) := ofValue? (looseName parts.1) (looseName parts.2)
  match splitAt? ['!', '='] text with
  | some parts => (value parts).map (⟨true, ·⟩)
  | none =>
    match splitAt? [':'] text with
    | some parts => (value parts).map (⟨false, ·⟩)
    | none =>
      match splitAt? ['='] text with
      | some parts => (value parts).map (⟨false, ·⟩)
      | none => (ofName? (looseName text)).map (⟨false, ·⟩)

/-! ## Shorthand classes -/

/-- The decimal digits of all scripts. -/
def digits : CharSet := ofCategories [.decimalNumber]

/-- The letters and numbers of all scripts. -/
def alphanumeric : CharSet :=
  ⟨alphabetic.table ::
    [Category.decimalNumber, .letterNumber, .otherNumber].map Category.table, false⟩

/-- The characters that words are made of: letters, marks, digits, connecting punctuation and the
two joiners. -/
def wordCharacters : CharSet :=
  ⟨[alphabetic.table, joinControl.table] ++
    [Category.spacingMark, .enclosingMark, .nonspacingMark, .decimalNumber,
      .connectorPunctuation].map Category.table, false⟩

end CharSet

end ComponentQuery.Unicode
