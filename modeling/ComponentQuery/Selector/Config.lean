/-!
# Settings of the reader of selectors
-/

namespace ComponentQuery

/-- How selectors are read. -/
structure Config where
  /-- Whether a value without quotation marks is a text.  If not, it must be a number, `true` or
  `false`. -/
  allowUnquotedStrings : Bool := false
deriving DecidableEq, Repr

instance : Inhabited Config := ⟨{}⟩

end ComponentQuery
