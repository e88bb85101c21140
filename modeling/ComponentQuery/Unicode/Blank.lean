/-!
# Blank characters

The characters of the Unicode property `White_Space`: those that may separate the tokens of a
selector.  There are twenty-five of them, six in ASCII and seventeen beyond Latin-1.
-/

namespace ComponentQuery

/-- The characters that separate tokens, in ascending order. -/
def blanks : List Char :=
  ['\t', '\n', '\x0b', '\x0c', '\r', ' ', '\u0085', '\u00a0', '\u1680', '\u2000', '\u2001',
   '\u2002', '\u2003', '\u2004', '\u2005', '\u2006', '\u2007', '\u2008', '\u2009', '\u200a',
   '\u2028', '\u2029', '\u202f', '\u205f', '\u3000']

/-- Whether a character is blank: the Unicode property `White_Space`. -/
def isBlank (c : Char) : Bool := blanks.contains c

/-- A list of characters without the blanks it begins with. -/
def skipBlanks (cs : List Char) : List Char := cs.dropWhile isBlank

theorem length_skipBlanks_le (cs : List Char) : (skipBlanks cs).length ≤ cs.length := by
  simpa [skipBlanks] using (List.dropWhile_sublist isBlank (l := cs)).length_le

end ComponentQuery
