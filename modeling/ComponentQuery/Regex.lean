import ComponentQuery.Regex.Matcher

/-!
# Regular expression operands

A regular expression is written `/source/flags`.  Each of the flags `d`, `g`, `i`, `m`, `s`, `u` and
`y` may be given once, in any order.  Three of them change what the source means and are put
in front of it, `y` asks for a match at the start of the subject, and the others change nothing that
a test could show.

A `Regex` is made by `Regex.compile` alone: it carries the proof that its matcher is the
one that its source and flags give, so that two of the same source and flags accept the same
subjects.
-/

namespace ComponentQuery

open Regex (Matcher PatternError)

namespace Regex

/-- The letters that may follow the closing slash. -/
def letters : List Char := ['d', 'g', 'i', 'm', 's', 'u', 'y']

/-- Whether a character is a flag. -/
def isFlag (c : Char) : Bool := letters.contains c

/-- The flags that change what the source means. -/
def isInline (c : Char) : Bool := c == 'i' || c == 'm' || c == 's'

/-- Whether all characters are flags and none is there twice. -/
def areFlags (flags : List Char) : Bool := flags.all isFlag && decide flags.Nodup

theorem areFlags_iff {flags : List Char} :
    areFlags flags = true ↔ (∀ c ∈ flags, isFlag c = true) ∧ flags.Nodup := by
  simp [areFlags]

/-- The source with the flags that change its meaning in front. -/
def patternText (source flags : List Char) : List Char :=
  match flags.filter isInline with
  | [] => source
  | inline => ['(', '?'] ++ inline ++ [')'] ++ source

/-- Why a regular expression is refused. -/
inductive Refusal where
  | badFlags (flags : String)
  | badPattern (source flags : String) (reason : PatternError)
deriving DecidableEq, Repr

/-- The text of a refusal.  What is wrong with a pattern is not told. -/
def Refusal.message : Refusal → String
  | .badFlags flags => "invalid regular expression flags '" ++ flags ++ "'"
  | .badPattern source flags _ => "invalid regular expression /" ++ source ++ "/" ++ flags

/-- The matcher of a source with flags. -/
def compileMatcher (source flags : String) : Except Refusal Matcher :=
  if areFlags flags.toList then
    match Matcher.ofText (patternText source.toList flags.toList) with
    | .ok m => .ok m
    | .error reason => .error (.badPattern source flags reason)
  else .error (.badFlags flags)

theorem compileMatcher_eq_ok_iff {source flags : String} {m : Matcher} :
    compileMatcher source flags = .ok m ↔ areFlags flags.toList = true ∧
      Matcher.ofText (patternText source.toList flags.toList) = .ok m := by
  unfold compileMatcher
  cases areFlags flags.toList with
  | true => cases Matcher.ofText (patternText source.toList flags.toList) <;> simp
  | false => simp

end Regex

/-- A regular expression with its matcher. -/
structure Regex where
  source : String
  flags : String
  matcher : Matcher
  matcher_eq : Regex.compileMatcher source flags = .ok matcher

namespace Regex

/-- The regular expression of a source and flags. -/
def compile (source flags : String) : Except Refusal Regex :=
  match h : compileMatcher source flags with
  | .ok m => .ok ⟨source, flags, m, h⟩
  | .error e => .error e

/-- Whether a match must start with the subject. -/
def isSticky (r : Regex) : Bool := r.flags.toList.contains 'y'

/-- Whether a subject passes the test. -/
def accepts (r : Regex) (subject : List Char) : Bool :=
  match r.matcher.findStart? subject.toArray with
  | some start => !r.isSticky || start == 0
  | none => false

/-- The written form. -/
def text (r : Regex) : String := "/" ++ r.source ++ "/" ++ r.flags

/-- Equality of the written forms. -/
instance : BEq Regex := ⟨fun a b => a.source == b.source && a.flags == b.flags⟩

theorem eq_of_beq {a b : Regex} (h : (a == b) = true) : a = b := by
  obtain ⟨s, f, m, hm⟩ := a
  obtain ⟨t, g, n, hn⟩ := b
  have h' : s = t ∧ f = g := by simpa [BEq.beq] using h
  obtain ⟨rfl, rfl⟩ := h'
  have : m = n := by simpa using hm.symm.trans hn
  subst this
  rfl

theorem compile_eq_ok_iff {source flags : String} {r : Regex} :
    compile source flags = .ok r ↔ r.source = source ∧ r.flags = flags := by
  constructor
  · intro h
    revert h
    fun_cases compile source flags with
    | case1 m hm =>
      intro h
      obtain rfl := Except.ok.inj h
      exact ⟨rfl, rfl⟩
    | case2 => nofun
  · rintro ⟨rfl, rfl⟩
    fun_cases compile r.source r.flags with
    | case1 m hm => exact congrArg Except.ok (eq_of_beq (by simp [BEq.beq]))
    | case2 refusal hrefusal => nomatch r.matcher_eq.symm.trans hrefusal

end Regex

end ComponentQuery
