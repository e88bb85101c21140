import ComponentQuery.Unicode.Blank
import Mathlib.Data.List.TakeWhile
import Mathlib.Tactic.Common

/-!
# Maximal runs

A run of characters of some kind is maximal if it cannot be continued: what follows is empty
or begins with a character of another kind.  A text has exactly one maximal run at its
front, and `takeWhile` and `dropWhile` cut it off.  `IsRun` says so without either of them, so
that grammars can ask for maximal runs, and the lemmas here take a reader that cuts runs off to
a grammar that asks for them.

Blanks between tokens are the case of the kind `isBlank`; `Gap` names it.
-/

namespace ComponentQuery

/-! ## Runs in front of a rest -/

/-- The characters before `rest` are of a kind, and `rest` does not continue them. -/
structure IsRun (p : Char → Bool) (run rest : List Char) : Prop where
  all : ∀ c ∈ run, p c = true
  maximal : ∀ c ∈ rest.head?, p c = false

namespace IsRun

variable {p : Char → Bool} {run rest cs : List Char} {c : Char}

lemma to_end (h : ∀ c ∈ run, p c = true) : IsRun p run [] :=
  ⟨h, by simp⟩

/-- A run ends where a character of another kind follows. -/
lemma before_cons (h : ∀ c ∈ run, p c = true) (hc : p c = false) : IsRun p run (c :: rest) :=
  ⟨h, by simpa using hc⟩

lemma takeWhile_eq (h : IsRun p run rest) : (run ++ rest).takeWhile p = run := by
  rw [List.takeWhile_append_of_pos h.all]
  cases rest with
  | nil => simp
  | cons c rest => simp [h.maximal c rfl]

lemma dropWhile_eq (h : IsRun p run rest) : (run ++ rest).dropWhile p = rest := by
  rw [List.dropWhile_append_of_pos h.all]
  cases rest with
  | nil => simp
  | cons c rest => simp [h.maximal c rfl]

end IsRun

/-- What `takeWhile` and `dropWhile` make of a text is a run before its rest. -/
lemma isRun_takeWhile (p : Char → Bool) (cs : List Char) :
    IsRun p (cs.takeWhile p) (cs.dropWhile p) := by
  refine ⟨fun c hc => List.mem_takeWhile_imp hc, fun c hc => ?_⟩
  have hhead := List.head?_dropWhile_not p cs
  rw [Option.mem_def.1 hc] at hhead
  exact hhead

/-! ## Gaps -/

/-- A text is all the blanks that there are, and then `rest`. -/
inductive Gap : List Char → List Char → Prop where
  | intro {blanks rest : List Char} (h : IsRun isBlank blanks rest) : Gap (blanks ++ rest) rest

lemma skipBlanks_eq_iff {cs rest : List Char} : skipBlanks cs = rest ↔ Gap cs rest := by
  constructor
  · rintro rfl
    have h := Gap.intro (isRun_takeWhile isBlank cs)
    rwa [List.takeWhile_append_dropWhile] at h
  · rintro ⟨h⟩
    exact h.dropWhile_eq

lemma gap_skipBlanks (cs : List Char) : Gap cs (skipBlanks cs) := skipBlanks_eq_iff.1 rfl

lemma Gap.head_not_blank {cs rest : List Char} (h : Gap cs rest) :
    ∀ c ∈ rest.head?, isBlank c = false := by
  obtain ⟨hrun⟩ := h
  exact hrun.maximal

lemma gap_append {bs rest : List Char} (hbs : ∀ c ∈ bs, isBlank c = true)
    (hrest : ∀ c ∈ rest.head?, isBlank c = false) : Gap (bs ++ rest) rest :=
  Gap.intro ⟨hbs, hrest⟩

lemma gap_self {rest : List Char} (hrest : ∀ c ∈ rest.head?, isBlank c = false) :
    Gap rest rest :=
  gap_append (fun _ hc => absurd hc List.not_mem_nil) hrest

lemma skipBlanks_cons {c : Char} (hc : isBlank c = false) (cs : List Char) :
    skipBlanks (c :: cs) = c :: cs :=
  skipBlanks_eq_iff.2 (gap_self (by simpa using hc))

lemma Gap.unique {cs rest rest' : List Char} (h : Gap cs rest) (h' : Gap cs rest') :
    rest = rest' :=
  (skipBlanks_eq_iff.2 h).symm.trans (skipBlanks_eq_iff.2 h')

end ComponentQuery
