import Mathlib.Data.List.Basic
import ComponentQuery.Selector.Token
import ComponentQuery.Unicode.Case

/-!
# Lower case and names

What the characters of a text in lower case have in common with those of the text, whatever stands
beside them (`LowersTo`).  Two characters beyond ASCII have an image with an ASCII letter: the
dotted capital I and the Kelvin sign.  All other images of characters beyond ASCII are beyond ASCII
again, and none is blank unless the character is.

So a name is a name in lower case, and no capital letter of ASCII is left in it.
-/

namespace ComponentQuery

/-- A text of characters of names that does not begin with a blank: it is read as one name. -/
structure Reading.IsName (cs : List Char) : Prop where
  ne_nil : cs ≠ []
  isNameChar : ∀ c ∈ cs, isNameChar c = true
  head : ∀ c ∈ cs.head?, isBlank c = false

namespace Unicode

open Reading (IsName isNameChar)

/-! ## Characters -/

/-- What a character may become in lower case: a mapping of case within ASCII, and beyond it itself,
another character that is not blank, or one of two letters. -/
inductive LowersTo (c : Char) : Char → Prop where
  | ascii (hc : c.toNat < 0x80) : LowersTo c c.toLower
  | same (hc : 0x80 ≤ c.toNat) : LowersTo c c
  | beyond {d : Char} (hc : 0x80 ≤ c.toNat) (hd : 0x80 ≤ d.toNat) (hblank : isBlank d = false) :
      LowersTo c d
  | letter {d : Char} (hc : 0x80 ≤ c.toNat) (hd : d ∈ ['i', 'k']) : LowersTo c d

lemma toNat_ofNat {n : Nat} (h : n.isValidChar) : (Char.ofNat n).toNat = n :=
  (congrArg Char.toNat (dif_pos h)).trans rfl

/-- The images of a run are code points beyond ASCII and none of them is blank, except that of the
Kelvin sign. -/
lemma forall_lowerRuns :
    lowerRuns.Forall fun r =>
      r.first = r.last ∧ r.image = 'k'.toNat ∨
        0x80 ≤ r.image ∧ (r.image + (r.last - r.first) < 0xd800 ∨
          0xdfff < r.image ∧ r.image + (r.last - r.first) < 0x110000) ∧
        blanks.Forall fun b => b.toNat < r.image ∨ r.image + (r.last - r.first) < b.toNat := by
  decide +kernel

/-- A character beyond ASCII becomes what the runs say. -/
lemma lowersTo_ofNat_lowerCode {c : Char} (hc : 0x80 ≤ c.toNat) :
    LowersTo c (Char.ofNat (lowerCode c.toNat)) := by
  unfold lowerCode
  cases himage : lowerRuns.findSome? (·.image? c.toNat) with
  | none =>
    rw [Option.getD_none, Char.ofNat_toNat]
    exact .same hc
  | some y =>
    obtain ⟨r, hr, hy⟩ := List.exists_of_findSome?_eq_some himage
    rw [CaseRun.image?, Option.ite_none_right_eq_some, Option.some.injEq] at hy
    obtain ⟨⟨hfirst, hlast, -⟩, rfl⟩ := hy
    rw [Option.getD_some]
    rcases List.forall_iff_forall_mem.1 forall_lowerRuns r hr with
      ⟨hone, hk⟩ | ⟨hbeyond, hvalid, hblank⟩
    · have hy : r.image + (c.toNat - r.first) = 'k'.toNat := by omega
      rw [hy]
      exact .letter hc (by simp)
    · have hcode := toNat_ofNat (n := r.image + (c.toNat - r.first)) (by
        unfold Nat.isValidChar
        omega)
      refine .beyond hc (by omega) ?_
      rw [isBlank, ← Bool.not_eq_true, List.contains_iff_mem]
      intro hmem
      have := List.forall_iff_forall_mem.1 hblank _ hmem
      omega

lemma lowersTo_of_mem_lowerChar {c d : Char} (h : d ∈ lowerChar c) : LowersTo c d := by
  unfold lowerChar at h
  split_ifs at h with hc hdotted
  · rw [List.mem_singleton.1 h]
    exact .ascii hc
  · rcases List.mem_pair.1 h with rfl | rfl
    · exact .letter (Nat.le_of_not_lt hc) (by simp)
    · exact .beyond (Nat.le_of_not_lt hc) (by decide) (by decide)
  · rw [List.mem_singleton.1 h]
    exact lowersTo_ofNat_lowerCode (Nat.le_of_not_lt hc)

/-- Both small letters that a capital sigma may become are such characters. -/
lemma lowersTo_lowerSigma (before after : List Char) : LowersTo 'Σ' (lowerSigma before after) := by
  unfold lowerSigma
  split <;> exact .beyond (by decide) (by decide) (by decide)

/-! ## Texts -/

/-- The first character has an image, which comes first, and all others of the text come from
characters that are left. -/
lemma lowerAfter_cons (before : List Char) (c : Char) (cs : List Char) :
    ∃ d image, lowerAfter before (c :: cs) = d :: image ++ lowerAfter (c :: before) cs ∧
      ∀ e ∈ d :: image, LowersTo c e := by
  rw [lowerAfter]
  split
  case isTrue hsigma =>
    subst hsigma
    refine ⟨_, [], rfl, ?_⟩
    simpa using lowersTo_lowerSigma before cs
  case isFalse =>
    obtain ⟨d, image, himage⟩ : ∃ d image, lowerChar c = d :: image := by
      unfold lowerChar
      split_ifs <;> exact ⟨_, _, rfl⟩
    refine ⟨d, image, by rw [himage], fun e he => ?_⟩
    exact lowersTo_of_mem_lowerChar (himage ▸ he)

lemma exists_lowersTo_of_mem {before cs : List Char} {d : Char} (h : d ∈ lowerAfter before cs) :
    ∃ c ∈ cs, LowersTo c d := by
  induction cs generalizing before with
  | nil => simp [lowerAfter] at h
  | cons c cs ih =>
    obtain ⟨e, image, heq, hlowers⟩ := lowerAfter_cons before c cs
    rw [heq, List.mem_append] at h
    rcases h with h | h
    · exact ⟨c, List.mem_cons_self .., hlowers d h⟩
    · obtain ⟨c', hc', hlowers⟩ := ih h
      exact ⟨c', List.mem_cons_of_mem _ hc', hlowers⟩

/-! ## Names -/

/-- The small letter of an ASCII character is no capital one, and one of a name if the character is;
it is blank only if the character is. -/
lemma toLower_of_ascii {c : Char} (hc : c.toNat < 0x80) :
    c.toLower.isUpper = false ∧ isNameChar c.toLower = isNameChar c ∧
      isBlank c.toLower = isBlank c := by
  have hall : ∀ n < 0x80, (Char.ofNat n).toLower.isUpper = false ∧
      isNameChar (Char.ofNat n).toLower = isNameChar (Char.ofNat n) ∧
      isBlank (Char.ofNat n).toLower = isBlank (Char.ofNat n) := by
    decide +kernel
  simpa only [Char.ofNat_toNat] using hall c.toNat hc

lemma isUpper_of_beyond {c : Char} (hc : 0x80 ≤ c.toNat) : c.isUpper = false :=
  decide_eq_false fun hupper =>
    absurd (Nat.le_trans hc (UInt32.le_iff_toNat_le.1 hupper.2)) (by decide)

lemma isNameChar_of_beyond {c : Char} (hc : 0x80 ≤ c.toNat) : isNameChar c = true := by
  simp [isNameChar, hc]

variable {c d : Char}

lemma LowersTo.isUpper (h : LowersTo c d) : d.isUpper = false := by
  cases h with
  | ascii hc => exact (toLower_of_ascii hc).1
  | same hc => exact isUpper_of_beyond hc
  | beyond _ hd _ => exact isUpper_of_beyond hd
  | letter _ hd => rcases List.mem_pair.1 hd with rfl | rfl <;> decide

lemma LowersTo.isNameChar (h : LowersTo c d) (hc : isNameChar c = true) : isNameChar d = true := by
  cases h with
  | ascii hascii => rw [(toLower_of_ascii hascii).2.1, hc]
  | same => exact hc
  | beyond _ hd _ => exact isNameChar_of_beyond hd
  | letter _ hd => rcases List.mem_pair.1 hd with rfl | rfl <;> decide

lemma LowersTo.isBlank (h : LowersTo c d) (hc : isBlank c = false) : isBlank d = false := by
  cases h with
  | ascii hascii => rw [(toLower_of_ascii hascii).2.2, hc]
  | same => exact hc
  | beyond _ _ hd => exact hd
  | letter _ hd => rcases List.mem_pair.1 hd with rfl | rfl <;> decide

/-- **A name in lower case is a name.** -/
theorem isName_lowerCase {cs : List Char} (h : IsName cs) : IsName (lowerCase cs) := by
  obtain ⟨hne, hname, hhead⟩ := h
  obtain ⟨c, cs, rfl⟩ := List.exists_cons_of_ne_nil hne
  obtain ⟨d, image, heq, hlowers⟩ := lowerAfter_cons [] c cs
  refine ⟨?_, fun e he => ?_, fun e he => ?_⟩
  · simp [lowerCase, heq]
  · obtain ⟨c', hc', hlowers⟩ := exists_lowersTo_of_mem he
    exact hlowers.isNameChar (hname c' hc')
  · obtain rfl : d = e := by simpa [lowerCase, heq] using he
    exact (hlowers d (List.mem_cons_self ..)).isBlank (hhead c rfl)

/-- **No capital letter of ASCII is left** in a text in lower case. -/
theorem isUpper_of_mem_lowerCase {cs : List Char} (h : d ∈ lowerCase cs) : d.isUpper = false := by
  obtain ⟨c, -, hlowers⟩ := exists_lowersTo_of_mem h
  exact hlowers.isUpper

end Unicode

end ComponentQuery
