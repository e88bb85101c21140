import ComponentQuery.Proofs.Unicode.LowerCase

/-!
# Upper case stays as it is

Upper casing may make a text longer, but only once: no character that comes out of it has an upper
case other than itself (`upperCase_upperCase`).  And no space comes out of it that was not there.

Both follow from what the tables have in common.  `changed` are the code points that they change and
`images` those that they give, and no code point is one and the other.  To tell this from the
tables, which together hold more than a thousand code points of each kind, sets of code points are
written as numbers, with a bit for each (`codeSet`).
-/

namespace ComponentQuery.Unicode

/-! ## Sets of code points -/

/-- A set of code points, as the bits of a number. -/
def codeSet (codes : List Nat) : Nat := codes.foldr (fun x set => 1 <<< x ||| set) 0

lemma testBit_codeSet {codes : List Nat} {x : Nat} :
    (codeSet codes).testBit x = true ↔ x ∈ codes := by
  unfold codeSet
  induction codes with
  | nil => simp
  | cons y codes ih =>
    rw [List.foldr_cons, Nat.testBit_or, Bool.or_eq_true, ih, Nat.one_shiftLeft,
      Nat.testBit_two_pow, decide_eq_true_iff, List.mem_cons, eq_comm]

/-- Sets without a common bit have no common element. -/
lemma disjoint_of_codeSet {xs ys : List Nat} (h : codeSet xs &&& codeSet ys = 0) :
    xs.Disjoint ys := by
  intro x hx hy
  have hbit := Nat.testBit_and (codeSet xs) (codeSet ys) x
  rw [h, Nat.zero_testBit, testBit_codeSet.2 hx, testBit_codeSet.2 hy] at hbit
  simp at hbit

/-! ## Tables -/

namespace CaseRun

/-- How far the characters of a run are from its first. -/
def steps (r : CaseRun) : List Nat :=
  (List.range ((r.last - r.first) / r.stride + 1)).map (r.stride * ·)

lemma exists_step_of_image? {r : CaseRun} {x y : Nat} (h : r.image? x = some y) :
    ∃ step ∈ r.steps, x = r.first + step ∧ y = r.image + step := by
  rw [image?, Option.ite_none_right_eq_some, Option.some.injEq] at h
  obtain ⟨⟨hfirst, hlast, hstride⟩, rfl⟩ := h
  refine ⟨x - r.first, List.mem_map.2 ⟨(x - r.first) / r.stride, ?_, ?_⟩, by omega, rfl⟩
  · rw [List.mem_range, Nat.lt_succ_iff]
    exact Nat.div_le_div_right (by omega)
  · have hdiv := Nat.div_add_mod (x - r.first) r.stride
    rwa [hstride, Nat.add_zero] at hdiv

end CaseRun

/-- The code points beyond ASCII that upper casing changes. -/
def changed : List Nat :=
  upperExpansions.map Prod.fst ++ upperRuns.flatMap fun r => r.steps.map (r.first + ·)

/-- The code points that it changes them to. -/
def images : List Nat :=
  upperExpansions.flatMap Prod.snd ++ upperRuns.flatMap fun r => r.steps.map (r.image + ·)

lemma disjoint_changed_images : changed.Disjoint images :=
  disjoint_of_codeSet (by decide +kernel)

/-- A code point of a character other than an ASCII one, unless it is a capital letter. -/
def IsImageCode (y : Nat) : Prop :=
  y.isValidChar ∧ (0x80 ≤ y ∨ 'A'.toNat ≤ y ∧ y ≤ 'Z'.toNat)

instance (y : Nat) : Decidable (IsImageCode y) :=
  inferInstanceAs (Decidable (y.isValidChar ∧ (0x80 ≤ y ∨ 'A'.toNat ≤ y ∧ y ≤ 'Z'.toNat)))

lemma isImageCode_of_mem {y : Nat} (hy : y ∈ images) : IsImageCode y := by
  have hall : images.Forall IsImageCode := by decide +kernel
  exact List.forall_iff_forall_mem.1 hall y hy

lemma mem_of_lookup_eq_some {table : List (Nat × List Nat)} {x : Nat} {image : List Nat}
    (h : table.lookup x = some image) : (x, image) ∈ table := by
  obtain ⟨before, after, rfl, -⟩ := List.lookup_eq_some_iff.1 h
  exact List.mem_append_right _ (List.mem_cons_self ..)

/-- A code point that is changed is changed to images. -/
lemma upperCodes_cases (x : Nat) :
    upperCodes x = [x] ∨ x ∈ changed ∧ ∀ y ∈ upperCodes x, y ∈ images := by
  unfold upperCodes
  cases hlookup : upperExpansions.lookup x with
  | some image =>
    have hmem := mem_of_lookup_eq_some hlookup
    refine .inr ⟨List.mem_append_left _ (List.mem_map.2 ⟨_, hmem, rfl⟩), fun y hy => ?_⟩
    exact List.mem_append_left _ (List.mem_flatMap.2 ⟨_, hmem, hy⟩)
  | none =>
    cases himage : upperRuns.findSome? (·.image? x) with
    | none => exact .inl rfl
    | some y =>
      obtain ⟨r, hr, hy⟩ := List.exists_of_findSome?_eq_some himage
      obtain ⟨step, hstep, rfl, rfl⟩ := CaseRun.exists_step_of_image? hy
      have hrun : ∀ {first : CaseRun → Nat},
          first r + step ∈ upperRuns.flatMap fun r => r.steps.map (first r + ·) := fun {first} =>
        List.mem_flatMap.2 ⟨r, hr, List.mem_map.2 ⟨step, hstep, rfl⟩⟩
      refine .inr ⟨List.mem_append_right _ hrun, fun y hy => ?_⟩
      obtain rfl := List.mem_singleton.1 hy
      exact List.mem_append_right _ hrun

/-! ## Characters -/

/-- What comes out of upper casing a character has no other upper case, and is a space only if the
character is. -/
lemma upperChar_of_mem {c d : Char} (h : d ∈ upperChar c) :
    upperChar d = [d] ∧ (d = ' ' → c = ' ') := by
  have hascii : ∀ n < 0x80, upperChar (Char.ofNat n).toUpper = [(Char.ofNat n).toUpper] ∧
      ((Char.ofNat n).toUpper = ' ' → Char.ofNat n = ' ') := by
    decide +kernel
  by_cases hc : c.toNat < 0x80
  · rw [upperChar, if_pos hc, List.mem_singleton] at h
    subst h
    simpa only [Char.ofNat_toNat] using hascii c.toNat hc
  · rw [upperChar, if_neg hc] at h
    obtain ⟨y, hy, rfl⟩ := List.mem_map.1 h
    rcases upperCodes_cases c.toNat with hsame | ⟨-, himages⟩
    · -- The character stays, and its upper case is known already.
      rw [hsame, List.mem_singleton] at hy
      subst hy
      rw [Char.ofNat_toNat, upperChar, if_neg hc, hsame]
      exact ⟨by simp, id⟩
    · have himage := himages y hy
      obtain ⟨hvalid, hcode⟩ := isImageCode_of_mem himage
      have hy' := toNat_ofNat hvalid
      -- An image lies beyond ASCII or among the capitals, and the blank is neither.
      have hspace : Char.ofNat y ≠ ' ' := by
        intro heq
        have hspace : y = 32 := hy'.symm.trans (congrArg Char.toNat heq)
        have hletter : 'A'.toNat = 65 := rfl
        omega
      refine ⟨?_, fun heq => absurd heq hspace⟩
      rw [upperChar, hy']
      split_ifs with hlt
      · rcases hcode with hbeyond | ⟨hlo, hhi⟩
        · omega
        · have hall : ∀ n < 0x80, 'A'.toNat ≤ n → n ≤ 'Z'.toNat →
              (Char.ofNat n).toUpper = Char.ofNat n := by decide +kernel
          rw [hall y hlt hlo hhi]
      · rcases upperCodes_cases y with hsame | ⟨hchanged, -⟩
        · rw [hsame]
          rfl
        · exact absurd himage (disjoint_changed_images hchanged)

lemma upperChar_ne_nil (c : Char) : upperChar c ≠ [] := by
  have hne : upperExpansions.Forall fun e => e.2 ≠ [] := by decide
  unfold upperChar upperCodes
  split_ifs
  · exact List.cons_ne_nil _ _
  · split
    case h_1 image hlookup =>
      rw [Ne, List.map_eq_nil_iff]
      exact List.forall_iff_forall_mem.1 hne _ (mem_of_lookup_eq_some hlookup)
    case h_2 => exact List.cons_ne_nil _ _

/-! ## Texts -/

lemma upperCase_eq_nil_iff {cs : List Char} : upperCase cs = [] ↔ cs = [] := by
  cases cs with
  | nil => simp
  | cons c cs => simp [upperChar_ne_nil]

lemma mem_upperCase {cs : List Char} {d : Char} :
    d ∈ upperCase cs ↔ ∃ c ∈ cs, d ∈ upperChar c := List.mem_flatMap

/-- **Upper case stays as it is.** -/
theorem upperCase_upperCase (cs : List Char) : upperCase (upperCase cs) = upperCase cs := by
  have hfixed : ∀ ds : List Char, (∀ d ∈ ds, upperChar d = [d]) → upperCase ds = ds := by
    intro ds hds
    induction ds with
    | nil => rfl
    | cons d ds ih =>
      rw [List.forall_mem_cons] at hds
      rw [upperCase_cons, hds.1, ih hds.2, List.singleton_append]
  refine hfixed _ fun d hd => ?_
  obtain ⟨c, -, hd⟩ := mem_upperCase.1 hd
  exact (upperChar_of_mem hd).1

/-- **No space is created.** -/
theorem space_not_mem_upperCase {cs : List Char} (h : ' ' ∉ cs) : ' ' ∉ upperCase cs := by
  intro hspace
  obtain ⟨c, hc, hd⟩ := mem_upperCase.1 hspace
  obtain rfl := (upperChar_of_mem hd).2 rfl
  exact h hc

end ComponentQuery.Unicode
