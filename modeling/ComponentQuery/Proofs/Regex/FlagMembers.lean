import ComponentQuery.Proofs.Regex.Leftmost

/-!
# What the members of the flags decide

Flags are a text, but only some of their letters matter, and their order does not.  Three letters
stand in front of the source, in a group that sets the same flags in every order
(`ofText_patternText_eq`).  The letter `y` is no part of the pattern: it asks that the leftmost
match start with the subject, which is to ask for a match there (`accepts_sticky_iff`).
`accepts_under_flags` puts the two together.
-/

namespace ComponentQuery.Regex

/-! ## The letters in front of a source -/

section

variable {letters letters' flags flags' : List Char}

lemma Flags.adding_perm (f : Flags) (h : letters.Perm letters') :
    f.adding letters = f.adding letters' := by
  simp only [Flags.adding, h.contains_eq]

lemma read_flagged_perm (h : letters.Perm letters') (hletters : ∀ c ∈ letters, isInline c = true)
    (hne : letters ≠ []) (source : List Char) :
    Pattern.read (flagged letters source) = Pattern.read (flagged letters' source) := by
  have hletters' : ∀ c ∈ letters', isInline c = true := fun c hc => hletters c (h.mem_iff.2 hc)
  have hne' : letters' ≠ [] := by
    rintro rfl
    exact hne h.eq_nil
  have hlength : (flagged letters source).length = (flagged letters' source).length := by
    rw [length_flagged, length_flagged, h.length_eq]
  obtain ⟨fuel, hfuel⟩ : ∃ k, 12 * ((flagged letters' source).length + 1) = k + 4 + 2 := by
    rw [length_flagged]
    exact ⟨12 * (letters'.length + source.length + 4) - 6, by omega⟩
  unfold Pattern.read
  rw [hlength, hfuel, alternatives_eq, alternatives_eq, pieces_flagged hletters hne rfl (by decide),
    pieces_flagged hletters' hne' rfl (by decide), Flags.adding_perm _ h]

/-- Flags that have the same members have the same letters in front of a source, in some order. -/
lemma inlineLetters_perm (hflags : flags.Nodup) (hflags' : flags'.Nodup)
    (h : ∀ c ∈ ['i', 'm', 's'], c ∈ flags ↔ c ∈ flags') :
    (inlineLetters flags).Perm (inlineLetters flags') := by
  refine (List.perm_ext_iff_of_nodup (hflags.filter _) (hflags'.filter _)).2 fun c => ?_
  by_cases hc : isInline c = true
  · have hletter : c ∈ ['i', 'm', 's'] := by simpa [isInline, or_assoc] using hc
    calc c ∈ inlineLetters flags
      _ ↔ c ∈ flags := mem_inlineLetters hc
      _ ↔ c ∈ flags' := h c hletter
      _ ↔ c ∈ inlineLetters flags' := (mem_inlineLetters hc).symm
  · exact iff_of_false (fun hmem => hc (isInline_of_mem_inlineLetters c hmem))
      fun hmem => hc (isInline_of_mem_inlineLetters c hmem)

/-- The order of flags does not matter, nor do those that change no source. -/
theorem ofText_patternText_eq (hflags : flags.Nodup) (hflags' : flags'.Nodup)
    (h : ∀ c ∈ ['i', 'm', 's'], c ∈ flags ↔ c ∈ flags') (source : List Char) :
    Matcher.ofText (patternText source flags) = Matcher.ofText (patternText source flags') := by
  have hperm := inlineLetters_perm hflags hflags' h
  rw [patternText_eq, patternText_eq]
  by_cases hnone : inlineLetters flags = []
  · have hnone' : inlineLetters flags' = [] := by
      rw [hnone] at hperm
      exact hperm.symm.eq_nil
    rw [if_pos hnone, if_pos hnone']
  · have hnone' : inlineLetters flags' ≠ [] := by
      intro hnil
      rw [hnil] at hperm
      exact hnone hperm.eq_nil
    rw [if_neg hnone, if_neg hnone', Matcher.ofText, Matcher.ofText,
      read_flagged_perm hperm isInline_of_mem_inlineLetters hnone]

end

/-! ## Tests under flags -/

/-- What compiles under some flags compiles under others that have the same text in front of the
source. -/
lemma exists_compile {r : Regex} {flags : String} (hflags : areFlags flags.toList = true)
    (h : Matcher.ofText (patternText r.source.toList flags.toList) =
      Matcher.ofText (patternText r.source.toList r.flags.toList)) :
    ∃ r' : Regex, compile r.source flags = .ok r' ∧ r'.matcher = r.matcher := by
  have hmatcher := (compileMatcher_eq_ok_iff.1 r.matcher_eq).2
  exact ⟨⟨r.source, flags, r.matcher, compileMatcher_eq_ok_iff.2 ⟨hflags, h.trans hmatcher⟩⟩,
    compile_eq_ok_iff.2 ⟨rfl, rfl⟩, rfl⟩

lemma accepts_iff {r : Regex} {subject : List Char} :
    r.accepts subject = true ↔
      ∃ start, r.matcher.findStart? subject.toArray = some start ∧
        ('y' ∈ r.flags.toList → start = 0) := by
  unfold accepts isSticky
  cases r.matcher.findStart? subject.toArray with
  | none => simp
  | some start => simp [imp_iff_not_or]

/-- Regular expressions of one matcher accept the same subjects if both ask for a match at the start
or neither. -/
lemma accepts_eq {r r' : Regex} (hmatcher : r.matcher = r'.matcher)
    (hy : 'y' ∈ r.flags.toList ↔ 'y' ∈ r'.flags.toList) (subject : List Char) :
    r.accepts subject = r'.accepts subject := by
  rw [Bool.eq_iff_iff, accepts_iff, accepts_iff, hmatcher, hy]

lemma findStart?_eq_some_iff {r : Regex} (hkeeps : KeepsStart r.source.toList) {s : Subject}
    (h : ¬ r.matcher.GivesUp s) {k : Nat} :
    r.matcher.findStart? s = some k ↔
      k ≤ s.size ∧ r.matcher.MatchesAt s k ∧ ∀ j < k, ¬ r.matcher.MatchesAt s j := by
  have hmatcher := (compileMatcher_eq_ok_iff.1 r.matcher_eq).2
  unfold Matcher.ofText at hmatcher
  cases hread : Pattern.read (patternText r.source.toList r.flags.toList) with
  | error e => simp [hread, bind, Except.bind] at hmatcher
  | ok t =>
    rw [hread] at hmatcher
    exact Matcher.findStart?_eq_some_iff hmatcher (hkeeps.patternText _ t hread) h

lemma accepts_sticky_iff {r sticky : Regex} (hmatcher : sticky.matcher = r.matcher)
    (hy : 'y' ∈ sticky.flags.toList) (hkeeps : KeepsStart r.source.toList) {subject : List Char}
    (h : ¬ r.matcher.GivesUp subject.toArray) :
    sticky.accepts subject = true ↔ r.matcher.MatchesAt subject.toArray 0 := by
  have hfound := findStart?_eq_some_iff hkeeps h (k := 0)
  rw [accepts_iff, hmatcher]
  simp only [hy, true_implies, exists_eq_right]
  simpa using hfound

/-- **Of the flags only `i`, `m`, `s` and `y` matter, and `y` asks for a match at the start.**
Flags that have the same of these members compile a source or refuse it alike, and accept the same
subjects.  With `y`, a source that leaves the start of the match alone accepts a subject if and
only if there is a match at the start without, unless that test is given up; and then it accepts the
subject without `y` as well. -/
theorem accepts_under_flags (source : String) :
    (∀ f g : String, areFlags f.toList = true → areFlags g.toList = true →
      (∀ c ∈ ['i', 'm', 's', 'y'], c ∈ f.toList ↔ c ∈ g.toList) →
      ((compile source f).isOk = true ↔ (compile source g).isOk = true) ∧
        ∀ r r' : Regex, compile source f = .ok r → compile source g = .ok r' →
          ∀ subject, r.accepts subject = r'.accepts subject) ∧
      (KeepsStart source.toList → ∀ (flags : String) (r : Regex), compile source flags = .ok r →
        'y' ∉ flags.toList → ∃ sticky, compile source (flags ++ "y") = .ok sticky ∧
          ∀ subject : List Char, ¬ r.matcher.GivesUp subject.toArray →
            (sticky.accepts subject = true ↔ r.matcher.MatchesAt subject.toArray 0) ∧
              (sticky.accepts subject = true → r.accepts subject = true)) ∧
      (¬ ['\\', 'K'] <:+: source.toList → KeepsStart source.toList) := by
  refine ⟨fun f g hf hg hmem => ?_, fun hkeeps flags r hr hy => ?_, keepsStart_of_not_infix⟩
  · -- Flags with the same letters compile to the same matcher, and agree on being sticky.
    have hread := ofText_patternText_eq (areFlags_iff.1 hf).2 (areFlags_iff.1 hg).2
      (fun c hc => hmem c (List.mem_append_left ['y'] hc)) source.toList
    refine ⟨by rw [compile_isOk_iff hf, compile_isOk_iff hg, hread], fun r r' hr hr' subject => ?_⟩
    obtain ⟨rfl, rfl⟩ := compile_eq_ok_iff.1 hr
    obtain ⟨hsource, rfl⟩ := compile_eq_ok_iff.1 hr'
    have hmatcher := (compileMatcher_eq_ok_iff.1 r.matcher_eq).2
    have hmatcher' := (compileMatcher_eq_ok_iff.1 r'.matcher_eq).2
    rw [hsource, ← hread, hmatcher] at hmatcher'
    exact accepts_eq (Except.ok.inj hmatcher') (hmem 'y' (by simp)) subject
  · obtain ⟨rfl, rfl⟩ := compile_eq_ok_iff.1 hr
    have hflags := areFlags_iff.1 (compileMatcher_eq_ok_iff.1 r.matcher_eq).1
    have hsticky : areFlags (r.flags ++ "y").toList = true := by
      rw [areFlags_iff, String.toList_append]
      exact ⟨List.forall_mem_append.2 ⟨hflags.1, by simp [isFlag, letters]⟩,
        List.nodup_append.2 ⟨hflags.2, by simp, by simp; grind⟩⟩
    have hread := ofText_patternText_eq (areFlags_iff.1 hsticky).2 hflags.2 (by simp)
      r.source.toList
    -- The sticky flag is not pasted into the pattern: the matcher is the one of the other flags.
    obtain ⟨sticky, hcompile, hmatcher⟩ := exists_compile hsticky hread
    obtain ⟨-, hstickyFlags⟩ := compile_eq_ok_iff.1 hcompile
    refine ⟨sticky, hcompile, fun subject hgives => ⟨?_, fun haccepts => ?_⟩⟩
    · exact accepts_sticky_iff hmatcher (by simp [hstickyFlags]) hkeeps hgives
    · rw [accepts_iff, hmatcher] at haccepts
      obtain ⟨start, hstart, -⟩ := haccepts
      exact accepts_iff.2 ⟨start, hstart, fun hmem => absurd hmem hy⟩

/-- The same character twice: the order of `s` and `y` does not matter, nor do `g` and `d`, and a
subject that begins with such a pair is accepted with `y`. -/
theorem accepts_under_flags_twice :
    ∃ r sticky reordered : Regex, compile "(.)\\1" "gs" = .ok r ∧
      compile "(.)\\1" ("gs" ++ "y") = .ok sticky ∧ compile "(.)\\1" "yds" = .ok reordered ∧
      (∀ subject, sticky.accepts subject = reordered.accepts subject) ∧
      r.matcher.MatchesAt #['a', 'a', 'x'] 0 ∧ sticky.accepts ['a', 'a', 'x'] = true ∧
      r.accepts ['a', 'a', 'x'] = true := by
  have hexists : ∀ flags : String, (compile "(.)\\1" flags).isOk = true →
      ∃ r, compile "(.)\\1" flags = .ok r := by
    intro flags h
    cases hcompile : compile "(.)\\1" flags with
    | ok r => exact ⟨r, rfl⟩
    | error e => simp [hcompile, Except.isOk, Except.toBool] at h
  obtain ⟨hmembers, hsticky, hescape⟩ := accepts_under_flags "(.)\\1"
  have hkeeps : KeepsStart "(.)\\1".toList := hescape (by decide)
  obtain ⟨r, hr⟩ := hexists "gs" (by decide +kernel)
  obtain ⟨reordered, hreordered⟩ := hexists "yds" (by decide +kernel)
  obtain ⟨sticky, hcompile, hspec⟩ := hsticky hkeeps "gs" r hr (by decide)
  obtain ⟨hsource, hflags⟩ := compile_eq_ok_iff.1 hr
  have hfind : (compileMatcher "(.)\\1" "gs").map (·.findStart? #['a', 'a', 'x']) =
      .ok (some 0) := by
    decide +kernel
  have hfound : r.matcher.findStart? #['a', 'a', 'x'] = some 0 := by
    rw [← hsource, ← hflags, r.matcher_eq] at hfind
    exact Except.ok.inj hfind
  have hgives : ¬ r.matcher.GivesUp #['a', 'a', 'x'] := Matcher.not_givesUp hfound
  have hmatch : r.matcher.MatchesAt #['a', 'a', 'x'] 0 :=
    ((findStart?_eq_some_iff (hsource ▸ hkeeps) hgives).1 hfound).2.1
  have haccepts := (hspec ['a', 'a', 'x'] hgives).1.2 hmatch
  exact ⟨r, sticky, reordered, hr, hcompile, hreordered,
    (hmembers ("gs" ++ "y") "yds" (by decide) (by decide) (by simp)).2 _ _ hcompile hreordered,
    hmatch, haccepts, (hspec ['a', 'a', 'x'] hgives).2 haccepts⟩

end ComponentQuery.Regex
