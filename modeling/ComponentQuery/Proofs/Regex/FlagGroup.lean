import ComponentQuery.Proofs.Regex.Agreement
import ComponentQuery.Regex

/-!
# Flags in front of a source

The flags that change what a source means are put in front of it, in a group of their own.  Such
a group is read as nothing, so that the source behind it is read from its start, but no longer as
the start of a pattern.  The difference shows in one place: limits of a repetition, such as a two
between braces, are characters where no part stands before them, and the group is a part.  It is
nothing, which cannot be repeated, and the pattern is refused.

Apart from that, `pieces_flagged_eq` says that a source behind the group is read as it is under the
flags of the group, and `ofText_flagged` that both can be tested or neither, unless ignoring case
makes the pattern too large.  `compile_under_flags` is the result for regular expressions.
-/

namespace ComponentQuery.Regex

open Pattern

/-! ## The group for flags -/

/-- Flags with those of some letters set. -/
def Flags.adding (f : Flags) (letters : List Char) : Flags :=
  { f with
    ignoreCase := f.ignoreCase || letters.contains 'i'
    multiLine := f.multiLine || letters.contains 'm'
    dotAll := f.dotAll || letters.contains 's' }

lemma Flags.below_adding (f : Flags) (letters : List Char) : f.Below (f.adding letters) :=
  ⟨fun h => by simp [Flags.adding, h], rfl, rfl⟩

lemma Flags.adding_below (f : Flags) {letters : List Char} (h : 'i' ∉ letters) :
    (f.adding letters).Below f :=
  ⟨fun hcase => by simpa [Flags.adding, h] using hcase, rfl, rfl⟩

/-- Where blanks count, a text that does not begin with a bracket begins with what counts. -/
lemma skip_cons {f : Flags} (hspace : f.ignoreSpace = false) {c : Char} (hc : c ≠ '(')
    (cs : List Char) : f.skip (c :: cs) = .ok (c :: cs) := by
  unfold Flags.skip passOver
  split <;> simp_all

lemma set?_inline {f : Flags} {c : Char} (hc : isInline c = true) :
    f.set? true c = some (f.adding [c]) := by
  simp only [isInline, Bool.or_eq_true, beq_iff_eq] at hc
  obtain (rfl | rfl) | rfl := hc <;> simp [Flags.set?, Flags.adding]

lemma Flags.adding_cons (f : Flags) (c : Char) (letters : List Char) :
    (f.adding [c]).adding letters = f.adding (c :: letters) := by
  simp [Flags.adding, Bool.or_assoc]

lemma isInline_ne {c : Char} (hc : isInline c = true) :
    c ≠ '(' ∧ c ≠ '-' ∧ c ≠ ')' ∧ c ≠ ':' ∧ c ∉ ['#', '=', '!', '<', '>', 'P'] := by
  simp only [isInline, Bool.or_eq_true, beq_iff_eq] at hc
  obtain (rfl | rfl) | rfl := hc <;> decide

lemma flagLetters_cons {f : Flags} (hspace : f.ignoreSpace = false) {c : Char}
    (hc : isInline c = true) (fuel : Nat) (first : Bool) (rest : List Char) :
    flagLetters (fuel + 1) f true first false (c :: rest) =
      flagLetters fuel (f.adding [c]) true false false rest := by
  obtain ⟨hopening, hhyphen, hclosing, hcolon, -⟩ := isInline_ne hc
  rw [flagLetters, skip_cons hspace hopening]
  simp only [bind, Except.bind]
  split
  all_goals simp_all [set?_inline]

/-- Letters and the bracket that closes their group: they set their flags. -/
lemma flagLetters_inline {letters : List Char} (h : ∀ c ∈ letters, isInline c = true)
    {f : Flags} (hspace : f.ignoreSpace = false) (source : List Char) (fuel : Nat)
    (hfuel : letters.length < fuel) :
    flagLetters fuel f true false false (letters ++ ')' :: source) =
      .ok (f.adding letters, false, source) := by
  induction letters generalizing f fuel with
  | nil =>
    obtain ⟨fuel, rfl⟩ : ∃ k, fuel = k + 1 := ⟨fuel - 1, by simp at hfuel; omega⟩
    unfold flagLetters
    rw [List.nil_append, skip_cons hspace (by decide)]
    simp [bind, Except.bind, Flags.adding, pure, Except.pure]
  | cons c letters ih =>
    rw [List.forall_mem_cons] at h
    rw [List.length_cons] at hfuel
    obtain ⟨fuel, rfl⟩ : ∃ k, fuel = k + 1 := ⟨fuel - 1, by omega⟩
    have hspace' : (f.adding [c]).ignoreSpace = false := hspace
    rw [List.cons_append, flagLetters_cons hspace h.1, ih h.2 hspace' fuel (by omega),
      Flags.adding_cons]

/-- A group for flags is read as nothing, under its flags. -/
lemma bracketed_flagGroup {letters : List Char} (h : ∀ c ∈ letters, isInline c = true)
    (hne : letters ≠ []) {ctx : Context} (hspace : ctx.flags.ignoreSpace = false)
    (source : List Char) (fuel depth : Nat) :
    bracketed (fuel + 1) depth ctx ('?' :: (letters ++ ')' :: source)) =
      .ok (.empty, ctx.withFlags (ctx.flags.adding letters), source) := by
  cases letters with
  | nil => exact absurd rfl hne
  | cons c letters =>
    rw [List.forall_mem_cons] at h
    obtain ⟨hopening, -, -, -, hothers⟩ := isInline_ne h.1
    have hletters : flagLetters ((c :: letters ++ ')' :: source).length + 1) ctx.flags true true
        false (c :: letters ++ ')' :: source) =
          .ok (ctx.flags.adding (c :: letters), false, source) := by
      have hspace' : (ctx.flags.adding [c]).ignoreSpace = false := hspace
      rw [List.cons_append, flagLetters_cons hspace h.1,
        flagLetters_inline h.2 hspace' source _ (by grind), Flags.adding_cons]
    simp only [bracketed]
    rw [skip_cons hspace (by decide)]
    simp only [bind, Except.bind]
    split
    case h_10 heq =>
      obtain rfl := List.tail_eq_of_cons_eq heq
      rw [hletters]
      rfl
    all_goals simp_all

/-! ## What counts -/

lemma passOver_passOver {spaces : Bool} {state : Passing} {cs rest : List Char}
    (h : passOver spaces state cs = .ok rest) : passOver spaces .blanks rest = .ok rest := by
  fun_induction passOver spaces state cs generalizing rest
  case case5 hcomment hblank hhash =>
    obtain rfl := Except.ok.inj h
    rw [passOver, if_neg hblank, if_neg hhash]
    exact hcomment
  all_goals simp_all [passOver]

lemma skip_skip {f : Flags} {cs rest : List Char} (h : f.skip cs = .ok rest) :
    f.skip rest = .ok rest :=
  passOver_passOver h

lemma skip_nil (f : Flags) : f.skip [] = .ok [] := by
  simp [Flags.skip, passOver]

lemma isEmpty_eq_false_of_skip {f : Flags} {cs : List Char} (h : f.skip cs ≠ .ok []) :
    cs.isEmpty = false := by
  cases cs with
  | nil => exact absurd (skip_nil f) h
  | cons => rfl

/-- Whether limits of a repetition come first in a source, where nothing is there to be repeated. -/
def beginsWithLimits (source : List Char) : Bool :=
  match ({} : Flags).skip source with
  | .ok ('\x7b' :: rest) => (limits? {} rest).isSome
  | _ => false

/-! ## Parts that take nothing -/

/-- A part without quantifier that takes nothing but what does not count is nothing. -/
lemma atom_idle {fuel depth : Nat} {ctx ctx' : Context} {cs cs₁ rest : List Char} {p : Pattern}
    (hfuel : 12 * cs.length + 5 ≤ fuel + 1) (hskip : ctx.flags.skip cs = .ok cs₁)
    (h : atom (fuel + 1) depth ctx cs = .ok (p, ctx', rest)) :
    (p = .empty ∧ ctx' = ctx ∧ rest = cs₁) ∨ rest.length < cs₁.length := by
  have hbelow : ctx.flags.Below ctx.flags := .refl _
  have hle := (skip_isSuffix hskip).length_le
  simp only [atom, hskip, bind, Except.bind] at h
  have hrest : ∀ {c : Char} {rest' : List Char}, rest <:+ rest' →
      rest.length < (c :: rest').length :=
    fun hs => Nat.lt_succ_of_le hs.length_le
  -- Only at the end of the text and before what ends a part nothing is taken; all other atoms take
  -- a character.
  split at h
  case h_1 =>
    cases h
    exact .inl ⟨rfl, rfl, rfl⟩
  case h_5 rest' =>
    rw [List.length_cons] at hle
    split at h
    · have hagree : Agree (Similar True) rest' (bracketed fuel (depth + 1) ctx rest')
          (bracketed fuel (depth + 1) ctx rest') :=
        (readersAgree True fuel fuel).bracketed (depth + 1) hbelow (by omega) (by omega)
          fun _ => trivial
      rw [h] at hagree
      exact .inr (hrest hagree.of_ok.2)
    · simp at h
  case h_6 rest' =>
    have hagree : Agree (Similar True) rest' (outerEscape ctx rest') (outerEscape ctx rest') :=
      agree_outerEscape hbelow fun _ => trivial
    rw [h] at hagree
    exact .inr (hrest hagree.of_ok.2)
  case h_7 rest' =>
    cases hclass : wholeClass rest' with
    | error e => simp [hclass] at h
    | ok pair =>
      simp only [hclass] at h
      split at h
      · simp at h
      · cases h
        exact .inr (hrest (leavesEnd_wholeClass _ _ _ hclass))
  case h_8 =>
    split at h
    · cases h
      exact .inl ⟨rfl, rfl, rfl⟩
    · cases h
      exact .inr (hrest List.suffix_rfl)
  all_goals
    cases h
    exact .inr (hrest List.suffix_rfl)

lemma quantified_empty (ctx : Context) (cs : List Char) :
    quantified .empty ctx cs = ctx.flags.skip cs >>= fun rest =>
      if (quantifier? ctx.flags rest).isSome then .error .notRepeatable
      else .ok (.empty, ctx, rest) := by
  unfold quantified
  cases ctx.flags.skip cs with
  | error e => rfl
  | ok rest =>
    simp only [bind, Except.bind]
    cases quantifier? ctx.flags rest with
    | none => rfl
    | some limits => rfl

/-- A part that takes nothing but what does not count is nothing. -/
lemma piece_idle {fuel depth : Nat} {ctx ctx' : Context} {cs cs₁ rest : List Char} {p : Pattern}
    (hfuel : 12 * cs.length + 6 ≤ fuel) (hskip : ctx.flags.skip cs = .ok cs₁)
    (h : piece fuel depth ctx cs = .ok (p, ctx', rest)) :
    (p = .empty ∧ ctx' = ctx ∧ rest = cs₁) ∨ rest.length < cs₁.length := by
  obtain ⟨fuel, rfl⟩ : ∃ k, fuel = k + 2 := ⟨fuel - 2, by omega⟩
  have hagree : Agree (Similar True) cs (atom (fuel + 1) depth ctx cs)
      (atom (fuel + 1) depth ctx cs) :=
    (readersAgree True _ _).atom depth (.refl _) (by omega) (by omega) fun _ => trivial
  simp only [piece] at h
  cases hatom : atom (fuel + 1) depth ctx cs with
  | error e => simp [hatom, bind, Except.bind] at h
  | ok step =>
    obtain ⟨q, ctx₁, rest₁⟩ := step
    rw [hatom] at h hagree
    simp only [bind, Except.bind] at h
    obtain ⟨rfl, rfl, rfl⟩ | hlt := atom_idle (by omega) hskip hatom
    · rw [quantified_empty, skip_skip hskip] at h
      simp only [bind, Except.bind] at h
      split at h
      · simp at h
      · cases h
        exact .inl ⟨rfl, rfl, rfl⟩
    · have hquantified : Agree (Similar True) rest₁ (quantified q ctx₁ rest₁)
          (quantified q ctx₁ rest₁) := agree_quantified hagree.of_ok.1 (.refl _)
      rw [h] at hquantified
      exact .inr (hquantified.of_ok.2.length_le.trans_lt hlt)

/-- Where a part takes nothing, no parts are read. -/
lemma pieces_idle {k m depth : Nat} {ctx ctx' : Context} {cs : List Char} {p : Pattern}
    (h : piece k depth ctx cs = .ok (p, ctx', cs)) (hk : 12 * cs.length + 6 ≤ k)
    (hm : 12 * cs.length + 7 ≤ m) : pieces m depth ctx cs = .ok ([], ctx, cs) := by
  obtain ⟨m, rfl⟩ : ∃ j, m = j + 1 := ⟨m - 1, by omega⟩
  rw [ReadersAgree.pieces_eq]
  split
  · rfl
  · have hagree : Agree (Similar True) cs (piece k depth ctx cs) (piece m depth ctx cs) :=
      (readersAgree True _ _).piece depth (.refl _) (by omega) (by omega) fun _ => trivial
    rw [h] at hagree
    generalize piece m depth ctx cs = x at hagree
    cases hagree with
    | ok => exact if_pos rfl

lemma piece_nil {fuel depth : Nat} {ctx : Context} (hfuel : 2 ≤ fuel) :
    piece fuel depth ctx [] = .ok (.empty, ctx, []) := by
  obtain ⟨fuel, rfl⟩ : ∃ k, fuel = k + 2 := ⟨fuel - 2, by omega⟩
  have hskip := skip_nil ctx.flags
  simp only [piece, atom, hskip]
  change quantified .empty ctx [] = _
  rw [quantified_empty, hskip]
  rfl

lemma piece_skip {fuel depth : Nat} {ctx : Context} {cs rest : List Char}
    (h : ctx.flags.skip cs = .ok rest) :
    piece fuel depth ctx cs = piece fuel depth ctx rest := by
  match fuel with
  | 0 => simp only [piece]
  | 1 => simp only [piece, atom]
  | fuel + 2 => simp only [piece, atom, h, skip_skip h]

lemma pieces_error {fuel depth : Nat} {ctx : Context} {cs : List Char} {e : PatternError}
    (hskip : ctx.flags.skip cs = .error e) (hfuel : 3 ≤ fuel) :
    pieces fuel depth ctx cs = .error e := by
  obtain ⟨fuel, rfl⟩ : ∃ k, fuel = k + 3 := ⟨fuel - 3, by omega⟩
  have hleft : ctx.flags.skip cs ≠ .ok [] := by simp [hskip]
  rw [ReadersAgree.pieces_eq, isEmpty_eq_false_of_skip hleft]
  simp only [piece, atom, hskip]
  rfl

/-- Parts do not begin with a sign for a repetition. -/
lemma pieces_notRepeatable {fuel depth : Nat} {ctx : Context} {cs rest : List Char} {c : Char}
    (hskip : ctx.flags.skip cs = .ok (c :: rest)) (hc : c ∈ ['?', '*', '+']) (hfuel : 3 ≤ fuel) :
    pieces fuel depth ctx cs = .error .notRepeatable := by
  obtain ⟨fuel, rfl⟩ : ∃ k, fuel = k + 3 := ⟨fuel - 3, by omega⟩
  have hleft : ctx.flags.skip cs ≠ .ok [] := by simp [hskip]
  have hquantifier : (quantifier? ctx.flags (c :: rest)).isSome = true := by
    simp only [List.mem_cons, List.not_mem_nil, or_false] at hc
    obtain rfl | rfl | rfl := hc <;> rfl
  have hquantified : quantified .empty ctx (c :: rest) = .error .notRepeatable := by
    rw [quantified_empty, skip_skip hskip]
    simp only [bind, Except.bind, hquantifier, if_true]
  have hatom : atom (fuel + 1) depth ctx cs = .ok (.empty, ctx, c :: rest) := by
    simp only [atom, hskip]
    simp only [List.mem_cons, List.not_mem_nil, or_false] at hc
    obtain rfl | rfl | rfl := hc <;> rfl
  rw [ReadersAgree.pieces_eq, isEmpty_eq_false_of_skip hleft]
  simp only [piece, hatom, hquantified, bind, Except.bind]
  rfl

lemma pieces_skip {fuel depth : Nat} {ctx : Context} {cs rest : List Char}
    (hfuel : 12 * cs.length + 7 ≤ fuel) (hskip : ctx.flags.skip cs = .ok rest) :
    pieces fuel depth ctx cs = pieces fuel depth ctx rest := by
  have hs := skip_isSuffix hskip
  by_cases hrest : rest = cs
  · rw [hrest]
  have hlt : rest.length < cs.length :=
    lt_of_le_of_ne hs.length_le fun hlength => hrest (hs.eq_of_length hlength)
  obtain ⟨fuel, rfl⟩ : ∃ k, fuel = k + 1 := ⟨fuel - 1, by omega⟩
  have hne : cs.isEmpty = false := by cases cs <;> simp_all
  rw [ReadersAgree.pieces_eq, hne, piece_skip hskip]
  cases hpiece : piece fuel depth ctx rest with
  | error e =>
    have hne' : rest.isEmpty = false := by
      cases rest with
      | nil =>
        rw [piece_nil (by omega)] at hpiece
        simp at hpiece
      | cons => rfl
    rw [ReadersAgree.pieces_eq, hne', hpiece]
    rfl
  | ok step =>
    obtain ⟨p, ctx', rest'⟩ := step
    -- Either the first part takes nothing, and no parts are read in both texts, or the same text is
    -- left behind it.
    obtain ⟨rfl, rfl, rfl⟩ | hlt' := piece_idle (by omega) (skip_skip hskip) hpiece
    · have hstay := fun m hm => pieces_idle hpiece (by omega) (m := m) hm
      rw [hstay _ (by omega)]
      simp only [bind, Except.bind, hlt.ne, ReadersAgree.following, hstay fuel (by omega)]
      rfl
    · have hne' : rest.isEmpty = false := by cases rest <;> simp_all
      rw [ReadersAgree.pieces_eq, hne', hpiece]
      simp only [bind, Except.bind, hlt'.ne, (hlt'.trans hlt).ne, Bool.false_eq_true, if_false]

/-! ## A source behind a group for flags -/

/-- A source with a group for flags in front. -/
def flagged (letters source : List Char) : List Char := '(' :: '?' :: (letters ++ ')' :: source)

section Flagged

variable {letters source : List Char} (h : ∀ c ∈ letters, isInline c = true) (hne : letters ≠ [])

include h hne

lemma atom_flagged {fuel depth : Nat} {ctx : Context} (hspace : ctx.flags.ignoreSpace = false)
    (hdepth : depth < maxDepth) :
    atom (fuel + 2) depth ctx (flagged letters source) =
      .ok (.empty, ctx.withFlags (ctx.flags.adding letters), source) := by
  have hskip : ctx.flags.skip (flagged letters source) = .ok (flagged letters source) := by
    cases letters with
    | nil => exact absurd rfl hne
    | cons c letters =>
      have hc := (isInline_ne (h c List.mem_cons_self)).2.2.2.2
      simp_all [Flags.skip, flagged, passOver]
  simp only [atom, hskip]
  change (if depth < maxDepth then bracketed (fuel + 1) (depth + 1) ctx _ else _) = _
  rw [if_pos hdepth, bracketed_flagGroup h hne hspace]

lemma pieces_flagged {fuel depth : Nat} {ctx : Context} (hspace : ctx.flags.ignoreSpace = false)
    (hdepth : depth < maxDepth) :
    pieces (fuel + 4) depth ctx (flagged letters source) =
      quantified .empty (ctx.withFlags (ctx.flags.adding letters)) source >>= fun step =>
        pieces (fuel + 3) depth step.2.1 step.2.2 := by
  have hpiece : piece (fuel + 3) depth ctx (flagged letters source) =
      quantified .empty (ctx.withFlags (ctx.flags.adding letters)) source := by
    simp only [piece, atom_flagged h hne hspace hdepth]
    rfl
  have hsome : (flagged letters source).isEmpty = false := rfl
  rw [ReadersAgree.pieces_eq, hpiece, quantified_empty, hsome]
  cases hskip : (ctx.withFlags (ctx.flags.adding letters)).flags.skip source with
  | error e => rfl
  | ok rest =>
    have hle := (skip_isSuffix hskip).length_le
    have hlength : rest.length ≠ (flagged letters source).length := by
      simp only [flagged, List.length_cons, List.length_append]
      omega
    simp only [bind, Except.bind]
    cases (quantifier? (ctx.withFlags (ctx.flags.adding letters)).flags rest).isSome with
    | true => rfl
    | false =>
      simp only [hlength, ReadersAgree.following, Bool.false_eq_true, if_false]
      exact bind_pure _

/-- Limits of a repetition behind a group for flags have nothing to repeat. -/
lemma pieces_flagged_of_limits {fuel : Nat} (hlimits : beginsWithLimits source = true) :
    pieces (fuel + 4) 0 {} (flagged letters source) = .error .notRepeatable := by
  have hbelow : ({} : Flags).Below (({} : Flags).adding letters) := Flags.below_adding _ _
  rw [pieces_flagged h hne rfl (by decide), quantified_empty]
  simp only [Context.withFlags_flags, hbelow.skip_eq, hbelow.quantifier?_eq]
  unfold beginsWithLimits at hlimits
  split at hlimits
  case h_1 rest hskip => simp [hskip, bind, Except.bind, quantifier?, hlimits]
  case h_2 => simp at hlimits

/-- Other sources are read behind a group for flags as they are read under its flags. -/
lemma pieces_flagged_eq (fuel : Nat) (hlimits : beginsWithLimits source = false)
    (hfuel : 12 * source.length + 4 ≤ fuel) :
    pieces (fuel + 4) 0 {} (flagged letters source) =
      pieces (fuel + 3) 0 (Context.withFlags {} (({} : Flags).adding letters)) source := by
  have hbelow : ({} : Flags).Below (({} : Flags).adding letters) := Flags.below_adding _ _
  rw [pieces_flagged h hne rfl (by decide), quantified_empty]
  generalize hctx : Context.withFlags {} (({} : Flags).adding letters) = ctx
  have hskipping : ∀ cs, ctx.flags.skip cs = ({} : Flags).skip cs := by
    rw [← hctx]
    exact hbelow.skip_eq
  cases hskip : ctx.flags.skip source with
  | error e =>
    rw [pieces_error hskip (by omega)]
    rfl
  | ok rest =>
    rw [pieces_skip (by omega) hskip]
    simp only [bind, Except.bind]
    cases hquantifier : (quantifier? ctx.flags rest).isSome with
    | true =>
      -- The quantifier is a sign, as the source does not begin with limits, and it has nothing to
      -- repeat in either text.
      obtain ⟨c, rest, rfl, hc⟩ : ∃ c rest', rest = c :: rest' ∧ c ∈ ['?', '*', '+'] := by
        rw [← hctx, Context.withFlags_flags, hbelow.quantifier?_eq] at hquantifier
        rw [hskipping] at hskip
        unfold quantifier? at hquantifier
        split at hquantifier
        case h_4 => simp [beginsWithLimits, hskip, hquantifier] at hlimits
        all_goals simp_all
      rw [pieces_notRepeatable (skip_skip hskip) hc (by omega)]
      rfl
    | false => rfl

end Flagged

/-! ## Whole texts -/

lemma alternatives_eq (fuel depth : Nat) (ctx : Context) (cs : List Char) :
    alternatives (fuel + 2) depth ctx cs = pieces fuel depth ctx cs >>= fun step =>
      ReadersAgree.others (fuel + 1) depth (.ofParts step.1, step.2) := by
  simp only [alternatives, branch]
  exact bind_assoc _ _ _

lemma agree_alternatives_of_pieces {allowed : Prop} {m n depth : Nat} {ctx ctx' : Context}
    {cs cs' source : List Char} (hm : 12 * source.length + 7 ≤ m) (hn : 12 * source.length + 7 ≤ n)
    (hallowed : ['\\', 'K'] <:+: source → allowed)
    (h : Agree (SimilarAll allowed) source (pieces m depth ctx cs) (pieces n depth ctx' cs')) :
    Agree (Similar allowed) source (alternatives (m + 2) depth ctx cs)
      (alternatives (n + 2) depth ctx' cs') := by
  rw [alternatives_eq, alternatives_eq]
  have hreaders := readersAgree allowed (m + 1) (n + 1)
  exact h.bind fun hps hg hs =>
    hreaders.agree_others hps.ofParts hg hs (by omega) (by omega) hallowed

/-- Texts that are read alike can be tested or not together, except that the second may be too
large. -/
lemma harder_ofText {cs cs' : List Char} (source : List Char)
    (h : Agree (Similar True) source (alternatives (12 * (cs.length + 1)) 0 {} cs)
      (alternatives (12 * (cs'.length + 1)) 0 {} cs')) :
    Harder (Matcher.ofText cs) (Matcher.ofText cs') := by
  unfold Matcher.ofText Pattern.read
  generalize alternatives (12 * (cs.length + 1)) 0 {} cs = x at h ⊢
  generalize alternatives (12 * (cs'.length + 1)) 0 {} cs' = y at h ⊢
  cases h with
  | error e => exact .error e e
  | @ok p q ctx g rest hp hg hs =>
    cases rest with
    | nil =>
      exact Matcher.ofPatternText_similar (t := ⟨p, ctx.opened, ctx.referred⟩)
        (u := ⟨q, ctx.opened, ctx.referred⟩) hp rfl
    | cons => exact .error _ _

section Flagged

variable {letters source : List Char} (h : ∀ c ∈ letters, isInline c = true) (hne : letters ≠ [])

include h hne

omit h hne in
lemma length_flagged (letters source : List Char) :
    (flagged letters source).length = letters.length + source.length + 3 := by
  simp only [flagged, List.length_cons, List.length_append]
  omega

/-- A source is read as it is behind a group for flags. -/
lemma agree_flagged {allowed : Prop} (hlimits : beginsWithLimits source = false)
    (hallowed : ['\\', 'K'] <:+: source → allowed) :
    Agree (Similar allowed) source (alternatives (12 * (source.length + 1)) 0 {} source)
        (alternatives (12 * ((flagged letters source).length + 1)) 0 {}
          (flagged letters source)) ∧
      ('i' ∉ letters → Agree (Similar allowed) source
        (alternatives (12 * ((flagged letters source).length + 1)) 0 {} (flagged letters source))
        (alternatives (12 * (source.length + 1)) 0 {} source)) := by
  have hlength := length_flagged letters source
  obtain ⟨fuel, hfuel⟩ : ∃ k, 12 * ((flagged letters source).length + 1) = k + 4 + 2 :=
    ⟨12 * ((flagged letters source).length + 1) - 6, by omega⟩
  have hpieces := pieces_flagged_eq h hne fuel hlimits (by omega)
  have hfuel' : 12 * (source.length + 1) = 12 * source.length + 10 + 2 := by omega
  rw [hfuel, hfuel']
  constructor
  · refine agree_alternatives_of_pieces (by omega) (by omega) hallowed ?_
    rw [hpieces]
    exact (readersAgree allowed _ _).pieces 0 (Flags.below_adding _ _) (by omega) (by omega)
      hallowed
  · intro hcase
    refine agree_alternatives_of_pieces (by omega) (by omega) hallowed ?_
    rw [hpieces]
    exact (readersAgree allowed _ _).pieces 0 (Flags.adding_below {} hcase) (by omega) (by omega)
      hallowed

/-- **A source can be tested or not as it can behind a group for flags**, except that, where case
is ignored, it may be too large there. -/
theorem ofText_flagged (hlimits : beginsWithLimits source = false) :
    Harder (Matcher.ofText source) (Matcher.ofText (flagged letters source)) ∧
      ('i' ∉ letters →
        Harder (Matcher.ofText (flagged letters source)) (Matcher.ofText source)) := by
  obtain ⟨hagree, hback⟩ := agree_flagged h hne hlimits fun _ => trivial
  exact ⟨harder_ofText source hagree, fun hcase => harder_ofText source (hback hcase)⟩

theorem read_flagged_of_limits (hlimits : beginsWithLimits source = true) :
    Pattern.read (flagged letters source) = .error .notRepeatable := by
  have hlength := length_flagged letters source
  obtain ⟨fuel, hfuel⟩ : ∃ k, 12 * ((flagged letters source).length + 1) = k + 4 + 2 :=
    ⟨12 * ((flagged letters source).length + 1) - 6, by omega⟩
  simp only [Pattern.read, hfuel, alternatives_eq, pieces_flagged_of_limits h hne hlimits]
  rfl

lemma ofText_flagged_of_limits (hlimits : beginsWithLimits source = true) :
    Matcher.ofText (flagged letters source) = .error .notRepeatable := by
  rw [Matcher.ofText, read_flagged_of_limits h hne hlimits]
  rfl

end Flagged

/-! ## Compiling under flags -/

/-- The flags that are put in front of a source. -/
def inlineLetters (flags : List Char) : List Char := flags.filter isInline

lemma isInline_of_mem_inlineLetters {flags : List Char} :
    ∀ c ∈ inlineLetters flags, isInline c = true :=
  fun _ hc => (List.mem_filter.1 hc).2

lemma patternText_eq (source flags : List Char) :
    patternText source flags =
      if inlineLetters flags = [] then source else flagged (inlineLetters flags) source := by
  unfold patternText inlineLetters flagged
  split
  case h_1 hnone => rw [if_pos hnone]
  case h_2 hsome =>
    rw [if_neg hsome]
    simp

/-- Flags that are none of those put in front of a source do not matter. -/
lemma mem_inlineLetters {flags : List Char} {c : Char} (hc : isInline c = true) :
    c ∈ inlineLetters flags ↔ c ∈ flags := by
  simp [inlineLetters, hc]

lemma compile_isOk_iff {source flags : String} (h : areFlags flags.toList = true) :
    (compile source flags).isOk = true ↔
      (Matcher.ofText (patternText source.toList flags.toList)).isOk = true := by
  fun_cases compile source flags with
  | case1 m hm =>
    have hread := (compileMatcher_eq_ok_iff.1 hm).2
    simp [hread, Except.isOk, Except.toBool]
  | case2 refusal hrefusal =>
    cases hread : Matcher.ofText (patternText source.toList flags.toList) with
    | error e => simp [Except.isOk, Except.toBool]
    | ok m => simp [compileMatcher, h, hread] at hrefusal

lemma compile_eq_error_iff {source flags : String} (h : areFlags flags.toList = true)
    {e : PatternError} :
    compile source flags = .error (.badPattern source flags e) ↔
      Matcher.ofText (patternText source.toList flags.toList) = .error e := by
  fun_cases compile source flags with
  | case1 m hm =>
    have hread := (compileMatcher_eq_ok_iff.1 hm).2
    simp [hread]
  | case2 refusal hrefusal =>
    cases hread : Matcher.ofText (patternText source.toList flags.toList) with
    | error reason =>
      obtain rfl : .badPattern source flags reason = refusal := by
        simpa [compileMatcher, h, hread] using hrefusal
      simp
    | ok m => simp [compileMatcher, h, hread] at hrefusal

/-- **Flags change whether a source compiles in two ways only.**  Limits of a repetition that come
first are read as characters where they stand alone and are refused behind a group for flags; and
where case is ignored, a pattern may be too large. -/
theorem compile_under_flags {source flags : String} (h : areFlags flags.toList = true) :
    ((compile source flags).isOk = true ↔
      (compile source "").isOk = true ∧
        ¬ (inlineLetters flags.toList ≠ [] ∧ beginsWithLimits source.toList = true) ∧
        ¬ ('i' ∈ flags.toList ∧
          compile source flags = .error (.badPattern source flags .tooLarge))) ∧
      (inlineLetters flags.toList ≠ [] → beginsWithLimits source.toList = true →
        compile source flags = .error (.badPattern source flags .notRepeatable)) := by
  have hplain : (compile source "").isOk = true ↔ (Matcher.ofText source.toList).isOk = true :=
    compile_isOk_iff (by decide)
  have hletters : ∀ c ∈ inlineLetters flags.toList, isInline c = true :=
    isInline_of_mem_inlineLetters
  rw [compile_isOk_iff h, compile_eq_error_iff h, compile_eq_error_iff h, hplain, patternText_eq]
  -- Without letters in front, the text that is compiled is the source itself.
  by_cases hnone : inlineLetters flags.toList = []
  · have hcase : 'i' ∉ flags.toList := by
      rw [← mem_inlineLetters (by decide), hnone]
      exact List.not_mem_nil
    simp [hnone, hcase]
  rw [if_neg hnone]
  -- Limits at the front are refused behind the group; other sources are read as they are, so that
  -- their patterns are similar, and only the room that they take may differ.
  by_cases hlimits : beginsWithLimits source.toList = true
  · have hrefused := ofText_flagged_of_limits hletters hnone hlimits
    simp [hnone, hlimits, hrefused, Except.isOk, Except.toBool]
  · obtain ⟨hharder, hback⟩ := ofText_flagged hletters hnone (by simpa using hlimits)
    rw [mem_inlineLetters (by decide)] at hback
    generalize Matcher.ofText source.toList = x at hharder hback ⊢
    generalize Matcher.ofText (flagged (inlineLetters flags.toList) source.toList) = y
      at hharder hback ⊢
    cases hharder with
    | ok m m' => simp [hlimits, Except.isOk, Except.toBool]
    | tooLarge m =>
      have hcase : 'i' ∈ flags.toList := by
        by_contra hcase
        nomatch hback hcase
      simp [hlimits, hcase, Except.isOk, Except.toBool]
    | error e e' => simp [hlimits, Except.isOk, Except.toBool]

/-- A comment, a brace that begins no limits and an alternative behind it compile under three flags,
and so they do alone; limits do not compile under one of them. -/
theorem compile_under_flags_brace :
    areFlags "gims".toList = true ∧ (compile "(?#c)\x7ba|b" "gims").isOk = true ∧
      (compile "(?#c)\x7ba|b" "").isOk = true ∧
      compile "(?#c)\x7b1,\x7d" "gims" =
        .error (.badPattern "(?#c)\x7b1,\x7d" "gims" .notRepeatable) := by
  have hflags : areFlags "gims".toList = true := by decide
  have hok : (compile "(?#c)\x7ba|b" "gims").isOk = true := by decide +kernel
  exact ⟨hflags, hok, ((compile_under_flags hflags).1.1 hok).1,
    (compile_under_flags hflags).2 (by decide) (by decide)⟩

/-- Limits of a repetition compile alone, but not where case is ignored. -/
theorem compile_limits_under_flag :
    areFlags "i".toList = true ∧ (compile "\x7b2\x7d" "").isOk = true ∧
      compile "\x7b2\x7d" "i" = .error (.badPattern "\x7b2\x7d" "i" .notRepeatable) := by
  have hflags : areFlags "i".toList = true := by decide
  have hrefused : Matcher.ofText (flagged ['i'] "\x7b2\x7d".toList) = .error .notRepeatable :=
    ofText_flagged_of_limits (by simp [isInline]) (by decide) (by decide)
  exact ⟨hflags, by decide +kernel, (compile_eq_error_iff hflags).2 hrefused⟩

end ComponentQuery.Regex
