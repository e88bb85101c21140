import ComponentQuery.Proofs.Regex.Rest
import ComponentQuery.Proofs.Regex.Similarity

/-!
# One pattern under different flags

The reader of patterns carries flags along.  Those that ignore case and that concern lines show in
what it makes of single characters, dots and anchors only.  Two runs over the same text under flags
that differ in those therefore fail alike or give similar patterns, leave the same end of the text
and know the same groups then.

`Agree` is that relation between results, and `ReadersAgree` says it of all the readers that call
each other, for every two amounts of fuel that are enough.  `readersAgree` is proved by one
induction on the fuel, with one lemma for each reader.  Since the amounts may differ, it
also says that what is read does not depend on the fuel.
-/

namespace ComponentQuery.Regex

open Pattern

/-! ## Flags and contexts -/

/-- Flags that differ only in what `Pattern.Similar` does not look at, where the second ignore case
if the first do. -/
structure Flags.Below (f g : Flags) : Prop where
  ignoreCase : f.ignoreCase = true → g.ignoreCase = true
  swapGreed : g.swapGreed = f.swapGreed
  ignoreSpace : g.ignoreSpace = f.ignoreSpace

/-- The same groups under other flags. -/
def Context.withFlags (ctx : Context) (g : Flags) : Context := { ctx with flags := g }

namespace Context

variable (ctx : Context) (g : Flags)

@[simp] lemma withFlags_flags : (ctx.withFlags g).flags = g := rfl

@[simp] lemma withFlags_opened : (ctx.withFlags g).opened = ctx.opened := rfl

@[simp] lemma withFlags_names : (ctx.withFlags g).names = ctx.names := rfl

@[simp] lemma withFlags_byNumber : (ctx.withFlags g).byNumber = ctx.byNumber := rfl

end Context

namespace Flags.Below

variable {f g : Flags}

lemma refl (f : Flags) : f.Below f := ⟨id, rfl, rfl⟩

lemma skip_eq (h : f.Below g) (cs : List Char) : g.skip cs = f.skip cs := by
  simp only [Flags.skip, h.ignoreSpace]

lemma quantifier?_eq (h : f.Below g) (cs : List Char) : quantifier? g cs = quantifier? f cs := by
  unfold quantifier?
  simp only [limits?, h.skip_eq]

/-- A letter sets a flag or clears it in both, or it is no flag. -/
lemma set? (h : f.Below g) (on : Bool) (c : Char) :
    (f.set? on c = none ∧ g.set? on c = none) ∨
      ∃ f' g', f.set? on c = some f' ∧ g.set? on c = some g' ∧ f'.Below g' := by
  obtain ⟨hcase, hgreed, hspace⟩ := h
  unfold Flags.set?
  split
  · exact .inr ⟨_, _, rfl, rfl, fun h => h, hgreed, hspace⟩
  · exact .inr ⟨_, _, rfl, rfl, hcase, hgreed, hspace⟩
  · exact .inr ⟨_, _, rfl, rfl, hcase, hgreed, hspace⟩
  · exact .inr ⟨_, _, rfl, rfl, hcase, rfl, hspace⟩
  · exact .inr ⟨_, _, rfl, rfl, hcase, hgreed, rfl⟩
  · cases on with
    | true => exact .inr ⟨_, _, rfl, rfl, hcase, hgreed, hspace⟩
    | false => exact .inl ⟨rfl, rfl⟩
  · exact .inl ⟨rfl, rfl⟩

end Flags.Below

/-! ## Agreement -/

/-- Two readers fail alike, or they give like results in contexts that differ in flags only, and
leave the same end of the text. -/
inductive Agree {α : Type} (r : α → α → Prop) (cs : List Char) :
    Except PatternError (Step α) → Except PatternError (Step α) → Prop where
  | error (e : PatternError) : Agree r cs (.error e) (.error e)
  | ok {a b : α} {ctx : Context} {g : Flags} {rest : List Char} (hr : r a b)
      (hg : ctx.flags.Below g) (hs : rest <:+ cs) :
      Agree r cs (.ok (a, ctx, rest)) (.ok (b, ctx.withFlags g, rest))

namespace Agree

variable {α β γ : Type} {r : α → α → Prop} {s : β → β → Prop} {cs cs' : List Char}
  {x y : Except PatternError (Step α)}

lemma mono (h : Agree r cs' x y) (hs : cs' <:+ cs) : Agree r cs x y := by
  cases h with
  | error e => exact .error e
  | ok hr hg hs' => exact .ok hr hg (hs'.trans hs)

/-- Readers that agree can be followed by readers that agree. -/
lemma bind {f g : Step α → Except PatternError (Step β)} (h : Agree r cs x y)
    (hfg : ∀ {a b ctx flags rest}, r a b → ctx.flags.Below flags → rest <:+ cs →
      Agree s cs (f (a, ctx, rest)) (g (b, ctx.withFlags flags, rest))) :
    Agree s cs (x >>= f) (y >>= g) := by
  cases h with
  | error e => exact .error e
  | ok hr hg hs => exact hfg hr hg hs

/-- What does not depend on flags can be found out first. -/
lemma bind_same {z : Except PatternError γ} {f g : γ → Except PatternError (Step β)}
    (hfg : ∀ c, z = .ok c → Agree s cs (f c) (g c)) : Agree s cs (z >>= f) (z >>= g) := by
  cases z with
  | error e => exact .error e
  | ok c => exact hfg c rfl

lemma of_ok {a b : α} {ctx ctx' : Context} {rest rest' : List Char}
    (h : Agree r cs (.ok (a, ctx, rest)) (.ok (b, ctx', rest'))) : r a b ∧ rest <:+ cs := by
  cases h with
  | ok hr hg hs => exact ⟨hr, hs⟩

end Agree

variable {allowed : Prop} {p q : Pattern} {ps qs : List Pattern} {ctx : Context} {g : Flags}
  {cs : List Char}

/-! ## Quantifiers -/

lemma Pattern.Similar.isRepeatable_eq (h : Similar allowed p q) :
    p.isRepeatable = q.isRepeatable := by
  cases h <;> rfl

/-- The end of a quantifier: a plus makes the repetition atomic. -/
lemma agree_marked (hp : Similar allowed p q) (hg : ctx.flags.Below g) (least : Nat)
    (most : Option Nat) (greedy : Bool → Bool) (marked : Bool × List Char) (hs : marked.2 <:+ cs) :
    Agree (Similar allowed) cs
      (match marked.2 with
        | '+' :: rest => .ok (.atomic (.repetition p least most (greedy marked.1)), ctx, rest)
        | _ => .ok (.repetition p least most (greedy marked.1), ctx, marked.2))
      (match marked.2 with
        | '+' :: rest =>
          .ok (.atomic (.repetition q least most (greedy marked.1)), ctx.withFlags g, rest)
        | _ => .ok (.repetition q least most (greedy marked.1), ctx.withFlags g, marked.2)) := by
  have hrepetition := Similar.repetition least most (greedy marked.1) hp
  split
  case h_1 hplus =>
    rw [hplus] at hs
    exact .ok (.atomic hrepetition) hg ((List.suffix_cons _ _).trans hs)
  case h_2 => exact .ok hrepetition hg hs

lemma agree_quantified (hp : Similar allowed p q) (hg : ctx.flags.Below g) :
    Agree (Similar allowed) cs (quantified p ctx cs) (quantified q (ctx.withFlags g) cs) := by
  unfold quantified
  simp only [Context.withFlags, hg.skip_eq, hg.quantifier?_eq, hp.isRepeatable_eq, hg.swapGreed]
  refine .bind_same fun cs₁ h₁ => ?_
  have hs₁ := skip_isSuffix h₁
  cases hquantifier : quantifier? ctx.flags cs₁ with
  | none => exact .ok hp hg hs₁
  | some read =>
    obtain ⟨⟨least, most⟩, cs₂⟩ := read
    have hs₂ := (quantifier?_isSuffix hquantifier).trans hs₁
    simp only
    split
    · exact .error _
    · refine .bind_same fun cs₃ h₃ => ?_
      have hs₃ := (skip_isSuffix h₃).trans hs₂
      refine agree_marked hp hg least most (· == ctx.flags.swapGreed) _ ?_
      split
      · exact (List.suffix_cons _ _).trans hs₃
      · exact hs₃

/-! ## References and escapes -/

lemma agree_numberedReference (hg : ctx.flags.Below g) :
    Agree Eq cs (numberedReference ctx cs) (numberedReference (ctx.withFlags g) cs) := by
  unfold numberedReference
  split
  · exact .error _
  · exact .ok rfl hg (number?_isSuffix ‹_›)

lemma agree_namedReference {closing : Char} {relative : Bool} (hg : ctx.flags.Below g) :
    Agree Eq cs (namedReference closing relative ctx cs)
      (namedReference closing relative (ctx.withFlags g) cs) := by
  have hgroup : ∀ name, groupOf? (ctx.withFlags g) name = groupOf? ctx name := fun _ => rfl
  have hbefore : ∀ places, groupBefore? (ctx.withFlags g) places = groupBefore? ctx places :=
    fun _ => rfl
  unfold namedReference
  simp only [hgroup, hbefore]
  cases hname : groupName? closing cs with
  | some read =>
    have hs := groupName?_isSuffix hname
    simp only
    split
    · exact .ok rfl hg hs
    · exact .error _
  | none =>
    simp only
    split
    case h_2 => exact .error _
    case h_1 digits =>
      split
      case h_2 => exact .error _
      case h_1 places c rest hdigits =>
        -- a number of places is read from behind its hyphen, and the closing character is left out
        have hs := suffix_cons_of_suffix '-'
          ((List.suffix_cons c rest).trans (number?_isSuffix hdigits))
        split
        · split
          · exact .ok rfl hg hs
          · exact .error _
        · exact .error _

lemma agree_delimitedReference (hg : ctx.flags.Below g) :
    Agree Eq cs (delimitedReference ctx cs) (delimitedReference (ctx.withFlags g) cs) := by
  unfold delimitedReference
  split
  · exact (agree_namedReference hg).mono (List.suffix_cons _ _)
  · exact (agree_namedReference hg).mono (List.suffix_cons _ _)
  · exact .error _

/-- A group that is referred to is checked alike, and what is made of it is alike. -/
lemma agree_checkedGroup {x y : Except PatternError (Step Nat)} (h : Agree Eq cs x y)
    {r : Nat → Pattern} (hr : ∀ k, Similar allowed (r k) (r k)) :
    Agree (Similar allowed) cs
      (x >>= fun step => do let (k, ctx, rest) ← checkedGroup step; return (r k, ctx, rest))
      (y >>= fun step => do let (k, ctx, rest) ← checkedGroup step; return (r k, ctx, rest)) := by
  refine h.bind ?_
  rintro k _ ctx g rest rfl hg hs
  by_cases hk : 0 < k ∧ k ≤ ctx.opened
  · have hk' : 0 < k ∧ k ≤ (ctx.withFlags g).opened := hk
    simp only [checkedGroup, if_pos hk, if_pos hk']
    exact .ok (hr k) hg hs
  · have hk' : ¬ (0 < k ∧ k ≤ (ctx.withFlags g).opened) := hk
    simp only [checkedGroup, if_neg hk, if_neg hk']
    exact .error _

lemma agree_outerEscape (hg : ctx.flags.Below g)
    (hallowed : ['\\', 'K'] <:+: '\\' :: cs → allowed) :
    Agree (Similar allowed) cs (outerEscape ctx cs) (outerEscape (ctx.withFlags g) cs) := by
  have hsuffix : ∀ {c : Char} {rest : List Char}, rest <:+ c :: rest := List.suffix_cons _ _
  unfold outerEscape
  simp only
  split
  case h_1 => exact (agree_checkedGroup (agree_delimitedReference hg) .reference).mono hsuffix
  case h_4 => exact .error _
  case h_5 => exact .error _
  case h_10 rest => exact .ok (.matchStart (hallowed ⟨[], rest, rfl⟩)) hg hsuffix
  case h_11 => exact .ok .searchStart hg hsuffix
  case h_12 =>
    split
    · exact agree_checkedGroup (agree_numberedReference hg) .reference
    · refine .bind_same fun pair hpair => ?_
      refine .ok (.char ?_) hg (leavesEnd_sharedEscape cs _ _ hpair)
      split
      · refine .literal _ fun h => ?_
        obtain ⟨hfolds, hcase⟩ := Bool.and_eq_true_iff.1 h
        exact Bool.and_eq_true_iff.2 ⟨hfolds, hg.ignoreCase hcase⟩
      · exact .oneOf _ hg.ignoreCase
      · exact .oneOf _ id
  all_goals exact .ok (.assertion rfl) hg hsuffix

/-! ## Groups -/

lemma closeGroup_eq (hg : ctx.flags.Below g) (cs : List Char) :
    closeGroup (ctx.withFlags g) cs = closeGroup ctx cs := by
  simp only [closeGroup, Context.withFlags, hg.skip_eq]

lemma closeGroup_isSuffix {rest : List Char} (h : closeGroup ctx cs = .ok rest) : rest <:+ cs := by
  unfold closeGroup at h
  cases hskip : ctx.flags.skip cs with
  | error e => simp [hskip, bind, Except.bind] at h
  | ok cs₁ =>
    simp only [hskip, bind, Except.bind] at h
    split at h
    · obtain rfl := Except.ok.inj h
      exact (List.suffix_cons _ _).trans (skip_isSuffix hskip)
    · simp at h

/-- Flag letters set like flags to like flags, or fail for both. -/
inductive AgreeFlags (cs : List Char) : Except PatternError (Flags × Bool × List Char) →
    Except PatternError (Flags × Bool × List Char) → Prop where
  | error (e : PatternError) : AgreeFlags cs (.error e) (.error e)
  | ok {f g : Flags} (h : f.Below g) (bounded : Bool) {rest : List Char} (hs : rest <:+ cs) :
      AgreeFlags cs (.ok (f, bounded, rest)) (.ok (g, bounded, rest))

lemma AgreeFlags.mono {cs' : List Char} {x y : Except PatternError (Flags × Bool × List Char)}
    (h : AgreeFlags cs' x y) (hs : cs' <:+ cs) : AgreeFlags cs x y := by
  cases h with
  | error e => exact .error e
  | ok h bounded hs' => exact .ok h bounded (hs'.trans hs)

lemma agree_flagLetters (fuel : Nat) {f g : Flags} (h : f.Below g) (on first hyphen : Bool)
    (cs : List Char) :
    AgreeFlags cs (flagLetters fuel f on first hyphen cs)
      (flagLetters fuel g on first hyphen cs) := by
  induction fuel generalizing f g on first hyphen cs with
  | zero => exact .error _
  | succ fuel ih =>
    unfold flagLetters
    rw [h.skip_eq]
    cases hskip : f.skip cs with
    | error e => exact .error e
    | ok rest =>
      have hs := skip_isSuffix hskip
      simp only [bind, Except.bind]
      split
      case h_1 => exact .error _
      case h_2 =>
        split
        · exact (ih h _ _ _ _).mono ((List.suffix_cons _ _).trans hs)
        · exact .error _
      case h_3 =>
        split
        · exact .error _
        · exact .ok h false ((List.suffix_cons _ _).trans hs)
      case h_4 =>
        split
        · exact .error _
        · exact .ok h true ((List.suffix_cons _ _).trans hs)
      case h_5 c after _ _ _ =>
        rcases h.set? on c with ⟨hf, hg⟩ | ⟨f', g', hf, hg, h'⟩
        · rw [hf, hg]
          exact .error _
        · rw [hf, hg]
          exact (ih h' _ _ _ _).mono ((List.suffix_cons _ _).trans hs)

/-! ## Patterns made of patterns -/

namespace Pattern

lemma SimilarAll.ofParts (h : SimilarAll allowed ps qs) :
    Similar allowed (ofParts ps) (ofParts qs) := by
  cases h with
  | nil => exact .empty
  | cons hp hps =>
    cases hps with
    | nil => exact hp
    | cons hq hqs => exact .sequence (.cons hp (.cons hq hqs))

lemma Similar.isReference_eq (h : Similar allowed p q) : p.isReference = q.isReference := by
  cases h <;> rfl

/-- What is asked of a group that a condition names: to have matched. -/
def asCondition : Pattern → Pattern
  | .reference k => .matched k
  | p => p

/-- The branches for the case that a condition holds and for the case that it does not. -/
def twoBranches : Pattern → Pattern × Pattern
  | .choice (yes :: [no]) => (yes, no)
  | .choice (yes :: rest) => (yes, .choice rest)
  | p => (p, .empty)

/-- A condition with its branches, which stands alone if both are empty. -/
def withBranches (condition yes no : Pattern) : Pattern :=
  match yes, no with
  | .empty, .empty => condition
  | _, _ => .conditional condition yes no

lemma ofBranches_eq (condition branches : Pattern) :
    ofBranches condition branches =
      withBranches condition.asCondition branches.twoBranches.1 branches.twoBranches.2 :=
  rfl

lemma Similar.asCondition (h : Similar allowed p q) :
    Similar allowed p.asCondition q.asCondition := by
  have hsame := h
  cases h with
  | reference k => exact .matched k
  | _ => exact hsame

lemma Similar.twoBranches (h : Similar allowed p q) :
    Similar allowed p.twoBranches.1 q.twoBranches.1 ∧
      Similar allowed p.twoBranches.2 q.twoBranches.2 := by
  have hsame := h
  cases h with
  | choice hs =>
    cases hs with
    | nil => exact ⟨hsame, .empty⟩
    | cons hyes hs =>
      cases hs with
      | nil => exact ⟨hyes, .choice .nil⟩
      | cons hno hs =>
        cases hs with
        | nil => exact ⟨hyes, hno⟩
        | cons h hs => exact ⟨hyes, .choice (.cons hno (.cons h hs))⟩
  | _ => exact ⟨hsame, .empty⟩

lemma Similar.withBranches {c d yes yes' no no' : Pattern} (hc : Similar allowed c d)
    (hyes : Similar allowed yes yes') (hno : Similar allowed no no') :
    Similar allowed (withBranches c yes no) (withBranches d yes' no') := by
  have hboth := Similar.conditional hc hyes hno
  cases hyes with
  | empty =>
    cases hno with
    | empty => exact hc
    | _ => exact hboth
  | _ => exact hboth

lemma Similar.ofBranches {c d : Pattern} (hc : Similar allowed c d) (h : Similar allowed p q) :
    Similar allowed (ofBranches c p) (ofBranches d q) := by
  rw [ofBranches_eq, ofBranches_eq]
  exact hc.asCondition.withBranches h.twoBranches.1 h.twoBranches.2

end Pattern

/-! ## Readers that call each other -/

/-- A reader run twice, with `m` and `n` left to spend and under flags that differ, agrees with
itself if both are enough: a call one step down costs one, and twelve are enough for each
character. -/
def AgreesOn {α : Type} (allowed : Prop) (r : α → α → Prop) (least m n : Nat)
    (read : Nat → Nat → Context → List Char → Except PatternError (Step α)) : Prop :=
  ∀ (depth : Nat) {ctx : Context} {g : Flags} {cs : List Char}, ctx.flags.Below g →
    12 * cs.length + least ≤ m → 12 * cs.length + least ≤ n →
    (['\\', 'K'] <:+: cs → allowed) →
    Agree r cs (read m depth ctx cs) (read n depth (ctx.withFlags g) cs)

/-- All readers of pieces of patterns agree with themselves. -/
structure ReadersAgree (allowed : Prop) (m n : Nat) : Prop where
  alternatives : AgreesOn allowed (Similar allowed) 9 m n Regex.alternatives
  otherAlternatives : AgreesOn allowed (SimilarAll allowed) 8 m n Regex.otherAlternatives
  branch : AgreesOn allowed (Similar allowed) 8 m n Regex.branch
  pieces : AgreesOn allowed (SimilarAll allowed) 7 m n Regex.pieces
  piece : AgreesOn allowed (Similar allowed) 6 m n Regex.piece
  atom : AgreesOn allowed (Similar allowed) 5 m n Regex.atom
  bracketed : AgreesOn allowed (Similar allowed) 12 m n Regex.bracketed
  wrapped : ∀ wrap : Pattern → Pattern,
    (∀ {p q}, Similar allowed p q → Similar allowed (wrap p) (wrap q)) →
    AgreesOn allowed (Similar allowed) 10 m n fun fuel depth => Regex.wrapped fuel depth wrap
  named : AgreesOn allowed (Similar allowed) 11 m n Regex.named
  conditional : AgreesOn allowed (Similar allowed) 10 m n Regex.conditional

namespace ReadersAgree

variable {m n : Nat}

/-- The escape that moves the start of a match stands in a text if it stands in an end of it. -/
lemma allowed_of_suffix {cs cs' : List Char} (h : ['\\', 'K'] <:+: cs → allowed) (hs : cs' <:+ cs) :
    ['\\', 'K'] <:+: cs' → allowed :=
  fun hmoves => h (hmoves.trans hs.isInfix)

/-- Reads the alternatives after the first, from where that one ends on. -/
def others (fuel depth : Nat) : Step Pattern → Except PatternError (Step Pattern)
  | (first, ctx, rest) => do
    let (others, ctx, rest) ← Regex.otherAlternatives fuel depth ctx rest
    if others.isEmpty then
      if ctx.byNumber && !ctx.names.isEmpty then .error .mixedReferences
      else return (first, ctx, rest)
    else return (.choice (first :: others), ctx, rest)

lemma agree_others (ih : ReadersAgree allowed m n) {depth : Nat} {p q : Pattern} {ctx : Context}
    {g : Flags} {cs rest : List Char} (hp : Similar allowed p q) (hg : ctx.flags.Below g)
    (hs : rest <:+ cs) (hm : 12 * cs.length + 8 ≤ m) (hn : 12 * cs.length + 8 ≤ n)
    (hallowed : ['\\', 'K'] <:+: cs → allowed) :
    Agree (Similar allowed) cs (others m depth (p, ctx, rest))
      (others n depth (q, ctx.withFlags g, rest)) := by
  have hle := hs.length_le
  have hothers := ih.otherAlternatives depth hg (by omega) (by omega)
    (allowed_of_suffix hallowed hs)
  refine (hothers.mono hs).bind fun {ps qs ctx g rest} hps hg hs => ?_
  cases hps with
  | nil =>
    simp only [List.isEmpty_nil, if_true, Context.withFlags_byNumber, Context.withFlags_names]
    by_cases hmixed : (ctx.byNumber && !ctx.names.isEmpty) = true
    · simp only [hmixed, if_true]
      exact .error _
    · simp only [hmixed]
      exact .ok hp hg hs
  | cons hp' hps => exact .ok (.choice (.cons hp (.cons hp' hps))) hg hs

lemma alternatives_succ (ih : ReadersAgree allowed m n) :
    AgreesOn allowed (Similar allowed) 9 (m + 1) (n + 1) Regex.alternatives := by
  intro depth ctx g cs hg hm hn hallowed
  simp only [Regex.alternatives]
  have hbranch := ih.branch depth hg (by omega) (by omega) hallowed
  exact hbranch.bind fun hp hg hs => ih.agree_others hp hg hs (by omega) (by omega) hallowed

lemma otherAlternatives_succ (ih : ReadersAgree allowed m n) :
    AgreesOn allowed (SimilarAll allowed) 8 (m + 1) (n + 1) Regex.otherAlternatives := by
  intro depth ctx g cs hg hm hn hallowed
  simp only [Regex.otherAlternatives, Context.withFlags_flags, hg.skip_eq]
  refine .bind_same fun cs₁ h₁ => ?_
  have hs₁ := skip_isSuffix h₁
  split
  case h_2 => exact .ok .nil hg hs₁
  case h_1 rest =>
    have hlt := hs₁.length_le
    rw [List.length_cons] at hlt
    have hs₂ := (List.suffix_cons '|' rest).trans hs₁
    have hbranch := ih.branch depth hg (by omega) (by omega)
      (allowed_of_suffix hallowed hs₂)
    refine .mono (hbranch.bind fun {p q ctx g rest'} hp hg hs => ?_) hs₂
    have hle := hs.length_le
    have hothers := ih.otherAlternatives depth hg (by omega) (by omega)
      (allowed_of_suffix hallowed (hs.trans hs₂))
    exact (hothers.mono hs).bind fun hps hg hs => .ok (.cons hp hps) hg hs

lemma branch_succ (ih : ReadersAgree allowed m n) :
    AgreesOn allowed (Similar allowed) 8 (m + 1) (n + 1) Regex.branch := by
  intro depth ctx g cs hg hm hn hallowed
  simp only [Regex.branch]
  have hpieces := ih.pieces depth hg (by omega) (by omega) hallowed
  exact hpieces.bind fun hps hg hs => .ok hps.ofParts hg hs

/-- Reads the parts after the first, from where that one ends on. -/
def following (fuel depth : Nat) : Step Pattern → Except PatternError (Step (List Pattern))
  | (p, next, rest) => do
    let (ps, ctx, rest) ← Regex.pieces fuel depth next rest
    match p with
    | .empty => return (ps, ctx, rest)
    | p => return (p :: ps, ctx, rest)

lemma pieces_eq (fuel depth : Nat) (ctx : Context) (cs : List Char) :
    Regex.pieces (fuel + 1) depth ctx cs =
      if cs.isEmpty then .ok ([], ctx, cs)
      else Regex.piece fuel depth ctx cs >>= fun step =>
        if step.2.2.length = cs.length then .ok ([], ctx, cs) else following fuel depth step := by
  simp only [Regex.pieces]
  rfl

lemma agree_following (ih : ReadersAgree allowed m n) {depth : Nat} {p q : Pattern} {ctx : Context}
    {g : Flags} {cs rest : List Char} (hp : Similar allowed p q) (hg : ctx.flags.Below g)
    (hs : rest <:+ cs) (hm : 12 * rest.length + 7 ≤ m) (hn : 12 * rest.length + 7 ≤ n)
    (hallowed : ['\\', 'K'] <:+: cs → allowed) :
    Agree (SimilarAll allowed) cs (following m depth (p, ctx, rest))
      (following n depth (q, ctx.withFlags g, rest)) := by
  have hpieces := ih.pieces depth hg hm hn (allowed_of_suffix hallowed hs)
  refine (hpieces.mono hs).bind fun {ps qs ctx g rest} hps hg hs => ?_
  have hcons := hp
  cases hp with
  | empty => exact .ok hps hg hs
  | _ => exact .ok (.cons hcons hps) hg hs

lemma pieces_succ (ih : ReadersAgree allowed m n) :
    AgreesOn allowed (SimilarAll allowed) 7 (m + 1) (n + 1) Regex.pieces := by
  intro depth ctx g cs hg hm hn hallowed
  rw [pieces_eq, pieces_eq]
  split
  · exact .ok .nil hg List.suffix_rfl
  · refine (ih.piece depth hg (by omega) (by omega) hallowed).bind
      fun {p q next g' rest} hp hg' hs => ?_
    have hle := hs.length_le
    simp only
    split
    · exact .ok .nil hg List.suffix_rfl
    · exact ih.agree_following hp hg' hs (by omega) (by omega) hallowed

lemma piece_succ (ih : ReadersAgree allowed m n) :
    AgreesOn allowed (Similar allowed) 6 (m + 1) (n + 1) Regex.piece := by
  intro depth ctx g cs hg hm hn hallowed
  simp only [Regex.piece]
  exact (ih.atom depth hg (by omega) (by omega) hallowed).bind fun hp hg hs =>
    (agree_quantified hp hg).mono hs

lemma dot_cases (dotAll : Bool) :
    (if dotAll then CharTest.any else .notNewline) = .any ∨
      (if dotAll then CharTest.any else .notNewline) = .notNewline := by
  cases dotAll <;> simp

lemma ofText_start (multiLine : Bool) :
    (if multiLine then Assertion.startOfLine else .startOfText).ofText = .startOfText := by
  cases multiLine <;> rfl

lemma ofText_end (multiLine : Bool) :
    (if multiLine then Assertion.endOfLine else .endOfText).ofText = .endOfText := by
  cases multiLine <;> rfl

lemma atom_succ (ih : ReadersAgree allowed m n) :
    AgreesOn allowed (Similar allowed) 5 (m + 1) (n + 1) Regex.atom := by
  intro depth ctx g cs hg hm hn hallowed
  simp only [Regex.atom, Context.withFlags_flags, hg.skip_eq]
  refine .bind_same fun cs₁ h₁ => ?_
  have hs₁ := skip_isSuffix h₁
  have hlt := hs₁.length_le
  have hrest : ∀ {c : Char} {rest : List Char}, c :: rest <:+ cs → rest <:+ cs :=
    fun h => (List.suffix_cons _ _).trans h
  split
  case h_1 => exact .ok .empty hg hs₁
  -- a dot, the start of a line and its end: here the flags show, and `Similar` does not look
  case h_2 => exact .ok (.char (.dot (dot_cases _) (dot_cases _))) hg (hrest hs₁)
  case h_3 => exact .ok (.assertion ((ofText_start _).trans (ofText_start _).symm)) hg (hrest hs₁)
  case h_4 => exact .ok (.assertion ((ofText_end _).trans (ofText_end _).symm)) hg (hrest hs₁)
  case h_5 rest =>
    rw [List.length_cons] at hlt
    split
    · exact (ih.bracketed (depth + 1) hg (by omega) (by omega)
        (allowed_of_suffix hallowed (hrest hs₁))).mono (hrest hs₁)
    · exact .error _
  case h_6 => exact (agree_outerEscape hg (allowed_of_suffix hallowed hs₁)).mono (hrest hs₁)
  case h_7 =>
    refine .bind_same fun pair hpair => .bind_same fun s hset => ?_
    have hs₂ := leavesEnd_wholeClass _ _ _ hpair
    exact .ok (.char (.oneOf s hg.ignoreCase)) hg (hs₂.trans (hrest hs₁))
  case h_8 =>
    split
    · exact .ok .empty hg hs₁
    · exact .ok (.char (.literal _ hg.ignoreCase)) hg (hrest hs₁)

lemma wrapped_succ (ih : ReadersAgree allowed m n) (wrap : Pattern → Pattern)
    (hwrap : ∀ {p q}, Similar allowed p q → Similar allowed (wrap p) (wrap q)) :
    AgreesOn allowed (Similar allowed) 10 (m + 1) (n + 1) fun fuel depth =>
      Regex.wrapped fuel depth wrap := by
  intro depth ctx g cs hg hm hn hallowed
  simp only [Regex.wrapped]
  have halternatives := ih.alternatives depth hg (by omega) (by omega) hallowed
  refine halternatives.bind fun {p q ctx g rest} hp hg hs => ?_
  simp only [closeGroup_eq hg]
  exact .bind_same fun rest' hrest => .ok (hwrap hp) hg ((closeGroup_isSuffix hrest).trans hs)

lemma named_succ (ih : ReadersAgree allowed m n) :
    AgreesOn allowed (Similar allowed) 11 (m + 1) (n + 1) Regex.named := by
  intro depth ctx g cs hg hm hn hallowed
  simp only [Regex.named]
  cases hname : groupName? '>' cs with
  | none => exact .error _
  | some read =>
    obtain ⟨name, rest⟩ := read
    have hs := groupName?_isSuffix hname
    have hle := hs.length_le
    have hg' : (ctx.openNamed name).flags.Below g := hg
    exact (ih.wrapped (.group (ctx.opened + 1)) (.group _) depth hg' (by omega) (by omega)
      (allowed_of_suffix hallowed hs)).mono hs

/-- Reads the condition of a conditional: a group, by name or by number, or alternatives. -/
def condition (fuel depth : Nat) (ctx : Context) (c : Char) (cs : List Char) :
    Except PatternError (Step Pattern) :=
  if c = '\'' ∨ c = '<' then do matchedCondition (← delimitedReference ctx (c :: cs))
  else if c.isDigit then do matchedCondition (← numberedReference ctx (c :: cs))
  else Regex.alternatives fuel depth ctx (c :: cs)

/-- Reads the branches of a conditional, from the bracket that closes the condition on. -/
def branches (fuel depth : Nat) : Step Pattern → Except PatternError (Step Pattern)
  | (condition, ctx, rest) => do
    let inside ← closeGroup ctx rest
    let (branches, ctx, rest) ← Regex.alternatives fuel depth ctx inside
    if rest.length = inside.length && !condition.isReference then .error .badCondition
    else
      let rest ← closeGroup ctx rest
      return (.ofBranches condition branches, ctx, rest)

lemma conditional_cons (fuel depth : Nat) (ctx : Context) (c : Char) (cs : List Char) :
    Regex.conditional (fuel + 1) depth ctx (c :: cs) =
      condition fuel depth ctx c cs >>= branches fuel depth := by
  simp only [Regex.conditional, condition]
  split
  · exact (bind_assoc _ _ _).symm
  · split
    · exact (bind_assoc _ _ _).symm
    · rfl

lemma agree_condition (ih : ReadersAgree allowed m n) {depth : Nat} {ctx : Context} {g : Flags}
    {c : Char} {cs : List Char} (hg : ctx.flags.Below g) (hm : 12 * (c :: cs).length + 9 ≤ m)
    (hn : 12 * (c :: cs).length + 9 ≤ n) (hallowed : ['\\', 'K'] <:+: c :: cs → allowed) :
    Agree (Similar allowed) (c :: cs) (condition m depth ctx c cs)
      (condition n depth (ctx.withFlags g) c cs) := by
  unfold condition
  split
  · exact agree_checkedGroup (agree_delimitedReference hg) .matched
  · split
    · exact agree_checkedGroup (agree_numberedReference hg) .matched
    · exact ih.alternatives depth hg hm hn hallowed

lemma agree_branches (ih : ReadersAgree allowed m n) {depth : Nat} {p q : Pattern} {ctx : Context}
    {g : Flags} {cs rest : List Char} (hp : Similar allowed p q) (hg : ctx.flags.Below g)
    (hs : rest <:+ cs) (hm : 12 * cs.length + 9 ≤ m) (hn : 12 * cs.length + 9 ≤ n)
    (hallowed : ['\\', 'K'] <:+: cs → allowed) :
    Agree (Similar allowed) cs (branches m depth (p, ctx, rest))
      (branches n depth (q, ctx.withFlags g, rest)) := by
  simp only [branches, closeGroup_eq hg, hp.isReference_eq]
  refine .bind_same fun inside hinside => ?_
  have hs' := (closeGroup_isSuffix hinside).trans hs
  have hle := hs'.length_le
  have halternatives := ih.alternatives depth hg (by omega) (by omega)
    (allowed_of_suffix hallowed hs')
  refine (halternatives.mono hs').bind fun {p' q' ctx g rest'} hp' hg' hs'' => ?_
  simp only [closeGroup_eq hg']
  split
  · exact .error _
  · exact .bind_same fun last hlast =>
      .ok (hp.ofBranches hp') hg' ((closeGroup_isSuffix hlast).trans hs'')

lemma conditional_succ (ih : ReadersAgree allowed m n) :
    AgreesOn allowed (Similar allowed) 10 (m + 1) (n + 1) Regex.conditional := by
  intro depth ctx g cs hg hm hn hallowed
  cases cs with
  | nil =>
    simp only [Regex.conditional]
    exact .error _
  | cons c cs =>
    rw [conditional_cons, conditional_cons]
    exact (ih.agree_condition hg (by omega) (by omega) hallowed).bind fun hp hg hs =>
      ih.agree_branches hp hg hs (by omega) (by omega) hallowed

/-- Reads what a group for flags bounds, from behind the letters on, or sets the flags for what
follows. -/
def flagGroup (fuel depth : Nat) (ctx : Context) :
    Flags × Bool × List Char → Except PatternError (Step Pattern)
  | (flags, bounded, rest) =>
    if bounded then do
      let (p, after, rest) ← Regex.alternatives fuel depth (ctx.withFlags flags) rest
      match rest with
      | ')' :: rest => return (p, after.withFlags ctx.flags, rest)
      | _ => .error .unclosedGroup
    else return (.empty, ctx.withFlags flags, rest)

lemma agree_flagGroup (ih : ReadersAgree allowed m n) {depth : Nat} {ctx : Context} {g : Flags}
    {cs : List Char} (hg : ctx.flags.Below g) (hm : 12 * cs.length + 9 ≤ m)
    (hn : 12 * cs.length + 9 ≤ n) (hallowed : ['\\', 'K'] <:+: cs → allowed)
    {x y : Except PatternError (Flags × Bool × List Char)} (h : AgreeFlags cs x y) :
    Agree (Similar allowed) cs (x >>= flagGroup m depth ctx)
      (y >>= flagGroup n depth (ctx.withFlags g)) := by
  cases h with
  | error e => exact .error e
  | @ok f' g' h' bounded rest hs =>
    cases bounded with
    | false => exact .ok .empty h' hs
    | true =>
      have hle := hs.length_le
      have h'' : (ctx.withFlags f').flags.Below g' := h'
      have halternatives := ih.alternatives depth h'' (by omega) (by omega)
        (allowed_of_suffix hallowed hs)
      refine (halternatives.mono hs).bind fun {p q after g' rest} hp _ hs => ?_
      simp only
      split
      · exact .ok hp hg ((List.suffix_cons _ _).trans hs)
      · exact .error _

lemma bracketed_succ (ih : ReadersAgree allowed m n) :
    AgreesOn allowed (Similar allowed) 12 (m + 1) (n + 1) Regex.bracketed := by
  intro depth ctx g cs hg hm hn hallowed
  simp only [Regex.bracketed, Context.withFlags_flags, hg.skip_eq]
  refine .bind_same fun cs₁ h₁ => ?_
  have hs₁ := skip_isSuffix h₁
  have hle₁ := hs₁.length_le
  -- whatever follows the first characters is shorter, by which all bounds hold
  have hbound : ∀ {rest}, rest <:+ cs₁ → rest.length ≤ cs.length := fun hs =>
    (hs.trans hs₁).length_le
  have hwrapped : ∀ {wrap ctx' g' rest}, ctx'.flags.Below g' →
      (∀ {p q}, Similar allowed p q → Similar allowed (wrap p) (wrap q)) → rest <:+ cs₁ →
      Agree (Similar allowed) cs (Regex.wrapped m depth wrap ctx' rest)
        (Regex.wrapped n depth wrap (ctx'.withFlags g') rest) := by
    intro wrap ctx' g' rest hg' hwrap hs
    have hle := hbound hs
    exact (ih.wrapped wrap hwrap depth hg' (by omega) (by omega)
      (allowed_of_suffix hallowed (hs.trans hs₁))).mono (hs.trans hs₁)
  have hnamed : ∀ {c d rest}, c :: d :: rest <:+ cs₁ →
      Agree (Similar allowed) cs (Regex.named m depth ctx rest)
        (Regex.named n depth (ctx.withFlags g) rest) := by
    intro c d rest hs
    have hrest : rest <:+ cs := ((List.suffix_append [c, d] rest).trans hs).trans hs₁
    have hle := hbound hs
    simp only [List.length_cons] at hle
    exact (ih.named depth hg (by omega) (by omega) (allowed_of_suffix hallowed hrest)).mono hrest
  split
  case h_1 => exact hwrapped hg (.look _ _) (List.suffix_append ['?', '='] _)
  case h_2 => exact hwrapped hg (.look _ _) (List.suffix_append ['?', '!'] _)
  case h_3 => exact hwrapped hg (.look _ _) (List.suffix_append ['?', '<', '='] _)
  case h_4 => exact hwrapped hg (.look _ _) (List.suffix_append ['?', '<', '!'] _)
  case h_5 => exact hwrapped hg .atomic (List.suffix_append ['?', '>'] _)
  case h_6 => exact hnamed List.suffix_rfl
  case h_7 => exact hnamed (List.suffix_cons '?' _)
  case h_8 =>
    exact (agree_checkedGroup (agree_namedReference hg) .reference).mono
      ((List.suffix_append ['?', 'P', '='] _).trans hs₁)
  case h_9 rest =>
    have hrest : rest <:+ cs := (List.suffix_append ['?', '('] rest).trans hs₁
    have hle := hbound List.suffix_rfl
    simp only [List.length_cons] at hle
    exact (ih.conditional depth hg (by omega) (by omega)
      (allowed_of_suffix hallowed hrest)).mono hrest
  case h_10 rest _ _ _ _ _ _ _ _ _ =>
    -- a question mark with none of these behind it: flags
    have hrest : rest <:+ cs := (List.suffix_cons '?' rest).trans hs₁
    have hle := hbound List.suffix_rfl
    simp only [List.length_cons] at hle
    exact (ih.agree_flagGroup hg (by omega) (by omega) (allowed_of_suffix hallowed hrest)
      (agree_flagLetters _ hg true true false rest)).mono hrest
  case h_11 =>
    have hg' : ctx.openGroup.flags.Below g := hg
    exact hwrapped hg' (.group _) List.suffix_rfl

end ReadersAgree

lemma ReadersAgree.of_eq_zero {m n : Nat} (h : m = 0 ∨ n = 0) : ReadersAgree allowed m n := by
  constructor <;> unfold AgreesOn <;> intros <;> omega

/-- All readers agree with themselves. -/
theorem readersAgree (allowed : Prop) (m n : Nat) : ReadersAgree allowed m n := by
  induction m generalizing n with
  | zero => exact .of_eq_zero (.inl rfl)
  | succ m ih =>
    cases n with
    | zero => exact .of_eq_zero (.inr rfl)
    | succ n =>
      have ih := ih n
      exact ⟨ih.alternatives_succ, ih.otherAlternatives_succ, ih.branch_succ, ih.pieces_succ,
        ih.piece_succ, ih.atom_succ, ih.bracketed_succ, ih.wrapped_succ, ih.named_succ,
        ih.conditional_succ⟩

end ComponentQuery.Regex
