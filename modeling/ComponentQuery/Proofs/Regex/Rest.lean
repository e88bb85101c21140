import ComponentQuery.Regex.PatternReading
import Mathlib.Data.List.Infix

/-!
# What readers of patterns leave

Every reader of a piece of a pattern leaves an end of the text that it was given.  Here this is
shown for the readers that know nothing of flags and groups: those of numbers, names, limits,
escapes and bracket expressions.
-/

namespace ComponentQuery.Regex

/-- If a reader gives a result, it leaves an end of the text. -/
def LeavesEnd {α : Type} (cs : List Char) (x : Except PatternError (α × List Char)) : Prop :=
  ∀ a rest, x = .ok (a, rest) → rest <:+ cs

namespace LeavesEnd

variable {α β : Type} {cs cs' rest : List Char} {x : Except PatternError (α × List Char)}

lemma ok {a : α} (h : rest <:+ cs) : LeavesEnd cs (.ok (a, rest)) := by
  rintro _ _ ⟨⟩
  exact h

lemma error (e : PatternError) : LeavesEnd cs (.error e : Except PatternError (α × List Char)) := by
  rintro _ _ ⟨⟩

lemma mono (h : LeavesEnd cs' x) (hs : cs' <:+ cs) : LeavesEnd cs x :=
  fun a rest hx => (h a rest hx).trans hs

/-- What is read behind something else leaves an end of the whole text. -/
lemma bind {f : α × List Char → Except PatternError (β × List Char)} (h : LeavesEnd cs x)
    (hf : ∀ a rest, rest <:+ cs → LeavesEnd cs (f (a, rest))) : LeavesEnd cs (x >>= f) := by
  cases x with
  | error e => exact .error e
  | ok pair => exact hf pair.1 pair.2 (h pair.1 pair.2 rfl)

/-- What is done with a result, without its rest being touched, leaves the same. -/
lemma map (h : LeavesEnd cs x) (f : α → β) :
    LeavesEnd cs (do let (a, rest) ← x; return (f a, rest)) :=
  h.bind fun _ _ hrest => .ok hrest

/-- What is found out on the side leaves the same. -/
lemma bind_fst {y : Except PatternError β} {f : β → α} (h : rest <:+ cs) :
    LeavesEnd cs (do return (f (← y), rest)) := by
  cases y with
  | error e => exact .error e
  | ok b => exact .ok h

end LeavesEnd

variable {f : Flags} {cs rest : List Char}

lemma suffix_cons_of_suffix (c : Char) (h : rest <:+ cs) : rest <:+ c :: cs :=
  h.trans (List.suffix_cons c cs)

lemma suffix_of_dropWhile_eq_cons {p : Char → Bool} {c : Char} (h : cs.dropWhile p = c :: rest) :
    rest <:+ cs :=
  (h ▸ List.suffix_cons c rest).trans (List.dropWhile_suffix p)

/-! ## Blanks, numbers and names -/

lemma passOver_isSuffix {spaces : Bool} {mode : Passing} (h : passOver spaces mode cs = .ok rest) :
    rest <:+ cs := by
  fun_induction passOver spaces mode cs with
  | case1 => simp_all
  | case2 _ ih =>
    exact (ih h).trans ⟨['(', '?', '#'], rfl⟩
  | case3 c cs _ _ ih => exact suffix_cons_of_suffix c (ih h)
  | case4 c cs _ _ _ ih => exact suffix_cons_of_suffix c (ih h)
  | case5 c cs =>
    obtain rfl := Except.ok.inj h
    exact List.suffix_rfl
  | case6 => simp_all
  | case7 c cs ih => exact suffix_cons_of_suffix c (ih h)
  | case8 => simp at h
  | case9 => simp at h
  | case10 d cs ih => exact (ih h).trans ⟨['\\', d], rfl⟩
  | case11 c cs _ _ ih => exact suffix_cons_of_suffix c (ih h)

lemma skip_isSuffix (h : f.skip cs = .ok rest) : rest <:+ cs := passOver_isSuffix h

lemma number?_isSuffix {n : Nat} (h : number? cs = some (n, rest)) : rest <:+ cs := by
  revert h
  fun_cases number? cs with
  | case1 => simp
  | case2 =>
    intro h
    obtain ⟨-, rfl⟩ := Prod.mk.inj (Option.some.inj h)
    exact List.dropWhile_suffix _

lemma groupName?_isSuffix {closing : Char} {name : List Char}
    (h : groupName? closing cs = some (name, rest)) : rest <:+ cs := by
  revert h
  fun_cases groupName? closing cs with
  | case1 _ c after hdrop =>
    intro h
    obtain ⟨-, rfl⟩ := Prod.mk.inj (Option.some.inj h)
    exact suffix_of_dropWhile_eq_cons hdrop
  | case2 | case3 => simp

/-! ## Quantifiers -/

lemma skip_toOption_isSuffix (h : (f.skip cs).toOption = some rest) : rest <:+ cs := by
  cases hskip : f.skip cs with
  | error e => simp [hskip, Except.toOption] at h
  | ok rest' =>
    obtain rfl : rest' = rest := by simpa [hskip, Except.toOption] using h
    exact skip_isSuffix hskip

/-- Limits behind the lower one. -/
def upperLimit? (f : Flags) (least : Nat) (cs : List Char) : Option (Limits × List Char) := do
  match ← (f.skip cs).toOption with
  | '\x7d' :: rest => return ((least, some least), rest)
  | ',' :: rest =>
    let rest ← (f.skip rest).toOption
    let (most, rest) :=
      match number? rest with
      | some (n, rest) => (some n, rest)
      | none => (none, rest)
    match ← (f.skip rest).toOption with
    | '\x7d' :: rest => return ((least, most), rest)
    | _ => none
  | _ => none

lemma limits?_eq (f : Flags) (cs : List Char) :
    limits? f cs = (f.skip cs).toOption.bind fun cs =>
      match cs with
      | ',' :: _ => upperLimit? f 0 cs
      | _ => (number? cs).bind fun (least, cs) => upperLimit? f least cs :=
  rfl

lemma upperLimit?_isSuffix {least : Nat} {l : Limits}
    (h : upperLimit? f least cs = some (l, rest)) : rest <:+ cs := by
  obtain ⟨cs₁, h₁, h⟩ := Option.bind_eq_some_iff.1 h
  have hs₁ := skip_toOption_isSuffix h₁
  split at h
  case h_1 =>
    obtain ⟨-, rfl⟩ := Prod.mk.inj (Option.some.inj h)
    exact (List.suffix_cons _ _).trans hs₁
  case h_2 rest₁ =>
    -- behind a comma there may be a number, and blanks before it and after
    obtain ⟨cs₂, h₂, h⟩ := Option.bind_eq_some_iff.1 h
    obtain ⟨cs₃, h₃, h⟩ := Option.bind_eq_some_iff.1 h
    have hs₂ := (skip_toOption_isSuffix h₂).trans ((List.suffix_cons _ _).trans hs₁)
    have hs₃ : cs₃ <:+ cs₂ := by
      refine (skip_toOption_isSuffix h₃).trans ?_
      cases hn : number? cs₂ with
      | none => exact List.suffix_rfl
      | some read => exact number?_isSuffix hn
    split at h
    · obtain ⟨-, rfl⟩ := Prod.mk.inj (Option.some.inj h)
      exact (List.suffix_cons _ _).trans (hs₃.trans hs₂)
    · simp at h
  case h_3 => simp at h

lemma limits?_isSuffix {l : Limits} (h : limits? f cs = some (l, rest)) : rest <:+ cs := by
  rw [limits?_eq] at h
  obtain ⟨cs₁, h₁, h⟩ := Option.bind_eq_some_iff.1 h
  refine List.IsSuffix.trans ?_ (skip_toOption_isSuffix h₁)
  split at h
  · exact upperLimit?_isSuffix h
  · obtain ⟨⟨least, cs₂⟩, h₂, h⟩ := Option.bind_eq_some_iff.1 h
    exact (upperLimit?_isSuffix h).trans (number?_isSuffix h₂)

lemma quantifier?_isSuffix {l : Limits} (h : quantifier? f cs = some (l, rest)) : rest <:+ cs := by
  revert h
  fun_cases quantifier? f cs with
  | case1 after | case2 after | case3 after =>
    rintro ⟨⟩
    exact List.suffix_cons _ _
  | case4 after => exact fun h => suffix_cons_of_suffix _ (limits?_isSuffix h)
  | case5 => simp

/-! ## Escapes and bracket expressions -/

lemma leavesEnd_codePoint (digits : Nat) (cs : List Char) : LeavesEnd cs (codePoint digits cs) := by
  fun_cases codePoint digits cs with
  | case1 => exact .bind_fst (List.drop_suffix _ _)
  | case3 _ braced _ after hafter =>
    exact .bind_fst (suffix_cons_of_suffix _ (suffix_of_dropWhile_eq_cons hafter))
  | case2 | case4 | case5 => exact .error _

lemma leavesEnd_propertyEscape (complemented : Bool) (cs : List Char) :
    LeavesEnd cs (propertyEscape complemented cs) := by
  fun_cases propertyEscape complemented cs with
  | case1 => exact .error _
  | case2 braced c after hafter =>
    exact .bind_fst (suffix_cons_of_suffix _ (suffix_of_dropWhile_eq_cons hafter))
  | case3 => exact .error _
  | case4 => exact .bind_fst (List.suffix_cons _ _)

lemma leavesEnd_sharedEscape (cs : List Char) : LeavesEnd cs (sharedEscape cs) := by
  fun_cases sharedEscape cs with
  | case10 rest | case11 rest | case12 rest =>
    exact ((leavesEnd_codePoint _ rest).map fun c => Escape.char c true).mono (List.suffix_cons _ _)
  | case13 rest | case14 rest =>
    exact ((leavesEnd_propertyEscape _ rest).map Escape.set).mono (List.suffix_cons _ _)
  | case1 | case17 => exact .error _
  | _ => exact .ok (List.suffix_cons _ _)

lemma leavesEnd_classTokens (fuel nested : Nat) (cs : List Char) :
    LeavesEnd cs (classTokens fuel nested cs) := by
  fun_induction classTokens fuel nested cs with
  | case1 | case2 | case3 | case5 => exact .error _
  | case4 fuel nested _ c rest _ ih =>
    -- an escape is read from the text behind the backslash, and the rest from what it leaves
    refine .mono ?_ (List.suffix_cons '\\' (c :: rest))
    exact (leavesEnd_sharedEscape _).bind fun escape after hafter =>
      ((ih after).mono hafter).map (escape.tokens ++ ·)
  | case6 fuel nested c cs => exact .ok (List.suffix_cons c cs)
  | case7 fuel nested c cs _ _ _ ih =>
    exact (ih.map (ClassToken.plain c :: ·)).mono (List.suffix_cons c cs)

lemma leavesEnd_wholeClass (cs : List Char) : LeavesEnd cs (wholeClass cs) := by
  fun_cases wholeClass cs with
  | case1 start rest hstart =>
    have hrest : rest <:+ cs := by
      split at hstart <;> obtain ⟨-, rfl⟩ := Prod.mk.inj hstart
      · exact ⟨['^', ']'], rfl⟩
      · exact List.suffix_cons _ _
      · exact List.suffix_cons _ _
      · exact List.suffix_rfl
    exact ((leavesEnd_classTokens _ 1 _).mono hrest).map _

end ComponentQuery.Regex
