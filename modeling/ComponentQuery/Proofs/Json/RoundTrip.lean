import ComponentQuery.Proofs.Json.Scalars

/-!
# JSON values read back

The text of a value is read as a draft that marks no break, `Json.draft`, and from that draft the
value is read: `value_draft`.  Two things are asked of the value.  It must be one that a program can
have, `Json.Valid`: its integers have 64 bits, its doubles are finite, and the members of its
objects are sorted by name, each name once.  And it must not be nested more deeply than there is
room for.

Both steps go by recursion on the value, with lists of items and of members beside it.  The fuel of
the first step is twice the length of the text, since the reader takes at most two steps for a
character.
-/

namespace ComponentQuery.Json

/-! ## What a text is read as -/

/-- What the text of a number is read as.  Infinities, and what is no number, have the text of
`null`. -/
def Number.draft : Number → Draft
  | .integer n => .number ⟨decide (n < 0), n.natAbs, 0, true⟩
  | .double .nan => .null
  | .double (.infinite _) => .null
  | .double (.finite s q _) =>
    .number (if q = 0 then ⟨s, 0, -1, false⟩ else decimalDraft s (Decimal.shortest .toEven q))

mutual

/-- What the text of a value is read as. -/
def draft : Json → Draft
  | .null => .null
  | .boolean b => .boolean b
  | .number n => n.draft
  | .string s => .string (.ofString s)
  | .array items => .array (itemsDraft items) .closed
  | .object members => .object (membersDraft members) .closed

def itemsDraft : List Json → List Draft
  | [] => []
  | v :: rest => draft v :: itemsDraft rest

def membersDraft : List (String × Json) → List (StringDraft × Draft)
  | [] => []
  | (k, v) :: rest => (.ofString k, draft v) :: membersDraft rest

end

/-! ## The drafts of texts -/

lemma skipSpace_cons {c : Char} (hc : isSpace c = false) (cs : List Char) :
    skipSpace (c :: cs) = c :: cs := by
  simp [skipSpace, hc]

lemma isSpace_of_isDigit {c : Char} (hc : c.isDigit = true) : isSpace c = false := by
  have hne : c ≠ ' ' ∧ c ≠ '\t' ∧ c ≠ '\n' ∧ c ≠ '\r' := by
    refine ⟨?_, ?_, ?_, ?_⟩ <;> rintro rfl <;> simp at hc
  simp [isSpace, hne]

lemma valueDraft_digit (fuel : Nat) {c : Char} (hc : c.isDigit = true) (cs : List Char) :
    valueDraft (fuel + 1) (c :: cs) = numberDraft false (c :: cs) := by
  rw [valueDraft, skipSpace_cons (isSpace_of_isDigit hc)]
  split <;> simp_all

lemma exists_cons_of_numberDraft {negative : Bool} {cs rest : List Char} {n : NumberDraft}
    (h : numberDraft negative cs = (.number n, rest)) :
    ∃ c cs', cs = c :: cs' ∧ c.isDigit = true := by
  cases cs with
  | nil => simp [numberDraft, missingDigit] at h
  | cons c cs =>
    refine ⟨c, cs, rfl, ?_⟩
    by_contra hc
    simp [numberDraft, missingDigit, hc] at h

/-- What is read as a number behind its sign is read as one with it. -/
lemma valueDraft_signText (fuel : Nat) {negative : Bool} {cs rest : List Char} {n : NumberDraft}
    (h : numberDraft negative cs = (.number n, rest)) :
    valueDraft (fuel + 1) (Binary64.signText negative ++ cs) = (.number n, rest) := by
  obtain ⟨c, cs', rfl, hc⟩ := exists_cons_of_numberDraft h
  rw [← h]
  cases negative with
  | false => exact valueDraft_digit fuel hc cs'
  | true => rfl

/-- The text of a number is a word, or a sign and what is read as a number behind it. -/
lemma Number.exists_chars_eq (n : Number) :
    (n.chars = "null".toList ∧ n.draft = .null) ∨
      ∃ negative cs d, n.chars = Binary64.signText negative ++ cs ∧ n.draft = .number d ∧
        ∀ rest, Follows rest → numberDraft negative (cs ++ rest) = (.number d, rest) := by
  match n with
  | .double .nan => exact .inl ⟨rfl, rfl⟩
  | .double (.infinite _) => exact .inl ⟨rfl, rfl⟩
  | .integer n =>
    refine .inr ⟨decide (n < 0), Decimal.digitsText n.natAbs, _, ?_, rfl, fun rest hrest => ?_⟩
    · simp [Number.chars, Binary64.signText]
    · have hread := numberDraft_whole (decide (n < 0)) Decimal.isDigit_of_mem_digitsText
        (Decimal.digitsText_ne_nil n.natAbs) (Decimal.digitsText_ne_zero_cons n.natAbs) hrest
      rwa [Decimal.ofDigits_digitsText] at hread
  | .double (.finite s q hq) =>
    refine .inr ⟨s, _, _, rfl, rfl, fun rest hrest => ?_⟩
    by_cases hzero : q = 0
    · have hread : numberDraft s (['0'] ++ '.' :: (['0'] ++ rest)) = _ :=
        numberDraft_fraction s (by simp) (by simp) (by simp) (by simp) (by simp) hrest
      have hdigits : Decimal.ofDigits ['0', '0'] = 0 := rfl
      simpa [hzero, hdigits] using hread
    · have hdigits := Decimal.digits_shortest_ne_zero .toEven hq hzero
      simp only [if_neg hzero]
      split
      · exact numberDraft_positional s hdigits ‹_› hrest
      · exact numberDraft_scientific s (eq_false_of_ne_true ‹_›) hrest

lemma valueDraft_number (fuel : Nat) (n : Number) {rest : List Char} (hrest : Follows rest) :
    valueDraft (fuel + 1) (n.chars ++ rest) = (n.draft, rest) := by
  rcases n.exists_chars_eq with ⟨hchars, hdraft⟩ | ⟨negative, cs, d, hchars, hdraft, hread⟩
  · rw [hchars, hdraft]
    rfl
  · rw [hchars, hdraft, List.append_assoc]
    exact valueDraft_signText fuel (hread rest hrest)

/-- A value begins with neither a blank nor the bracket that closes a list. -/
lemma exists_cons_chars (v : Json) :
    ∃ c cs, v.chars = c :: cs ∧ isSpace c = false ∧ c ≠ ']' := by
  cases v with
  | null => exact ⟨'n', _, rfl, by decide, by decide⟩
  | boolean b => cases b <;> exact ⟨_, _, rfl, by decide, by decide⟩
  | string s => exact ⟨'"', _, rfl, by decide, by decide⟩
  | array items => cases items <;> exact ⟨'[', _, rfl, by decide, by decide⟩
  | object members => cases members <;> exact ⟨'\x7b', _, rfl, by decide, by decide⟩
  | number n =>
    have hchars : (Json.number n).chars = n.chars := rfl
    rw [hchars]
    rcases n.exists_chars_eq with ⟨hchars, -⟩ | ⟨negative, cs, d, hchars, -, hread⟩
    · exact ⟨'n', _, hchars, by decide, by decide⟩
    · have hdigit := hread [] (by simp [Follows])
      rw [List.append_nil] at hdigit
      obtain ⟨c, cs, rfl, hc⟩ := exists_cons_of_numberDraft hdigit
      cases negative with
      | true => exact ⟨'-', _, hchars, by decide, by decide⟩
      | false =>
        refine ⟨c, cs, hchars, isSpace_of_isDigit hc, ?_⟩
        rintro rfl
        simp at hc

/-! ## Texts of values -/

lemma follows_cons {c : Char} (hc : c ∈ [',', ']', '\x7d']) (rest : List Char) :
    Follows (c :: rest) := by
  intro d hd
  obtain rfl : c = d := by simpa using hd
  exact hc

lemma follows_itemChars (items : List Json) (rest : List Char) :
    Follows (itemChars items ++ ']' :: rest) := by
  cases items with
  | nil => exact follows_cons (by decide) rest
  | cons v items => exact follows_cons (by decide) _

lemma follows_memberChars (members : List (String × Json)) (rest : List Char) :
    Follows (memberChars members ++ '\x7d' :: rest) := by
  cases members with
  | nil => exact follows_cons (by decide) rest
  | cons m members =>
    obtain ⟨k, v⟩ := m
    exact follows_cons (by decide) _

lemma length_chars_pos (v : Json) : 0 < v.chars.length := by
  obtain ⟨c, cs, hcs, -⟩ := exists_cons_chars v
  simp [hcs]

section Steps

variable {fuel : Nat} {c : Char} {cs cs' after : List Char} {d : Draft} {items : List Draft}
  {members : List (StringDraft × Draft)} {closing : Closing}

lemma valueDraft_array (hspace : isSpace c = false) (hbracket : c ≠ ']')
    (h : itemDrafts fuel (c :: cs) = (items, closing, after)) :
    valueDraft (fuel + 1) ('[' :: c :: cs) = (.array items closing, after) := by
  rw [valueDraft, skipSpace_cons (by decide)]
  simp only [skipSpace_cons hspace]
  split
  case h_1 hc => exact absurd (List.cons.inj hc).1 hbracket
  case h_2 hc => simp at hc
  case h_3 => simp only [h]

lemma valueDraft_object (h : memberDrafts fuel cs = (members, closing, after)) :
    valueDraft (fuel + 1) ('\x7b' :: '"' :: cs) = (.object members closing, after) := by
  rw [valueDraft, skipSpace_cons (by decide)]
  simp only [skipSpace_cons (by decide : isSpace '"' = false), h]

lemma itemDrafts_last (h : valueDraft fuel cs = (d, ']' :: after)) :
    itemDrafts (fuel + 1) cs = ([d], .closed, after) := by
  rw [itemDrafts, h]
  simp only [skipSpace_cons (by decide : isSpace ']' = false)]

lemma itemDrafts_cons (h : valueDraft fuel cs = (d, ',' :: c :: cs')) (hspace : isSpace c = false)
    (hbracket : c ≠ ']') (h' : itemDrafts fuel (c :: cs') = (items, closing, after)) :
    itemDrafts (fuel + 1) cs = (d :: items, closing, after) := by
  rw [itemDrafts, h]
  simp only [skipSpace_cons (by decide : isSpace ',' = false), skipSpace_cons hspace]
  split
  case h_1 hc => simp at hc
  case h_2 hc => exact absurd (List.cons.inj hc).1 hbracket
  case h_3 => simp only [h']

lemma memberDrafts_last {s : String} (h : valueDraft fuel cs = (d, '\x7d' :: after)) :
    memberDrafts (fuel + 1) (s.toList.flatMap escapeChar ++ '"' :: ':' :: cs) =
      ([(.ofString s, d)], .closed, after) := by
  rw [memberDrafts, stringDraft_quote]
  simp only [skipSpace_cons (by decide : isSpace ':' = false), h,
    skipSpace_cons (by decide : isSpace '\x7d' = false)]

lemma memberDrafts_cons {s : String} (h : valueDraft fuel cs = (d, ',' :: '"' :: cs'))
    (h' : memberDrafts fuel cs' = (members, closing, after)) :
    memberDrafts (fuel + 1) (s.toList.flatMap escapeChar ++ '"' :: ':' :: cs) =
      ((.ofString s, d) :: members, closing, after) := by
  rw [memberDrafts, stringDraft_quote]
  simp only [skipSpace_cons (by decide : isSpace ':' = false), h,
    skipSpace_cons (by decide : isSpace ',' = false),
    skipSpace_cons (by decide : isSpace '"' = false), h']

end Steps

mutual

/-- **The text of a value is read as its draft**, with fuel of twice its length. -/
theorem valueDraft_chars (v : Json) (fuel : Nat) (rest : List Char)
    (hfuel : 2 * v.chars.length ≤ fuel) (hrest : Follows rest) :
    valueDraft fuel (v.chars ++ rest) = (v.draft, rest) := by
  have hpos := length_chars_pos v
  obtain ⟨fuel, rfl⟩ : ∃ k, fuel = k + 1 := ⟨fuel - 1, by omega⟩
  match v with
  | .null => rfl
  | .boolean true => rfl
  | .boolean false => rfl
  | .number n => exact valueDraft_number fuel n hrest
  | .string s =>
    rw [chars, quote_append, draft, valueDraft, skipSpace_cons (by decide)]
    simp only [stringDraft_quote]
  | .array [] => rfl
  | .array (v :: items) =>
    have hitems := itemDrafts_itemChars (v :: items) fuel rest (List.cons_ne_nil _ _) (by
      simp only [chars, itemChars, List.length_cons, List.length_append, List.length_nil] at hfuel ⊢
      omega)
    obtain ⟨c, cs, hcs, hspace, hbracket⟩ := exists_cons_chars v
    simp only [itemChars, List.cons_append, List.tail_cons, List.append_assoc, hcs] at hitems
    simpa [chars, draft, hcs] using valueDraft_array hspace hbracket hitems
  | .object [] => rfl
  | .object ((k, v) :: members) =>
    have hmembers := memberDrafts_memberChars ((k, v) :: members) fuel rest (List.cons_ne_nil _ _)
      (by
        simp only [chars, memberChars, List.length_cons, List.length_append,
          List.length_nil] at hfuel ⊢
        omega)
    have hobject := valueDraft_object hmembers
    simpa [chars, draft, memberChars, quote] using hobject

theorem itemDrafts_itemChars (items : List Json) (fuel : Nat) (rest : List Char)
    (hne : items ≠ []) (hfuel : 2 * (itemChars items).length ≤ fuel + 1) :
    itemDrafts fuel ((itemChars items).tail ++ ']' :: rest) =
      (itemsDraft items, .closed, rest) := by
  match items with
  | [] => exact absurd rfl hne
  | v :: items =>
    simp only [itemChars, List.cons_append, List.length_cons, List.length_append] at hfuel
    obtain ⟨fuel, rfl⟩ : ∃ k, fuel = k + 1 := ⟨fuel - 1, by omega⟩
    have hvalue := valueDraft_chars v fuel (itemChars items ++ ']' :: rest) (by omega)
      (follows_itemChars items rest)
    simp only [itemChars, List.cons_append, List.tail_cons, List.append_assoc, itemsDraft]
    match items with
    | [] => exact itemDrafts_last hvalue
    | w :: items =>
      have hitems := itemDrafts_itemChars (w :: items) fuel rest (List.cons_ne_nil _ _) (by omega)
      obtain ⟨c, cs, hcs, hspace, hbracket⟩ := exists_cons_chars w
      simp only [itemChars, List.cons_append, List.tail_cons, List.append_assoc, hcs]
        at hvalue hitems ⊢
      exact itemDrafts_cons hvalue hspace hbracket hitems

theorem memberDrafts_memberChars (members : List (String × Json)) (fuel : Nat) (rest : List Char)
    (hne : members ≠ []) (hfuel : 2 * (memberChars members).length ≤ fuel + 1) :
    memberDrafts fuel ((memberChars members).drop 2 ++ '\x7d' :: rest) =
      (membersDraft members, .closed, rest) := by
  match members with
  | [] => exact absurd rfl hne
  | (k, v) :: members =>
    simp only [memberChars, List.cons_append, List.length_cons, List.length_append] at hfuel
    obtain ⟨fuel, rfl⟩ : ∃ k, fuel = k + 1 := ⟨fuel - 1, by omega⟩
    have hvalue := valueDraft_chars v fuel (memberChars members ++ '\x7d' :: rest) (by omega)
      (follows_memberChars members rest)
    have htext : (memberChars ((k, v) :: members)).drop 2 ++ '\x7d' :: rest =
        k.toList.flatMap escapeChar ++ '"' :: ':' :: (v.chars ++ (memberChars members ++
          '\x7d' :: rest)) := by
      simp [memberChars, quote]
    rw [htext, membersDraft]
    match members with
    | [] => exact memberDrafts_last hvalue
    | (j, w) :: members =>
      have hmembers := memberDrafts_memberChars ((j, w) :: members) fuel rest
        (List.cons_ne_nil _ _) (by omega)
      have hnext : memberChars ((j, w) :: members) ++ '\x7d' :: rest =
          ',' :: '"' :: ((memberChars ((j, w) :: members)).drop 2 ++ '\x7d' :: rest) := by
        simp [memberChars, quote]
      rw [hnext] at hvalue
      exact memberDrafts_cons hvalue hmembers

end

theorem ofText_chars (v : Json) : Draft.ofText v.chars = (v.draft, false) := by
  have h := valueDraft_chars v (2 * v.chars.length + 2) [] (by omega) (by simp [Follows])
  rw [List.append_nil] at h
  unfold Draft.ofText
  rw [h]
  rfl

lemma draft_eq_of_text_eq {v w : Json} (h : v.text = w.text) : v.draft = w.draft := by
  have hchars : v.chars = w.chars := String.ofList_inj.1 h
  calc v.draft = (Draft.ofText v.chars).1 := by rw [ofText_chars]
    _ = (Draft.ofText w.chars).1 := by rw [hchars]
    _ = w.draft := by rw [ofText_chars]

/-! ## Values that a program can have -/

/-- Integers have 64 bits, with or without a sign, and doubles are finite. -/
def Number.Valid : Number → Prop
  | .integer n => -maxNegative ≤ n ∧ n ≤ maxInteger
  | .double x => ∃ s q h, x = .finite s q h

mutual

/-- All numbers are valid, and the members of each object are sorted by name, each name once. -/
def Valid : Json → Prop
  | .null => True
  | .boolean _ => True
  | .number n => n.Valid
  | .string _ => True
  | .array items => ValidItems items
  | .object members => members.Pairwise (·.1 < ·.1) ∧ ValidMembers members

def ValidItems : List Json → Prop
  | [] => True
  | v :: rest => Valid v ∧ ValidItems rest

def ValidMembers : List (String × Json) → Prop
  | [] => True
  | (_, v) :: rest => Valid v ∧ ValidMembers rest

end

mutual

/-- The number of brackets that are open at the deepest place of a text. -/
def depth : Json → Nat
  | .array items => depthItems items + 1
  | .object members => depthMembers members + 1
  | _ => 0

def depthItems : List Json → Nat
  | [] => 0
  | v :: rest => max (depth v) (depthItems rest)

def depthMembers : List (String × Json) → Nat
  | [] => 0
  | (_, v) :: rest => max (depth v) (depthMembers rest)

end

mutual

/-- A valid value equals itself, which what is no number would not. -/
theorem eq_self (v : Json) (hv : v.Valid) : v.eq v = true := by
  match v, hv with
  | .null, _ => rfl
  | .boolean b, _ => simp [eq]
  | .number (.integer n), _ => simp [eq, Number.eq]
  | .number (.double _), ⟨s, q, h, rfl⟩ => simp [eq, Number.eq, BEq.beq, Binary64.eq]
  | .string s, _ => simp [eq]
  | .array items, hv => exact eqItems_self items hv
  | .object members, hv => exact eqMembers_self members hv.2

theorem eqItems_self (items : List Json) (hv : ValidItems items) : eqItems items items = true := by
  match items, hv with
  | [], _ => rfl
  | v :: items, ⟨hv, hitems⟩ => simp [eqItems, eq_self v hv, eqItems_self items hitems]

theorem eqMembers_self (members : List (String × Json)) (hv : ValidMembers members) :
    eqMembers members members = true := by
  match members, hv with
  | [], _ => rfl
  | (k, v) :: members, ⟨hv, hmembers⟩ =>
    simp [eqMembers, eq_self v hv, eqMembers_self members hmembers]

end

/-! ## Values of drafts -/

lemma read_integer {n : Int} (h : (Number.integer n).Valid) :
    NumberDraft.read ⟨decide (n < 0), n.natAbs, 0, true⟩ = .ok (.integer n) := by
  obtain ⟨hlow, hhigh⟩ := h
  unfold NumberDraft.read
  by_cases hn : n < 0
  · have hne : n.natAbs ≠ 0 := by omega
    have hle : n.natAbs ≤ maxNegative := by omega
    have hint : -(n.natAbs : Int) = n := by omega
    simp only [hn, hne, hle, hint, decide_true, not_true_eq_false, not_false_eq_true, false_and,
      and_false, and_true, ne_eq, if_false, if_true]
  · have hle : n.natAbs ≤ maxInteger := by omega
    have hint : (n.natAbs : Int) = n := by omega
    simp only [hn, hle, hint, decide_false, Bool.false_eq_true, not_false_eq_true, and_true,
      if_true]

lemma read_double (negative : Bool) {quanta : Nat} (hfits : Binary64.Fits quanta) :
    NumberDraft.read (if quanta = 0 then ⟨negative, 0, -1, false⟩ else
        decimalDraft negative (Decimal.shortest .toEven quanta)) =
      .ok (.double (.finite negative quanta hfits)) := by
  have hread : ∀ {digits : Nat} {e : Int},
      Binary64.ofDecimal negative digits e = .finite negative quanta hfits →
      NumberDraft.read ⟨negative, digits, e, false⟩ =
        .ok (.double (.finite negative quanta hfits)) := by
    intro digits e h
    unfold NumberDraft.read
    simp [h]
  by_cases hzero : quanta = 0
  · subst hzero
    exact hread rfl
  · have hshortest := Decimal.ofDecimal_shortest .toEven negative hfits
    rw [if_neg hzero, decimalDraft]
    generalize Decimal.shortest .toEven quanta = d at hshortest ⊢
    split
    case isTrue hwhole =>
      -- zeros are appended to a whole number, so that its exponent is the smaller
      have hexponent : (-1 + (d.exponent.toNat + 1 : Nat) : Int) = d.exponent := by omega
      refine hread ?_
      calc Binary64.ofDecimal negative (d.digits * Nat.pow 10 (d.exponent.toNat + 1)) (-1)
        _ = .ofDecimal negative d.digits (-1 + (d.exponent.toNat + 1 : Nat)) :=
          Binary64.ofDecimal_mul_pow ..
        _ = .finite negative quanta hfits := by rw [hexponent, hshortest]
    case isFalse => exact hread hshortest

lemma value_number {n : Number} (h : n.Valid) (room : Nat) :
    Reader.value room n.draft = .ok (.number n) := by
  match n, h with
  | .integer n, h => simp only [Number.draft, Reader.value, read_integer h, Except.map]
  | .double _, ⟨s, q, hq, rfl⟩ =>
    simp only [Number.draft, Reader.value, read_double s hq, Except.map]

lemma insert_eq_append {k : String} {v : Json} {members : List (String × Json)}
    (h : ∀ m ∈ members, m.1 < k) : insert k v members = members ++ [(k, v)] := by
  induction members with
  | nil => rfl
  | cons m members ih =>
    obtain ⟨j, w⟩ := m
    have hlt : j < k := h (j, w) (List.mem_cons_self ..)
    have hne : k ≠ j := (String.ne_of_lt hlt).symm
    have hnot : ¬ k < j := String.lt_asymm hlt
    rw [insert, if_neg hne, if_neg hnot, ih fun m hm => h m (List.mem_cons_of_mem _ hm)]
    rfl

lemma ofMembers_eq_object {members : List (String × Json)}
    (h : members.Pairwise (·.1 < ·.1)) : ofMembers members = .object members := by
  have hfold : ∀ (rest sorted : List (String × Json)), (sorted ++ rest).Pairwise (·.1 < ·.1) →
      rest.foldl (fun sorted m => insert m.1 m.2 sorted) sorted = sorted ++ rest := by
    intro rest
    induction rest with
    | nil => simp
    | cons m rest ih =>
      intro sorted hsorted
      have hlast : insert m.1 m.2 sorted = sorted ++ [m] :=
        insert_eq_append fun j hj =>
          (List.pairwise_append.1 hsorted).2.2 j hj m (List.mem_cons_self ..)
      simp only [List.foldl_cons, hlast]
      rw [ih _ (by simpa using hsorted), List.append_assoc]
      rfl
  have hmembers := hfold members [] (by simpa using h)
  exact congrArg Json.object hmembers

mutual

/-- **A value is read back** from its draft if it is valid and there is room for it. -/
theorem value_draft (v : Json) (room : Nat) (hv : v.Valid) (hroom : v.depth ≤ room) :
    Reader.value room v.draft = .ok v := by
  match v with
  | .null => simp [draft, Reader.value]
  | .boolean b => simp [draft, Reader.value]
  | .number n => exact value_number hv room
  | .string s => simp [draft, Reader.value, Except.map]
  | .array items =>
    rw [depth] at hroom
    obtain ⟨room, rfl⟩ : ∃ k, room = k + 1 := ⟨room - 1, by omega⟩
    have hitems := mapM_value_itemsDraft items room hv (by omega)
    rw [draft, Reader.value, hitems]
    rfl
  | .object members =>
    rw [depth] at hroom
    obtain ⟨room, rfl⟩ : ∃ k, room = k + 1 := ⟨room - 1, by omega⟩
    obtain ⟨hsorted, hmembers⟩ := hv
    have hmembers := mapM_value_membersDraft members room hmembers (by omega)
    rw [draft, Reader.value, hmembers]
    exact congrArg Except.ok (ofMembers_eq_object hsorted)

theorem mapM_value_itemsDraft (items : List Json) (room : Nat) (hv : ValidItems items)
    (hroom : depthItems items ≤ room) :
    (itemsDraft items).mapM (Reader.value room) = .ok items := by
  match items with
  | [] => rfl
  | v :: items =>
    rw [depthItems] at hroom
    have hvalue := value_draft v room hv.1 (by omega)
    have hitems := mapM_value_itemsDraft items room hv.2 (by omega)
    rw [itemsDraft, List.mapM_cons, hvalue, hitems]
    rfl

theorem mapM_value_membersDraft (members : List (String × Json)) (room : Nat)
    (hv : ValidMembers members) (hroom : depthMembers members ≤ room) :
    ((membersDraft members).mapM fun (name, d) => do
      let name ← name.read
      let v ← Reader.value room d
      return (name, v)) = .ok members := by
  match members with
  | [] => rfl
  | (k, v) :: members =>
    rw [depthMembers] at hroom
    have hvalue := value_draft v room hv.1 (by omega)
    have hmembers := mapM_value_membersDraft members room hv.2 (by omega)
    rw [membersDraft, List.mapM_cons, hmembers]
    simp only [StringDraft.read_ofString, hvalue]
    rfl

end

lemma read_text_of_draft {α : Type} {reader : Reader α} {v : Json} {a : α}
    (h : reader depthLimit v.draft = .ok a) : Json.read reader v.text = .ok a := by
  simp only [Json.read, text, String.toList_ofList, ofText_chars, h, Bool.false_eq_true, if_false]

/-- **A value is read back from its text** if it is valid and not nested too deeply. -/
theorem read_text {v : Json} (hv : v.Valid) (hdepth : v.depth ≤ depthLimit) :
    Json.read Reader.value v.text = .ok v :=
  read_text_of_draft (value_draft v depthLimit hv hdepth)

end ComponentQuery.Json
