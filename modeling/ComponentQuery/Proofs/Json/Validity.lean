import ComponentQuery.Proofs.Json.RoundTrip
import ComponentQuery.Proofs.Number.Grammar

/-!
# What readers give

A reader gives no value that a program could not have.  `fits_of_value` says so of the reader of
any value: its integers have 64 bits, its doubles are finite, the members of its objects are sorted
by name, each name once, and it is nested no more deeply than there was room for brackets.  So what
is read can be written and read again.

A record is read field by field, from an object or from an array.  What the fields keep up, and the
record has that the reading starts with, the record has that is read: `fields_keeps`.
-/

namespace ComponentQuery.Json

/-! ## Readers in a row -/

lemma exists_of_bind_eq_ok {ε α β : Type} {x : Except ε α} {f : α → Except ε β} {b : β}
    (h : x >>= f = .ok b) : ∃ a, x = .ok a ∧ f a = .ok b := by
  cases x with
  | error e => simp [bind, Except.bind] at h
  | ok a => exact ⟨a, rfl, h⟩

lemma exists_of_map_eq_ok {ε α β : Type} {x : Except ε α} {f : α → β} {b : β}
    (h : x.map f = .ok b) : ∃ a, x = .ok a ∧ f a = b := by
  cases x with
  | error e => simp [Except.map] at h
  | ok a => exact ⟨a, rfl, Except.ok.inj h⟩

lemma exists_of_mem_mapM {ε α β : Type} {f : α → Except ε β} {as : List α} {bs : List β}
    (h : as.mapM f = .ok bs) : ∀ b ∈ bs, ∃ a, f a = .ok b := by
  induction as generalizing bs with
  | nil =>
    obtain rfl : [] = bs := Except.ok.inj h
    simp
  | cons a as ih =>
    rw [List.mapM_cons] at h
    obtain ⟨b, hb, h⟩ := exists_of_bind_eq_ok h
    obtain ⟨bs', hbs, h⟩ := exists_of_bind_eq_ok h
    obtain rfl : b :: bs' = bs := Except.ok.inj h
    exact List.forall_mem_cons.2 ⟨⟨a, hb⟩, ih hbs⟩

lemma exists_of_read {α : Type} {reader : Reader α} {text : String} {a : α}
    (h : Json.read reader text = .ok a) :
    ∃ draft, Draft.ofText text.toList = (draft, false) ∧ reader depthLimit draft = .ok a := by
  revert h
  fun_cases Json.read reader text with
  | case1 | case2 => simp [malformed]
  | case3 draft more hdraft b hb hmore =>
    rintro ⟨⟩
    exact ⟨draft, Bool.eq_false_iff.2 hmore ▸ hdraft, hb⟩

/-! ## Numbers -/

/-- Every number that is read is valid: one that is too large is malformed. -/
lemma valid_of_numberDraft_read {d : NumberDraft} {n : Number} (h : d.read = .ok n) : n.Valid := by
  revert h
  fun_cases NumberDraft.read d with
  | case1 hsmall =>
    rintro ⟨⟩
    obtain ⟨-, -, hle⟩ := hsmall
    constructor <;> omega
  | case2 _ hsmall =>
    rintro ⟨⟩
    obtain ⟨-, -, -, hle⟩ := hsmall
    have hint : maxNegative ≤ maxInteger := by decide
    constructor <;> omega
  | case3 => simp [malformed]
  | case4 _ _ hfinite =>
    rintro ⟨⟩
    have hnumber := Binary64.isNaN_ofDecimal d.negative d.digits d.exponent
    cases hx : Binary64.ofDecimal d.negative d.digits d.exponent with
    | nan => simp [hx, Binary64.isNaN] at hnumber
    | infinite s => exact absurd hx (hfinite s)
    | finite s q hq => exact ⟨s, q, hq, rfl⟩

/-! ## Sorted members -/

lemma mem_of_mem_insert {k : String} {v : Json} {members : List (String × Json)}
    {m : String × Json} (h : m ∈ insert k v members) : m = (k, v) ∨ m ∈ members := by
  induction members with
  | nil => exact .inl (List.mem_singleton.1 h)
  | cons n members ih =>
    obtain ⟨j, w⟩ := n
    unfold insert at h
    split_ifs at h <;> grind

lemma pairwise_insert (k : String) (v : Json) {members : List (String × Json)}
    (h : members.Pairwise (·.1 < ·.1)) : (insert k v members).Pairwise (·.1 < ·.1) := by
  induction members with
  | nil => exact List.pairwise_singleton ..
  | cons n members ih =>
    obtain ⟨j, w⟩ := n
    obtain ⟨hj, hmembers⟩ := List.pairwise_cons.1 h
    by_cases heq : k = j
    · subst heq
      rw [insert, if_pos rfl]
      exact List.pairwise_cons.2 ⟨hj, hmembers⟩
    rw [insert, if_neg heq]
    by_cases hlt : k < j
    · -- the new member comes first: all that follow are above `j`
      rw [if_pos hlt]
      refine List.pairwise_cons.2 ⟨List.forall_mem_cons.2 ⟨hlt, fun m hm => ?_⟩, h⟩
      exact String.lt_trans hlt (hj m hm)
    · rw [if_neg hlt]
      refine List.pairwise_cons.2 ⟨fun m hm => ?_, ih hmembers⟩
      rcases mem_of_mem_insert hm with rfl | hm
      · exact Std.lt_of_le_of_ne (String.not_lt.1 hlt) (Ne.symm heq)
      · exact hj m hm

/-- The members of an object are sorted, and each is one of those that it is made of. -/
lemma exists_ofMembers_eq_object (members : List (String × Json)) :
    ∃ sorted, ofMembers members = .object sorted ∧ sorted.Pairwise (·.1 < ·.1) ∧
      ∀ m ∈ sorted, m ∈ members := by
  have hfold : ∀ rest sorted : List (String × Json), sorted.Pairwise (·.1 < ·.1) →
      (rest.foldl (fun sorted m => insert m.1 m.2 sorted) sorted).Pairwise (·.1 < ·.1) ∧
        ∀ m ∈ rest.foldl (fun sorted m => insert m.1 m.2 sorted) sorted, m ∈ sorted ++ rest := by
    intro rest
    induction rest with
    | nil => exact fun sorted h => ⟨h, by simp⟩
    | cons n rest ih =>
      intro sorted h
      obtain ⟨hsorted, hmem⟩ := ih _ (pairwise_insert n.1 n.2 h)
      refine ⟨hsorted, fun m hm => ?_⟩
      rcases List.mem_append.1 (hmem m hm) with hm | hm
      · rcases mem_of_mem_insert hm with rfl | hm <;> simp_all
      · simp [hm]
  obtain ⟨hsorted, hmem⟩ := hfold members [] .nil
  exact ⟨_, rfl, hsorted, by simpa using hmem⟩

/-! ## Values -/

/-- A value that a program can have, nested no more deeply than there is room for brackets. -/
def Fits (room : Nat) (v : Json) : Prop := v.Valid ∧ v.depth ≤ room

lemma fits_array {room : Nat} {items : List Json} (h : ∀ v ∈ items, v.Fits room) :
    (array items).Fits (room + 1) := by
  have hitems : ValidItems items ∧ depthItems items ≤ room := by
    induction items with
    | nil => exact ⟨trivial, Nat.zero_le _⟩
    | cons v items ih =>
      obtain ⟨hv, hitems⟩ := List.forall_mem_cons.1 h
      exact ⟨⟨hv.1, (ih hitems).1⟩, Nat.max_le.2 ⟨hv.2, (ih hitems).2⟩⟩
  exact ⟨hitems.1, Nat.succ_le_succ hitems.2⟩

lemma fits_object {room : Nat} {members : List (String × Json)}
    (hsorted : members.Pairwise (·.1 < ·.1)) (h : ∀ m ∈ members, m.2.Fits room) :
    (object members).Fits (room + 1) := by
  have hmembers : ValidMembers members ∧ depthMembers members ≤ room := by
    clear hsorted
    induction members with
    | nil => exact ⟨trivial, Nat.zero_le _⟩
    | cons m members ih =>
      obtain ⟨hm, hmembers⟩ := List.forall_mem_cons.1 h
      exact ⟨⟨hm.1, (ih hmembers).1⟩, Nat.max_le.2 ⟨hm.2, (ih hmembers).2⟩⟩
  exact ⟨⟨hsorted, hmembers.1⟩, Nat.succ_le_succ hmembers.2⟩

lemma fits_of_depth_eq_zero {room : Nat} {v : Json} (hv : v.Valid) (h : v.depth = 0) :
    v.Fits room :=
  ⟨hv, h ▸ Nat.zero_le room⟩

/-- What the reader of any value does with a draft, with so many brackets that may still be
opened. -/
inductive Reads : Nat → Draft → Json → Prop where
  | null (room : Nat) : Reads room .null .null
  | boolean (room : Nat) (b : Bool) : Reads room (.boolean b) (.boolean b)
  | number (room : Nat) {d : NumberDraft} {n : Number} (h : d.read = .ok n) :
      Reads room (.number d) (.number n)
  | string (room : Nat) {d : StringDraft} {s : String} (h : d.read = .ok s) :
      Reads room (.string d) (.string s)
  | array {room : Nat} {items : List Draft} {vs : List Json} (closing : Closing)
      (h : ∀ v ∈ vs, ∃ d, Reader.value room d = .ok v) :
      Reads (room + 1) (.array items closing) (.array vs)
  | object {room : Nat} {members : List (StringDraft × Draft)} {ms : List (String × Json)}
      (closing : Closing) (h : ∀ m ∈ ms, ∃ d, Reader.value room d = .ok m.2) :
      Reads (room + 1) (.object members closing) (ofMembers ms)

lemma reads_of_value {room : Nat} {d : Draft} {v : Json} (h : Reader.value room d = .ok v) :
    Reads room d v := by
  match room, d with
  | _, .null | _, .boolean _ =>
    rw [Reader.value] at h
    obtain rfl := Except.ok.inj h
    constructor
  | _, .number _ | _, .string _ =>
    rw [Reader.value] at h
    obtain ⟨_, hread, rfl⟩ := exists_of_map_eq_ok h
    constructor
    exact hread
  | _, .halfNumber | _, .broken _ => simp [Reader.value] at h
  | 0, .array _ _ | 0, .object _ _ => simp [Reader.value, malformed] at h
  | room + 1, .array items closing =>
    rw [Reader.value] at h
    obtain ⟨vs, hvs, h⟩ := exists_of_bind_eq_ok h
    obtain ⟨-, -, h⟩ := exists_of_bind_eq_ok h
    obtain rfl : array vs = v := Except.ok.inj h
    exact .array closing (exists_of_mem_mapM hvs)
  | room + 1, .object members closing =>
    rw [Reader.value] at h
    obtain ⟨ms, hms, h⟩ := exists_of_bind_eq_ok h
    obtain ⟨-, -, h⟩ := exists_of_bind_eq_ok h
    obtain rfl : ofMembers ms = v := Except.ok.inj h
    refine .object closing fun m hm => ?_
    obtain ⟨⟨name, d⟩, hd⟩ := exists_of_mem_mapM hms m hm
    obtain ⟨k, -, hd⟩ := exists_of_bind_eq_ok hd
    obtain ⟨w, hw, hd⟩ := exists_of_bind_eq_ok hd
    obtain rfl : (k, w) = m := Except.ok.inj hd
    exact ⟨d, hw⟩

/-- **Every value that is read is one that a program can have**, and fits the room that there was
for its brackets. -/
theorem fits_of_value {room : Nat} {d : Draft} {v : Json} (h : Reader.value room d = .ok v) :
    v.Fits room := by
  induction room using Nat.strongRecOn generalizing d v with
  | ind room ih =>
    cases reads_of_value h with
    | null | boolean | string => exact fits_of_depth_eq_zero trivial rfl
    | number _ hread => exact fits_of_depth_eq_zero (valid_of_numberDraft_read hread) rfl
    | @array room _ vs _ hvs =>
      refine fits_array fun w hw => ?_
      obtain ⟨d, hd⟩ := hvs w hw
      exact ih room (Nat.lt_succ_self room) hd
    | @object room _ ms _ hms =>
      obtain ⟨sorted, hsorted, hpairwise, hmem⟩ := exists_ofMembers_eq_object ms
      rw [hsorted]
      refine fits_object hpairwise fun m hm => ?_
      obtain ⟨d, hd⟩ := hms m (hmem m hm)
      exact ih room (Nat.lt_succ_self room) hd

/-! ## Records -/

/-- What holds of a record before a field is read holds after. -/
def Field.Keeps {α : Type} (room : Nat) (P : α → Prop) (field : Field α) : Prop :=
  ∀ d a a', P a → field.read room d a = .ok a' → P a'

section Records

variable {α β : Type} {room : Nat} {P : α → Prop} {fields : List (Field α)}

/-- A field whose value is read by itself keeps up what putting it into the record keeps up. -/
lemma Field.keeps_of {name : String} {presence : Presence} {read : Reader β} {put : β → α → α}
    (h : ∀ d b a, read room d = .ok b → P a → P (put b a)) :
    (Field.of name presence read put).Keeps room P := by
  intro d a a' ha hread
  obtain ⟨b, hb, rfl⟩ := exists_of_map_eq_ok hread
  exact h d b a hb ha

lemma membersInto_keeps (hfields : ∀ field ∈ fields, field.Keeps room P)
    {members : List (StringDraft × Draft)} {seen seen' : List String} {a a' : α} (ha : P a)
    (h : membersInto fields room members seen a = .ok (seen', a')) : P a' := by
  induction members generalizing seen a with
  | nil =>
    obtain ⟨-, rfl⟩ := Prod.mk.inj (Except.ok.inj h)
    exact ha
  | cons m members ih =>
    obtain ⟨name, d⟩ := m
    obtain ⟨k, -, h⟩ := exists_of_bind_eq_ok h
    cases hfield : fields.find? (·.name == k) with
    | none =>
      -- a member that is not one of the fields is skipped
      simp only [hfield] at h
      obtain ⟨-, -, h⟩ := exists_of_bind_eq_ok h
      exact ih ha h
    | some field =>
      simp only [hfield] at h
      split at h
      · simp at h
      · obtain ⟨b, hb, h⟩ := exists_of_bind_eq_ok h
        exact ih (hfields field (List.mem_of_find?_eq_some hfield) d a b ha hb) h

lemma itemsInto_keeps {record : String} {all : Nat} {closing : Closing}
    (hfields : ∀ field ∈ fields, field.Keeps room P) {items : List Draft} {done : Nat} {a a' : α}
    (ha : P a) (h : itemsInto record room all closing fields items done a = .ok a') : P a' := by
  induction fields generalizing items done a with
  | nil =>
    cases items with
    | nil => cases closing <;> simp_all [itemsInto, malformed]
    | cons => simp [itemsInto, malformed] at h
  | cons field fields ih =>
    obtain ⟨hfield, hfields⟩ := List.forall_mem_cons.1 hfields
    cases items with
    | nil =>
      obtain ⟨-, -, h⟩ := exists_of_bind_eq_ok h
      split at h
      · exact ih hfields ha h
      · simp at h
    | cons d items =>
      obtain ⟨b, hb, h⟩ := exists_of_bind_eq_ok h
      exact ih hfields (hfield d a b ha hb) h

lemma mismatch_ne_ok {wanted : Wanted} {d : Draft} {a : α} : mismatch wanted d ≠ .ok a := by
  unfold mismatch
  split <;> simp
  all_goals split <;> simp

/-- **A record has what its fields keep up** if the one that the reading starts with has it.  Its
own brackets take some of the room. -/
theorem fields_keeps {record : String} {start a : α} {d : Draft}
    (h : Reader.fields record fields start room d = .ok a) :
    ∃ left, room = left + 1 ∧
      ∀ P : α → Prop, P start → (∀ field ∈ fields, field.Keeps left P) → P a := by
  match room, d with
  | 0, .array .. | 0, .object .. => simp [Reader.fields, malformed] at h
  | left + 1, .array items closing =>
    exact ⟨left, rfl, fun P hstart hfields => itemsInto_keeps hfields hstart h⟩
  | left + 1, .object members closing =>
    refine ⟨left, rfl, fun P hstart hfields => ?_⟩
    obtain ⟨⟨seen, b⟩, hmembers, h⟩ := exists_of_bind_eq_ok h
    obtain ⟨-, -, h⟩ := exists_of_bind_eq_ok h
    have hb := membersInto_keeps hfields hstart hmembers
    split at h
    · simp at h
    · obtain rfl := Except.ok.inj h
      exact hb
  | _, .null | _, .boolean _ | _, .number _ | _, .halfNumber | _, .string _ | _, .broken _ =>
    simp [Reader.fields, mismatch_ne_ok] at h

end Records

end ComponentQuery.Json
