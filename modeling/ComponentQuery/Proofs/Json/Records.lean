import ComponentQuery.Proofs.Json.Documents

/-!
# Records and their parts

What a reader gives can be said of the values that drafts stand for: `Reader.Exact` is a reader that
gives exactly what stands in some relation to the value.  The readers of strings, of lists and of
any value are exact, and so is that of a record whose fields are.

The fields of a record are read in the order of the text, each into the record as it stands.  A
`Part` is what one of them is read into: a part of the record that the other fields leave as it is.
A `Layout` has a part for each field, and together they are the record.  So a record is read if and
only if each of its parts is what the members of its name say, whatever their order:
`membersInto_iff` for what remains of the members of an object, `exact_fields` for a whole record.
The latter has the form of an array too, which is read like the object of its items by the names of
the fields.
-/

namespace ComponentQuery.Json

/-! ## Exact readers -/

lemma bind_eq_ok_iff {ε α β : Type} {x : Except ε α} {f : α → Except ε β} {b : β} :
    x >>= f = .ok b ↔ ∃ a, x = .ok a ∧ f a = .ok b := by
  refine ⟨exists_of_bind_eq_ok, ?_⟩
  rintro ⟨a, rfl, h⟩
  exact h

lemma map_eq_ok_iff {ε α β : Type} {x : Except ε α} {f : α → β} {b : β} :
    x.map f = .ok b ↔ ∃ a, x = .ok a ∧ f a = b := by
  refine ⟨exists_of_map_eq_ok, ?_⟩
  rintro ⟨a, rfl, rfl⟩
  rfl

/-- What a reader gives of the drafts that stand for values is what stands in a relation to them. -/
def Reader.Exact {α : Type} (read : Reader α) (room : Nat) (Gives : Json → α → Prop) : Prop :=
  ∀ d v, d.value? = some v → ∀ a, read room d = .ok a ↔ Gives v a

lemma exact_string (room : Nat) : Reader.string.Exact room fun v s => v = .string s := by
  intro d v hd s
  cases standsFor_of_value? hd with
  | string ht => simp [Reader.string, ht]
  | _ => simp [Reader.string, mismatch_ne_ok]

lemma exact_value (room : Nat) :
    Reader.value.Exact room fun v w => v.depth ≤ room ∧ v.canonical = w := by
  intro d v h w
  rw [value_of_value? d room h]
  split <;> simp_all [malformed]

lemma Field.read_of {α β : Type} {name : String} {presence : Presence} {read : Reader β}
    {put : β → α → α} {room : Nat} {d : Draft} {b : β} (h : read room d = .ok b) (a : α) :
    (Field.of name presence read put).read room d a = .ok (put b a) := by
  simp [Field.of, h, Except.map]

section Readers

variable {α : Type} {read : Reader α} {room : Nat} {Gives : Json → α → Prop}

/-- What may be `null`, which gives nothing. -/
inductive Nullable (Gives : Json → α → Prop) : Json → Option α → Prop where
  | null : Nullable Gives .null none
  | value {v : Json} {a : α} (hne : v ≠ .null) (h : Gives v a) : Nullable Gives v (some a)

lemma Reader.Exact.optional (h : read.Exact room Gives) :
    (Reader.optional read).Exact room (Nullable Gives) := by
  intro d v hd x
  have hread := h d v hd
  cases hkind : standsFor_of_value? hd with
  | null =>
    constructor
    · intro h
      exact Except.ok.inj h ▸ .null
    · rintro (_ | ⟨hne, -⟩)
      · rfl
      · exact absurd rfl hne
  | _ =>
    simp only [Reader.optional, map_eq_ok_iff, hread]
    constructor
    · rintro ⟨a, ha, rfl⟩
      exact .value (by simp) ha
    · rintro (_ | ⟨-, ha⟩)
      exact ⟨_, ha, rfl⟩

lemma Reader.Exact.mapM_eq_ok_iff (h : read.Exact room Gives) {ds : List Draft} {vs : List Json}
    (hds : itemValues? ds = some vs) (xs : List α) :
    ds.mapM (read room) = .ok xs ↔ List.Forall₂ Gives vs xs := by
  induction ds generalizing vs xs with
  | nil =>
    obtain rfl := Option.some.inj hds
    cases xs <;> simp [pure, Except.pure]
  | cons d ds ih =>
    obtain ⟨v, ws, hv, hws, rfl⟩ := itemValues?_cons hds
    simp only [List.mapM_cons, bind_eq_ok_iff, h d v hv, ih hws, List.forall₂_cons_left_iff,
      pure, Except.pure, Except.ok.injEq]
    grind

/-- A list takes brackets of its own. -/
lemma Reader.Exact.list (h : read.Exact (room - 1) Gives) :
    (Reader.list read).Exact room fun v xs =>
      0 < room ∧ ∃ vs, v = .array vs ∧ List.Forall₂ Gives vs xs := by
  intro d v hd xs
  cases standsFor_of_value? hd with
  | array hds =>
    cases room with
    | zero => simp [Reader.list, malformed]
    | succ room =>
      have hitems := h.mapM_eq_ok_iff hds
      rw [Nat.add_sub_cancel] at hitems
      simp [Reader.list, Closing.check, bind_eq_ok_iff, hitems, pure, Except.pure]
  | _ => simp [Reader.list, mismatch_ne_ok]

end Readers

/-! ## The members of a name -/

/-- The values of the members of a name, in their order. -/
def valuesOf (name : String) (members : List (String × Json)) : List Json :=
  (members.filter (·.1 == name)).map (·.2)

lemma valuesOf_cons_self (name : String) (v : Json) (members : List (String × Json)) :
    valuesOf name ((name, v) :: members) = v :: valuesOf name members := by
  simp [valuesOf]

lemma valuesOf_cons_of_ne {name k : String} (h : k ≠ name) (v : Json)
    (members : List (String × Json)) :
    valuesOf name ((k, v) :: members) = valuesOf name members := by
  simp [valuesOf, h]

/-- What is read of the values of the members of a name: there is none, or there is one. -/
inductive ReadFrom {β : Type} (Gives : Json → β → Prop) (default : β) : List Json → β → Prop where
  | left_out : ReadFrom Gives default [] default
  | read {v : Json} {x : β} (h : Gives v x) : ReadFrom Gives default [v] x

section ReadFrom

variable {β : Type} {Gives : Json → β → Prop} {default x : β}

@[simp] lemma readFrom_nil_iff : ReadFrom Gives default [] x ↔ x = default :=
  ⟨fun | .left_out => rfl, fun h => h ▸ .left_out⟩

@[simp] lemma readFrom_cons_iff {v : Json} {vs : List Json} :
    ReadFrom Gives default (v :: vs) x ↔ vs = [] ∧ Gives v x :=
  ⟨fun | .read h => ⟨rfl, h⟩, fun ⟨hnil, h⟩ => hnil ▸ .read h⟩

end ReadFrom

/-! ## Parts of records -/

/-- A part of a record, which one of its fields is read into: what the field gives of a value is in
that part then, and no other field changes it. -/
structure Part {α : Type} (fields : List (Field α)) (room : Nat) where
  field : Field α
  found : fields.find? (·.name == field.name) = some field
  Content : Type
  get : α → Content
  Gives : Json → Content → Prop
  /-- What is read is what the value gives. -/
  sound : ∀ {d : Draft} {v : Json} {a b : α}, d.value? = some v → field.read room d a = .ok b →
    Gives v (get b)
  /-- What the value gives is read, whatever the record was before. -/
  complete : ∀ {d : Draft} {v : Json} {x : Content}, d.value? = some v → Gives v x → ∀ a,
    ∃ b, field.read room d a = .ok b ∧ get b = x
  /-- Other fields leave this part as it is. -/
  frame : ∀ g ∈ fields, g.name ≠ field.name → ∀ x, g.Keeps room (get · = x)

/-- The part of a field whose value is read by itself and then put there. -/
def Part.of {α β : Type} {fields : List (Field α)} {room : Nat} (name : String)
    {presence : Presence} {read : Reader β} {put : β → α → α}
    (found : fields.find? (·.name == name) = some (.of name presence read put))
    {Gives : Json → β → Prop} (hread : read.Exact room Gives) (get : α → β)
    (hput : ∀ b a, get (put b a) = b)
    (frame : ∀ g ∈ fields, g.name ≠ name → ∀ x, g.Keeps room (get · = x)) :
    Part fields room where
  field := .of name presence read put
  found := found
  Content := β
  get := get
  Gives := Gives
  sound {d v a b} hd h := by
    obtain ⟨x, hx, rfl⟩ := map_eq_ok_iff.1 h
    rw [hput]
    exact (hread d v hd x).1 hx
  complete {d v x} hd h a :=
    ⟨put x a, map_eq_ok_iff.2 ⟨x, (hread d v hd x).2 h, rfl⟩, hput x a⟩
  frame := frame

section Parts

variable {α : Type} {fields : List (Field α)} {room : Nat}

/-- What is read into a part is all that the field gives of the value. -/
lemma Part.get_eq (p : Part fields room) {d : Draft} {v : Json} (hv : d.value? = some v) {a b : α}
    (hread : p.field.read room d a = .ok b) {x : p.Content} (hx : p.Gives v x) : p.get b = x := by
  obtain ⟨b', hb', rfl⟩ := p.complete hv hx a
  rw [Except.ok.inj (hread.symm.trans hb')]

lemma Part.field_eq (p : Part fields room) {f : Field α}
    (hf : fields.find? (·.name == p.field.name) = some f) : p.field = f :=
  Option.some.inj (p.found.symm.trans hf)

/-- The parts of a record, one for each field, which together are the record. -/
structure Layout (fields : List (Field α)) (room : Nat) where
  parts : List (Part fields room)
  covers : parts.map (·.field) = fields
  ext : ∀ {a b : α}, (∀ p ∈ parts, p.get a = p.get b) → a = b

lemma Layout.exists_part (layout : Layout fields room) {f : Field α} (hf : f ∈ fields) :
    ∃ p ∈ layout.parts, p.field = f := by
  rw [← layout.covers] at hf
  exact List.mem_map.1 hf

lemma membersInto_other {name : StringDraft} {k : String} (hk : name.read = .ok k)
    (hfield : fields.find? (·.name == k) = none) {d : Draft} {v : Json} (hd : d.value? = some v)
    (rest : List (StringDraft × Draft)) (seen : List String) (a : α) :
    membersInto fields room ((name, d) :: rest) seen a = membersInto fields room rest seen a := by
  rw [membersInto, hk]
  simp only [bind, Except.bind, hfield, ignored_of_value? hd]

/-- A member of a field that is read is put into the record, once. -/
lemma membersInto_field {name : StringDraft} {k : String} (hk : name.read = .ok k)
    {f : Field α} (hfield : fields.find? (·.name == k) = some f) {d : Draft}
    {rest : List (StringDraft × Draft)} {seen seen' : List String} {a a' : α} :
    membersInto fields room ((name, d) :: rest) seen a = .ok (seen', a') ↔
      k ∉ seen ∧ ∃ b, f.read room d a = .ok b ∧
        membersInto fields room rest (k :: seen) b = .ok (seen', a') := by
  simp only [membersInto, hk, bind_eq_ok_iff, Except.ok.injEq, exists_eq_left', hfield]
  by_cases hseen : k ∈ seen <;> simp [hseen, bind_eq_ok_iff]

lemma membersInto_cons {name : String} {f : Field α}
    (hfield : fields.find? (·.name == name) = some f) {d : Draft}
    {rest : List (StringDraft × Draft)} {seen : List String} {a b : α} (hseen : name ∉ seen)
    (hread : f.read room d a = .ok b) :
    membersInto fields room ((.ofString name, d) :: rest) seen a =
      membersInto fields room rest (name :: seen) b := by
  have hseen' : seen.contains name = false := by simpa using hseen
  rw [membersInto, StringDraft.read_ofString]
  simp only [bind, Except.bind, hfield, hseen', hread]
  rfl

/-- That the parts of `a'` are what some members say, where the record is `a` before and the fields
of `seen` have been read. -/
def Layout.Says (layout : Layout fields room) (seen : List String) (ms : List (String × Json))
    (a a' : α) : Prop :=
  ∀ p ∈ layout.parts, ReadFrom p.Gives (p.get a) (valuesOf p.field.name ms) (p.get a') ∧
    (p.field.name ∈ seen → valuesOf p.field.name ms = [])

/-- **One member** says of the part of its field what the field gives, and nothing of the others. -/
lemma Layout.says_cons_iff (layout : Layout fields room) {k : String} {f : Field α}
    (hfield : fields.find? (·.name == k) = some f) {d : Draft} {v : Json} (hv : d.value? = some v)
    {seen : List String} {ms : List (String × Json)} {a a' : α} :
    layout.Says seen ((k, v) :: ms) a a' ↔
      k ∉ seen ∧ ∃ b, f.read room d a = .ok b ∧ layout.Says (k :: seen) ms b a' := by
  obtain rfl : f.name = k := by simpa using List.find?_some hfield
  have hmem : f ∈ fields := List.mem_of_find?_eq_some hfield
  constructor
  · intro h
    obtain ⟨p, hp, rfl⟩ := layout.exists_part hmem
    have hself := h p hp
    simp only [valuesOf_cons_self, readFrom_cons_iff, reduceCtorEq, imp_false] at hself
    obtain ⟨⟨-, hgives⟩, hseen⟩ := hself
    obtain ⟨b, hread, -⟩ := p.complete hv hgives a
    -- The field reads its own part of the record; what is left of the members says nothing of it,
    -- so that part stays, and it frames every other part.
    refine ⟨hseen, b, hread, fun q hq => ?_⟩
    obtain ⟨hfrom, hnil⟩ := h q hq
    by_cases hname : p.field.name = q.field.name
    · rw [hname, valuesOf_cons_self, readFrom_cons_iff] at hfrom
      obtain ⟨hrest, hgives⟩ := hfrom
      have hget := q.get_eq hv (q.field_eq (hname ▸ hfield) ▸ hread) hgives
      rw [hrest]
      exact ⟨readFrom_nil_iff.2 hget.symm, fun _ => rfl⟩
    · have hframe : q.get b = q.get a := q.frame p.field hmem hname (q.get a) d a b rfl hread
      rw [valuesOf_cons_of_ne hname] at hfrom hnil
      refine ⟨hframe ▸ hfrom, fun h => hnil ((List.mem_cons.1 h).resolve_left ?_)⟩
      exact Ne.symm hname
  · rintro ⟨hseen, b, hread, h⟩ p hp
    obtain ⟨hfrom, hnil⟩ := h p hp
    by_cases hname : f.name = p.field.name
    · rw [hname] at hnil hseen hfield
      have hrest := hnil (List.mem_cons_self ..)
      have hsound := p.sound hv ((p.field_eq hfield).symm ▸ hread)
      rw [hrest, readFrom_nil_iff] at hfrom
      rw [hname, valuesOf_cons_self, hrest, readFrom_cons_iff]
      exact ⟨⟨rfl, hfrom ▸ hsound⟩, fun h => absurd h hseen⟩
    · have hframe : p.get b = p.get a := p.frame f hmem hname (p.get a) d a b rfl hread
      rw [valuesOf_cons_of_ne hname]
      exact ⟨hframe ▸ hfrom, fun h => hnil (List.mem_cons_of_mem _ h)⟩

/-- **Members are read** if and only if each part is what those of its name say, and none of them
has been read before. -/
theorem membersInto_iff (layout : Layout fields room) {members : List (StringDraft × Draft)}
    {ms : List (String × Json)} (hms : memberValues? members = some ms) (seen : List String)
    (a a' : α) :
    (∃ seen', membersInto fields room members seen a = .ok (seen', a')) ↔
      layout.Says seen ms a a' := by
  induction members generalizing ms seen a with
  | nil =>
    obtain rfl := Option.some.inj hms
    constructor
    · rintro ⟨seen', h⟩ p -
      obtain ⟨-, rfl⟩ := Prod.mk.inj (Except.ok.inj h)
      exact ⟨.left_out, fun _ => rfl⟩
    · intro h
      obtain rfl : a' = a := layout.ext fun p hp => readFrom_nil_iff.1 (h p hp).1
      exact ⟨seen, rfl⟩
  | cons m members ih =>
    obtain ⟨name, d⟩ := m
    obtain ⟨k, v, ns, hk, hv, hns, rfl⟩ := memberValues?_cons hms
    cases hfield : fields.find? (·.name == k) with
    | none =>
      -- A member no field has the name of is skipped, and no part of the layout looks at it.
      simp only [membersInto_other hk hfield hv, ih hns]
      refine forall₂_congr fun p _ => ?_
      have hne : k ≠ p.field.name := by
        rintro rfl
        simp [p.found] at hfield
      rw [valuesOf_cons_of_ne hne]
    | some f =>
      rw [layout.says_cons_iff hfield hv]
      simp only [membersInto_field hk hfield, ← ih hns]
      grind

lemma mem_seen_iff {name : String} (hname : (fields.find? (·.name == name)).isSome)
    {members : List (StringDraft × Draft)} {ms : List (String × Json)}
    (hms : memberValues? members = some ms) {seen seen' : List String} {a a' : α}
    (h : membersInto fields room members seen a = .ok (seen', a')) :
    name ∈ seen' ↔ name ∈ seen ∨ valuesOf name ms ≠ [] := by
  induction members generalizing ms seen a with
  | nil =>
    obtain rfl := Option.some.inj hms
    obtain ⟨rfl, -⟩ := Prod.mk.inj (Except.ok.inj h)
    simp [valuesOf]
  | cons m members ih =>
    obtain ⟨n, d⟩ := m
    obtain ⟨k, v, ns, hk, hv, hns, rfl⟩ := memberValues?_cons hms
    cases hfield : fields.find? (·.name == k) with
    | none =>
      rw [membersInto_other hk hfield hv] at h
      have hne : k ≠ name := by
        rintro rfl
        simp [hfield] at hname
      rw [ih hns h, valuesOf_cons_of_ne hne]
    | some f =>
      obtain ⟨-, b, -, hrest⟩ := (membersInto_field hk hfield).1 h
      rw [ih hns hrest, List.mem_cons]
      by_cases hne : k = name
      · subst hne
        simp [valuesOf_cons_self]
      · simp [valuesOf_cons_of_ne hne, Ne.symm hne]

/-- No field is missing in the end if and only if those that are required are among the members. -/
lemma find?_missing_eq_none_iff (hfound : ∀ f ∈ fields, fields.find? (·.name == f.name) = some f)
    {members : List (StringDraft × Draft)} {ms : List (String × Json)}
    (hms : memberValues? members = some ms) {seen : List String} {a a' : α}
    (h : membersInto fields room members [] a = .ok (seen, a')) :
    (fields.find? fun f => f.presence = .required ∧ !seen.contains f.name) = none ↔
      ∀ f ∈ fields, f.presence = .required → valuesOf f.name ms ≠ [] := by
  rw [List.find?_eq_none]
  refine forall₂_congr fun f hf => ?_
  have hseen := mem_seen_iff (Option.isSome_iff_exists.2 ⟨f, hfound f hf⟩) hms h
  simp only [List.not_mem_nil, false_or] at hseen
  simp [hseen]

/-! ## Whole records -/

/-- The members that a value gives of a record: those of an object, or the items of an array by the
names of the fields, where only fields with a default may be left out. -/
def membersOf? (fields : List (Field α)) : Json → Option (List (String × Json))
  | .object members => some members
  | .array items =>
    if items.length ≤ fields.length ∧ ∀ f ∈ fields.drop items.length, f.presence = .defaulted then
      some ((fields.map (·.name)).zip items)
    else none
  | _ => none

/-- The items of an array as members by the names of the fields. -/
def namedItems (fields : List (Field α)) (ds : List Draft) : List (StringDraft × Draft) :=
  List.zipWith (fun f d => (StringDraft.ofString f.name, d)) fields ds

lemma memberValues?_namedItems (fs : List (Field α)) {ds : List Draft} {vs : List Json}
    (h : itemValues? ds = some vs) :
    memberValues? (namedItems fs ds) = some ((fs.map (·.name)).zip vs) := by
  induction fs generalizing ds vs with
  | nil => rfl
  | cons f fs ih =>
    cases ds with
    | nil =>
      obtain rfl := Option.some.inj h
      rfl
    | cons d ds =>
      obtain ⟨v, ws, hv, hws, rfl⟩ := itemValues?_cons h
      have hrest : memberValues? (List.zipWith _ fs ds) = _ := ih hws
      simp [namedItems, memberValues?, hv, hrest, Except.toOption]

/-- **Items are read** like the members of the names of the fields. -/
lemma itemsInto_iff {record : String} {all : Nat} {fs : List (Field α)}
    (hfound : ∀ f ∈ fs, fields.find? (·.name == f.name) = some f)
    (hnodup : (fs.map (·.name)).Nodup) {ds : List Draft} {seen : List String}
    (hseen : ∀ f ∈ fs, f.name ∉ seen) {done : Nat} {a a' : α} :
    itemsInto record room all .closed fs ds done a = .ok a' ↔
      (ds.length ≤ fs.length ∧ ∀ f ∈ fs.drop ds.length, f.presence = .defaulted) ∧
        ∃ seen', membersInto fields room (namedItems fs ds) seen a = .ok (seen', a') := by
  induction fs generalizing ds seen done a with
  | nil =>
    cases ds with
    | nil => simp [itemsInto, namedItems, membersInto]
    | cons => simp [itemsInto, malformed]
  | cons f fs ih =>
    obtain ⟨hf, hfs⟩ := List.forall_mem_cons.1 hfound
    obtain ⟨hname, hnodup⟩ := List.nodup_cons.1 hnodup
    obtain ⟨hunseen, hseen⟩ := List.forall_mem_cons.1 hseen
    cases ds with
    | nil =>
      -- No item is left: the fields behind this one are given nothing either.
      have hrest : itemsInto record room all .closed fs [] (done + 1) a = .ok a' ↔ _ :=
        ih hfs hnodup hseen
      simp only [itemsInto, Closing.check, bind_eq_ok_iff, List.length_nil, List.drop_zero,
        List.forall_mem_cons, Nat.zero_le, true_and]
      by_cases hdefault : f.presence = .defaulted <;> simp [hdefault, hrest, namedItems]
    | cons d ds =>
      -- The item is read as a member under the field's name, which no later item is read under.
      have hseen' : ∀ g ∈ fs, g.name ∉ f.name :: seen := by
        intro g hg h
        rcases List.mem_cons.1 h with heq | h
        · exact hname (List.mem_map.2 ⟨g, hg, heq⟩)
        · exact hseen g hg h
      have hnamed : namedItems (f :: fs) (d :: ds) = (.ofString f.name, d) :: namedItems fs ds :=
        rfl
      simp only [itemsInto, bind_eq_ok_iff, ih hfs hnodup hseen', hnamed,
        membersInto_field (StringDraft.read_ofString f.name) hf, hunseen, not_false_eq_true,
        true_and, List.length_cons, Nat.succ_le_succ_iff, List.drop_succ_cons]
      grind

lemma valuesOf_zip_ne_nil {fs : List (Field α)} {items : List Json}
    (h : ∀ f ∈ fs.drop items.length, f.presence = .defaulted) {f : Field α} (hf : f ∈ fs)
    (hpresence : f.presence ≠ .defaulted) :
    valuesOf f.name ((fs.map (·.name)).zip items) ≠ [] := by
  induction fs generalizing items with
  | nil => simp at hf
  | cons g fs ih =>
    cases items with
    | nil => exact absurd (h f hf) hpresence
    | cons v items =>
      rw [List.map_cons, List.zip_cons_cons]
      by_cases hname : g.name = f.name
      · rw [hname, valuesOf_cons_self]
        exact List.cons_ne_nil _ _
      · rw [valuesOf_cons_of_ne hname]
        refine ih h ((List.mem_cons.1 hf).resolve_left ?_)
        rintro rfl
        exact hname rfl

/-- **A record is read** from an object or an array if and only if its parts are what the members
say, each field there at most once, and those that are required are there. -/
theorem exact_fields (layout : Layout fields room) (hnodup : (fields.map (·.name)).Nodup)
    (record : String) (start : α) :
    (Reader.fields record fields start).Exact (room + 1) fun v a =>
      ∃ ms, membersOf? fields v = some ms ∧ layout.Says [] ms start a ∧
        ∀ f ∈ fields, f.presence = .required → valuesOf f.name ms ≠ [] := by
  have hfound : ∀ f ∈ fields, fields.find? (·.name == f.name) = some f := by
    intro f hf
    obtain ⟨p, -, rfl⟩ := layout.exists_part hf
    exact p.found
  intro d v hd a
  cases standsFor_of_value? hd with
  | @array ds vs hds =>
    have hunseen : ∀ f ∈ fields, f.name ∉ ([] : List String) := by simp
    have hitems : itemsInto record room fields.length .closed fields ds 0 start = .ok a ↔ _ :=
      itemsInto_iff hfound hnodup hunseen
    rw [membersInto_iff layout (memberValues?_namedItems fields hds),
      ← length_of_itemValues? hds] at hitems
    simp only [Reader.fields, hitems, membersOf?]
    split
    case isTrue hform =>
      have hrequired : ∀ f ∈ fields, f.presence = .required →
          valuesOf f.name ((fields.map (·.name)).zip vs) ≠ [] := fun f hf h =>
        valuesOf_zip_ne_nil hform.2 hf (by simp [h])
      simp only [Option.some.injEq, exists_eq_left', and_iff_right hform,
        and_iff_left hrequired]
    case isFalse => simp [*]
  | @object members ms hms =>
    simp only [Reader.fields, membersOf?, Option.some.injEq, exists_eq_left',
      ← membersInto_iff layout hms]
    constructor
    · intro h
      obtain ⟨⟨seen, b⟩, hmembers, h⟩ := exists_of_bind_eq_ok h
      obtain ⟨-, -, h⟩ := exists_of_bind_eq_ok h
      split at h
      case h_1 => simp at h
      case h_2 hmissing =>
        obtain rfl := Except.ok.inj h
        exact ⟨⟨seen, hmembers⟩, (find?_missing_eq_none_iff hfound hms hmembers).1 hmissing⟩
    · rintro ⟨⟨seen, hmembers⟩, hrequired⟩
      have hmissing := (find?_missing_eq_none_iff hfound hms hmembers).2 hrequired
      rw [hmembers]
      simp only [bind, Except.bind, Closing.check, hmissing]
      rfl
  | _ => simp [Reader.fields, membersOf?, mismatch_ne_ok]

end Parts

end ComponentQuery.Json
