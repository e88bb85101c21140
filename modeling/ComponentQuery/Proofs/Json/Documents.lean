import ComponentQuery.Proofs.Json.Validity

/-!
# Documents

A text that is JSON to its end stands for a value, `ofText?`.  That value has all members of an
object in the order in which they are written, those of one name among them.  A text does not stand
for a value if a string in it has half a pair of surrogates or a number in it is too large, since
neither is then a value at all.  Every value whose numbers are valid is that of its own text,
`ofText?_text`.

What readers do with a draft can be said of the value that it stands for.  A value that nobody wants
is passed over, `ignored_of_value?`.  A value that is read as it stands comes out with the members
of each object sorted, `canonical`, if there is room for its brackets, and otherwise counts as
malformed: `value_of_value?`.
-/

namespace ComponentQuery.Json

/-! ## The value of a text -/

mutual

/-- The value that a draft stands for, if nothing in it is broken. -/
def Draft.value? : Draft → Option Json
  | .null => some .null
  | .boolean b => some (.boolean b)
  | .number n => n.read.toOption.map .number
  | .string s => s.read.toOption.map .string
  | .array items .closed => (itemValues? items).map .array
  | .object members .closed => (memberValues? members).map .object
  | _ => none

def itemValues? : List Draft → Option (List Json)
  | [] => some []
  | d :: ds => do
    let v ← d.value?
    let vs ← itemValues? ds
    return v :: vs

def memberValues? : List (StringDraft × Draft) → Option (List (String × Json))
  | [] => some []
  | (name, d) :: rest => do
    let k ← name.read.toOption
    let v ← d.value?
    let ms ← memberValues? rest
    return (k, v) :: ms

end

/-- The value that a text stands for, if it is JSON to its end. -/
def ofText? (text : String) : Option Json :=
  let (draft, more) := Draft.ofText text.toList
  if more then none else draft.value?

lemma read_eq_of_toOption {ε α : Type} {x : Except ε α} {a : α} (h : x.toOption = some a) :
    x = .ok a := by
  cases x with
  | error e => simp [Except.toOption] at h
  | ok b => exact congrArg Except.ok (Option.some.inj h)

lemma itemValues?_cons {d : Draft} {ds : List Draft} {vs : List Json}
    (h : itemValues? (d :: ds) = some vs) :
    ∃ v ws, d.value? = some v ∧ itemValues? ds = some ws ∧ vs = v :: ws := by
  rw [itemValues?] at h
  obtain ⟨v, hv, h⟩ := Option.bind_eq_some_iff.1 h
  obtain ⟨ws, hws, h⟩ := Option.bind_eq_some_iff.1 h
  exact ⟨v, ws, hv, hws, (Option.some.inj h).symm⟩

lemma length_of_itemValues? {ds : List Draft} {vs : List Json} (h : itemValues? ds = some vs) :
    vs.length = ds.length := by
  induction ds generalizing vs with
  | nil => exact Option.some.inj h ▸ rfl
  | cons d ds ih =>
    obtain ⟨v, ws, -, hws, rfl⟩ := itemValues?_cons h
    rw [List.length_cons, List.length_cons, ih hws]

lemma memberValues?_cons {name : StringDraft} {d : Draft} {rest : List (StringDraft × Draft)}
    {ms : List (String × Json)} (h : memberValues? ((name, d) :: rest) = some ms) :
    ∃ k v ns, name.read = .ok k ∧ d.value? = some v ∧ memberValues? rest = some ns ∧
      ms = (k, v) :: ns := by
  rw [memberValues?] at h
  obtain ⟨k, hk, h⟩ := Option.bind_eq_some_iff.1 h
  obtain ⟨v, hv, h⟩ := Option.bind_eq_some_iff.1 h
  obtain ⟨ns, hns, h⟩ := Option.bind_eq_some_iff.1 h
  exact ⟨k, v, ns, read_eq_of_toOption hk, hv, hns, (Option.some.inj h).symm⟩

/-- What kinds of drafts stand for what kinds of values.  All brackets are closed. -/
inductive StandsFor : Draft → Json → Prop where
  | null : StandsFor .null .null
  | boolean (b : Bool) : StandsFor (.boolean b) (.boolean b)
  | number {d : NumberDraft} {n : Number} (h : d.read = .ok n) : StandsFor (.number d) (.number n)
  | string {d : StringDraft} {s : String} (h : d.read = .ok s) : StandsFor (.string d) (.string s)
  | array {ds : List Draft} {vs : List Json} (h : itemValues? ds = some vs) :
      StandsFor (.array ds .closed) (.array vs)
  | object {members : List (StringDraft × Draft)} {ms : List (String × Json)}
      (h : memberValues? members = some ms) : StandsFor (.object members .closed) (.object ms)

lemma standsFor_of_value? {d : Draft} {v : Json} (h : d.value? = some v) : StandsFor d v := by
  match d with
  | .null => exact Option.some.inj h ▸ .null
  | .boolean b => exact Option.some.inj h ▸ .boolean b
  | .number d =>
    obtain ⟨n, hn, rfl⟩ := Option.map_eq_some_iff.1 h
    exact .number (read_eq_of_toOption hn)
  | .string d =>
    obtain ⟨s, hs, rfl⟩ := Option.map_eq_some_iff.1 h
    exact .string (read_eq_of_toOption hs)
  | .array items .closed =>
    obtain ⟨vs, hvs, rfl⟩ := Option.map_eq_some_iff.1 h
    exact .array hvs
  | .object members .closed =>
    obtain ⟨ms, hms, rfl⟩ := Option.map_eq_some_iff.1 h
    exact .object hms
  | .array _ (.unclosed _) | .array _ (.comma _) | .object _ (.unclosed _)
  | .object _ (.comma _) | .halfNumber | .broken _ => simp [Draft.value?] at h

lemma exists_of_ofText? {text : String} {v : Json} (h : ofText? text = some v) :
    ∃ d, Draft.ofText text.toList = (d, false) ∧ d.value? = some v := by
  unfold ofText? at h
  obtain ⟨⟨d, more⟩, hd⟩ : ∃ read, Draft.ofText text.toList = read := ⟨_, rfl⟩
  cases more with
  | true => simp [hd] at h
  | false => exact ⟨d, hd, by simpa [hd] using h⟩

/-! ## Every value has a text -/

mutual

/-- All numbers of a value are valid. -/
def NumbersValid : Json → Prop
  | .number n => n.Valid
  | .array items => NumbersValidItems items
  | .object members => NumbersValidMembers members
  | _ => True

def NumbersValidItems : List Json → Prop
  | [] => True
  | v :: rest => NumbersValid v ∧ NumbersValidItems rest

def NumbersValidMembers : List (String × Json) → Prop
  | [] => True
  | (_, v) :: rest => NumbersValid v ∧ NumbersValidMembers rest

end

lemma value?_number {n : Number} (h : n.Valid) : n.draft.value? = some (.number n) := by
  match n, h with
  | .integer n, h => simp [Number.draft, Draft.value?, read_integer h, Except.toOption]
  | .double _, ⟨s, q, hq, rfl⟩ =>
    simp [Number.draft, Draft.value?, read_double s hq, Except.toOption]

mutual

theorem value?_draft (v : Json) (hv : v.NumbersValid) : v.draft.value? = some v := by
  match v with
  | .null | .boolean _ => rfl
  | .number n => exact value?_number hv
  | .string s => simp [draft, Draft.value?, Except.toOption]
  | .array items => rw [draft, Draft.value?, itemValues?_itemsDraft items hv, Option.map_some]
  | .object members =>
    rw [draft, Draft.value?, memberValues?_membersDraft members hv, Option.map_some]

theorem itemValues?_itemsDraft (items : List Json) (hv : NumbersValidItems items) :
    itemValues? (itemsDraft items) = some items := by
  match items, hv with
  | [], _ => rfl
  | v :: items, ⟨hv, hitems⟩ =>
    rw [itemsDraft, itemValues?, value?_draft v hv, itemValues?_itemsDraft items hitems]
    rfl

theorem memberValues?_membersDraft (members : List (String × Json))
    (hv : NumbersValidMembers members) : memberValues? (membersDraft members) = some members := by
  match members, hv with
  | [], _ => rfl
  | (k, v) :: members, ⟨hv, hmembers⟩ =>
    rw [membersDraft, memberValues?, StringDraft.read_ofString, value?_draft v hv,
      memberValues?_membersDraft members hmembers]
    rfl

end

/-- **Every value whose numbers are valid is that of its text.** -/
theorem ofText?_text {v : Json} (hv : v.NumbersValid) : ofText? v.text = some v := by
  simp only [ofText?, text, String.toList_ofList, ofText_chars, value?_draft v hv,
    Bool.false_eq_true, if_false]

/-! ## Nesting -/

lemma depth_le_depthItems {items : List Json} {v : Json} (h : v ∈ items) :
    v.depth ≤ depthItems items := by
  induction items with
  | nil => simp at h
  | cons w items ih =>
    rw [depthItems]
    rcases List.mem_cons.1 h with rfl | h
    · exact Nat.le_max_left ..
    · exact (ih h).trans (Nat.le_max_right ..)

lemma depth_le_depthMembers {members : List (String × Json)} {m : String × Json}
    (h : m ∈ members) : m.2.depth ≤ depthMembers members := by
  induction members with
  | nil => simp at h
  | cons n members ih =>
    obtain ⟨k, w⟩ := n
    rw [depthMembers]
    rcases List.mem_cons.1 h with rfl | h
    · exact Nat.le_max_left ..
    · exact (ih h).trans (Nat.le_max_right ..)

/-! ## Values that nobody wants -/

lemma StringDraft.ending_of_read {s : StringDraft} {t : String} (h : s.read = .ok t) :
    s.ending = none := by
  unfold StringDraft.read at h
  split at h
  · simp [malformed] at h
  · split at h
    · simp at h
    · assumption

mutual

lemma firstBreak?_of_value? (d : Draft) {v : Json} (h : d.value? = some v) :
    d.firstBreak? = none := by
  match d, standsFor_of_value? h with
  | _, .null | _, .boolean _ | _, .number _ => rfl
  | .string s, .string hs => exact StringDraft.ending_of_read hs
  | .array ds .closed, .array hds => exact itemsBreak?_of_itemValues? ds hds
  | .object members .closed, .object hms => exact membersBreak?_of_memberValues? members hms

lemma itemsBreak?_of_itemValues? (ds : List Draft) {vs : List Json}
    (h : itemValues? ds = some vs) : itemsBreak? ds .closed = none := by
  match ds with
  | [] => rfl
  | d :: ds =>
    obtain ⟨v, ws, hv, hws, -⟩ := itemValues?_cons h
    simp only [itemsBreak?, firstBreak?_of_value? d hv, itemsBreak?_of_itemValues? ds hws]

lemma membersBreak?_of_memberValues? (members : List (StringDraft × Draft))
    {ms : List (String × Json)} (h : memberValues? members = some ms) :
    membersBreak? members .closed = none := by
  match members with
  | [] => rfl
  | (name, d) :: rest =>
    obtain ⟨k, v, ns, hk, hv, hns, -⟩ := memberValues?_cons h
    simp only [membersBreak?, StringDraft.ending_of_read hk, firstBreak?_of_value? d hv,
      membersBreak?_of_memberValues? rest hns]

end

/-- **A value that nobody wants is passed over.** -/
lemma ignored_of_value? {d : Draft} {v : Json} (h : d.value? = some v) : ignored d = .ok () := by
  rw [ignored, firstBreak?_of_value? d h]

/-! ## Values that are read -/

mutual

/-- A value with the members of each object in the order of their names, of which the last of a
name counts. -/
def canonical : Json → Json
  | .array items => .array (canonicalItems items)
  | .object members => ofMembers (canonicalMembers members)
  | v => v

def canonicalItems : List Json → List Json
  | [] => []
  | v :: rest => canonical v :: canonicalItems rest

def canonicalMembers : List (String × Json) → List (String × Json)
  | [] => []
  | (k, v) :: rest => (k, canonical v) :: canonicalMembers rest

end

mutual

/-- **A value is read if there is room for its brackets.** -/
theorem value_of_value? (d : Draft) (room : Nat) {v : Json} (h : d.value? = some v) :
    Reader.value room d = if v.depth ≤ room then .ok v.canonical else malformed := by
  match d, standsFor_of_value? h with
  | _, .null | _, .boolean _ => simp [Reader.value, depth, canonical]
  | .number _, .number hn => simp [Reader.value, depth, canonical, hn, Except.map]
  | .string _, .string hs => simp [Reader.value, depth, canonical, hs, Except.map]
  | .array ds .closed, .array hds =>
    cases room with
    | zero => simp [Reader.value, depth]
    | succ room =>
      rw [Reader.value, mapM_value_of_itemValues? ds room hds]
      simp only [depth, canonical, Nat.succ_le_succ_iff]
      split <;> rfl
  | .object members .closed, .object hms =>
    cases room with
    | zero => simp [Reader.value, depth]
    | succ room =>
      rw [Reader.value, mapM_value_of_memberValues? members room hms]
      simp only [depth, canonical, Nat.succ_le_succ_iff]
      split <;> rfl

theorem mapM_value_of_itemValues? (ds : List Draft) (room : Nat) {vs : List Json}
    (h : itemValues? ds = some vs) :
    ds.mapM (Reader.value room) =
      if depthItems vs ≤ room then .ok (canonicalItems vs) else malformed := by
  match ds with
  | [] =>
    obtain rfl := Option.some.inj h
    simp [depthItems, canonicalItems]
    rfl
  | d :: ds =>
    obtain ⟨v, ws, hv, hws, rfl⟩ := itemValues?_cons h
    rw [List.mapM_cons, value_of_value? d room hv, mapM_value_of_itemValues? ds room hws]
    simp only [depthItems, canonicalItems, Nat.max_le]
    by_cases hdepth : v.depth ≤ room <;> by_cases hdepths : depthItems ws ≤ room <;>
      simp [hdepth, hdepths] <;> rfl

theorem mapM_value_of_memberValues? (members : List (StringDraft × Draft)) (room : Nat)
    {ms : List (String × Json)} (h : memberValues? members = some ms) :
    (members.mapM fun (name, d) => do
      let name ← name.read
      let v ← Reader.value room d
      return (name, v)) =
      if depthMembers ms ≤ room then .ok (canonicalMembers ms) else malformed := by
  match members with
  | [] =>
    obtain rfl := Option.some.inj h
    simp [depthMembers, canonicalMembers]
    rfl
  | (name, d) :: rest =>
    obtain ⟨k, v, ns, hk, hv, hns, rfl⟩ := memberValues?_cons h
    rw [List.mapM_cons, mapM_value_of_memberValues? rest room hns]
    simp only [hk, value_of_value? d room hv, depthMembers, canonicalMembers, Nat.max_le]
    by_cases hdepth : v.depth ≤ room <;> by_cases hdepths : depthMembers ns ≤ room <;>
      simp [hdepth, hdepths] <;> rfl

end

end ComponentQuery.Json
