import ComponentQuery.Component.Serial
import ComponentQuery.Proofs.Json.Records

/-!
# What snapshots are loaded from

A tree is loaded from a value that describes it.  `HasParts` says what an element has to be: an
object in which the tag and the identity are there once, the state, the children and the shadow at
most once, and whatever else; or an array of two to five items that are those fields in their order.
`Describes` says it of a whole tree, whose elements at all depths are such, and what the tree is
then.

`exact_readerWithin` is the result for drafts, by induction on the levels of the tree: a reader
gives a tree if and only if the value describes it and there is room for the brackets, which those
of members that are passed over do not count for.  `load_iff` is the result for texts.  Loading
fails as a whole when some element in the tree, at any depth, is not what an element has to be:
`exists_describes_iff`.
-/

namespace ComponentQuery.Snapshot

open Json (valuesOf membersOf? ReadFrom readFrom_nil_iff)

/-! ## Elements -/

/-- The names of the fields of an element, in their order. -/
def fieldNames : List String := ["tag", "id", "component", "children", "shadow"]

/-- The members of an element: those of an object, or the items of an array of two to five. -/
def elementMembers? : Json → Option (List (String × Json))
  | .object members => some members
  | .array items =>
    if 2 ≤ items.length ∧ items.length ≤ 5 then some (fieldNames.zip items) else none
  | _ => none

/-- What an element consists of. -/
structure Parts where
  tag : String
  id : String
  state : Option Json
  children : Option (List Json)
  shadow : Option (List Json)

/-- A state may be left out or be `null`, which is the same. -/
inductive StateOf : List Json → Option Json → Prop where
  | left_out : StateOf [] none
  | null : StateOf [.null] none
  | state {v : Json} (h : v ≠ .null) : StateOf [v] (some v)

/-- A list may be left out, and is an array otherwise. -/
inductive ItemsOf : List Json → Option (List Json) → Prop where
  | left_out : ItemsOf [] none
  | array (vs : List Json) : ItemsOf [.array vs] (some vs)

/-- The parts of an element are what its members say.  Other members do not matter. -/
structure Parts.Among (p : Parts) (members : List (String × Json)) : Prop where
  tag : valuesOf "tag" members = [.string p.tag]
  id : valuesOf "id" members = [.string p.id]
  state : StateOf (valuesOf "component" members) p.state
  children : ItemsOf (valuesOf "children" members) p.children
  shadow : ItemsOf (valuesOf "shadow" members) p.shadow

/-- A value is an element of the given parts. -/
def HasParts (v : Json) (p : Parts) : Prop :=
  ∃ members, elementMembers? v = some members ∧ p.Among members

/-- The lists of an element. -/
def Parts.lists (p : Parts) : List (List Json) := p.children.toList ++ p.shadow.toList

/-- The items of the lists of an element, which are to be elements too. -/
def Parts.items (p : Parts) : List Json := p.lists.flatten

/-- A value describes a tree.  Lists that are left out are empty. -/
inductive Describes : Json → Snapshot → Prop where
  | element {v : Json} {p : Parts} {children shadow : List Snapshot} (hv : HasParts v p)
      (hchildren : List.Forall₂ Describes (p.children.getD []) children)
      (hshadow : List.Forall₂ Describes (p.shadow.getD []) shadow) :
      Describes v ⟨p.tag, p.id, p.state.map Json.canonical, children, shadow⟩

/-- A value stands in a tree where an element has to be: it is the tree, or in one of its lists. -/
inductive Within : Json → Json → Prop where
  | self (v : Json) : Within v v
  | item {v w x : Json} {p : Parts} (hv : HasParts v p) (hw : w ∈ p.items) (hx : Within w x) :
      Within v x

/-- There is room for the brackets of a tree: those of each element, of its lists and of its
state. -/
inductive HasRoom : Nat → Json → Prop where
  | element {room : Nat} {v : Json} {p : Parts} (hv : HasParts v p)
      (hstate : ∀ state ∈ p.state, state.depth ≤ room) (hlists : ∀ ws ∈ p.lists, 0 < room)
      (hitems : ∀ w ∈ p.items, HasRoom (room - 1) w) : HasRoom (room + 1) v

/-! ## Parts are unique -/

lemma StateOf.unique {vs : List Json} {a b : Option Json} (ha : StateOf vs a) (hb : StateOf vs b) :
    a = b := by
  cases ha <;> cases hb <;> simp_all

lemma ItemsOf.unique {vs : List Json} {a b : Option (List Json)} (ha : ItemsOf vs a)
    (hb : ItemsOf vs b) : a = b := by
  cases ha <;> cases hb <;> rfl

lemma HasParts.unique {v : Json} {p q : Parts} (hp : HasParts v p) (hq : HasParts v q) : p = q := by
  obtain ⟨members, hmembers, hp⟩ := hp
  obtain ⟨members', hmembers', hq⟩ := hq
  obtain rfl := Option.some.inj (hmembers.symm.trans hmembers')
  have htag := hp.tag.symm.trans hq.tag
  have hid := hp.id.symm.trans hq.id
  have hstate := hp.state.unique hq.state
  have hchildren := hp.children.unique hq.children
  have hshadow := hp.shadow.unique hq.shadow
  cases p
  cases q
  simp_all

/-! ## Reading one element -/

section Element

variable {read : Json.Reader (List Snapshot)} {room : Nat} {Gives : Json → List Snapshot → Prop}

lemma fieldsWith_frame {β : Type} {name : String} {get : Snapshot → β}
    (htag : "tag" ≠ name → ∀ tag s, get { s with tag := tag } = get s)
    (hid : "id" ≠ name → ∀ id s, get { s with id := id } = get s)
    (hstate : "component" ≠ name → ∀ state s, get { s with component := state } = get s)
    (hchildren : "children" ≠ name → ∀ ss s, get { s with children := ss } = get s)
    (hshadow : "shadow" ≠ name → ∀ ss s, get { s with shadow := ss } = get s) :
    ∀ g ∈ fieldsWith read, g.name ≠ name → ∀ x, g.Keeps room (get · = x) := by
  simp only [fieldsWith, List.forall_mem_cons, List.not_mem_nil, false_imp_iff, implies_true,
    and_true]
  refine ⟨fun h x => ?_, fun h x => ?_, fun h x => ?_, fun h x => ?_, fun h x => ?_⟩
  · exact Json.Field.keeps_of fun _ b a _ ha => (htag h b a).trans ha
  · exact Json.Field.keeps_of fun _ b a _ ha => (hid h b a).trans ha
  · exact Json.Field.keeps_of fun _ b a _ ha => (hstate h b a).trans ha
  · exact Json.Field.keeps_of fun _ b a _ ha => (hchildren h b a).trans ha
  · exact Json.Field.keeps_of fun _ b a _ ha => (hshadow h b a).trans ha

/-- What the fields of an element are read into. -/
def layout (hread : read.Exact room Gives) : Json.Layout (fieldsWith read) room where
  parts :=
    [.of "tag" rfl (Json.exact_string room) (·.tag) (fun _ _ => rfl)
        (fieldsWith_frame (by simp) (by simp) (by simp) (by simp) (by simp)),
      .of "id" rfl (Json.exact_string room) (·.id) (fun _ _ => rfl)
        (fieldsWith_frame (by simp) (by simp) (by simp) (by simp) (by simp)),
      .of "component" rfl (Json.exact_value room).optional (·.component) (fun _ _ => rfl)
        (fieldsWith_frame (by simp) (by simp) (by simp) (by simp) (by simp)),
      .of "children" rfl hread (·.children) (fun _ _ => rfl)
        (fieldsWith_frame (by simp) (by simp) (by simp) (by simp) (by simp)),
      .of "shadow" rfl hread (·.shadow) (fun _ _ => rfl)
        (fieldsWith_frame (by simp) (by simp) (by simp) (by simp) (by simp))]
  covers := rfl
  ext := by
    intro a b h
    cases a
    cases b
    simp_all [Json.Part.of]

lemma membersOf?_fieldsWith (v : Json) : membersOf? (fieldsWith read) v = elementMembers? v := by
  cases v with
  | array items =>
    have hform : (items.length ≤ (fieldsWith read).length ∧
        ∀ f ∈ (fieldsWith read).drop items.length, f.presence = .defaulted) ↔
          2 ≤ items.length ∧ items.length ≤ 5 := by
      generalize items.length = n
      by_cases hn : n ≤ 5
      · interval_cases n <;> simp [fieldsWith, Json.Field.of]
      · have hlong : ¬ n ≤ (fieldsWith read).length := hn
        simp [hn, hlong]
    simp only [membersOf?, hform, elementMembers?]
    rfl
  | _ => rfl

lemma says_iff (hread : read.Exact room Gives) {ms : List (String × Json)} {s : Snapshot} :
    (layout hread).Says [] ms (leaf "" "") s ↔
      ReadFrom (fun v tag => v = .string tag) "" (valuesOf "tag" ms) s.tag ∧
        ReadFrom (fun v id => v = .string id) "" (valuesOf "id" ms) s.id ∧
        ReadFrom (Json.Nullable fun v w => v.depth ≤ room ∧ v.canonical = w) none
          (valuesOf "component" ms) s.component ∧
        ReadFrom Gives [] (valuesOf "children" ms) s.children ∧
        ReadFrom Gives [] (valuesOf "shadow" ms) s.shadow := by
  simp only [Json.Layout.Says, layout, List.forall_mem_cons, List.not_mem_nil, false_imp_iff,
    implies_true, and_true]
  rfl

lemma required_iff {ms : List (String × Json)} :
    (∀ f ∈ fieldsWith read, f.presence = .required → valuesOf f.name ms ≠ []) ↔
      valuesOf "tag" ms ≠ [] ∧ valuesOf "id" ms ≠ [] := by
  simp [fieldsWith, Json.Field.of]

lemma readFrom_string_iff {vs : List Json} {t : String} :
    ReadFrom (fun v t => v = .string t) "" vs t ∧ vs ≠ [] ↔ vs = [.string t] := by
  cases vs <;> simp [and_comm]

/-- A state that is read is left out, `null`, or a value that there is room for. -/
lemma readFrom_state_iff {vs : List Json} {x : Option Json} :
    ReadFrom (Json.Nullable fun v w => v.depth ≤ room ∧ v.canonical = w) none vs x ↔
      ∃ state, StateOf vs state ∧ (∀ v ∈ state, v.depth ≤ room) ∧
        x = state.map Json.canonical := by
  constructor
  · rintro (_ | ⟨_ | ⟨hne, hdepth, rfl⟩⟩)
    · exact ⟨none, .left_out, by simp, rfl⟩
    · exact ⟨none, .null, by simp, rfl⟩
    · exact ⟨some _, .state hne, by simpa using hdepth, rfl⟩
  · rintro ⟨state, h, hdepth, rfl⟩
    cases h with
    | left_out => exact .left_out
    | null => exact .read .null
    | state hne => exact .read (.value hne ⟨hdepth _ rfl, rfl⟩)

lemma readFrom_items_iff {R : Json → Snapshot → Prop} {vs : List Json} {ss : List Snapshot} :
    ReadFrom (fun v ss => 0 < room ∧ ∃ ws, v = .array ws ∧ List.Forall₂ R ws ss) [] vs ss ↔
      ∃ items, ItemsOf vs items ∧ (∀ ws ∈ items, 0 < room) ∧
        List.Forall₂ R (items.getD []) ss := by
  constructor
  · rintro (_ | ⟨hroom, ws, rfl, h⟩)
    · exact ⟨none, .left_out, by simp, .nil⟩
    · exact ⟨some ws, .array ws, fun _ _ => hroom, h⟩
  · rintro ⟨items, hitems, hroom, h⟩
    cases hitems with
    | left_out => exact readFrom_nil_iff.2 (List.forall₂_nil_left_iff.1 h)
    | array ws => exact .read ⟨hroom ws rfl, ws, rfl, h⟩

/-- **An element is read** if and only if it has its parts, there is room for them, and the items of
its lists are read. -/
lemma exact_element {read : Json.Reader Snapshot} {R : Json → Snapshot → Prop}
    (hread : read.Exact (room - 1) R) :
    (Json.Reader.fields "ComponentSnapshot" (fieldsWith (.list read)) (leaf "" "")).Exact
      (room + 1) fun v s => ∃ p, HasParts v p ∧ s.tag = p.tag ∧ s.id = p.id ∧
        s.component = p.state.map Json.canonical ∧ (∀ state ∈ p.state, state.depth ≤ room) ∧
        (∀ ws ∈ p.lists, 0 < room) ∧ List.Forall₂ R (p.children.getD []) s.children ∧
        List.Forall₂ R (p.shadow.getD []) s.shadow := by
  intro d v hd s
  rw [Json.exact_fields (layout hread.list) (by simp [fieldsWith, Json.Field.of]) _ _ d v hd s]
  simp only [membersOf?_fieldsWith, says_iff, required_iff, readFrom_state_iff, readFrom_items_iff]
  constructor
  · rintro ⟨ms, hms, ⟨htag, hid, ⟨state, hstate, hdepth, hs⟩, ⟨children, hchildren, hroom, hcs⟩,
      shadow, hshadow, hroom', hss⟩, htag', hid'⟩
    refine ⟨⟨s.tag, s.id, state, children, shadow⟩, ⟨ms, hms, readFrom_string_iff.1 ⟨htag, htag'⟩,
      readFrom_string_iff.1 ⟨hid, hid'⟩, hstate, hchildren, hshadow⟩, rfl, rfl, hs, hdepth,
      fun ws hws => ?_, hcs, hss⟩
    rcases List.mem_append.1 hws with h | h
    · exact hroom ws (Option.mem_toList.1 h)
    · exact hroom' ws (Option.mem_toList.1 h)
  · rintro ⟨p, ⟨ms, hms, hp⟩, htag, hid, hs, hdepth, hroom, hcs, hss⟩
    obtain ⟨htagFrom, htagThere⟩ := readFrom_string_iff.2 hp.tag
    obtain ⟨hidFrom, hidThere⟩ := readFrom_string_iff.2 hp.id
    have hroomOf : ∀ ws, ws ∈ p.children ∨ ws ∈ p.shadow → 0 < room := fun ws h =>
      hroom ws (List.mem_append.2 (h.imp Option.mem_toList.2 Option.mem_toList.2))
    exact ⟨ms, hms, ⟨htag ▸ htagFrom, hid ▸ hidFrom, ⟨_, hp.state, hdepth, hs⟩,
      ⟨_, hp.children, fun ws h => hroomOf ws (.inl h), hcs⟩,
      _, hp.shadow, fun ws h => hroomOf ws (.inr h), hss⟩, htagThere, hidThere⟩

end Element

/-! ## Reading trees -/

lemma mem_items_iff {p : Parts} {w : Json} :
    w ∈ p.items ↔ w ∈ p.children.getD [] ∨ w ∈ p.shadow.getD [] := by
  obtain ⟨tag, id, state, children, shadow⟩ := p
  cases children <;> cases shadow <;> simp [Parts.items, Parts.lists]

/-- **A tree is read** from a value if and only if the value describes it and there is room for its
brackets.  Each level of the tree takes at least one of them, so that the levels do not run out. -/
theorem exact_readerWithin {levels room : Nat} (h : room ≤ levels) :
    (readerWithin levels).Exact room fun v s => HasRoom room v ∧ Describes v s := by
  induction levels generalizing room with
  | zero =>
    obtain rfl : room = 0 := by omega
    refine fun d v _ s => ⟨fun h => by simp [readerWithin, Json.malformed] at h, ?_⟩
    rintro ⟨⟨⟩, -⟩
  | succ levels ih =>
    intro d v hd s
    cases room with
    | zero =>
      refine ⟨fun h => ?_, ?_⟩
      · obtain ⟨left, hleft, -⟩ := Json.fields_keeps h
        omega
      · rintro ⟨⟨⟩, -⟩
    | succ room =>
      -- An element with room to spare hands one level less to what it contains.
      have helement := exact_element (ih (by omega : room - 1 ≤ levels)) d v hd s
      rw [readerWithin, helement]
      simp only [List.forall₂_and_left]
      constructor
      · rintro ⟨p, hv, htag, hid, hs, hdepth, hroom, ⟨hchildrenRoom, hchildren⟩, hshadowRoom,
          hshadow⟩
        obtain ⟨tag, id, component, children, shadow⟩ := s
        obtain ⟨rfl, rfl, rfl⟩ : tag = p.tag ∧ id = p.id ∧
            component = p.state.map Json.canonical := ⟨htag, hid, hs⟩
        refine ⟨.element hv hdepth hroom fun w hw => ?_, .element hv hchildren hshadow⟩
        exact (mem_items_iff.1 hw).elim (hchildrenRoom w) (hshadowRoom w)
      · rintro ⟨⟨hv, hdepth, hlists, hitems⟩, ⟨hv', hchildren, hshadow⟩⟩
        obtain rfl := hv.unique hv'
        exact ⟨_, hv, rfl, rfl, rfl, hdepth, hlists,
          ⟨fun w hw => hitems w (mem_items_iff.2 (.inl hw)), hchildren⟩,
          fun w hw => hitems w (mem_items_iff.2 (.inr hw)), hshadow⟩

/-! ## Nesting -/

lemma depth_lt_of_mem_elementMembers? {v : Json} {members : List (String × Json)}
    (h : elementMembers? v = some members) {m : String × Json} (hm : m ∈ members) :
    m.2.depth < v.depth := by
  unfold elementMembers? at h
  split at h
  · obtain rfl := Option.some.inj h
    exact Nat.lt_succ_of_le (Json.depth_le_depthMembers hm)
  · split at h
    · obtain rfl := Option.some.inj h
      obtain ⟨-, hitem⟩ := List.of_mem_zip hm
      exact Nat.lt_succ_of_le (Json.depth_le_depthItems hitem)
    · simp at h
  · simp at h

lemma depth_lt_of_mem_valuesOf {v w : Json} {members : List (String × Json)}
    (h : elementMembers? v = some members) {name : String} (hw : w ∈ valuesOf name members) :
    w.depth < v.depth := by
  obtain ⟨m, hm, rfl⟩ := List.mem_map.1 hw
  exact depth_lt_of_mem_elementMembers? h (List.mem_of_mem_filter hm)

lemma StateOf.mem {vs : List Json} {x : Option Json} (h : StateOf vs x) : ∀ v ∈ x, v ∈ vs := by
  cases h <;> simp

lemma ItemsOf.array_mem {vs : List Json} {x : Option (List Json)} (h : ItemsOf vs x) :
    ∀ ws ∈ x, .array ws ∈ vs := by
  cases h <;> simp

section Depth

variable {v : Json} {p : Parts}

/-- An element has brackets, since its tag is in them. -/
lemma HasParts.depth_pos (h : HasParts v p) : 0 < v.depth := by
  obtain ⟨members, hmembers, hp⟩ := h
  exact Nat.zero_lt_of_lt (depth_lt_of_mem_valuesOf hmembers (hp.tag ▸ List.mem_singleton_self _))

lemma HasParts.depth_state_lt (h : HasParts v p) {state : Json} (hstate : state ∈ p.state) :
    state.depth < v.depth := by
  obtain ⟨members, hmembers, hp⟩ := h
  exact depth_lt_of_mem_valuesOf hmembers (hp.state.mem state hstate)

lemma HasParts.depth_list_lt (h : HasParts v p) {ws : List Json} (hws : ws ∈ p.lists) :
    (Json.array ws).depth < v.depth := by
  obtain ⟨members, hmembers, hp⟩ := h
  rcases List.mem_append.1 hws with hws | hws
  · exact depth_lt_of_mem_valuesOf hmembers (hp.children.array_mem ws (Option.mem_toList.1 hws))
  · exact depth_lt_of_mem_valuesOf hmembers (hp.shadow.array_mem ws (Option.mem_toList.1 hws))

/-- Between an element and the items of its lists are the brackets of the lists. -/
lemma HasParts.depth_item_lt (h : HasParts v p) {w : Json} (hw : w ∈ p.items) :
    w.depth + 1 < v.depth := by
  obtain ⟨ws, hws, hw⟩ := List.mem_flatten.1 hw
  have hitem : w.depth ≤ Json.depthItems ws := Json.depth_le_depthItems hw
  have hlist : Json.depthItems ws + 1 < v.depth := h.depth_list_lt hws
  omega

end Depth

/-! ## Trees that cannot be read -/

lemma exists_forall₂_iff {α β : Type} {R : α → β → Prop} {as : List α} :
    (∃ bs, List.Forall₂ R as bs) ↔ ∀ a ∈ as, ∃ b, R a b := by
  induction as with
  | nil => simp
  | cons a as ih => simp [List.forall₂_cons_left_iff, ← ih]

/-- A value describes a tree if it is an element and so are the items of its lists. -/
lemma exists_describes_step {v : Json} :
    (∃ s, Describes v s) ↔ ∃ p, HasParts v p ∧ ∀ w ∈ p.items, ∃ s, Describes w s := by
  constructor
  · rintro ⟨_, ⟨hv, hchildren, hshadow⟩⟩
    refine ⟨_, hv, fun w hw => ?_⟩
    rcases mem_items_iff.1 hw with hw | hw
    · exact exists_forall₂_iff.1 ⟨_, hchildren⟩ w hw
    · exact exists_forall₂_iff.1 ⟨_, hshadow⟩ w hw
  · rintro ⟨p, hv, hitems⟩
    obtain ⟨children, hchildren⟩ := exists_forall₂_iff.2 fun w hw =>
      hitems w (mem_items_iff.2 (.inl hw))
    obtain ⟨shadow, hshadow⟩ := exists_forall₂_iff.2 fun w hw =>
      hitems w (mem_items_iff.2 (.inr hw))
    exact ⟨_, .element hv hchildren hshadow⟩

/-- **A value describes a tree** if and only if every element in it is one, at any depth. -/
theorem exists_describes_iff {v : Json} :
    (∃ s, Describes v s) ↔ ∀ w, Within v w → ∃ p, HasParts w p := by
  constructor
  · intro h w hw
    induction hw with
    | self v =>
      obtain ⟨p, hv, -⟩ := exists_describes_step.1 h
      exact ⟨p, hv⟩
    | item hv hw _ ih =>
      obtain ⟨q, hv', hitems⟩ := exists_describes_step.1 h
      obtain rfl := hv.unique hv'
      exact ih (hitems _ hw)
  · intro h
    induction hdepth : v.depth using Nat.strongRecOn generalizing v with
    | ind depth ih =>
      obtain ⟨p, hv⟩ := h v (.self v)
      refine exists_describes_step.2 ⟨p, hv, fun w hw => ?_⟩
      have hlt := hv.depth_item_lt hw
      exact ih w.depth (by omega) (fun x hx => h x (.item hv hw hx)) rfl

lemma hasRoom_of_depth_le {v : Json} (h : ∃ s, Describes v s) {room : Nat}
    (hdepth : v.depth ≤ room) : HasRoom room v := by
  induction room using Nat.strongRecOn generalizing v with
  | ind room ih =>
    obtain ⟨p, hv, hitems⟩ := exists_describes_step.1 h
    have hpos := hv.depth_pos
    obtain ⟨room, rfl⟩ : ∃ k, room = k + 1 := ⟨room - 1, by omega⟩
    refine .element hv (fun state hstate => ?_) (fun ws hws => ?_) fun w hw => ?_
    · have hlt := hv.depth_state_lt hstate
      omega
    · have hlt : Json.depthItems ws + 1 < v.depth := hv.depth_list_lt hws
      omega
    · have hlt := hv.depth_item_lt hw
      exact ih (room - 1) (by omega) (hitems w hw) (by omega)

/-! ## Loading -/

lemma ofText_iff {text : String} {v : Json} (h : Json.ofText? text = some v) (s : Snapshot) :
    ofText text = .ok s ↔ Describes v s ∧ HasRoom Json.depthLimit v := by
  obtain ⟨d, hd, hv⟩ := Json.exists_of_ofText? h
  have hread : readerWithin Json.depthLimit Json.depthLimit d = .ok s ↔
      HasRoom Json.depthLimit v ∧ Describes v s :=
    exact_readerWithin (Nat.le_refl Json.depthLimit) d v hv s
  rw [and_comm, ← hread]
  simp only [ofText, Json.read, hd, reader, Bool.false_eq_true, if_false]
  split <;> simp_all

lemma exists_error_iff {ε α : Type} {x : Except ε α} : (∃ e, x = .error e) ↔ ¬ ∃ a, x = .ok a := by
  cases x <;> simp

/-- **A tree is loaded from exactly the texts whose value describes it.**  Every value whose numbers
are valid has a text.  From a text that stands for a value, a tree is loaded if and only if the
value describes the tree and there is room for the brackets; and no tree is loaded if some element
in the value, at any depth, is not what an element has to be.  If the value is not nested too deeply
there is room, so that loading fails in no other case. -/
theorem load_iff (v : Json) :
    (v.NumbersValid → Json.ofText? v.text = some v) ∧
      ∀ text, Json.ofText? text = some v →
        (∀ s, ofText text = .ok s ↔ Describes v s ∧ HasRoom Json.depthLimit v) ∧
        ((∃ w, Within v w ∧ ∀ p, ¬ HasParts w p) → ∃ fault, ofText text = .error fault) ∧
        (v.depth ≤ Json.depthLimit →
          (∀ s, ofText text = .ok s ↔ Describes v s) ∧
          ((∃ fault, ofText text = .error fault) ↔ ∃ w, Within v w ∧ ∀ p, ¬ HasParts w p)) := by
  have hdescribes : (∃ w, Within v w ∧ ∀ p, ¬ HasParts w p) ↔ ¬ ∃ s, Describes v s := by
    simp only [exists_describes_iff, not_forall, not_exists, exists_prop]
  refine ⟨Json.ofText?_text, fun text htext => ?_⟩
  have hload := ofText_iff htext
  refine ⟨hload, fun h => ?_, fun hdepth => ?_⟩
  · rw [exists_error_iff]
    rintro ⟨s, hs⟩
    exact hdescribes.1 h ⟨s, ((hload s).1 hs).1⟩
  · have hexact : ∀ s, ofText text = .ok s ↔ Describes v s := fun s =>
      (hload s).trans (and_iff_left_of_imp fun h => hasRoom_of_depth_le ⟨s, h⟩ hdepth)
    refine ⟨hexact, ?_⟩
    rw [exists_error_iff, hdescribes]
    simp only [hexact]

/-- The two forms of an element in one tree, with a state that is `null` and a member of no meaning;
and a tree that is not loaded, since the child of its child is an array of one item. -/
theorem load_iff_forms :
    let child : Json := .array [.string "c", .string "d"]
    let v : Json := .object [("id", .string "b"), ("note", .number (.integer 1)),
      ("component", .null), ("tag", .string "a"), ("children", .array [child])]
    let short : Json := .array [.string "e"]
    let parent : Json := .array [.string "c", .string "d", .null, .array [short]]
    let w : Json := .object [("tag", .string "a"), ("id", .string "b"), ("shadow", .array [parent])]
    v.NumbersValid ∧ Json.ofText? v.text = some v ∧ v.depth ≤ Json.depthLimit ∧
      ofText v.text = .ok ⟨"a", "b", none, [leaf "c" "d"], []⟩ ∧
      Json.ofText? w.text = some w ∧ Within w short ∧ (∀ p, ¬ HasParts short p) ∧
      ∃ fault, ofText w.text = .error fault := by
  intro child v short parent w
  have hnumbers : v.NumbersValid := ⟨trivial, ⟨by decide, by decide⟩, trivial, trivial,
    ⟨⟨trivial, trivial, trivial⟩, trivial⟩, trivial⟩
  have hdepth : v.depth ≤ Json.depthLimit := by decide
  have hchild : Describes child (leaf "c" "d") :=
    .element (p := ⟨"c", "d", none, none, none⟩)
      ⟨_, rfl, rfl, rfl, .left_out, .left_out, .left_out⟩ .nil .nil
  have hv : Describes v ⟨"a", "b", none, [leaf "c" "d"], []⟩ :=
    .element (p := ⟨"a", "b", none, some [child], none⟩)
      ⟨_, rfl, rfl, rfl, .null, .array _, .left_out⟩ (.cons hchild .nil) .nil
  have hparent : HasParts parent ⟨"c", "d", none, some [short], none⟩ :=
    ⟨_, rfl, rfl, rfl, .null, .array _, .left_out⟩
  have hw : HasParts w ⟨"a", "b", none, none, some [parent]⟩ :=
    ⟨_, rfl, rfl, rfl, .left_out, .left_out, .array _⟩
  have hwithin : Within w short :=
    .item hw (List.mem_singleton_self _) (.item hparent (List.mem_singleton_self _) (.self _))
  have hshort : ∀ p, ¬ HasParts short p := fun _ ⟨_, hmembers, _⟩ => nomatch hmembers
  have htext := (load_iff v).1 hnumbers
  have hbad := (load_iff w).1 ⟨trivial, trivial,
    ⟨⟨trivial, trivial, trivial, ⟨⟨trivial, trivial⟩, trivial⟩, trivial⟩, trivial⟩, trivial⟩
  obtain ⟨-, -, hload⟩ := (load_iff v).2 v.text htext
  obtain ⟨-, hfails, -⟩ := (load_iff w).2 w.text hbad
  exact ⟨hnumbers, htext, hdepth, ((hload hdepth).1 _).2 hv, hbad, hwithin, hshort,
    hfails ⟨short, hwithin, hshort⟩⟩

end ComponentQuery.Snapshot
