import ComponentQuery.Component.Serial
import ComponentQuery.Proofs.Json.Records
import ComponentQuery.Query.Engine

/-!
# Saving and loading snapshots

A tree is saved as its text and loaded from it.  All that comes back different is a state that is
`null`: it is written, but a member `null` is read like one that is missing, so that the element
has no state of its own afterwards and takes that of an element above it.  `dropNulls` is the tree
that comes back, and `ofText_text` says so, for all trees that a program can build (`Built`) and
whose text is not nested too deeply.

`save_load_iff` draws the conclusion: the tree that comes back equals the tree that was saved, and
has the same records, if and only if no state in it is `null`.
-/

namespace ComponentQuery.Snapshot

/-! ## Trees that a program can build -/

/-- Trees that are built from elements by giving them states, children and shadows.  A state is any
JSON value that a program can have. -/
inductive Built : Snapshot → Prop where
  | leaf (tag id : String) : Built (.leaf tag id)
  | withComponent {s : Snapshot} {state : Json} (hs : Built s) (hv : state.Valid) :
      Built (s.withComponent state)
  | withChild {s child : Snapshot} (hs : Built s) (hc : Built child) : Built (s.withChild child)
  | withShadowChild {s child : Snapshot} (hs : Built s) (hc : Built child) :
      Built (s.withShadowChild child)

mutual

/-- All states of a tree are valid. -/
def Valid : Snapshot → Prop
  | ⟨_, _, component, children, shadow⟩ =>
    (∀ state, component = some state → state.Valid) ∧ ValidAll children ∧ ValidAll shadow

def ValidAll : List Snapshot → Prop
  | [] => True
  | s :: ss => Valid s ∧ ValidAll ss

end

lemma validAll_append_singleton {ss : List Snapshot} {s : Snapshot} (hss : ValidAll ss)
    (hs : s.Valid) : ValidAll (ss ++ [s]) := by
  induction ss with
  | nil => exact ⟨hs, trivial⟩
  | cons t ss ih => exact ⟨hss.1, ih hss.2⟩

lemma Built.valid {s : Snapshot} (h : Built s) : s.Valid := by
  induction h with
  | leaf => exact ⟨by simp, trivial, trivial⟩
  | @withComponent s state _ hv ih =>
    obtain ⟨tag, id, component, children, shadow⟩ := s
    obtain ⟨-, hchildren, hshadow⟩ := ih
    exact ⟨fun v hstate => Option.some.inj hstate ▸ hv, hchildren, hshadow⟩
  | @withChild s child _ _ ihs ihc =>
    obtain ⟨tag, id, component, children, shadow⟩ := s
    obtain ⟨hstate, hchildren, hshadow⟩ := ihs
    exact ⟨hstate, validAll_append_singleton hchildren ihc, hshadow⟩
  | @withShadowChild s child _ _ ihs ihc =>
    obtain ⟨tag, id, component, children, shadow⟩ := s
    obtain ⟨hstate, hchildren, hshadow⟩ := ihs
    exact ⟨hstate, hchildren, validAll_append_singleton hshadow ihc⟩

/-! ## States that are null -/

/-- A state that is `null` left out. -/
def dropNull : Option Json → Option Json
  | some .null => none
  | state => state

mutual

/-- A tree without the states that are `null`. -/
def dropNulls : Snapshot → Snapshot
  | ⟨tag, id, component, children, shadow⟩ =>
    ⟨tag, id, dropNull component, dropNullsAll children, dropNullsAll shadow⟩

def dropNullsAll : List Snapshot → List Snapshot
  | [] => []
  | s :: ss => dropNulls s :: dropNullsAll ss

end

mutual

/-- No state of a tree is `null`. -/
def NoNulls : Snapshot → Prop
  | ⟨_, _, component, children, shadow⟩ =>
    component ≠ some .null ∧ NoNullsAll children ∧ NoNullsAll shadow

def NoNullsAll : List Snapshot → Prop
  | [] => True
  | s :: ss => NoNulls s ∧ NoNullsAll ss

end

lemma dropNull_of_ne {state : Option Json} (h : state ≠ some .null) : dropNull state = state := by
  unfold dropNull
  split
  · exact absurd rfl h
  · rfl

mutual

theorem dropNulls_of_noNulls (s : Snapshot) (h : s.NoNulls) : s.dropNulls = s := by
  match s, h with
  | ⟨tag, id, component, children, shadow⟩, ⟨hne, hchildren, hshadow⟩ =>
    rw [dropNulls, dropNull_of_ne hne, dropNullsAll_of_noNullsAll children hchildren,
      dropNullsAll_of_noNullsAll shadow hshadow]

theorem dropNullsAll_of_noNullsAll (ss : List Snapshot) (h : NoNullsAll ss) :
    dropNullsAll ss = ss := by
  match ss, h with
  | [], _ => rfl
  | s :: ss, ⟨hs, hss⟩ =>
    rw [dropNullsAll, dropNulls_of_noNulls s hs, dropNullsAll_of_noNullsAll ss hss]

end

/-! ## Loading what was saved -/

open Json (Draft StringDraft Closing itemsDraft membersDraft membersInto membersInto_cons)

lemma membersDraft_append (ms ns : List (String × Json)) :
    membersDraft (ms ++ ns) = membersDraft ms ++ membersDraft ns := by
  induction ms with
  | nil => rfl
  | cons m ms ih =>
    obtain ⟨k, v⟩ := m
    simp only [List.cons_append, membersDraft, ih]

section Members

variable {room : Nat} {rest : List (StringDraft × Draft)} {seen : List String} {s : Snapshot}

/-- A state is read back unless it is `null`, which is read like none. -/
lemma optional_value_draft {state : Json} (hread : Json.Reader.value room state.draft = .ok state) :
    Json.Reader.optional Json.Reader.value room state.draft = .ok (dropNull (some state)) := by
  unfold Json.Reader.optional
  split
  case h_1 hnull =>
    rw [hnull, Json.Reader.value] at hread
    obtain rfl := Except.ok.inj hread
    rfl
  case h_2 hnull =>
    have hne : some state ≠ some .null := by
      intro h
      obtain rfl := Option.some.inj h
      exact hnull rfl
    rw [hread, dropNull_of_ne hne]
    rfl

lemma membersInto_component (read : Json.Reader (List Snapshot)) {component : Option Json}
    (hseen : "component" ∉ seen) (hnone : s.component = none)
    (hread : ∀ state, component = some state → Json.Reader.value room state.draft = .ok state) :
    membersInto (fieldsWith read) room
        (membersDraft (component.map fun state => ("component", state)).toList ++ rest) seen s =
      membersInto (fieldsWith read) room rest
        ((component.map fun _ => "component").toList ++ seen)
        { s with component := dropNull component } := by
  cases component with
  | none =>
    obtain ⟨tag, id, component, children, shadow⟩ := s
    obtain rfl : component = none := hnone
    rfl
  | some state =>
    have hstate := optional_value_draft (hread state rfl)
    exact membersInto_cons rfl hseen (Json.Field.read_of hstate s)

lemma membersInto_listMember {fields : List (Json.Field Snapshot)} {name : String}
    {read : Json.Reader (List Snapshot)} {put : List Snapshot → Snapshot → Snapshot}
    (hfield : fields.find? (·.name == name) = some (.of name .defaulted read put))
    {vs : List Json} {ss : List Snapshot} (hseen : name ∉ seen)
    (hread : vs ≠ [] → read room (.array (itemsDraft vs) .closed) = .ok ss)
    (hempty : vs = [] → put ss s = s) :
    membersInto fields room (membersDraft (listMember name vs) ++ rest) seen s =
      membersInto fields room rest (if vs = [] then seen else name :: seen) (put ss s) := by
  cases vs with
  | nil =>
    rw [hempty rfl]
    rfl
  | cons v vs =>
    have hlist := hread (List.cons_ne_nil v vs)
    exact membersInto_cons hfield hseen (Json.Field.read_of hlist s)

/-- The members of a tree are read back if those of its parts are. -/
lemma exists_membersInto (read : Json.Reader (List Snapshot)) (tag id : String)
    {component : Option Json} {vs ws : List Json} {ss ts : List Snapshot}
    (hstate : ∀ state, component = some state → Json.Reader.value room state.draft = .ok state)
    (hvs : vs ≠ [] → read room (.array (itemsDraft vs) .closed) = .ok ss)
    (hss : vs = [] → ss = [])
    (hws : ws ≠ [] → read room (.array (itemsDraft ws) .closed) = .ok ts)
    (hts : ws = [] → ts = []) :
    ∃ seen, "tag" ∈ seen ∧ "id" ∈ seen ∧
      membersInto (fieldsWith read) room
          (membersDraft ([("tag", .string tag), ("id", .string id)] ++
            (component.map fun state => ("component", state)).toList ++
            listMember "children" vs ++ listMember "shadow" ws)) [] (leaf "" "") =
        .ok (seen, ⟨tag, id, dropNull component, ss, ts⟩) := by
  -- The fields that have been read after the state, after the children and at the end.
  obtain ⟨seen, hseen⟩ : ∃ seen, (component.map fun _ => "component").toList ++ ["id", "tag"] =
    seen := ⟨_, rfl⟩
  obtain ⟨seen', hseen'⟩ : ∃ seen', (if vs = [] then seen else "children" :: seen) = seen' :=
    ⟨_, rfl⟩
  have hmem : ∀ name ∈ seen, name ∈ ["component", "id", "tag"] := by
    subst hseen
    cases component <;> simp
  have hmem' : ∀ name ∈ seen', name ∈ ["children", "component", "id", "tag"] := by
    subst hseen'
    split <;> grind
  have hkept : ∀ name ∈ ["id", "tag"], name ∈ if ws = [] then seen' else "shadow" :: seen' := by
    subst hseen hseen'
    split <;> split <;> grind
  refine ⟨_, hkept "tag" (by simp), hkept "id" (by simp), ?_⟩
  simp only [membersDraft_append, List.append_assoc]
  have hread : ∀ s : String, (Json.StringDraft.ofString s).read = .ok s :=
    Json.StringDraft.read_ofString
  calc membersInto (fieldsWith read) room _ [] (leaf "" "")
    _ = membersInto (fieldsWith read) room _ ["tag"] (leaf tag "") :=
      membersInto_cons rfl (by simp) (Json.Field.read_of (hread tag) _)
    _ = membersInto (fieldsWith read) room _ ["id", "tag"] (leaf tag id) :=
      membersInto_cons rfl (by decide) (Json.Field.read_of (hread id) _)
    _ = membersInto (fieldsWith read) room
          (membersDraft (listMember "children" vs) ++ membersDraft (listMember "shadow" ws)) seen
          ⟨tag, id, dropNull component, [], []⟩ :=
      hseen ▸ membersInto_component read (by decide) rfl hstate
    _ = membersInto (fieldsWith read) room (membersDraft (listMember "shadow" ws)) seen'
          ⟨tag, id, dropNull component, ss, []⟩ := by
      rw [← hseen']
      exact Eq.trans (membersInto_listMember rfl (fun h => by simpa using hmem "children" h) hvs
        fun h => by rw [hss h]) rfl
    _ = membersInto (fieldsWith read) room (membersDraft (listMember "shadow" ws) ++ []) seen'
          ⟨tag, id, dropNull component, ss, []⟩ := by rw [List.append_nil]
    _ = membersInto (fieldsWith read) room [] (if ws = [] then seen' else "shadow" :: seen')
          ⟨tag, id, dropNull component, ss, ts⟩ :=
      Eq.trans (membersInto_listMember rfl (fun h => by simpa using hmem' "shadow" h) hws
        fun h => by rw [hts h]) rfl

end Members

lemma depthMembers_append (ms ns : List (String × Json)) :
    Json.depthMembers (ms ++ ns) = max (Json.depthMembers ms) (Json.depthMembers ns) := by
  induction ms with
  | nil => simp [Json.depthMembers]
  | cons m ms ih =>
    obtain ⟨k, v⟩ := m
    simp only [List.cons_append, Json.depthMembers, ih, Nat.max_assoc]

lemma depthMembers_listMember_le_iff {name : String} {vs : List Json} {room : Nat} :
    Json.depthMembers (listMember name vs) ≤ room ↔
      (vs ≠ [] → Json.depthItems vs + 1 ≤ room) := by
  cases vs with
  | nil => simp [listMember, Json.depthMembers]
  | cons v vs => simp [listMember, Json.depthMembers, Json.depth]

/-- The text of a tree is nested one level more deeply than its parts are, those that are left out
not counted. -/
lemma depth_toJson_le_iff {tag id : String} {component : Option Json}
    {children shadow : List Snapshot} {room : Nat} :
    (toJson ⟨tag, id, component, children, shadow⟩).depth ≤ room + 1 ↔
      (∀ state, component = some state → state.depth ≤ room) ∧
        (toJsonAll children ≠ [] → Json.depthItems (toJsonAll children) + 1 ≤ room) ∧
        (toJsonAll shadow ≠ [] → Json.depthItems (toJsonAll shadow) + 1 ≤ room) := by
  have hstate : Json.depthMembers (component.map fun state => ("component", state)).toList ≤ room ↔
      ∀ state, component = some state → state.depth ≤ room := by
    cases component <;> simp [Json.depthMembers]
  simp only [toJson, Json.depth, depthMembers_append, Nat.succ_le_succ_iff, Nat.max_le, hstate,
    depthMembers_listMember_le_iff, Json.depthMembers, Nat.zero_le, true_and, and_assoc]

lemma list_of_mapM {α : Type} {read : Json.Reader α} {room : Nat} {ds : List Draft} {xs : List α}
    (hroom : 0 < room) (h : ds.mapM (read (room - 1)) = .ok xs) :
    Json.Reader.list read room (.array ds .closed) = .ok xs := by
  obtain ⟨room, rfl⟩ : ∃ k, room = k + 1 := ⟨room - 1, by omega⟩
  rw [Nat.add_sub_cancel] at h
  rw [Json.Reader.list, h]
  rfl

lemma dropNullsAll_eq_nil {ss : List Snapshot} (h : toJsonAll ss = []) : dropNullsAll ss = [] := by
  cases ss with
  | nil => rfl
  | cons s ss => simp [toJsonAll] at h

mutual

/-- **A tree is loaded** from what its text is read as, without the states that are `null`. -/
theorem readerWithin_draft (s : Snapshot) (levels room : Nat) (hs : s.Valid)
    (hlevels : s.toJson.depth ≤ levels) (hroom : s.toJson.depth ≤ room) :
    readerWithin levels room s.toJson.draft = .ok s.dropNulls := by
  match s with
  | ⟨tag, id, component, children, shadow⟩ =>
    obtain ⟨hstate, hchildren, hshadow⟩ := hs
    have hpos : 0 < (toJson ⟨tag, id, component, children, shadow⟩).depth := by
      simp [toJson, Json.depth]
    obtain ⟨levels, rfl⟩ : ∃ k, levels = k + 1 := ⟨levels - 1, by omega⟩
    obtain ⟨room, rfl⟩ : ∃ k, room = k + 1 := ⟨room - 1, by omega⟩
    obtain ⟨hstateRoom, hchildrenRoom, hshadowRoom⟩ := depth_toJson_le_iff.1 hroom
    obtain ⟨-, hchildrenLevels, hshadowLevels⟩ := depth_toJson_le_iff.1 hlevels
    have hstateRead : ∀ state, component = some state →
        Json.Reader.value room state.draft = .ok state := fun state h =>
      Json.value_draft state room (hstate state h) (hstateRoom state h)
    -- An empty list is not written, so that there may be no room for it.
    have hchildrenRead : toJsonAll children ≠ [] → Json.Reader.list (readerWithin levels) room
        (.array (itemsDraft (toJsonAll children)) .closed) = .ok (dropNullsAll children) := by
      intro hne
      have hlevels := hchildrenLevels hne
      have hroom := hchildrenRoom hne
      exact list_of_mapM (by omega)
        (mapM_readerWithin_draft children levels (room - 1) hchildren (by omega) (by omega))
    have hshadowRead : toJsonAll shadow ≠ [] → Json.Reader.list (readerWithin levels) room
        (.array (itemsDraft (toJsonAll shadow)) .closed) = .ok (dropNullsAll shadow) := by
      intro hne
      have hlevels := hshadowLevels hne
      have hroom := hshadowRoom hne
      exact list_of_mapM (by omega)
        (mapM_readerWithin_draft shadow levels (room - 1) hshadow (by omega) (by omega))
    obtain ⟨seen, htag, hid, hmembers⟩ := exists_membersInto (.list (readerWithin levels)) tag id
      hstateRead hchildrenRead dropNullsAll_eq_nil hshadowRead dropNullsAll_eq_nil
    rw [toJson, Json.draft, readerWithin, Json.Reader.fields, hmembers]
    simp [bind, Except.bind, Closing.check, fieldsWith, Json.Field.of, htag, hid, dropNulls]
    rfl

theorem mapM_readerWithin_draft (ss : List Snapshot) (levels room : Nat) (hss : ValidAll ss)
    (hlevels : Json.depthItems (toJsonAll ss) ≤ levels)
    (hroom : Json.depthItems (toJsonAll ss) ≤ room) :
    (itemsDraft (toJsonAll ss)).mapM (readerWithin levels room) = .ok (dropNullsAll ss) := by
  match ss with
  | [] => rfl
  | s :: ss =>
    rw [toJsonAll, Json.depthItems] at hlevels hroom
    have hs := readerWithin_draft s levels room hss.1 (by omega) (by omega)
    have hrest := mapM_readerWithin_draft ss levels room hss.2 (by omega) (by omega)
    rw [toJsonAll, itemsDraft, List.mapM_cons, hs, hrest]
    rfl

end

/-- **A tree is loaded from its text**, without the states that are `null`. -/
theorem ofText_text_of_valid {s : Snapshot} (hs : s.Valid)
    (hdepth : s.toJson.depth ≤ Json.depthLimit) : ofText s.text = .ok s.dropNulls :=
  Json.read_text_of_draft (readerWithin_draft s Json.depthLimit Json.depthLimit hs hdepth hdepth)

lemma ofText_text {s : Snapshot} (hs : Built s) (hdepth : s.toJson.depth ≤ Json.depthLimit) :
    ofText s.text = .ok s.dropNulls :=
  ofText_text_of_valid hs.valid hdepth

/-! ## What is lost -/

lemma eqComponent_dropNull_iff {state : Option Json} (h : ∀ v, state = some v → v.Valid) :
    eqComponent (dropNull state) state = true ↔ state ≠ some .null := by
  refine ⟨?_, fun hne => ?_⟩
  · rintro heq rfl
    simp [dropNull, eqComponent] at heq
  · rw [dropNull_of_ne hne]
    cases state with
    | none => rfl
    | some v => exact Json.eq_self v (h v rfl)

mutual

theorem eq_dropNulls_iff (s : Snapshot) (hs : s.Valid) :
    eq s.dropNulls s = true ↔ s.NoNulls := by
  match s, hs with
  | ⟨tag, id, component, children, shadow⟩, ⟨hstate, hchildren, hshadow⟩ =>
    simp only [dropNulls, eq, NoNulls, Bool.and_eq_true, beq_self_eq_true, true_and, and_assoc,
      eqComponent_dropNull_iff hstate, eqAll_dropNullsAll_iff children hchildren,
      eqAll_dropNullsAll_iff shadow hshadow]

theorem eqAll_dropNullsAll_iff (ss : List Snapshot) (hss : ValidAll ss) :
    eqAll (dropNullsAll ss) ss = true ↔ NoNullsAll ss := by
  match ss, hss with
  | [], _ => simp [dropNullsAll, eqAll, NoNullsAll]
  | s :: ss, ⟨hs, hss⟩ =>
    simp only [dropNullsAll, eqAll, NoNullsAll, Bool.and_eq_true, eq_dropNulls_iff s hs,
      eqAll_dropNullsAll_iff ss hss]

end

mutual

theorem length_recordsBelow_dropNulls (s : Snapshot) (a b : Option Json) :
    (recordsBelow a s.dropNulls).length = (recordsBelow b s).length := by
  match s with
  | ⟨tag, id, component, children, shadow⟩ =>
    simp only [dropNulls, recordsBelow, List.length_cons, List.length_append]
    rw [length_recordsOfAll_dropNullsAll children _ (component <|> b),
      length_recordsOfAll_dropNullsAll shadow _ (component <|> b)]

theorem length_recordsOfAll_dropNullsAll (ss : List Snapshot) (a b : Option Json) :
    (recordsOfAll a (dropNullsAll ss)).length = (recordsOfAll b ss).length := by
  match ss with
  | [] => rfl
  | s :: ss =>
    simp only [dropNullsAll, recordsOfAll, List.length_append, length_recordsBelow_dropNulls s a b,
      length_recordsOfAll_dropNullsAll ss a b]

end

mutual

/-- Below an element whose state is not `null` a tree has the same records without the states that
are `null` if and only if there are none: the first that is left out shows in the record of its own
element. -/
theorem recordsBelow_dropNulls_iff (s : Snapshot) {inherited : Option Json}
    (h : inherited ≠ some .null) :
    recordsBelow inherited s.dropNulls = recordsBelow inherited s ↔ s.NoNulls := by
  match s with
  | ⟨tag, id, component, children, shadow⟩ =>
    by_cases hnull : component = some .null
    · subst hnull
      simp [dropNulls, recordsBelow, dropNull, NoNulls, h]
    · have hproperties : (component <|> inherited) ≠ some .null := by
        cases component with
        | none => exact h
        | some state => exact hnull
      have hshadow := length_recordsOfAll_dropNullsAll shadow (component <|> inherited)
        (component <|> inherited)
      simp only [dropNulls, recordsBelow, dropNull_of_ne hnull, NoNulls, List.cons.injEq, true_and,
        List.append_eq_append_iff_of_size_eq_left hshadow,
        recordsOfAll_dropNullsAll_iff shadow hproperties,
        recordsOfAll_dropNullsAll_iff children hproperties, ne_eq, hnull, not_false_eq_true]
      exact And.comm

theorem recordsOfAll_dropNullsAll_iff (ss : List Snapshot) {inherited : Option Json}
    (h : inherited ≠ some .null) :
    recordsOfAll inherited (dropNullsAll ss) = recordsOfAll inherited ss ↔ NoNullsAll ss := by
  match ss with
  | [] => simp [dropNullsAll, recordsOfAll, NoNullsAll]
  | s :: ss =>
    have hs := length_recordsBelow_dropNulls s inherited inherited
    simp only [dropNullsAll, recordsOfAll, NoNullsAll,
      List.append_eq_append_iff_of_size_eq_left hs, recordsBelow_dropNulls_iff s h,
      recordsOfAll_dropNullsAll_iff ss h]

end

/-- **Saving and loading.**  A tree that a program can build is loaded from its text, if the text is
not nested too deeply.  What is loaded equals the tree, and has the same records, if and only if no
state in the tree is `null`; then all queries have the same results. -/
theorem save_load_iff {s : Snapshot} (hs : Built s) (hdepth : s.toJson.depth ≤ Json.depthLimit) :
    ∃ t, ofText s.text = .ok t ∧ ((t == s) = true ↔ s.NoNulls) ∧
      (t.records = s.records ↔ s.NoNulls) ∧
      (s.NoNulls → t = s ∧ ∀ (engine : Engine) (selector : String),
        (engine.queryAll collector t selector).1 = (engine.queryAll collector s selector).1) := by
  refine ⟨s.dropNulls, ofText_text hs hdepth, eq_dropNulls_iff s hs.valid,
    recordsBelow_dropNulls_iff s (by simp), fun h => ?_⟩
  rw [dropNulls_of_noNulls s h]
  exact ⟨rfl, fun _ _ => rfl⟩

/-- A tree with a state, a child and a shadow is loaded as it was saved. -/
theorem save_load_states :
    let stateful := (leaf "a" "b").withComponent (.boolean true)
    let s := (stateful.withChild (leaf "c" "d")).withShadowChild (leaf "e" "f")
    Built s ∧ s.toJson.depth ≤ Json.depthLimit ∧ s.NoNulls ∧
      ∃ t, ofText s.text = .ok t ∧ (t == s) = true ∧ t.records = s.records := by
  intro stateful s
  have hs : Built s := .withShadowChild
    (.withChild (.withComponent (.leaf "a" "b") trivial) (.leaf "c" "d")) (.leaf "e" "f")
  have hdepth : s.toJson.depth ≤ Json.depthLimit := by decide
  have hnulls : s.NoNulls := by
    simp [s, stateful, leaf, withComponent, withChild, withShadowChild, NoNulls, NoNullsAll]
  obtain ⟨t, ht, heq, hrecords, -⟩ := save_load_iff hs hdepth
  exact ⟨hs, hdepth, hnulls, t, ht, heq.2 hnulls, hrecords.2 hnulls⟩

/-- A state that is `null` is lost. -/
theorem ofText_text_null :
    let s := (leaf "a" "b").withComponent .null
    Built s ∧ s.toJson.depth ≤ Json.depthLimit ∧ ofText s.text = .ok (leaf "a" "b") ∧
      (leaf "a" "b" == s) = false ∧ (leaf "a" "b").records ≠ s.records := by
  intro s
  have hs : Built s := .withComponent (.leaf "a" "b") trivial
  have hdepth : s.toJson.depth ≤ Json.depthLimit := by decide
  have hload : ofText s.text = .ok (leaf "a" "b") := ofText_text hs hdepth
  refine ⟨hs, hdepth, hload, by decide, ?_⟩
  simp [s, leaf, withComponent, records, recordsBelow]

end ComponentQuery.Snapshot
