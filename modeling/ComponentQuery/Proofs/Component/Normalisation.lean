import ComponentQuery.Proofs.Component.SaveLoad
import ComponentQuery.Proofs.Json.Validity

/-!
# Loading as a normalisation

A tree may be described by many texts: fields in another order, fields that nobody wants, empty
lists that are written out, elements as arrays.  The text of the tree that is loaded is one that
stands for all of them: it is loaded again, as the same tree.

For this the tree that is loaded must be one that can be written (`Loaded`).  Its states can be
written and none is `null`, since a member `null` is read like one that is missing; and its text is
nested no more deeply than the text it was loaded from, since every element and every list that is
written has brackets there.
-/

namespace ComponentQuery.Snapshot

open Json (Draft Reader)

/-! ## Trees that are loaded -/

/-- A tree that can be described in a text with so many open brackets: its states are values that a
program can have, none of them is `null`, and its own text is nested no more deeply. -/
structure Loaded (room : Nat) (s : Snapshot) : Prop where
  valid : s.Valid
  noNulls : s.NoNulls
  depth_le : s.toJson.depth ≤ room

/-- Trees that can be described in a list.  The brackets of the list are not needed if it is
empty. -/
def LoadedAll (room : Nat) (ss : List Snapshot) : Prop :=
  ss ≠ [] → ∃ left, room = left + 1 ∧ ∀ s ∈ ss, s.Loaded left

/-- What an element has between its brackets can be described there. -/
structure LoadedParts (room : Nat) (s : Snapshot) : Prop where
  state : ∀ v, s.component = some v → v ≠ .null ∧ v.Fits room
  children : LoadedAll room s.children
  shadow : LoadedAll room s.shadow

lemma loadedParts_leaf (room : Nat) (tag id : String) : (leaf tag id).LoadedParts room :=
  ⟨by simp [leaf], fun h => absurd rfl h, fun h => absurd rfl h⟩

lemma LoadedAll.validAll {room : Nat} {ss : List Snapshot} (h : LoadedAll room ss) :
    ValidAll ss ∧ NoNullsAll ss ∧
      (toJsonAll ss ≠ [] → Json.depthItems (toJsonAll ss) + 1 ≤ room) := by
  cases ss with
  | nil => exact ⟨trivial, trivial, fun h => absurd rfl h⟩
  | cons s ss =>
    obtain ⟨left, rfl, hloaded⟩ := h (List.cons_ne_nil s ss)
    have hall : ∀ ts : List Snapshot, (∀ t ∈ ts, t.Loaded left) →
        ValidAll ts ∧ NoNullsAll ts ∧ Json.depthItems (toJsonAll ts) ≤ left := by
      intro ts hts
      induction ts with
      | nil => exact ⟨trivial, trivial, Nat.zero_le left⟩
      | cons t ts ih =>
        obtain ⟨ht, hts⟩ := List.forall_mem_cons.1 hts
        obtain ⟨hvalid, hnulls, hdepth⟩ := ih hts
        exact ⟨⟨ht.valid, hvalid⟩, ⟨ht.noNulls, hnulls⟩, Nat.max_le.2 ⟨ht.depth_le, hdepth⟩⟩
    obtain ⟨hvalid, hnulls, hdepth⟩ := hall _ hloaded
    exact ⟨hvalid, hnulls, fun _ => Nat.succ_le_succ hdepth⟩

lemma LoadedParts.loaded {room : Nat} {s : Snapshot} (h : s.LoadedParts room) :
    s.Loaded (room + 1) := by
  obtain ⟨tag, id, component, children, shadow⟩ := s
  obtain ⟨hstate, hchildren, hshadow⟩ := h
  obtain ⟨hchildrenValid, hchildrenNulls, hchildrenDepth⟩ := hchildren.validAll
  obtain ⟨hshadowValid, hshadowNulls, hshadowDepth⟩ := hshadow.validAll
  exact
    { valid := ⟨fun v hv => (hstate v hv).2.1, hchildrenValid, hshadowValid⟩
      noNulls := ⟨fun hnull => (hstate .null hnull).1 rfl, hchildrenNulls, hshadowNulls⟩
      depth_le := depth_toJson_le_iff.2
        ⟨fun v hv => (hstate v hv).2.2, hchildrenDepth, hshadowDepth⟩ }

/-! ## The fields of an element -/

/-- A state that is read is not `null`. -/
lemma fits_of_optional_value {room : Nat} {d : Draft} {state : Option Json}
    (h : Reader.optional Reader.value room d = .ok state) :
    ∀ v, state = some v → v ≠ .null ∧ v.Fits room := by
  rintro v rfl
  unfold Reader.optional at h
  split at h
  case h_1 => simp at h
  case h_2 hnull =>
    obtain ⟨w, hw, hv⟩ := Json.exists_of_map_eq_ok h
    obtain rfl := Option.some.inj hv
    refine ⟨?_, Json.fits_of_value hw⟩
    rintro rfl
    cases Json.reads_of_value hw
    exact hnull rfl

lemma loadedAll_of_list {read : Reader Snapshot}
    (hread : ∀ room d s, read room d = .ok s → s.Loaded room) {room : Nat} {d : Draft}
    {ss : List Snapshot} (h : Reader.list read room d = .ok ss) : LoadedAll room ss := by
  intro _
  unfold Reader.list at h
  split at h
  case h_1 => simp [Json.malformed] at h
  case h_2 left items closing =>
    obtain ⟨ts, hts, h⟩ := Json.exists_of_bind_eq_ok h
    obtain ⟨-, -, h⟩ := Json.exists_of_bind_eq_ok h
    obtain rfl : ts = ss := Except.ok.inj h
    refine ⟨left, rfl, fun s hs => ?_⟩
    obtain ⟨d, hd⟩ := Json.exists_of_mem_mapM hts s hs
    exact hread left d s hd
  case h_3 => exact absurd h Json.mismatch_ne_ok

lemma fieldsWith_keeps {read : Reader Snapshot}
    (hread : ∀ room d s, read room d = .ok s → s.Loaded room) {room : Nat} :
    ∀ field ∈ fieldsWith (.list read), field.Keeps room (LoadedParts room) := by
  simp only [fieldsWith, List.forall_mem_cons, List.not_mem_nil, false_imp_iff, implies_true,
    and_true]
  refine ⟨?tag, ?id, ?component, ?children, ?shadow⟩
  case tag => exact Json.Field.keeps_of fun _ _ _ _ h => ⟨h.state, h.children, h.shadow⟩
  case id => exact Json.Field.keeps_of fun _ _ _ _ h => ⟨h.state, h.children, h.shadow⟩
  case component =>
    exact Json.Field.keeps_of fun _ _ _ hstate h =>
      ⟨fits_of_optional_value hstate, h.children, h.shadow⟩
  case children =>
    exact Json.Field.keeps_of fun _ _ _ hlist h =>
      ⟨h.state, loadedAll_of_list hread hlist, h.shadow⟩
  case shadow =>
    exact Json.Field.keeps_of fun _ _ _ hlist h =>
      ⟨h.state, h.children, loadedAll_of_list hread hlist⟩

/-! ## Loading -/

/-- **Every tree that is read can be described** with the brackets that there was room for. -/
theorem loaded_of_readerWithin (levels : Nat) :
    ∀ room d s, readerWithin levels room d = .ok s → s.Loaded room := by
  induction levels with
  | zero =>
    intro room d s h
    simp [readerWithin, Json.malformed] at h
  | succ levels ih =>
    intro room d s h
    obtain ⟨left, rfl, hkeeps⟩ := Json.fields_keeps h
    exact (hkeeps _ (loadedParts_leaf left "" "") (fieldsWith_keeps ih)).loaded

lemma loaded_of_ofText {text : String} {s : Snapshot} (h : ofText text = .ok s) :
    s.Loaded Json.depthLimit := by
  obtain ⟨draft, -, hread⟩ := Json.exists_of_read h
  exact loaded_of_readerWithin _ _ _ _ hread

/-- **Loading is a normalisation.**  Whatever text a tree is loaded from, its own text is loaded
too, as an equal tree, and the text of that tree is the same again. -/
theorem ofText_text_of_ofText {text : String} {s : Snapshot} (h : ofText text = .ok s) :
    ∃ t, ofText s.text = .ok t ∧ (t == s) = true ∧ t.text = s.text := by
  obtain ⟨hvalid, hnulls, hdepth⟩ := loaded_of_ofText h
  refine ⟨s.dropNulls, ofText_text_of_valid hvalid hdepth, (eq_dropNulls_iff s hvalid).2 hnulls, ?_⟩
  rw [dropNulls_of_noNulls s hnulls]

/-- A tree of an element that is written as an array of its fields and of a child with its fields in
another order, one that nobody wants, no state and no children; of members of one name in a state
the last counts. -/
theorem ofText_text_of_ofText_array :
    let text := "[\"a\", \"b\", \x7b\"x\": 1, \"x\": [2.5]\x7d, [\x7b\"id\": \"d\", \"color\": 0, " ++
      "\"children\": [], \"component\": null, \"tag\": \"c\"\x7d]]"
    let state : Json := .object [("x", .array [.number (.double (.ofDecimal false 25 (-1)))])]
    ∃ s, ofText text = .ok s ∧ (s == ⟨"a", "b", some state, [leaf "c" "d"], []⟩) = true ∧
      ∃ t, ofText s.text = .ok t ∧ (t == s) = true ∧ t.text = s.text := by
  intro text state
  have hload : (ofText text).toOption.any
      (· == ⟨"a", "b", some state, [leaf "c" "d"], []⟩) = true := by decide +kernel
  cases hs : ofText text with
  | error e => simp [hs, Except.toOption] at hload
  | ok s =>
    rw [hs] at hload
    exact ⟨s, rfl, hload, ofText_text_of_ofText hs⟩

end ComponentQuery.Snapshot
