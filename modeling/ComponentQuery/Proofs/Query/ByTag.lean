import ComponentQuery.Proofs.Component.DocumentOrder
import ComponentQuery.Proofs.Query.Accounting
import ComponentQuery.Proofs.Selector.Exactness
import ComponentQuery.Proofs.Unicode.LowerCase

/-!
# Elements by their tags

A tag in lower case, if it can be read at all, is a selector for the elements with that tag, however
its letters are written: `Snapshot.queryAll_by_tag`.  It is read as one name to its end, since a
name in lower case is a name; the records that it accepts are those at the ends of paths to such
elements (`named_getElem_iff`); and the order of records is the order of paths.

No record has a name with a capital letter of ASCII, so that a selector with one accepts nothing.
-/

namespace ComponentQuery.Snapshot

open Reading (IsName)

/-! ## Names -/

lemma parse_of_isName (config : Config) {name : String} (h : IsName name.toList) :
    Selector.parse config name = .ok ⟨name, []⟩ := by
  rw [Selector.parse_eq_ok_iff, Reading.selector_iff]
  have hne : name ≠ "" := fun hempty => h.ne_nil (by simp [hempty])
  have hrun := Reading.run_append_eq (IsRun.to_end h.isNameChar)
  rw [List.append_nil] at hrun
  refine ⟨[], ?_, Reading.clauses_nil_iff.2 rfl, fun hempty => hne hempty.1⟩
  rw [skipBlanks_eq_iff.2 (gap_self h.head), hrun]

lemma isName_nameOfTag {tag : String} (h : IsName tag.toList) : IsName (nameOfTag tag).toList := by
  rw [nameOfTag, String.toList_ofList]
  exact Unicode.isName_lowerCase h

/-! ## Records by name -/

variable {s : Snapshot} {name id : String}

/-- The element at the end of a path has an identity and a tag that is a name in lower case. -/
def Named (s : Snapshot) (name : String) (path : List Step) (id : String) : Prop :=
  ∃ above element, s.along? path = some (above ++ [element]) ∧ nameOfTag element.tag = name ∧
    element.id = id

lemma length_paths (s : Snapshot) : s.paths.length = s.records.length :=
  (forall₂_recordsBelow s none).length_eq

/-- What the record at the end of a path says is what the element there has. -/
lemma named_getElem_iff {i : Nat} (hi : i < s.paths.length) (hi' : i < s.records.length) :
    s.Named name s.paths[i] id ↔ s.records[i].name = some name ∧ s.records[i].element = id := by
  obtain ⟨elements, helements, hrecord⟩ := (forall₂_recordsBelow s none).get hi hi'
  change s.along? s.paths[i] = some elements at helements
  change RecordAlong none elements s.records[i] at hrecord
  generalize s.records[i] = r at hrecord
  obtain ⟨above, element⟩ := hrecord
  constructor
  · rintro ⟨above', element', helements', rfl, rfl⟩
    obtain ⟨-, hsame⟩ := List.append_inj' (Option.some.inj (helements.symm.trans helements')) rfl
    obtain rfl : element = element' := by simpa using hsame
    exact ⟨rfl, rfl⟩
  · rintro ⟨hname, helement⟩
    exact ⟨above, element, helements, Option.some.inj hname, helement⟩

/-- A path to an element of a name is at some place, where the record has that name. -/
lemma Named.exists_getElem {path : List Step} (h : s.Named name path id) :
    ∃ i, ∃ (hi : i < s.paths.length) (hi' : i < s.records.length), s.paths[i] = path ∧
      s.records[i].name = some name ∧ s.records[i].element = id := by
  have hmem : path ∈ s.paths := by
    obtain ⟨above, element, halong, -⟩ := h
    exact mem_paths.2 (by simp [halong])
  obtain ⟨i, hi, rfl⟩ := List.getElem_of_mem hmem
  have hi' : i < s.records.length := length_paths s ▸ hi
  exact ⟨i, hi, hi', rfl, (named_getElem_iff hi hi').1 h⟩

lemma acceptsRecord_name_iff (hne : name ≠ "") {r : Record String} :
    Selector.acceptsRecord ⟨name, []⟩ r = true ↔ r.name = some name := by
  simp [Selector.acceptsRecord_iff, hne]

lemma mem_select_name (hne : name ≠ "") :
    id ∈ Selector.select ⟨name, []⟩ s.records ↔ ∃ path, s.Named name path id := by
  rw [Selector.mem_select]
  constructor
  · rintro ⟨r, hr, helement, haccepts⟩
    obtain ⟨i, hi, rfl⟩ := List.getElem_of_mem hr
    have hi' : i < s.paths.length := length_paths s ▸ hi
    exact ⟨_, (named_getElem_iff hi' hi).2 ⟨(acceptsRecord_name_iff hne).1 haccepts, helement⟩⟩
  · rintro ⟨path, hpath⟩
    obtain ⟨i, -, hi', -, hname, helement⟩ := hpath.exists_getElem
    exact ⟨_, List.getElem_mem hi', helement, (acceptsRecord_name_iff hne).2 hname⟩

/-- An element is selected before another if there is a path to it, with the name, before all of
those to the other. -/
lemma pairwise_select_name (hne : name ≠ "") :
    (Selector.select ⟨name, []⟩ s.records).Pairwise fun id later =>
      ∃ path, s.Named name path id ∧ ∀ path', s.Named name path' later → Precedes path path' := by
  refine (Selector.pairwise_select _ s.records).imp_of_mem fun {id later} hid _ hlt => ?_
  -- The place of the first record that is accepted and shows the element is that of the path.
  have hfirst : Selector.firstAccepted ⟨name, []⟩ s.records id < s.records.length := by
    obtain ⟨r, hr, helement, haccepts⟩ := Selector.mem_select.1 hid
    exact List.findIdx_lt_length_of_exists ⟨r, hr, by simp [haccepts, helement]⟩
  have hfirst' := length_paths s ▸ hfirst
  have haccepted := List.findIdx_getElem (w := hfirst)
  rw [Bool.and_eq_true, acceptsRecord_name_iff hne, beq_iff_eq] at haccepted
  refine ⟨_, (named_getElem_iff hfirst' hfirst).2 haccepted, fun path' hpath' => ?_⟩
  obtain ⟨i, hi, hi', rfl, hname, helement⟩ := hpath'.exists_getElem
  refine List.pairwise_iff_getElem.1 (pairwise_paths s) _ i hfirst' hi
    (Nat.lt_of_lt_of_le hlt (Nat.not_lt.1 fun hbefore => ?_))
  have hrejected := List.not_of_lt_findIdx hbefore
  simp [(acceptsRecord_name_iff hne).2 hname, helement] at hrejected

lemma select_eq_nil_of_isUpper {selector : Selector}
    (h : ∃ c ∈ selector.name.toList, c.isUpper = true) : selector.select s.records = [] := by
  obtain ⟨c, hc, hupper⟩ := h
  refine List.eq_nil_iff_forall_not_mem.2 fun id hid => ?_
  obtain ⟨r, hr, -, haccepts⟩ := Selector.mem_select.1 hid
  obtain ⟨hname | hname, -⟩ := Selector.acceptsRecord_iff.1 haccepts
  · simp [hname] at hc
  · obtain ⟨i, hi, rfl⟩ := List.getElem_of_mem hr
    obtain ⟨above, element, -, htag, -⟩ :=
      (named_getElem_iff (length_paths s ▸ hi) hi).2 ⟨hname, rfl⟩
    rw [← htag, nameOfTag, String.toList_ofList] at hc
    rw [Unicode.isUpper_of_mem_lowerCase hc] at hupper
    exact Bool.noConfusion hupper

/-! ## Queries -/

/-- **Every element is found by its tag in lower case.**  For a tag that is a name, in whatever
case, the query succeeds and gives the elements whose tags are the same in lower case, each once,
in the order of the first paths to them.  A selector with a capital letter of ASCII in its name
finds nothing in any tree. -/
theorem queryAll_by_tag (engine : Engine) (s : Snapshot) :
    (∀ tag : String, IsName tag.toList →
      ∃ ids, (engine.queryAll collector s (nameOfTag tag)).1.value = .ok ids ∧ ids.Nodup ∧
        (∀ id, id ∈ ids ↔ ∃ path, s.Named (nameOfTag tag) path id) ∧
        ids.Pairwise fun id later => ∃ path, s.Named (nameOfTag tag) path id ∧
          ∀ path', s.Named (nameOfTag tag) path' later → Precedes path path') ∧
    ∀ selector : Selector, (∃ c ∈ selector.name.toList, c.isUpper = true) →
      selector.select s.records = [] ∧
        ∀ text, Selector.parse engine.config text = .ok selector →
          (engine.queryAll collector s text).1.value = .ok [] := by
  have hquery : ∀ text selector, Selector.parse engine.config text = .ok selector →
      (engine.queryAll collector s text).1.value = .ok (selector.select s.records) := by
    intro text selector h
    rw [Engine.queryAll_of_ok h, Engine.filter_of_ok h]
    rfl
  refine ⟨fun tag htag => ?_, fun selector hupper => ?_⟩
  · have hname := isName_nameOfTag htag
    have hne : nameOfTag tag ≠ "" := fun hempty => hname.ne_nil (by simp [hempty])
    exact ⟨_, hquery _ _ (parse_of_isName engine.config hname), Selector.nodup_select _ _,
      fun _ => mem_select_name hne, pairwise_select_name hne⟩
  · have hnil := select_eq_nil_of_isUpper (s := s) hupper
    exact ⟨hnil, fun text h => hnil ▸ hquery text selector h⟩

/-- The Kelvin sign becomes a letter of ASCII: an element with it in its tag is found by this
letter, and by no capital one. -/
theorem queryAll_by_tag_kelvin :
    let tag := String.ofList ['\u212a', 'B']
    let s : Snapshot := ⟨tag, "1", none, [leaf "k" "2"], [leaf "KB" "3"]⟩
    let engine : Engine := ⟨⟨false⟩⟩
    IsName tag.toList ∧ nameOfTag tag = "kb" ∧
      (∃ ids, (engine.queryAll collector s "kb").1.value = .ok ids ∧ ids.Nodup ∧ "1" ∈ ids ∧
        "3" ∈ ids) ∧
      Selector.parse engine.config "KB" = .ok ⟨"KB", []⟩ ∧
        (engine.queryAll collector s "KB").1.value = .ok [] := by
  intro tag s engine
  have hname : IsName tag.toList := by
    rw [String.toList_ofList]
    exact ⟨by simp, List.forall_iff_forall_mem.1 (by decide), by simpa using (by decide)⟩
  have hkb : nameOfTag tag = "kb" := by
    rw [nameOfTag, String.toList_ofList]
    decide
  have hparse : Selector.parse engine.config "KB" = .ok ⟨"KB", []⟩ :=
    parse_of_isName engine.config
      ⟨by simp, List.forall_iff_forall_mem.1 (by decide), by simpa using (by decide)⟩
  have hroot : s.Named "kb" [] "1" := ⟨[], s.root, rfl, hkb, rfl⟩
  have hshadow : s.Named "kb" [.shadow 0] "3" := ⟨[s.root], leaf "KB" "3", rfl, by decide, rfl⟩
  obtain ⟨hfound, hnone⟩ := queryAll_by_tag engine s
  obtain ⟨ids, hids, hnodup, hmem, -⟩ := hfound tag hname
  rw [hkb] at hids hmem
  exact ⟨hname, hkb, ⟨ids, hids, hnodup, (hmem "1").2 ⟨_, hroot⟩, (hmem "3").2 ⟨_, hshadow⟩⟩,
    hparse, (hnone ⟨"KB", []⟩ ⟨'K', by simp, by decide⟩).2 "KB" hparse⟩

end ComponentQuery.Snapshot
