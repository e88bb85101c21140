import Mathlib.Data.List.Forall2
import ComponentQuery.Component.Snapshot

/-!
# The records of a tree, path by path

An element of a tree is reached by a path from the root: each step goes to an element of the shadow
or to a child, by its place there.  Document order is the lexical order of paths in which all steps
into a shadow come before all steps to children, so that a path comes before those that go on from
it.

`Snapshot.records_in_document_order` says which records a tree has: one for each path, in document
order, and nothing in it depends on an element that is not on the path.  The proof goes by recursion
on the tree, with lists of trees beside it, which are counted from some place on; the inherited
state is what the path so far says if the rest of it says nothing.
-/

namespace ComponentQuery.Snapshot

/-! ## Paths -/

/-- A step from an element to one directly below it. -/
inductive Step where
  | shadow (place : Nat)
  | child (place : Nat)
deriving DecidableEq, Repr

/-- The order of steps: shadow before children, and each in its order. -/
inductive Step.Before : Step → Step → Prop where
  | shadow {i j : Nat} (h : i < j) : Before (.shadow i) (.shadow j)
  | across (i j : Nat) : Before (.shadow i) (.child j)
  | child {i j : Nat} (h : i < j) : Before (.child i) (.child j)

/-- Document order of paths: a path comes before those that go on from it, and the first step that
differs decides between all others. -/
abbrev Precedes : List Step → List Step → Prop := List.Lex Step.Before

/-- The tree to which a step leads. -/
def below? (s : Snapshot) : Step → Option Snapshot
  | .shadow i => s.shadow[i]?
  | .child i => s.children[i]?

/-- The root of a tree alone, with nothing below it. -/
def root (s : Snapshot) : Snapshot := { s with children := [], shadow := [] }

/-- The elements along a path, from the root to the one that is reached, each without what is below
it. -/
def along? (s : Snapshot) : List Step → Option (List Snapshot)
  | [] => some [s.root]
  | step :: path => (s.below? step).bind fun t => (t.along? path).map (s.root :: ·)

mutual

/-- The paths of a tree in document order. -/
def paths : Snapshot → List (List Step)
  | ⟨_, _, _, children, shadow⟩ =>
    [] :: (pathsFrom .shadow 0 shadow ++ pathsFrom .child 0 children)

/-- The paths into trees that stand side by side, the first of them at some place. -/
def pathsFrom (step : Nat → Step) (place : Nat) : List Snapshot → List (List Step)
  | [] => []
  | s :: ss => (paths s).map (step place :: ·) ++ pathsFrom step (place + 1) ss

end

variable {s : Snapshot} {ss : List Snapshot} {step : Nat → Step} {place : Nat} {path : List Step}

/-! ## Every path is there -/

lemma mem_pathsFrom :
    path ∈ pathsFrom step place ss ↔
      ∃ i t rest, ss[i]? = some t ∧ path = step (place + i) :: rest ∧ rest ∈ t.paths := by
  induction ss generalizing place with
  | nil => simp [pathsFrom]
  | cons s ss ih =>
    rw [pathsFrom, List.mem_append, ih, List.mem_map]
    constructor
    · rintro (⟨rest, hrest, rfl⟩ | ⟨i, t, rest, ht, rfl, hrest⟩)
      · exact ⟨0, s, rest, rfl, rfl, hrest⟩
      · exact ⟨i + 1, t, rest, ht, by rw [Nat.add_right_comm, Nat.add_assoc], hrest⟩
    · rintro ⟨i, t, rest, ht, rfl, hrest⟩
      cases i with
      | zero =>
        obtain rfl : s = t := by simpa using ht
        exact .inl ⟨rest, hrest, rfl⟩
      | succ i =>
        refine .inr ⟨i, t, rest, by simpa using ht, ?_, hrest⟩
        rw [Nat.add_right_comm, Nat.add_assoc]

lemma mem_paths_cons {first : Step} :
    first :: path ∈ s.paths ↔ ∃ t, s.below? first = some t ∧ path ∈ t.paths := by
  obtain ⟨tag, id, component, children, shadow⟩ := s
  rw [paths, List.mem_cons, List.mem_append, mem_pathsFrom, mem_pathsFrom]
  cases first <;> simp [below?]

/-- **The paths of a tree** are those along which there are elements. -/
lemma mem_paths : path ∈ s.paths ↔ (s.along? path).isSome := by
  induction path generalizing s with
  | nil =>
    obtain ⟨tag, id, component, children, shadow⟩ := s
    simp [paths, along?]
  | cons first path ih =>
    rw [mem_paths_cons, along?]
    cases s.below? first with
    | none => simp
    | some t => simp [ih]

/-! ## The paths are in document order -/

lemma exists_cons_of_mem_pathsFrom (h : path ∈ pathsFrom step place ss) :
    ∃ i rest, path = step (place + i) :: rest := by
  obtain ⟨i, _, rest, _, hpath, _⟩ := mem_pathsFrom.1 h
  exact ⟨i, rest, hpath⟩

mutual

theorem pairwise_paths (s : Snapshot) : s.paths.Pairwise Precedes := by
  match s with
  | ⟨tag, id, component, children, shadow⟩ =>
    rw [paths, List.pairwise_cons, List.pairwise_append]
    refine ⟨fun path hpath => ?_, pairwise_pathsFrom (fun h => .shadow h) 0 shadow,
      pairwise_pathsFrom (fun h => .child h) 0 children, fun path hpath path' hpath' => ?_⟩
    · rcases List.mem_append.1 hpath with h | h <;>
        obtain ⟨i, rest, rfl⟩ := exists_cons_of_mem_pathsFrom h <;> exact .nil
    · obtain ⟨i, rest, rfl⟩ := exists_cons_of_mem_pathsFrom hpath
      obtain ⟨j, rest', rfl⟩ := exists_cons_of_mem_pathsFrom hpath'
      exact .rel (.across _ _)

theorem pairwise_pathsFrom {step : Nat → Step}
    (hstep : ∀ {i j}, i < j → (step i).Before (step j)) (place : Nat) (ss : List Snapshot) :
    (pathsFrom step place ss).Pairwise Precedes := by
  match ss with
  | [] => exact .nil
  | s :: ss =>
    rw [pathsFrom, List.pairwise_append, List.pairwise_map]
    refine ⟨(pairwise_paths s).imp fun h => .cons h, pairwise_pathsFrom hstep (place + 1) ss,
      fun path hpath path' hpath' => ?_⟩
    obtain ⟨rest, -, rfl⟩ := List.mem_map.1 hpath
    obtain ⟨i, rest', rfl⟩ := exists_cons_of_mem_pathsFrom hpath'
    exact .rel (hstep (by omega))

end

/-! ## The record at the end of a path -/

/-- The record of the last of some elements: its name and identity are its own, and its state is the
last one that there is among the elements or, if there is none, the inherited one. -/
inductive RecordAlong (inherited : Option Json) : List Snapshot → Record String → Prop where
  | intro (above : List Snapshot) (element : Snapshot) :
      RecordAlong inherited (above ++ [element])
        ⟨some (nameOfTag element.tag),
          ((above ++ [element]).filterMap (·.component)).getLast? <|> inherited, element.id⟩

/-- One more element above stands between the others and what it inherits itself. -/
lemma RecordAlong.cons {inherited : Option Json} {elements : List Snapshot} {r : Record String}
    (h : RecordAlong (s.component <|> inherited) elements r) :
    RecordAlong inherited (s :: elements) r := by
  obtain ⟨above, element⟩ := h
  have hstate : ∀ states : List Json,
      ((s.component.toList ++ states).getLast? <|> inherited) =
        (states.getLast? <|> s.component <|> inherited) := by
    intro states
    cases s.component with
    | none => simp
    | some state => cases hlast : states.getLast? <;> simp [List.getLast?_cons, hlast]
  have hcons : (s :: (above ++ [element])).filterMap (·.component) =
      s.component.toList ++ (above ++ [element]).filterMap (·.component) := by
    cases h : s.component <;> simp [h]
  have hrecord : RecordAlong inherited _ _ := .intro (s :: above) element
  rwa [List.cons_append, hcons, hstate] at hrecord

mutual

/-- The records of a tree below an element are those at the ends of its paths. -/
theorem forall₂_recordsBelow (s : Snapshot) (inherited : Option Json) :
    List.Forall₂ (fun path r => ∃ elements, s.along? path = some elements ∧
      RecordAlong inherited elements r) s.paths (recordsBelow inherited s) := by
  match s with
  | ⟨tag, id, component, children, shadow⟩ =>
    rw [paths, recordsBelow]
    refine .cons ⟨_, rfl, ?_⟩ (List.rel_append ?_ ?_)
    · have hrecord : RecordAlong inherited _ _ :=
        .intro [] (root ⟨tag, id, component, children, shadow⟩)
      cases component <;> exact hrecord
    · exact forall₂_recordsOfAll shadow inherited fun i => by simp [below?]
    · exact forall₂_recordsOfAll children inherited fun i => by simp [below?]

/-- The records of trees directly below an element are those at the ends of the paths from the
element into them. -/
theorem forall₂_recordsOfAll (ss : List Snapshot) (inherited : Option Json) {s : Snapshot}
    {step : Nat → Step} {place : Nat} (hbelow : ∀ i, s.below? (step (place + i)) = ss[i]?) :
    List.Forall₂ (fun path r => ∃ elements, s.along? path = some elements ∧
      RecordAlong inherited elements r) (pathsFrom step place ss)
        (recordsOfAll (s.component <|> inherited) ss) := by
  match ss with
  | [] => exact .nil
  | t :: ss =>
    have hfirst : s.below? (step place) = some t := hbelow 0
    have hrest : ∀ i, s.below? (step (place + 1 + i)) = ss[i]? := fun i => by
      simpa [Nat.add_assoc, Nat.add_comm 1] using hbelow (i + 1)
    rw [pathsFrom, recordsOfAll]
    refine List.rel_append ?_ (forall₂_recordsOfAll ss inherited hrest)
    rw [List.forall₂_map_left_iff]
    refine (forall₂_recordsBelow t (s.component <|> inherited)).imp ?_
    rintro path r ⟨elements, helements, hrecord⟩
    exact ⟨s.root :: elements, by simp [along?, hfirst, helements], RecordAlong.cons hrecord⟩

end

lemma RecordAlong.unique {inherited : Option Json} {elements : List Snapshot}
    {q r : Record String} (hq : RecordAlong inherited elements q)
    (hr : RecordAlong inherited elements r) : q = r := by
  obtain ⟨above, element⟩ := hq
  generalize h : above ++ [element] = elements at hr
  obtain ⟨above', element'⟩ := hr
  obtain ⟨rfl, helement⟩ := List.append_inj' h rfl
  obtain rfl : element = element' := by simpa using helement
  rfl

/-- **The records of a tree** are one for each path, in document order: an element comes before all
of its shadow, and that before all of its children.  The record at the end of a path has the name
of the last tag on it, the identity of that element, and the last state on the path, if there is
one.  So it is the same in all trees that have the same elements along the path, whatever else
they have: no state gets to an element that is not below it. -/
theorem records_in_document_order (s : Snapshot) :
    s.paths.Pairwise Precedes ∧ (∀ path, path ∈ s.paths ↔ (s.along? path).isSome) ∧
      List.Forall₂ (fun path r => ∃ above element, s.along? path = some (above ++ [element]) ∧
        r.name = some (nameOfTag element.tag) ∧ r.element = element.id ∧
        r.properties = ((above ++ [element]).filterMap (·.component)).getLast?) s.paths
          s.records ∧
      ∀ (t : Snapshot) path q r, (path, q) ∈ s.paths.zip s.records →
        (path, r) ∈ t.paths.zip t.records → s.along? path = t.along? path → q = r := by
  refine ⟨pairwise_paths s, fun path => mem_paths, ?_, fun t path q r hq hr hsame => ?_⟩
  · refine (forall₂_recordsBelow s none).imp ?_
    rintro path r ⟨elements, helements, above, element⟩
    exact ⟨above, element, helements, rfl, rfl, by simp⟩
  · obtain ⟨elements, hs, hq⟩ := (List.forall₂_iff_zip.1 (forall₂_recordsBelow s none)).2 hq
    obtain ⟨elements', ht, hr⟩ := (List.forall₂_iff_zip.1 (forall₂_recordsBelow t none)).2 hr
    obtain rfl : elements = elements' := Option.some.inj (hs.symm.trans (hsame.trans ht))
    exact hq.unique hr

/-- The shadow of an element, with all below it, comes before its children. -/
example :
    paths ⟨"a", "b", none, [leaf "c" "d"], [(leaf "e" "f").withChild (leaf "g" "h")]⟩ =
      [[], [.shadow 0], [.shadow 0, .child 0], [.child 0]] := by
  decide

end ComponentQuery.Snapshot
