import ComponentQuery.Matching.Property
import ComponentQuery.Proofs.Json.RoundTrip

/-!
# Positions in values

A position in a value is reached by steps, each to a member of an object or to an item of an array
(`Json.Leads`).  The names of the steps are a path, the name of an item being its index in decimal
digits, and the path resolves to the value at the position: `Json.Leads.resolve?_eq`.

For members this needs that an object has each name once, as all valid ones do.  For items it needs
that the digits of an index are read back, which they are for all indices that an array may have.
-/

namespace ComponentQuery.Json

/-- Steps from a value to one inside of it, and the names of the steps.  A member without a name
cannot be stepped to. -/
inductive Leads : Json → List String → Json → Prop where
  | here (v : Json) : Leads v [] v
  | member {members : List (String × Json)} {name : String} {v w : Json} {path : List String}
      (hname : name ≠ "") (hmember : (name, v) ∈ members) (h : Leads v path w) :
      Leads (.object members) (name :: path) w
  | item {items : List Json} {i : Nat} {v w : Json} {path : List String} (hi : i ≤ maxIndex)
      (hitem : items[i]? = some v) (h : Leads v path w) :
      Leads (.array items) (String.ofList (Decimal.digitsText i) :: path) w

/-! ## Steps -/

lemma member?_of_mem {members : List (String × Json)} (hsorted : members.Pairwise (·.1 < ·.1))
    {name : String} {v : Json} (h : (name, v) ∈ members) : member? name members = some v := by
  unfold member?
  induction members with
  | nil => simp at h
  | cons m members ih =>
    obtain ⟨k, w⟩ := m
    obtain ⟨hk, hsorted⟩ := List.pairwise_cons.1 hsorted
    rcases List.mem_cons.1 h with h | h
    · obtain ⟨rfl, rfl⟩ := Prod.mk.inj h
      exact List.lookup_cons_self
    · have hne : (name == k) = false := by simpa using (String.ne_of_lt (hk _ h)).symm
      rw [List.lookup_cons, hne]
      exact ih hsorted h

lemma arrayIndex?_digitsText {i : Nat} (hi : i ≤ maxIndex) :
    arrayIndex? (String.ofList (Decimal.digitsText i)) = some i := by
  unfold arrayIndex?
  rw [String.toList_ofList]
  by_cases hzero : i = 0
  · subst hzero
    rfl
  · have hhead := Decimal.head?_digitsText_ne hzero
    have hne : Decimal.digitsText i ≠ ['0'] := fun h => hhead (by rw [h]; rfl)
    have hdigits : (Decimal.digitsText i).all Char.isDigit = true :=
      List.all_eq_true.2 Decimal.isDigit_of_mem_digitsText
    simp [hne, hhead, hdigits, hi]

lemma ValidItems.valid {items : List Json} (h : ValidItems items) : ∀ v ∈ items, v.Valid := by
  induction items with
  | nil => simp
  | cons v items ih => exact List.forall_mem_cons.2 ⟨h.1, ih h.2⟩

lemma ValidMembers.valid {members : List (String × Json)} (h : ValidMembers members) :
    ∀ m ∈ members, m.2.Valid := by
  induction members with
  | nil => simp
  | cons m members ih => exact List.forall_mem_cons.2 ⟨h.1, ih h.2⟩

/-! ## Paths -/

/-- **The path of a position resolves to the value there.** -/
theorem Leads.resolve?_eq {v w : Json} {path : List String} (h : Leads v path w) (hv : v.Valid) :
    v.resolve? path = some w ∧ w.Valid := by
  induction h with
  | here => exact ⟨rfl, hv⟩
  | member _ hmember _ ih =>
    obtain ⟨hsorted, hmembers⟩ := hv
    obtain ⟨hw, hvalid⟩ := ih (hmembers.valid _ hmember)
    rw [resolve?_cons, property?, member?_of_mem hsorted hmember, Option.bind_some]
    exact ⟨hw, hvalid⟩
  | item hi hitem _ ih =>
    obtain ⟨hw, hvalid⟩ := ih (ValidItems.valid hv _ (List.mem_of_getElem? hitem))
    rw [resolve?_cons, property?, arrayIndex?_digitsText hi, Option.bind_some, hitem,
      Option.bind_some]
    exact ⟨hw, hvalid⟩

lemma Leads.ne_empty {v w : Json} {path : List String} (h : Leads v path w) :
    ∀ name ∈ path, name ≠ "" := by
  induction h with
  | here => simp
  | member hname _ _ ih => exact List.forall_mem_cons.2 ⟨hname, ih⟩
  | @item _ i _ _ _ _ _ _ ih =>
    refine List.forall_mem_cons.2 ⟨fun hempty => Decimal.digitsText_ne_nil i ?_, ih⟩
    simpa using congrArg String.toList hempty

end ComponentQuery.Json
