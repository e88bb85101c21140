import Mathlib.Data.List.Induction
import ComponentQuery.Proofs.Matching.Position

/-!
# Addresses of positions

A position in a value is told by places: which of the members of an object, or which of the items of
an array, again and again.  Its address is the path of names to it, and `Json.Addressed` relates the
two without following any path.  The name of a member is its own; the name of an item is the
shortest decimal text of its place.  Nothing inside of any other value has an address.

That the names of items are read as the places that they denote, and no other texts are read, is
`arrayIndex?_eq_some_iff`.  It rests on the fact that the texts of decimal digits for one number
differ in their leading zeros only (`Decimal.Denotes.exists_eq_append`).

`Json.property?_eq_some_iff` and `Json.Step.name_eq_iff` are the steps, which the run along an
address iterates.  The main result is `Json.resolve?_eq_some_iff_addressed`.
-/

namespace ComponentQuery

/-! ## Decimal texts -/

namespace Decimal

/-- A text of decimal digits that denotes a number, perhaps with zeros in front. -/
structure Denotes (cs : List Char) (n : Nat) : Prop where
  ne_nil : cs ≠ []
  isDigit : ∀ c ∈ cs, c.isDigit = true
  value : ofDigits cs = n

/-- The text of decimal digits for a number that no other one is shorter than. -/
structure DenotesShortest (cs : List Char) (n : Nat) : Prop extends Denotes cs n where
  length_le : ∀ ds, Denotes ds n → cs.length ≤ ds.length

lemma denotes_digitsText (n : Nat) : Denotes (digitsText n) n :=
  ⟨digitsText_ne_nil n, isDigit_of_mem_digitsText, ofDigits_digitsText n⟩

lemma digitsText_of_isDigit {c : Char} (hc : c.isDigit = true) :
    digitsText (c.toNat - '0'.toNat) = [c] := by
  obtain ⟨hlo, hhi⟩ : 48 ≤ c.toNat ∧ c.toNat ≤ 57 := Char.isDigit_iff_toNat.1 hc
  have hlt : c.toNat - 48 < 10 := by omega
  show Nat.toDigits 10 (c.toNat - 48) = [c]
  rw [Nat.toDigits_of_lt_base hlt, List.cons.injEq]
  refine ⟨Char.toNat_inj.1 ?_, rfl⟩
  rw [Nat.toNat_digitChar_of_lt_ten hlt]
  omega

/-- One more digit behind a number that is not zero is one more digit of its text. -/
lemma digitsText_mul_ten_add {m d : Nat} (hm : m ≠ 0) (hd : d < 10) :
    digitsText (m * 10 + d) = digitsText m ++ digitsText d := by
  unfold digitsText
  rw [Nat.toDigits_append_toDigits (by decide) (Nat.pos_of_ne_zero hm) hd, Nat.mul_comm]

/-- **Texts for one number differ in leading zeros only.** -/
lemma Denotes.exists_eq_append {cs : List Char} {n : Nat} (h : Denotes cs n) :
    ∃ k, cs = List.replicate k '0' ++ digitsText n := by
  obtain ⟨hne, hdigits, rfl⟩ := h
  -- The last digit is taken off, as the value is that of the others times ten, and of the last.
  induction cs using List.reverseRecOn with
  | nil => exact absurd rfl hne
  | append_singleton ds c ih =>
    have hc : c.isDigit = true := hdigits c (by simp)
    have hlt : c.toNat - '0'.toNat < 10 := by
      have hle : c.toNat ≤ '0'.toNat + 9 := (Char.isDigit_iff_toNat.1 hc).2
      omega
    have hvalue : ofDigits (ds ++ [c]) = ofDigits ds * 10 + (c.toNat - '0'.toNat) := by
      simp [ofDigits]
    by_cases hds : ds = []
    · subst hds
      refine ⟨0, ?_⟩
      calc [c] = digitsText (c.toNat - '0'.toNat) := (digitsText_of_isDigit hc).symm
        _ = digitsText (ofDigits ([] ++ [c])) := by
          rw [hvalue, ofDigits, List.foldl_nil, Nat.zero_mul, Nat.zero_add]
    · obtain ⟨k, hk⟩ := ih hds fun d hd => hdigits d (List.mem_append_left _ hd)
      by_cases hzero : ofDigits ds = 0
      · -- the digits before are zeros, one of them for the text of their value
        refine ⟨k + 1, ?_⟩
        rw [hzero, digitsText_zero, ← List.replicate_succ'] at hk
        calc ds ++ [c] = List.replicate (k + 1) '0' ++ [c] := congrArg (· ++ [c]) hk
          _ = List.replicate (k + 1) '0' ++ digitsText (ofDigits (ds ++ [c])) := by
            rw [hvalue, hzero, Nat.zero_mul, Nat.zero_add, digitsText_of_isDigit hc]
      · refine ⟨k, ?_⟩
        calc ds ++ [c] = List.replicate k '0' ++ digitsText (ofDigits ds) ++ [c] :=
            congrArg (· ++ [c]) hk
          _ = List.replicate k '0' ++ digitsText (ofDigits (ds ++ [c])) := by
            rw [hvalue, digitsText_mul_ten_add hzero hlt, digitsText_of_isDigit hc,
              List.append_assoc]

lemma denotesShortest_iff {cs : List Char} {n : Nat} :
    DenotesShortest cs n ↔ cs = digitsText n := by
  constructor
  · intro h
    obtain ⟨k, hk⟩ := h.toDenotes.exists_eq_append
    have hle := h.length_le _ (denotes_digitsText n)
    rw [hk, List.length_append, List.length_replicate] at hle
    obtain rfl : k = 0 := by omega
    simpa using hk
  · rintro rfl
    refine ⟨denotes_digitsText n, fun ds hds => ?_⟩
    obtain ⟨k, rfl⟩ := hds.exists_eq_append
    simp

end Decimal

/-- **Array indices are read from their shortest texts**, and from no others. -/
theorem arrayIndex?_eq_some_iff {name : String} {i : Nat} :
    arrayIndex? name = some i ↔ i ≤ maxIndex ∧ Decimal.DenotesShortest name.toList i := by
  rw [Decimal.denotesShortest_iff]
  constructor
  · fun_cases arrayIndex? name with
    | case1 cs hzero =>
      intro h
      obtain rfl := Option.some.inj h
      exact ⟨Nat.zero_le _, hzero⟩
    | case2 cs _ hcanonical index hle =>
      intro h
      obtain rfl := Option.some.inj h
      obtain ⟨hne, hhead, hdigits⟩ := hcanonical
      refine ⟨hle, ?_⟩
      obtain ⟨k, hk⟩ :=
        Decimal.Denotes.exists_eq_append ⟨hne, List.all_eq_true.1 hdigits, rfl⟩
      -- digits that do not begin with zero have no zeros in front
      cases k with
      | zero => simpa using hk
      | succ k => exact absurd (by rw [hk]; rfl) hhead
    | _ => simp
  · rintro ⟨hle, hname⟩
    have hdigits := Json.arrayIndex?_digitsText hle
    rwa [← hname, String.ofList_toList] at hdigits

namespace Json

/-! ## Steps -/

/-- A step to the member or the item at a place, and its name.  In an object that has a name twice,
only the first of the two is named. -/
inductive Step : Json → Nat → String → Json → Prop where
  | member {members : List (String × Json)} {i : Nat} {name : String} {v : Json}
      (hmember : members[i]? = some (name, v)) (hfirst : ∀ m ∈ members.take i, m.1 ≠ name) :
      Step (.object members) i name v
  | item {items : List Json} {i : Nat} {name : String} {v : Json} (hitem : items[i]? = some v)
      (hi : i ≤ maxIndex) (hname : Decimal.DenotesShortest name.toList i) :
      Step (.array items) i name v

lemma member?_eq_some_iff {members : List (String × Json)} {name : String} {v : Json} :
    member? name members = some v ↔
      ∃ i, members[i]? = some (name, v) ∧ ∀ m ∈ members.take i, m.1 ≠ name := by
  unfold member?
  rw [List.lookup_eq_some_iff]
  constructor
  · rintro ⟨before, after, rfl, hbefore⟩
    refine ⟨before.length, by simp, fun m hm => ?_⟩
    rw [List.take_left] at hm
    exact Ne.symm (bne_iff_ne.1 (hbefore m hm))
  · rintro ⟨i, hi, hfirst⟩
    obtain ⟨hlt, hget⟩ := List.getElem?_eq_some_iff.1 hi
    refine ⟨members.take i, members.drop (i + 1), ?_, fun m hm => ?_⟩
    · rw [← hget, ← List.drop_eq_getElem_cons hlt, List.take_append_drop]
    · exact bne_iff_ne.2 (Ne.symm (hfirst m hm))

/-- If all names are different, every member is the first of its name. -/
lemma forall_mem_take_ne {members : List (String × Json)} (hnodup : (members.map Prod.fst).Nodup)
    {i : Nat} {name : String} {v : Json} (hi : members[i]? = some (name, v)) :
    ∀ m ∈ members.take i, m.1 ≠ name := by
  intro m hm
  obtain ⟨j, hj, rfl⟩ := List.mem_take_iff_getElem.1 hm
  obtain ⟨hlt, hget⟩ := List.getElem?_eq_some_iff.1 hi
  have hne := List.pairwise_iff_getElem.1 hnodup j i (by simp; omega) (by simpa using hlt)
    (by omega)
  simpa [hget] using hne

/-- **A name leads to a value if there is a step of that name to it.** -/
theorem property?_eq_some_iff {v w : Json} {name : String} :
    v.property? name = some w ↔ ∃ i, v.Step i name w := by
  cases v with
  | object members =>
    rw [property?, member?_eq_some_iff]
    constructor
    · rintro ⟨i, hmember, hfirst⟩
      exact ⟨i, .member hmember hfirst⟩
    · rintro ⟨i, ⟨hmember, hfirst⟩⟩
      exact ⟨i, hmember, hfirst⟩
  | array items =>
    rw [property?, Option.bind_eq_some_iff]
    constructor
    · rintro ⟨i, hindex, hitem⟩
      obtain ⟨hi, hname⟩ := arrayIndex?_eq_some_iff.1 hindex
      exact ⟨i, .item hitem hi hname⟩
    · rintro ⟨i, h⟩
      cases h with
      | item hitem hi hname => exact ⟨i, arrayIndex?_eq_some_iff.2 ⟨hi, hname⟩, hitem⟩
  | _ =>
    refine iff_of_false (by simp [property?]) ?_
    rintro ⟨i, h⟩
    cases h

lemma Step.name_eq_iff {u v v' : Json} {i i' : Nat} {name name' : String} (h : u.Step i name v)
    (h' : u.Step i' name' v') : name = name' ↔ i = i' := by
  cases h with
  | item _ _ hname =>
    cases h' with
    | item _ _ hname' =>
      constructor
      · rintro rfl
        exact hname.value.symm.trans hname'.value
      · rintro rfl
        rw [Decimal.denotesShortest_iff] at hname hname'
        exact String.toList_inj.1 (hname.trans hname'.symm)
  | member hmember hfirst =>
    cases h' with
    | member hmember' hfirst' =>
      constructor
      · rintro rfl
        -- Neither of the two is before the other, since both are the first of the name.
        apply Nat.le_antisymm
        · by_contra hlt
          rw [← List.getElem?_take_of_lt (Nat.lt_of_not_le hlt)] at hmember'
          exact hfirst _ (List.mem_of_getElem? hmember') rfl
        · by_contra hlt
          rw [← List.getElem?_take_of_lt (Nat.lt_of_not_le hlt)] at hmember
          exact hfirst' _ (List.mem_of_getElem? hmember) rfl
      · rintro rfl
        exact (Prod.mk.inj (Option.some.inj (hmember.symm.trans hmember'))).1

lemma Step.value_eq {u v v' : Json} {i : Nat} {name name' : String} (h : u.Step i name v)
    (h' : u.Step i name' v') : v = v' := by
  cases h with
  | item hitem =>
    cases h' with
    | item hitem' => exact Option.some.inj (hitem.symm.trans hitem')
  | member hmember =>
    cases h' with
    | member hmember' =>
      exact (Prod.mk.inj (Option.some.inj (hmember.symm.trans hmember'))).2

/-! ## Addresses -/

/-- A position in a value, its address, and the value at the position. -/
inductive Addressed : Json → List Nat → List String → Json → Prop where
  | here (v : Json) : Addressed v [] [] v
  | step {u v w : Json} {i : Nat} {name : String} {places : List Nat} {path : List String}
      (hstep : u.Step i name v) (h : Addressed v places path w) :
      Addressed u (i :: places) (name :: path) w

lemma resolve?_eq_some_iff {v w : Json} {path : List String} :
    v.resolve? path = some w ↔ ∃ places, v.Addressed places path w := by
  induction path generalizing v with
  | nil =>
    rw [resolve?_nil, Option.some.injEq]
    constructor
    · rintro rfl
      exact ⟨[], .here v⟩
    · rintro ⟨_, ⟨⟩⟩
      rfl
  | cons name path ih =>
    rw [resolve?_cons, Option.bind_eq_some_iff]
    constructor
    · rintro ⟨u, hu, hw⟩
      obtain ⟨i, hstep⟩ := property?_eq_some_iff.1 hu
      obtain ⟨places, hplaces⟩ := ih.1 hw
      exact ⟨i :: places, .step hstep hplaces⟩
    · rintro ⟨_, h⟩
      cases h with
      | step hstep h => exact ⟨_, property?_eq_some_iff.2 ⟨_, hstep⟩, ih.2 ⟨_, h⟩⟩

lemma Addressed.path_eq_iff {v w w' : Json} {places places' : List Nat} {path path' : List String}
    (h : v.Addressed places path w) (h' : v.Addressed places' path' w') :
    path = path' ↔ places = places' := by
  induction h generalizing places' path' with
  | here =>
    cases h' with
    | here => simp
    | step => simp
  | step hstep _ ih =>
    cases h' with
    | here => simp
    | step hstep' h' =>
      rw [List.cons.injEq, List.cons.injEq, hstep.name_eq_iff hstep']
      refine and_congr_right fun hi => ?_
      subst hi
      obtain rfl := hstep.value_eq hstep'
      exact ih h'

/-- **Paths address positions uniquely.**  A path resolves to a value exactly if it is the address
of a position that holds the value, and different positions have different addresses.  So each item
of an array has one name, and if the names in an object are all different, each leads to its member.
A path can be followed in two parts, also from a value that may be absent. -/
theorem resolve?_eq_some_iff_addressed :
    (∀ (v w : Json) (path : List String),
      v.resolve? path = some w ↔ ∃ places, v.Addressed places path w) ∧
    (∀ (v w w' : Json) (places places' : List Nat) (path path' : List String),
      v.Addressed places path w → v.Addressed places' path' w' →
        (path = path' ↔ places = places')) ∧
    (∀ (items : List Json) (i : Nat) (v : Json), items[i]? = some v → i ≤ maxIndex →
      ∃! name, (Json.array items).Addressed [i] [name] v) ∧
    (∀ (members : List (String × Json)) (name : String) (v : Json),
      (members.map Prod.fst).Nodup →
        ((Json.object members).resolve? [name] = some v ↔ (name, v) ∈ members)) ∧
    (∀ (root : Option Json) (p q : List String),
      root.bind (·.resolve? (p ++ q)) = (root.bind (·.resolve? p)).bind (·.resolve? q)) ∧
    ∀ p : List String, (none : Option Json).bind (·.resolve? p) = none := by
  refine ⟨fun _ _ _ => resolve?_eq_some_iff, fun _ _ _ _ _ _ _ h h' => h.path_eq_iff h',
    fun items i v hitem hi => ?_, fun members name v hnodup => ?_, fun root p q => ?_,
    fun _ => rfl⟩
  · -- The shortest digits name an item, and nothing else does, as a path has one place.
    have hname := Decimal.denotesShortest_iff.2 (@String.toList_ofList (Decimal.digitsText i))
    have hstep := Step.item hitem hi hname
    refine ⟨_, .step hstep (.here v), fun name h => ?_⟩
    exact List.singleton_inj.1 ((h.path_eq_iff (.step hstep (.here v))).2 rfl)
  · rw [resolve?_eq_some_iff]
    constructor
    · rintro ⟨_, h⟩
      cases h with
      | step hstep h =>
        cases h
        cases hstep with
        | member hmember => exact List.mem_of_getElem? hmember
    · intro h
      obtain ⟨i, hi⟩ := List.mem_iff_getElem?.1 h
      exact ⟨[i], .step (.member hi (forall_mem_take_ne hnodup hi)) (.here v)⟩
  · cases root with
    | none => rfl
    | some v => exact resolve?_append v p q

/-- An item inside of a member, which has an empty name: its path is an address, and no other name
leads to the item. -/
theorem resolve?_eq_some_iff_addressed_item :
    let items : List Json := [.null, .string "x"]
    let members : List (String × Json) := [("", .array items), ("1", .null)]
    (items[1]? = some (.string "x") ∧ 1 ≤ maxIndex ∧ (members.map Prod.fst).Nodup) ∧
      (Json.object members).resolve? [""] = some (.array items) ∧
      (∃ places, (Json.object members).Addressed places ["", "1"] (.string "x")) ∧
      ∃! name, (Json.array items).Addressed [1] [name] (.string "x") := by
  intro items members
  obtain ⟨hresolve, -, hitem, hmember, -⟩ := resolve?_eq_some_iff_addressed
  have hx : items[1]? = some (.string "x") := rfl
  have hle : 1 ≤ maxIndex := by decide
  have hnodup : (members.map Prod.fst).Nodup := by decide
  have hfound := (hmember members "" (.array items) hnodup).2 (by simp [members])
  have hpath : (Json.object members).resolve? ["", "1"] = some (.string "x") := by
    rw [resolve?_cons, property?, member?]
    rfl
  exact ⟨⟨hx, hle, hnodup⟩, hfound, (hresolve _ _ _).1 hpath, hitem items 1 _ hx hle⟩

end Json

end ComponentQuery
