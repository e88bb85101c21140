import ComponentQuery.Proofs.Regex.Trials

/-!
# Runs of machines

A run that is not given up comes to what `Tries` says of its thread.  The proof goes through
the states that a machine keeps.  When it has threads to try above the states that it kept before,
it either comes to the end of one of them, perhaps with more states kept above those, or it goes
back to those (`ComesTo`).  `Faithful` says that of all runs of some number of steps, and `faithful`
proves it by induction on that number, with one lemma for a step (`Faithful.step`) and one for a
test (`Faithful.trial`).

A test is made above the states that are kept at that time.  Its last task forgets what was kept
for the test, and no more, since the number of states is part of that task (`exists_after`).
-/

namespace ComponentQuery.Regex

namespace Machine

variable {s : Subject} {searchFrom : Nat}

/-- A machine that works on a thread and counts the states it keeps. -/
def on (t : Thread) (kept : List Thread) (retreats : Nat) : Machine :=
  ⟨t, kept, kept.length, retreats⟩

/-- Goes back to the last of the states that are kept, and runs from there. -/
def resume (s : Subject) (searchFrom fuel : Nat) (kept : List Thread) (retreats : Nat) : Outcome :=
  match kept with
  | [] => .notFound
  | t :: kept =>
    if retreats < retreatLimit then run s searchFrom fuel (on t kept (retreats + 1)) else .givenUp

/-- Runs with the first of some threads and keeps the others; goes back if there are none. -/
def offer (s : Subject) (searchFrom fuel : Nat) (ts kept : List Thread) (retreats : Nat) :
    Outcome :=
  match ts with
  | [] => resume s searchFrom fuel kept retreats
  | t :: ts => run s searchFrom fuel (on t (ts ++ kept) retreats)

lemma keep?_eq_some {m m' : Machine} {t : Thread} (h : m.keep? t = some m') :
    m' = { m with kept := t :: m.kept, height := m.height + 1 } := by
  unfold keep? at h
  split at h
  · exact (Option.some.inj h).symm
  · simp at h

lemma keepAll?_eq_some {m m' : Machine} {ts : List Thread} (h : m.keepAll? ts = some m') :
    m' = { m with kept := ts ++ m.kept, height := ts.length + m.height } := by
  unfold keepAll? at h
  rw [List.foldlM_reverse] at h
  induction ts generalizing m' with
  | nil => simpa using h.symm
  | cons t ts ih =>
    rw [List.foldrM_cons] at h
    obtain ⟨m'', hts, ht⟩ := Option.bind_eq_some_iff.1 h
    rw [keep?_eq_some ht, ih hts]
    simp only [List.cons_append, List.length_cons]
    congr 1
    omega

/-- What a machine comes to after a step or without one. -/
def goOn (s : Subject) (searchFrom fuel : Nat) : Machine ⊕ Outcome → Outcome :=
  Sum.elim (run s searchFrom fuel) id

lemma run_succ (fuel : Nat) (m : Machine) :
    run s searchFrom (fuel + 1) m = goOn s searchFrom fuel (m.step s searchFrom) := by
  rw [run]
  cases m.step s searchFrom <;> rfl

lemma goOn_retreat (fuel : Nat) (t : Thread) (kept : List Thread) (retreats : Nat) :
    goOn s searchFrom fuel (on t kept retreats).retreat =
      resume s searchFrom fuel kept retreats := by
  cases kept with
  | nil => rfl
  | cons t' kept => exact apply_ite (goOn s searchFrom fuel) ..

lemma forget_on (t : Thread) (above kept : List Thread) (retreats : Nat) :
    (on t (above ++ kept) retreats).forget kept.length = on t kept retreats := by
  simp [forget, on]

section

variable {fuel retreats : Nat} {t u v : Thread} {kept ts us : List Thread} {task : Task}
  {rest : List Task}

lemma run_succ_of_nil (htasks : t.tasks = []) :
    run s searchFrom (fuel + 1) (on t kept retreats) = .found t.start := by
  rw [run_succ, step, show (on t kept retreats).thread.tasks = [] from htasks]
  rfl

lemma run_succ_of_goOn (htasks : t.tasks = task :: rest)
    (hmove : task.move s searchFrom kept.length t rest = .goOn u) :
    run s searchFrom (fuel + 1) (on t kept retreats) =
      run s searchFrom fuel (on u kept retreats) := by
  rw [run_succ, step, show (on t kept retreats).thread.tasks = task :: rest from htasks]
  simp only [on, hmove]
  rfl

lemma run_succ_of_fail (htasks : t.tasks = task :: rest)
    (hmove : task.move s searchFrom kept.length t rest = .fail) :
    run s searchFrom (fuel + 1) (on t kept retreats) =
      resume s searchFrom fuel kept retreats := by
  rw [run_succ, step, show (on t kept retreats).thread.tasks = task :: rest from htasks,
    ← goOn_retreat fuel t]
  simp only [on, hmove]

lemma run_succ_of_branch (htasks : t.tasks = task :: rest)
    (hmove : task.move s searchFrom kept.length t rest = .branch u v)
    (hrun : run s searchFrom (fuel + 1) (on t kept retreats) ≠ .givenUp) :
    run s searchFrom (fuel + 1) (on t kept retreats) =
      run s searchFrom fuel (on u (v :: kept) retreats) := by
  rw [run_succ, step, show (on t kept retreats).thread.tasks = task :: rest from htasks] at hrun ⊢
  simp only [show (on t kept retreats).height = kept.length from rfl,
    show (on t kept retreats).thread = t from rfl, hmove] at hrun ⊢
  cases hkeep : (on t kept retreats).keep? v with
  | none => simp [hkeep, goOn] at hrun
  | some m =>
    rw [keep?_eq_some hkeep]
    rfl

lemma run_succ_of_alternatives (htasks : t.tasks = task :: rest)
    (hmove : task.move s searchFrom kept.length t rest = .alternatives us)
    (hrun : run s searchFrom (fuel + 1) (on t kept retreats) ≠ .givenUp) :
    run s searchFrom (fuel + 1) (on t kept retreats) =
      offer s searchFrom fuel us kept retreats := by
  rw [run_succ, step, show (on t kept retreats).thread.tasks = task :: rest from htasks] at hrun ⊢
  simp only [show (on t kept retreats).height = kept.length from rfl,
    show (on t kept retreats).thread = t from rfl, hmove] at hrun ⊢
  cases us with
  | nil => exact goOn_retreat fuel t kept retreats
  | cons u us =>
    simp only at hrun ⊢
    cases hkeep : (on t kept retreats).keepAll? us with
    | none => simp [hkeep, goOn] at hrun
    | some m =>
      rw [keepAll?_eq_some hkeep]
      simp [goOn, offer, on]

lemma run_succ_of_drop {above : List Thread} (htasks : t.tasks = task :: rest)
    (hmove : task.move s searchFrom (above ++ kept).length t rest = .drop kept.length u) :
    run s searchFrom (fuel + 1) (on t (above ++ kept) retreats) =
      run s searchFrom fuel (on u kept retreats) := by
  rw [run_succ, step, show (on t (above ++ kept) retreats).thread.tasks = task :: rest from htasks]
  simp only [show (on t (above ++ kept) retreats).height = (above ++ kept).length from rfl,
    show (on t (above ++ kept) retreats).thread = t from rfl, hmove, forget_on]
  rfl

lemma run_succ_of_dropAndFail {above : List Thread} (htasks : t.tasks = task :: rest)
    (hmove : task.move s searchFrom (above ++ kept).length t rest = .dropAndFail kept.length) :
    run s searchFrom (fuel + 1) (on t (above ++ kept) retreats) =
      resume s searchFrom fuel kept retreats := by
  rw [run_succ, step, show (on t (above ++ kept) retreats).thread.tasks = task :: rest from htasks]
  simp only [show (on t (above ++ kept) retreats).height = (above ++ kept).length from rfl,
    show (on t (above ++ kept) retreats).thread = t from rfl, hmove, forget_on, goOn_retreat]

/-- A machine whose task goes on with some threads works on the first and keeps the others, unless
it keeps too many. -/
lemma run_succ_of_threads? (htasks : t.tasks = task :: rest)
    (hmove : (task.move s searchFrom kept.length t rest).threads? = some us)
    (hrun : run s searchFrom (fuel + 1) (on t kept retreats) ≠ .givenUp) :
    run s searchFrom (fuel + 1) (on t kept retreats) =
      offer s searchFrom fuel us kept retreats := by
  cases hm : task.move s searchFrom kept.length t rest with
  | goOn u =>
    obtain rfl : [u] = us := by simpa [hm, Move.threads?] using hmove
    exact run_succ_of_goOn htasks hm
  | branch u v =>
    obtain rfl : [u, v] = us := by simpa [hm, Move.threads?] using hmove
    exact run_succ_of_branch htasks hm hrun
  | alternatives vs =>
    obtain rfl : vs = us := by simpa [hm, Move.threads?] using hmove
    exact run_succ_of_alternatives htasks hm hrun
  | fail =>
    obtain rfl : [] = us := by simpa [hm, Move.threads?] using hmove
    exact run_succ_of_fail htasks hm
  | drop | dropAndFail => simp [hm, Move.threads?] at hmove

/-- Of threads that are offered and others that are kept, the last kept ones are offered as well. -/
lemma offer_append (hrun : offer s searchFrom fuel us (ts ++ kept) retreats ≠ .givenUp) :
    ∃ retreats', offer s searchFrom fuel us (ts ++ kept) retreats =
      offer s searchFrom fuel (us ++ ts) kept retreats' := by
  cases us with
  | cons u us => exact ⟨retreats, by simp [offer]⟩
  | nil =>
    cases ts with
    | nil => exact ⟨retreats, rfl⟩
    | cons t ts =>
      refine ⟨retreats + 1, ?_⟩
      simp only [offer, resume, List.cons_append, List.nil_append] at hrun ⊢
      split
      · rfl
      · simp_all

end

/-- A machine makes a test above the states that it keeps, and forgets what it kept for the test
when it succeeds: with `after` behind the thread of the test, that is how it goes on. -/
lemma exists_after (s : Subject) (searchFrom : Nat) {t : Thread} {task : Task}
    {rest : List Task} {trial : Trial} (htasks : t.tasks = task :: rest)
    (htrial : task.trial? t rest = some trial) (tail : List Task) (kept : List Thread) :
    ∃ after : List Task,
      (∀ fuel retreats, run s searchFrom (fuel + 1) (on (t.extend tail) kept retreats) ≠ .givenUp →
        run s searchFrom (fuel + 1) (on (t.extend tail) kept retreats) =
          run s searchFrom fuel (on (trial.thread.extend after)
            (trial.onFailure.toList.map (Thread.extend tail) ++ kept) retreats)) ∧
      ∀ fuel above retreats (t' : Thread), t'.tasks = [] →
        run s searchFrom (fuel + 1) (on (t'.extend after) (above ++ kept) retreats) =
          offer s searchFrom fuel ((trial.onSuccess t').toList.map (Thread.extend tail)) kept
            retreats := by
  have hmore : (t.extend tail).tasks = task :: (rest ++ tail) := by
    simp [Thread.extend, Thread.withTasks, htasks]
  have hextend : ∀ {t' : Thread} {task' : Task} {after : List Task}, t'.tasks = [] →
      (t'.extend (task' :: after)).tasks = task' :: after := by
    simp +contextual [Thread.extend, Thread.withTasks]
  -- One case for each kind of test: what follows the thread of the test drops the threads the test
  -- has left behind, and then fails or goes on as the kind says.
  unfold Task.trial? at htrial
  split at htrial
  case h_1 =>
    obtain rfl := Option.some.inj htrial
    exact ⟨.commit kept.length :: (rest ++ tail),
      fun fuel retreats _ => run_succ_of_goOn hmore rfl,
      fun fuel above retreats t' ht' => run_succ_of_drop (hextend ht') rfl⟩
  case h_2 =>
    obtain rfl := Option.some.inj htrial
    exact ⟨[.refute kept.length],
      fun fuel retreats hrun => run_succ_of_branch hmore rfl hrun,
      fun fuel above retreats t' ht' => run_succ_of_dropAndFail (hextend ht') rfl⟩
  case h_3 =>
    split at htrial
    · simp at htrial
    · obtain rfl := Option.some.inj htrial
      exact ⟨[.refute kept.length],
        fun fuel retreats hrun => run_succ_of_branch hmore (if_neg ‹_›) hrun,
        fun fuel above retreats t' ht' => run_succ_of_dropAndFail (hextend ht') rfl⟩
  case h_4 c yes no =>
    obtain rfl := Option.some.inj htrial
    exact ⟨.commit kept.length :: .carryOut yes :: (rest ++ tail),
      fun fuel retreats hrun => run_succ_of_branch hmore rfl hrun,
      fun fuel above retreats t' ht' => run_succ_of_drop (hextend ht') rfl⟩
  case h_5 => simp at htrial

/-- What a run comes to when some threads, with `tail` behind each, are tried above the states that
are kept: it goes on with the thread that came to its end, or goes back. -/
def ComesTo (s : Subject) (searchFrom : Nat) (tail : List Task) (kept : List Thread) (fuel : Nat)
    (outcome : Outcome) : Option Thread → Prop
  | some t => ∃ fuel' ≤ fuel, ∃ above retreats,
      outcome = run s searchFrom fuel' (on (t.extend tail) (above ++ kept) retreats)
  | none => ∃ fuel' ≤ fuel, ∃ retreats, outcome = resume s searchFrom fuel' kept retreats

lemma ComesTo.mono {tail : List Task} {kept : List Thread} {fuel fuel' : Nat} {outcome : Outcome}
    {r : Option Thread} (h : ComesTo s searchFrom tail kept fuel outcome r) (hle : fuel ≤ fuel') :
    ComesTo s searchFrom tail kept fuel' outcome r := by
  cases r with
  | some t =>
    obtain ⟨fuel'', hfuel, h⟩ := h
    exact ⟨fuel'', Nat.le_trans hfuel hle, h⟩
  | none =>
    obtain ⟨fuel'', hfuel, h⟩ := h
    exact ⟨fuel'', Nat.le_trans hfuel hle, h⟩

/-- What the runs of a number of steps that are not given up come to is what their threads come to
when they are tried. -/
def Faithful (s : Subject) (searchFrom fuel : Nat) : Prop :=
  ∀ (ts : List Thread) (tail : List Task) (kept : List Thread) (retreats : Nat),
    (∀ t ∈ ts, t.IsPlain) →
    offer s searchFrom fuel (ts.map (Thread.extend tail)) kept retreats ≠ .givenUp →
    ∃ r, Tries s searchFrom ts r ∧ ComesTo s searchFrom tail kept fuel
      (offer s searchFrom fuel (ts.map (Thread.extend tail)) kept retreats) r

section

variable {fuel fuel' retreats retreats' : Nat} {t : Thread} {ts us kept : List Thread} {task : Task}
  {rest tail : List Task}

/-- A run that goes on with some threads above others tries those first. -/
lemma Faithful.goOn (h : Faithful s searchFrom fuel') (hle : fuel' ≤ fuel)
    (hus : ∀ u ∈ us, u.IsPlain) (hts : ∀ t ∈ ts, t.IsPlain) {outcome : Outcome}
    (hrun : outcome ≠ .givenUp)
    (heq : outcome = offer s searchFrom fuel' (us.map (Thread.extend tail))
      (ts.map (Thread.extend tail) ++ kept) retreats) :
    ∃ r, Tries s searchFrom (us ++ ts) r ∧ ComesTo s searchFrom tail kept fuel outcome r := by
  subst heq
  obtain ⟨retreats', hoffer⟩ := offer_append hrun
  rw [hoffer, ← List.map_append] at hrun ⊢
  obtain ⟨r, htries, hcomes⟩ :=
    h (us ++ ts) tail kept retreats' (List.forall_mem_append.2 ⟨hus, hts⟩) hrun
  exact ⟨r, htries, hcomes.mono hle⟩

/-- A task that makes no test is done in one step. -/
lemma Faithful.step (h : Faithful s searchFrom fuel) (hts : ∀ t ∈ ts, t.IsPlain)
    (htasks : t.tasks = task :: rest) (ht : t.IsPlain) (htrial : task.trial? t rest = none)
    (hrun : offer s searchFrom (fuel + 1) ((t :: ts).map (Thread.extend tail)) kept retreats ≠
      .givenUp) :
    ∃ r, Tries s searchFrom (t :: ts) r ∧ ComesTo s searchFrom tail kept (fuel + 1)
      (offer s searchFrom (fuel + 1) ((t :: ts).map (Thread.extend tail)) kept retreats) r := by
  obtain ⟨htask, hrest⟩ := ht.of_tasks_eq_cons htasks
  obtain ⟨us, hgoesOn, hmove⟩ := Task.exists_threads s searchFrom htrial htask
  have hus : ∀ u ∈ us.map (Thread.extend rest), u.IsPlain :=
    List.forall_mem_map.2 fun u hu => (hgoesOn u hu).isPlain_extend hrest
  have hmap : us.map (Thread.extend (rest ++ tail)) =
      (us.map (Thread.extend rest)).map (Thread.extend tail) := by
    simp [Thread.extend, Thread.withTasks]
  have hmore : (t.extend tail).tasks = task :: (rest ++ tail) := by
    simp [Thread.extend, Thread.withTasks, htasks]
  obtain ⟨r, htries, hcomes⟩ := h.goOn (Nat.le_succ fuel) hus hts hrun
    (run_succ_of_threads? hmore (hmap ▸ hmove _ _ _) hrun)
  exact ⟨r, .step htasks htrial (hmove 0 t.tasks rest) htries, hcomes⟩

/-- A test is made with its own thread, and afterwards the run goes on as the test says. -/
lemma Faithful.trial (h : ∀ fuel' ≤ fuel, Faithful s searchFrom fuel') (hts : ∀ t ∈ ts, t.IsPlain)
    (htasks : t.tasks = task :: rest) (ht : t.IsPlain) {trial : Trial}
    (htrial : task.trial? t rest = some trial)
    (hrun : offer s searchFrom (fuel + 1) ((t :: ts).map (Thread.extend tail)) kept retreats ≠
      .givenUp) :
    ∃ r, Tries s searchFrom (t :: ts) r ∧ ComesTo s searchFrom tail kept (fuel + 1)
      (offer s searchFrom (fuel + 1) ((t :: ts).map (Thread.extend tail)) kept retreats) r := by
  obtain ⟨-, hrest⟩ := ht.of_tasks_eq_cons htasks
  have hgoesOn := Task.goesOn_trial htrial
  obtain ⟨after, hstart, hsuccess⟩ := exists_after s searchFrom htasks
    htrial tail (ts.map (Thread.extend tail) ++ kept)
  have heq := hstart fuel retreats hrun
  have hrun' : offer s searchFrom fuel ([trial.thread].map (Thread.extend after))
      (trial.onFailure.toList.map (Thread.extend tail) ++
        (ts.map (Thread.extend tail) ++ kept)) retreats ≠ .givenUp :=
    fun hgivenUp => hrun (heq.trans hgivenUp)
  obtain ⟨r, htries, hcomes⟩ := h fuel (Nat.le_refl _) _ after _ retreats
    (List.forall_mem_singleton.2 hgoesOn.thread.isPlain) hrun'
  cases r with
  | some t' =>
    -- The test succeeds: what it kept is forgotten, with what was kept for its failure.
    obtain ⟨fuel', hle, above, retreats', hfound⟩ := hcomes
    cases fuel' with
    | zero => exact absurd (heq.trans hfound) hrun
    | succ fuel' =>
      have hus : ∀ u ∈ (trial.onSuccess t').toList, u.IsPlain := by
        intro u hu
        obtain ⟨v, hv, rfl⟩ := hgoesOn.onSuccess t' u (by simpa using hu)
        exact hv.isPlain_extend hrest
      have hnext := hsuccess fuel' (above ++ trial.onFailure.toList.map (Thread.extend tail))
        retreats' t' htries.tasks_eq_nil
      rw [List.append_assoc] at hnext
      obtain ⟨r, hrest, hcomes⟩ := (h fuel' (by omega)).goOn (by omega : fuel' ≤ fuel + 1) hus hts
        hrun (heq.trans (hfound.trans hnext))
      exact ⟨r, .accepted htasks htrial htries hrest, hcomes⟩
  | none =>
    -- The test fails: the run goes back to what was kept for its failure, if anything was.
    obtain ⟨fuel', hle, retreats', hfailed⟩ := hcomes
    have hus : ∀ u ∈ trial.onFailure.toList, u.IsPlain := by
      intro u hu
      obtain ⟨v, hv, rfl⟩ := hgoesOn.onFailure u (by simpa using hu)
      exact hv.isPlain_extend hrest
    have hback : offer s searchFrom fuel' [] (trial.onFailure.toList.map (Thread.extend tail) ++
        (ts.map (Thread.extend tail) ++ kept)) retreats' ≠ .givenUp :=
      fun hgivenUp => hrun' (hfailed.trans hgivenUp)
    obtain ⟨retreats'', hoffer⟩ := offer_append hback
    obtain ⟨r, hrest, hcomes⟩ :=
      (h fuel' hle).goOn (Nat.le_succ_of_le hle) hus hts hrun
        (heq.trans (hfailed.trans hoffer))
    exact ⟨r, .rejected htasks htrial htries hrest, hcomes⟩

end

/-- **A run that is not given up tries its threads.** -/
theorem faithful (s : Subject) (searchFrom fuel : Nat) : Faithful s searchFrom fuel := by
  -- Not by steps of one: a test takes as many steps as its thread does.
  induction fuel using Nat.strongRecOn with
  | _ fuel ih =>
  intro ts tail kept retreats hplain hrun
  cases ts with
  | nil => exact ⟨none, .nil, fuel, Nat.le_refl _, retreats, rfl⟩
  | cons t ts =>
    obtain ⟨ht, hts⟩ := List.forall_mem_cons.1 hplain
    cases htasks : t.tasks with
    | nil =>
      exact ⟨some t, .done htasks, fuel, Nat.le_refl _, ts.map (Thread.extend tail), retreats, rfl⟩
    | cons task rest =>
      cases fuel with
      | zero => exact absurd rfl hrun
      | succ fuel =>
        cases htrial : task.trial? t rest with
        | none => exact (ih fuel (Nat.lt_succ_self fuel)).step hts htasks ht htrial hrun
        | some trial =>
          exact Faithful.trial (fun fuel' hle => ih fuel' (Nat.lt_succ_of_le hle)) hts htasks ht
            htrial hrun

/-- **A run that is not given up finds what its thread comes to.** -/
theorem run_spec {fuel : Nat} {t : Thread} (hplain : t.IsPlain)
    (hrun : run s searchFrom fuel (on t [] 0) ≠ .givenUp) :
    (∃ t', Tries s searchFrom [t] (some t') ∧
        run s searchFrom fuel (on t [] 0) = .found t'.start) ∨
      (Tries s searchFrom [t] none ∧ run s searchFrom fuel (on t [] 0) = .notFound) := by
  have hextend : ∀ t : Thread, t.extend [] = t := by simp [Thread.extend, Thread.withTasks]
  have hoffer : offer s searchFrom fuel ([t].map (Thread.extend [])) [] 0 =
      run s searchFrom fuel (on t [] 0) := by
    simp [offer, hextend]
  obtain ⟨r, htries, hcomes⟩ := faithful s searchFrom fuel [t] [] [] 0
    (List.forall_mem_singleton.2 hplain) (hoffer ▸ hrun)
  rw [hoffer] at hcomes
  cases r with
  | some t' =>
    obtain ⟨fuel', -, above, retreats, hfound⟩ := hcomes
    cases fuel' with
    | zero => exact absurd hfound hrun
    | succ fuel' =>
      rw [hextend, run_succ_of_nil htries.tasks_eq_nil] at hfound
      exact .inl ⟨t', htries, hfound⟩
  | none =>
    obtain ⟨fuel', -, retreats, hfailed⟩ := hcomes
    exact .inr ⟨htries, hfailed⟩

end Machine

end ComponentQuery.Regex
