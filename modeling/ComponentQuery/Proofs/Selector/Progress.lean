import ComponentQuery.Proofs.Selector.Continuation
import ComponentQuery.Proofs.Selector.Locality
import Mathlib.Order.Interval.Finset.Nat

/-!
# Reading comes to its end

What holds on the way of the machine that reads a selector one character at a time, whatever the
text is and whether or not it is a selector.

A step takes the next character or leaves it, and what is left goes to a lower `Station`
(`State.step_cases`).  So a run that comes back to a station, as it does in every loop, has taken
something in the meantime (`position_lt_of_return`), and it is back there no more often than there
are characters left (`returns_le`).  The same gives all runs an end (`run_finished`).

What has been read is kept in order by the invariant `State.Sound`: each clause stands in the text
from its opening bracket to its closing one and is what the reader of clauses reads there, and all
of them find room, next to the name, in what has been taken.
-/

namespace ComponentQuery

namespace Scan

open Reading Grammar

/-! ## Stations -/

/-- Where the machine stands in the grammar, without what it has read there.

The loops of the reader each come back to one of them: that over the clauses to `between`, that over
the parts of a path to `behind`, those over names to `name` and `bare`, those over texts in
quotation marks to `quotedPart` and `quotedValue`, that over the source of a regular expression to
`regex` and that over its flags to `flags`, that over a token to `token`.  Blanks are passed at the
station before the piece behind them. -/
inductive Station where
  | beforeName
  | name
  | between
  | part
  | bare
  | quotedPart
  | behind
  | operator
  | equality
  | value
  | regex
  | flags
  | quotedValue
  | letter
  | token
  | close
  | finished
deriving DecidableEq

/-- The station of a point inside of a clause. -/
def Point.station : Point → Station
  | .part => .part
  | .bare _ => .bare
  | .quotedPart _ => .quotedPart
  | .behind => .behind
  | .operator => .operator
  | .equality _ => .equality
  | .value _ => .value
  | .regex .. => .regex
  | .flags .. => .flags
  | .quotedValue .. => .quotedValue
  | .letter .. => .letter
  | .token .. => .token
  | .close .. => .close

/-- The station of a phase. -/
def Phase.station : Phase → Station
  | .beforeName => .beforeName
  | .name => .name
  | .between => .between
  | .inside _ _ point => point.station
  | .finished _ => .finished

/-- How many stations can be passed from a station on while the next character is left. -/
def Station.rank : Station → Nat
  | .part => 4
  | .beforeName | .bare | .value => 3
  | .name | .behind | .flags | .letter | .token => 2
  | .between | .quotedPart | .operator | .equality | .regex | .quotedValue | .close => 1
  | .finished => 0

/-- The station of a state. -/
def State.station (s : State) : Station := s.phase.station

/-- Whether the next character has been taken. -/
def Turn.taken : Turn → Bool
  | .take .. => true
  | .keep .. => false
  | .close _ => true
  | .fail taken _ => taken

/-- The station to which a step inside of a clause comes. -/
def Turn.station : Turn → Station
  | .take _ point => point.station
  | .keep _ point => point.station
  | .close _ => .between
  | .fail .. => .finished

section

variable {config : Config} {text : List Char} {position : Nat} {path : List String}
  {next : Option Char}

@[simp]
lemma Turn.taken_take (point : Point) : (Turn.take path point).taken = true := rfl

@[simp]
lemma Turn.taken_closing (rest : List Char) (c : Comparison) (caseSensitive : Bool) :
    (Turn.closing rest path c caseSensitive).taken = true := by
  unfold closing
  split <;> rfl

lemma Point.taken_step_none (point : Point) :
    (point.step config text position path none).taken = false := by
  fun_cases Point.step config text position path none point <;> simp_all [Turn.taken]

/-- What a step inside of a clause takes is a character of the text. -/
lemma Point.lt_length_of_taken {point : Point}
    (h : (point.step config text position path text[position]?).taken = true) :
    position < text.length := by
  by_contra hle
  rw [List.getElem?_eq_none (Nat.le_of_not_lt hle), taken_step_none] at h
  cases h

/-- What is left to the next step is left to a lower station. -/
lemma Point.rank_lt_of_kept {point : Point} :
    (point.step config text position path next).taken = false →
      (point.step config text position path next).station.rank < point.station.rank := by
  fun_cases Point.step config text position path next point <;>
    simp [Turn.station, Point.station, Station.rank]

end

/-! ## Steps -/

section

variable (config : Config) (text : List Char)

lemma lt_length_of_isSome {p : Nat} (h : text[p]?.isSome = true) : p < text.length := by
  simpa using h

lemma State.position_turn (s : State) (start : Nat) (t : Turn) :
    (s.turn start t).position = s.position + t.taken.toNat := by
  cases t with
  | fail taken f => cases taken <;> rfl
  | _ => rfl

lemma State.station_turn (s : State) (start : Nat) (t : Turn) :
    (s.turn start t).station = t.station := by
  cases t with
  | fail taken f => cases taken <;> rfl
  | _ => rfl

/-- A step takes the next character, or leaves it and comes to a lower station. -/
lemma State.step_cases {s : State} (h : s.station ≠ .finished) :
    (s.position < text.length ∧ (s.step config text).position = s.position + 1) ∨
      ((s.step config text).position = s.position ∧
        (s.step config text).station.rank < s.station.rank) := by
  obtain ⟨position, name, clauses, phase⟩ := s
  simp only [step]
  have hlt : text[position]?.isSome = true → position < text.length :=
    lt_length_of_isSome text
  cases phase with
  | beforeName =>
    by_cases hblank : text[position]?.any isBlank = true
    · simp only [if_pos hblank]
      exact .inl ⟨hlt (Option.isSome_of_any hblank), rfl⟩
    · simp only [if_neg hblank]
      exact .inr ⟨rfl, (by decide : Station.name.rank < Station.beforeName.rank)⟩
  | name =>
    cases hname : text[position]?.filter isNameChar with
    | some c =>
      exact .inl ⟨hlt (Option.isSome_of_eq_some (Option.filter_eq_some_iff.1 hname).1), rfl⟩
    | none => exact .inr ⟨rfl, (by decide : Station.between.rank < Station.name.rank)⟩
  | between =>
    by_cases hblank : text[position]?.any isBlank = true
    · simp only [if_pos hblank]
      exact .inl ⟨hlt (Option.isSome_of_any hblank), rfl⟩
    · simp only [if_neg hblank]
      by_cases hopen : text[position]? = some '['
      · simp only [if_pos hopen]
        exact .inl ⟨hlt (Option.isSome_of_eq_some hopen), rfl⟩
      · -- The run ends here, with the text or with a character that cannot follow.
        have hdown : Station.finished.rank < Station.between.rank := by decide
        simp only [if_neg hopen]
        split_ifs <;> exact .inr ⟨rfl, hdown⟩
  | inside start path point =>
    simp only [position_turn, station_turn]
    cases htaken : (point.step config text position path text[position]?).taken with
    | true => exact .inl ⟨Point.lt_length_of_taken htaken, rfl⟩
    | false => exact .inr ⟨rfl, Point.rank_lt_of_kept htaken⟩
  | finished outcome => exact absurd rfl h

lemma State.step_of_finished {s : State} (h : s.station = .finished) : s.step config text = s := by
  obtain ⟨position, name, clauses, phase⟩ := s
  cases phase with
  | inside start path point => cases point <;> cases h
  | finished => rfl
  | _ => cases h

end

/-! ## Clauses -/

/-- The end of a clause ends with its bracket. -/
lemma exists_body_of_derivesComparison {cs rest : List Char}
    {written : Option (Operator × Literal)} (h : DerivesComparison cs written rest) :
    ∃ body, cs = body ++ ']' :: rest := by
  cases h with
  | absent => exact ⟨[], rfl⟩
  | present ho hg hl hg' =>
    obtain ⟨o, -, rfl, -⟩ := closed_operator _ _ _ ho
    obtain ⟨gap, rfl, -⟩ := local_gap _ _ hg
    obtain ⟨l, rfl, -⟩ := local_literal _ _ _ hl
    obtain ⟨gap', rfl, -⟩ := local_gap _ _ hg'
    exact ⟨o ++ gap ++ l ++ gap', by simp⟩

lemma length_lt_of_derivesPart {cs rest : List Char} {part : Part} (h : DerivesPart cs part rest) :
    rest.length < cs.length := by
  cases h with
  | bare hne => simpa using List.length_pos_of_ne_nil hne
  | quoted =>
    simp only [List.length_cons, List.length_append]
    omega

/-- A clause that is read ends with its bracket, and has something before that. -/
lemma exists_body_of_clause {config : Config} {cs rest : List Char} {p : Predicate}
    (h : clause config cs = .ok (p, rest)) : ∃ body ≠ [], cs = body ++ ']' :: rest := by
  obtain ⟨written, ⟨hgap, hpart, hmore, hcomparison⟩, -⟩ := clause_eq_ok_iff.1 h
  obtain ⟨gap, rfl, -⟩ := local_gap _ _ hgap
  obtain ⟨part, hcs, -⟩ := local_part _ _ _ hpart
  obtain ⟨more, rfl, -⟩ := local_more _ _ _ hmore
  obtain ⟨before, rfl⟩ := exists_body_of_derivesComparison hcomparison
  have hne : part ≠ [] := by
    rintro rfl
    exact absurd (length_lt_of_derivesPart hpart) (by simp [hcs])
  exact ⟨gap ++ part ++ more ++ before, by simp [hne], by rw [hcs]; simp⟩

/-- A clause stands in a text from its opening bracket up to its closing one, with a character in
between, and it is what the reader of clauses reads there. -/
structure Extent.IsRead (config : Config) (text : List Char) (e : Extent) : Prop where
  opening : text[e.start]? = some '['
  closing : text[e.stop - 1]? = some ']'
  length : e.start + 3 ≤ e.stop
  within : e.stop ≤ text.length
  clause : clause config (text.drop (e.start + 1)) = .ok (e.predicate, text.drop e.stop)

lemma Extent.isRead_of_clause {config : Config} {text : List Char} {start stop : Nat}
    {p : Predicate} (hopen : text[start]? = some '[') (hstop : stop ≤ text.length)
    (h : Reading.clause config (text.drop (start + 1)) = .ok (p, text.drop stop)) :
    Extent.IsRead config text ⟨start, stop, p⟩ := by
  obtain ⟨body, hne, hbody⟩ := exists_body_of_clause h
  have hstart : start < text.length := (List.getElem?_eq_some_iff.1 hopen).1
  have hlength := congrArg List.length hbody
  simp only [List.length_drop, List.length_append, List.length_cons] at hlength
  have hpos := List.length_pos_of_ne_nil hne
  refine ⟨hopen, ?_, by simp only; omega, hstop, h⟩
  have hlast : stop - 1 = start + 1 + body.length := by omega
  rw [hlast, ← List.getElem?_drop, hbody]
  simp

/-! ## What every step keeps -/

/-- What a phase says of the text and of what has been read. -/
def Phase.Fits (config : Config) (text : List Char) (s : State) : Phase → Prop
  | .inside start path point =>
    text[start]? = some '[' ∧ s.name.length + 3 * s.clauses.length ≤ start ∧
      point.readOn config text path (text.drop s.position) = clause config (text.drop (start + 1))
  | .finished (.ok selector) =>
    s.position = text.length ∧ selector = ⟨String.ofList s.name, s.predicates⟩
  | _ => True

/-- What holds of every state of a run. -/
structure State.Sound (config : Config) (text : List Char) (s : State) : Prop where
  position_le : s.position ≤ text.length
  isRead : ∀ e ∈ s.clauses, e.IsRead config text
  /-- All characters of the name and three for each clause have been taken. -/
  room : s.name.length + 3 * s.clauses.length ≤ s.position
  fits : s.phase.Fits config text s

namespace State

variable {config : Config} {text : List Char} {s : State}

lemma sound_initial (config : Config) (text : List Char) : initial.Sound config text :=
  ⟨Nat.zero_le _, by simp [initial], Nat.le_refl _, trivial⟩

lemma Sound.take (h : s.Sound config text) (hlt : s.position < text.length) {phase : Phase}
    (hfits : phase.Fits config text (s.take phase)) : (s.take phase).Sound config text :=
  ⟨hlt, h.isRead, Nat.le_succ_of_le h.room, hfits⟩

lemma Sound.keep (h : s.Sound config text) {phase : Phase}
    (hfits : phase.Fits config text (s.keep phase)) : (s.keep phase).Sound config text :=
  ⟨h.position_le, h.isRead, h.room, hfits⟩

lemma fits_outcome (hend : s.position = text.length) :
    (Phase.finished s.outcome).Fits config text (s.keep (.finished s.outcome)) := by
  unfold outcome
  split_ifs
  · trivial
  · exact ⟨hend, rfl⟩

lemma Sound.turn (h : s.Sound config text) {start : Nat} {path : List String} {point : Point}
    (hphase : s.phase = .inside start path point) {t : Turn}
    (htaken : t.taken = true → s.position < text.length)
    (ht : t.readOn config text (text.drop s.position) =
      point.readOn config text path (text.drop s.position)) :
    (s.turn start t).Sound config text := by
  have hfits := h.fits
  rw [hphase] at hfits
  obtain ⟨hopen, hroom, hread⟩ := hfits
  rw [hread] at ht
  cases t with
  | take path' point' =>
    refine h.take (htaken rfl) ⟨hopen, hroom, ?_⟩
    rw [← ht]
    simp only [Turn.readOn, List.tail_drop, State.take]
  | keep path' point' => exact h.keep ⟨hopen, hroom, ht⟩
  | close p =>
    have hlt := htaken rfl
    simp only [Turn.readOn, List.tail_drop] at ht
    -- Only here does the list of clauses grow, by the extent that the bracket closes.
    have he := Extent.isRead_of_clause hopen hlt ht.symm
    refine ⟨hlt, ?_, ?_, trivial⟩
    · intro e hmem
      rcases List.mem_append.1 hmem with hmem | hmem
      · exact h.isRead e hmem
      · rw [List.mem_singleton.1 hmem]
        exact he
    · have := he.length
      simp only [State.turn, State.take, List.length_append, List.length_singleton] at *
      omega
  | fail taken f =>
    cases taken with
    | true => exact h.take (htaken rfl) trivial
    | false => exact h.keep trivial

lemma Sound.step (h : s.Sound config text) : (s.step config text).Sound config text := by
  have hlt : text[s.position]?.isSome = true → s.position < text.length := lt_length_of_isSome text
  unfold State.step
  cases hphase : s.phase with
  | beforeName =>
    by_cases hblank : text[s.position]?.any isBlank = true
    · simp only [if_pos hblank]
      exact h.take (hlt (Option.isSome_of_any hblank)) trivial
    · simp only [if_neg hblank]
      exact h.keep trivial
  | name =>
    cases hname : text[s.position]?.filter isNameChar with
    | some c =>
      simp only [hname]
      have hnext := hlt (Option.isSome_of_eq_some (Option.filter_eq_some_iff.1 hname).1)
      refine ⟨hnext, h.isRead, ?_, trivial⟩
      have := h.room
      simp only [State.take, List.length_append, List.length_singleton] at *
      omega
    | none =>
      simp only [hname]
      exact h.keep trivial
  | between =>
    by_cases hblank : text[s.position]?.any isBlank = true
    · simp only [if_pos hblank]
      exact h.take (hlt (Option.isSome_of_any hblank)) trivial
    · simp only [if_neg hblank]
      by_cases hopen : text[s.position]? = some '['
      · simp only [if_pos hopen]
        exact h.take (hlt (Option.isSome_of_eq_some hopen)) ⟨hopen, h.room, readOn_part text⟩
      · simp only [if_neg hopen]
        by_cases hend : text[s.position]? = none
        · simp only [if_pos hend]
          have hle := List.getElem?_eq_none_iff.1 hend
          exact h.keep (fits_outcome (Nat.le_antisymm h.position_le hle))
        · simp only [if_neg hend]
          exact h.keep trivial
  | inside start path point =>
    refine h.turn hphase Point.lt_length_of_taken ?_
    rw [← List.head?_drop]
    exact Point.readOn_step rfl point
  | finished outcome => exact h

end State

/-! ## Runs -/

section

variable (config : Config) (text : List Char)

lemma run_succ (k : Nat) : run config text (k + 1) = (run config text k).step config text :=
  Function.iterate_succ_apply' ..

lemma sound_run (k : Nat) : (run config text k).Sound config text := by
  induction k with
  | zero => exact State.sound_initial config text
  | succ k ih =>
    rw [run_succ]
    exact ih.step

/-- All states of a run come to what the reader gives. -/
lemma readOn_run (k : Nat) : (run config text k).readOn config text = selector config text := by
  induction k with
  | zero => rfl
  | succ k ih => rw [run_succ, State.readOn_step, ih]

lemma position_run_succ (k : Nat) :
    (run config text k).position ≤ (run config text (k + 1)).position ∧
      (run config text (k + 1)).position ≤ (run config text k).position + 1 := by
  rw [run_succ]
  by_cases h : (run config text k).station = .finished
  · rw [State.step_of_finished config text h]
    omega
  · rcases State.step_cases config text h with ⟨-, heq⟩ | ⟨heq, -⟩ <;> omega

lemma station_run_ne_finished {k : Nat} (h : (run config text (k + 1)).station ≠ .finished) :
    (run config text k).station ≠ .finished := by
  intro hfinished
  rw [run_succ, State.step_of_finished config text hfinished] at h
  exact h hfinished

/-- A run that has not ended has taken a character, or it has come to a lower station. -/
lemma run_progress {j k : Nat} (hjk : j < k) (h : (run config text k).station ≠ .finished) :
    (run config text j).position < (run config text k).position ∨
      ((run config text j).position = (run config text k).position ∧
        (run config text k).station.rank < (run config text j).station.rank) := by
  induction k, hjk using Nat.le_induction with
  | base =>
    have hj := station_run_ne_finished config text h
    rw [run_succ]
    rcases State.step_cases config text hj with ⟨-, heq⟩ | ⟨heq, hrank⟩ <;> omega
  | succ k _ ih =>
    have hk := station_run_ne_finished config text h
    have ih := ih hk
    rw [run_succ]
    rcases State.step_cases config text hk with ⟨-, heq⟩ | ⟨heq, hrank⟩ <;> omega

/-- A run that comes back to a station has taken a character in the meantime. -/
lemma position_lt_of_return {j k : Nat} (hjk : j < k)
    (h : (run config text k).station ≠ .finished)
    (hreturn : (run config text k).station = (run config text j).station) :
    (run config text j).position < (run config text k).position := by
  rcases run_progress config text hjk h with hlt | ⟨-, hrank⟩
  · exact hlt
  · rw [hreturn] at hrank
    exact absurd hrank (Nat.lt_irrefl _)

/-- How often a run is back, up to some time, at the station at which it is at time `j`. -/
def returns (j k : Nat) : Nat :=
  ((Finset.Ioc j k).filter fun l =>
    (run config text l).station = (run config text j).station).card

/-- A run comes back to a station no more often than there are characters left. -/
lemma returns_le {j : Nat} (h : (run config text j).station ≠ .finished) (k : Nat) :
    returns config text j k ≤ text.length - (run config text j).position := by
  have hmem : ∀ l ∈ (Finset.Ioc j k).filter fun l =>
      (run config text l).station = (run config text j).station,
      j < l ∧ (run config text l).station = (run config text j).station := by
    intro l hl
    obtain ⟨hl, hstation⟩ := Finset.mem_filter.1 hl
    exact ⟨(Finset.mem_Ioc.1 hl).1, hstation⟩
  rw [← Nat.card_Ioc]
  refine Finset.card_le_card_of_injOn (fun l => (run config text l).position) ?_ ?_
  · intro l hl
    obtain ⟨hlt, hstation⟩ := hmem l hl
    exact Finset.mem_coe.2 (Finset.mem_Ioc.2
      ⟨position_lt_of_return config text hlt (hstation ▸ h) hstation,
        (sound_run config text l).position_le⟩)
  -- Two returns are a return from one to the other, so that they differ in their positions.
  · intro l hl m hm hposition
    obtain ⟨-, hl⟩ := hmem l hl
    obtain ⟨-, hm⟩ := hmem m hm
    rcases Nat.lt_trichotomy l m with hlt | heq | hlt
    · exact absurd hposition
        (Nat.ne_of_lt (position_lt_of_return config text hlt (hm ▸ h) (hm.trans hl.symm)))
    · exact heq
    · exact absurd hposition
        (Nat.ne_of_gt (position_lt_of_return config text hlt (hl ▸ h) (hl.trans hm.symm)))

lemma Station.rank_le (station : Station) : station.rank ≤ 4 := by
  cases station <;> decide

lemma Station.eq_finished_of_rank {station : Station} (h : station.rank = 0) :
    station = .finished := by
  revert h
  cases station <;> decide

/-- Each step uses up one of five for each character that is left, or a rank. -/
lemma budget_run (k : Nat) (h : (run config text k).station ≠ .finished) :
    5 * (text.length - (run config text k).position) + (run config text k).station.rank + k ≤
      5 * text.length + 3 := by
  induction k with
  | zero => exact Nat.le_refl _
  | succ k ih =>
    have hk := station_run_ne_finished config text h
    have ih := ih hk
    have hrank := Station.rank_le (run config text (k + 1)).station
    rw [run_succ] at hrank ⊢
    -- A character taken is worth five: one for the step, and four for the rank, which may start
    -- over.
    rcases State.step_cases config text hk with ⟨hlt, heq⟩ | ⟨heq, hrank⟩ <;> omega

lemma run_finished {k : Nat} (h : 5 * text.length + 3 ≤ k) :
    (run config text k).phase = .finished (selector config text) := by
  have hstation : (run config text k).station = .finished := by
    by_contra hne
    have := budget_run config text k hne
    exact hne (Station.eq_finished_of_rank (by omega))
  rw [← readOn_run config text k]
  cases hphase : (run config text k).phase with
  | finished outcome => simp only [State.readOn, hphase]
  | inside start path point =>
    rw [State.station, hphase] at hstation
    cases point <;> cases hstation
  | _ =>
    rw [State.station, hphase] at hstation
    cases hstation

end

end Scan

lemma Selector.parse_eq_mapError (config : Config) (text : String) :
    Selector.parse config text =
      (Reading.selector config text.toList).mapError fun f =>
        ⟨text, f.problemAt (placeOf text.toList f.rest)⟩ := by
  unfold Selector.parse
  cases Reading.selector config text.toList <;> rfl

/-- **Reading always makes progress and takes the whole text.**  For every text, selector or not,
and both ways of reading tokens:

* the machine reads on from every state as the reader does from the start;
* it never goes back and never passes the end, and a step takes one character at most; an operation
  of the reader is a stretch of such steps;
* there are never more clauses than a third of the text, and each of them begins with its opening
  bracket, ends with its closing one, is at least three characters long, and is what the reader
  reads there;
* no loop comes back to its station more often than there are characters left;
* the run ends, and its outcome is that of the reader: a selector is there only when the whole text
  has been taken, in which its name and three characters for each predicate find room. -/
theorem Selector.parse_makes_progress (config : Config) (text : String) :
    let scan := Scan.run config text.toList
    (∀ k, (scan k).readOn config text.toList = Reading.selector config text.toList) ∧
    (∀ j k, j ≤ k → (scan j).position ≤ (scan k).position ∧
      (scan k).position ≤ text.length) ∧
    (∀ k, (scan (k + 1)).position ≤ (scan k).position + 1) ∧
    (∀ k, (scan k).clauses.length ≤ text.length / 3 ∧
      ∀ e ∈ (scan k).clauses, e.IsRead config text.toList) ∧
    (∀ j k, (scan j).station ≠ .finished →
      Scan.returns config text.toList j k ≤ text.length - (scan j).position) ∧
    ∀ k, 5 * text.length + 3 ≤ k → ∃ outcome, (scan k).phase = .finished outcome ∧
      Selector.parse config text = outcome.mapError (fun f =>
        ⟨text, f.problemAt (placeOf text.toList f.rest)⟩) ∧
      ∀ s, outcome = .ok s → (scan k).position = text.length ∧
        s.predicates = (scan k).predicates ∧
        s.name.length + 3 * s.predicates.length ≤ text.length := by
  intro scan
  have hsound : ∀ k, (scan k).Sound config text.toList := Scan.sound_run config text.toList
  have hlength : text.toList.length = text.length := String.length_toList
  rw [← hlength]
  refine ⟨Scan.readOn_run config text.toList, fun j k hjk => ⟨?_, (hsound k).position_le⟩,
    fun k => (Scan.position_run_succ config text.toList k).2, fun k => ⟨?_, (hsound k).isRead⟩,
    fun j k h => Scan.returns_le config text.toList h k, fun k hk => ?_⟩
  · exact monotone_nat_of_le_succ
      (fun k => (Scan.position_run_succ config text.toList k).1) hjk
  · have hroom := (hsound k).room
    have hle := (hsound k).position_le
    exact (Nat.le_div_iff_mul_le (by decide)).2 (by omega)
  · have hphase := Scan.run_finished config text.toList hk
    refine ⟨_, hphase, Selector.parse_eq_mapError config text, fun s hs => ?_⟩
    have hfits := (hsound k).fits
    have hroom := (hsound k).room
    rw [hphase, hs] at hfits
    obtain ⟨hend, rfl⟩ := hfits
    refine ⟨hend, rfl, ?_⟩
    rw [← hend]
    simpa [Scan.State.predicates] using hroom

/-- A name of one character, which takes two bytes, and a clause of three fill their text. -/
theorem Selector.parse_makes_progress_tight :
    let scan := Scan.run ⟨false⟩ "ü[b]".toList
    let s : Selector := ⟨"ü", [⟨["b"], List.cons_ne_nil _ _, .truthy, true⟩]⟩
    Selector.parse ⟨false⟩ "ü[b]" = .ok s ∧ (scan 23).position = 4 ∧
      (scan 23).predicates = s.predicates ∧ s.name.length + 3 * s.predicates.length = 4 ∧
      ∀ e ∈ (scan 23).clauses, e.IsRead ⟨false⟩ "ü[b]".toList := by
  intro scan s
  have hphase : (scan 23).phase = .finished (.ok s) := rfl
  obtain ⟨-, -, -, hread, -, hend⟩ := Selector.parse_makes_progress ⟨false⟩ "ü[b]"
  obtain ⟨outcome, houtcome, hparse, htext⟩ := hend 23 (by decide)
  obtain rfl : Except.ok s = outcome := Scan.Phase.finished.inj (hphase.symm.trans houtcome)
  obtain ⟨hposition, hpredicates, -⟩ := htext s rfl
  exact ⟨hparse, hposition, hpredicates.symm, by decide, (hread 23).2⟩

end ComponentQuery
