import Mathlib.Data.Finset.Card
import Mathlib.Data.Finset.Dedup
import ComponentQuery.Proofs.Query.Selection

/-!
# Runs of calls

A program calls engines: it has them read selectors, select elements of records by them, or select
elements of what a collector finds.  It may also select by a selector that has been read before.
`Call.runAll` carries out calls one after the other, and each call begins in the world that the one
before it leaves.

`Accounted` says for one call how its answer, its events and what it does to the world go together,
and `Ledger` says it for a run.  Collectors may do anything to the world, so that how often they are
asked does not show there; `Call.counted` has each of them count.

The main result is `Call.runAll_accounted`.
-/

namespace ComponentQuery

/-! ## Calls -/

/-- A call to an engine, or a selection alone.  Collectors look at a world of type `σ`. -/
inductive Call (σ ε : Type) where
  | parse (engine : Engine) (text : String)
  | filter (engine : Engine) (text : String) (records : List (Record ε))
  | queryAll (engine : Engine) (collect : Collector σ ε) (text : String)
  | select (s : Selector) (records : List (Record ε))

/-- What a call returns. -/
inductive Returned (ε : Type) where
  | selector (s : Selector)
  | elements (es : List ε)
  | refused (e : SelectorError)

namespace Returned

variable {ε : Type}

/-- What reading a selector returns. -/
def ofParsed : Except SelectorError Selector → Returned ε
  | .ok s => selector s
  | .error e => refused e

/-- What reading a selector and selecting by it returns. -/
def ofSelected : Except SelectorError (List ε) → Returned ε
  | .ok es => elements es
  | .error e => refused e

end Returned

variable {σ ε : Type}

namespace Call

/-- The text that a call reads, and what it is read as. -/
def reading? : Call σ ε → Option (String × Except SelectorError Selector)
  | parse engine text => some (text, Selector.parse engine.config text)
  | filter engine text _ => some (text, Selector.parse engine.config text)
  | queryAll engine _ text => some (text, Selector.parse engine.config text)
  | select _ _ => none

/-- Whether a call has a collector and a text that can be read. -/
def collects : Call σ ε → Bool
  | queryAll engine _ text => (Selector.parse engine.config text).isOk
  | _ => false

/-- The call with a collector that counts how often it is asked. -/
def counted : Call σ ε → Call (σ × Nat) ε
  | parse engine text => parse engine text
  | filter engine text records => filter engine text records
  | queryAll engine collect text =>
    queryAll engine
      (fun (world, count) => ((collect world).1, (collect world).2, count + 1)) text
  | select s records => select s records

variable [DecidableEq ε]

/-- Carries out a call in a world. -/
def run : Call σ ε → σ → Logged (Returned ε) × σ
  | parse engine text, world => ((engine.parse text).map .ofParsed, world)
  | filter engine text records, world => ((engine.filter text records).map .ofSelected, world)
  | queryAll engine collect text, world =>
    let (answer, world) := engine.queryAll collect world text
    (answer.map .ofSelected, world)
  | select s records, world => ((Engine.select s records).map .elements, world)

/-- Carries out calls one after the other. -/
def runAll : List (Call σ ε) → σ → List (Logged (Returned ε)) × σ
  | [], world => ([], world)
  | call :: calls, world =>
    let (answer, world) := call.run world
    let (answers, world) := runAll calls world
    (answer :: answers, world)

end Call

/-! ## Accounts -/

variable [DecidableEq ε]

/-- Some elements are selected from records: there are no more of them than the records have
different elements, and no more of those than records. -/
structure Selects (s : Selector) (records : List (Record ε)) (es : List ε) : Prop where
  eq_select : es = s.select records
  length_le : es.length ≤ (records.map (·.element)).toFinset.card
  card_le : (records.map (·.element)).toFinset.card ≤ records.length

/-- How the answer and the events of a call go together with the worlds before and after it.  A text
that is rejected makes one event, and the world stays as it is; neither depends on the records or on
the collector.  A text that is read makes one event, and a selection makes one after it, about the
records that there are and the elements that are returned. -/
inductive Accounted : Call σ ε → σ → Logged (Returned ε) → σ → Prop where
  | rejected {call : Call σ ε} {text : String} {e : SelectorError}
      (h : call.reading? = some (text, .error e)) (world : σ) :
      Accounted call world ⟨.refused e, [.rejected text e.problem.code]⟩ world
  | parsed {engine : Engine} {text : String} {s : Selector}
      (h : Selector.parse engine.config text = .ok s) (world : σ) :
      Accounted (.parse engine text) world
        ⟨.selector s, [.parsed text s.name s.predicates.length]⟩ world
  | filtered {engine : Engine} {text : String} {s : Selector} {records : List (Record ε)}
      {es : List ε} (h : Selector.parse engine.config text = .ok s) (hs : Selects s records es)
      (world : σ) :
      Accounted (.filter engine text records) world
        ⟨.elements es, [.parsed text s.name s.predicates.length,
          .complete records.length es.length]⟩ world
  | collected {engine : Engine} {collect : Collector σ ε} {text : String} {s : Selector}
      {records : List (Record ε)} {es : List ε} {world world' : σ}
      (h : Selector.parse engine.config text = .ok s) (hc : collect world = (records, world'))
      (hs : Selects s records es) :
      Accounted (.queryAll engine collect text) world
        ⟨.elements es, [.parsed text s.name s.predicates.length,
          .complete records.length es.length]⟩ world'
  | selected {s : Selector} {records : List (Record ε)} {es : List ε}
      (hs : Selects s records es) (world : σ) :
      Accounted (.select s records) world
        ⟨.elements es, [.complete records.length es.length]⟩ world

/-- Calls with their answers, each accounted for in the world that the one before it leaves. -/
inductive Ledger : σ → List (Call σ ε) → List (Logged (Returned ε)) → σ → Prop where
  | nil (world : σ) : Ledger world [] [] world
  | cons {call : Call σ ε} {calls : List (Call σ ε)} {answer : Logged (Returned ε)}
      {answers : List (Logged (Returned ε))} {world world' world'' : σ}
      (h : Accounted call world answer world') (hs : Ledger world' calls answers world'') :
      Ledger world (call :: calls) (answer :: answers) world''

lemma selects_select (s : Selector) (records : List (Record ε)) :
    Selects s records (s.select records) where
  eq_select := rfl
  length_le := by
    rw [← List.toFinset_card_of_nodup (Selector.nodup_select s records)]
    refine Finset.card_le_card fun e he => ?_
    obtain ⟨r, hr, helement, -⟩ := Selector.mem_select.1 (List.mem_toFinset.1 he)
    exact List.mem_toFinset.2 (List.mem_map.2 ⟨r, hr, helement⟩)
  card_le := by simpa using List.toFinset_card_le (records.map (·.element))

/-! ## One call -/

namespace Engine

variable {engine : Engine} {text : String} {s : Selector} {e : SelectorError}

lemma filter_of_ok (h : Selector.parse engine.config text = .ok s) (records : List (Record ε)) :
    engine.filter text records =
      ⟨.ok (s.select records), [.parsed text s.name s.predicates.length,
        .complete records.length (s.select records).length]⟩ := by
  simp [filter, parse, h, parseEvent, Logged.andThen, Logged.map, select]

lemma filter_of_error (h : Selector.parse engine.config text = .error e)
    (records : List (Record ε)) :
    engine.filter text records = ⟨.error e, [.rejected text e.problem.code]⟩ := by
  simp [filter, parse, h, parseEvent, Logged.andThen, Logged.silent]

lemma queryAll_of_ok (h : Selector.parse engine.config text = .ok s) (collect : Collector σ ε)
    (world : σ) :
    engine.queryAll collect world text =
      (engine.filter text (collect world).1, (collect world).2) := by
  simp [queryAll, filter, parse, h, Logged.andThen]

lemma queryAll_of_error (h : Selector.parse engine.config text = .error e)
    (collect : Collector σ ε) (world : σ) :
    engine.queryAll collect world text = (⟨.error e, [.rejected text e.problem.code]⟩, world) := by
  simp [queryAll, parse, h, parseEvent]

lemma queryAll_eq_filter (engine : Engine) (collect : Collector σ ε) (world : σ) (text : String) :
    (engine.queryAll collect world text).1 = engine.filter text (collect world).1 := by
  cases h : Selector.parse engine.config text with
  | ok s => rw [queryAll_of_ok h]
  | error e => rw [queryAll_of_error h, filter_of_error h]

end Engine

namespace Call

/-- A call whose text is rejected does nothing but say so. -/
lemma run_of_error {call : Call σ ε} {text : String} {e : SelectorError}
    (h : call.reading? = some (text, .error e)) (world : σ) :
    call.run world = (⟨.refused e, [.rejected text e.problem.code]⟩, world) := by
  cases call with
  | parse engine text' =>
    obtain ⟨rfl, he⟩ : text' = text ∧ Selector.parse engine.config text' = .error e := by
      simpa [reading?] using h
    simp [run, Engine.parse, Engine.parseEvent, he, Logged.map, Returned.ofParsed]
  | filter engine text' records =>
    obtain ⟨rfl, he⟩ : text' = text ∧ Selector.parse engine.config text' = .error e := by
      simpa [reading?] using h
    simp [run, Engine.filter_of_error he, Logged.map, Returned.ofSelected]
  | queryAll engine collect text' =>
    obtain ⟨rfl, he⟩ : text' = text ∧ Selector.parse engine.config text' = .error e := by
      simpa [reading?] using h
    simp [run, Engine.queryAll_of_error he, Logged.map, Returned.ofSelected]
  | select s records => simp [reading?] at h

/-- **Every call is accounted for.** -/
lemma accounted_run (call : Call σ ε) (world : σ) :
    Accounted call world (call.run world).1 (call.run world).2 := by
  -- A call on a text that is no selector is the same in every operation.
  have hreject : ∀ {text : String} {e : SelectorError}, call.reading? = some (text, .error e) →
      Accounted call world (call.run world).1 (call.run world).2 := by
    intro text e h
    rw [run_of_error h]
    exact .rejected h world
  cases call with
  | parse engine text =>
    cases h : Selector.parse engine.config text with
    | error e => exact hreject (by rw [reading?, h])
    | ok s =>
      have hrun : run (.parse engine text) world =
          ((⟨.selector s, [.parsed text s.name s.predicates.length]⟩ : Logged (Returned ε)),
            world) := by
        simp [run, Engine.parse, Engine.parseEvent, h, Logged.map, Returned.ofParsed]
      rw [hrun]
      exact .parsed h world
  | filter engine text records =>
    cases h : Selector.parse engine.config text with
    | error e => exact hreject (by rw [reading?, h])
    | ok s =>
      rw [run, Engine.filter_of_ok h]
      exact .filtered h (selects_select s records) world
  | queryAll engine collect text =>
    cases h : Selector.parse engine.config text with
    | error e => exact hreject (by rw [reading?, h])
    | ok s =>
      rw [run, Engine.queryAll_of_ok h, Engine.filter_of_ok h]
      exact .collected h rfl (selects_select s _)
  | select s records => exact .selected (selects_select s records) world

/-- A call that counts answers alike, and its collector is asked once if the call collects. -/
lemma run_counted (call : Call σ ε) (world : σ) (count : Nat) :
    call.counted.run (world, count) =
      ((call.run world).1, (call.run world).2, count + if call.collects then 1 else 0) := by
  cases call with
  | parse engine text => simp [counted, run, collects]
  | filter engine text records => simp [counted, run, collects]
  | queryAll engine collect text =>
    cases h : Selector.parse engine.config text with
    | error e =>
      simp [counted, run, collects, Engine.queryAll_of_error h, h, Except.isOk, Except.toBool]
    | ok s => simp [counted, run, collects, Engine.queryAll_of_ok h, h, Except.isOk, Except.toBool]
  | select s records => simp [counted, run, collects]

/-! ## Runs -/

/-- **Every run is accounted for**, call by call. -/
lemma ledger_runAll (calls : List (Call σ ε)) (world : σ) :
    Ledger world calls (runAll calls world).1 (runAll calls world).2 := by
  induction calls generalizing world with
  | nil => exact .nil world
  | cons call calls ih => exact .cons (accounted_run call world) (ih _)

/-- Collectors are asked as often as there are calls that collect. -/
lemma runAll_counted (calls : List (Call σ ε)) (world : σ) (count : Nat) :
    runAll (calls.map counted) (world, count) =
      ((runAll calls world).1, (runAll calls world).2, count + calls.countP collects) := by
  induction calls generalizing world count with
  | nil => rfl
  | cons call calls ih =>
    simp only [List.map_cons, runAll, run_counted, ih, List.countP_cons]
    congr 2
    omega

/-- **Log, collectors and results keep in step** over all runs of calls.  Every answer goes with its
events as `Accounted` says; calls whose text is rejected answer alike, whatever their records and
collectors; collectors are asked once for each query whose text is read, and at no other time; and a
query answers as a selection from what is collected. -/
theorem runAll_accounted (calls : List (Call σ ε)) (world : σ) :
    Ledger world calls (runAll calls world).1 (runAll calls world).2 ∧
      (∀ count, runAll (calls.map counted) (world, count) =
        ((runAll calls world).1, (runAll calls world).2, count + calls.countP collects)) ∧
      (∀ (call call' : Call σ ε) (text : String) (e : SelectorError),
        call.reading? = some (text, .error e) → call'.reading? = some (text, .error e) →
          ∀ world world', (call.run world).1 = (call'.run world').1) ∧
      ∀ (engine : Engine) (collect : Collector σ ε) (world : σ) (text : String),
        (engine.queryAll collect world text).1 = engine.filter text (collect world).1 := by
  refine ⟨ledger_runAll calls world, runAll_counted calls world,
    fun call call' text e h h' world world' => ?_, Engine.queryAll_eq_filter⟩
  rw [run_of_error h, run_of_error h']

end Call

end ComponentQuery
