import ComponentQuery.Proofs.Json.Records
import ComponentQuery.Proofs.Selector.Location

/-!
# Diagnostics read back

A diagnostic is read back from its text, whatever its message and its notes are, if the places of
its span have 64 bits, which is all that a place can have.  Each field is read back on its own: the
code by its name, the span from an object or from `null`, the notes one by one.  So diagnostics that
are different have different texts.

The diagnostic of an error in a selector has a span that lies in the selector.  What is read back of
it tells the same code, the same message and the same characters as the error itself.  The message
of a regular expression that is refused may go on with a complaint of whoever refused it, which is a
parameter here, `SelectorError.explain`.

The main result is `Diagnostic.read_toJson_text`.
-/

namespace ComponentQuery

open Json (membersInto_cons)

/-! ## The parts of diagnostics -/

/-- The places of a span have 64 bits. -/
structure Span.Counted (s : Span) : Prop where
  start : s.start ≤ Json.maxInteger
  stop : s.stop ≤ Json.maxInteger

/-- The places of a diagnostic have 64 bits. -/
def Diagnostic.Counted (d : Diagnostic) : Prop := ∀ span ∈ d.span, span.Counted

namespace Diagnostic

variable {room : Nat}

lemma read_count {n : Nat} (h : n ≤ Json.maxInteger) :
    Json.Reader.count room (Json.number (.integer n)).draft = .ok n := by
  have hvalid : (Json.Number.integer n).Valid := ⟨by omega, by omega⟩
  rw [Json.draft, Json.Number.draft, Json.Reader.count, Json.read_integer hvalid]

lemma read_string (s : String) : Json.Reader.string room (Json.string s).draft = .ok s :=
  Json.StringDraft.read_ofString s

lemma read_code (c : Code) :
    Json.Reader.oneOf (Code.all.map fun c => (c.name, c)) room (Json.string c.name).draft =
      .ok c := by
  rw [Json.draft, Json.Reader.oneOf, Json.variant, Json.StringDraft.read_ofString]
  cases c <;> rfl

variable (room) in
lemma read_span {s : Span} (hs : s.Counted) : Span.reader (room + 1) s.toJson.draft = .ok s := by
  rw [Span.reader, Span.toJson, Json.draft, Json.Reader.fields]
  simp only [Json.membersDraft]
  rw [membersInto_cons rfl (by simp) (Json.Field.read_of (read_count hs.start) _),
    membersInto_cons rfl (by decide) (Json.Field.read_of (read_count hs.stop) _)]
  rfl

lemma read_notes (notes : List String) :
    Json.Reader.list Json.Reader.string (room + 1) (Json.array (notes.map .string)).draft =
      .ok notes := by
  have hnumbers : Json.NumbersValidItems (notes.map .string) := by
    induction notes with
    | nil => trivial
    | cons note notes ih => exact ⟨trivial, ih⟩
  have hvalue := Json.value?_draft (.array (notes.map .string)) hnumbers
  refine ((Json.exact_string room).list _ _ hvalue notes).2 ⟨Nat.succ_pos room, _, rfl, ?_⟩
  simp

variable (room) in
lemma read_fields {v : Json} {span : Option Span} (code : Code) (message : String)
    (notes : List String)
    (hspan : Json.Reader.optional Span.reader (room + 1) v.draft = .ok span) :
    reader (room + 2)
        (Json.object [("code", .string code.name), ("message", .string message), ("span", v),
          ("notes", .array (notes.map .string))]).draft =
      .ok ⟨code, message, span, notes⟩ := by
  rw [reader, Json.draft, Json.Reader.fields]
  simp only [Json.membersDraft]
  rw [membersInto_cons rfl (by simp) (Json.Field.read_of (read_code code) _),
    membersInto_cons rfl (by decide) (Json.Field.read_of (read_string message) _),
    membersInto_cons rfl (by decide) (Json.Field.read_of hspan _),
    membersInto_cons rfl (by decide) (Json.Field.read_of (read_notes notes) _)]
  rfl

lemma read_text_of_counted {d : Diagnostic} (hd : d.Counted) :
    Json.read reader d.toJson.text = .ok d := by
  refine Json.read_text_of_draft ?_
  obtain ⟨code, message, span, notes⟩ := d
  cases span with
  | none => exact read_fields 125 code message notes rfl
  | some span =>
    have hspan := read_span 125 (hd span rfl)
    exact read_fields 125 code message notes (congrArg (Except.map some) hspan)

end Diagnostic

/-! ## The diagnostics of errors -/

/-- The problem with a complaint behind the message of a regular expression that is refused. -/
def Problem.explain (complaint : String) : Problem → Problem
  | invalidRegex position message => invalidRegex position (message ++ complaint)
  | p => p

/-- The error with a complaint about the regular expression that is refused, if that is the
problem. -/
def SelectorError.explain (complaint : String) (e : SelectorError) : SelectorError :=
  { e with problem := e.problem.explain complaint }

@[simp] lemma SelectorError.explain_empty (e : SelectorError) : e.explain "" = e := by
  obtain ⟨selector, p⟩ := e
  cases p <;> simp [explain, Problem.explain]

/-- A complaint changes the message only. -/
lemma SelectorError.diagnostic_explain (e : SelectorError) (complaint : String) :
    (e.explain complaint).diagnostic =
      { e.diagnostic with message := (e.explain complaint).message } := by
  obtain ⟨selector, p⟩ := e
  cases p <;> rfl

/-- The spans of errors lie in the text, which has places of 64 bits. -/
lemma Selector.counted_of_parse_error {config : Config} {text : String} {e : SelectorError}
    (he : Selector.parse config text = .error e)
    (hlength : text.toList.length ≤ Json.maxInteger) : e.diagnostic.Counted := by
  obtain ⟨f, hf, rfl⟩ := Selector.parse_eq_error_iff.1 he
  intro span hspan
  obtain ⟨-, hmarks⟩ := (Reading.located_of_selector_error hf).marks hspan
  have hwithin := hmarks.within.trans hlength
  exact ⟨(Nat.le_trans (by simp [hmarks.extent]) hwithin), hwithin⟩

lemma Problem.span?_eq_none_iff {p : Problem} : p.span? = none ↔ p = .empty := by
  cases p <;> simp [span?, position?]

/-! ## What is read back -/

/-- **Diagnostics survive being written.**  A diagnostic is read back from its text, so that
different ones have different texts.  And if a text is no selector, then what is read back of the
diagnostic has the code and the message of the error, and its span marks in the text the unexpected
character, or nothing if the problem is no character. -/
theorem Diagnostic.read_toJson_text :
    (∀ d : Diagnostic, d.Counted → Json.read Diagnostic.reader d.toJson.text = .ok d) ∧
      (∀ d d' : Diagnostic, d.Counted → d'.Counted → d.toJson.text = d'.toJson.text → d = d') ∧
      ∀ (config : Config) (text : String) (e : SelectorError) (complaint : String),
        Selector.parse config text = .error e → text.toList.length ≤ Json.maxInteger →
        ∃ d, Json.read Diagnostic.reader (e.explain complaint).diagnostic.toJson.text = .ok d ∧
          d.code = e.problem.code ∧ d.message = (e.explain complaint).message ∧
          (d.span = none ↔ e.problem = .empty) ∧
          ∀ span, d.span = some span →
            e.problem.position? = some span.start ∧
              span.Marks text.toList e.problem.symbol?.toList := by
  refine ⟨fun d hd => read_text_of_counted hd, fun d d' hd hd' h => ?_,
    fun config text e complaint he hlength => ?_⟩
  · have hread := read_text_of_counted hd
    rw [h, read_text_of_counted hd'] at hread
    exact (Except.ok.inj hread).symm
  · have hcounted : (e.explain complaint).diagnostic.Counted := by
      rw [e.diagnostic_explain]
      exact Selector.counted_of_parse_error he hlength
    refine ⟨_, read_text_of_counted hcounted, ?_⟩
    rw [e.diagnostic_explain]
    obtain ⟨f, hf, rfl⟩ := Selector.parse_eq_error_iff.1 he
    exact ⟨rfl, rfl, Problem.span?_eq_none_iff,
      fun span hspan => (Reading.located_of_selector_error hf).marks hspan⟩

/-- A diagnostic with characters that are escaped, and a quotation mark that no selector goes on
with, which stands in the message of its error. -/
theorem Diagnostic.read_toJson_text_quote :
    let d : Diagnostic := ⟨.invalidRegex, "\"\\\n\x01ü", some ⟨4, Json.maxInteger⟩, ["\t"]⟩
    let e : SelectorError := ⟨"ü\"", .unexpectedSymbol '"' 1 none⟩
    d.Counted ∧ Json.read Diagnostic.reader d.toJson.text = .ok d ∧
      Selector.parse ⟨true⟩ "ü\"" = .error e ∧
      "ü\"".toList.length ≤ Json.maxInteger ∧
      ∃ r, Json.read Diagnostic.reader e.diagnostic.toJson.text = .ok r ∧
        r.message = e.message ∧ ∀ span, r.span = some span → span.start = 1 := by
  intro d e
  have hd : d.Counted := by
    rintro _ ⟨⟩
    exact ⟨by decide, by decide⟩
  have hname : Reading.run Reading.isNameChar (skipBlanks "ü\"".toList) = (['ü'], ['"']) := by
    decide
  have hclauses : Reading.clauses ⟨true⟩ ['"'] = .ok ([], ['"']) :=
    Reading.clauses_of_no_bracket (gap_skipBlanks ['"']) (by decide)
  have he : Selector.parse ⟨true⟩ "ü\"" = .error e :=
    Selector.parse_eq_error_iff.2 ⟨_, Reading.selector_of_behind hname hclauses, by decide⟩
  have hlength : "ü\"".toList.length ≤ Json.maxInteger := by decide
  obtain ⟨hread, -, herror⟩ := Diagnostic.read_toJson_text
  obtain ⟨r, hr, -, hmessage, -, hspan⟩ := herror _ _ e "" he hlength
  rw [e.explain_empty] at hr hmessage
  exact ⟨hd, hread d hd, he, hlength, r, hr, hmessage, fun span h =>
    (Option.some.inj (hspan span h).1).symm⟩

end ComponentQuery
