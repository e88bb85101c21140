import ComponentQuery.Selector.Reading
import Mathlib.Logic.Function.Iterate

/-!
# Reading one character at a time

The reader of selectors says of every piece what it is and what is left behind it.  Here the same
reading is done by a machine that holds a position in the text and looks at no more than the
character there: a step takes it, and then the position is one further, or leaves it to the next
step.  So there is something to say about what happens on the way, also where reading fails in
the end.

A `State` is where the machine stands in the text (`position`), where it stands in the grammar
(`Phase`, and `Point` inside of a clause), and what it has read: the name, and the clauses with
their places.  A loop is a phase that the machine comes back to, and nothing in the definition of
a step makes a run end.

`ComponentQuery.Proofs.Selector.Continuation` shows that the machine reads what the reader reads,
and `ComponentQuery.Proofs.Selector.Progress` that its runs end, and what holds on the way.
-/

namespace ComponentQuery.Scan

open Reading

/-! ## Texts in quotation marks and sources of regular expressions -/

/-- A text in quotation marks as far as it has been read. -/
structure Quoted where
  mark : Char
  /-- Whether the next character is to be taken as it is. -/
  escaped : Bool
  text : List Char
deriving DecidableEq, Repr

/-- Takes one more character.  If that is the mark at the end, then the text is complete. -/
def Quoted.take (q : Quoted) (c : Char) : Quoted ⊕ List Char :=
  if q.escaped then .inl ⟨q.mark, false, q.text ++ [c]⟩
  else if c = q.mark then .inr q.text
  else if c = '\\' then .inl ⟨q.mark, true, q.text⟩
  else .inl ⟨q.mark, false, q.text ++ [c]⟩

/-- The source of a regular expression as far as it has been read. -/
structure Source where
  inClass : Bool
  /-- Whether the next character is to be taken as it is. -/
  escaped : Bool
  source : List Char
deriving DecidableEq, Repr

/-- Takes one more character.  If that is the slash at the end, then the source is complete. -/
def Source.take (s : Source) (c : Char) : Source ⊕ List Char :=
  if s.escaped then .inl ⟨s.inClass, false, s.source ++ [c]⟩
  else if c = '\\' then .inl ⟨s.inClass, true, s.source ++ [c]⟩
  else if c = '/' ∧ s.inClass = false then .inr s.source
  else .inl ⟨if s.inClass then c ≠ ']' else c = '[', false, s.source ++ [c]⟩

/-! ## Clauses -/

/-- Where the machine stands inside of a clause, with what it has read of the piece there.  A value
has the position at which it starts. -/
inductive Point where
  /-- Before a part of the path, which comes after the bracket or a dot. -/
  | part
  | bare (text : List Char)
  | quotedPart (q : Quoted)
  /-- Behind a part of the path. -/
  | behind
  | operator
  /-- Behind the sign of a relation. -/
  | equality (r : TextRelation)
  /-- Before a value. -/
  | value (op : Operator)
  | regex (start : Nat) (s : Source)
  | flags (start : Nat) (source flags : List Char)
  | quotedValue (op : Operator) (start : Nat) (q : Quoted)
  /-- Behind a text in quotation marks, before its letter. -/
  | letter (op : Operator) (start : Nat) (text : List Char)
  | token (op : Operator) (start : Nat) (token : List Char)
  /-- Behind a value. -/
  | close (op : Operator) (start : Nat) (v : Operand) (caseSensitive : Bool)

/-- What a step inside of a clause comes to, with the path that has been read. -/
inductive Turn where
  /-- The next character is taken. -/
  | take (path : List String) (point : Point)
  /-- The next character is left. -/
  | keep (path : List String) (point : Point)
  /-- The closing bracket is taken, and the clause has been read. -/
  | close (p : Predicate)
  /-- The clause cannot be read, with the next character taken or left. -/
  | fail (taken : Bool) (f : Failure)

/-- Whether a character is a quotation mark. -/
def isMark (c : Char) : Bool := c == '"' || c == '\''

/-- Takes the closing bracket, behind which `rest` is left. -/
def Turn.closing (rest : List Char) (path : List String) (c : Comparison)
    (caseSensitive : Bool) : Turn :=
  match Predicate.ofPath? path c caseSensitive with
  | some p => .close p
  | none => .fail true ⟨rest, .unexpected (some .propertyPath)⟩

/-- One step inside of a clause, at a position of the text.  It looks at the next character only;
what stands behind is only named in failures. -/
def Point.step (config : Config) (text : List Char) (position : Nat) (path : List String)
    (next : Option Char) : Point → Turn
  | .part =>
    if next.any isBlank then .take path .part
    else
      match next.filter isMark with
      | some mark => .take path (.quotedPart ⟨mark, false, []⟩)
      | none => .keep path (.bare [])
  | .bare read =>
    match next.filter isNameChar with
    | some c => .take path (.bare (read ++ [c]))
    | none =>
      if read = [] then .fail false ⟨text.drop position, .unexpected (some .propertyPath)⟩
      else .keep (path ++ [String.ofList read]) .behind
  | .quotedPart q =>
    match next.map q.take with
    | none => .fail false ⟨text.drop position, .unexpected (some .quotedString)⟩
    | some (.inl q) => .take path (.quotedPart q)
    | some (.inr read) =>
      if read = [] then .fail true ⟨text.drop (position + 1), .unexpected (some .propertyPath)⟩
      else .take (path ++ [String.ofList read]) .behind
  | .behind =>
    if next.any isBlank then .take path .behind
    else if next = some '.' then .take path .part
    else if next = some ']' then .closing (text.drop (position + 1)) path .truthy true
    else .keep path .operator
  | .operator =>
    if next.any isBlank then .take path .operator
    else if next = some '=' then .take path (.value .equals)
    else
      match next.bind TextRelation.ofSign? with
      | some r => .take path (.equality r)
      | none => .fail next.isSome ⟨text.drop position, .unexpected (some .operator)⟩
  | .equality r =>
    if next = some '=' then .take path (.value (.relates r))
    else .fail false ⟨text.drop position, .unexpected (some .operator)⟩
  | .value op =>
    if next.any isBlank then .take path (.value op)
    else if next = some '/' then
      if op = .equals then .take path (.regex position ⟨false, false, []⟩)
      else .fail false ⟨text.drop position, .regexOperator op⟩
    else
      match next.filter isMark with
      | some mark => .take path (.quotedValue op position ⟨mark, false, []⟩)
      | none => .keep path (.token op position [])
  | .regex start s =>
    match next.map s.take with
    | none => .fail false ⟨text.drop position, .unexpected (some .regularExpression)⟩
    | some (.inl s) => .take path (.regex start s)
    | some (.inr source) => .take path (.flags start source [])
  | .flags start source letters =>
    match next.filter Regex.isFlag with
    | some c => .take path (.flags start source (letters ++ [c]))
    | none =>
      match Regex.compile (String.ofList source) (String.ofList letters) with
      | .ok r => .keep path (.close .equals start (.regex r) true)
      | .error refusal => .fail false ⟨text.drop start, .invalidRegex refusal.message⟩
  | .quotedValue op start q =>
    match next.map q.take with
    | none => .fail false ⟨text.drop position, .unexpected (some .quotedString)⟩
    | some (.inl q) => .take path (.quotedValue op start q)
    | some (.inr read) => .take path (.letter op start read)
  | .letter op start read =>
    if next.any isBlank then .take path (.letter op start read)
    else if next = some 'i' ∨ next = some 'I' then
      .take path (.close op start (.text (String.ofList read)) false)
    else if next = some 's' ∨ next = some 'S' then
      .take path (.close op start (.text (String.ofList read)) true)
    else .keep path (.close op start (.text (String.ofList read)) true)
  | .token op start read =>
    match next.filter isTokenChar with
    | some c => .take path (.token op start (read ++ [c]))
    | none =>
      match tokenOperand? config read with
      | some v => .keep path (.close op start v true)
      | none => .fail false ⟨text.drop start, .unexpected (some .attributeValue)⟩
  | .close op start v caseSensitive =>
    if next.any isBlank then .take path (.close op start v caseSensitive)
    else if next = some ']' then
      match Comparison.ofOperand op v with
      | .ok c => .closing (text.drop (position + 1)) path c caseSensitive
      | .error v => .fail true ⟨text.drop start, .nonTextOperand op v.display⟩
    else .fail false ⟨text.drop position, .unexpected (some .attributeValue)⟩

/-! ## Selectors -/

/-- A clause that has been read, from the position of its opening bracket up to the one behind its
closing bracket. -/
structure Extent where
  start : Nat
  stop : Nat
  predicate : Predicate

/-- Where the machine stands. -/
inductive Phase where
  /-- Before the name. -/
  | beforeName
  | name
  /-- Before a clause or the end. -/
  | between
  /-- Inside of a clause, whose bracket is at `start`. -/
  | inside (start : Nat) (path : List String) (point : Point)
  | finished (outcome : Except Failure Selector)

/-- A state of the machine. -/
structure State where
  position : Nat
  name : List Char
  clauses : List Extent
  phase : Phase

namespace State

/-- The machine at the front of a text. -/
def initial : State := ⟨0, [], [], .beforeName⟩

/-- Takes the next character. -/
def take (s : State) (phase : Phase) : State :=
  { s with position := s.position + 1, phase := phase }

/-- Leaves the next character. -/
def keep (s : State) (phase : Phase) : State := { s with phase := phase }

/-- The predicates that have been read. -/
def predicates (s : State) : List Predicate := s.clauses.map (·.predicate)

/-- What has been read by the end of a text. -/
def outcome (s : State) : Except Failure Selector :=
  if s.name.isEmpty && s.predicates.isEmpty then .error ⟨[], .empty⟩
  else .ok ⟨String.ofList s.name, s.predicates⟩

/-- What has been read after a step inside of the clause whose bracket is at `start`. -/
def turn (s : State) (start : Nat) : Turn → State
  | .take path point => s.take (.inside start path point)
  | .keep path point => s.keep (.inside start path point)
  | .close p =>
    { s.take .between with clauses := s.clauses ++ [⟨start, s.position + 1, p⟩] }
  | .fail true f => s.take (.finished (.error f))
  | .fail false f => s.keep (.finished (.error f))

/-- One step. -/
def step (config : Config) (text : List Char) (s : State) : State :=
  let next := text[s.position]?
  match s.phase with
  | .beforeName => if next.any isBlank then s.take .beforeName else s.keep .name
  | .name =>
    match next.filter isNameChar with
    | some c => { s.take .name with name := s.name ++ [c] }
    | none => s.keep .between
  | .between =>
    if next.any isBlank then s.take .between
    else if next = some '[' then s.take (.inside s.position [] .part)
    else if next = none then s.keep (.finished s.outcome)
    else s.keep (.finished (.error ⟨text.drop s.position, .unexpected none⟩))
  | .inside start path point => s.turn start (point.step config text s.position path next)
  | .finished _ => s

end State

/-- The state after some number of steps. -/
def run (config : Config) (text : List Char) (k : Nat) : State :=
  (State.step config text)^[k] .initial

end ComponentQuery.Scan
