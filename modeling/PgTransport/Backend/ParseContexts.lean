import PgTransport.Backend.SimpleDirect
import PgTransport.Postgres.MemoryContexts
import PgTransport.Transition.Run

/-!
# The memory contexts of the parsers

Both parsers again, as computations over the memory contexts: one makes its scratch
context by hand and deletes it behind the parser, the other holds its context by a value
that deletes it when it is dropped.  What they answer is what the parsers of the two
simple-query paths answer.
-/

namespace PgTransport.Backend

open PgTransport.Computation
open PgTransport.Postgres
open PgTransport.Transition
open PgTransport.Wire

variable {E : Type}

/-- `raw_parser`, which leaves the contexts alone, also where it raises. -/
def rawParser (query : SimpleQuery E) : Comp ErrorReport Contexts (List (RawStmt E)) :=
  match query.parsed with
  | .ok list => pure list
  | .error report => Comp.raise report

/-! ## The scratch context -/

/-- The closure of `parse_and_classify`. -/
def classifyBody (query : SimpleQuery E) :
    Comp ErrorReport Contexts (List (RawStmt E × StmtMeta)) := do
  let savedCtx ← Comp.read Contexts.current
  let scratch ← allocSetContextCreate savedCtx
  let _ ← memoryContextSwitchTo scratch
  let list ← rawParser query
  let spans := list.map RawStmt.classified
  let _ ← memoryContextSwitchTo savedCtx
  memoryContextDelete scratch
  pure spans

/-- `parse_and_classify` over the memory contexts. -/
def parseAndClassifyIn (query : SimpleQuery E) :
    Comp ErrorReport Contexts (PgWireResult (List (RawStmt E × StmtMeta))) :=
  if containsNul query.text then
    pure (.error (genericError "pg_transport" "query string contains a NUL byte"))
  else do
    let outcome ← Comp.catchUnwind (classifyBody query)
    match outcome with
    | .ok spans => pure (.ok spans)
    | .error caught => pure (.error (errorReportToPgwire caught))

/-! ## The context of a parsed query -/

/-- `ParsedQuery`: its statements lie in the context that it owns. -/
structure ParsedQuery (E : Type) where
  statements : List (RawStmt E)
  parseCtx : MemoryContext

/-- `ScopedMemoryContext::drop`. -/
def dropScopedMemoryContext (context : MemoryContext) : Comp ErrorReport Contexts Unit :=
  memoryContextDelete context

/-- `parse_and_keep` over the memory contexts. -/
def parseAndKeepIn (query : SimpleQuery E) :
    Comp ErrorReport Contexts (PgWireResult (ParsedQuery E)) :=
  if containsNul query.text then
    pure (.error (genericError "pg_transport" "query string contains a NUL byte"))
  else do
    let parseCtx ← allocSetContextCreate topMemoryContext
    let outcome ← Comp.catchUnwind (switchedTo parseCtx (rawParser query))
    match outcome with
    | .ok statements => pure (.ok ⟨statements, parseCtx⟩)
    | .error caught => do
        dropScopedMemoryContext parseCtx
        pure (.error (errorReportToPgwire caught))

/-! ## What the parsers do to the contexts -/

/-- The query does not fail in the parser: it is rejected for a NUL byte, or it parses. -/
def SimpleQuery.ParserReturns (query : SimpleQuery E) : Prop :=
  containsNul query.text = true ∨ ∃ list, query.parsed = .ok list

section Effects

variable {query : SimpleQuery E} {report : ErrorReport} {list : List (RawStmt E)}
  (contexts : Contexts)

theorem rawParser_of_parsed (parsed : query.parsed = .ok list) :
    rawParser query contexts = (.ret list, contexts) := by
  rw [rawParser, parsed]
  rfl

theorem rawParser_of_failed (failed : query.parsed = .error report) :
    rawParser query contexts = (.unwind report, contexts) := by
  rw [rawParser, failed]
  rfl

/-- Where the parser returns, the scratch context is gone again. -/
theorem classifyBody_of_parsed (parsed : query.parsed = .ok list) :
    classifyBody query contexts = (.ret (list.map RawStmt.classified), contexts) := by
  have deleted := contexts.delete_add_child contexts.current
  simp only [classifyBody, Comp.bind_apply, Comp.read_apply, resume_ret, allocSetContextCreate,
    memoryContextSwitchTo, rawParser_of_parsed _ parsed, memoryContextDelete, Comp.pure_apply]
  exact congrArg (Prod.mk _) (congrArg (Contexts.switchTo · contexts.current) deleted)

/-- Where it raises, the scratch context stays, and stays current. -/
theorem classifyBody_of_failed (failed : query.parsed = .error report) :
    classifyBody query contexts =
      (.unwind report, (contexts.add (contexts.child contexts.current)).switchTo
        (contexts.child contexts.current)) := by
  simp only [classifyBody, Comp.bind_apply, Comp.read_apply, resume_ret, allocSetContextCreate,
    memoryContextSwitchTo, rawParser_of_failed _ failed, resume_unwind]

/-- The parser's context is current only while the parser runs. -/
theorem switchedTo_rawParser (context : MemoryContext) :
    Comp.catchUnwind (switchedTo context (rawParser query)) contexts =
      (.ret query.parsed, contexts) := by
  cases parsed : query.parsed with
  | ok list =>
      apply Comp.catchUnwind_of_ret
      simp only [switchedTo, Comp.bind_apply, memoryContextSwitchTo, resume_ret,
        Comp.catchUnwind_of_ret (rawParser_of_parsed _ parsed), Comp.pure_apply]
      rfl
  | error report =>
      apply Comp.catchUnwind_of_unwind
      simp only [switchedTo, Comp.bind_apply, memoryContextSwitchTo, resume_ret,
        Comp.catchUnwind_of_unwind (rawParser_of_failed _ parsed), Comp.raise_apply]
      rfl

/-- Over the contexts `parse_and_classify` answers as without them, and it leaves them as
they were unless the parser raises. -/
theorem parseAndClassifyIn_of_returns (returns : query.ParserReturns) :
    parseAndClassifyIn query contexts = (.ret (parseAndClassify query), contexts) := by
  unfold parseAndClassifyIn parseAndClassify
  split
  · rfl
  · next clean =>
    rcases returns with unclean | ⟨list, parsed⟩
    · exact absurd unclean clean
    · simp only [Comp.bind_apply, parsed,
        Comp.catchUnwind_of_ret (classifyBody_of_parsed contexts parsed), resume_ret,
        Comp.pure_apply]

theorem parseAndClassifyIn_of_not_returns (raises : ¬query.ParserReturns) :
    parseAndClassifyIn query contexts =
      (.ret (parseAndClassify query), (contexts.add (contexts.child contexts.current)).switchTo
        (contexts.child contexts.current)) := by
  have clean : containsNul query.text ≠ true := fun unclean => raises (.inl unclean)
  rw [parseAndClassifyIn, parseAndClassify, if_neg clean, if_neg clean]
  cases parsed : query.parsed with
  | ok list => exact absurd (.inr ⟨list, parsed⟩) raises
  | error report =>
      simp only [Comp.bind_apply,
        Comp.catchUnwind_of_unwind (classifyBody_of_failed contexts parsed), resume_ret,
        Comp.pure_apply]

/-- `parse_and_keep` leaves the contexts as they were where it answers an error, and with
the context of the parsed query else. -/
theorem parseAndKeepIn_apply :
    parseAndKeepIn query contexts =
      match parseAndKeep query with
      | .error err => (.ret (.error err), contexts)
      | .ok statements =>
          (.ret (.ok ⟨statements, contexts.child topMemoryContext⟩),
            contexts.add (contexts.child topMemoryContext)) := by
  unfold parseAndKeepIn parseAndKeep
  split
  · rfl
  · cases parsed : query.parsed with
    | ok list =>
        simp only [Comp.bind_apply, allocSetContextCreate, resume_ret, switchedTo_rawParser,
          parsed, Comp.pure_apply]
    | error report =>
        simp only [Comp.bind_apply, allocSetContextCreate, resume_ret, switchedTo_rawParser,
          parsed, dropScopedMemoryContext, memoryContextDelete, Comp.pure_apply,
          Contexts.delete_add_child]

end Effects

/-! ## Sequences of queries -/

/-- The memory contexts, and those that parsed queries in use own. -/
structure ParseSession where
  contexts : Contexts
  held : List MemoryContext

/-- A call of one of the parsers, or the end of a parsed query. -/
inductive ParseEvent (E : Type) where
  | classify (query : SimpleQuery E)
  | keep (query : SimpleQuery E)
  | release (parseCtx : MemoryContext)

namespace ParseSession

/-- Take over the context of a parsed query. -/
def keeping (session : ParseSession) (outcome : Outcome ErrorReport (PgWireResult (ParsedQuery E)))
    (contexts : Contexts) : ParseSession :=
  match outcome with
  | .ret (.ok parsedQuery) => ⟨contexts, session.held ++ [parsedQuery.parseCtx]⟩
  | _ => ⟨contexts, session.held⟩

end ParseSession

/-- One step of a session. -/
inductive ParseStep : ParseSession → ParseEvent E → ParseSession → Prop where
  | classify (session : ParseSession) (query : SimpleQuery E) :
      ParseStep session (.classify query)
        { session with contexts := (parseAndClassifyIn query session.contexts).2 }
  | keep (session : ParseSession) (query : SimpleQuery E) :
      ParseStep session (.keep query)
        (session.keeping (parseAndKeepIn query session.contexts).1
          (parseAndKeepIn query session.contexts).2)
  | release (session : ParseSession) {parseCtx : MemoryContext}
      (owned : parseCtx ∈ session.held) :
      ParseStep session (.release parseCtx)
        ⟨(dropScopedMemoryContext parseCtx session.contexts).2, session.held.erase parseCtx⟩

/-- The sessions that start without a parsed query. -/
def parses : System ParseSession (ParseEvent E) where
  initial session := session.held = []
  step := ParseStep

end PgTransport.Backend
