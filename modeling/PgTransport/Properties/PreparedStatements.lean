import PgTransport.Backend.Extended.ParseString

/-!
# What the extended backends prepare

SPI plans every statement of a `Parse` string; the direct path takes the first
and ignores the others.  A string of several statements is prepared alike only
if the others do not matter, and what an empty rewrite or a transaction-control
statement with parameter hints comes to depends on the backend as well.
-/

namespace PgTransport.Properties

open PgTransport.Backend
open PgTransport.Computation
open PgTransport.Postgres
open PgTransport.Wire

variable {Q : Type}

section Planning

variable {stmts : List (ParsedStatement Q)} {types : List Oid}

/-- Planning a list of statements fails exactly if one of them does. -/
theorem mapM_fixedparams_fails_iff :
    (∃ report, stmts.mapM (fun stmt => stmt.fixedparams types) = .error report) ↔
      ∃ stmt ∈ stmts, ∃ report, stmt.fixedparams types = .error report := by
  induction stmts with
  | nil => simp [pure, Except.pure]
  | cons stmt stmts inductionHypothesis =>
      rw [List.mapM_cons, List.exists_mem_cons_iff, ← inductionHypothesis]
      cases stmt.fixedparams types with
      | error report => simp [bind, Except.bind]
      | ok queries =>
          cases stmts.mapM fun stmt => stmt.fixedparams types with
          | error report => simp [bind, Except.bind]
          | ok sources => simp [bind, Except.bind, pure, Except.pure]

/-- Planning a list of statements yields no query exactly if each of them is
rewritten to none. -/
theorem mapM_fixedparams_empty_iff :
    (∃ sources, stmts.mapM (fun stmt => stmt.fixedparams types) = .ok sources ∧
      sources.flatten = []) ↔
      ∀ stmt ∈ stmts, stmt.fixedparams types = .ok [] := by
  induction stmts with
  | nil => simp [pure, Except.pure]
  | cons stmt stmts inductionHypothesis =>
      rw [List.mapM_cons, List.forall_mem_cons, ← inductionHypothesis]
      cases stmt.fixedparams types with
      | error report => simp [bind, Except.bind]
      | ok queries =>
          cases stmts.mapM fun stmt => stmt.fixedparams types with
          | error report => simp [bind, Except.bind]
          | ok sources => simp [bind, Except.bind, pure, Except.pure]

end Planning

section Agreement

variable {string : ParseString Q} {hints : List (Option Oid)} {first : ParsedStatement Q}
  {rest : List (ParsedStatement Q)}

theorem arguments_hinted (hinted : hints.any Option.isSome = true) :
    (string.request hints).arguments = .ok ((string.request hints).hintOids, none) :=
  if_pos hinted

theorem arguments_unhinted (unhinted : ¬hints.any Option.isSome = true) :
    (string.request hints).arguments = (string.request hints).inferred :=
  if_neg unhinted

/-- With the queries of the others planned behind those of the first statement. -/
def withOthers (queries : List Q) (others : Except ErrorReport (List (List Q))) :
    Option (Executed Q) :=
  match others with
  | .error _ => none
  | .ok sources => some (.queries (queries ++ sources.flatten))

/-- SPI analyses the first statement as the direct path does, and plans the
others under the same types. -/
theorem spiAnswer_of_analysis (parsed : string.parsed = .ok (first :: rest))
    (uncontrolled : (if rest.isEmpty then classifyRawStmt first.node else none) = none) :
    string.spiAnswer hints =
      match first.analysis hints with
      | .error _ => none
      | .ok (types, queries) =>
          withOthers queries (rest.mapM fun stmt => stmt.fixedparams types) := by
  have planned : ∀ types, string.planSources types =
      (do
        let queries ← first.fixedparams types
        let others ← rest.mapM fun stmt => stmt.fixedparams types
        pure (queries :: others)) := by
    intro types
    rw [ParseString.planSources, parsed]
    exact List.mapM_cons
  by_cases hinted : hints.any Option.isSome
  · rw [ParseString.spiAnswer, arguments_hinted hinted, ParsedStatement.analysis, if_pos hinted]
    simp only [planned, ParseString.request, ParseRequest.hintOids]
    cases first.fixedparams (hints.map fun hint => hint.getD INVALID) with
    | error report => rfl
    | ok queries =>
        simp only [bind, Except.bind, Except.map]
        cases rest.mapM fun stmt =>
          stmt.fixedparams (hints.map fun hint => hint.getD INVALID) <;> rfl
  · have arguments : (string.request hints).arguments =
        first.varparams.map fun inferred => (inferred.1.map resolveOid, none) := by
      rw [arguments_unhinted hinted]
      simp only [ParseRequest.inferred, ParseString.request, ParseString.analyze, parsed,
        Except.map, List.map_cons, List.isEmpty_map, uncontrolled]
      cases first.varparams <;> rfl
    rw [ParseString.spiAnswer, arguments, ParsedStatement.analysis, if_neg hinted]
    cases varied : first.varparams with
    | error report => rfl
    | ok inferred =>
        have again := first.reanalyzes _ _ varied
        simp only [Except.map, planned, again, bind, Except.bind]
        cases rest.mapM fun stmt => stmt.fixedparams (inferred.1.map resolveOid) <;> rfl

/-- The statements behind the first one, which rewrites to `queries`, make no
difference: they all rewrite to nothing, or, where the first does so too, one of
them is refused. -/
def OthersImmaterial (queries : List Q) (others : List (ParsedStatement Q))
    (types : List Oid) : Prop :=
  match queries with
  | [] => ∃ stmt ∈ others, ∃ report, stmt.fixedparams types = .error report
  | _ :: _ => ∀ stmt ∈ others, stmt.fixedparams types = .ok []

theorem withOthers_eq_ofSource_iff (queries : List Q) (types : List Oid) :
    withOthers queries (rest.mapM fun stmt => stmt.fixedparams types) =
        Executed.ofSource queries ↔
      OthersImmaterial queries rest types := by
  cases queries with
  | nil =>
      rw [OthersImmaterial, ← mapM_fixedparams_fails_iff]
      cases rest.mapM fun stmt => stmt.fixedparams types <;>
        simp [withOthers, Executed.ofSource]
  | cons query queries =>
      rw [OthersImmaterial, ← mapM_fixedparams_empty_iff]
      cases rest.mapM fun stmt => stmt.fixedparams types <;>
        simp [withOthers, Executed.ofSource]

/-- When the two backends make the same of a string without an interior NUL. -/
def PreparedAlike (string : ParseString Q) (hints : List (Option Oid)) : Prop :=
  match string.parsed with
  | .error _ => True
  | .ok [] => False
  | .ok (first :: rest) =>
      match (if rest.isEmpty then classifyRawStmt first.node else none) with
      | some _ => hints.any Option.isSome = false
      | none =>
          match first.analysis hints with
          | .error _ => True
          | .ok (types, queries) => OthersImmaterial queries rest types

theorem spiAnswer_of_parse_error {report : ErrorReport}
    (parsed : string.parsed = .error report) : string.spiAnswer hints = none := by
  have planned : ∀ types, string.planSources types = .error report := by
    intro types
    rw [ParseString.planSources, parsed]
  by_cases hinted : hints.any Option.isSome
  · rw [ParseString.spiAnswer, arguments_hinted hinted]
    simp only [planned]
  · have arguments : (string.request hints).arguments = .error report := by
      rw [arguments_unhinted hinted, ParseRequest.inferred]
      simp [ParseString.request, parsed, Except.map]
    rw [ParseString.spiAnswer, arguments]

theorem spiAnswer_of_empty (parsed : string.parsed = .ok []) :
    string.spiAnswer hints = some (.queries []) := by
  have planned : ∀ types, string.planSources types = .ok [] := by
    intro types
    rw [ParseString.planSources, parsed]
    rfl
  by_cases hinted : hints.any Option.isSome
  · rw [ParseString.spiAnswer, arguments_hinted hinted]
    simp [planned]
  · have arguments : (string.request hints).arguments = .ok ([], none) := by
      rw [arguments_unhinted hinted, ParseRequest.inferred]
      simp [ParseString.request, parsed, Except.map]
    rw [ParseString.spiAnswer, arguments]
    simp [planned]

/-- SPI recognises transaction control only without hints. -/
theorem spiAnswer_eq_control_iff {cmd : XactCmd} (parsed : string.parsed = .ok (first :: rest))
    (controlled : (if rest.isEmpty then classifyRawStmt first.node else none) = some cmd) :
    string.spiAnswer hints = some (.control cmd) ↔ hints.any Option.isSome = false := by
  by_cases hinted : hints.any Option.isSome
  · rw [ParseString.spiAnswer, arguments_hinted hinted, hinted]
    dsimp only
    cases string.planSources (string.request hints).hintOids <;> simp
  · have arguments : (string.request hints).arguments = .ok ([], some cmd) := by
      rw [arguments_unhinted hinted, ParseRequest.inferred]
      simp only [ParseString.request, parsed, Except.map, List.map_cons, List.isEmpty_map,
        controlled]
    rw [ParseString.spiAnswer, arguments]
    simpa using hinted

/-- Both backends make the same of a `Parse` string exactly if it says so. -/
theorem spiAnswer_eq_directAnswer_iff :
    string.spiAnswer hints = string.directAnswer hints ↔ PreparedAlike string hints := by
  unfold ParseString.directAnswer PreparedAlike
  match parsed : string.parsed with
  | .error report => simp [spiAnswer_of_parse_error parsed]
  | .ok [] => simp [spiAnswer_of_empty parsed]
  | .ok (first :: rest) =>
      dsimp only
      cases controlled : (if rest.isEmpty then classifyRawStmt first.node else none) with
      | some cmd => exact spiAnswer_eq_control_iff parsed controlled
      | none =>
          rw [spiAnswer_of_analysis parsed controlled]
          cases first.analysis hints with
          | error report => simp
          | ok found => exact withOthers_eq_ofSource_iff found.2 found.1

end Agreement

section Types

variable [TypeTable]

/-- The two endings of a `Parse` agree: both are rejections, or a later
`Execute` of either statement runs the same. -/
def SameEnding (string : ParseString Q)
    (planned completed : Outcome Payload (PgWireResult PreparedStatement)) : Prop :=
  match planned, completed with
  | .ret (.ok planned), .ret (.ok completed) =>
      string.executes planned = string.executes completed
  | .ret (.error _), .ret (.error _) => True
  | _, _ => False

/-- From every state in which a `Parse` reaches its backend, both backends
reject the string, or both accept it and a later `Execute` runs the same on
both: the same transaction-control command or the same queries. -/
def SamePreparation (string : ParseString Q) (hints : List (Option Oid)) : Prop :=
  ∀ pg : Pg Q, Serves pg.xact.blockState →
    SameEnding string (prepare .spi (string.request hints) pg).1
      (prepare .direct (string.request hints) pg).1

theorem sameEnding_iff {string : ParseString Q} {hints : List (Option Oid)}
    (clean : containsNul string.sql = false) {pg : Pg Q}
    (serves : Serves pg.xact.blockState) :
    SameEnding string (prepare .spi (string.request hints) pg).1
        (prepare .direct (string.request hints) pg).1 ↔
      string.spiAnswer hints = string.directAnswer hints := by
  have onSpi := string.prepare_answer hints .spi clean serves
  have onDirect := string.prepare_answer hints .direct clean serves
  simp only [ParseString.answer] at onSpi onDirect
  cases planned : string.spiAnswer hints with
  | none =>
      rw [planned] at onSpi
      obtain ⟨_, _, spiRun⟩ := onSpi
      cases completed : string.directAnswer hints with
      | none =>
          rw [completed] at onDirect
          obtain ⟨_, _, directRun⟩ := onDirect
          simp [spiRun, directRun, SameEnding]
      | some direct =>
          rw [completed] at onDirect
          obtain ⟨_, _, _, directRun⟩ := onDirect
          simp [spiRun, directRun, SameEnding]
  | some spi =>
      rw [planned] at onSpi
      obtain ⟨_, _, spiRuns, spiRun⟩ := onSpi
      cases completed : string.directAnswer hints with
      | none =>
          rw [completed] at onDirect
          obtain ⟨_, _, directRun⟩ := onDirect
          simp [spiRun, directRun, SameEnding]
      | some direct =>
          rw [completed] at onDirect
          obtain ⟨_, _, directRuns, directRun⟩ := onDirect
          simp [spiRun, directRun, SameEnding, spiRuns, directRuns]

/-- The two backends prepare the same statement exactly if the string has an
interior NUL or is one that they make the same of. -/
theorem samePreparation_iff (string : ParseString Q) (hints : List (Option Oid)) :
    SamePreparation string hints ↔
      containsNul string.sql = true ∨ PreparedAlike string hints := by
  by_cases unclean : containsNul string.sql = true
  · simp [SamePreparation, SameEnding, prepare, ParseString.request, unclean]
  · have clean : containsNul string.sql = false := by simpa using unclean
    rw [or_iff_right unclean, ← spiAnswer_eq_directAnswer_iff]
    constructor
    · intro same
      have outside : Serves (Pg.fresh .standard : Pg Q).xact.blockState := .inl rfl
      exact (sameEnding_iff clean outside).mp (same _ outside)
    · intro agree pg serves
      exact (sameEnding_iff clean serves).mpr agree

end Types

/-! ## Two inserts in one string -/

/-- A statement without parameters that rewrites to one query. -/
def plainStatement (query : Q) : ParsedStatement Q where
  node := .other true
  varparams := .ok ([], [query])
  fixedparams _ := .ok [query]
  reanalyzes := by
    rintro types queries ⟨⟩
    rfl

/-- `INSERT INTO t VALUES (1); INSERT INTO t VALUES (2)`. -/
def insertTwice : ParseString Nat where
  sql := "INSERT INTO t VALUES (1); INSERT INTO t VALUES (2)"
  parsed := .ok [plainStatement 1, plainStatement 2]
  resultDesc _ := none
  commandTag _ := ⟨"INSERT", true⟩

/-- SPI keeps both inserts and the direct path only the first. -/
theorem twoInserts_differ :
    ¬∀ [TypeTable] (string : ParseString Nat) (hints : List (Option Oid)),
      SamePreparation string hints := by
  intro always
  let _ : TypeTable := ⟨fun _ => none, by simp⟩
  have same := always insertTwice [] (Pg.fresh .standard) (.inl rfl)
  rw [sameEnding_iff (by decide) (.inl rfl)] at same
  revert same
  decide

end PgTransport.Properties
