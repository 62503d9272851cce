import PgTransport.Backend.Extended.Outcome
import PgTransport.Backend.Extended.Plans

/-!
# The types of parameters

A `Parse` may give the type of every parameter, of none, or of some.  One
switch decides for the whole message: with a single hint present, the hints are
passed on as they are, with `InvalidOid` where there is none.

What `prepare` passes on is said without a log of its calls.  Types that it does not
pass on have no influence: whatever the server would answer about them, the `Parse`
ends the same way.  Types that it passes on decide: what the server raises about them is
the answer to the `Parse`.
-/

namespace PgTransport.Properties

open PgTransport.Backend
open PgTransport.Computation
open PgTransport.Postgres
open PgTransport.Wire

/-! ## What a hint resolves to -/

/-- The type of every parameter: the client's where it gives one, else the
inferred type, text if that is unknown. -/
def resolvedTypes (hints : List (Option Oid)) (inferred : List Oid) : List Oid :=
  inferred.mapIdx fun position oid => hints[position]?.join.getD (resolveOid oid)

/-- Neither `InvalidOid` nor `UNKNOWN` is among the types. -/
def Known (types : List Oid) : Prop :=
  ∀ oid ∈ types, oid ≠ INVALID ∧ oid ≠ UNKNOWNOID

theorem resolveOid_known (oid : Oid) : resolveOid oid ≠ INVALID ∧ resolveOid oid ≠ UNKNOWNOID := by
  unfold resolveOid
  split
  · decide
  · next known => exact not_or.mp known

theorem known_map_resolveOid (types : List Oid) : Known (types.map resolveOid) := by
  intro oid member
  obtain ⟨inferred, _, rfl⟩ := List.mem_map.mp member
  exact resolveOid_known inferred

/-- Without hints every type is inferred. -/
theorem resolvedTypes_unhinted {hints : List (Option Oid)} (unhinted : ∀ hint ∈ hints, hint = none)
    (inferred : List Oid) : resolvedTypes hints inferred = inferred.map resolveOid := by
  apply List.ext_getElem
  · simp [resolvedTypes]
  · intro position inside _
    have absent : hints[position]?.join = none := by
      cases here : hints[position]? with
      | none => rfl
      | some hint => rw [unhinted hint (List.mem_of_getElem? here)]; rfl
    simp [resolvedTypes, absent]

/-- With a hint for every parameter every type is the client's. -/
theorem resolvedTypes_hinted {oids inferred : List Oid} (complete : oids.length = inferred.length) :
    resolvedTypes (oids.map some) inferred = oids := by
  apply List.ext_getElem
  · simp [resolvedTypes, complete]
  · intro position _ inside
    simp [resolvedTypes, inside]

/-! ## What `prepare` passes on -/

/-- A `Parse` whose first statement the analyzer infers these parameter types
for, with hints for no more than these parameters. -/
structure Infers (request : ParseRequest) (inferred : List Oid) : Prop where
  clean : containsNul request.sql = false
  parsed : ∃ first rest, request.parsed = .ok (some first :: rest) ∧
    (if rest.isEmpty then classifyRawStmt first else none) = none
  analyzed : ∃ querytreesNull, request.analyze none = .ok ⟨querytreesNull, inferred⟩
  covered : request.paramHints.length ≤ inferred.length

/-- The same `Parse` put to a server whose answers about `types` may differ. -/
structure SameBut (types : List Oid) (request other : ParseRequest) : Prop where
  sql : other.sql = request.sql
  paramHints : other.paramHints = request.paramHints
  spiRcs : other.spiRcs = request.spiRcs
  parsed : other.parsed = request.parsed
  keepplanRc : other.keepplanRc = request.keepplanRc
  finish : other.finish = request.finish
  varparams : other.analyze none = request.analyze none
  fixedparams : ∀ asked, asked ≠ types →
    other.analyze (some asked) = request.analyze (some asked)
  spiPrepare : ∀ asked, asked ≠ types → other.spiPrepare asked = request.spiPrepare asked
  complete : ∀ asked, asked ≠ types → other.complete asked = request.complete asked

/-- `prepare` passes `types` neither to the analyzer for fixed parameters nor
to `SPI_prepare` nor to a plan source. -/
def NotPassed (E : Type) [TypeTable] (backend : ExecutionBackend) (request : ParseRequest)
    (types : List Oid) : Prop :=
  ∀ other, SameBut types request other →
    (prepare backend other : PgM E _) = prepare backend request

/-- The same `Parse` put to a server that parses it and infers its parameter types in the
same way, whatever else it answers. -/
structure SameInference (request other : ParseRequest) : Prop where
  sql : other.sql = request.sql
  paramHints : other.paramHints = request.paramHints
  parsed : other.parsed = request.parsed
  varparams : other.analyze none = request.analyze none

/-- The server raises `report` where a plan is made with these types: in `SPI_prepare`, or
in `CompleteCachedPlan` behind an analysis with a result, which is for fixed parameters
where the client gives a hint. -/
def RefusesPlan (backend : ExecutionBackend) (request : ParseRequest) (types : List Oid)
    (report : ErrorReport) : Prop :=
  match backend with
  | .spi => request.spiRcs.connect = SPI_OK_CONNECT ∧ request.spiPrepare types = .error report
  | .direct =>
      (∃ paramTypes, request.analyze (if request.anyHintPresent then some types else none) =
        .ok ⟨false, paramTypes⟩) ∧ request.complete types = .error report

/-- The `Parse` is answered with `report`, wherever its bracket is entered. -/
def AnsweredWith (E : Type) [TypeTable] (backend : ExecutionBackend) (request : ParseRequest)
    (report : ErrorReport) : Prop :=
  ∀ pg : Pg E, pg.xact.blockState = .default ∨ pg.xact.blockState = .inprogress →
    ∃ after, prepare backend request pg =
      (.ret (.error (panicToPgwire (.caughtError report))), after)

/-- `SPI_prepare` makes its plans with the argument types that it is given. -/
def KeepsArgTypes (request : ParseRequest) : Prop :=
  ∀ types plan, request.spiPrepare types = .ok (.ok plan) → plan.argTypes = types

/-- The types of the parameters that the statement is executed with. -/
def recordedTypes (statement : PreparedStatement) : List Oid :=
  match statement.plan with
  | .spi plan => plan.paramOids
  | .direct plan => plan.paramOids
  | .xactControl _ => []

/-- Every statement that the `Parse` returns records these types, and describes them to the
client. -/
def Records (E : Type) [TypeTable] (backend : ExecutionBackend) (request : ParseRequest)
    (types : List Oid) : Prop :=
  ∀ (pg after : Pg E) (statement : PreparedStatement),
    prepare backend request pg = (.ret (.ok statement), after) →
      recordedTypes statement = types ∧ statement.paramTypes = types.map paramType

/-- On this backend, and whatever the server answers beside what it infers, `prepare` passes
on the resolution of the hints, which is free of `InvalidOid` and `UNKNOWN`, passes on
nothing else, and records it. -/
structure ResolvesHints (E : Type) [TypeTable] (backend : ExecutionBackend)
    (request : ParseRequest) (inferred : List Oid) : Prop where
  known : Known (resolvedTypes request.paramHints inferred)
  only : ∀ other, SameInference request other → ∀ types,
    types ≠ resolvedTypes request.paramHints inferred → NotPassed E backend other types
  passed : ∀ other report, SameInference request other →
    RefusesPlan backend other (resolvedTypes request.paramHints inferred) report →
      AnsweredWith E backend other report
  recorded : ∀ other, SameInference request other → KeepsArgTypes other →
    Records E backend other (resolvedTypes request.paramHints inferred)

/-- The types that the code settles on. -/
def settledTypes (request : ParseRequest) (inferred : List Oid) : List Oid :=
  if request.anyHintPresent then request.hintOids else inferred.map resolveOid

section Passing

variable {E : Type} {request other : ParseRequest} {inferred types : List Oid}

theorem SameInference.infers (same : SameInference request other)
    (infers : Infers request inferred) : Infers other inferred where
  clean := by rw [same.sql]; exact infers.clean
  parsed := by rw [same.parsed]; exact infers.parsed
  analyzed := by rw [same.varparams]; exact infers.analyzed
  covered := by rw [same.paramHints]; exact infers.covered

theorem SameInference.settledTypes_eq (same : SameInference request other) :
    settledTypes other inferred = settledTypes request inferred := by
  simp only [settledTypes, ParseRequest.anyHintPresent, ParseRequest.hintOids, same.paramHints]
  rfl

theorem SameBut.inference (same : SameBut types request other) : SameInference request other :=
  ⟨same.sql, same.paramHints, same.parsed, same.varparams⟩

theorem Infers.arguments (infers : Infers request inferred) :
    request.arguments = .ok (settledTypes request inferred, none) := by
  obtain ⟨first, rest, parsed, uncontrolled⟩ := infers.parsed
  obtain ⟨querytreesNull, analyzed⟩ := infers.analyzed
  unfold ParseRequest.arguments settledTypes
  split
  · rfl
  · simp only [ParseRequest.inferred, parsed, uncontrolled, analyzed, Except.map]

section Types

variable [TypeTable]

/-- The SPI path asks `SPI_prepare` about the settled types alone. -/
theorem spiPrepareBody_of_same (infers : Infers request inferred)
    (same : SameBut types request other) (differ : types ≠ settledTypes request inferred)
    (clean : containsNul request.sql = false) (cleanOther : containsNul other.sql = false) :
    (spiPrepareBody other cleanOther : PgM E _) = spiPrepareBody request clean := by
  have answer := same.spiPrepare _ differ.symm
  have arguments := (same.inference.infers infers).arguments
  rw [same.inference.settledTypes_eq] at arguments
  unfold spiPrepareBody
  rw [spiArguments_eq, spiArguments_eq, arguments, infers.arguments]
  funext pg
  simp only [Comp.bind_apply, callPg_ok, resume_ret, answer, same.keepplanRc, same.sql]

/-- The direct path asks the analyzer and completes a plan source with the
settled types alone. -/
theorem directPrepareBody_of_same (infers : Infers request inferred)
    (same : SameBut types request other) (differ : types ≠ settledTypes request inferred)
    (clean : containsNul request.sql = false) (cleanOther : containsNul other.sql = false) :
    (directPrepareBody other cleanOther : PgM E _) = directPrepareBody request clean := by
  obtain ⟨first, rest, parsed, uncontrolled⟩ := infers.parsed
  obtain ⟨querytreesNull, analyzed⟩ := infers.analyzed
  have completed := same.complete _ differ.symm
  have fixed := same.fixedparams _ differ.symm
  have anyHint : other.anyHintPresent = request.anyHintPresent := by
    rw [ParseRequest.anyHintPresent, same.paramHints, ParseRequest.anyHintPresent]
  have hintOids : other.hintOids = request.hintOids := by
    rw [ParseRequest.hintOids, same.paramHints, ParseRequest.hintOids]
  unfold directPrepareBody
  rw [same.parsed, parsed]
  funext pg
  simp only [Comp.bind_apply, callPg_ok, resume_ret, uncontrolled, directComplete, anyHint,
    hintOids, same.sql]
  unfold settledTypes at completed fixed
  by_cases hinted : request.anyHintPresent
  · simp only [hinted, if_true] at completed fixed ⊢
    rw [fixed]
    simp only [completed]
  · simp only [hinted, Bool.false_eq_true, if_false] at completed ⊢
    simp only [same.varparams, analyzed, callPg_ok, resume_ret, completed]

/-- Nothing but the settled types is passed on. -/
theorem notPassed_of_ne (infers : Infers request inferred) (backend : ExecutionBackend)
    (differ : types ≠ settledTypes request inferred) : NotPassed E backend request types := by
  intro other same
  have clean := infers.clean
  have cleanOther := (same.inference.infers infers).clean
  rw [prepare_eq_withXact backend clean, prepare_eq_withXact backend cleanOther, same.finish]
  cases backend with
  | spi =>
      simp only [prepareBody, same.spiRcs]
      rw [spiPrepareBody_of_same infers same differ clean cleanOther]
  | direct =>
      simp only [prepareBody]
      rw [directPrepareBody_of_same infers same differ clean cleanOther]

/-- With this backend `prepare` makes a plan with the settled types: what the server raises
about them is the answer. -/
theorem answeredWith_of_refusesPlan (infers : Infers request inferred) (backend : ExecutionBackend)
    {report : ErrorReport}
    (refuses : RefusesPlan backend request (settledTypes request inferred) report) :
    AnsweredWith E backend request report := by
  have clean := infers.clean
  have raises (pg : Pg E) : ∃ depth, prepareBody backend request clean pg =
      (.unwind (.caughtError report), (pg.work []).atSpiDepth depth) := by
    cases backend with
    | spi =>
        obtain ⟨connected, refused⟩ := refuses
        refine ⟨pg.spiDepth + 1, ?_⟩
        simp only [prepareBody, spiSession, spiConnect, spiPrepareBody, spiArguments_eq,
          infers.arguments, connected, Comp.bind_apply, resume_ret, if_true, ne_eq,
          not_true_eq_false, if_false, callPg_ok, refused, callPg_error, resume_unwind, Pg.work_nil]
        rfl
    | direct =>
        obtain ⟨first, rest, parsed, uncontrolled⟩ := infers.parsed
        obtain ⟨⟨paramTypes, analyzed⟩, refused⟩ := refuses
        refine ⟨pg.spiDepth, ?_⟩
        simp only [prepareBody, directPrepareBody, parsed, uncontrolled, directComplete,
          Comp.bind_apply, callPg_ok, resume_ret, Pg.work_nil]
        by_cases hinted : request.anyHintPresent
        · have settled : settledTypes request inferred = request.hintOids := if_pos hinted
          rw [settled] at analyzed refused
          rw [if_pos hinted] at analyzed
          simp only [hinted, if_true, analyzed, refused, callPg_ok, callPg_error, resume_ret,
            resume_unwind, Bool.false_eq_true, if_false, Comp.bind_apply, Pg.work_nil]
          rfl
        · have settled : settledTypes request inferred = inferred.map resolveOid := if_neg hinted
          rw [settled] at refused
          rw [if_neg hinted] at analyzed
          obtain ⟨querytreesNull, found⟩ := infers.analyzed
          rw [analyzed] at found
          cases found
          simp only [hinted, analyzed, refused, callPg_ok, callPg_error, resume_ret,
            resume_unwind, Bool.false_eq_true, if_false, Comp.bind_apply, Pg.work_nil]
          rfl
  intro pg accepts
  rw [prepare_eq_withXact backend clean]
  rcases accepts with outside | inBlock
  · obtain ⟨depth, run⟩ := raises ((pg.begun true).hold true)
    exact ⟨_, withXact_default_unwind outside run⟩
  · obtain ⟨depth, run⟩ := raises ((pg.joined true).hold true)
    exact ⟨_, withXact_inprogress_unwind inBlock run⟩

/-- What is returned records the settled types. -/
theorem records_settled (infers : Infers request inferred) (backend : ExecutionBackend)
    (keeps : KeepsArgTypes request) :
    Records E backend request (settledTypes request inferred) := by
  have clean := infers.clean
  let Recorded (statement : PreparedStatement) : Prop :=
    recordedTypes statement = settledTypes request inferred ∧
      statement.paramTypes = (settledTypes request inferred).map paramType
  have returns : Returns (prepareBody backend request clean : PgM E _)
      fun result => ∀ statement, result = .ok statement → Recorded statement := by
    cases backend with
    | spi =>
        apply returns_spiSession
        rw [spiPrepareBody, spiArguments_eq, infers.arguments]
        refine (returns_callPg _ _).bind fun arguments asked => ?_
        cases asked
        dsimp only
        refine (returns_callPg _ _).bind fun prepared answer => ?_
        cases prepared with
        | error rc => exact .pure (by simp)
        | ok plan =>
            apply Returns.ite
            · exact .pure (by simp)
            · apply Returns.pure
              rintro _ ⟨⟩
              have same := keeps _ plan answer
              exact ⟨same, congrArg (List.map paramType) same⟩
    | direct =>
        obtain ⟨first, rest, parsed, uncontrolled⟩ := infers.parsed
        obtain ⟨querytreesNull, analyzed⟩ := infers.analyzed
        rw [prepareBody, directPrepareBody, parsed]
        refine (returns_callPg _ _).bind fun rawList read => ?_
        cases read
        dsimp only
        rw [uncontrolled]
        refine (returns_callPg _ _).bind fun analysis found => ?_
        have settled : (if request.anyHintPresent then request.hintOids
            else analysis.paramTypes.map resolveOid) = settledTypes request inferred := by
          unfold settledTypes
          split
          · rfl
          · next unhinted =>
            rw [if_neg unhinted, analyzed] at found
            cases found
            rfl
        dsimp only
        rw [settled]
        apply Returns.ite
        · exact .pure (by simp)
        · refine (returns_callPg _ _).bind fun shape _ => ?_
          apply Returns.pure
          rintro _ ⟨⟩
          exact ⟨rfl, rfl⟩
  intro pg after statement run
  rw [prepare_eq_withXact backend clean] at run
  exact returns_withXact returns _ _ _ run _ rfl

/-- The same `Parse` on a server that makes no plan with these types. -/
def refusing (request : ParseRequest) (types : List Oid) (report : ErrorReport) :
    ParseRequest :=
  { request with
    spiRcs := .clean
    analyze := fun asked =>
      match asked with
      | none => request.analyze none
      | some _ => .ok ⟨false, []⟩
    spiPrepare := fun asked => if asked = types then .error report else request.spiPrepare asked
    complete := fun asked => if asked = types then .error report else request.complete asked }

omit [TypeTable] in
theorem sameInference_refusing (request : ParseRequest) (types : List Oid)
    (report : ErrorReport) : SameInference request (refusing request types report) :=
  ⟨rfl, rfl, rfl, rfl⟩

omit [TypeTable] in
theorem sameBut_refusing (request : ParseRequest) (types : List Oid)
    (first second : ErrorReport) :
    SameBut types (refusing request types first) (refusing request types second) where
  sql := rfl
  paramHints := rfl
  spiRcs := rfl
  parsed := rfl
  keepplanRc := rfl
  finish := rfl
  varparams := rfl
  fixedparams _ _ := rfl
  spiPrepare asked differ := by simp [refusing, differ]
  complete asked differ := by simp [refusing, differ]

/-- With a hint present, a plan is made with the hints themselves on either backend. -/
theorem passed_hintOids (infers : Infers request inferred)
    (hinted : request.anyHintPresent = true) (backend : ExecutionBackend) :
    ∃ other, SameInference request other ∧ ¬NotPassed E backend other request.hintOids := by
  have answered (report : ErrorReport) :
      AnsweredWith E backend (refusing request request.hintOids report) report := by
    have same := sameInference_refusing request request.hintOids report
    have settled : settledTypes (refusing request request.hintOids report) inferred =
        request.hintOids := if_pos hinted
    apply answeredWith_of_refusesPlan (same.infers infers)
    rw [settled]
    cases backend with
    | spi => exact ⟨rfl, if_pos rfl⟩
    | direct =>
        have present : (refusing request request.hintOids report).anyHintPresent = true := hinted
        refine ⟨⟨[], ?_⟩, if_pos rfl⟩
        rw [if_pos present]
        rfl
  let first : ErrorReport := ⟨"ERROR", "ERRCODE_UNDEFINED_PARAMETER", "first"⟩
  let second : ErrorReport := ⟨"ERROR", "ERRCODE_UNDEFINED_PARAMETER", "second"⟩
  refine ⟨refusing request request.hintOids first, sameInference_refusing _ _ _, ?_⟩
  intro unasked
  obtain ⟨_, firstRun⟩ := answered first (Pg.fresh .standard) (.inl rfl)
  obtain ⟨_, secondRun⟩ := answered second (Pg.fresh .standard) (.inl rfl)
  rw [unasked _ (sameBut_refusing request request.hintOids first second), firstRun] at secondRun
  simp [panicToPgwire, errorReportToPgwire, first, second] at secondRun

end Types

/-- Hints that are all given are the types that are passed on. -/
theorem map_some_of_given {hints : List (Option Oid)}
    (given : ∀ hint ∈ hints, ∃ oid, hint = some oid ∧ oid ≠ INVALID ∧ oid ≠ UNKNOWNOID) :
    hints = (hints.map fun hint => hint.getD INVALID).map some := by
  induction hints with
  | nil => rfl
  | cons hint hints inductionHypothesis =>
      obtain ⟨⟨oid, rfl, _⟩, rest⟩ := List.forall_mem_cons.mp given
      rw [List.map_cons, List.map_cons, ← inductionHypothesis rest]
      rfl

/-- Every hint is absent, or there is one for every parameter and none of them
is `InvalidOid` or `UNKNOWN`. -/
def AllOrNone (hints : List (Option Oid)) (inferred : List Oid) : Prop :=
  (∀ hint ∈ hints, hint = none) ∨
    hints.length = inferred.length ∧
      ∀ hint ∈ hints, ∃ oid, hint = some oid ∧ oid ≠ INVALID ∧ oid ≠ UNKNOWNOID

theorem anyHintPresent_eq_false_iff :
    request.anyHintPresent = false ↔ ∀ hint ∈ request.paramHints, hint = none := by
  simp [ParseRequest.anyHintPresent]

/-- What the code settles on is the resolution of the hints in these two cases
alone. -/
theorem settledTypes_resolve_iff :
    settledTypes request inferred = resolvedTypes request.paramHints inferred ∧
        Known (settledTypes request inferred) ↔
      AllOrNone request.paramHints inferred := by
  by_cases hinted : request.anyHintPresent
  · have settled : settledTypes request inferred = request.hintOids := if_pos hinted
    rw [settled]
    constructor
    · rintro ⟨resolved, known⟩
      refine .inr ⟨?_, ?_⟩
      · simpa [ParseRequest.hintOids, resolvedTypes] using congrArg List.length resolved
      · intro hint member
        have passed := known (hint.getD INVALID) (List.mem_map_of_mem member)
        cases hint with
        | none => exact absurd rfl passed.1
        | some oid => exact ⟨oid, rfl, passed⟩
    · rintro (unhinted | ⟨complete, given⟩)
      · rw [anyHintPresent_eq_false_iff.mpr unhinted] at hinted
        cases hinted
      · have hints : request.paramHints = request.hintOids.map some := map_some_of_given given
        have length : request.hintOids.length = inferred.length := by
          rw [ParseRequest.hintOids, List.length_map, complete]
        refine ⟨?_, ?_⟩
        · rw [hints, resolvedTypes_hinted length]
        · intro oid member
          obtain ⟨hint, among, rfl⟩ := List.mem_map.mp member
          obtain ⟨oid, rfl, known⟩ := given hint among
          exact known
  · have unhinted := anyHintPresent_eq_false_iff.mp (by simpa using hinted)
    have settled : settledTypes request inferred = inferred.map resolveOid := if_neg hinted
    rw [settled, resolvedTypes_unhinted unhinted]
    exact iff_of_true ⟨rfl, known_map_resolveOid inferred⟩ (.inl unhinted)

section Types

variable [TypeTable]

/-- Either backend resolves the hints exactly if there are none or they are complete and
known. -/
theorem resolvesHints_iff (backend : ExecutionBackend) (infers : Infers request inferred) :
    ResolvesHints E backend request inferred ↔ AllOrNone request.paramHints inferred := by
  rw [← settledTypes_resolve_iff]
  constructor
  · intro resolves
    by_cases hinted : request.anyHintPresent
    · have settled : settledTypes request inferred = request.hintOids := if_pos hinted
      have resolved : request.hintOids = resolvedTypes request.paramHints inferred := by
        by_contra differ
        obtain ⟨other, same, passed⟩ := passed_hintOids (E := E) infers hinted backend
        exact passed (resolves.only other same _ differ)
      rw [settled]
      exact ⟨resolved, resolved ▸ resolves.known⟩
    · have unhinted := anyHintPresent_eq_false_iff.mp (by simpa using hinted)
      exact settledTypes_resolve_iff.mpr (.inl unhinted)
  · rintro ⟨resolved, known⟩
    have settles {other : ParseRequest} (same : SameInference request other) :
        settledTypes other inferred = resolvedTypes request.paramHints inferred :=
      same.settledTypes_eq.trans resolved
    constructor
    · exact resolved ▸ known
    · intro other same types differ
      exact notPassed_of_ne (same.infers infers) backend (settles same ▸ differ)
    · intro other report same refuses
      exact answeredWith_of_refusesPlan (same.infers infers) backend (settles same ▸ refuses)
    · intro other same keeps
      exact settles same ▸ records_settled (same.infers infers) backend keeps

end Types

end Passing

/-! ## A hint for one of two parameters -/

/-- `INT4OID`. -/
def INT4OID : Oid := 23

/-- `SELECT $1, $2` with these hints; the analyzer infers `int4` and `text`. -/
def selectTwo (hints : List (Option Oid)) : ParseRequest :=
  { ParseRequest.select "SELECT $1::int4, $2" [] with
    paramHints := hints
    analyze := fun _ => .ok ⟨false, [INT4OID, TEXTOID]⟩ }

theorem selectTwo_infers {hints : List (Option Oid)} (covered : hints.length ≤ 2) :
    Infers (selectTwo hints) [INT4OID, TEXTOID] where
  clean := by
    show containsNul "SELECT $1::int4, $2" = false
    decide
  parsed := ⟨_, _, rfl, rfl⟩
  analyzed := ⟨false, rfl⟩
  covered := covered

/-- Hints for both parameters are resolved. -/
theorem bothHints_resolved :
    ∃ _ : TypeTable,
      ResolvesHints Unit .spi (selectTwo [some TEXTOID, some INT4OID]) [INT4OID, TEXTOID] ∧
        ResolvesHints Unit .direct (selectTwo [some TEXTOID, some INT4OID]) [INT4OID, TEXTOID] := by
  let _ : TypeTable := .knowing [TEXTOID]
  have given : AllOrNone (selectTwo [some TEXTOID, some INT4OID]).paramHints
      [INT4OID, TEXTOID] := by
    refine .inr ⟨rfl, ?_⟩
    simp [selectTwo, INVALID, UNKNOWNOID, TEXTOID, INT4OID]
  have infers : Infers (selectTwo [some TEXTOID, some INT4OID]) [INT4OID, TEXTOID] :=
    selectTwo_infers (by simp)
  exact ⟨inferInstance, (resolvesHints_iff .spi infers).mpr given,
    (resolvesHints_iff .direct infers).mpr given⟩

/-- A hint for the first parameter leaves `InvalidOid` for the second, on either backend. -/
theorem oneHint_unresolved :
    ¬∃ backend, ∀ [TypeTable] (request : ParseRequest) (inferred : List Oid),
      Infers request inferred → ResolvesHints Unit backend request inferred := by
  rintro ⟨backend, always⟩
  let _ : TypeTable := ⟨fun _ => none, by simp⟩
  have infers : Infers (selectTwo [some INT4OID, none]) [INT4OID, TEXTOID] :=
    selectTwo_infers (by simp)
  obtain ⟨other, same, passed⟩ := passed_hintOids (E := Unit) infers rfl backend
  apply passed
  apply (always _ _ infers).only other same
  decide

end PgTransport.Properties
