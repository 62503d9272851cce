import PgTransport.Backend.Works

/-!
# The plans that `Parse` makes

A `Parse` that is answered has made one of three plans: an interception of
transaction control, a kept SPI plan with the column types of its first source,
or a completed plan source with the column types of its descriptor.
-/

namespace PgTransport.Backend

open PgTransport.Computation
open PgTransport.Postgres
open PgTransport.Wire

variable {E : Type} {α : Type}

section Bracket

variable {body : PgM E (PgWireResult α)} {post : α → Prop}

/-- The value a bracket returns is the value of its body. -/
theorem returns_withXact {needsSnapshot : Bool} {finish : Option ErrorReport}
    (returns : Returns body fun result => ∀ value, result = .ok value → post value) :
    Returns (withXact needsSnapshot finish body)
      fun result => ∀ value, result = .ok value → post value := by
  refine (Returns.any _).bind fun _ _ => (Returns.any _).bind fun _ _ =>
    returns.catchUnwind.bind ?_
  rintro (payload | err | value) holds
  · exact (Returns.any _).bind fun _ _ => .pure (by simp)
  · exact (Returns.any _).bind fun _ _ => (Returns.any _).bind fun _ _ => .pure (by simp)
  · exact (Returns.any _).bind fun _ _ => (Returns.any _).bind fun _ _ =>
      .pure (holds _ rfl)

theorem returns_spiSession {rcs : SpiRcs}
    (returns : Returns body fun result => ∀ value, result = .ok value → post value) :
    Returns (spiSession rcs body) fun result => ∀ value, result = .ok value → post value := by
  refine (Returns.any _).bind fun connectRc _ => .ite (.pure (by simp)) <|
    returns.bind fun bodyResult holds => (Returns.any _).bind fun finishRc _ =>
      .ite (.pure ?_) (.pure holds)
  cases bodyResult <;> simp [PgWireResult.andError]

end Bracket

theorem returns_callPg {β : Type} (effects : β → List E) (answer : Except ErrorReport β) :
    Returns (callPg effects answer) fun value => answer = .ok value := by
  cases answer with
  | error report => exact .raise _
  | ok value => exact (Returns.any _).bind fun _ _ => .pure rfl

section Types

variable [TypeTable]

/-- The statements that a `Parse` can make on a backend. -/
inductive MadeBy (request : ParseRequest) : ExecutionBackend → PreparedStatement → Prop where
  | xactControl (backend : ExecutionBackend) (clean : containsNul request.sql = false)
      (cmd : XactCmd) : MadeBy request backend (.xactControl request.sql clean cmd)
  | spi {argOids : List Oid} {plan : SpiPlan} (clean : containsNul request.sql = false)
      (prepared : request.spiPrepare argOids = .ok (.ok plan)) :
      MadeBy request .spi (.ofSpiPlan request.sql clean plan)
  | direct {paramOids : List Oid} {shape : SourceShape}
      (clean : containsNul request.sql = false) (first : Node)
      (completed : request.complete paramOids = .ok shape) :
      MadeBy request .direct (.ofSource request.sql clean first paramOids shape)

theorem returns_spiPrepareBody (request : ParseRequest)
    (clean : containsNul request.sql = false) :
    Returns (spiPrepareBody request clean : PgM E _)
      fun result => ∀ value, result = .ok value → MadeBy request .spi value := by
  refine (Returns.any _).bind ?_
  rintro ⟨argOids, _ | cmd⟩ _
  · refine (returns_callPg _ _).bind fun prepared answer => ?_
    cases prepared with
    | error rc => exact .pure (by simp)
    | ok plan =>
        refine .ite (.pure (by simp)) (.pure ?_)
        rintro _ ⟨⟩
        exact .spi clean answer
  · refine .pure ?_
    rintro _ ⟨⟩
    exact .xactControl .spi clean cmd

theorem returns_directPrepareBody (request : ParseRequest)
    (clean : containsNul request.sql = false) :
    Returns (directPrepareBody request clean : PgM E _)
      fun result => ∀ value, result = .ok value → MadeBy request .direct value := by
  refine (Returns.any _).bind fun rawList _ => ?_
  match rawList with
  | [] => exact .pure (by simp)
  | none :: _ => exact .pure (by simp)
  | some first :: rest =>
      dsimp only
      cases (if rest.isEmpty then classifyRawStmt first else none) with
      | some cmd =>
          refine .pure ?_
          rintro _ ⟨⟩
          exact .xactControl .direct clean cmd
      | none =>
          refine (Returns.any _).bind fun analysis _ => .ite (.pure (by simp)) <|
            (returns_callPg _ _).bind fun shape answer => .pure ?_
          rintro _ ⟨⟩
          exact .direct clean first answer

/-- A `Parse` that succeeds returns one of the statements it can make. -/
theorem returns_prepare (backend : ExecutionBackend) (request : ParseRequest) :
    Returns (prepare backend request : PgM E _)
      fun result => ∀ value, result = .ok value → MadeBy request backend value := by
  unfold prepare
  split
  · exact .pure (by simp)
  · next text =>
    have clean : containsNul request.sql = false := by simpa using text
    cases backend with
    | spi =>
        simp only [spiPrepare, clean, dite_true, withSpi_eq_withXact]
        exact returns_withXact (returns_spiSession (returns_spiPrepareBody request clean))
    | direct =>
        simp only [directPrepare, clean, dite_true]
        exact returns_withXact (returns_directPrepareBody request clean)

/-- The statements a message adds to a session. -/
theorem mem_statements_of_receive {session : Session E} {message : Message E}
    {statement : PreparedStatement}
    (member : statement ∈ (session.receive message).2.statements) :
    statement ∈ session.statements ∨
      ∃ backend request, message = .parse backend request ∧
        MadeBy request backend statement := by
  unfold Session.receive at member
  split at member
  · cases message with
    | query backend body =>
        rcases ended : simpleQuery backend body session.pg with ⟨(_ | _) | _ | _, after⟩ <;>
          simp [ended, Session.conclude] at member <;> exact .inl member
    | execute index request =>
        dsimp only at member
        cases found : session.statements[index]? with
        | none =>
            rw [found] at member
            exact .inl member
        | some prepared =>
            rcases ended : prepared.execute request session.pg with
                ⟨(_ | _) | _ | _, after⟩ <;>
              simp [found, ended, Session.conclude] at member <;> exact .inl member
    | parse backend request =>
        rcases ended : prepare backend request session.pg with
            ⟨(_ | made) | _ | _, after⟩ <;>
          simp [ended, Session.conclude] at member
        case ret.ok =>
          rcases member with old | rfl
          · exact .inl old
          · exact .inr ⟨backend, request, rfl,
              returns_prepare backend request _ _ _ ended _ rfl⟩
        all_goals exact .inl member
  · exact .inl member

end Types

end PgTransport.Backend
