import PgTransport.Properties.AuthenticationGate

/-!
# Rejections

A rejection is sent and forgotten: the handler returns as it does for any other
message, and messages keep being delivered.  A connection that was turned away is
let in later if a startup message gets past the handler afterwards, or if the
exchange that a rejected startup message left pending is completed.
-/

namespace PgTransport.Properties

open PgTransport.Auth

section Rejection

variable (library : Library) (deliveries : List Delivery)

/-- The connection is turned away. -/
def RejectsAt (index : Nat) : Prop :=
  ∃ outcome, .reject outcome ∈ actionsAt library deliveries index

/-- An exchange is under way. -/
def Pending : SaslPhase → Prop
  | .awaitingClientFirst _ | .awaitingClientFinal _ => True
  | .idle | .done => False

/-- A startup message that is let in, or that begins an exchange. -/
def GetsPast (library : Library) (connection : Connection) (environment : Environment)
    (startup : StartupMessage) : Prop :=
  LooksUp library connection environment startup ∧
    (FindsOpen (startupLookup library connection environment startup) ∨
      ∃ verifier, startupLookup library connection environment startup = some (.scram verifier))

/-- Once the connection has been turned away no startup message gets past the
handler, and none is turned away while an exchange is under way. -/
structure Settles (index : Nat) : Prop where
  closed : (∃ earlier, earlier < index ∧ RejectsAt library deliveries earlier) →
    ∀ startup environment, deliveries[index]? = some ⟨.startup startup, environment⟩ →
      ¬GetsPast library (connectionAt library deliveries index) environment startup
  alone : ∀ startup environment, deliveries[index]? = some ⟨.startup startup, environment⟩ →
    Refuses library (connectionAt library deliveries index) environment startup →
      ¬Pending (connectionAt library deliveries index).sasl

variable {library deliveries}

/-- A password message that is turned away ends the exchange. -/
theorem not_pending_of_password {connection : Connection} {environment : Environment}
    {msg : PasswordMessage}
    (still : ¬Pending connection.sasl ∨ ∃ outcome, .reject outcome ∈
      (onStartup library connection ⟨.passwordMessageFamily msg, environment⟩).actions) :
    ¬Pending (onStartup library connection
      ⟨.passwordMessageFamily msg, environment⟩).connection.sasl := by
  cases phase : connection.sasl with
  | idle => simp [onStartup, phase, reject, Pending]
  | done => simp [onStartup, phase, reject, Pending]
  | awaitingClientFinal server =>
      simp only [onStartup, phase]
      rw [(handleClientFinal_cases library { connection with sasl := .done } environment msg
        server).1]
      exact id
  | awaitingClientFirst server =>
      obtain ⟨outcome, rejected⟩ := still.resolve_left (by simp [phase, Pending])
      simp only [onStartup, phase] at rejected ⊢
      rcases handleClientFirst_cases library { connection with sasl := .done } environment msg
        server with ⟨_, _, _, _, actions, _⟩ | ⟨_, _, unchanged⟩
      · simp [actions] at rejected
      · rw [unchanged]
        exact id

/-- A message that turns the connection away leaves no exchange under way. -/
theorem not_pending_of_rejectsAt {index : Nat} (settles : Settles library deliveries index)
    (rejects : RejectsAt library deliveries index) :
    ¬Pending (connectionAt library deliveries (index + 1)).sasl := by
  obtain ⟨outcome, made⟩ := rejects
  obtain ⟨⟨message, environment⟩, here, made⟩ := exists_of_mem_actionsAt made
  rw [connectionAt_succ here]
  cases message with
  | other => simp [onStartup] at made
  | passwordMessageFamily msg => exact not_pending_of_password (.inr ⟨outcome, made⟩)
  | startup startup =>
      rw [onStartup] at made ⊢
      rcases handleStartup_cases library (connectionAt library deliveries index) environment
        startup with ⟨_, _, actions, _⟩ | ⟨_, _, _, actions, _⟩ | ⟨_, refuses, _, same⟩ |
          ⟨actions, _⟩
      · simp [actions] at made
      · simp [actions] at made
      · rw [same]
        exact settles.alone startup environment here refuses
      · simp [actions] at made

/-- Behind a rejection no message begins an exchange. -/
theorem not_pending_succ {index : Nat} (settles : Settles library deliveries index)
    (rejected : ∃ earlier, earlier < index ∧ RejectsAt library deliveries earlier)
    (quiet : ¬Pending (connectionAt library deliveries index).sasl) :
    ¬Pending (connectionAt library deliveries (index + 1)).sasl := by
  cases here : deliveries[index]? with
  | none =>
      rwa [connectionAt, List.take_add_one, here, Option.toList_none, List.append_nil]
  | some delivery =>
      obtain ⟨message, environment⟩ := delivery
      rw [connectionAt_succ here]
      cases message with
      | other => exact quiet
      | passwordMessageFamily msg => exact not_pending_of_password (.inl quiet)
      | startup startup =>
          rw [onStartup]
          rcases handleStartup_cases library (connectionAt library deliveries index) environment
            startup with ⟨_, _, _, same⟩ | ⟨verifier, looksUp, found, _⟩ | ⟨_, _, _, same⟩ |
              ⟨_, same⟩
          · rwa [same]
          · exact absurd ⟨looksUp, .inr ⟨verifier, found⟩⟩
              (settles.closed rejected startup environment here)
          · rwa [same]
          · rwa [same]

/-- In every run whose messages meet the condition, no exchange is under way
behind a rejection. -/
theorem not_pending_of_rejected (settles : ∀ index, Settles library deliveries index)
    {first second : Nat} (later : first < second)
    (rejects : RejectsAt library deliveries first) :
    ¬Pending (connectionAt library deliveries second).sasl := by
  induction second with
  | zero => exact absurd later (Nat.not_lt_zero first)
  | succ second inductionHypothesis =>
      rcases Nat.lt_succ_iff_lt_or_eq.mp later with behind | rfl
      · exact not_pending_succ (settles second) ⟨first, behind, rejects⟩
          (inductionHypothesis behind)
      · exact not_pending_of_rejectsAt (settles first) rejects

/-- In every run whose messages meet the condition, a connection that was turned
away is not let in later. -/
theorem no_accept_after_reject (library : Library) (deliveries : List Delivery)
    (settles : ∀ index, Settles library deliveries index) (first second : Nat)
    (later : first < second) (rejects : RejectsAt library deliveries first) :
    ¬AcceptsAt library deliveries second := by
  intro accepts
  obtain ⟨⟨message, environment⟩, here, made⟩ := exists_of_mem_actionsAt accepts
  rcases occasion made with ⟨startup, rfl, looksUp, found⟩ | ⟨server, msg, phase, _, _⟩
  · exact (settles second).closed ⟨first, later, rejects⟩ startup environment here
      ⟨looksUp, .inl found⟩
  · apply not_pending_of_rejected settles later rejects
    rw [phase]
    trivial

end Rejection

/-- A connection that asks for another database twice. -/
theorem second_attempt_turned_away :
    RejectsAt plainLibrary [startupFor "alice" "other", startupFor "alice" "other"] 0 ∧
      ¬AcceptsAt plainLibrary [startupFor "alice" "other", startupFor "alice" "other"] 1 := by
  have rejects : RejectsAt plainLibrary
      [startupFor "alice" "other", startupFor "alice" "other"] 0 :=
    ⟨_, List.mem_singleton.mpr rfl⟩
  refine ⟨rejects, no_accept_after_reject plainLibrary _ ?_ 0 1 (by decide) rejects⟩
  have other : ∀ index startup environment,
      [startupFor "alice" "other", startupFor "alice" "other"][index]? =
        some ⟨.startup startup, environment⟩ →
      startupDatabase plainLibrary (connectionAt plainLibrary
        [startupFor "alice" "other", startupFor "alice" "other"] index) startup ≠ postgres := by
    intro index startup environment here
    match index with
    | 0 => cases here; decide
    | 1 => cases here; decide
    | index + 2 => simp at here
  intro index
  constructor
  · rintro - startup environment here ⟨⟨_, database⟩, _⟩
    exact other index startup environment here database
  · intro startup environment here _
    match index with
    | 0 => exact id
    | 1 => exact id
    | index + 2 => simp at here

/-- A connection that was turned away for its database is let in when it asks
again for the right one. -/
theorem second_attempt_accepted :
    ¬∀ (library : Library) (deliveries : List Delivery) (first second : Nat), first < second →
      (∀ index delivery, deliveries[index]? = some delivery →
        (onStartup library (connectionAt library deliveries index) delivery).returned = .ok) →
      RejectsAt library deliveries first → ¬AcceptsAt library deliveries second := by
  intro claim
  refine claim plainLibrary [startupFor "alice" "other", startupFor "alice" "postgres"] 0 1
    (by decide) ?_ ⟨_, List.mem_singleton.mpr rfl⟩ (List.mem_singleton.mpr rfl)
  intro index delivery here
  match index with
  | 0 => cases here; decide
  | 1 => cases here; decide
  | index + 2 => simp at here

end PgTransport.Properties
