import PgTransport.Auth.Startup

/-!
# The authentication gate

A connection is let in while a startup message of a role without a credential
is handled, or while a proof is checked against the challenge of an exchange
that an earlier startup message began.  The phase is taken out of the handler
before a password message is handled, so that a challenge never outlives the
first proof that is checked against it.
-/

namespace PgTransport.Properties

open PgTransport.Auth

section Gate

variable (library : Library) (deliveries : List Delivery)

/-- The connection when the message of that index arrives. -/
def connectionAt (index : Nat) : Connection :=
  deliver library .fresh (deliveries.take index)

/-- The calls made while the message of that index is handled. -/
def actionsAt (index : Nat) : List Action :=
  (deliveries[index]?.map fun delivery =>
    (onStartup library (connectionAt library deliveries index) delivery).actions).getD []

/-- The message is a startup message whose lookup finds no credential to ask
for. -/
def OpensAt (index : Nat) : Prop :=
  ∃ startup environment, deliveries[index]? = some ⟨.startup startup, environment⟩ ∧
    LooksUp library (connectionAt library deliveries index) environment startup ∧
    FindsOpen (startupLookup library (connectionAt library deliveries index) environment startup)

/-- The message is a startup message whose lookup loads a verifier. -/
def LoadsAt (index : Nat) (verifier : ScramVerifier) : Prop :=
  ∃ startup environment, deliveries[index]? = some ⟨.startup startup, environment⟩ ∧
    LooksUp library (connectionAt library deliveries index) environment startup ∧
    startupLookup library (connectionAt library deliveries index) environment startup =
      some (.scram verifier)

/-- The message is answered with a challenge that is sent: a nonce of its own,
which the server keeps. -/
def ChallengesAt (index : Nat) (verifier : ScramVerifier) (challenged : ScramServer) : Prop :=
  ∃ msg environment serverFirst,
    deliveries[index]? = some ⟨.passwordMessageFamily msg, environment⟩ ∧
    Challenges library environment msg (.new verifier) serverFirst challenged ∧
    .saslContinue serverFirst ∈ actionsAt library deliveries index ∧
    environment.sends = true

/-- A proof is checked. -/
def ChecksAt (index : Nat) (server : ScramServer) (data : Bytes) : Prop :=
  .onClientFinal server data ∈ actionsAt library deliveries index

/-- The connection is let in. -/
def AcceptsAt (index : Nat) : Prop :=
  .accept ∈ actionsAt library deliveries index

/-- A proof is checked against the challenge of an earlier message, the last one
that was sent. -/
def ChecksAgainst (issue check : Nat) (verifier : ScramVerifier) (server : ScramServer)
    (data : Bytes) : Prop :=
  issue < check ∧ ChallengesAt library deliveries issue verifier server ∧
    ChecksAt library deliveries check server data ∧
    ∀ index, issue < index → index < check → ∀ verifier server,
      ¬ChallengesAt library deliveries index verifier server

/-! ## What is known of a phase -/

/-- The exchange that the phase is in was begun by an earlier startup message,
and its challenge has not been answered. -/
def Accounted (index : Nat) : SaslPhase → Prop
  | .awaitingClientFirst server =>
      ∃ load verifier, load < index ∧ LoadsAt library deliveries load verifier ∧
        server = .new verifier
  | .awaitingClientFinal server =>
      ∃ load issue verifier, load < issue ∧ issue < index ∧
        LoadsAt library deliveries load verifier ∧
        ChallengesAt library deliveries issue verifier server ∧
        ∀ later, issue < later → later < index →
          ∀ msg environment, deliveries[later]? ≠ some ⟨.passwordMessageFamily msg, environment⟩
  | .idle | .done => True

variable {library deliveries}

theorem connectionAt_succ {index : Nat} {delivery : Delivery}
    (here : deliveries[index]? = some delivery) :
    connectionAt library deliveries (index + 1) =
      (onStartup library (connectionAt library deliveries index) delivery).connection := by
  rw [connectionAt, List.take_add_one, here, Option.toList_some, deliver, List.foldl_append]
  rfl

theorem actionsAt_of_getElem {index : Nat} {delivery : Delivery}
    (here : deliveries[index]? = some delivery) :
    actionsAt library deliveries index =
      (onStartup library (connectionAt library deliveries index) delivery).actions := by
  rw [actionsAt, here, Option.map_some, Option.getD_some]

theorem exists_of_mem_actionsAt {index : Nat} {action : Action}
    (made : action ∈ actionsAt library deliveries index) :
    ∃ delivery, deliveries[index]? = some delivery ∧
      action ∈ (onStartup library (connectionAt library deliveries index) delivery).actions := by
  cases here : deliveries[index]? with
  | none => simp [actionsAt, here] at made
  | some delivery => exact ⟨delivery, rfl, by rwa [actionsAt_of_getElem here] at made⟩

/-- A message that is no password message leaves what is known of a phase. -/
theorem Accounted.later {index : Nat} {phase : SaslPhase}
    (known : Accounted library deliveries index phase)
    (other : ∀ msg environment,
      deliveries[index]? ≠ some ⟨.passwordMessageFamily msg, environment⟩) :
    Accounted library deliveries (index + 1) phase := by
  cases phase with
  | idle => trivial
  | done => trivial
  | awaitingClientFirst server =>
      obtain ⟨load, verifier, before, loads, same⟩ := known
      exact ⟨load, verifier, Nat.lt_succ_of_lt before, loads, same⟩
  | awaitingClientFinal server =>
      obtain ⟨load, issue, verifier, before, earlier, loads, challenges, quiet⟩ := known
      refine ⟨load, issue, verifier, before, Nat.lt_succ_of_lt earlier, loads, challenges, ?_⟩
      intro later behind inside
      rcases Nat.lt_succ_iff_lt_or_eq.mp inside with inside | rfl
      · exact quiet later behind inside
      · exact other

/-- A challenge is sent where the phase waits for a client-first message. -/
theorem accounted_of_password {index : Nat} {msg : PasswordMessage} {environment : Environment}
    (here : deliveries[index]? = some ⟨.passwordMessageFamily msg, environment⟩)
    (known : Accounted library deliveries index (connectionAt library deliveries index).sasl) :
    Accounted library deliveries (index + 1)
      (connectionAt library deliveries (index + 1)).sasl := by
  have actions : actionsAt library deliveries index = _ := actionsAt_of_getElem here
  rw [connectionAt_succ here]
  cases phase : (connectionAt library deliveries index).sasl with
  | idle => simp [onStartup, phase, reject, Accounted]
  | done => simp [onStartup, phase, reject, Accounted]
  | awaitingClientFinal server =>
      have ended := (handleClientFinal_cases library
        { connectionAt library deliveries index with sasl := .done } environment msg server).1
      simp [onStartup, phase, ended, Accounted]
  | awaitingClientFirst server =>
      rw [phase] at known
      obtain ⟨load, verifier, before, loads, rfl⟩ := known
      simp only [onStartup, phase] at actions ⊢
      rcases handleClientFirst_cases library
        { connectionAt library deliveries index with sasl := .done } environment msg
        (.new verifier) with
        ⟨data, serverFirst, challenged, challenges, made, sasl⟩ | ⟨_, _, unchanged⟩
      · rw [sasl]
        cases sends : environment.sends with
        | false => simp [Accounted]
        | true =>
            refine ⟨load, index, verifier, before, Nat.lt_succ_self index, loads,
              ⟨msg, environment, serverFirst, here, challenges, ?_⟩, ?_⟩
            · rw [actions, made]
              simp [sends]
            · intro later behind inside
              omega
      · rw [unchanged]
        trivial

/-- A startup message keeps the phase or begins an exchange. -/
theorem accounted_of_startup {index : Nat} {startup : StartupMessage}
    {environment : Environment}
    (here : deliveries[index]? = some ⟨.startup startup, environment⟩)
    (known : Accounted library deliveries index (connectionAt library deliveries index).sasl) :
    Accounted library deliveries (index + 1)
      (connectionAt library deliveries (index + 1)).sasl := by
  rw [connectionAt_succ here]
  have kept : Accounted library deliveries (index + 1)
      (connectionAt library deliveries index).sasl := known.later (by simp [here])
  rw [onStartup]
  rcases handleStartup_cases library (connectionAt library deliveries index) environment startup
    with ⟨_, _, _, same⟩ | ⟨verifier, looksUp, found, _, begun⟩ | ⟨_, _, _, same⟩ | ⟨_, same⟩
  · rwa [same]
  · rw [begun]
    exact ⟨index, verifier, Nat.lt_succ_self index, ⟨startup, environment, here, looksUp, found⟩,
      rfl⟩
  · rwa [same]
  · rwa [same]

/-- In every run, what is known of the phase holds. -/
theorem accounted (library : Library) (deliveries : List Delivery) (index : Nat) :
    Accounted library deliveries index (connectionAt library deliveries index).sasl := by
  induction index with
  | zero => trivial
  | succ index inductionHypothesis =>
      cases here : deliveries[index]? with
      | none =>
          have same : connectionAt library deliveries (index + 1) =
              connectionAt library deliveries index := by
            rw [connectionAt, connectionAt, List.take_add_one, here, Option.toList_none,
              List.append_nil]
          rw [same]
          exact inductionHypothesis.later (by simp [here])
      | some delivery =>
          obtain ⟨message, environment⟩ := delivery
          cases message with
          | startup startup => exact accounted_of_startup here inductionHypothesis
          | passwordMessageFamily msg => exact accounted_of_password here inductionHypothesis
          | other =>
              rw [connectionAt_succ here]
              exact inductionHypothesis.later (by simp [here])

/-! ## Checks and challenges -/

/-- A proof is checked in the phase that waits for it. -/
theorem phase_of_checksAt {index : Nat} {server : ScramServer} {data : Bytes}
    (checks : ChecksAt library deliveries index server data) :
    (connectionAt library deliveries index).sasl = .awaitingClientFinal server ∧
      ∃ msg environment, deliveries[index]? = some ⟨.passwordMessageFamily msg, environment⟩ := by
  obtain ⟨⟨message, environment⟩, here, made⟩ := exists_of_mem_actionsAt checks
  obtain ⟨phase, msg, rfl, _⟩ := occasion made
  exact ⟨phase, msg, environment, here⟩

/-- A challenge is sent in the phase that waits for a client-first message. -/
theorem phase_of_challengesAt {index : Nat} {verifier : ScramVerifier} {challenged : ScramServer}
    (challenges : ChallengesAt library deliveries index verifier challenged) :
    ∃ server, (connectionAt library deliveries index).sasl = .awaitingClientFirst server := by
  obtain ⟨_, _, _, _, _, made, _⟩ := challenges
  obtain ⟨delivery, _, made⟩ := exists_of_mem_actionsAt made
  obtain ⟨server, _, _, phase, _⟩ := occasion made
  exact ⟨server, phase⟩

/-- Every proof is checked against the challenge that was sent last, of an
exchange that a startup message began; no password message came between. -/
theorem checksAgainst_of_checksAt {check : Nat} {server : ScramServer} {data : Bytes}
    (checks : ChecksAt library deliveries check server data) :
    ∃ load issue verifier, load < issue ∧ LoadsAt library deliveries load verifier ∧
      ChecksAgainst library deliveries issue check verifier server data ∧
      ∀ later, issue < later → later < check →
        ∀ msg environment, deliveries[later]? ≠ some ⟨.passwordMessageFamily msg, environment⟩ := by
  have known := accounted library deliveries check
  rw [(phase_of_checksAt checks).1] at known
  obtain ⟨load, issue, verifier, before, earlier, loads, challenges, quiet⟩ := known
  refine ⟨load, issue, verifier, before, loads, ⟨earlier, challenges, checks, ?_⟩, quiet⟩
  rintro later behind inside _ _ ⟨msg, environment, _, here, _⟩
  exact quiet later behind inside msg environment here

/-- A challenge has at most one proof checked against it. -/
theorem check_unique {issue first second : Nat} {verifier verifier' : ScramVerifier}
    {server server' : ScramServer} {data data' : Bytes}
    (checked : ChecksAgainst library deliveries issue first verifier server data)
    (again : ChecksAgainst library deliveries issue second verifier' server' data') :
    ¬first < second := by
  intro between
  obtain ⟨_, last, verifier, _, _, ⟨earlier, challenges, _⟩, quiet⟩ :=
    checksAgainst_of_checksAt again.2.2.1
  obtain ⟨phase, msg, environment, here⟩ := phase_of_checksAt checked.2.2.1
  -- the first check is no challenge, so that the last challenge lies behind it
  have behind : first < last := by
    by_contra before
    rcases Nat.lt_or_eq_of_le (Nat.not_lt.mp before) with before | rfl
    · exact quiet first before between msg environment here
    · obtain ⟨_, other⟩ := phase_of_challengesAt challenges
      rw [phase] at other
      cases other
  exact again.2.2.2 last (Nat.lt_trans checked.1 behind) earlier verifier server' challenges

/-- In every run, a connection is let in only for a role without a credential or
after a proof against the last challenge, under a verifier that an earlier startup
message loaded.  The proof is in the first password message behind the challenge,
and no challenge has two proofs checked against it. -/
theorem accepts_open_role_or_fresh_proof (library : Library) (deliveries : List Delivery) :
    (∀ index, AcceptsAt library deliveries index →
      OpensAt library deliveries index ∨
        ∃ load issue verifier server data reply, load < issue ∧
          LoadsAt library deliveries load verifier ∧
          ChecksAgainst library deliveries issue index verifier server data ∧
          server.onClientFinal library.primitives data = .ok reply) ∧
    (∀ check server data, ChecksAt library deliveries check server data →
      ∃ issue verifier, ChecksAgainst library deliveries issue check verifier server data ∧
        ∀ later, issue < later → later < check → ∀ msg environment,
          deliveries[later]? ≠ some ⟨.passwordMessageFamily msg, environment⟩) ∧
    (∀ issue first second verifier verifier' server server' data data',
      ChecksAgainst library deliveries issue first verifier server data →
      ChecksAgainst library deliveries issue second verifier' server' data' →
        first = second) := by
  refine ⟨?_, ?_, ?_⟩
  · intro index accepts
    obtain ⟨⟨message, environment⟩, here, made⟩ := exists_of_mem_actionsAt accepts
    rcases occasion made with ⟨startup, rfl, looksUp, found⟩ | ⟨server, msg, phase, rfl, proves⟩
    · exact .inl ⟨startup, environment, here, looksUp, found⟩
    · obtain ⟨data, reply, response, proved⟩ := proves
      have checks : ChecksAt library deliveries index server data := by
        rw [ChecksAt, actionsAt_of_getElem here]
        exact checks_of_response phase response
      obtain ⟨load, issue, verifier, before, loads, against, _⟩ := checksAgainst_of_checksAt checks
      exact .inr ⟨load, issue, verifier, server, data, reply, before, loads, against, proved⟩
  · intro check server data checks
    obtain ⟨_, issue, verifier, _, _, against, quiet⟩ := checksAgainst_of_checksAt checks
    exact ⟨issue, verifier, against, quiet⟩
  · intro issue first second _ _ _ _ _ _ checked again
    exact Nat.le_antisymm (Nat.not_lt.mp (check_unique again checked))
      (Nat.not_lt.mp (check_unique checked again))

end Gate

end PgTransport.Properties
