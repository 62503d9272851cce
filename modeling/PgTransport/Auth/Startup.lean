import PgTransport.Auth.Verifier

/-!
# The startup handler

One connection's handler is a function from its state and the next message to
its next state, the calls it makes and what it returns.  What the library and
the system do while a message is handled (the protocol negotiation, the
catalog, the source of nonces, the sends) is an input of that step.
-/

namespace PgTransport.Auth

/-- The metadata that the handler reads. -/
structure Metadata where
  user : Option Text
  database : Option Text
  deriving DecidableEq

/-- `PgWireConnectionState`, as far as the handler sets it. -/
inductive ConnectionState where
  | awaitingStartup
  | authenticationInProgress
  deriving DecidableEq, Repr

/-- `SaslPhase`. -/
inductive SaslPhase where
  | idle
  | awaitingClientFirst (server : ScramServer)
  | awaitingClientFinal (server : ScramServer)
  | done
  deriving DecidableEq

/-- A connection between two messages. -/
structure Connection where
  metadata : Metadata
  state : ConnectionState
  sasl : SaslPhase
  deriving DecidableEq

/-- A new connection. -/
def Connection.fresh : Connection :=
  ⟨⟨none, none⟩, .awaitingStartup, .idle⟩

/-- `Startup`. -/
structure StartupMessage where
  parameters : List (String × Text)
  deriving DecidableEq

/-- `SASLInitialResponse`. -/
structure SaslInitialResponse where
  authMethod : Text
  data : Option Bytes
  deriving DecidableEq

/-- `PasswordMessageFamily`, by the two readings of its body that the handler
asks for. -/
structure PasswordMessage where
  intoSaslInitialResponse : Option SaslInitialResponse
  intoSaslResponse : Option Bytes
  deriving DecidableEq

/-- `PgWireFrontendMessage`. -/
inductive FrontendMessage where
  | startup (startup : StartupMessage)
  | passwordMessageFamily (msg : PasswordMessage)
  | other
  deriving DecidableEq

/-- What happens around the handler while it handles one message. -/
structure Environment where
  negotiates : Bool
  catalog : Catalog
  nonce : Option Text
  sends : Bool
  finishes : Bool

/-- A message with what happens while it is handled. -/
structure Delivery where
  message : FrontendMessage
  environment : Environment

/-- `AuthOutcome::Reject`. -/
structure Rejection where
  sqlstate : String
  message : Text
  deriving DecidableEq

/-- A call of the handler. -/
inductive Action where
  | sasl (mechanisms : List Text)
  | onClientFirst (server : ScramServer) (data : Bytes)
  | saslContinue (serverFirst : Text)
  | onClientFinal (server : ScramServer) (data : Bytes)
  | saslFinal (serverFinal : Text)
  | reject (outcome : Rejection)
  | accept
  deriving DecidableEq

/-- What `on_startup` returns, or that it does not. -/
inductive Returned where
  | ok
  | err
  | unwinds
  deriving DecidableEq, Repr

/-- The result of handling a message. -/
structure Handled where
  connection : Connection
  actions : List Action
  returned : Returned
  deriving DecidableEq

/-- The handler's parameters: the primitives of the exchange, how the library
saves the parameters of a startup message, and how a text is formatted with
`{:?}`. -/
structure Library where
  primitives : Primitives
  saveStartupParametersToMetadata : Metadata → StartupMessage → Metadata
  debug : Text → Text

/-- `?` at the end of a handler. -/
def Returned.ofBool (succeeded : Bool) : Returned :=
  if succeeded then .ok else .err

/-! ## Answers -/

/-- `AuthOutcome::unimplemented(AuthMethod::Md5)`. -/
def unimplementedMd5 : Rejection :=
  ⟨"0A000", "pg_transport: auth method \"md5\" selected by pg_hba.conf is ".toList ++
    "not implemented in this build".toList⟩

/-- `AuthOutcome::wrong_database`. -/
def wrongDatabase (library : Library) (claimed : Text) : Rejection :=
  ⟨"3D000", "pg_transport: database ".toList ++ library.debug claimed ++
    " not configured for pg_transport (v0 supports only \"postgres\"; ".toList ++
    "per-database routing arrives in a later phase)".toList⟩

/-- `accept`. -/
def accept (connection : Connection) (environment : Environment) : Handled :=
  ⟨connection, [.accept], .ofBool environment.finishes⟩

/-- `reject`. -/
def reject (connection : Connection) (environment : Environment) (outcome : Rejection) :
    Handled :=
  ⟨connection, [.reject outcome], .ofBool environment.sends⟩

/-- `reject_scram`. -/
def rejectScram (connection : Connection) (environment : Environment) (err : ScramError) :
    Handled :=
  match err with
  | .authFailed | .malformed _ =>
      reject connection environment
        ⟨"28P01", "pg_transport: SCRAM authentication failed".toList⟩
  | .nonceGenerationFailed =>
      reject connection environment
        ⟨"XX000",
          "pg_transport: SCRAM nonce generation failed (entropy source error)".toList⟩

/-- The database that the slots are connected to. -/
def postgres : Text :=
  "postgres".toList

/-- `SCRAM_SHA_256`. -/
def scramSha256 : Text :=
  "SCRAM-SHA-256".toList

/-! ## Handlers -/

/-- The metadata after a startup message. -/
def savedMetadata (library : Library) (connection : Connection) (startup : StartupMessage) :
    Metadata :=
  library.saveStartupParametersToMetadata connection.metadata startup

/-- The role that a startup message asks for. -/
def startupUser (library : Library) (connection : Connection) (startup : StartupMessage) :
    Text :=
  (savedMetadata library connection startup).user.getD []

/-- The database that a startup message asks for, by default the one named like
the role. -/
def startupDatabase (library : Library) (connection : Connection) (startup : StartupMessage) :
    Text :=
  (savedMetadata library connection startup).database.getD
    (startupUser library connection startup)

/-- The credential lookup of a startup message. -/
def startupLookup (library : Library) (connection : Connection) (environment : Environment)
    (startup : StartupMessage) : Option RolPassword :=
  lookup library.primitives.base64 environment.catalog
    ⟨startupUser library connection startup, startupDatabase library connection startup⟩

/-- `handle_startup`. -/
def handleStartup (library : Library) (connection : Connection) (environment : Environment)
    (startup : StartupMessage) : Handled :=
  if !environment.negotiates then
    ⟨connection, [], .err⟩
  else
    let saved := { connection with metadata := savedMetadata library connection startup }
    if startupDatabase library connection startup ≠ postgres then
      reject saved environment
        (wrongDatabase library (startupDatabase library connection startup))
    else
      match startupLookup library connection environment startup with
      | none => ⟨saved, [], .unwinds⟩
      | some .none | some .unknownRole => accept saved environment
      | some (.scram verifier) =>
          ⟨{ saved with
              sasl := .awaitingClientFirst (.new verifier)
              state := .authenticationInProgress },
            [.sasl [scramSha256]], .ofBool environment.sends⟩
      | some (.md5 _) => reject saved environment unimplementedMd5
      | some .unsupported =>
          reject saved environment
            ⟨"28000", "pg_transport: role has no supported credential format".toList⟩

/-- `handle_client_first`. -/
def handleClientFirst (library : Library) (connection : Connection)
    (environment : Environment) (msg : PasswordMessage) (server : ScramServer) : Handled :=
  match msg.intoSaslInitialResponse with
  | none => ⟨connection, [], .err⟩
  | some saslInitial =>
      if saslInitial.authMethod ≠ scramSha256 then
        reject connection environment
          ⟨"28P01", "pg_transport: unsupported SASL mechanism ".toList ++
            library.debug saslInitial.authMethod⟩
      else
        let data := saslInitial.data.getD []
        match server.onClientFirst library.primitives environment.nonce data with
        | .ok (serverFirst, server') =>
            ⟨if environment.sends then
                { connection with sasl := .awaitingClientFinal server' }
              else
                connection,
              [.onClientFirst server data, .saslContinue serverFirst],
              .ofBool environment.sends⟩
        | .error err =>
            let rejected := rejectScram connection environment err
            { rejected with actions := .onClientFirst server data :: rejected.actions }

/-- `handle_client_final`. -/
def handleClientFinal (library : Library) (connection : Connection)
    (environment : Environment) (msg : PasswordMessage) (server : ScramServer) : Handled :=
  match msg.intoSaslResponse with
  | none => ⟨connection, [], .err⟩
  | some data =>
      match server.onClientFinal library.primitives data with
      | .ok serverFinal =>
          if environment.sends then
            let accepted := accept connection environment
            { accepted with
              actions := .onClientFinal server data :: .saslFinal serverFinal ::
                accepted.actions }
          else
            ⟨connection, [.onClientFinal server data, .saslFinal serverFinal], .err⟩
      | .error err =>
          let rejected := rejectScram connection environment err
          { rejected with actions := .onClientFinal server data :: rejected.actions }

/-- `on_startup`. -/
def onStartup (library : Library) (connection : Connection) (delivery : Delivery) : Handled :=
  match delivery.message with
  | .startup startup => handleStartup library connection delivery.environment startup
  | .passwordMessageFamily msg =>
      -- the phase is taken out before it is handled
      let taken := { connection with sasl := .done }
      match connection.sasl with
      | .awaitingClientFirst server =>
          handleClientFirst library taken delivery.environment msg server
      | .awaitingClientFinal server =>
          handleClientFinal library taken delivery.environment msg server
      | .idle | .done =>
          reject taken delivery.environment
            ⟨"08P01", "pg_transport: unexpected password message".toList⟩
  | .other => ⟨connection, [], .ok⟩

/-- The connection after a list of messages. -/
def deliver (library : Library) (connection : Connection) (deliveries : List Delivery) :
    Connection :=
  deliveries.foldl (fun connection delivery => (onStartup library connection delivery).connection)
    connection

/-- The connection that is let in by a list of messages, if one is. -/
def admitted (library : Library) (connection : Connection) :
    List Delivery → Option Connection
  | [] => none
  | delivery :: deliveries =>
      let handled := onStartup library connection delivery
      if .accept ∈ handled.actions then
        some handled.connection
      else if handled.returned = .unwinds then
        none
      else
        admitted library handled.connection deliveries

/-- A library without cryptography, which saves parameters as a map is extended. -/
def plainLibrary : Library :=
  ⟨⟨Encoding.Base64.standard, fun _ _ => ⟨List.replicate 32 0, rfl⟩,
    fun _ => ⟨List.replicate 32 0, rfl⟩⟩,
    fun metadata startup =>
      ⟨startup.parameters.lookup "user" <|> metadata.user,
        startup.parameters.lookup "database" <|> metadata.database⟩, id⟩

/-- A startup message, where no role has a password and nothing fails. -/
def startupFor (user database : String) : Delivery :=
  ⟨.startup ⟨[("user", user.toList), ("database", database.toList)]⟩,
    ⟨true, ⟨fun _ => some none, none, true, true⟩, none, true, true⟩⟩

/-! ## What a message can do -/

section Steps

variable {library : Library} {connection : Connection} {environment : Environment}

/-- A startup message that gets as far as its credential lookup. -/
def LooksUp (library : Library) (connection : Connection) (environment : Environment)
    (startup : StartupMessage) : Prop :=
  environment.negotiates = true ∧
    startupDatabase library connection startup = postgres

/-- The lookup finds no credential to ask for. -/
def FindsOpen (found : Option RolPassword) : Prop :=
  found = some .none ∨ found = some .unknownRole

/-- A startup message that is turned away. -/
def Refuses (library : Library) (connection : Connection) (environment : Environment)
    (startup : StartupMessage) : Prop :=
  environment.negotiates = true ∧
    (startupDatabase library connection startup ≠ postgres ∨
      startupLookup library connection environment startup = some .unsupported ∨
      ∃ hex, startupLookup library connection environment startup = some (.md5 hex))

/-- A startup message lets the connection in, begins an exchange, is turned away
or gets no answer. -/
theorem handleStartup_cases (library : Library) (connection : Connection)
    (environment : Environment) (startup : StartupMessage) :
    (LooksUp library connection environment startup ∧
      FindsOpen (startupLookup library connection environment startup) ∧
      (handleStartup library connection environment startup).actions = [.accept] ∧
      (handleStartup library connection environment startup).connection.sasl =
        connection.sasl) ∨
    (∃ verifier, LooksUp library connection environment startup ∧
      startupLookup library connection environment startup = some (.scram verifier) ∧
      (handleStartup library connection environment startup).actions = [.sasl [scramSha256]] ∧
      (handleStartup library connection environment startup).connection.sasl =
        .awaitingClientFirst (.new verifier)) ∨
    (∃ outcome, Refuses library connection environment startup ∧
      (handleStartup library connection environment startup).actions = [.reject outcome] ∧
      (handleStartup library connection environment startup).connection.sasl =
        connection.sasl) ∨
    ((handleStartup library connection environment startup).actions = [] ∧
      (handleStartup library connection environment startup).connection.sasl =
        connection.sasl) := by
  by_cases negotiates : environment.negotiates = true
  · by_cases database : startupDatabase library connection startup = postgres
    · cases found : startupLookup library connection environment startup with
      | none => simp [handleStartup, negotiates, database, found]
      | some password =>
          cases password <;> simp [handleStartup, LooksUp, FindsOpen, Refuses, negotiates,
            database, found, accept, reject]
    · simp [handleStartup, Refuses, negotiates, database, reject]
  · simp [handleStartup, negotiates]

/-- A client-first message that the server answers with a challenge. -/
def Challenges (library : Library) (environment : Environment) (msg : PasswordMessage)
    (server : ScramServer) (serverFirst : Text) (challenged : ScramServer) : Prop :=
  ∃ saslInitial, msg.intoSaslInitialResponse = some saslInitial ∧
    saslInitial.authMethod = scramSha256 ∧
    server.onClientFirst library.primitives environment.nonce (saslInitial.data.getD []) =
      .ok (serverFirst, challenged)

/-- A client-final message that the server finds to prove the password. -/
def Proves (library : Library) (msg : PasswordMessage) (server : ScramServer) : Prop :=
  ∃ data reply, msg.intoSaslResponse = some data ∧
    server.onClientFinal library.primitives data = .ok reply

@[simp]
theorem rejectScram_connection (err : ScramError) :
    (rejectScram connection environment err).connection = connection := by
  cases err <;> rfl

theorem rejectScram_actions (connection : Connection) (environment : Environment)
    (err : ScramError) :
    ∃ outcome, (rejectScram connection environment err).actions = [.reject outcome] := by
  cases err <;> exact ⟨_, rfl⟩

/-- A client-first message is either answered with a challenge, or it ends the
exchange without one. -/
theorem handleClientFirst_cases (library : Library) (connection : Connection)
    (environment : Environment) (msg : PasswordMessage) (server : ScramServer) :
    (∃ data serverFirst challenged, Challenges library environment msg server serverFirst
        challenged ∧
      (handleClientFirst library connection environment msg server).actions =
        [.onClientFirst server data, .saslContinue serverFirst] ∧
      (handleClientFirst library connection environment msg server).connection.sasl =
        if environment.sends then .awaitingClientFinal challenged else connection.sasl) ∨
    ((∀ serverFirst challenged,
        ¬Challenges library environment msg server serverFirst challenged) ∧
      (∀ action ∈ (handleClientFirst library connection environment msg server).actions,
        (∃ data, action = .onClientFirst server data) ∨ ∃ outcome, action = .reject outcome) ∧
      (handleClientFirst library connection environment msg server).connection = connection) := by
  cases initial : msg.intoSaslInitialResponse with
  | none => right; simp [handleClientFirst, Challenges, initial]
  | some saslInitial =>
      by_cases method : saslInitial.authMethod = scramSha256
      · cases result : server.onClientFirst library.primitives environment.nonce
            (saslInitial.data.getD []) with
        | error err =>
            right
            obtain ⟨outcome, actions⟩ := rejectScram_actions connection environment err
            simp [handleClientFirst, Challenges, initial, method, result, actions]
        | ok answer =>
            left
            refine ⟨saslInitial.data.getD [], answer.1, answer.2,
              ⟨saslInitial, initial, method, result⟩, ?_⟩
            cases sends : environment.sends <;>
              simp [handleClientFirst, initial, method, result, sends]
      · right
        simp [handleClientFirst, Challenges, initial, method, reject]

/-- A client-final message is checked once, and ends the exchange. -/
theorem handleClientFinal_cases (library : Library) (connection : Connection)
    (environment : Environment) (msg : PasswordMessage) (server : ScramServer) :
    (handleClientFinal library connection environment msg server).connection = connection ∧
    ((msg.intoSaslResponse = none ∧
        (handleClientFinal library connection environment msg server).actions = []) ∨
      ∃ data rest, msg.intoSaslResponse = some data ∧
        (handleClientFinal library connection environment msg server).actions =
          .onClientFinal server data :: rest ∧
        ((¬Proves library msg server ∧ ∃ outcome, rest = [.reject outcome]) ∨
          (Proves library msg server ∧ ∃ serverFinal, rest = .saslFinal serverFinal ::
            if environment.sends then [.accept] else []))) := by
  cases response : msg.intoSaslResponse with
  | none => simp [handleClientFinal, response]
  | some data =>
      cases result : server.onClientFinal library.primitives data with
      | error err =>
          obtain ⟨outcome, actions⟩ := rejectScram_actions connection environment err
          simp [handleClientFinal, Proves, response, result, actions]
      | ok serverFinal =>
          cases sends : environment.sends <;>
            simp [handleClientFinal, Proves, response, result, sends, accept]

/-- The occasion of a call: what the message and the phase are when it is made. -/
def Occasion (library : Library) (connection : Connection) (delivery : Delivery) :
    Action → Prop
  | .accept =>
      (∃ startup, delivery.message = .startup startup ∧
        LooksUp library connection delivery.environment startup ∧
        FindsOpen (startupLookup library connection delivery.environment startup)) ∨
      ∃ server msg, connection.sasl = .awaitingClientFinal server ∧
        delivery.message = .passwordMessageFamily msg ∧ Proves library msg server
  | .onClientFinal server data =>
      connection.sasl = .awaitingClientFinal server ∧
        ∃ msg, delivery.message = .passwordMessageFamily msg ∧ msg.intoSaslResponse = some data
  | .saslContinue serverFirst =>
      ∃ server msg challenged, connection.sasl = .awaitingClientFirst server ∧
        delivery.message = .passwordMessageFamily msg ∧
        Challenges library delivery.environment msg server serverFirst challenged
  | .reject _ =>
      (∃ startup, delivery.message = .startup startup ∧
        Refuses library connection delivery.environment startup) ∨
      ∃ msg, delivery.message = .passwordMessageFamily msg
  | .sasl _ | .onClientFirst _ _ | .saslFinal _ => True

/-- Every call has its occasion. -/
theorem occasion {delivery : Delivery} {action : Action}
    (made : action ∈ (onStartup library connection delivery).actions) :
    Occasion library connection delivery action := by
  obtain ⟨message, environment⟩ := delivery
  cases message with
  | other => simp [onStartup] at made
  | startup startup =>
      rw [onStartup] at made
      rcases handleStartup_cases library connection environment startup with
        ⟨looksUp, found, actions, _⟩ | ⟨verifier, looksUp, found, actions, _⟩ |
          ⟨outcome, refuses, actions, _⟩ | ⟨actions, _⟩
      · rw [actions, List.mem_singleton] at made
        subst made
        exact .inl ⟨startup, rfl, looksUp, found⟩
      · rw [actions, List.mem_singleton] at made
        subst made
        trivial
      · rw [actions, List.mem_singleton] at made
        subst made
        exact .inl ⟨startup, rfl, refuses⟩
      · simp [actions] at made
  | passwordMessageFamily msg =>
      cases phase : connection.sasl with
      | idle =>
          simp only [onStartup, phase, reject, List.mem_singleton] at made
          subst made
          exact .inr ⟨msg, rfl⟩
      | done =>
          simp only [onStartup, phase, reject, List.mem_singleton] at made
          subst made
          exact .inr ⟨msg, rfl⟩
      | awaitingClientFirst server =>
          simp only [onStartup, phase] at made
          rcases handleClientFirst_cases library { connection with sasl := .done } environment msg
            server with ⟨data, serverFirst, challenged, challenges, actions, _⟩ |
              ⟨_, others, _⟩
          · rw [actions] at made
            simp only [List.mem_cons, List.not_mem_nil, or_false] at made
            rcases made with rfl | rfl
            · trivial
            · exact ⟨server, msg, challenged, phase, rfl, challenges⟩
          · rcases others action made with ⟨data, rfl⟩ | ⟨outcome, rfl⟩
            · trivial
            · exact .inr ⟨msg, rfl⟩
      | awaitingClientFinal server =>
          simp only [onStartup, phase] at made
          obtain ⟨_, ⟨_, actions⟩ | ⟨data, rest, response, actions, answered⟩⟩ :=
            handleClientFinal_cases library { connection with sasl := .done } environment msg
              server
          · simp [actions] at made
          rw [actions, List.mem_cons] at made
          rcases made with rfl | made
          · exact ⟨phase, msg, rfl, response⟩
          rcases answered with ⟨_, outcome, rfl⟩ | ⟨proves, serverFinal, rfl⟩
          · rw [List.mem_singleton] at made
            subst made
            exact .inr ⟨msg, rfl⟩
          · rcases List.mem_cons.mp made with rfl | accepted
            · trivial
            · cases sends : environment.sends with
              | false => simp [sends] at accepted
              | true =>
                  simp only [sends, if_true, List.mem_singleton] at accepted
                  subst accepted
                  exact .inr ⟨server, msg, phase, rfl, proves⟩

/-- A readable message in the phase that waits for a proof is checked. -/
theorem checks_of_response {msg : PasswordMessage} {server : ScramServer} {data : Bytes}
    (phase : connection.sasl = .awaitingClientFinal server)
    (response : msg.intoSaslResponse = some data) :
    .onClientFinal server data ∈
      (onStartup library connection ⟨.passwordMessageFamily msg, environment⟩).actions := by
  simp only [onStartup, phase]
  obtain ⟨_, ⟨none, _⟩ | ⟨other, rest, some, actions, _⟩⟩ :=
    handleClientFinal_cases library { connection with sasl := .done } environment msg server
  · rw [response] at none
    cases none
  · cases response.symm.trans some
    rw [actions]
    exact List.mem_cons_self

end Steps

end PgTransport.Auth
