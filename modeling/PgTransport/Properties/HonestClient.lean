import PgTransport.Auth.ScramClient
import PgTransport.Properties.ClientFirstGrammar
import PgTransport.Properties.VerifierRoundTrip

/-!
# An honest client

A client that follows the RFC with the password of its role is let in and finds that
the server has proved itself, whatever the hash functions, the salt, the iteration
count and the nonces are.  With another password it is let in only if the stored key
is recovered from its proof all the same.
-/

namespace PgTransport.Properties

open PgTransport.Auth
open PgTransport.Encoding

/-- The role that a startup message asks for is stored with a verifier, and its lookup
gets an answer. -/
structure Enrolled (library : Library) (connection : Connection) (environment : Environment)
    (startup : StartupMessage) (verifier : ScramVerifier) : Prop where
  looksUp : LooksUp library connection environment startup
  answers : environment.catalog.Answers (startupUser library connection startup)
  stored : environment.catalog.pgAuthid (startupUser library connection startup) =
    some (some (verifier.text library.primitives.base64))

/-- The handler sends what it has to send, finishes, and draws this nonce. -/
structure Unhindered (environments : Environments) (serverNonce : Text) : Prop where
  startup : environments.startup.sends = true
  first : environments.first.sends = true
  final : environments.final.sends = true
  nonce : environments.first.nonce = some serverNonce
  commaFree : ',' ∉ serverNonce

/-! ## The messages of the client -/

section Messages

variable (client : ScramClient)

theorem splitCommas_firstBare :
    splitCommas client.firstBare = [attrVal 'n' client.user, attrVal 'r' client.nonce] := by
  have parts : client.firstBare =
      [','].intercalate [attrVal 'n' client.user, attrVal 'r' client.nonce] := by
    simp [ScramClient.firstBare, List.intercalate_cons_cons, List.intercalate_singleton]
  rw [parts]
  apply splitCommas_intercalate
  · intro part member
    simp only [List.mem_cons, List.not_mem_nil, or_false] at member
    rcases member with rfl | rfl
    · simpa [attrVal] using client.commaFree.1
    · simpa [attrVal] using client.commaFree.2
  · exact List.cons_ne_nil _ _

/-- The client-first message, as the parser reads it. -/
def honestFirst : FirstMessage where
  flag := 'n'
  authzid := []
  bare := client.firstBare
  clientNonce := client.nonce
  flagged := .inl rfl
  commaFree := List.not_mem_nil
  nonce := ⟨[attrVal 'n' client.user], [], splitCommas_firstBare client, by simp⟩
  filled := client.drawn

/-- The server that has answered the client's first message. -/
def challengedServer (primitives : Primitives) (verifier : ScramVerifier) (nonce : Text) :
    ScramServer :=
  ⟨verifier, nonce, client.firstBare, serverFirstMessage primitives verifier nonce,
    "n,,".toList⟩

theorem onClientFirst_firstMessage (primitives : Primitives) (verifier : ScramVerifier)
    (serverNonce : Text) :
    (ScramServer.new verifier).onClientFirst primitives (some serverNonce)
        (asBytes client.firstMessage) =
      .ok (serverFirstMessage primitives verifier (client.nonce ++ serverNonce),
        challengedServer client primitives verifier (client.nonce ++ serverNonce)) := by
  have parsed : ClientFirst.parse client.firstMessage = .ok (honestFirst client).fields :=
    parse_firstText (honestFirst client)
  simp only [ScramServer.onClientFirst, fromUtf8_asBytes, parsed, Bind.bind, Except.bind]
  rfl

/-- The client reads the challenge as the server has written it. -/
theorem parseServerFirst_serverFirstMessage (primitives : Primitives)
    (verifier : ScramVerifier) {nonce : Text} (free : ',' ∉ nonce) :
    ScramClient.parseServerFirst primitives.base64
        (serverFirstMessage primitives verifier nonce) =
      some (nonce, verifier.salt, verifier.iterations) := by
  have decimal : IsDecimal (toString verifier.iterations.toNat).toList verifier.iterations := by
    have digits : (toString verifier.iterations.toNat).toList =
        Nat.toDigits 10 verifier.iterations.toNat := String.toList_ofList
    rw [digits]
    exact isDecimal_toDigits verifier.iterations
  have commaFree := @not_mem_of_isDecimal _ _ decimal ',' (by decide) (by decide)
  have parts : serverFirstMessage primitives verifier nonce =
      [','].intercalate [attrVal 'r' nonce, attrVal 's' (primitives.base64.encode verifier.salt),
        attrVal 'i' (toString verifier.iterations.toNat).toList] := by
    simp [serverFirstMessage, List.intercalate_cons_cons, List.intercalate_singleton]
  have split : splitCommas (serverFirstMessage primitives verifier nonce) =
      [attrVal 'r' nonce, attrVal 's' (primitives.base64.encode verifier.salt),
        attrVal 'i' (toString verifier.iterations.toNat).toList] := by
    rw [parts]
    apply splitCommas_intercalate
    · intro part member
      simp only [List.mem_cons, List.not_mem_nil, or_false] at member
      rcases member with rfl | rfl | rfl
      · simpa [attrVal] using free
      · simpa [attrVal] using primitives.base64.comma_free verifier.salt
      · simpa [attrVal] using commaFree
    · exact List.cons_ne_nil _ _
  simp only [ScramClient.parseServerFirst, split, stripAttribute_attrVal,
    primitives.base64.decode_encode, parseU32_eq_some_iff.mpr decimal, Option.bind_eq_bind,
    Option.bind_some]

end Messages

/-! ## The proof of the client -/

section Proof

variable {primitives : Primitives} (codec : primitives.base64 = Base64.standard)

include codec in
theorem encode_ne_nil {bytes : Bytes} (filled : bytes ≠ []) :
    primitives.base64.encode bytes ≠ [] := by
  intro empty
  have decoded := primitives.base64.decode_encode bytes
  rw [empty, codec] at decoded
  cases decoded
  exact filled rfl

/-- The client-final message, as the parser reads it. -/
def honestFinal {binding proof : Bytes} {nonce : Text}
    (filled : binding ≠ [] ∧ nonce ≠ [] ∧ proof ≠ []) (free : ',' ∉ nonce) : FinalMessage where
  channelBinding := primitives.base64.encode binding
  combinedNonce := nonce
  extensions := []
  clientProof := primitives.base64.encode proof
  filled := ⟨encode_ne_nil codec filled.1, filled.2.1, encode_ne_nil codec filled.2.2⟩
  commaFree := ⟨primitives.base64.comma_free binding, free, primitives.base64.comma_free proof⟩
  isExtension := by simp

include codec in
/-- Behind a challenge, the message with a proof is answered as the proof verifies. -/
theorem onClientFinal_honest {server : ScramServer} {proof : Digest}
    (nonce : server.combinedNonce ≠ []) (free : ',' ∉ server.combinedNonce)
    (header : asBytes server.gs2Header ≠ []) :
    server.onClientFinal primitives (asBytes
        (attrVal 'c' (primitives.base64.encode (asBytes server.gs2Header)) ++
          ',' :: attrVal 'r' server.combinedNonce ++
          ',' :: attrVal 'p' (primitives.base64.encode proof.bytes))) =
      let signed := attrVal 'c' (primitives.base64.encode (asBytes server.gs2Header)) ++
        ',' :: attrVal 'r' server.combinedNonce
      if server.verifies primitives signed proof.bytes then
        .ok (server.finalMessage primitives signed)
      else
        .error .authFailed := by
  have some : proof.bytes ≠ [] := by
    intro empty
    have length := proof.length_bytes
    rw [empty] at length
    cases length
  have parsed := parse_text (honestFinal codec ⟨header, nonce, some⟩ free)
  have text : (honestFinal codec ⟨header, nonce, some⟩ free).text =
      attrVal 'c' (primitives.base64.encode (asBytes server.gs2Header)) ++
        ',' :: attrVal 'r' server.combinedNonce ++
        ',' :: attrVal 'p' (primitives.base64.encode proof.bytes) := by
    simp [honestFinal, FinalMessage.text, FinalMessage.signed, FinalMessage.signedParts,
      List.intercalate_cons_cons, List.intercalate_singleton]
  rw [text] at parsed
  simp only [ScramServer.onClientFinal, fromUtf8_asBytes, parsed, Bind.bind, Except.bind,
    FinalMessage.fields, honestFinal, ne_eq, not_true_eq_false, if_false,
    primitives.base64.decode_encode, proof.length_bytes, Bool.not_eq_true', ClientFinal.noProof]
  cases server.verifies primitives (attrVal 'c' (primitives.base64.encode
    (asBytes server.gs2Header)) ++ ',' :: attrVal 'r' server.combinedNonce) proof.bytes <;> rfl

end Proof

/-- The message that both sides sign. -/
def signedMessage (primitives : Primitives) (verifier : ScramVerifier) (client : ScramClient)
    (serverNonce : Text) : Bytes :=
  client.authMessage primitives.base64
    (serverFirstMessage primitives verifier (client.nonce ++ serverNonce))
    (client.nonce ++ serverNonce)

/-- The stored key is recovered from the proof that is made with a salted password. -/
def Recovers (primitives : Primitives) (verifier : ScramVerifier) (salted message : Bytes) :
    Prop :=
  (primitives.sha256 (List.zipWith (· ^^^ ·) (clientProof primitives salted message).bytes
    (primitives.hmacSha256 verifier.storedKey message).bytes)).bytes = verifier.storedKey

/-- The server answers as the client expects it. -/
def Proved (primitives : Primitives) (verifier : ScramVerifier) (salted message : Bytes) :
    Prop :=
  serverFinal primitives verifier.serverKey message =
    serverFinal primitives (serverKey primitives salted).bytes message

instance (primitives : Primitives) (verifier : ScramVerifier) (salted message : Bytes) :
    Decidable (Recovers primitives verifier salted message) :=
  inferInstanceAs (Decidable (_ = _))

instance (primitives : Primitives) (verifier : ScramVerifier) (salted message : Bytes) :
    Decidable (Proved primitives verifier salted message) :=
  inferInstanceAs (Decidable (_ = _))

/-- The proof of a client with the same salted password is good for its verifier. -/
theorem recovers_verifierFor (primitives : Primitives) (derivation : Derivation)
    (password : Text) (salt : Bytes) (iterations : UInt32) (message : Bytes) :
    Recovers primitives (verifierFor primitives derivation password salt iterations)
      (derivation password salt iterations) message := by
  rw [Recovers]
  simp only [verifierFor, clientProof]
  rw [Digest.xor_xor]
  rfl

section Steps

variable {library : Library} {connection : Connection} {environments : Environments}
  {startup : StartupMessage} {verifier : ScramVerifier} {serverNonce : Text}
  {client : ScramClient}

/-- A startup message for an enrolled role begins an exchange. -/
theorem handleStartup_enrolled {base64 : StrictCodec}
    (codec : library.primitives.base64 = base64.toCodec) (valid : verifier.Valid)
    (enrolled : Enrolled library connection environments.startup startup verifier)
    (sends : environments.startup.sends = true) :
    handleStartup library connection environments.startup startup =
      ⟨⟨savedMetadata library connection startup, .authenticationInProgress,
          .awaitingClientFirst (.new verifier)⟩, [.sasl [scramSha256]], .ok⟩ := by
  have found : startupLookup library connection environments.startup startup =
      some (.scram verifier) := by
    rcases lookup_cases library.primitives.base64 environments.startup.catalog
        ⟨startupUser library connection startup, startupDatabase library connection startup⟩ with
      ⟨_, found⟩ | ⟨silent, _⟩
    · rw [startupLookup, found, enrolled.stored, codec]
      exact congrArg some (parseVerifier_eq_scram_iff.mpr
        ⟨valid, _, isDecimal_toDigits verifier.iterations, rfl⟩)
    · exact absurd enrolled.answers silent
  simp [handleStartup, enrolled.looksUp.1, enrolled.looksUp.2, found, sends, Returned.ofBool]

/-- The client answers the challenge with its proof and expects a signature. -/
theorem respond_serverFirstMessage (primitives : Primitives) (derivation : Derivation)
    (free : ',' ∉ client.nonce ++ serverNonce) :
    client.respond primitives derivation
        (serverFirstMessage primitives verifier (client.nonce ++ serverNonce)) =
      let salted := derivation client.password verifier.salt verifier.iterations
      let message := signedMessage primitives verifier client serverNonce
      some (ScramClient.finalMessage primitives.base64 (client.nonce ++ serverNonce)
          (clientProof primitives salted message),
        serverFinal primitives (serverKey primitives salted).bytes message) := by
  have starts : client.nonce.isPrefixOf (client.nonce ++ serverNonce) = true :=
    List.isPrefixOf_iff_prefix.mpr (List.prefix_append _ _)
  simp only [ScramClient.respond, parseServerFirst_serverFirstMessage primitives verifier free,
    Option.bind_eq_bind, Option.bind_some, starts, if_true]
  rfl

/-- The first message of the client is answered with a challenge. -/
theorem onStartup_firstMessage (metadata : Metadata) (state : ConnectionState)
    (unhindered : Unhindered environments serverNonce) :
    onStartup library ⟨metadata, state, .awaitingClientFirst (.new verifier)⟩
        ⟨.passwordMessageFamily ⟨some ⟨scramSha256, some (asBytes client.firstMessage)⟩, none⟩,
          environments.first⟩ =
      ⟨⟨metadata, state, .awaitingClientFinal
          (challengedServer client library.primitives verifier (client.nonce ++ serverNonce))⟩,
        [.onClientFirst (.new verifier) (asBytes client.firstMessage),
          .saslContinue (serverFirstMessage library.primitives verifier
            (client.nonce ++ serverNonce))], .ok⟩ := by
  simp [onStartup, handleClientFirst, onClientFirst_firstMessage, unhindered.nonce,
    unhindered.first, Returned.ofBool]

/-- The server accepts the proof exactly if it recovers the stored key from it. -/
theorem onClientFinal_finalMessage {primitives : Primitives} (salted : Bytes)
    (codec : primitives.base64 = Base64.standard) (free : ',' ∉ serverNonce) :
    (challengedServer client primitives verifier (client.nonce ++ serverNonce)).onClientFinal
        primitives (asBytes (ScramClient.finalMessage primitives.base64
          (client.nonce ++ serverNonce) (clientProof primitives salted
            (signedMessage primitives verifier client serverNonce)))) =
      let message := signedMessage primitives verifier client serverNonce
      if Recovers primitives verifier salted message then
        .ok (serverFinal primitives verifier.serverKey message)
      else
        .error .authFailed := by
  let message := signedMessage primitives verifier client serverNonce
  have answer := @onClientFinal_honest primitives codec
    (challengedServer client primitives verifier (client.nonce ++ serverNonce))
    (clientProof primitives salted message)
    (by simp [challengedServer, client.drawn])
    (by simp [challengedServer, client.commaFree.2, free])
    (show asBytes "n,,".toList ≠ [] by decide)
  have checked : (challengedServer client primitives verifier
      (client.nonce ++ serverNonce)).verifies primitives (ScramClient.finalWithoutProof
        primitives.base64 (client.nonce ++ serverNonce))
          (clientProof primitives salted message).bytes = true ↔
      Recovers primitives verifier salted message := by
    rw [ScramServer.verifies, constantTimeEq_iff]
    rfl
  apply answer.trans
  apply if_congr checked rfl rfl

/-- The final message of the client lets it in exactly if the stored key is recovered. -/
theorem onStartup_finalMessage (metadata : Metadata) (state : ConnectionState) (salted : Bytes)
    (codec : library.primitives.base64 = Base64.standard)
    (unhindered : Unhindered environments serverNonce) :
    let server := challengedServer client library.primitives verifier (client.nonce ++ serverNonce)
    let message := signedMessage library.primitives verifier client serverNonce
    let data := asBytes (ScramClient.finalMessage library.primitives.base64
        (client.nonce ++ serverNonce) (clientProof library.primitives salted message))
    (onStartup library ⟨metadata, state, .awaitingClientFinal server⟩
        ⟨.passwordMessageFamily ⟨none, some data⟩, environments.final⟩).actions =
      if Recovers library.primitives verifier salted message then
        [.onClientFinal server data,
          .saslFinal (serverFinal library.primitives verifier.serverKey message), .accept]
      else
        [.onClientFinal server data,
          .reject ⟨"28P01", "pg_transport: SCRAM authentication failed".toList⟩] := by
  intro server message data
  have answer : server.onClientFinal library.primitives data = _ :=
    onClientFinal_finalMessage salted codec unhindered.commaFree
  by_cases recovers : Recovers library.primitives verifier salted message
  · rw [if_pos recovers] at answer
    simp [onStartup, handleClientFinal, answer, unhindered.final, accept, recovers, message]
  · rw [if_neg recovers] at answer
    simp [onStartup, handleClientFinal, answer, rejectScram, reject, recovers, message]

/-- How the exchange ends. -/
theorem exchange_honest (derivation : Derivation)
    (codec : library.primitives.base64 = Base64.standard) (valid : verifier.Valid)
    (enrolled : Enrolled library connection environments.startup startup verifier)
    (unhindered : Unhindered environments serverNonce) :
    exchange library derivation connection environments startup client =
      let salted := derivation client.password verifier.salt verifier.iterations
      let message := signedMessage library.primitives verifier client serverNonce
      if Recovers library.primitives verifier salted message then
        .letIn (decide (Proved library.primitives verifier salted message))
      else
        .turnedAway := by
  have free : ',' ∉ client.nonce ++ serverNonce := by
    simp [client.commaFree.2, unhindered.commaFree]
  have started : onStartup library connection ⟨.startup startup, environments.startup⟩ = _ :=
    @handleStartup_enrolled _ _ _ _ _ Base64.strict codec valid enrolled unhindered.startup
  have finished := @onStartup_finalMessage library environments verifier serverNonce client
    (savedMetadata library connection startup) .authenticationInProgress
    (derivation client.password verifier.salt verifier.iterations) codec unhindered
  simp only [exchange, started, List.contains_cons, beq_self_eq_true, Bool.true_or, if_true,
    onStartup_firstMessage _ _ unhindered,
    respond_serverFirstMessage library.primitives derivation free, finished]
  by_cases recovers : Recovers library.primitives verifier
      (derivation client.password verifier.salt verifier.iterations)
      (signedMessage library.primitives verifier client serverNonce)
  · simp only [if_pos recovers]
    rfl
  · simp only [if_neg recovers]

end Steps

/-- An honest client of an enrolled role is let in exactly if the stored key is recovered
from its proof, and by a server that has proved itself exactly if that holds the client's
server key; with the password of the role both are so. -/
theorem honest_client_let_in (library : Library) (derivation : Derivation)
    (connection : Connection) (environments : Environments) (startup : StartupMessage)
    (client : ScramClient) (verifier : ScramVerifier) (serverNonce : Text)
    (codec : library.primitives.base64 = Base64.standard) (valid : verifier.Valid)
    (enrolled : Enrolled library connection environments.startup startup verifier)
    (unhindered : Unhindered environments serverNonce) :
    (∀ proved, exchange library derivation connection environments startup client =
        .letIn proved ↔
      Recovers library.primitives verifier
        (derivation client.password verifier.salt verifier.iterations)
        (signedMessage library.primitives verifier client serverNonce) ∧
      (proved = true ↔ Proved library.primitives verifier
        (derivation client.password verifier.salt verifier.iterations)
        (signedMessage library.primitives verifier client serverNonce))) ∧
    (verifier = verifierFor library.primitives derivation client.password verifier.salt
        verifier.iterations →
      exchange library derivation connection environments startup client = .letIn true) := by
  have outcome := @exchange_honest library connection environments startup verifier serverNonce
    client derivation codec valid enrolled unhindered
  constructor
  · intro proved
    rw [outcome]
    by_cases recovers : Recovers library.primitives verifier
        (derivation client.password verifier.salt verifier.iterations)
        (signedMessage library.primitives verifier client serverNonce)
    · cases proved <;> simp [recovers]
    · simp [recovers]
  · intro same
    rw [outcome]
    have recovers := recovers_verifierFor library.primitives derivation client.password
      verifier.salt verifier.iterations
      (signedMessage library.primitives verifier client serverNonce)
    rw [← same] at recovers
    have proves : Proved library.primitives verifier
        (derivation client.password verifier.salt verifier.iterations)
        (signedMessage library.primitives verifier client serverNonce) := by
      have key : verifier.serverKey = (serverKey library.primitives
          (derivation client.password verifier.salt verifier.iterations)).bytes :=
        congrArg ScramVerifier.serverKey same
      rw [Proved, key]
    simp [recovers, proves]

/-- A client that draws the nonce `abc`. -/
def alice : ScramClient :=
  ⟨"alice".toList, "pencil".toList, "abc".toList, by decide, by decide⟩

/-- A verifier of keys without entropy. -/
def zeroVerifier : ScramVerifier :=
  verifierFor plainLibrary.primitives (fun _ salt _ => salt) "pencil".toList [1, 2, 3] 4096

theorem alice_let_in :
    ∃ environments : Environments, exchange plainLibrary (fun _ salt _ => salt) .fresh environments
      ⟨[("user", "alice".toList), ("database", "postgres".toList)]⟩ alice = .letIn true := by
  let catalog : Catalog :=
    ⟨fun _ => some (some (zeroVerifier.text Base64.standard)), none, true, true⟩
  let environment : Environment := ⟨true, catalog, some "xyz".toList, true, true⟩
  refine ⟨⟨environment, environment, environment⟩, ?_⟩
  have enrolled : Enrolled plainLibrary .fresh environment
      ⟨[("user", "alice".toList), ("database", "postgres".toList)]⟩ zeroVerifier :=
    ⟨⟨rfl, by decide⟩, ⟨rfl, rfl, trivial⟩, rfl⟩
  exact (honest_client_let_in plainLibrary (fun _ salt _ => salt) .fresh
    ⟨environment, environment, environment⟩ _ alice zeroVerifier "xyz".toList rfl
    ⟨by decide, by decide, by decide⟩ enrolled ⟨rfl, rfl, rfl, rfl, by decide⟩).2 rfl

end PgTransport.Properties
