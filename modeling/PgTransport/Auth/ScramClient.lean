import PgTransport.Auth.Startup
import PgTransport.Auth.VerifierFormat

/-!
# The client side of SCRAM

What an honest client does by the RFC: it derives its keys from a password and what
the server tells it, proves that it knows them and expects a signature that only the
holder of the server key can make.  How often the password is hashed is up to the
derivation, which is a parameter.
-/

namespace PgTransport.Auth

open PgTransport.Encoding

/-- `Hi`: the salted password of a password, a salt and an iteration count. -/
abbrev Derivation : Type :=
  Text → Bytes → UInt32 → Bytes

/-- The exclusive or of two digests. -/
def Digest.xor (first second : Digest) : Digest where
  bytes := List.zipWith (· ^^^ ·) first.bytes second.bytes
  length_bytes := by simp [first.length_bytes, second.length_bytes]

/-- A mask is taken off by applying it again. -/
theorem Digest.xor_xor (digest mask : Digest) :
    List.zipWith (· ^^^ ·) (digest.xor mask).bytes mask.bytes = digest.bytes := by
  have lengths := digest.length_bytes.trans mask.length_bytes.symm
  apply List.ext_getElem
  · simp [Digest.xor, lengths]
  · intro index _ _
    simp only [Digest.xor, List.getElem_zipWith, UInt8.xor_assoc, UInt8.xor_self, UInt8.xor_zero]

section Keys

variable (primitives : Primitives) (salted : Bytes)

/-- `ClientKey`. -/
def clientKey : Digest :=
  primitives.hmacSha256 salted (asBytes "Client Key".toList)

/-- `StoredKey`. -/
def storedKey : Digest :=
  primitives.sha256 (clientKey primitives salted).bytes

/-- `ServerKey`. -/
def serverKey : Digest :=
  primitives.hmacSha256 salted (asBytes "Server Key".toList)

/-- `ClientProof`: the client key under the mask of its signature. -/
def clientProof (message : Bytes) : Digest :=
  (clientKey primitives salted).xor
    (primitives.hmacSha256 (storedKey primitives salted).bytes message)

/-- The `server-final-message` that answers it. -/
def serverFinal (key message : Bytes) : Text :=
  attrVal 'v' (primitives.base64.encode (primitives.hmacSha256 key message).bytes)

end Keys

/-- The verifier that is stored for a password. -/
def verifierFor (primitives : Primitives) (derivation : Derivation) (password : Text)
    (salt : Bytes) (iterations : UInt32) : ScramVerifier where
  iterations := iterations
  salt := salt
  storedKey := (storedKey primitives (derivation password salt iterations)).bytes
  serverKey := (serverKey primitives (derivation password salt iterations)).bytes

/-- A client with its password and the nonce that it has drawn. -/
structure ScramClient where
  user : Text
  password : Text
  nonce : Text
  drawn : nonce ≠ []
  commaFree : ',' ∉ user ∧ ',' ∉ nonce

namespace ScramClient

/-- `client-first-message-bare`. -/
def firstBare (client : ScramClient) : Text :=
  attrVal 'n' client.user ++ ',' :: attrVal 'r' client.nonce

/-- `client-first-message`, without channel binding. -/
def firstMessage (client : ScramClient) : Text :=
  "n,,".toList ++ client.firstBare

/-- The nonce, the salt and the iteration count of a `server-first-message`. -/
def parseServerFirst (base64 : Codec) (text : Text) : Option (Text × Bytes × UInt32) :=
  match splitCommas text with
  | [first, second, third] => do
      let nonce ← stripAttribute 'r' first
      let saltB64 ← stripAttribute 's' second
      let iterations ← stripAttribute 'i' third
      let salt ← base64.decode saltB64
      let count ← parseU32 iterations
      some (nonce, salt, count)
  | _ => none

/-- `client-final-message-without-proof`. -/
def finalWithoutProof (base64 : Codec) (nonce : Text) : Text :=
  attrVal 'c' (base64.encode (asBytes "n,,".toList)) ++ ',' :: attrVal 'r' nonce

/-- `AuthMessage`. -/
def authMessage (client : ScramClient) (base64 : Codec) (serverFirst nonce : Text) : Bytes :=
  asBytes (client.firstBare ++ ',' :: serverFirst ++ ',' :: finalWithoutProof base64 nonce)

/-- `client-final-message`. -/
def finalMessage (base64 : Codec) (nonce : Text) (proof : Digest) : Text :=
  finalWithoutProof base64 nonce ++ ',' :: attrVal 'p' (base64.encode proof.bytes)

/-- The answer to a `server-first-message` and the `server-final-message` that the
client then expects; `none` if it gives up. -/
def respond (client : ScramClient) (primitives : Primitives) (derivation : Derivation)
    (serverFirst : Text) : Option (Text × Text) := do
  let (nonce, salt, iterations) ← parseServerFirst primitives.base64 serverFirst
  if client.nonce.isPrefixOf nonce then
    let salted := derivation client.password salt iterations
    let message := client.authMessage primitives.base64 serverFirst nonce
    some (finalMessage primitives.base64 nonce (clientProof primitives salted message),
      serverFinal primitives (serverKey primitives salted).bytes message)
  else
    none

end ScramClient

/-! ## The exchange -/

/-- How an exchange ends for the client: it is let in, by a server that has proved
itself or by one that has not, or it is not. -/
inductive ExchangeOutcome where
  | letIn (proved : Bool)
  | turnedAway
  deriving DecidableEq, Repr

/-- What happens around the handler while it handles the three messages of a client. -/
structure Environments where
  startup : Environment
  first : Environment
  final : Environment

/-- The exchange of a client with the handler of its connection. -/
def exchange (library : Library) (derivation : Derivation) (connection : Connection)
    (environments : Environments) (startup : StartupMessage) (client : ScramClient) :
    ExchangeOutcome :=
  let started := onStartup library connection ⟨.startup startup, environments.startup⟩
  match started.actions with
  | [.sasl mechanisms] =>
      if mechanisms.contains scramSha256 then
        let initial : SaslInitialResponse := ⟨scramSha256, some (asBytes client.firstMessage)⟩
        let challenged := onStartup library started.connection
          ⟨.passwordMessageFamily ⟨some initial, none⟩, environments.first⟩
        match challenged.actions with
        | [.onClientFirst _ _, .saslContinue serverFirst] =>
            match client.respond library.primitives derivation serverFirst with
            | some (final, expected) =>
                let finished := onStartup library challenged.connection
                  ⟨.passwordMessageFamily ⟨none, some (asBytes final)⟩, environments.final⟩
                match finished.actions with
                | [.onClientFinal _ _, .saslFinal serverFinal, .accept] =>
                    .letIn (serverFinal = expected)
                | _ => .turnedAway
            | none => .turnedAway
        | _ => .turnedAway
      else
        .turnedAway
  | _ => .turnedAway

end PgTransport.Auth
