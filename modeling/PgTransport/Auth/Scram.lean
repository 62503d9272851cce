import PgTransport.Encoding.Base64

/-!
# The server side of SCRAM

Texts are lists of characters; a message arrives as bytes and is read as UTF-8.
The hash functions are parameters of fixed output length, and the nonce of a
challenge is an input of the step that issues it.
-/

namespace PgTransport.Auth

open PgTransport.Encoding

/-- `&str`. -/
abbrev Text : Type := List Char

/-- `&[u8]`. -/
abbrev Bytes : Type := List UInt8

/-- `[u8; SHA256_BYTES]`. -/
structure Digest where
  bytes : Bytes
  length_bytes : bytes.length = 32
  deriving DecidableEq

/-- The primitives of the exchange. -/
structure Primitives where
  base64 : Codec
  hmacSha256 : Bytes → Bytes → Digest
  sha256 : Bytes → Digest

/-- `std::str::from_utf8`. -/
def fromUtf8 (msg : Bytes) : Option Text :=
  (String.fromUTF8? ⟨msg.toArray⟩).map String.toList

/-- `str::as_bytes`. -/
def asBytes (text : Text) : Bytes :=
  (String.ofList text).toUTF8.data.toList

theorem fromUtf8_asBytes (text : Text) : fromUtf8 (asBytes text) = some text := by
  have whole : (⟨(asBytes text).toArray⟩ : ByteArray) = text.utf8Encode := by
    rw [asBytes, Array.toArray_toList]
    exact String.toByteArray_ofList
  have valid : ByteArray.IsValidUTF8 text.utf8Encode := ByteArray.isValidUTF8_utf8Encode
  rw [fromUtf8, whole, String.fromUTF8?, dif_pos valid, Option.map_some]
  have same : String.fromUTF8 text.utf8Encode valid = String.ofList text :=
    String.toByteArray_inj.mp (by simp [String.fromUTF8])
  rw [same, String.toList_ofList]

/-! ## Verifiers and errors -/

/-- `ScramVerifier`. -/
structure ScramVerifier where
  iterations : UInt32
  salt : Bytes
  storedKey : Bytes
  serverKey : Bytes
  deriving DecidableEq

/-- `ScramError`. -/
inductive ScramError where
  | malformed (detail : String)
  | authFailed
  | nonceGenerationFailed
  deriving DecidableEq, Repr

/-! ## Message parsers -/

/-- `str::split(',')`. -/
def splitCommas (text : Text) : List Text :=
  text.splitOn ','

/-- The part of a message that gives an attribute this value. -/
def attrVal (name : Char) (value : Text) : Text :=
  name :: '=' :: value

/-- `part.strip_prefix("n=")` for the attrVal name `n`. -/
def stripAttribute (name : Char) : Text → Option Text
  | char :: '=' :: value => if char = name then some value else none
  | _ => none

/-- `find_nth_comma`. -/
def findNthComma : Text → Nat → Option Nat
  | [], _ => none
  | char :: rest, n =>
      if char = ',' then
        if n = 1 then some 0 else (findNthComma rest (n - 1)).map (· + 1)
      else
        (findNthComma rest n).map (· + 1)

/-- `ClientFirst`. -/
structure ClientFirst where
  gs2Header : Text
  bare : Text
  clientNonce : Text
  deriving DecidableEq

/-- `ClientFirst::parse`. -/
def ClientFirst.parse (text : Text) : Except ScramError ClientFirst :=
  match findNthComma text 2 with
  | none => .error (.malformed "client first missing gs2-header")
  | some position =>
      let gs2Header := text.take (position + 1)
      let bare := text.drop (position + 1)
      if !(['n', ','].isPrefixOf gs2Header || ['y', ','].isPrefixOf gs2Header) then
        .error (.malformed "channel binding not supported")
      else
        let clientNonce := (splitCommas bare).foldl
          (fun nonce part => (stripAttribute 'r' part).getD nonce) []
        if clientNonce = [] then
          .error (.malformed "client first missing nonce")
        else
          .ok ⟨gs2Header, bare, clientNonce⟩

/-- `ClientFinal`. -/
structure ClientFinal where
  channelBinding : Text
  combinedNonce : Text
  clientProof : Text
  deriving DecidableEq

/-- The body of the loop over the parts of a client-final message. -/
def ClientFinal.read (fields : ClientFinal) (part : Text) : ClientFinal :=
  match stripAttribute 'c' part, stripAttribute 'r' part, stripAttribute 'p' part with
  | some value, _, _ => { fields with channelBinding := value }
  | none, some value, _ => { fields with combinedNonce := value }
  | none, none, some value => { fields with clientProof := value }
  | none, none, none => fields

/-- `ClientFinal::parse`. -/
def ClientFinal.parse (text : Text) : Except ScramError ClientFinal :=
  let fields := (splitCommas text).foldl ClientFinal.read ⟨[], [], []⟩
  if fields.channelBinding = [] ∨ fields.combinedNonce = [] ∨ fields.clientProof = [] then
    .error (.malformed "client final missing c/r/p field")
  else
    .ok fields

/-! ## The exchange -/

/-- `ScramServer`. -/
structure ScramServer where
  verifier : ScramVerifier
  combinedNonce : Text
  clientFirstBare : Text
  serverFirst : Text
  gs2Header : Text
  deriving DecidableEq

/-- `ScramServer::new`. -/
def ScramServer.new (verifier : ScramVerifier) : ScramServer :=
  ⟨verifier, [], [], [], []⟩

/-- The `server-first-message` of a combined nonce. -/
def serverFirstMessage (primitives : Primitives) (verifier : ScramVerifier)
    (combinedNonce : Text) : Text :=
  attrVal 'r' combinedNonce ++ ',' :: attrVal 's' (primitives.base64.encode verifier.salt) ++
    ',' :: attrVal 'i' (toString verifier.iterations.toNat).toList

/-- `ScramServer::on_client_first`; `nonce` is the result of `generate_nonce`. -/
def ScramServer.onClientFirst (server : ScramServer) (primitives : Primitives)
    (nonce : Option Text) (msg : Bytes) : Except ScramError (Text × ScramServer) :=
  match fromUtf8 msg with
  | none => .error (.malformed "client first not utf8")
  | some text => do
      let parsed ← ClientFirst.parse text
      match nonce with
      | none => .error .nonceGenerationFailed
      | some serverNonce =>
          let combinedNonce := parsed.clientNonce ++ serverNonce
          let serverFirst := serverFirstMessage primitives server.verifier combinedNonce
          .ok (serverFirst,
            ⟨server.verifier, combinedNonce, parsed.bare, serverFirst, parsed.gs2Header⟩)

/-- `constant_time_eq`. -/
def constantTimeEq (a b : Bytes) : Bool :=
  if a.length ≠ b.length then
    false
  else
    (List.zipWith (· ^^^ ·) a b).foldl (· ||| ·) 0 == 0

/-- The `AuthMessage` of an exchange whose final message is signed as `signed`. -/
def ScramServer.authMessage (server : ScramServer) (signed : Text) : Bytes :=
  asBytes (server.clientFirstBare ++ ',' :: server.serverFirst ++ ',' :: signed)

/-- The proof recovers a client key whose hash is the stored key. -/
def ScramServer.verifies (server : ScramServer) (primitives : Primitives)
    (signed : Text) (proof : Bytes) : Bool :=
  let clientSignature :=
    primitives.hmacSha256 server.verifier.storedKey (server.authMessage signed)
  let clientKeyCandidate := List.zipWith (· ^^^ ·) proof clientSignature.bytes
  constantTimeEq (primitives.sha256 clientKeyCandidate).bytes server.verifier.storedKey

/-- The `server-final-message`. -/
def ScramServer.finalMessage (server : ScramServer) (primitives : Primitives)
    (signed : Text) : Text :=
  attrVal 'v' (primitives.base64.encode
    (primitives.hmacSha256 server.verifier.serverKey (server.authMessage signed)).bytes)

/-- `client_final_no_proof`, put together from the parsed fields. -/
def ClientFinal.noProof (fields : ClientFinal) : Text :=
  attrVal 'c' fields.channelBinding ++ ',' :: attrVal 'r' fields.combinedNonce

/-- `ScramServer::on_client_final`. -/
def ScramServer.onClientFinal (server : ScramServer) (primitives : Primitives)
    (msg : Bytes) : Except ScramError Text :=
  match fromUtf8 msg with
  | none => .error (.malformed "client final not utf8")
  | some text => do
      let parsed ← ClientFinal.parse text
      if parsed.combinedNonce ≠ server.combinedNonce then
        .error (.malformed "nonce mismatch")
      else if parsed.channelBinding ≠ primitives.base64.encode (asBytes server.gs2Header) then
        .error (.malformed "channel binding mismatch")
      else
        match primitives.base64.decode parsed.clientProof with
        | none => .error (.malformed "client proof not base64")
        | some clientProof =>
            if clientProof.length ≠ 32 then
              .error (.malformed "client proof wrong length")
            else if !server.verifies primitives parsed.noProof clientProof then
              .error .authFailed
            else
              .ok (server.finalMessage primitives parsed.noProof)

/-! ## What the exchange accepts -/

@[simp]
theorem stripAttribute_attrVal (name : Char) (value : Text) :
    stripAttribute name (attrVal name value) = some value := by
  simp [stripAttribute, attrVal]

theorem stripAttribute_of_ne {name other : Char} (value : Text) (differ : other ≠ name) :
    stripAttribute name (attrVal other value) = none := by
  simp [stripAttribute, attrVal, differ]

theorem attrVal_of_stripAttribute {name : Char} {part value : Text}
    (stripped : stripAttribute name part = some value) : part = attrVal name value := by
  unfold stripAttribute at stripped
  split at stripped
  · next char rest =>
    split at stripped
    · next same =>
      cases stripped
      rw [same]
      rfl
    · cases stripped
  · cases stripped

theorem foldl_or_eq_zero_iff (bytes : Bytes) :
    ∀ start : UInt8, bytes.foldl (· ||| ·) start = 0 ↔ start = 0 ∧ ∀ byte ∈ bytes, byte = 0 := by
  induction bytes with
  | nil => simp
  | cons byte bytes inductionHypothesis =>
      intro start
      rw [List.foldl_cons, inductionHypothesis, UInt8.or_eq_zero_iff, List.forall_mem_cons,
        and_assoc]

/-- The comparison is equality. -/
theorem constantTimeEq_iff (a b : Bytes) : constantTimeEq a b = true ↔ a = b := by
  unfold constantTimeEq
  split
  · next differ =>
    simp only [Bool.false_eq_true, false_iff]
    rintro rfl
    exact differ rfl
  · next same =>
    rw [beq_iff_eq, foldl_or_eq_zero_iff, and_iff_right rfl]
    constructor
    · intro zero
      apply List.ext_getElem (not_not.mp same)
      intro index first second
      have cell := zero (a[index] ^^^ b[index]) (by
        rw [← List.getElem_zipWith (i := index) (f := (· ^^^ ·)) (h := by simp; omega)]
        exact List.getElem_mem _)
      exact UInt8.xor_eq_zero_iff.mp cell
    · rintro rfl byte member
      obtain ⟨index, inside, rfl⟩ := List.mem_iff_getElem.mp member
      rw [List.getElem_zipWith, UInt8.xor_self]

/-- `on_client_final` accepts exactly the messages whose last attributes match
the exchange and whose proof verifies over the rebuilt text. -/
theorem onClientFinal_eq_ok_iff {server : ScramServer} {primitives : Primitives} {msg : Bytes}
    {reply : Text} :
    server.onClientFinal primitives msg = .ok reply ↔
      ∃ text parsed proof, fromUtf8 msg = some text ∧ ClientFinal.parse text = .ok parsed ∧
        parsed.combinedNonce = server.combinedNonce ∧
        parsed.channelBinding = primitives.base64.encode (asBytes server.gs2Header) ∧
        primitives.base64.decode parsed.clientProof = some proof ∧ proof.length = 32 ∧
        server.verifies primitives parsed.noProof proof = true ∧
        reply = server.finalMessage primitives parsed.noProof := by
  constructor
  · intro accepted
    unfold ScramServer.onClientFinal at accepted
    cases read : fromUtf8 msg with
    | none => simp [read] at accepted
    | some text =>
        cases parse : ClientFinal.parse text with
        | error err => simp [read, parse, Bind.bind, Except.bind] at accepted
        | ok parsed =>
            simp only [read, parse, Bind.bind, Except.bind] at accepted
            split at accepted
            · cases accepted
            next nonce =>
            split at accepted
            · cases accepted
            next binding =>
            cases decode : primitives.base64.decode parsed.clientProof with
            | none => simp [decode] at accepted
            | some proof =>
                simp only [decode] at accepted
                split at accepted
                · cases accepted
                next length =>
                split at accepted
                · cases accepted
                next verified =>
                cases accepted
                exact ⟨text, parsed, proof, rfl, parse, not_not.mp nonce, not_not.mp binding,
                  decode, not_not.mp length, by simpa using verified, rfl⟩
  · rintro ⟨text, parsed, proof, read, parse, nonce, binding, decode, length, verified, rfl⟩
    simp [ScramServer.onClientFinal, read, parse, nonce, binding, decode, length, verified,
      Bind.bind, Except.bind]

end PgTransport.Auth
