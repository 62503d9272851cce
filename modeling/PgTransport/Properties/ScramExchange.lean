import PgTransport.Auth.Scram

/-!
# Proof verification in a SCRAM exchange

RFC 5802 signs the client-final message as it was sent, up to its proof, with
whatever extensions it carries.  The server signs `c=…,r=…` put together from the
attributes it has read, so that it agrees with the RFC on the messages that
consist of these attributes alone, and on others as far as the two signatures
do.
-/

namespace PgTransport.Properties

open PgTransport.Auth
open PgTransport.Encoding

/-! ## Client-first messages -/

/-- The value of the last attribute of that name. -/
def IsLast (name : Char) (value : Text) (parts : List Text) : Prop :=
  ∃ before later, parts = before ++ attrVal name value :: later ∧
    ∀ part ∈ later, stripAttribute name part = none

/-- A client-first message without channel binding: its flag, the identity it
asks for, and the bare message with the client's nonce. -/
structure FirstMessage where
  flag : Char
  authzid : Text
  bare : Text
  clientNonce : Text
  flagged : flag = 'n' ∨ flag = 'y'
  commaFree : ',' ∉ authzid
  nonce : IsLast 'r' clientNonce (splitCommas bare)
  filled : clientNonce ≠ []

namespace FirstMessage

/-- `gs2-header`. -/
def gs2Header (message : FirstMessage) : Text :=
  message.flag :: ',' :: (message.authzid ++ [','])

/-- The message as it is sent. -/
def text (message : FirstMessage) : Text :=
  message.gs2Header ++ message.bare

/-- What the parser keeps of the message. -/
def fields (message : FirstMessage) : ClientFirst :=
  ⟨message.gs2Header, message.bare, message.clientNonce⟩

end FirstMessage

/-! ## Client-final messages -/

/-- An optional extension: an attribute with a value, none of `c`, `r`, `p`. -/
def IsExtension (part : Text) : Prop :=
  ∃ name value, part = attrVal name value ∧ name.isAlpha = true ∧ name ∉ ['c', 'r', 'p'] ∧
    value ≠ []

/-- A well-formed client-final message. -/
structure FinalMessage where
  channelBinding : Text
  combinedNonce : Text
  extensions : List Text
  clientProof : Text
  filled : channelBinding ≠ [] ∧ combinedNonce ≠ [] ∧ clientProof ≠ []
  commaFree : ',' ∉ channelBinding ∧ ',' ∉ combinedNonce ∧ ',' ∉ clientProof
  isExtension : ∀ part ∈ extensions, IsExtension part ∧ ',' ∉ part

namespace FinalMessage

/-- The attributes before the proof. -/
def signedParts (message : FinalMessage) : List Text :=
  attrVal 'c' message.channelBinding :: attrVal 'r' message.combinedNonce ::
    message.extensions

/-- `client-final-message-without-proof`. -/
def signed (message : FinalMessage) : Text :=
  [','].intercalate message.signedParts

/-- The message as it is sent. -/
def text (message : FinalMessage) : Text :=
  message.signed ++ ',' :: attrVal 'p' message.clientProof

/-- The attributes that every message has. -/
def fields (message : FinalMessage) : ClientFinal :=
  ⟨message.channelBinding, message.combinedNonce, message.clientProof⟩

end FinalMessage

/-! ## The RFC's exchange -/

/-- `AuthMessage`. -/
def authMessage (primitives : Primitives) (verifier : ScramVerifier) (serverNonce : Text)
    (first : FirstMessage) (final : FinalMessage) : Bytes :=
  asBytes (first.bare ++ ',' ::
    serverFirstMessage primitives verifier (first.clientNonce ++ serverNonce) ++
      ',' :: final.signed)

/-- The RFC has the server accept the final message of an exchange and answer it
with `reply`. -/
structure RfcAccepts (primitives : Primitives) (verifier : ScramVerifier)
    (serverNonce : Text) (first : FirstMessage) (final : FinalMessage) (reply : Text) :
    Prop where
  nonce : final.combinedNonce = first.clientNonce ++ serverNonce
  binding : final.channelBinding = primitives.base64.encode (asBytes first.gs2Header)
  proof : ∃ proof, primitives.base64.decode final.clientProof = some proof ∧
    proof.length = 32 ∧
    (primitives.sha256 (List.zipWith (· ^^^ ·) proof (primitives.hmacSha256 verifier.storedKey
      (authMessage primitives verifier serverNonce first final)).bytes)).bytes =
        verifier.storedKey
  reply : reply = attrVal 'v' (primitives.base64.encode (primitives.hmacSha256
    verifier.serverKey (authMessage primitives verifier serverNonce first final)).bytes)

/-- On the final message `msg` of the exchange that `firstMsg` opened, the server
accepts and answers exactly as the RFC has it. -/
def MeetsRfc (primitives : Primitives) (verifier : ScramVerifier) (serverNonce : Text)
    (firstMsg : Bytes) (server : ScramServer) (msg : Bytes) : Prop :=
  ∀ reply, server.onClientFinal primitives msg = .ok reply ↔
    ∃ (first : FirstMessage) (final : FinalMessage),
      fromUtf8 firstMsg = some first.text ∧ fromUtf8 msg = some final.text ∧
        RfcAccepts primitives verifier serverNonce first final reply

/-! ## Reading client-first messages -/

theorem foldl_last {name : Char} {value : Text} {parts : List Text}
    (last : IsLast name value parts) (start : Text) :
    parts.foldl (fun found part => (stripAttribute name part).getD found) start = value := by
  obtain ⟨before, later, rfl, silent⟩ := last
  rw [List.foldl_append, List.foldl_cons, stripAttribute_attrVal, Option.getD_some]
  clear start
  induction later with
  | nil => rfl
  | cons part later inductionHypothesis =>
      rw [List.forall_mem_cons] at silent
      rw [List.foldl_cons, silent.1, Option.getD_none]
      exact inductionHypothesis silent.2

/-- A nonempty result of the loop is the last attribute's value. -/
theorem isLast_of_foldl {name : Char} {parts : List Text} {start value : Text}
    (result : parts.foldl (fun found part => (stripAttribute name part).getD found) start =
      value) :
    IsLast name value parts ∨
      value = start ∧ ∀ part ∈ parts, stripAttribute name part = none := by
  induction parts generalizing start with
  | nil => exact .inr ⟨result.symm, by simp⟩
  | cons part parts inductionHypothesis =>
      rw [List.foldl_cons] at result
      rcases inductionHypothesis result with ⟨before, later, rfl, silent⟩ | ⟨same, silent⟩
      · exact .inl ⟨part :: before, later, rfl, silent⟩
      · cases here : stripAttribute name part with
        | none =>
            rw [here, Option.getD_none] at same
            exact .inr ⟨same, List.forall_mem_cons.mpr ⟨here, silent⟩⟩
        | some found =>
            rw [here, Option.getD_some] at same
            subst same
            have shape : part = attrVal name value := attrVal_of_stripAttribute here
            exact .inl ⟨[], parts, by rw [shape]; rfl, silent⟩

theorem findNthComma_one {text rest : Text} (free : ',' ∉ text) :
    findNthComma (text ++ ',' :: rest) 1 = some text.length := by
  induction text with
  | nil => simp [findNthComma]
  | cons char text inductionHypothesis =>
      rw [List.mem_cons, not_or] at free
      rw [List.cons_append, findNthComma, if_neg (Ne.symm free.1), inductionHypothesis free.2]
      rfl

/-- A comma that was found splits the text behind the first part without one. -/
theorem split_of_findNthComma_one {text : Text} {position : Nat}
    (found : findNthComma text 1 = some position) :
    ∃ before rest, text = before ++ ',' :: rest ∧ ',' ∉ before ∧ position = before.length := by
  induction text generalizing position with
  | nil => cases found
  | cons char text inductionHypothesis =>
      by_cases comma : char = ','
      · subst comma
        simp only [findNthComma, if_true, Option.some.injEq] at found
        exact ⟨[], text, rfl, by simp, found.symm⟩
      · rw [findNthComma, if_neg comma, Option.map_eq_some_iff] at found
        obtain ⟨earlier, here, rfl⟩ := found
        obtain ⟨before, rest, rfl, free, rfl⟩ := inductionHypothesis here
        exact ⟨char :: before, rest, rfl, by simp [Ne.symm comma, free], rfl⟩

/-- A second comma lies behind a first one. -/
theorem split_of_findNthComma_two {text : Text} {position : Nat}
    (found : findNthComma text 2 = some position) :
    ∃ before rest later, text = before ++ ',' :: rest ∧ ',' ∉ before ∧
      findNthComma rest 1 = some later ∧ position = before.length + (later + 1) := by
  induction text generalizing position with
  | nil => cases found
  | cons char text inductionHypothesis =>
      by_cases comma : char = ','
      · subst comma
        rw [findNthComma, if_pos rfl, if_neg (by decide), Option.map_eq_some_iff] at found
        obtain ⟨later, here, rfl⟩ := found
        exact ⟨[], text, later, rfl, by simp, here, by simp⟩
      · rw [findNthComma, if_neg comma, Option.map_eq_some_iff] at found
        obtain ⟨earlier, here, rfl⟩ := found
        obtain ⟨before, rest, later, rfl, free, inner, rfl⟩ := inductionHypothesis here
        exact ⟨char :: before, rest, later, rfl, by simp [Ne.symm comma, free], inner,
          by simp; omega⟩

/-- The parser reads a client-first message as it was written. -/
theorem parse_firstText (message : FirstMessage) :
    ClientFirst.parse message.text = .ok message.fields := by
  have flag : message.flag ≠ ',' := by
    rcases message.flagged with same | same <;> rw [same] <;> decide
  have position : findNthComma message.text 2 = some (message.authzid.length + 2) := by
    have inner : findNthComma (message.authzid ++ ',' :: message.bare) 1 =
        some message.authzid.length := findNthComma_one message.commaFree
    simp [FirstMessage.text, FirstMessage.gs2Header, findNthComma, flag, inner]
  have header : message.text.take (message.authzid.length + 2 + 1) = message.gs2Header := by
    rw [FirstMessage.text, List.take_append_of_le_length (by simp [FirstMessage.gs2Header])]
    exact List.take_of_length_le (by simp [FirstMessage.gs2Header])
  have bare : message.text.drop (message.authzid.length + 2 + 1) = message.bare := by
    rw [FirstMessage.text]
    exact List.drop_left' (by simp [FirstMessage.gs2Header])
  have supported : (['n', ','].isPrefixOf message.gs2Header ||
      ['y', ','].isPrefixOf message.gs2Header) = true := by
    rcases message.flagged with same | same <;>
      simp [FirstMessage.gs2Header, same, List.isPrefixOf]
  simp only [ClientFirst.parse, position, header, bare, supported, foldl_last message.nonce]
  simp [message.filled, FirstMessage.fields]

/-- The comma behind a one-character flag ends the part without one. -/
theorem eq_singleton_of_isPrefixOf {flag : Char} {before rest : Text} (other : flag ≠ ',')
    (free : ',' ∉ before) (starts : [flag, ','].isPrefixOf (before ++ ',' :: rest) = true) :
    before = [flag] := by
  obtain ⟨more, same⟩ := List.isPrefixOf_iff_prefix.mp starts
  cases before with
  | nil => exact absurd (List.cons.inj same).1 other
  | cons char before =>
      cases before with
      | nil => simpa using (List.cons.inj same).1.symm
      | cons next before =>
          have second : ',' = next := (List.cons.inj (List.cons.inj same).2).1
          simp [← second] at free

/-- What the parser accepts is a client-first message. -/
theorem exists_firstMessage {text : Text} {parsed : ClientFirst}
    (parse : ClientFirst.parse text = .ok parsed) :
    ∃ message : FirstMessage, text = message.text := by
  unfold ClientFirst.parse at parse
  cases found : findNthComma text 2 with
  | none => simp [found] at parse
  | some position =>
      obtain ⟨before, rest, later, rfl, flagFree, inner, rfl⟩ := split_of_findNthComma_two found
      obtain ⟨authzid, bare, rfl, free, rfl⟩ := split_of_findNthComma_one inner
      have parts : before ++ ',' :: (authzid ++ ',' :: bare) =
          (before ++ ',' :: (authzid ++ [','])) ++ bare := by simp
      have length : before.length + (authzid.length + 1) + 1 =
          (before ++ ',' :: (authzid ++ [','])).length := by simp; omega
      have header : (before ++ ',' :: (authzid ++ ',' :: bare)).take
          (before.length + (authzid.length + 1) + 1) = before ++ ',' :: (authzid ++ [',']) := by
        rw [parts, length, List.take_left]
      have body : (before ++ ',' :: (authzid ++ ',' :: bare)).drop
          (before.length + (authzid.length + 1) + 1) = bare := by
        rw [parts, length, List.drop_left]
      simp only [found, header, body] at parse
      split at parse
      · cases parse
      next supported =>
      split at parse
      · cases parse
      next filled =>
      have flag : before = ['n'] ∨ before = ['y'] := by
        simp only [Bool.not_eq_true, Bool.not_eq_false', Bool.or_eq_true] at supported
        exact supported.imp (eq_singleton_of_isPrefixOf (by decide) flagFree)
          (eq_singleton_of_isPrefixOf (by decide) flagFree)
      have last : IsLast 'r' _ (splitCommas bare) :=
        (isLast_of_foldl rfl).resolve_right fun unset => filled unset.1
      rcases flag with rfl | rfl
      · exact ⟨⟨'n', authzid, bare, _, .inl rfl, free, last, filled⟩, by
          simp [FirstMessage.text, FirstMessage.gs2Header]⟩
      · exact ⟨⟨'y', authzid, bare, _, .inr rfl, free, last, filled⟩, by
          simp [FirstMessage.text, FirstMessage.gs2Header]⟩

/-! ## Reading well-formed messages -/

theorem intercalate_append_singleton {parts : List Text} (last : Text) (some : parts ≠ []) :
    [','].intercalate (parts ++ [last]) = [','].intercalate parts ++ ',' :: last := by
  induction parts with
  | nil => exact absurd rfl some
  | cons part parts inductionHypothesis =>
      cases parts with
      | nil => simp [List.intercalate_cons_cons, List.intercalate_singleton]
      | cons next parts =>
          have later := inductionHypothesis (by simp)
          rw [List.cons_append, List.cons_append, List.intercalate_cons_cons,
            List.intercalate_cons_cons, ← List.cons_append, later]
          simp

/-- A well-formed message splits into its attributes. -/
theorem splitCommas_text (message : FinalMessage) :
    splitCommas message.text =
      message.signedParts ++ [attrVal 'p' message.clientProof] := by
  obtain ⟨binding, nonce, proof⟩ := message.commaFree
  rw [splitCommas, FinalMessage.text, FinalMessage.signed,
    ← intercalate_append_singleton _ (by simp [FinalMessage.signedParts])]
  apply List.splitOn_intercalate
  · intro part member
    simp only [FinalMessage.signedParts, List.cons_append, List.mem_cons, List.mem_append,
      List.not_mem_nil, or_false] at member
    rcases member with rfl | rfl | extension | rfl
    · simpa [attrVal] using binding
    · simpa [attrVal] using nonce
    · exact (message.isExtension part extension).2
    · simpa [attrVal] using proof
  · simp

/-- Extensions are skipped. -/
theorem foldl_read_extensions {extensions : List Text}
    (each : ∀ part ∈ extensions, IsExtension part) (fields : ClientFinal) :
    extensions.foldl ClientFinal.read fields = fields := by
  induction extensions with
  | nil => rfl
  | cons part extensions inductionHypothesis =>
      rw [List.forall_mem_cons] at each
      obtain ⟨⟨name, value, rfl, _, other, _⟩, rest⟩ := each
      simp only [List.mem_cons, List.not_mem_nil, or_false, not_or] at other
      rw [List.foldl_cons, ClientFinal.read, stripAttribute_of_ne value other.1,
        stripAttribute_of_ne value other.2.1, stripAttribute_of_ne value other.2.2]
      exact inductionHypothesis rest

/-- The parser reads the attributes of a well-formed message. -/
theorem parse_text (message : FinalMessage) :
    ClientFinal.parse message.text = .ok message.fields := by
  have read : (splitCommas message.text).foldl ClientFinal.read ⟨[], [], []⟩ =
      message.fields := by
    have skipped := foldl_read_extensions fun part member =>
      (message.isExtension part member).1
    simp only [splitCommas_text, FinalMessage.signedParts, List.foldl_append, List.foldl_cons,
      List.foldl_nil, skipped]
    rfl
  obtain ⟨binding, nonce, proof⟩ := message.filled
  rw [ClientFinal.parse, read]
  simp [FinalMessage.fields, binding, nonce, proof]

/-- The text of a well-formed message determines its attributes. -/
theorem fields_eq_of_text_eq {first second : FinalMessage} (same : first.text = second.text) :
    first.fields = second.fields := by
  have parsed := parse_text first
  rw [same, parse_text second] at parsed
  exact (Except.ok.inj parsed).symm

theorem signed_eq_of_text_eq {first second : FinalMessage} (same : first.text = second.text) :
    first.signed = second.signed := by
  have proof : first.clientProof = second.clientProof :=
    congrArg ClientFinal.clientProof (fields_eq_of_text_eq same)
  rw [FinalMessage.text, FinalMessage.text, proof] at same
  exact List.append_cancel_right same

/-! ## Where the server and the RFC agree -/

/-- The attributes match the exchange: the nonce is the one of the challenge, the
channel binding the one sent first, and the proof has 32 bytes. -/
structure MatchesExchange (server : ScramServer) (base64 : Codec) (parsed : ClientFinal)
    (proof : Bytes) : Prop where
  nonce : parsed.combinedNonce = server.combinedNonce
  binding : parsed.channelBinding = base64.encode (asBytes server.gs2Header)
  decoded : base64.decode parsed.clientProof = some proof
  length : proof.length = 32

/-- The two signed texts make no difference: the proof verifies over both or
neither, and where it does the server signatures are the same. -/
def SameSignature (server : ScramServer) (primitives : Primitives) (proof : Bytes)
    (first second : Text) : Prop :=
  server.verifies primitives first proof = server.verifies primitives second proof ∧
    (server.verifies primitives first proof = true →
      server.finalMessage primitives first = server.finalMessage primitives second)

/-- A client-final message whose last `c`, `r` and `p` attributes match the
exchange consists of these three alone. -/
def SentPlain (server : ScramServer) (base64 : Codec) (msg : Bytes) : Prop :=
  ∀ text parsed proof, fromUtf8 msg = some text → ClientFinal.parse text = .ok parsed →
    MatchesExchange server base64 parsed proof → server.verifier.storedKey.length = 32 →
      ∃ message : FinalMessage, text = message.text ∧ message.extensions = []

/-- Where the last `c`, `r` and `p` attributes match the exchange, the rebuilt
text makes no difference to the one that was sent, and a message that is not
well formed has a proof that does not verify. -/
def RebuildsSafely (server : ScramServer) (primitives : Primitives) (msg : Bytes) : Prop :=
  ∀ text parsed proof, fromUtf8 msg = some text → ClientFinal.parse text = .ok parsed →
    MatchesExchange server primitives.base64 parsed proof →
      (∀ message : FinalMessage, text = message.text →
        SameSignature server primitives proof parsed.noProof message.signed) ∧
      ((∀ message : FinalMessage, text ≠ message.text) →
        server.verifies primitives parsed.noProof proof = false)

theorem sameSignature_iff {server : ScramServer} {primitives : Primitives} {proof : Bytes}
    {first second : Text} :
    SameSignature server primitives proof first second ↔ ∀ reply,
      (server.verifies primitives first proof = true ∧
          reply = server.finalMessage primitives first) ↔
        (server.verifies primitives second proof = true ∧
          reply = server.finalMessage primitives second) := by
  constructor
  · rintro ⟨proofs, replies⟩ reply
    rw [← proofs]
    exact and_congr_right fun verified => by rw [replies verified]
  · intro same
    constructor
    · apply Bool.eq_iff_iff.mpr
      constructor
      · exact fun verified => ((same _).mp ⟨verified, rfl⟩).1
      · exact fun verified => ((same _).mpr ⟨verified, rfl⟩).1
    · exact fun verified => ((same _).mp ⟨verified, rfl⟩).2

/-- Extensions make the text that was sent longer than the rebuilt one. -/
theorem noProof_eq_signed_iff {message : FinalMessage} :
    message.fields.noProof = message.signed ↔ message.extensions = [] := by
  constructor
  · intro same
    cases extensions : message.extensions with
    | nil => rfl
    | cons extension rest =>
        have lengths := congrArg List.length same
        simp [FinalMessage.signed, FinalMessage.signedParts, FinalMessage.fields,
          ClientFinal.noProof, extensions, List.intercalate_cons_cons] at lengths
  · intro plain
    simp [FinalMessage.signed, FinalMessage.signedParts, FinalMessage.fields,
      ClientFinal.noProof, plain, List.intercalate_cons_cons, List.intercalate_singleton]

/-- No proof verifies against a stored key that is no hash. -/
theorem verifies_of_length_ne {server : ScramServer} (primitives : Primitives)
    (short : server.verifier.storedKey.length ≠ 32) (signed : Text) (proof : Bytes) :
    server.verifies primitives signed proof = false := by
  rw [ScramServer.verifies, ← Bool.not_eq_true, constantTimeEq_iff]
  intro same
  apply short
  rw [← same]
  exact Digest.length_bytes _

/-- Every proof verifies if the hash is the stored key. -/
theorem verifies_of_constant {server : ScramServer} {base64 : Codec}
    (hmacSha256 : Bytes → Bytes → Digest) (long : server.verifier.storedKey.length = 32)
    (signed : Text) (proof : Bytes) :
    server.verifies ⟨base64, hmacSha256, fun _ => ⟨_, long⟩⟩ signed proof = true :=
  (constantTimeEq_iff _ _).mpr rfl

/-- A message of the three attributes alone is rebuilt as it was sent. -/
theorem rebuildsSafely_of_sentPlain {server : ScramServer} {primitives : Primitives}
    {msg : Bytes} (plain : SentPlain server primitives.base64 msg) :
    RebuildsSafely server primitives msg := by
  intro text parsed proof read parse matching
  by_cases long : server.verifier.storedKey.length = 32
  · obtain ⟨message, rfl, alone⟩ := plain text parsed proof read parse matching long
    cases parse.symm.trans (parse_text message)
    constructor
    · intro other same
      rw [noProof_eq_signed_iff.mpr alone, signed_eq_of_text_eq same]
      exact ⟨rfl, fun _ => rfl⟩
    · intro malformed
      exact absurd rfl (malformed message)
  · have rejects := verifies_of_length_ne primitives long
    constructor
    · intro message _
      rw [SameSignature, rejects, rejects]
      simp
    · exact fun _ => rejects _ _

theorem authMessage_injective (server : ScramServer) : Function.Injective server.authMessage := by
  intro first second same
  have texts := congrArg fromUtf8 same
  rw [ScramServer.authMessage, ScramServer.authMessage, fromUtf8_asBytes, fromUtf8_asBytes,
    Option.some.injEq] at texts
  exact (List.cons.inj (List.append_cancel_left texts)).2

/-- If no choice of the hash functions tells the rebuilt text from the one that
was sent, then they are the same. -/
theorem sentPlain_of_rebuildsSafely {server : ScramServer} {base64 : Codec} {msg : Bytes}
    (safe : ∀ hmacSha256 sha256, RebuildsSafely server ⟨base64, hmacSha256, sha256⟩ msg) :
    SentPlain server base64 msg := by
  intro text parsed proof read parse matching long
  by_cases formed : ∃ message : FinalMessage, text = message.text
  · obtain ⟨message, rfl⟩ := formed
    cases parse.symm.trans (parse_text message)
    -- a hash that tells the text that was sent from all others
    let zeros : Digest := ⟨List.replicate 32 0, rfl⟩
    let ones : Digest := ⟨List.replicate 32 1, rfl⟩
    let hmac : Bytes → Bytes → Digest := fun _ signed =>
      if signed = server.authMessage message.signed then zeros else ones
    obtain ⟨_, replies⟩ := (safe hmac fun _ => ⟨_, long⟩) _ _ proof read parse matching |>.1
      message rfl
    have answers := replies (verifies_of_constant hmac long _ proof)
    by_cases same : message.fields.noProof = message.signed
    · exact ⟨message, rfl, noProof_eq_signed_iff.mp same⟩
    · have other : server.authMessage message.fields.noProof ≠
          server.authMessage message.signed := (authMessage_injective server).ne same
      simp only [ScramServer.finalMessage, hmac, if_neg other, if_true, attrVal,
        List.cons.injEq, true_and] at answers
      exact absurd (base64.encode_injective answers) (by decide)
  · have rejects := (safe (fun _ _ => ⟨_, long⟩) fun _ => ⟨_, long⟩) _ _ proof read parse
      matching |>.2 fun message same => formed ⟨message, same⟩
    rw [verifies_of_constant] at rejects
    cases rejects

/-- What the server does with a message that it can read. -/
theorem onClientFinal_iff_of_read {server : ScramServer} {primitives : Primitives}
    {msg : Bytes} {text : Text} {parsed : ClientFinal} {proof : Bytes}
    (read : fromUtf8 msg = some text) (parse : ClientFinal.parse text = .ok parsed)
    (matching : MatchesExchange server primitives.base64 parsed proof) (reply : Text) :
    server.onClientFinal primitives msg = .ok reply ↔
      server.verifies primitives parsed.noProof proof = true ∧
        reply = server.finalMessage primitives parsed.noProof := by
  rw [onClientFinal_eq_ok_iff]
  constructor
  · rintro ⟨other, fields, bytes, here, parses, _, _, decoded, _, verified, reply⟩
    cases read.symm.trans here
    cases parse.symm.trans parses
    cases matching.decoded.symm.trans decoded
    exact ⟨verified, reply⟩
  · rintro ⟨verified, reply⟩
    exact ⟨text, parsed, proof, read, parse, matching.nonce, matching.binding,
      matching.decoded, matching.length, verified, reply⟩

section Exchange

variable {primitives : Primitives} {verifier : ScramVerifier} {serverNonce challenge : Text}
  {firstMsg : Bytes} {server : ScramServer}

/-- The state the server keeps of a client-first message. -/
def serverOf (primitives : Primitives) (verifier : ScramVerifier) (serverNonce : Text)
    (first : FirstMessage) : ScramServer :=
  ⟨verifier, first.clientNonce ++ serverNonce, first.bare,
    serverFirstMessage primitives verifier (first.clientNonce ++ serverNonce),
    first.gs2Header⟩

/-- An accepted client-first message is well formed, and the server keeps what
the rest of the exchange needs of it. -/
theorem server_of_accepted
    (accepted : (ScramServer.new verifier).onClientFirst primitives (some serverNonce) firstMsg =
      .ok (challenge, server)) :
    ∃ first : FirstMessage, fromUtf8 firstMsg = some first.text ∧
      server = serverOf primitives verifier serverNonce first := by
  unfold ScramServer.onClientFirst at accepted
  cases read : fromUtf8 firstMsg with
  | none => simp [read] at accepted
  | some text =>
      cases parse : ClientFirst.parse text with
      | error err => simp [read, parse, Bind.bind, Except.bind] at accepted
      | ok parsed =>
          obtain ⟨first, rfl⟩ := exists_firstMessage parse
          cases parse.symm.trans (parse_firstText first)
          simp only [read, parse, Bind.bind, Except.bind, Except.ok.injEq, Prod.mk.injEq]
            at accepted
          exact ⟨first, rfl, accepted.2.symm⟩

/-- The message determines what the server keeps. -/
theorem serverOf_eq_of_text_eq {first second : FirstMessage} (same : first.text = second.text) :
    serverOf primitives verifier serverNonce first =
      serverOf primitives verifier serverNonce second := by
  have fields : first.fields = second.fields := by
    have parsed := parse_firstText first
    rw [same, parse_firstText second] at parsed
    exact (Except.ok.inj parsed).symm
  obtain ⟨header, bare, nonce⟩ := ClientFirst.mk.inj fields
  rw [serverOf, serverOf, header, bare, nonce]

/-- The RFC accepts a final message exactly if its attributes match the exchange
and its proof verifies over the text that was sent. -/
theorem rfcAccepts_iff {first : FirstMessage} {final : FinalMessage} {reply : Text} :
    RfcAccepts primitives verifier serverNonce first final reply ↔ ∃ proof,
      MatchesExchange (serverOf primitives verifier serverNonce first) primitives.base64
          final.fields proof ∧
        (serverOf primitives verifier serverNonce first).verifies primitives final.signed proof =
          true ∧
        reply = (serverOf primitives verifier serverNonce first).finalMessage primitives
          final.signed := by
  constructor
  · rintro ⟨nonce, binding, ⟨proof, decoded, length, verified⟩, reply⟩
    exact ⟨proof, ⟨nonce, binding, decoded, length⟩, (constantTimeEq_iff _ _).mpr verified, reply⟩
  · rintro ⟨proof, ⟨nonce, binding, decoded, length⟩, verified, reply⟩
    exact ⟨nonce, binding, ⟨proof, decoded, length, (constantTimeEq_iff _ _).mp verified⟩, reply⟩

/-- The RFC's verdict is about the texts that were sent, however they are read as
messages. -/
theorem rfcAccepts_sent_iff {first : FirstMessage} {final : FinalMessage} {msg proof : Bytes}
    (readFirst : fromUtf8 firstMsg = some first.text) (read : fromUtf8 msg = some final.text)
    (matching : MatchesExchange (serverOf primitives verifier serverNonce first)
      primitives.base64 final.fields proof) (reply : Text) :
    (∃ (first : FirstMessage) (final : FinalMessage),
        fromUtf8 firstMsg = some first.text ∧ fromUtf8 msg = some final.text ∧
          RfcAccepts primitives verifier serverNonce first final reply) ↔
      (serverOf primitives verifier serverNonce first).verifies primitives final.signed proof =
          true ∧
        reply = (serverOf primitives verifier serverNonce first).finalMessage primitives
          final.signed := by
  constructor
  · rintro ⟨other, message, readOther, readMessage, accepts⟩
    obtain ⟨bytes, agrees, verified, answer⟩ := rfcAccepts_iff.mp accepts
    have sameServer : serverOf primitives verifier serverNonce other =
        serverOf primitives verifier serverNonce first :=
      serverOf_eq_of_text_eq (Option.some.inj (readOther.symm.trans readFirst))
    have sameText : message.text = final.text :=
      Option.some.inj (readMessage.symm.trans read)
    rw [sameServer] at agrees verified answer
    rw [fields_eq_of_text_eq sameText] at agrees
    rw [signed_eq_of_text_eq sameText] at verified answer
    have sameProof : bytes = proof :=
      Option.some.inj (agrees.decoded.symm.trans matching.decoded)
    rw [sameProof] at verified
    exact ⟨verified, answer⟩
  · rintro ⟨verified, answer⟩
    exact ⟨first, final, readFirst, read, rfcAccepts_iff.mpr ⟨proof, matching, verified, answer⟩⟩

/-- After any accepted client-first message, the server treats a client-final
message as the RFC has it exactly if the text it rebuilds is as good as the one
that was sent. -/
theorem client_final_meets_rfc_iff_rebuilds_safely
    (accepted : (ScramServer.new verifier).onClientFirst primitives (some serverNonce) firstMsg =
      .ok (challenge, server))
    (msg : Bytes) :
    MeetsRfc primitives verifier serverNonce firstMsg server msg ↔
      RebuildsSafely server primitives msg := by
  obtain ⟨first, readFirst, rfl⟩ := server_of_accepted accepted
  constructor
  · intro meets text parsed proof read parse matching
    have accepts := fun reply =>
      (onClientFinal_iff_of_read read parse matching reply).symm.trans (meets reply)
    constructor
    · rintro final rfl
      cases parse.symm.trans (parse_text final)
      apply sameSignature_iff.mpr
      intro reply
      exact (accepts reply).trans (rfcAccepts_sent_iff readFirst read matching reply)
    · intro malformed
      by_contra verified
      rw [Bool.not_eq_false] at verified
      obtain ⟨_, final, _, here, _⟩ := (accepts _).mp ⟨verified, rfl⟩
      exact malformed final (Option.some.inj (read.symm.trans here))
  · intro safe reply
    constructor
    · intro answered
      obtain ⟨text, parsed, proof, read, parse, nonce, binding, decoded, length, verified, same⟩ :=
        onClientFinal_eq_ok_iff.mp answered
      have matching : MatchesExchange _ primitives.base64 parsed proof :=
        ⟨nonce, binding, decoded, length⟩
      obtain ⟨wellFormed, malformed⟩ := safe text parsed proof read parse matching
      by_cases formed : ∃ final : FinalMessage, text = final.text
      · obtain ⟨final, rfl⟩ := formed
        cases parse.symm.trans (parse_text final)
        apply (rfcAccepts_sent_iff readFirst read matching reply).mpr
        exact (sameSignature_iff.mp (wellFormed final rfl) reply).mp ⟨verified, same⟩
      · rw [malformed fun final text => formed ⟨final, text⟩] at verified
        cases verified
    · rintro ⟨other, final, readOther, read, accepts⟩
      obtain ⟨proof, matching, _⟩ := rfcAccepts_iff.mp accepts
      have sameServer : serverOf primitives verifier serverNonce other =
          serverOf primitives verifier serverNonce first :=
        serverOf_eq_of_text_eq (Option.some.inj (readOther.symm.trans readFirst))
      rw [sameServer] at matching
      have parse := parse_text final
      have same := (safe final.text final.fields proof read parse matching).1 final rfl
      rw [onClientFinal_iff_of_read read parse matching, sameSignature_iff.mp same reply]
      exact (rfcAccepts_sent_iff readFirst read matching reply).mp
        ⟨other, final, readOther, read, accepts⟩

/-- After any accepted client-first message, the server treats a client-final
message as the RFC has it, whatever the hash functions are, exactly if the message
carries nothing but the three attributes or they do not match the exchange. -/
theorem client_final_meets_rfc_iff_sent_plain
    (accepted : (ScramServer.new verifier).onClientFirst primitives (some serverNonce) firstMsg =
      .ok (challenge, server))
    (msg : Bytes) :
    (∀ hmacSha256 sha256, MeetsRfc ⟨primitives.base64, hmacSha256, sha256⟩ verifier serverNonce
        firstMsg server msg) ↔
      SentPlain server primitives.base64 msg := by
  have meets : ∀ hmacSha256 sha256, MeetsRfc ⟨primitives.base64, hmacSha256, sha256⟩ verifier
      serverNonce firstMsg server msg ↔
        RebuildsSafely server ⟨primitives.base64, hmacSha256, sha256⟩ msg := by
    intro hmacSha256 sha256
    apply client_final_meets_rfc_iff_rebuilds_safely
    exact accepted
  constructor
  · intro always
    exact sentPlain_of_rebuildsSafely fun hmacSha256 sha256 =>
      (meets hmacSha256 sha256).mp (always hmacSha256 sha256)
  · intro plain hmacSha256 sha256
    exact (meets hmacSha256 sha256).mpr (rebuildsSafely_of_sentPlain plain)

end Exchange

/-- A proof of 32 zero bytes, which verifies where all keys are zero. -/
def zeroProof : Text :=
  List.replicate 43 'A' ++ ['=']

/-- `c=biws,r=abcxyz,p=` with that proof. -/
def plainFinal : Text :=
  "c=biws,r=abcxyz,p=".toList ++ zeroProof

/-- A plain message that the server accepts, where the theorem says that it follows the
RFC. -/
theorem plain_message_meets_rfc :
    ∃ (primitives : Primitives) (verifier : ScramVerifier) (challenge : Text)
      (server : ScramServer) (reply : Text),
      (ScramServer.new verifier).onClientFirst primitives (some "xyz".toList)
          (asBytes "n,,n=user,r=abc".toList) = .ok (challenge, server) ∧
        server.onClientFinal primitives (asBytes plainFinal) = .ok reply ∧
        MeetsRfc primitives verifier "xyz".toList (asBytes "n,,n=user,r=abc".toList) server
          (asBytes plainFinal) := by
  let primitives : Primitives :=
    ⟨Base64.standard, fun _ _ => ⟨List.replicate 32 0, rfl⟩, fun _ => ⟨List.replicate 32 0, rfl⟩⟩
  let verifier : ScramVerifier := ⟨4096, [1, 2, 3], List.replicate 32 0, List.replicate 32 0⟩
  let server : ScramServer := ⟨verifier, "abcxyz".toList, "n=user,r=abc".toList,
    "r=abcxyz,s=AQID,i=4096".toList, "n,,".toList⟩
  have accepted : (ScramServer.new verifier).onClientFirst primitives (some "xyz".toList)
      (asBytes "n,,n=user,r=abc".toList) = .ok ("r=abcxyz,s=AQID,i=4096".toList, server) := by
    rw [ScramServer.onClientFirst, fromUtf8_asBytes]
    decide +kernel
  have verified : server.onClientFinal primitives (asBytes plainFinal) =
      .ok (attrVal 'v' zeroProof) := by
    rw [ScramServer.onClientFinal, fromUtf8_asBytes]
    decide +kernel
  refine ⟨primitives, verifier, _, server, _, accepted, verified, ?_⟩
  apply (client_final_meets_rfc_iff_sent_plain accepted (asBytes plainFinal)).mpr
  intro text parsed proof read _ _ _
  rw [fromUtf8_asBytes] at read
  exact ⟨⟨"biws".toList, "abcxyz".toList, [], zeroProof, by decide, by decide, by simp⟩,
    by rw [← Option.some.inj read]; decide +kernel, rfl⟩

/-- An honest client is turned away for an extension in its final message. -/
theorem extension_turned_away :
    ∃ (primitives : Primitives) (verifier : ScramVerifier) (challenge : Text)
      (server : ScramServer) (msg : Bytes) (reply : Text),
      (ScramServer.new verifier).onClientFirst primitives (some "xyz".toList)
          (asBytes "n,,n=user,r=abc".toList) = .ok (challenge, server) ∧
        (∃ (first : FirstMessage) (final : FinalMessage),
          fromUtf8 (asBytes "n,,n=user,r=abc".toList) = some first.text ∧
            fromUtf8 msg = some final.text ∧
            RfcAccepts primitives verifier "xyz".toList first final reply) ∧
        server.onClientFinal primitives msg = .error .authFailed ∧
        ¬ MeetsRfc primitives verifier "xyz".toList (asBytes "n,,n=user,r=abc".toList) server
          msg := by
  let signed : Text := "n=user,r=abc,r=abcxyz,s=AQID,i=4096,c=biws,r=abcxyz,x=1".toList
  let clientProof : Text := "AAAAAAAAAAAAAAAAAAAAAAAAAAAAAAAAAAAAAAAAAAA=".toList
  let zeros : Digest := ⟨List.replicate 32 0, rfl⟩
  let ones : Digest := ⟨List.replicate 32 1, rfl⟩
  -- the client key is zero, and so is its signature of the text that it sends
  let primitives : Primitives := ⟨Base64.standard,
    fun _ text => if text = asBytes signed then zeros else ones,
    fun key => if key = zeros.bytes then ones else zeros⟩
  let verifier : ScramVerifier := ⟨4096, [1, 2, 3], ones.bytes, ones.bytes⟩
  let server : ScramServer := ⟨verifier, "abcxyz".toList, "n=user,r=abc".toList,
    "r=abcxyz,s=AQID,i=4096".toList, "n,,".toList⟩
  let first : FirstMessage := ⟨'n', [], "n=user,r=abc".toList, "abc".toList, .inl rfl, by simp,
    ⟨["n=user".toList], [], by decide +kernel, by simp⟩, by decide⟩
  let final : FinalMessage := ⟨"biws".toList, "abcxyz".toList, ["x=1".toList], clientProof,
    by decide +kernel, by decide +kernel, by
      intro part member
      rw [List.mem_singleton.mp member]
      exact ⟨⟨'x', ['1'], rfl, by decide, by decide, by decide⟩, by decide⟩⟩
  have accepted : (ScramServer.new verifier).onClientFirst primitives (some "xyz".toList)
      (asBytes "n,,n=user,r=abc".toList) = .ok ("r=abcxyz,s=AQID,i=4096".toList, server) := by
    rw [ScramServer.onClientFirst, fromUtf8_asBytes]
    decide +kernel
  have turnedAway : server.onClientFinal primitives (asBytes final.text) = .error .authFailed := by
    rw [ScramServer.onClientFinal, fromUtf8_asBytes]
    decide +kernel
  have readFirst : fromUtf8 (asBytes "n,,n=user,r=abc".toList) = some first.text :=
    fromUtf8_asBytes _
  have read : fromUtf8 (asBytes final.text) = some final.text := fromUtf8_asBytes _
  have due : RfcAccepts primitives verifier "xyz".toList first final
      (attrVal 'v' (Base64.encode zeros.bytes)) :=
    ⟨rfl, by decide +kernel, ⟨zeros.bytes, by decide +kernel, rfl, by decide +kernel⟩,
      by decide +kernel⟩
  refine ⟨primitives, verifier, _, server, asBytes final.text, _, accepted,
    ⟨first, final, readFirst, read, due⟩, turnedAway, ?_⟩
  intro meets
  have answered := (meets _).mpr ⟨first, final, readFirst, read, due⟩
  rw [turnedAway] at answered
  cases answered

end PgTransport.Properties
