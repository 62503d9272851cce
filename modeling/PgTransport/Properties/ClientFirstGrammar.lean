import PgTransport.Properties.ScramExchange

/-!
# The grammar of client-first messages

The grammar has a name, a nonce and further attributes in that order.  The parser looks
for a flag, for two commas and for the last nonce, wherever it stands, and looks at nothing
else, so that it accepts every message of the grammar and texts outside of it.
-/

namespace PgTransport.Properties

open PgTransport.Auth

/-- An attribute behind the nonce; `m` is reserved for mandatory extensions. -/
def IsFurtherAttribute (part : Text) : Prop :=
  ∃ name value, part = attrVal name value ∧ name.isAlpha = true ∧ name ≠ 'm' ∧ value ≠ []

/-- A `client-first-message` without channel binding. -/
structure ClientFirstMessage where
  flag : Char
  authzid : Option Text
  username : Text
  nonce : Text
  further : List Text
  flagged : flag = 'n' ∨ flag = 'y'
  commaFree : (∀ identity ∈ authzid, ',' ∉ identity) ∧ ',' ∉ username ∧ ',' ∉ nonce
  filled : nonce ≠ []
  isAttribute : ∀ part ∈ further, IsFurtherAttribute part ∧ ',' ∉ part

namespace ClientFirstMessage

/-- The identity asked for, or nothing. -/
def authzidPart (message : ClientFirstMessage) : Text :=
  match message.authzid with
  | none => []
  | some identity => attrVal 'a' identity

/-- The parts of `client-first-message-bare`. -/
def bareParts (message : ClientFirstMessage) : List Text :=
  attrVal 'n' message.username :: attrVal 'r' message.nonce :: message.further

/-- The message as it is sent. -/
def text (message : ClientFirstMessage) : Text :=
  message.flag :: ',' :: (message.authzidPart ++ ',' :: [','].intercalate message.bareParts)

end ClientFirstMessage

/-- The parser accepts the text exactly if it is a message of the grammar, splits it and
finds the nonce of the message. -/
def MeetsGrammar (text : Text) : Prop :=
  ((∃ parsed, ClientFirst.parse text = .ok parsed) ↔
    ∃ message : ClientFirstMessage, text = message.text) ∧
  ∀ parsed, ClientFirst.parse text = .ok parsed →
    parsed.gs2Header ++ parsed.bare = text ∧
      ∀ message : ClientFirstMessage, text = message.text → parsed.clientNonce = message.nonce

/-- Where the first part is a flag and the last nonce among the parts behind the second is
not empty, the second part is empty or an identity, and the others are a name, this nonce
and further attributes. -/
def OrderedParts (text : Text) : Prop :=
  ∀ flag authzid rest nonce, splitCommas text = [flag] :: authzid :: rest →
    flag = 'n' ∨ flag = 'y' → IsLast 'r' nonce rest → nonce ≠ [] →
      (authzid = [] ∨ ∃ identity, authzid = attrVal 'a' identity) ∧
        ∃ username further, rest = attrVal 'n' username :: attrVal 'r' nonce :: further ∧
          ∀ part ∈ further, IsFurtherAttribute part

/-! ## Splitting at commas -/

theorem comma_not_mem_of_mem_splitCommas {text part : Text} (member : part ∈ splitCommas text) :
    ',' ∉ part := by
  unfold splitCommas at member
  induction text generalizing part with
  | nil =>
      rw [List.splitOn_nil, List.mem_singleton] at member
      rw [member]
      exact List.not_mem_nil
  | cons char text inductionHypothesis =>
      rw [List.splitOn_cons_eq_if_modifyHead] at member
      split at member
      · rcases List.mem_cons.mp member with rfl | later
        · exact List.not_mem_nil
        · exact inductionHypothesis later
      · next other =>
        cases parts : text.splitOn ',' with
        | nil => exact absurd parts (List.splitOn_ne_nil _ _)
        | cons first rest =>
            rw [parts] at member inductionHypothesis
            rcases List.mem_cons.mp member with rfl | later
            · intro comma
              rcases List.mem_cons.mp comma with same | inside
              · exact other (beq_iff_eq.mpr same.symm)
              · exact inductionHypothesis List.mem_cons_self inside
            · exact inductionHypothesis (List.mem_cons_of_mem _ later)

/-- A header and a body split into the flag, the identity and the parts of the body. -/
theorem splitCommas_header {flag : Char} {authzid bare : Text} (flagFree : flag ≠ ',')
    (free : ',' ∉ authzid) :
    splitCommas (flag :: ',' :: (authzid ++ ',' :: bare)) =
      [flag] :: authzid :: splitCommas bare := by
  have first : ',' ∉ [flag] := by simp [flagFree.symm]
  have outer := List.splitOn_append_cons_self_of_not_mem first (authzid ++ ',' :: bare)
  have inner := List.splitOn_append_cons_self_of_not_mem free bare
  rw [splitCommas, splitCommas, ← inner, ← outer]
  rfl

/-- Parts without commas are the parts of the text that they make up. -/
theorem splitCommas_intercalate {parts : List Text} (free : ∀ part ∈ parts, ',' ∉ part)
    (some : parts ≠ []) : splitCommas ([','].intercalate parts) = parts :=
  List.splitOn_intercalate ',' free some

theorem flag_ne_comma {flag : Char} (flagged : flag = 'n' ∨ flag = 'y') : flag ≠ ',' := by
  rcases flagged with rfl | rfl <;> decide

/-! ## Messages of the grammar -/

namespace ClientFirstMessage

variable (message : ClientFirstMessage)

theorem comma_not_mem_authzidPart : ',' ∉ message.authzidPart := by
  unfold authzidPart
  split
  · exact List.not_mem_nil
  · next identity asked => simpa [attrVal] using message.commaFree.1 identity asked

theorem comma_not_mem_bareParts : ∀ part ∈ message.bareParts, ',' ∉ part := by
  obtain ⟨_, username, nonce⟩ := message.commaFree
  intro part member
  rcases List.mem_cons.mp member with rfl | later
  · simpa [attrVal] using username
  · rcases List.mem_cons.mp later with rfl | further
    · simpa [attrVal] using nonce
    · exact (message.isAttribute part further).2

theorem splitCommas_clientFirst :
    splitCommas message.text = [message.flag] :: message.authzidPart :: message.bareParts := by
  rw [text, splitCommas_header (flag_ne_comma message.flagged) message.comma_not_mem_authzidPart,
    splitCommas_intercalate message.comma_not_mem_bareParts (List.cons_ne_nil _ _)]

/-- Every nonce of a message has a character. -/
theorem nonce_filled {nonce : Text} (member : attrVal 'r' nonce ∈ message.bareParts) :
    nonce ≠ [] := by
  rcases List.mem_cons.mp member with same | later
  · cases same
  · rcases List.mem_cons.mp later with same | further
    · cases same
      exact message.filled
    · obtain ⟨⟨name, value, same, _, _, filled⟩, _⟩ := message.isAttribute _ further
      cases same
      exact filled

/-- A message of the grammar has a last nonce. -/
theorem exists_last_nonce :
    ∃ nonce, IsLast 'r' nonce message.bareParts ∧ nonce ≠ [] := by
  obtain ⟨nonce, found⟩ : ∃ nonce, message.bareParts.foldl
    (fun found part => (stripAttribute 'r' part).getD found) [] = nonce := ⟨_, rfl⟩
  rcases isLast_of_foldl found with last | ⟨_, silent⟩
  · obtain ⟨before, later, split, _⟩ := id last
    refine ⟨nonce, last, message.nonce_filled ?_⟩
    rw [split]
    exact List.mem_append_right _ List.mem_cons_self
  · have none := silent (attrVal 'r' message.nonce) (by simp [bareParts])
    rw [stripAttribute_attrVal] at none
    cases none

end ClientFirstMessage

/-! ## What the parser accepts -/

/-- The parts that the parser looks at make up a text that it accepts. -/
theorem parse_of_parts {text authzid nonce : Text} {flag : Char} {rest : List Text}
    (parts : splitCommas text = [flag] :: authzid :: rest) (flagged : flag = 'n' ∨ flag = 'y')
    (last : IsLast 'r' nonce rest) (filled : nonce ≠ []) :
    ∃ parsed, ClientFirst.parse text = .ok parsed ∧ parsed.clientNonce = nonce := by
  have free : ∀ part ∈ [flag] :: authzid :: rest, ',' ∉ part := by
    intro part member
    exact comma_not_mem_of_mem_splitCommas (parts ▸ member)
  have some : rest ≠ [] := by
    obtain ⟨before, later, rfl, _⟩ := last
    simp
  have bare : splitCommas ([','].intercalate rest) = rest :=
    splitCommas_intercalate (fun part member =>
      free part (List.mem_cons_of_mem _ (List.mem_cons_of_mem _ member))) some
  let message : FirstMessage := ⟨flag, authzid, [','].intercalate rest, nonce, flagged,
    free authzid (List.mem_cons_of_mem _ List.mem_cons_self), bare.symm ▸ last, filled⟩
  have whole : text = message.text := by
    have joined : [','].intercalate (splitCommas text) = text := List.intercalate_splitOn ','
    rw [parts, List.intercalate_cons_cons] at joined
    rw [← joined]
    cases rest with
    | nil => exact absurd rfl some
    | cons first rest =>
        rw [List.intercalate_cons_cons]
        simp [message, FirstMessage.text, FirstMessage.gs2Header]
  exact ⟨message.fields, whole ▸ parse_firstText message, rfl⟩

/-- What the parser accepts consists of such parts. -/
theorem parts_of_parse {text : Text} {parsed : ClientFirst}
    (accepted : ClientFirst.parse text = .ok parsed) :
    parsed.gs2Header ++ parsed.bare = text ∧
      ∃ flag authzid rest, splitCommas text = [flag] :: authzid :: rest ∧
        (flag = 'n' ∨ flag = 'y') ∧ IsLast 'r' parsed.clientNonce rest ∧
        parsed.clientNonce ≠ [] := by
  obtain ⟨message, rfl⟩ := exists_firstMessage accepted
  rw [parse_firstText] at accepted
  cases accepted
  constructor
  · rfl
  · refine ⟨message.flag, message.authzid, splitCommas message.bare, ?_, message.flagged,
      message.nonce, message.filled⟩
    rw [← splitCommas_header (flag_ne_comma message.flagged) message.commaFree]
    simp [FirstMessage.text, FirstMessage.gs2Header]

/-- The last value of an attribute is determined. -/
theorem IsLast.unique {name : Char} {first second : Text} {parts : List Text}
    (one : IsLast name first parts) (other : IsLast name second parts) : first = second :=
  (foldl_last one []).symm.trans (foldl_last other [])

theorem splitCommas_injective : Function.Injective splitCommas := by
  intro first second same
  have joined : [','].intercalate (splitCommas first) = first := List.intercalate_splitOn ','
  rw [same] at joined
  exact joined.symm.trans (List.intercalate_splitOn ',')

/-- Parts in order are those of a message of the grammar. -/
theorem exists_clientFirstMessage {text authzid nonce : Text} {flag : Char} {rest : List Text}
    (ordered : OrderedParts text) (parts : splitCommas text = [flag] :: authzid :: rest)
    (flagged : flag = 'n' ∨ flag = 'y') (last : IsLast 'r' nonce rest) (filled : nonce ≠ []) :
    ∃ message : ClientFirstMessage, text = message.text ∧ message.nonce = nonce := by
  have free : ∀ part ∈ [flag] :: authzid :: rest, ',' ∉ part := by
    intro part member
    exact comma_not_mem_of_mem_splitCommas (parts ▸ member)
  obtain ⟨identity, username, further, rfl, attributes⟩ :=
    ordered flag authzid rest nonce parts flagged last filled
  have authzidFree : ',' ∉ authzid := free authzid (by simp)
  have usernameFree : ',' ∉ attrVal 'n' username := free _ (by simp)
  have nonceFree : ',' ∉ attrVal 'r' nonce := free _ (by simp)
  have furtherFree : ∀ part ∈ further, ',' ∉ part := fun part member => free part (by
    simp [member])
  obtain ⟨asked, same, askedFree⟩ : ∃ asked : Option Text,
      authzid = (match asked with | none => [] | some identity => attrVal 'a' identity) ∧
        ∀ identity ∈ asked, ',' ∉ identity := by
    rcases identity with rfl | ⟨identity, rfl⟩
    · exact ⟨none, rfl, by simp⟩
    · exact ⟨some identity, rfl, by simpa [attrVal] using authzidFree⟩
  let message : ClientFirstMessage := ⟨flag, asked, username, nonce, further, flagged,
    ⟨askedFree, by simpa [attrVal] using usernameFree, by simpa [attrVal] using nonceFree⟩,
    filled, fun part member => ⟨attributes part member, furtherFree part member⟩⟩
  refine ⟨message, splitCommas_injective ?_, rfl⟩
  rw [parts, message.splitCommas_clientFirst, same]
  rfl

/-- A text of the grammar has its parts in order where its last nonce is the one that the
grammar has. -/
theorem orderedParts_of_text {message : ClientFirstMessage}
    (nonce : ∀ nonce, IsLast 'r' nonce message.bareParts → nonce = message.nonce) :
    OrderedParts message.text := by
  intro flag authzid rest found parts _ last _
  rw [message.splitCommas_clientFirst] at parts
  cases parts
  constructor
  · unfold ClientFirstMessage.authzidPart
    split
    · exact .inl rfl
    · exact .inr ⟨_, rfl⟩
  · rw [nonce found last]
    exact ⟨message.username, message.further, rfl,
      fun part member => (message.isAttribute part member).1⟩

/-- The parser meets the grammar on exactly the texts whose parts are in order where it
looks for no more than a flag and a nonce. -/
theorem meets_grammar_iff_ordered (text : Text) : MeetsGrammar text ↔ OrderedParts text := by
  constructor
  · rintro ⟨accepts, reads⟩ flag authzid rest nonce parts flagged last filled
    obtain ⟨parsed, accepted, found⟩ := parse_of_parts parts flagged last filled
    obtain ⟨message, rfl⟩ := accepts.mp ⟨parsed, accepted⟩
    have same := (reads parsed accepted).2 message rfl
    have determined : ∀ other, IsLast 'r' other message.bareParts → other = message.nonce := by
      intro other also
      have split := parts
      rw [message.splitCommas_clientFirst] at split
      cases split
      rw [also.unique last, ← found, same]
    exact orderedParts_of_text determined flag authzid rest nonce parts flagged last filled
  · intro ordered
    constructor
    · constructor
      · rintro ⟨parsed, accepted⟩
        obtain ⟨_, flag, authzid, rest, parts, flagged, last, filled⟩ := parts_of_parse accepted
        obtain ⟨message, same, _⟩ :=
          exists_clientFirstMessage ordered parts flagged last filled
        exact ⟨message, same⟩
      · rintro ⟨message, rfl⟩
        obtain ⟨nonce, last, filled⟩ := message.exists_last_nonce
        obtain ⟨parsed, accepted, _⟩ :=
          parse_of_parts message.splitCommas_clientFirst message.flagged last filled
        exact ⟨parsed, accepted⟩
    · intro parsed accepted
      obtain ⟨whole, flag, authzid, rest, parts, flagged, last, filled⟩ :=
        parts_of_parse accepted
      constructor
      · exact whole
      · rintro message rfl
        obtain ⟨_, username, further, same, _⟩ :=
          ordered flag authzid rest parsed.clientNonce parts flagged last filled
        rw [message.splitCommas_clientFirst] at parts
        cases parts
        have nonces : attrVal 'r' message.nonce = attrVal 'r' parsed.clientNonce :=
          (List.cons.inj (List.cons.inj same).2).1
        simpa [attrVal] using nonces.symm

/-- A text without a name is accepted. -/
theorem nameless_text_accepted :
    ¬∀ text : Text, MeetsGrammar text := by
  intro claimed
  obtain ⟨accepts, _⟩ := claimed "n,,r=abc".toList
  obtain ⟨message, same⟩ := accepts.mp ⟨⟨"n,,".toList, "r=abc".toList, "abc".toList⟩, by decide⟩
  have lengths := congrArg List.length message.splitCommas_clientFirst
  rw [← same, show splitCommas "n,,r=abc".toList = [['n'], [], "r=abc".toList] by decide] at lengths
  simp [ClientFirstMessage.bareParts] at lengths

end PgTransport.Properties
