import PgTransport.Auth.Startup

/-!
# Connections without a proof

A connection is let in without a proof where the catalog says that there is
nothing to prove: for a role without a password, and for a role that it does not
list.  A credential of another format and a failed lookup are turned away.
-/

namespace PgTransport.Properties

open PgTransport.Auth

/-- The handler lets the connection in and has checked no proof. -/
def AcceptsWithoutProof (library : Library) (connection : Connection) (delivery : Delivery) :
    Prop :=
  .accept ∈ (onStartup library connection delivery).actions ∧
    ∀ server data, .onClientFinal server data ∉ (onStartup library connection delivery).actions

/-- The handler turns the connection away, or it does not return at all. -/
def TurnsAway (library : Library) (connection : Connection) (delivery : Delivery) : Prop :=
  (∃ outcome, (onStartup library connection delivery).actions = [.reject outcome]) ∨
    (onStartup library connection delivery).actions = [] ∧
      (onStartup library connection delivery).returned = .unwinds

section Lookup

variable {library : Library} {connection : Connection} {environment : Environment}
  {startup : StartupMessage}

theorem acceptsWithoutProof_iff_findsOpen {delivery : Delivery} :
    AcceptsWithoutProof library connection delivery ↔
      ∃ startup, delivery.message = .startup startup ∧
        LooksUp library connection delivery.environment startup ∧
        FindsOpen (startupLookup library connection delivery.environment startup) := by
  constructor
  · rintro ⟨accepts, unchecked⟩
    rcases occasion accepts with opened | ⟨server, msg, phase, message, proves⟩
    · exact opened
    · obtain ⟨data, _, response, _⟩ := proves
      obtain ⟨_, environment⟩ := delivery
      cases message
      exact absurd (checks_of_response phase response) (unchecked server data)
  · rintro ⟨startup, message, ⟨negotiates, database⟩, found⟩
    obtain ⟨_, environment⟩ := delivery
    cases message
    dsimp only at negotiates found
    have actions : (handleStartup library connection environment startup).actions =
        [.accept] := by
      rcases found with found | found <;>
        simp [handleStartup, negotiates, database, found, accept]
    rw [AcceptsWithoutProof, onStartup, actions]
    simp

theorem turnsAway_of_lookup (looksUp : LooksUp library connection environment startup)
    (found : startupLookup library connection environment startup = none ∨
      startupLookup library connection environment startup = some .unsupported ∨
      ∃ hex, startupLookup library connection environment startup = some (.md5 hex)) :
    TurnsAway library connection ⟨.startup startup, environment⟩ := by
  rcases found with found | found | ⟨hex, found⟩
  · exact .inr (by simp [onStartup, handleStartup, looksUp.1, looksUp.2, found])
  · exact .inl (by simp [onStartup, handleStartup, looksUp.1, looksUp.2, found, reject])
  · exact .inl (by simp [onStartup, handleStartup, looksUp.1, looksUp.2, found, reject])

end Lookup

/-- A connection is let in without a proof exactly by a startup message for the
slots' database whose lookup gets an answer, and this answer is that the role is
missing or has no password.  Where the lookup fails, or the role has a password
that is no well-formed SCRAM verifier, the connection is turned away. -/
theorem accepts_without_proof_iff_no_password (library : Library) (connection : Connection)
    (delivery : Delivery) :
    (AcceptsWithoutProof library connection delivery ↔
      ∃ startup, delivery.message = .startup startup ∧
        LooksUp library connection delivery.environment startup ∧
        delivery.environment.catalog.Answers (startupUser library connection startup) ∧
        (delivery.environment.catalog.pgAuthid (startupUser library connection startup) = none ∨
          delivery.environment.catalog.pgAuthid (startupUser library connection startup) =
            some none)) ∧
    ∀ startup, delivery.message = .startup startup →
      LooksUp library connection delivery.environment startup →
      (¬delivery.environment.catalog.Answers (startupUser library connection startup) ∨
        ∃ text, delivery.environment.catalog.pgAuthid (startupUser library connection startup) =
          some (some text) ∧
          ∀ verifier, parseVerifier library.primitives.base64 text ≠ .scram verifier) →
      TurnsAway library connection delivery := by
  constructor
  · rw [acceptsWithoutProof_iff_findsOpen]
    exact exists_congr fun startup => and_congr_right fun _ => and_congr_right fun _ =>
      lookup_open_iff _ _ _
  · obtain ⟨message, environment⟩ := delivery
    rintro startup rfl looksUp closed
    apply turnsAway_of_lookup looksUp
    rcases lookup_cases library.primitives.base64 environment.catalog
        ⟨startupUser library connection startup, startupDatabase library connection startup⟩ with
      ⟨answers, found⟩ | ⟨_, found | found⟩
    · rcases closed with silent | ⟨text, stored, noScram⟩
      · exact absurd answers silent
      · obtain ⟨noNone, noUnknown⟩ := parseVerifier_stored library.primitives.base64 text
        rw [startupLookup, found, stored]
        cases parsed : parseVerifier library.primitives.base64 text with
        | none => exact absurd parsed noNone
        | unknownRole => exact absurd parsed noUnknown
        | scram verifier => exact absurd parsed (noScram verifier)
        | md5 hex => exact .inr (.inr ⟨hex, congrArg some parsed⟩)
        | unsupported => exact .inr (.inl (congrArg some parsed))
    · exact .inr (.inl found)
    · exact .inl found

/-- A role that the catalog does not list is let in. -/
theorem unknown_role_accepted :
    ¬∀ (library : Library) (connection : Connection) (delivery : Delivery)
        (startup : StartupMessage), delivery.message = .startup startup →
      AcceptsWithoutProof library connection delivery →
        delivery.environment.catalog.pgAuthid (startupUser library connection startup) =
          some none := by
  intro claim
  let startup : StartupMessage := ⟨[("user", "nobody".toList), ("database", "postgres".toList)]⟩
  let environment : Environment := ⟨true, ⟨fun _ => none, none, true, true⟩, none, true, true⟩
  have row := claim plainLibrary .fresh ⟨.startup startup, environment⟩ startup rfl
    ⟨by decide, by
      have actions : (onStartup plainLibrary .fresh ⟨.startup startup, environment⟩).actions =
          [.accept] := by decide
      simp [actions]⟩
  cases row

end PgTransport.Properties
