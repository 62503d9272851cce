import Mathlib.Data.List.Basic

/-!
# The certificate and the key of a slot

`tls::build` and what it reads: the two settings and the files that they name.  How a
certificate or a key is read from a file, and what a server can be configured with,
is the libraries' part.
-/

namespace PgTransport.Wire

/-- `io::ErrorKind`, by the kinds that the code names. -/
inductive ErrorKind where
  | notFound
  | connectionRefused
  | invalidInput
  | invalidData
  | other
  | unnamed (code : Nat)
  deriving DecidableEq, Repr

/-- An `io::Error` by its kind and how it is displayed. -/
structure IoFailure where
  kind : ErrorKind
  text : String
  deriving DecidableEq, Repr

/-- The settings that name the two files. -/
structure TlsSettings where
  tlsCertFile : Option String
  tlsKeyFile : Option String
  deriving DecidableEq, Repr

/-- `tls_files`. -/
def tlsFiles (settings : TlsSettings) : Except String (Option (String × String)) :=
  let cert := settings.tlsCertFile.getD ""
  let key := settings.tlsKeyFile.getD ""
  match cert.isEmpty, key.isEmpty with
  | true, true => .ok none
  | false, false => .ok (some (cert, key))
  | true, false =>
      .error "pg_transport.tls_key_file is set but pg_transport.tls_cert_file is not"
  | false, true =>
      .error "pg_transport.tls_cert_file is set but pg_transport.tls_key_file is not"

/-- What the libraries do: the certificates and the keys that they find in a file, one
result each, and the acceptor that they make of a chain and its key. -/
structure TlsLibrary (File Certificate Key Acceptor : Type) where
  certs : File → List (Except IoFailure Certificate)
  pkcs8PrivateKeys : File → List (Except IoFailure Key)
  withSingleCert : List Certificate → Key → Except String Acceptor

variable {File Certificate Key Acceptor Item : Type}

/-- What is read from a file; it is an error if there is nothing. -/
def readPem (opens : String → Except IoFailure File)
    (items : File → List (Except IoFailure Item)) (path missing : String) :
    Except IoFailure { found : List Item // found ≠ [] } := do
  let file ← (opens path).mapError fun error =>
    ⟨error.kind, "opening " ++ path ++ ": " ++ error.text⟩
  let found ← ((items file).mapM id).mapError fun error =>
    ⟨.invalidData, "parsing " ++ path ++ ": " ++ error.text⟩
  if some : found ≠ [] then
    .ok ⟨found, some⟩
  else
    .error ⟨.invalidData, missing⟩

/-- `build`. -/
def build (library : TlsLibrary File Certificate Key Acceptor) (settings : TlsSettings)
    (opens : String → Except IoFailure File) : Except IoFailure (Option Acceptor) := do
  match ← (tlsFiles settings).mapError (IoFailure.mk .invalidInput) with
  | none => .ok none
  | some (certPath, keyPath) =>
      let certs ← readPem opens library.certs certPath
        ("no certificates found in " ++ certPath)
      let keys ← readPem opens library.pkcs8PrivateKeys keyPath
        ("no PKCS#8 private keys found in " ++ keyPath ++
          " (only PKCS#8 is supported in v0; convert with \x60openssl pkey\x60)")
      let acceptor ← (library.withSingleCert certs.val (keys.val.head keys.property)).mapError
        fun error => ⟨.invalidInput, "rustls cert config: " ++ error⟩
      .ok (some acceptor)

/-- An acceptor that the settings ask for: none if they name no file, and otherwise one
for the chain and the first key that the files held when they were read. -/
inductive Configured (library : TlsLibrary File Certificate Key Acceptor)
    (settings : TlsSettings) (opens : String → Except IoFailure File) :
    Option Acceptor → Prop where
  | clear (unnamed : tlsFiles settings = .ok none) : Configured library settings opens none
  | encrypted {certPath keyPath : String} {certFile keyFile : File}
      {certs : List Certificate} {key : Key} {keys : List Key} {acceptor : Acceptor}
      (named : tlsFiles settings = .ok (some (certPath, keyPath)))
      (openedCert : opens certPath = .ok certFile) (openedKey : opens keyPath = .ok keyFile)
      (chain : (library.certs certFile).mapM id = .ok certs) (some : certs ≠ [])
      (first : (library.pkcs8PrivateKeys keyFile).mapM id = .ok (key :: keys))
      (accepted : library.withSingleCert certs key = .ok acceptor) :
      Configured library settings opens (Option.some acceptor)

section Build

variable {library : TlsLibrary File Certificate Key Acceptor} {settings : TlsSettings}
  {opens : String → Except IoFailure File}

theorem bind_eq_ok_iff {α β ε : Type} {first : Except ε α} {next : α → Except ε β} {value : β} :
    (first >>= next) = .ok value ↔ ∃ middle, first = .ok middle ∧ next middle = .ok value := by
  cases first <;> simp [bind, Except.bind]

theorem mapError_eq_ok_iff {α ε δ : Type} {result : Except ε α} {change : ε → δ} {value : α} :
    result.mapError change = .ok value ↔ result = .ok value := by
  cases result <;> simp [Except.mapError]

/-- What was read was in the file. -/
theorem readPem_ok {items : File → List (Except IoFailure Item)} {path missing : String}
    {found : { found : List Item // found ≠ [] }}
    (read : readPem opens items path missing = .ok found) :
    ∃ file, opens path = .ok file ∧ (items file).mapM id = .ok found.val := by
  obtain ⟨file, opened, parsed⟩ := bind_eq_ok_iff.mp read
  obtain ⟨all, parsed, some⟩ := bind_eq_ok_iff.mp parsed
  refine ⟨file, mapError_eq_ok_iff.mp opened, ?_⟩
  rw [mapError_eq_ok_iff.mp parsed]
  split at some <;> cases some
  rfl

/-- A slot is configured as its settings say, or not at all. -/
theorem configured_of_build {acceptor : Option Acceptor}
    (built : build library settings opens = .ok acceptor) :
    Configured library settings opens acceptor := by
  obtain ⟨named, files, built⟩ := bind_eq_ok_iff.mp built
  replace files := mapError_eq_ok_iff.mp files
  cases named with
  | none =>
      cases built
      exact .clear files
  | some paths =>
      obtain ⟨certs, readCerts, built⟩ := bind_eq_ok_iff.mp built
      obtain ⟨keys, readKeys, built⟩ := bind_eq_ok_iff.mp built
      obtain ⟨made, accepted, built⟩ := bind_eq_ok_iff.mp built
      cases built
      obtain ⟨certFile, openedCert, chain⟩ := readPem_ok readCerts
      obtain ⟨keyFile, openedKey, first⟩ := readPem_ok readKeys
      apply Configured.encrypted files openedCert openedKey chain certs.property _
        (mapError_eq_ok_iff.mp accepted)
      · exact keys.val.tail
      · rw [List.cons_head_tail]
        exact first

/-- The settings alone say whether there is an acceptor. -/
theorem Configured.none_iff {acceptor : Option Acceptor}
    (configured : Configured library settings opens acceptor) :
    acceptor = none ↔ tlsFiles settings = .ok none := by
  cases configured with
  | clear unnamed => exact ⟨fun _ => unnamed, fun _ => rfl⟩
  | encrypted named =>
      rw [named]
      simp

/-- Settings that are refused configure nothing. -/
theorem Configured.tlsFiles_ne_error {acceptor : Option Acceptor}
    (configured : Configured library settings opens acceptor) (text : String) :
    tlsFiles settings ≠ .error text := by
  cases configured with
  | clear unnamed =>
      rw [unnamed]
      simp
  | encrypted named =>
      rw [named]
      simp

end Build

end PgTransport.Wire
