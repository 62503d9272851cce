import PgTransport.Wire.Types

/-!
# `with_xact`: the transaction bracket of the direct path

`withXact` brackets a body between `StartTransactionCommand` and
`CommitTransactionCommand`.  The commit runs outside the `catch_unwind`, so an
error it raises unwinds out of the bracket.
-/

namespace PgTransport.Backend

open PgTransport.Computation
open PgTransport.Postgres
open PgTransport.Wire

variable {E : Type} {α : Type}

/-- `PushActiveSnapshot(GetTransactionSnapshot())` where a snapshot is needed. -/
def pushIfNeeded (needsSnapshot : Bool) : PgM E Unit :=
  if needsSnapshot then pushTransactionSnapshot else pure ()

/-- `PopActiveSnapshot` where a snapshot was pushed. -/
def popIfNeeded (needsSnapshot : Bool) : PgM E Unit :=
  if needsSnapshot then popActiveSnapshot else pure ()

/-- `with_xact`.  `finish` is the error that the closing
`CommitTransactionCommand` raises, if any. -/
def withXact (needsSnapshot : Bool) (finish : Option ErrorReport)
    (body : PgM E (PgWireResult α)) : PgM E (PgWireResult α) := do
  startTransactionCommand
  pushIfNeeded needsSnapshot
  let outcome ← Comp.catchUnwind body
  match outcome with
  | .ok (.ok value) => do
      popIfNeeded needsSnapshot
      commitTransactionCommand finish
      pure (.ok value)
  | .ok (.error err) => do
      popIfNeeded needsSnapshot
      commitTransactionCommand finish
      pure (.error err)
  | .error payload => do
      abortCurrentTransaction
      pure (.error (panicToPgwire payload))

end PgTransport.Backend
