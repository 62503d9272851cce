import PgTransport.Properties.CeilingReload

/-!
# A lowered ceiling and the slots in flight

A reload marks no slot in flight, and a slot whose session ends becomes ready
whatever the ceiling is.  The slots that are not draining go down to a lowered
ceiling in exactly the runs in which no session ends while they are above it, and
no slot is accepted while they have reached it.
-/

open scoped List

namespace PgTransport.Properties

open PgTransport.Pool
open PgTransport.Transition

/-- A step that reads the ceiling reads `max`. -/
def CeilingStays (max : Nat) : SocketEvent → Prop
  | .handoff limit _ | .sighupReconcile limit _ => limit = max
  | _ => True

/-- The slot in flight whose `ready` a step processes, if it was sent a descriptor
before: its session has ended. -/
def sessionEnded (sockets : Sockets) : SocketEvent → Option Nat
  | .reads id _ =>
      match sockets.slots[id]?.bind SlotProcess.read with
      | some (.ready, _) =>
          if id ∈ sockets.pool.inFlight.ids ∧ id ∈ sockets.sent.map Prod.snd then
            some id
          else
            none
      | _ => none
  | _ => none

/-- How many sessions end along these steps. -/
def sessionsEnded (sockets : Sockets) : List SocketEvent → Nat
  | [] => 0
  | event :: events =>
      (if sessionEnded sockets event = none then 0 else 1) +
        match sockets.step event with
        | some next => sessionsEnded next events
        | none => 0

/-- A slot whose session ends above the ceiling is drained. -/
def Drained (max : Nat) (source : Sockets) (event : SocketEvent) (target : Sockets) : Prop :=
  ∀ id, sessionEnded source event = some id → max < nonDraining source →
    id ∈ target.pool.draining.ids

/-- The slots that are not draining do not become more than the ceiling allows. -/
def Shrinks (max : Nat) (source target : Sockets) : Prop :=
  max < nonDraining target → nonDraining target ≤ nonDraining source

/-- No session ends above the ceiling, and no slot is accepted at it. -/
def Undisturbed (max : Nat) (source : Sockets) (event : SocketEvent) : Prop :=
  (sessionEnded source event ≠ none → nonDraining source ≤ max) ∧
    ∀ now, event = .accept now → nonDraining source < max

/-! ## What a step does to the number -/

section Steps

variable {before after : Sockets} {event : SocketEvent} {max : Nat}

theorem undrained_requestDrain_le (frontend : Frontend) (id : Nat) :
    (frontend.requestDrain id).pool.undrained.length ≤ frontend.pool.undrained.length := by
  rcases @PoolState.requestDrain_cases frontend.pool id with unchanged | ⟨_, taken, inFlight⟩
  · exact Nat.le_of_eq (congrArg (fun result => result.1.undrained.length) unchanged)
  · have length := taken.length_eq
    rw [List.length_cons, Slots.length_ids, Slots.length_ids] at length
    rw [PoolState.length_undrained, PoolState.length_undrained]
    change (frontend.pool.requestDrain id).1.ready.length +
      (frontend.pool.requestDrain id).1.inFlight.length ≤ _
    rw [inFlight]
    omega

theorem undrained_requestDrains_le (frontend : Frontend) (ids : List Nat) :
    (frontend.requestDrains ids).pool.undrained.length ≤ frontend.pool.undrained.length := by
  induction ids generalizing frontend with
  | nil => exact Nat.le_refl _
  | cons id ids inductionHypothesis =>
      exact Nat.le_trans (inductionHypothesis (frontend.requestDrain id))
        (undrained_requestDrain_le frontend id)

/-- An accepted slot is one more. -/
theorem nonDraining_accept (prompted : Prompted before) {now : Nat}
    (step : before.step (.accept now) = some after) :
    nonDraining after = nonDraining before + 1 := by
  have formed : before.pool.WellFormed := prompted.lockstep.sound.formed
  cases Sockets.effect_of_step step with
  | @accept dispatch _ _ _ moved =>
      have pool : dispatch.pool = _ := (Dispatch.step_accept moved).1
      rw [nonDraining, Sockets.pool, pool]
      exact (PoolState.undrained_accept formed now).length_eq
  | pops calling => cases calling
  | waits calling => cases calling

/-- No other step makes the slots that are not draining more. -/
theorem nonDraining_le (prompted : Prompted before) (step : before.step event = some after)
    (other : ∀ now, event ≠ .accept now) : nonDraining after ≤ nonDraining before := by
  cases event with
  | accept now => exact absurd rfl (other now)
  | sighupReconcile limit lost =>
      rw [nonDraining_sighupReconcile prompted step]
      exact Nat.le_add_left _ _
  | reapOnce now lost =>
      cases step
      rw [nonDraining, Sockets.pool, Dispatch.pool, Sockets.frontend_requestDrains]
      exact undrained_requestDrains_le _ _
  | stops id now =>
      cases Sockets.effect_of_step step with
      | @stops _ _ dispatch _ moved =>
          have pool : dispatch.pool = _ := (Dispatch.step_reads moved).1
          rw [nonDraining, Sockets.pool, pool]
          exact (PoolState.undrained_cleanupOrphaned id).length_le
      | pops calling => cases calling
      | waits calling => cases calling
  | _ => exact Nat.le_of_eq (nonDraining_steady prompted step trivial)

/-- A slot whose session ends becomes ready. -/
theorem not_draining_of_sessionEnded (prompted : Prompted before) {id : Nat}
    (ended : sessionEnded before event = some id) (step : before.step event = some after) :
    id ∉ after.pool.draining.ids := by
  cases event with
  | reads slot now =>
      cases Sockets.effect_of_step step with
      | pops calling => cases calling
      | waits calling => cases calling
      | @reads _ _ opcode process next dispatch _ there read moved =>
          have pool : dispatch.pool = _ := (Dispatch.step_reads moved).1
          simp only [sessionEnded, there, Option.bind_some, read] at ended
          cases opcode with
          | drainAck => cases ended
          | ready =>
              simp only at ended
              split at ended
              · next listed =>
                cases ended
                have apart := disjoint_of_wellFormed prompted.lockstep.sound.formed
                rw [Sockets.pool, pool]
                change id ∉ (before.pool.onReady id now).1.draining.ids
                rw [PoolState.draining_onReady]
                exact apart.inFlight_draining id listed.1
              · cases ended
  | _ => cases ended

/-- A step of an undisturbed run meets the ceiling. -/
theorem shrinks_of_undisturbed (prompted : Prompted before) (step : before.step event = some after)
    (undisturbed : Undisturbed max before event) :
    Drained max before event after ∧ Shrinks max before after := by
  constructor
  · intro id ended above
    have below := undisturbed.1 (by rw [ended]; exact Option.some_ne_none id)
    exact absurd above (Nat.not_lt.mpr below)
  · intro above
    by_cases accepts : ∃ now, event = .accept now
    · obtain ⟨now, rfl⟩ := accepts
      have room := undisturbed.2 now rfl
      have more := nonDraining_accept prompted step
      omega
    · exact nonDraining_le prompted step fun now same => accepts ⟨now, same⟩

/-- A step that meets the ceiling does not disturb it. -/
theorem undisturbed_of_shrinks (prompted : Prompted before) (step : before.step event = some after)
    (drained : Drained max before event after) (shrinks : Shrinks max before after) :
    Undisturbed max before event := by
  constructor
  · intro ends
    obtain ⟨id, ended⟩ := Option.ne_none_iff_exists'.mp ends
    by_contra above
    exact not_draining_of_sessionEnded prompted ended step
      (drained id ended (Nat.lt_of_not_le above))
  · rintro now rfl
    have more := nonDraining_accept prompted step
    by_contra full
    have fewer := shrinks (by omega)
    omega

end Steps

/-! ## Runs below a lowered ceiling -/

/-- Once the ceiling is met it stays met, and before that no session has ended. -/
theorem met_or_none_ended {max : Nat} {source target : Sockets} {events : List SocketEvent}
    (run : RunWith sockets (fun source event _ => Undisturbed max source event)
      source events target) (prompted : Prompted source) :
    nonDraining target ≤ max ∨
      sessionsEnded source events = 0 ∧ max < nonDraining source ∧
        nonDraining target ≤ nonDraining source := by
  induction run with
  | nil state =>
      rcases Nat.lt_or_ge max (nonDraining state) with above | below
      · exact .inr ⟨rfl, above, Nat.le_refl _⟩
      · exact .inl below
  | @cons source middle target event events step undisturbed _ inductionHypothesis =>
      have shrinks := (shrinks_of_undisturbed prompted step undisturbed).2
      rcases inductionHypothesis (prompted_step prompted step) with met | ⟨unended, above, fewer⟩
      · exact .inl met
      · right
        have less := shrinks above
        have exceeded : max < nonDraining source := Nat.lt_of_lt_of_le above less
        have serves : sessionEnded source event = none := by
          by_contra ends
          exact absurd exceeded (Nat.not_lt.mpr (undisturbed.1 ends))
        have next : source.step event = some middle := step
        have never : sessionsEnded source (event :: events) = 0 := by
          rw [sessionsEnded, serves, next, if_pos rfl, Nat.zero_add]
          exact unended
        exact ⟨never, exceeded, Nat.le_trans fewer less⟩

/-- In every run in which the ceiling stays, behind a reload in any reachable state:
each slot whose session ends above the ceiling is drained, the slots that are not
draining become no more above it, and they have come down to it once as many sessions
have ended as slots were in excess, exactly if no session ends while they are above
the ceiling and no slot is accepted while they have reached it. -/
theorem lowered_ceiling_met_iff_undisturbed (max : Nat) (lost : List Nat)
    (state lowered target : Sockets) (events : List SocketEvent)
    (reached : Reachable sockets state)
    (reconciled : state.step (.sighupReconcile max lost) = some lowered) :
    (RunWith sockets (fun source event target => CeilingStays max event ∧
          Drained max source event target ∧ Shrinks max source target) lowered events target ∧
        (nonDraining lowered - max ≤ sessionsEnded lowered events → nonDraining target ≤ max)) ↔
      RunWith sockets (fun source event _ => CeilingStays max event ∧
        Undisturbed max source event) lowered events target := by
  have prompted := prompted_step (prompted_invariant.reachable reached) reconciled
  constructor
  · rintro ⟨run, _⟩
    refine run.strengthen (fun _ _ _ here step _ => prompted_step here step) ?_ prompted
    rintro _ _ _ here step ⟨stays, drained, shrinks⟩
    exact ⟨stays, undisturbed_of_shrinks here step drained shrinks⟩
  · intro run
    constructor
    · refine run.strengthen (fun _ _ _ here step _ => prompted_step here step) ?_ prompted
      rintro _ _ _ here step ⟨stays, undisturbed⟩
      exact ⟨stays, shrinks_of_undisturbed here step undisturbed⟩
    · intro ended
      have calm : RunWith sockets (fun source event _ => Undisturbed max source event)
          lowered events target :=
        run.strengthen (fun _ _ _ here step _ => prompted_step here step)
          (fun _ _ _ _ _ meets => meets.2) prompted
      rcases met_or_none_ended calm prompted with met | ⟨unended, above, _⟩
      · exact met
      · rw [unended] at ended
        omega

/-- Both slots serve a client. -/
def bothServing : Sockets where
  dispatch := ⟨⟨⟨[], [(0, ⟨1⟩), (1, ⟨1⟩)], [], 2, false⟩, [1, 0], []⟩, .idle, 2, 0, []⟩
  slots :=
    [⟨.serving 0, [], [], false, false, false⟩, ⟨.serving 1, [], [], false, false, false⟩]
  sending := []
  sent := [(1, 1), (0, 0)]

theorem bothServing_reached : Reachable sockets bothServing :=
  ⟨.start, [.handoff 2 true, .handoff 2 true, .connects, .connects, .accept 0, .accept 0,
    .slot 0 .announces, .slot 1 .announces, .reads 0 1, .reads 1 1, .poll 0 false, .poll 1 false,
    .sends 0 0 true, .sends 1 1 true, .slot 0 .receives, .slot 1 .receives], rfl,
    .cons rfl trivial (.cons rfl trivial (.cons rfl trivial (.cons rfl trivial (.cons rfl trivial
      (.cons rfl trivial (.cons rfl trivial (.cons rfl trivial (.cons rfl trivial
        (.cons rfl trivial (.cons rfl trivial (.cons rfl trivial (.cons rfl trivial
          (.cons rfl trivial (.cons rfl trivial (.cons rfl trivial (.nil _))))))))))))))))⟩

/-- One slot serves the client whose session ends after the other has gone. -/
def oneServed : Sockets where
  dispatch := ⟨⟨⟨[(1, ⟨3⟩)], [], [], 2, false⟩, [1], []⟩, ⟨true, [], []⟩, 2, 0, []⟩
  slots := [⟨.exited, [], [], true, true, false⟩, ⟨.waiting, [], [], false, false, false⟩]
  sending := []
  sent := [(1, 1), (0, 0)]

theorem oneServed_meets :
    nonDraining bothServing - 1 ≤
        sessionsEnded bothServing
          [.slot 0 .exits, .stops 0 2, .slot 1 .announces, .reads 1 3] ∧
      nonDraining oneServed ≤ 1 := by
  have enough : nonDraining bothServing - 1 ≤ sessionsEnded bothServing
      [.slot 0 .exits, .stops 0 2, .slot 1 .announces, .reads 1 3] := by decide
  have run : RunWith sockets (fun source event _ => CeilingStays 1 event ∧
      Undisturbed 1 source event) bothServing
      [.slot 0 .exits, .stops 0 2, .slot 1 .announces, .reads 1 3] oneServed :=
    .cons rfl ⟨trivial, by decide, by simp⟩ (.cons rfl ⟨trivial, by decide, by simp⟩
      (.cons rfl ⟨trivial, by decide, by simp⟩ (.cons rfl ⟨trivial, by decide, by simp⟩ (.nil _))))
  have met := (lowered_ceiling_met_iff_undisturbed 1 [] bothServing bothServing oneServed _
    bothServing_reached rfl).mpr run
  exact ⟨enough, met.2 enough⟩

/-- A slot whose session ends above the lowered ceiling becomes ready. -/
theorem ended_session_stays :
    ¬∀ (max : Nat) (lost : List Nat) (state lowered target : Sockets)
        (events : List SocketEvent), Reachable sockets state → max < state.pool.total →
      state.step (.sighupReconcile max lost) = some lowered →
      RunWith sockets (fun _ event _ => CeilingStays max event) lowered events target →
      RunWith sockets (fun source event target => Drained max source event target ∧
          Shrinks max source target) lowered events target ∧
        (nonDraining lowered - max ≤ sessionsEnded lowered events →
          nonDraining target ≤ max) := by
  intro claimed
  have run : RunWith sockets (fun _ event _ => CeilingStays 1 event) bothServing
      [.slot 0 .announces, .reads 0 2] _ :=
    .cons rfl trivial (.cons rfl trivial (.nil _))
  have met := (claimed 1 [] _ _ _ _ bothServing_reached (by decide) rfl run).2 (by decide)
  exact absurd met (by decide)

end PgTransport.Properties
