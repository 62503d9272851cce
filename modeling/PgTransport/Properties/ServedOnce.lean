import PgTransport.Properties.Deliveries

/-!
# A client is served once

The frontend sends no descriptor twice, and a slot serves each descriptor that it is
sent once at most.  Together, in every run of the frontend and of the loops of its
slots, a client is in the journal of one slot at most, and there once.
-/

namespace PgTransport.Properties

open PgTransport.Pool
open PgTransport.Transition

theorem mem_sentTo {sent : List (Nat × Nat)} {call id : Nat} :
    call ∈ sentTo sent id ↔ (call, id) ∈ sent := by
  simp [sentTo]

theorem nodup_sentTo {sent : List (Nat × Nat)} (nodup : (sent.map Prod.fst).Nodup) (id : Nat) :
    (sentTo sent id).Nodup := by
  rw [sentTo, List.nodup_reverse]
  exact nodup.sublist (List.filter_sublist.map _)

/-- In every run the clients that are served, by whatever slot, are calls whose
descriptors were sent there, each of them once. -/
theorem clients_served_once {loops : SocketLoops} (reached : Reachable socketLoops loops) :
    (loops.slots.flatMap fun slot => slot.journal.filterMap LoopAction.client).Nodup ∧
      ∀ (id : Nat) (slot : SlotLoop), loops.slots[id]? = some slot →
        ∀ call ∈ slot.journal.filterMap LoopAction.client,
          (call, id) ∈ loops.sent ∧ call < loops.dispatch.handoffs := by
  obtain ⟨⟨_, addressed, images, _, rfl⟩, posted⟩ := posted_invariant.reachable reached
  have placed : ∀ (id : Nat) (slot : SlotLoop), loops.slots[id]? = some slot →
      slot.journal.filterMap LoopAction.client <+: sentTo loops.sent id := by
    intro id slot there
    obtain ⟨packets, ⟨events, run, rfl⟩, here⟩ := posted id slot there
    obtain ⟨_, inOrder, _⟩ := (tallies_of_run run).1.tells
    exact here.handedOver ▸ inOrder
  have nodup : (loops.sent.map Prod.fst).Nodup := by
    have dealt := addressed.dealt.nodup
    rw [calls, List.nodup_append, List.nodup_append] at dealt
    exact dealt.2.1.2.1
  constructor
  · rw [List.nodup_flatMap]
    constructor
    · intro slot member
      obtain ⟨id, there⟩ := List.mem_iff_getElem?.mp member
      exact (nodup_sentTo nodup id).sublist (placed id slot there).sublist
    · rw [List.pairwise_iff_getElem]
      intro first second inFirst inSecond apart call served again
      have here := (placed first _ (List.getElem?_eq_getElem inFirst)).subset served
      have there := (placed second _ (List.getElem?_eq_getElem inSecond)).subset again
      rw [mem_sentTo] at here there
      have same := List.inj_on_of_nodup_map nodup here there rfl
      exact absurd (congrArg Prod.snd same) (Nat.ne_of_lt apart)
  · intro id slot there call served
    have sent := mem_sentTo.mp ((placed id slot there).subset served)
    refine ⟨sent, addressed.dealt.below call ?_⟩
    rw [calls]
    exact List.mem_append_right _
      (List.mem_append_right _ (List.mem_map_of_mem (f := Prod.fst) sent))

theorem firstServed_once :
    (firstServed.slots.flatMap fun slot => slot.journal.filterMap LoopAction.client).Nodup ∧
      ∀ (id : Nat) (slot : SlotLoop), firstServed.slots[id]? = some slot →
        ∀ call ∈ slot.journal.filterMap LoopAction.client,
          (call, id) ∈ firstServed.sent ∧ call < firstServed.dispatch.handoffs :=
  clients_served_once ⟨.start, firstClient, rfl, run_of_foldlM (fun _ _ _ _ step => step)
    (rfl : firstClient.foldlM SocketLoops.step .start = some firstServed)⟩

end PgTransport.Properties
