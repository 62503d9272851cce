import Mathlib.Data.List.Nodup

/-!
# What a backend has handed out

Memory contexts, plans, references to plans and portals are known by numbers that are
drawn once.  A context belongs to the transaction that it was made in or to a value that
deletes it; a plan that is not kept goes with its transaction.  A call on something that is
gone, or that may not be given back yet, is recorded as a fault.
-/

namespace PgTransport.Postgres

/-- What a memory context is deleted with. -/
inductive Owner where
  | transaction
  | value
  deriving DecidableEq, Repr

/-- A memory context with its owner. -/
structure OwnedContext where
  number : Nat
  owner : Owner
  deriving DecidableEq, Repr

/-- A `CachedPlanSource` or an SPI plan, and whether it outlives its transaction. -/
structure PlanEntry where
  number : Nat
  kept : Bool
  deriving DecidableEq, Repr

/-- A call outside the contract of the server. -/
inductive Fault where
  | contextGone
  | contextCurrent
  | planGone
  | planReferenced
  | referenceGone
  | portalGone
  | referenceLeaked
  deriving DecidableEq, Repr

/-- What is handed out.  `current` is the memory context that the process allocates in,
where that is not one of the server's own; `references` are the plans that a
`GetCachedPlan` has returned. -/
structure Resources where
  next : Nat
  current : Option Nat
  contexts : List OwnedContext
  plans : List PlanEntry
  references : List Nat
  portals : List Nat
  faults : List Fault
  deriving DecidableEq, Repr

namespace Resources

/-- Nothing is handed out. -/
def empty : Resources :=
  ⟨0, none, [], [], [], [], []⟩

/-- Record a fault unless the call is within its contract. -/
def demand (within : Bool) (fault : Fault) (resources : Resources) : Resources :=
  if within then resources else { resources with faults := resources.faults ++ [fault] }

/-- The context is there. -/
def hasContext (number : Nat) (resources : Resources) : Bool :=
  resources.contexts.any (·.number == number)

/-- The plan is there. -/
def hasPlan (number : Nat) (resources : Resources) : Bool :=
  resources.plans.any (·.number == number)

/-! ## Memory contexts -/

/-- `AllocSetContextCreateInternal`. -/
def allocSetContextCreate (owner : Owner) (resources : Resources) : Nat × Resources :=
  (resources.next, { resources with
    next := resources.next + 1
    contexts := resources.contexts ++ [⟨resources.next, owner⟩] })

/-- `MemoryContextSwitchTo`. -/
def memoryContextSwitchTo (target : Option Nat) (resources : Resources) :
    Option Nat × Resources :=
  (resources.current,
    { resources.demand (target.all fun number => resources.hasContext number) .contextGone with
      current := target })

/-- `MemoryContextDelete`. -/
def memoryContextDelete (number : Nat) (resources : Resources) : Unit × Resources :=
  let checked := (resources.demand (resources.hasContext number) .contextGone).demand
    (resources.current != some number) .contextCurrent
  ((), { checked with contexts := checked.contexts.filter (·.number != number) })

/-! ## Plans -/

/-- `CreateCachedPlan`, and what `SPI_prepare` makes. -/
def createPlan (resources : Resources) : Nat × Resources :=
  (resources.next, { resources with
    next := resources.next + 1
    plans := resources.plans ++ [⟨resources.next, false⟩] })

/-- `CompleteCachedPlan`: the plan takes over the context of its query. -/
def completeCachedPlan (plan queryCtx : Nat) (resources : Resources) : Unit × Resources :=
  let checked := (resources.demand (resources.hasPlan plan) .planGone).demand
    (resources.hasContext queryCtx) .contextGone
  ((), { checked with contexts := checked.contexts.filter (·.number != queryCtx) })

/-- `SaveCachedPlan` and `SPI_keepplan`. -/
def keepPlan (plan : Nat) (resources : Resources) : Unit × Resources :=
  let checked := resources.demand (resources.hasPlan plan) .planGone
  ((), { checked with plans := checked.plans.map fun entry =>
    if entry.number = plan then { entry with kept := true } else entry })

/-- `DropCachedPlan` and `SPI_freeplan`. -/
def dropPlan (plan : Nat) (resources : Resources) : Unit × Resources :=
  let checked := (resources.demand (resources.hasPlan plan) .planGone).demand
    (!resources.references.contains plan) .planReferenced
  ((), { checked with plans := checked.plans.filter (·.number != plan) })

/-- A plan is executed. -/
def usePlan (plan : Nat) (resources : Resources) : Unit × Resources :=
  ((), resources.demand (resources.hasPlan plan) .planGone)

/-- `GetCachedPlan`, once it has a plan. -/
def getCachedPlan (plan : Nat) (resources : Resources) : Unit × Resources :=
  let checked := resources.demand (resources.hasPlan plan) .planGone
  ((), { checked with references := plan :: checked.references })

/-- `ReleaseCachedPlan`. -/
def releaseCachedPlan (plan : Nat) (resources : Resources) : Unit × Resources :=
  let checked := resources.demand (resources.references.contains plan) .referenceGone
  ((), { checked with references := checked.references.erase plan })

/-! ## Portals -/

/-- `CreatePortal`. -/
def createPortal (resources : Resources) : Nat × Resources :=
  (resources.next, { resources with
    next := resources.next + 1
    portals := resources.next :: resources.portals })

/-- `PortalDefineQuery`, `PortalStart` and `PortalRun`. -/
def usePortal (portal : Nat) (resources : Resources) : Unit × Resources :=
  ((), resources.demand (resources.portals.contains portal) .portalGone)

/-- `PortalDrop`. -/
def portalDrop (portal : Nat) (resources : Resources) : Unit × Resources :=
  let checked := resources.demand (resources.portals.contains portal) .portalGone
  ((), { checked with portals := checked.portals.erase portal })

/-! ## Transactions -/

/-- The server chooses the context to allocate in. -/
def serverContext (resources : Resources) : Unit × Resources :=
  ((), { resources with current := none })

/-- What does not outlive its transaction goes. -/
def withoutTransaction (resources : Resources) : Resources :=
  { resources with
    contexts := resources.contexts.filter (·.owner != .transaction)
    plans := resources.plans.filter (·.kept) }

/-- The commit of a transaction, which warns of references that are left. -/
def commitTransaction (resources : Resources) : Unit × Resources :=
  ((), { (resources.demand resources.references.isEmpty .referenceLeaked).withoutTransaction with
    current := none, references := [], portals := [] })

/-- The commit of a transaction by the command that a portal runs, which leaves the portal
itself alone. -/
def commitInside (resources : Resources) : Unit × Resources :=
  ((), { (resources.demand resources.references.isEmpty .referenceLeaked).withoutTransaction with
    current := none, references := [] })

/-- The abort of a transaction: references and portals go at once, everything else with the
transaction. -/
def abortTransaction (ended : Bool) (resources : Resources) : Unit × Resources :=
  let left := if ended then resources.withoutTransaction else resources
  ((), { left with current := none, references := [], portals := [] })

/-- `SPI_finish`: plans that were not kept go. -/
def spiFinish (resources : Resources) : Unit × Resources :=
  ((), { resources with plans := resources.plans.filter (·.kept) })

end Resources

/-! ## Ledgers -/

/-- What the running code is responsible for: the context that it has made current, the
contexts that it uses in a transaction, those that its values own, the plans that are
kept and those that are not, and its references and portals. -/
structure Ledger where
  current : Option Nat
  scratch : List Nat
  owned : List Nat
  kept : List Nat
  unkept : List Nat
  references : List Nat
  portals : List Nat
  deriving DecidableEq, Repr

/-- Nothing but plans that are kept and contexts of values. -/
def Ledger.quiet (kept owned : List Nat) : Ledger :=
  ⟨none, [], owned, kept, [], [], []⟩

/-- With a context that was made for this owner. -/
def Ledger.listing (ledger : Ledger) (owner : Owner) (number : Nat) : Ledger :=
  match owner with
  | .transaction => { ledger with scratch := number :: ledger.scratch }
  | .value => { ledger with owned := number :: ledger.owned }

/-- The books balance: what is handed out is what the ledger lists, but for contexts that
are left to their transaction, and no call was outside its contract. -/
structure Resources.Matches (resources : Resources) (ledger : Ledger) : Prop where
  current : resources.current = ledger.current
  scratch : ∀ number ∈ ledger.scratch, ⟨number, .transaction⟩ ∈ resources.contexts
  owned : ∀ number, ⟨number, .value⟩ ∈ resources.contexts ↔ number ∈ ledger.owned
  single : (resources.contexts.map OwnedContext.number).Nodup
  drawnContexts : ∀ context ∈ resources.contexts, context.number < resources.next
  plans : ∀ entry, entry ∈ resources.plans ↔
    entry.number ∈ (if entry.kept then ledger.kept else ledger.unkept)
  distinct : (ledger.kept ++ ledger.unkept).Nodup
  drawnPlans : ∀ number ∈ ledger.kept ++ ledger.unkept, number < resources.next
  references : resources.references = ledger.references
  portals : resources.portals = ledger.portals
  faultless : resources.faults = []

namespace Resources.Matches

variable {resources : Resources} {ledger : Ledger}

theorem empty : Resources.empty.Matches (.quiet [] []) := by
  constructor <;> simp [Resources.empty, Ledger.quiet]

@[simp]
theorem demand_eq {within : Bool} {fault : Fault} (holds : within = true) :
    resources.demand within fault = resources := by
  rw [demand, if_pos holds]

theorem hasContext_iff {number : Nat} :
    resources.hasContext number = true ↔ ∃ owner, ⟨number, owner⟩ ∈ resources.contexts := by
  rw [hasContext, List.any_eq_true]
  constructor
  · rintro ⟨⟨_, owner⟩, member, same⟩
    cases beq_iff_eq.mp same
    exact ⟨owner, member⟩
  · rintro ⟨owner, member⟩
    exact ⟨_, member, beq_self_eq_true number⟩

theorem hasPlan_iff {number : Nat} :
    resources.hasPlan number = true ↔ ∃ kept, ⟨number, kept⟩ ∈ resources.plans := by
  rw [hasPlan, List.any_eq_true]
  constructor
  · rintro ⟨⟨_, kept⟩, member, same⟩
    cases beq_iff_eq.mp same
    exact ⟨kept, member⟩
  · rintro ⟨kept, member⟩
    exact ⟨_, member, beq_self_eq_true number⟩

variable (balance : resources.Matches ledger)

include balance

theorem hasPlan_of_kept {number : Nat} (listed : number ∈ ledger.kept) :
    resources.hasPlan number = true :=
  hasPlan_iff.mpr ⟨true, (balance.plans ⟨number, true⟩).mpr listed⟩

theorem hasPlan_of_unkept {number : Nat} (listed : number ∈ ledger.unkept) :
    resources.hasPlan number = true :=
  hasPlan_iff.mpr ⟨false, (balance.plans ⟨number, false⟩).mpr listed⟩

/-- A context is found under one owner only. -/
theorem owner_unique {number : Nat} {first second : Owner}
    (one : ⟨number, first⟩ ∈ resources.contexts) (other : ⟨number, second⟩ ∈ resources.contexts) :
    first = second := by
  have same := List.inj_on_of_nodup_map balance.single one other rfl
  cases same
  rfl

/-! ## Other lists -/

/-- Contexts of the transaction may be left to it. -/
theorem leavingScratch : resources.Matches { ledger with scratch := [] } :=
  { balance with scratch := by simp }

/-! ## Calls on memory contexts -/

theorem serverContext : resources.serverContext.2.Matches { ledger with current := none } :=
  { balance with current := rfl }

theorem allocSetContextCreate (owner : Owner) :
    (resources.allocSetContextCreate owner).2.Matches
      (ledger.listing owner resources.next) where
  current := by cases owner <;> exact balance.current
  scratch := by
    intro number listed
    cases owner with
    | value => exact List.mem_append_left _ (balance.scratch number listed)
    | transaction =>
        rcases List.mem_cons.mp listed with rfl | earlier
        · exact List.mem_append_right _ List.mem_cons_self
        · exact List.mem_append_left _ (balance.scratch number earlier)
  owned := by
    intro number
    cases owner with
    | value =>
        simp [Resources.allocSetContextCreate, Ledger.listing, balance.owned number, or_comm]
    | transaction => simp [Resources.allocSetContextCreate, Ledger.listing, balance.owned number]
  single := by
    simp only [Resources.allocSetContextCreate, List.map_append, List.map_cons, List.map_nil]
    apply List.Nodup.append balance.single (List.nodup_singleton _)
    rw [List.disjoint_singleton]
    intro listed
    obtain ⟨context, member, same⟩ := List.mem_map.mp listed
    exact absurd (balance.drawnContexts context member) (by rw [same]; exact Nat.lt_irrefl _)
  drawnContexts := by
    intro context member
    rcases List.mem_append.mp member with earlier | last
    · exact Nat.lt_succ_of_lt (balance.drawnContexts context earlier)
    · rw [List.mem_singleton.mp last]
      exact Nat.lt_succ_self _
  plans := by cases owner <;> exact balance.plans
  distinct := by cases owner <;> exact balance.distinct
  drawnPlans := by
    intro number listed
    cases owner <;> exact Nat.lt_succ_of_lt (balance.drawnPlans number listed)
  references := by cases owner <;> exact balance.references
  portals := by cases owner <;> exact balance.portals
  faultless := balance.faultless

theorem memoryContextSwitchTo (target : Option Nat)
    (there : ∀ number ∈ target, number ∈ ledger.scratch ∨ number ∈ ledger.owned) :
    (resources.memoryContextSwitchTo target).1 = ledger.current ∧
      (resources.memoryContextSwitchTo target).2.Matches { ledger with current := target } := by
  have within : (target.all fun number => resources.hasContext number) = true := by
    cases target with
    | none => rfl
    | some number =>
        apply hasContext_iff.mpr
        rcases there number rfl with used | owned
        · exact ⟨_, balance.scratch number used⟩
        · exact ⟨_, (balance.owned number).mpr owned⟩
  constructor
  · exact balance.current
  · rw [Resources.memoryContextSwitchTo, demand_eq within]
    exact { balance with current := rfl }

/-- Contexts with another number stay, and keep their order. -/
theorem nodup_filter (keeps : OwnedContext → Bool) :
    ((resources.contexts.filter keeps).map OwnedContext.number).Nodup :=
  balance.single.sublist (List.filter_sublist.map _)

theorem memoryContextDelete {number : Nat} (listed : ledger.owned = [number])
    (other : ledger.current ≠ some number) :
    (resources.memoryContextDelete number).2.Matches
      { ledger with scratch := [], owned := [] } := by
  have there : ⟨number, .value⟩ ∈ resources.contexts :=
    (balance.owned number).mpr (listed ▸ List.mem_singleton_self number)
  have apart : (resources.current != some number) = true := by
    rw [balance.current]
    exact bne_iff_ne.mpr other
  rw [Resources.memoryContextDelete, demand_eq (hasContext_iff.mpr ⟨_, there⟩),
    demand_eq apart]
  exact { balance with
    scratch := by simp
    owned := by
      intro context
      simp only [List.mem_filter, bne_iff_ne, ne_eq, balance.owned context, listed,
        List.mem_singleton, List.not_mem_nil, iff_false, not_and, not_not]
      exact id
    single := balance.nodup_filter _
    drawnContexts := fun context member =>
      balance.drawnContexts context (List.mem_of_mem_filter member) }

/-! ## Calls on plans -/

theorem createPlan :
    resources.createPlan.2.Matches
      { ledger with unkept := resources.next :: ledger.unkept } := by
  have fresh : resources.next ∉ ledger.kept ++ ledger.unkept := fun listed =>
    absurd (balance.drawnPlans _ listed) (Nat.lt_irrefl _)
  exact { balance with
    drawnContexts := fun context member =>
      Nat.lt_succ_of_lt (balance.drawnContexts context member)
    plans := by
      rintro ⟨number, kept⟩
      cases kept with
      | true => simpa [Resources.createPlan] using balance.plans ⟨number, true⟩
      | false =>
          have earlier := balance.plans ⟨number, false⟩
          simp only [Bool.false_eq_true, if_false] at earlier
          simp [Resources.createPlan, earlier, or_comm]
    distinct := by
      rw [List.nodup_middle]
      exact List.nodup_cons.mpr ⟨fresh, balance.distinct⟩
    drawnPlans := by
      intro number listed
      rw [List.mem_append, List.mem_cons, or_left_comm] at listed
      rcases listed with rfl | earlier
      · exact Nat.lt_succ_self _
      · exact Nat.lt_succ_of_lt (balance.drawnPlans number (List.mem_append.mpr earlier)) }

theorem completeCachedPlan {plan queryCtx : Nat} (created : plan ∈ ledger.unkept)
    (used : queryCtx ∈ ledger.scratch) :
    (resources.completeCachedPlan plan queryCtx).2.Matches { ledger with scratch := [] } := by
  have there := balance.scratch queryCtx used
  rw [Resources.completeCachedPlan, demand_eq (balance.hasPlan_of_unkept created),
    demand_eq (hasContext_iff.mpr ⟨_, there⟩)]
  exact { balance with
    scratch := by simp
    owned := by
      intro number
      rw [List.mem_filter, balance.owned number, bne_iff_ne]
      constructor
      · exact And.left
      · intro owned
        refine ⟨owned, ?_⟩
        rintro rfl
        cases balance.owner_unique there ((balance.owned _).mpr owned)
    single := balance.nodup_filter _
    drawnContexts := fun context member =>
      balance.drawnContexts context (List.mem_of_mem_filter member) }

theorem keepPlan {plan : Nat} (created : ledger.unkept = [plan]) :
    (resources.keepPlan plan).2.Matches
      { ledger with kept := ledger.kept ++ [plan], unkept := [] } := by
  have listed : plan ∈ ledger.unkept := created ▸ List.mem_singleton_self plan
  have distinct := balance.distinct
  rw [created] at distinct
  have other : plan ∉ ledger.kept := fun kept =>
    (List.nodup_append.mp distinct).2.2 plan kept plan (List.mem_singleton_self plan) rfl
  rw [Resources.keepPlan, demand_eq (balance.hasPlan_of_unkept listed)]
  exact { balance with
    plans := by
      intro entry
      have before := balance.plans
      rw [created] at before
      rw [List.mem_map]
      constructor
      · rintro ⟨earlier, member, rfl⟩
        have place := (before earlier).mp member
        by_cases same : earlier.number = plan
        · simp [same]
        · cases earlier with
          | mk number kept => cases kept <;> simp_all
      · intro place
        obtain ⟨number, kept⟩ := entry
        cases kept with
        | false => cases place
        | true =>
            rcases List.mem_append.mp place with earlier | last
            · refine ⟨⟨number, true⟩, (before ⟨number, true⟩).mpr earlier, ?_⟩
              simp
            · obtain rfl : number = plan := List.mem_singleton.mp last
              exact ⟨⟨number, false⟩, (before ⟨number, false⟩).mpr last, if_pos rfl⟩
    distinct := by
      rw [List.append_nil]
      exact distinct
    drawnPlans := by
      intro number member
      apply balance.drawnPlans
      rwa [created, ← List.append_nil (ledger.kept ++ [plan])] }

theorem dropPlan {plan : Nat} (listed : plan ∈ ledger.kept ++ ledger.unkept)
    (free : plan ∉ ledger.references) :
    (resources.dropPlan plan).2.Matches
      { ledger with kept := ledger.kept.erase plan, unkept := ledger.unkept.erase plan } := by
  have there : resources.hasPlan plan = true := by
    rcases List.mem_append.mp listed with kept | unkept
    · exact balance.hasPlan_of_kept kept
    · exact balance.hasPlan_of_unkept unkept
  have released : (!resources.references.contains plan) = true := by
    rw [balance.references]
    simpa using free
  have nodups := List.nodup_append.mp balance.distinct
  have sublist : List.Sublist (ledger.kept.erase plan ++ ledger.unkept.erase plan)
      (ledger.kept ++ ledger.unkept) := List.erase_sublist.append List.erase_sublist
  rw [Resources.dropPlan, demand_eq there, demand_eq released]
  exact { balance with
    plans := by
      rintro ⟨number, kept⟩
      have before := balance.plans ⟨number, kept⟩
      cases kept with
      | true => simpa [before, nodups.1.mem_erase_iff] using and_comm
      | false => simpa [before, nodups.2.1.mem_erase_iff] using and_comm
    distinct := balance.distinct.sublist sublist
    drawnPlans := fun number member => balance.drawnPlans number (sublist.subset member) }

/-- The only plan that is not kept is dropped. -/
theorem dropUnkept {plan : Nat} (created : ledger.unkept = [plan])
    (free : plan ∉ ledger.references) :
    (resources.dropPlan plan).2.Matches { ledger with unkept := [] } := by
  have listed : plan ∈ ledger.kept ++ ledger.unkept :=
    List.mem_append_right _ (created ▸ List.mem_singleton_self plan)
  have distinct := balance.distinct
  rw [created] at distinct
  have other : plan ∉ ledger.kept := fun kept =>
    (List.nodup_append.mp distinct).2.2 plan kept plan (List.mem_singleton_self plan) rfl
  have dropped := balance.dropPlan listed free
  rwa [List.erase_of_not_mem other, created, List.erase_cons_head] at dropped

/-- A kept plan is dropped, wherever it stands. -/
theorem dropKept {plan : Nat} {front back : List Nat}
    (held : ledger.kept = front ++ plan :: back) (settled : ledger.unkept = [])
    (free : plan ∉ ledger.references) :
    (resources.dropPlan plan).2.Matches { ledger with kept := front ++ back } := by
  have listed : plan ∈ ledger.kept ++ ledger.unkept := by simp [held]
  have distinct := balance.distinct
  rw [held, settled, List.append_nil] at distinct
  have other : plan ∉ front := fun earlier =>
    (List.nodup_append.mp distinct).2.2 plan earlier plan List.mem_cons_self rfl
  have dropped := balance.dropPlan listed free
  have same : { ledger with kept := front ++ back, unkept := ledger.unkept.erase plan } =
      { ledger with kept := front ++ back } := by rw [settled, List.erase_nil]
  rwa [held, List.erase_append_right _ other, List.erase_cons_head, same] at dropped

theorem usePlan {plan : Nat} (listed : plan ∈ ledger.kept) :
    (resources.usePlan plan).2.Matches ledger := by
  rw [Resources.usePlan, demand_eq (balance.hasPlan_of_kept listed)]
  exact balance

theorem getCachedPlan {plan : Nat} (listed : plan ∈ ledger.kept) :
    (resources.getCachedPlan plan).2.Matches
      { ledger with references := plan :: ledger.references } := by
  rw [Resources.getCachedPlan, demand_eq (balance.hasPlan_of_kept listed)]
  exact { balance with references := congrArg (List.cons plan) balance.references }

theorem releaseCachedPlan {plan : Nat} {rest : List Nat}
    (held : ledger.references = plan :: rest) :
    (resources.releaseCachedPlan plan).2.Matches { ledger with references := rest } := by
  have references := balance.references.trans held
  have there : resources.references.contains plan = true := by simp [references]
  rw [Resources.releaseCachedPlan, demand_eq there]
  exact { balance with references := by simp [references] }

/-! ## Calls on portals -/

theorem createPortal :
    resources.createPortal.2.Matches
      { ledger with portals := resources.next :: ledger.portals } :=
  { balance with
    drawnContexts := fun context member =>
      Nat.lt_succ_of_lt (balance.drawnContexts context member)
    drawnPlans := fun number member => Nat.lt_succ_of_lt (balance.drawnPlans number member)
    portals := congrArg (List.cons resources.next) balance.portals }

theorem usePortal {portal : Nat} (held : portal ∈ ledger.portals) :
    (resources.usePortal portal).2.Matches ledger := by
  have there : resources.portals.contains portal = true := by
    rw [balance.portals]
    simpa using held
  rw [Resources.usePortal, demand_eq there]
  exact balance

theorem portalDrop {portal : Nat} {rest : List Nat} (held : ledger.portals = portal :: rest) :
    (resources.portalDrop portal).2.Matches { ledger with portals := rest } := by
  have portals := balance.portals.trans held
  have there : resources.portals.contains portal = true := by simp [portals]
  rw [Resources.portalDrop, demand_eq there]
  exact { balance with portals := by simp [portals] }

/-! ## The end of a transaction -/

/-- What a transaction leaves are the plans that are kept and the contexts of values. -/
theorem withoutTransaction :
    resources.withoutTransaction.Matches { ledger with scratch := [], unkept := [] } :=
  { balance with
    scratch := by simp
    owned := by
      intro number
      simp [Resources.withoutTransaction, balance.owned number]
    single := balance.nodup_filter _
    drawnContexts := fun context member =>
      balance.drawnContexts context (List.mem_of_mem_filter member)
    plans := by
      rintro ⟨number, kept⟩
      have before := balance.plans ⟨number, kept⟩
      cases kept <;> simp_all [Resources.withoutTransaction]
    distinct := by
      rw [List.append_nil]
      exact (List.nodup_append.mp balance.distinct).1
    drawnPlans := by
      intro number member
      rw [List.append_nil] at member
      exact balance.drawnPlans number (List.mem_append_left _ member) }

theorem spiFinish : resources.spiFinish.2.Matches { ledger with unkept := [] } := by
  have left := balance.withoutTransaction
  exact { balance with
    plans := left.plans
    distinct := left.distinct
    drawnPlans := left.drawnPlans }

theorem commitTransaction (released : ledger.references = []) :
    resources.commitTransaction.2.Matches
      { ledger with current := none, scratch := [], unkept := [], portals := [] } := by
  have empty : resources.references.isEmpty = true := by
    rw [balance.references, released]
    rfl
  rw [Resources.commitTransaction, demand_eq empty]
  exact { balance.withoutTransaction with
    current := rfl
    references := released.symm
    portals := rfl }

theorem abortTransaction (ended : Bool) (kept : ledger.unkept = []) :
    (resources.abortTransaction ended).2.Matches
      { ledger with current := none, scratch := [], references := [], portals := [] } := by
  cases ended with
  | false => exact { balance.leavingScratch with current := rfl, references := rfl, portals := rfl }
  | true =>
      have left := balance.withoutTransaction
      have same : { ledger with scratch := [], unkept := [] } = { ledger with scratch := [] } := by
        rw [kept]
      rw [same] at left
      exact { left with current := rfl, references := rfl, portals := rfl }

end Resources.Matches

end PgTransport.Postgres
