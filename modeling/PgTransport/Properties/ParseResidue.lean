import PgTransport.Backend.ParseContexts

/-!
# What parsing leaves behind

A parser error in `parse_and_classify` leaves its scratch context alive and current, so
that the next scratch context is made below it.  The contexts left so are counted by a
list, newest first, that grows with each such error and shrinks with nothing; as long as it
is empty, a session holds the contexts that it started with and those of its parsed
queries.
-/

namespace PgTransport.Properties

open PgTransport.Backend
open PgTransport.Postgres
open PgTransport.Transition

variable {E : Type}

/-- The current context is the one at the start, and the contexts alive are those at the
start and those that parsed queries own. -/
def NoResidue (start target : ParseSession) : Prop :=
  target.contexts.current = start.contexts.current ∧
    ∀ context, context ∈ target.contexts.live ↔
      context ∈ start.contexts.live ∨ context ∈ target.held

/-- The contexts that parser errors have left since the start, newest first. -/
structure Residue (start : Contexts) (leaked : List MemoryContext) (session : ParseSession) :
    Prop where
  current : session.contexts.current = leaked.headD start.current
  live : ∀ context, context ∈ session.contexts.live ↔
    context ∈ start.live ∨ context ∈ leaked ∨ context ∈ session.held
  fresh : ∀ context ∈ leaked, context ∉ start.live
  apart : ∀ owned ∈ session.held, ∀ context,
    context = session.contexts.current ∨ context ∈ start.live ∨ context ∈ leaked →
      ¬owned <:+ context
  children : ∀ owned ∈ session.held, ∃ number, owned = number :: topMemoryContext
  nodup : session.held.Nodup

namespace Residue

variable {start : Contexts} {leaked : List MemoryContext} {session target : ParseSession}

theorem empty (fresh : session.held = []) : Residue session.contexts [] session := by
  constructor
  · rfl
  · intro context
    simp [fresh]
  · intro context member
    cases member
  · intro owned member
    cases fresh ▸ member
  · intro owned member
    cases fresh ▸ member
  · rw [fresh]
    exact List.nodup_nil

/-- A context that a parsed query owns is below no other than itself. -/
theorem eq_of_suffix (residue : Residue start leaked session) {owned other : MemoryContext}
    (member : owned ∈ session.held) (live : other ∈ session.contexts.live)
    (below : owned <:+ other) : other = owned := by
  rcases (residue.live other).mp live with early | left | also
  · exact absurd below (residue.apart owned member other (.inr (.inl early)))
  · exact absurd below (residue.apart owned member other (.inr (.inr left)))
  · obtain ⟨first, rfl⟩ := residue.children owned member
    obtain ⟨second, rfl⟩ := residue.children other also
    exact (below.eq_of_length rfl).symm

/-- No residue is left exactly if no parser error has left a context. -/
theorem noResidue_iff {begin : ParseSession} (residue : Residue begin.contexts leaked session) :
    NoResidue begin session ↔ leaked = [] := by
  constructor
  · intro ⟨_, live⟩
    cases leaked with
    | nil => rfl
    | cons context older =>
        exfalso
        have alive := (residue.live context).mpr (.inr (.inl List.mem_cons_self))
        rcases (live context).mp alive with early | owned
        · exact residue.fresh context List.mem_cons_self early
        · exact residue.apart context owned context (.inr (.inr List.mem_cons_self))
            (List.suffix_refl context)
  · rintro rfl
    constructor
    · exact residue.current
    · intro context
      simpa using residue.live context

/-! ## Steps -/

/-- A parser error puts its scratch context in front. -/
theorem leak (residue : Residue start leaked session) :
    Residue start (session.contexts.child session.contexts.current :: leaked)
      ⟨(session.contexts.add (session.contexts.child session.contexts.current)).switchTo
        (session.contexts.child session.contexts.current), session.held⟩ := by
  have absent := session.contexts.child_not_mem session.contexts.current
  have unowned : ∀ owned ∈ session.held,
      ¬owned <:+ session.contexts.child session.contexts.current := by
    intro owned member below
    rcases List.suffix_cons_iff.mp below with same | older
    · have alive := (residue.live owned).mpr (.inr (.inr member))
      rw [same] at alive
      exact absent alive
    · exact residue.apart owned member _ (.inl rfl) older
  constructor
  · rfl
  · intro context
    simp only [Contexts.switchTo, Contexts.add, List.mem_append, List.mem_cons,
      residue.live context]
    tauto
  · intro context member
    rcases List.mem_cons.mp member with rfl | older
    · exact fun early => absent ((residue.live _).mpr (.inl early))
    · exact residue.fresh context older
  · intro owned member context location
    rcases location with rfl | early | left
    · exact unowned owned member
    · exact residue.apart owned member context (.inr (.inl early))
    · rcases List.mem_cons.mp left with rfl | older
      · exact unowned owned member
      · exact residue.apart owned member context (.inr (.inr older))
  · exact residue.children
  · exact residue.nodup

/-- A parsed query owns a context of its own. -/
theorem keeping (residue : Residue start leaked session) :
    Residue start leaked
      ⟨session.contexts.add (session.contexts.child topMemoryContext),
        session.held ++ [session.contexts.child topMemoryContext]⟩ := by
  have absent := session.contexts.child_not_mem topMemoryContext
  constructor
  · exact residue.current
  · intro context
    simp only [Contexts.add, List.mem_append, List.mem_singleton, residue.live context]
    tauto
  · exact residue.fresh
  · intro owned member context location
    rcases List.mem_append.mp member with older | newest
    · exact residue.apart owned older context location
    · rw [List.mem_singleton.mp newest]
      intro below
      have used : context = session.contexts.current ∨ context = topMemoryContext ∨
          context ∈ session.contexts.live := by
        rcases location with here | early | left
        · exact .inl here
        · exact .inr (.inr ((residue.live context).mpr (.inl early)))
        · exact .inr (.inr ((residue.live context).mpr (.inr (.inl left))))
      exact Contexts.unused_not_mem used (below.subset List.mem_cons_self)
  · intro owned member
    rcases List.mem_append.mp member with older | newest
    · exact residue.children owned older
    · exact ⟨_, List.mem_singleton.mp newest⟩
  · rw [List.nodup_append]
    constructor
    · exact residue.nodup
    · constructor
      · exact List.pairwise_singleton _ _
      · intro owned member other newest same
        have alive := (residue.live owned).mpr (.inr (.inr member))
        exact absent (List.mem_singleton.mp newest ▸ same ▸ alive)

/-- A parsed query that ends takes its context along, and nothing else. -/
theorem release (residue : Residue start leaked session) {parseCtx : MemoryContext}
    (owned : parseCtx ∈ session.held) :
    Residue start leaked
      ⟨session.contexts.delete parseCtx, session.held.erase parseCtx⟩ := by
  constructor
  · exact residue.current
  · intro context
    rw [Contexts.mem_delete, residue.nodup.mem_erase_iff]
    constructor
    · rintro ⟨alive, kept⟩
      rcases (residue.live context).mp alive with early | left | also
      · exact .inl early
      · exact .inr (.inl left)
      · exact .inr (.inr ⟨fun same => kept (same ▸ List.suffix_refl _), also⟩)
    · intro survives
      rcases survives with early | left | ⟨other, also⟩
      · exact ⟨(residue.live context).mpr (.inl early),
          residue.apart parseCtx owned context (.inr (.inl early))⟩
      · exact ⟨(residue.live context).mpr (.inr (.inl left)),
          residue.apart parseCtx owned context (.inr (.inr left))⟩
      · have alive := (residue.live context).mpr (.inr (.inr also))
        exact ⟨alive, fun below => other (residue.eq_of_suffix owned alive below)⟩
  · exact residue.fresh
  · intro other member
    exact residue.apart other (List.mem_of_mem_erase member)
  · intro other member
    exact residue.children other (List.mem_of_mem_erase member)
  · exact residue.nodup.erase parseCtx

/-- A query that `parse_and_keep` parses or rejects. -/
theorem keep (residue : Residue start leaked session) (query : SimpleQuery E) :
    Residue start leaked (session.keeping (parseAndKeepIn query session.contexts).1
      (parseAndKeepIn query session.contexts).2) := by
  rw [parseAndKeepIn_apply]
  cases parseAndKeep query with
  | error err => exact residue
  | ok statements => exact residue.keeping

end Residue

/-! ## Runs -/

/-- The event is no query that fails in the parser of `parse_and_classify`. -/
def ParseEvent.Clean : ParseEvent E → Prop
  | .classify query => query.ParserReturns
  | .keep _ => True
  | .release _ => True

/-- A step adds to the contexts left exactly if its event is not clean. -/
theorem Residue.step {start : Contexts} {leaked : List MemoryContext}
    {session target : ParseSession} {event : ParseEvent E}
    (residue : Residue start leaked session) (step : ParseStep session event target) :
    ∃ left, Residue start left target ∧
      (left = [] ↔ leaked = [] ∧ ParseEvent.Clean event) := by
  cases step with
  | classify query =>
      by_cases returns : query.ParserReturns
      · rw [parseAndClassifyIn_of_returns _ returns]
        exact ⟨leaked, residue, ⟨fun none => ⟨none, returns⟩, And.left⟩⟩
      · rw [parseAndClassifyIn_of_not_returns _ returns]
        exact ⟨_, residue.leak, ⟨fun none => absurd none (List.cons_ne_nil _ _),
          fun clean => absurd clean.2 returns⟩⟩
  | keep query =>
      exact ⟨leaked, residue.keep query, ⟨fun none => ⟨none, trivial⟩, And.left⟩⟩
  | release owned =>
      exact ⟨leaked, residue.release owned, ⟨fun none => ⟨none, trivial⟩, And.left⟩⟩

theorem Residue.run {start : Contexts} {leaked : List MemoryContext}
    {session target : ParseSession} {events : List (ParseEvent E)}
    (run : Run parses session events target) (residue : Residue start leaked session) :
    ∃ left, Residue start left target ∧
      (left = [] ↔ leaked = [] ∧ ∀ event ∈ events, ParseEvent.Clean event) := by
  induction run generalizing leaked with
  | nil session =>
      exact ⟨leaked, residue, ⟨fun none => ⟨none, fun _ member => nomatch member⟩, And.left⟩⟩
  | cons step _ _ inductionHypothesis =>
      obtain ⟨between, there, first⟩ := residue.step step
      obtain ⟨left, here, later⟩ := inductionHypothesis there
      refine ⟨left, here, ?_⟩
      rw [later, first, List.forall_mem_cons, and_assoc]

/-- A sequence of queries leaves no residue exactly if none of those that
`parse_and_classify` hands to the parser fails there. -/
theorem no_residue_iff_parsers_return {start target : ParseSession} {events : List (ParseEvent E)}
    (fresh : start.held = []) (run : Run parses start events target) :
    NoResidue start target ↔
      ∀ query, ParseEvent.classify query ∈ events → query.ParserReturns := by
  obtain ⟨left, residue, clean⟩ := (Residue.empty fresh).run run
  rw [residue.noResidue_iff, clean]
  constructor
  · intro ⟨_, all⟩ query member
    exact all _ member
  · intro all
    constructor
    · rfl
    · intro event member
      cases event with
      | classify query => exact all query member
      | keep query => trivial
      | release parseCtx => trivial

/-- A query that the parser rejects. -/
def misspelt : SimpleQuery Nat where
  text := "SELEC 1"
  parsed := .error ⟨"ERROR", "ERRCODE_SYNTAX_ERROR", "syntax error at or near \"SELEC\""⟩
  slices _ parsed := nomatch parsed

/-- A query without statements. -/
def blankQuery : SimpleQuery Nat where
  text := ""
  parsed := .ok []
  slices _ parsed := by
    cases parsed
    intro stmt member
    cases member

/-- A session of a fresh backend. -/
def freshSession : ParseSession where
  contexts := ⟨topMemoryContext, [topMemoryContext]⟩
  held := []

theorem noResidue_blank_misspelt :
    NoResidue freshSession
        (freshSession.keeping (parseAndKeepIn misspelt freshSession.contexts).1
          (parseAndKeepIn misspelt freshSession.contexts).2) :=
  (no_residue_iff_parsers_return rfl (.cons (ParseStep.classify freshSession blankQuery) trivial
    (.cons (ParseStep.keep freshSession misspelt) trivial (.nil _)))).mpr (by
      intro query member
      rcases List.mem_cons.mp member with same | later
      · cases same
        exact .inr ⟨[], rfl⟩
      · cases List.mem_singleton.mp later)

/-- One rejected query leaves its scratch context, and leaves it current. -/
theorem misspelt_leaves_scratch :
    ¬∀ (start target : ParseSession) (events : List (ParseEvent Nat)),
      start.held = [] → Run parses start events target → NoResidue start target := by
  intro claimed
  have clean := claimed freshSession _ [.classify misspelt] rfl
    (.cons (ParseStep.classify freshSession misspelt) trivial (.nil _))
  exact absurd clean.1 (by decide)

end PgTransport.Properties
