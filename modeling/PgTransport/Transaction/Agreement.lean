import PgTransport.Transaction.Books

/-!
# When the two interpretations of a batch agree

Closing every command commits work outside a block at once, where an implicit
transaction keeps it pending.  Such surplus work is harmless as long as the
implicit transaction commits in the end.  It makes a difference when a later
command of the batch fails or rolls back, and when the batch ends in a block
that took the surplus in.
-/

namespace PgTransport.Transaction

namespace Books

universe u

variable {E : Type u}

/-- The interpretations agree on the commands: `surplus` says that work done
outside a block of the batch would still be pending in an implicit
transaction. -/
def safe : Phase → Bool → List (Command E) → Bool
  | .explicit, surplus, [] => !surplus
  | _, _, [] => true
  | .failed, _, .commit :: commands => safe .outside false commands
  | .failed, _, .rollback :: commands => safe .outside false commands
  | .failed, _, _ :: _ => true
  | _, surplus, .fail _ :: _ => !surplus
  | .explicit, surplus, .run _ :: commands => safe .explicit surplus commands
  | _, surplus, .run effects :: commands =>
      safe .outside (surplus || !effects.isEmpty) commands
  | _, surplus, .begin :: commands => safe .explicit surplus commands
  | _, _, .commit :: commands => safe .outside false commands
  | _, surplus, .rollback :: commands => !surplus && safe .outside false commands

/-! ## Work that was rolled back on one side only -/

/-- The second books have rolled more back than the first, and would roll back
at least as much again. -/
structure Lags (each whole : Books E) : Prop where
  rolledBack : each.rolledBack.length < whole.rolledBack.length
  phase : each.enter.phase = whole.enter.phase
  pending : each.enter.pending.length ≤ whole.enter.pending.length
  eachLevels : each.enter.levels = []
  wholeLevels : whole.enter.levels = []

theorem enter_rolledBack (books : Books E) : books.enter.rolledBack = books.rolledBack := by
  rcases books with ⟨_ | _ | _ | _, levels, pending, committed, rolledBack⟩ <;> rfl

/-- A command keeps the difference, however the books are closed behind it. -/
theorem Lags.execute {each whole : Books E} (lags : Lags each whole) (command : Command E) :
    ∃ success eachAfter wholeAfter,
      execute command each.enter = (success, eachAfter) ∧
      execute command whole.enter = (success, wholeAfter) ∧
      eachAfter.rolledBack.length < wholeAfter.rolledBack.length ∧
      (success = true → ∀ now, Lags eachAfter.close (wholeAfter.closeIf now)) := by
  obtain ⟨rolledBack, phase, pending, eachLevels, wholeLevels⟩ := lags
  rw [← enter_rolledBack each, ← enter_rolledBack whole] at rolledBack
  have entered := enter_entered each
  generalize each.enter = first at *
  generalize whole.enter = second at *
  rcases first with ⟨here, levels, work, committed, undone⟩
  rcases second with ⟨there, levels', work', committed', undone'⟩
  dsimp only at rolledBack phase pending eachLevels wholeLevels entered
  subst phase eachLevels wholeLevels
  cases here with
  | outside => exact absurd rfl entered
  | implicit | explicit | failed =>
      cases command <;> refine ⟨_, _, _, rfl, rfl, ?_, ?_⟩
      case' run.refine_2 | begin.refine_2 | commit.refine_2 | rollback.refine_2 => 
        intro success now
        cases now <;> constructor
      all_goals simp_all [perform, abandon, Books.commit, Books.rollback, leave, openBlock,
        close, enter]
      all_goals omega

/-- The difference is never made up. -/
theorem Lags.interpret (commands : List (Command E)) :
    ∀ {each whole : Books E}, Lags each whole →
      (interpret true commands each).2.rolledBack.length <
        (interpret false commands whole).2.rolledBack.length := by
  induction commands with
  | nil => exact fun lags => lags.rolledBack
  | cons command commands inductionHypothesis =>
      intro each whole lags
      obtain ⟨success, eachAfter, wholeAfter, eachRun, wholeRun, behind, next⟩ :=
        lags.execute command
      cases success with
      | false =>
          rw [interpret_cons_false eachRun, interpret_cons_false wholeRun]
          exact behind
      | true =>
          have rest := inductionHypothesis (next rfl (false || commands.isEmpty))
          rw [interpret_cons_true eachRun rfl, interpret_cons_true wholeRun rfl]
          exact rest

/-! ## The surplus of an implicit transaction -/

/-- Two batches that go on behind the same command agree when they agree from
there. -/
theorem cons_agree_iff {command : Command E} {commands : List (Command E)}
    {each whole eachAfter wholeAfter : Books E}
    (eachRun : execute command each.enter = (true, eachAfter))
    (wholeRun : execute command whole.enter = (true, wholeAfter)) :
    interpret true (command :: commands) each = interpret false (command :: commands) whole ↔
      interpret true commands eachAfter.close =
        interpret false commands (wholeAfter.closeIf commands.isEmpty) := by
  rw [interpret_cons_true eachRun rfl, interpret_cons_true wholeRun rfl, Prod.mk.injEq,
    Prod.ext_iff]
  have injective : Function.Injective (Option.map (· + 1) : Option Nat → Option Nat) :=
    Option.map_injective fun _ _ => Nat.succ.inj
  rw [injective.eq_iff]
  rfl

@[simp]
theorem closeIf_outside (now : Bool) (levels : List Nat)
    (pending committed rolledBack : List E) :
    closeIf now ⟨.outside, levels, pending, committed, rolledBack⟩ =
      ⟨.outside, levels, pending, committed, rolledBack⟩ := by
  cases now <;> rfl

@[simp]
theorem closeIf_explicit (now : Bool) (levels : List Nat)
    (pending committed rolledBack : List E) :
    closeIf now ⟨.explicit, levels, pending, committed, rolledBack⟩ =
      ⟨.explicit, levels, pending, committed, rolledBack⟩ := by
  cases now <;> rfl

theorem cons_disagree {command : Command E} {commands : List (Command E)}
    {each whole eachAfter wholeAfter : Books E}
    (eachRun : execute command each.enter = (true, eachAfter))
    (wholeRun : execute command whole.enter = (true, wholeAfter))
    (lags : Lags eachAfter.close (wholeAfter.closeIf commands.isEmpty)) :
    interpret true (command :: commands) each ≠
      interpret false (command :: commands) whole := by
  rw [ne_eq, cons_agree_iff eachRun wholeRun]
  intro same
  have behind := lags.interpret commands
  rw [same] at behind
  exact absurd behind (Nat.lt_irrefl _)

/-- From the same books outside a block the batch is read in both ways with no
surplus. -/
theorem settled_agree_iff {commands : List (Command E)}
    (implicit : ∀ surplus committed rolledBack : List E,
      interpret true commands ⟨.outside, [], [], committed ++ surplus, rolledBack⟩ =
          interpret false commands
            (closeIf commands.isEmpty ⟨.implicit, [], surplus, committed, rolledBack⟩) ↔
        safe .outside (!surplus.isEmpty) commands = true)
    (committed rolledBack : List E) :
    interpret true commands ⟨.outside, [], [], committed, rolledBack⟩ =
        interpret false commands ⟨.outside, [], [], committed, rolledBack⟩ ↔
      safe .outside false commands = true := by
  cases commands with
  | nil => simp [safe, interpret]
  | cons command commands =>
      have entered := implicit [] committed rolledBack
      rw [List.append_nil] at entered
      exact entered

/-- Behind a surplus of work the interpretations agree as `safe` says, outside a
block and in one. -/
theorem surplus_agree_iff (commands : List (Command E)) :
    (∀ surplus committed rolledBack : List E,
      interpret true commands ⟨.outside, [], [], committed ++ surplus, rolledBack⟩ =
          interpret false commands
            (closeIf commands.isEmpty ⟨.implicit, [], surplus, committed, rolledBack⟩) ↔
        safe .outside (!surplus.isEmpty) commands = true) ∧
    (∀ (levels : List Nat) (surplus pending committed rolledBack : List E),
      (surplus ≠ [] → levels = []) →
      (interpret true commands ⟨.explicit, levels, pending, committed ++ surplus, rolledBack⟩ =
          interpret false commands
            ⟨.explicit, levels, surplus ++ pending, committed, rolledBack⟩ ↔
        safe .explicit (!surplus.isEmpty) commands = true)) := by
  induction commands with
  | nil =>
      constructor
      · intro surplus committed rolledBack
        simp [interpret, safe, close, Books.commit]
      · intro levels surplus pending committed rolledBack _
        simp [interpret, safe]
  | cons command commands inductionHypothesis =>
      obtain ⟨implicit, explicit⟩ := inductionHypothesis
      have settled := settled_agree_iff implicit
      constructor
      · intro surplus committed rolledBack
        cases command with
        | run effects =>
            have next := implicit (surplus ++ effects) committed rolledBack
            have flags : (!(surplus ++ effects).isEmpty) =
                (!surplus.isEmpty || !effects.isEmpty) := by
              cases surplus <;> simp
            rw [flags, ← List.append_assoc] at next
            rw [cons_agree_iff rfl rfl]
            exact next
        | fail effects =>
            rw [interpret_cons_false rfl, interpret_cons_false rfl]
            simp [abandon, perform, Books.rollback, enter, safe]
        | begin =>
            have next := explicit [] surplus [] committed rolledBack fun _ => rfl
            rw [List.append_nil] at next
            rw [cons_agree_iff rfl rfl]
            simpa [enter, openBlock, close, safe] using next
        | commit =>
            have next := settled (committed ++ surplus) rolledBack
            rw [cons_agree_iff rfl rfl]
            simpa [enter, Books.commit, close, safe] using next
        | rollback =>
            cases surplus with
            | nil =>
                have next := settled committed rolledBack
                rw [cons_agree_iff rfl rfl]
                simpa [enter, Books.rollback, close, safe] using next
            | cons effect surplus =>
                refine iff_of_false (cons_disagree rfl rfl ?_) (by simp [safe])
                constructor <;> simp [enter, Books.rollback, close]
      · intro levels surplus pending committed rolledBack unnested
        cases command with
        | run effects =>
            have next := explicit levels surplus (pending ++ effects) committed rolledBack
              unnested
            rw [cons_agree_iff rfl rfl]
            simpa [enter, perform, close, safe] using next
        | fail effects =>
            rw [interpret_cons_false rfl, interpret_cons_false rfl]
            cases surplus with
            | nil => simp [abandon, perform, enter, safe]
            | cons effect surplus =>
                have unnested : levels = [] := unnested (by simp)
                simp [abandon, perform, enter, safe, unnested]
        | begin =>
            have next := explicit levels surplus pending committed rolledBack unnested
            rw [cons_agree_iff rfl rfl]
            simpa [enter, openBlock, close, safe] using next
        | commit =>
            have next := settled (committed ++ surplus ++ pending) rolledBack
            rw [cons_agree_iff rfl rfl]
            simpa [enter, Books.commit, close, safe] using next
        | rollback =>
            cases surplus with
            | nil =>
                have next := settled committed (rolledBack ++ pending)
                rw [cons_agree_iff rfl rfl]
                simpa [enter, Books.rollback, close, safe] using next
            | cons effect surplus =>
                refine iff_of_false (cons_disagree rfl rfl ?_) (by simp [safe])
                constructor
                case rolledBack =>
                  simp only [closeIf_outside, List.length_append, List.length_cons, enter,
                    Books.rollback, close]
                  omega
                all_goals simp [enter, Books.rollback, close]

/-- The two interpretations of a batch agree exactly when it is safe. -/
theorem interpret_agree_iff (commands : List (Command E)) {books : Books E}
    (single : books.phase ≠ .implicit) :
    interpret true commands books = interpret false commands books ↔
      safe books.phase false commands = true := by
  rcases books with ⟨phase, levels, pending, committed, rolledBack⟩
  cases phase with
  | implicit => exact absurd rfl single
  | outside =>
      cases commands with
      | nil => simp [interpret, safe]
      | cons command commands =>
          have agree := settled_agree_iff (surplus_agree_iff (command :: commands)).1
            committed rolledBack
          exact agree
  | explicit =>
      have agree := (surplus_agree_iff commands).2 levels [] pending committed rolledBack
        (by simp)
      simpa using agree
  | failed =>
      cases commands with
      | nil => simp [interpret, safe]
      | cons command commands =>
          have settled := settled_agree_iff (surplus_agree_iff commands).1
          cases command with
          | run effects | fail effects | begin =>
              rw [interpret_cons_false rfl, interpret_cons_false rfl]
              simp [safe]
          | commit | rollback =>
              rw [cons_agree_iff rfl rfl]
              cases levels with
              | nil => simpa [enter, leave, close, safe] using settled committed rolledBack
              | cons level levels =>
                  simpa [enter, leave, Books.rollback, close, safe] using
                    settled committed (rolledBack ++ pending)

end Books

end PgTransport.Transaction
