import Mathlib.Logic.Function.Basic
import VoodooOne.Library.Transaction

/-!
# Exclusion between finalizers

The cleanup unlinks whatever lock file it meets, also one that another run created, and a run whose
process id could not be written gives its lock away before its cleanup.  Runs of finalizers exclude
each other exactly as long as neither gets in the way of another run's lock.
-/

namespace VoodooOne.Checkpoint

/-- The next statement of `finalize_checkpoint`. -/
inductive Phase where
  /-- `_prepare_target`. -/
  | prepare
  /-- `os.open(path, O_CREAT | O_EXCL)` of `_acquire_lock`. -/
  | acquire
  /-- `os.write` of the process id, with `os.close` and `path.unlink` of its handler. -/
  | writePid
  | closeAbandoned
  | unlinkAbandoned
  /-- Verification of the candidate, and creation, filling and verification of the staging copy. -/
  | verify
  | stage
  | copy
  /-- The last look at the destination, the rename, and what follows it. -/
  | checkDestination
  | rename
  | reseal
  /-- `_cleanup_finalization`. -/
  | removeStaging
  | closeLock
  | lookForLock
  | unlinkLock
  | finished
deriving DecidableEq, Repr

/-- The local variables of one run. -/
structure Finalization where
  phase : Phase
  /-- `target` is set, and with it the path of the lock. -/
  lockPath : Bool
  /-- `lock_fd` is set. -/
  lockFd : Bool
  /-- `staging` is set. -/
  staging : Bool
  /-- `destination_published`. -/
  published : Bool
  /-- Error codes of the report. -/
  errors : List String
  /-- Whether this run has created the lock file. -/
  created : Bool
deriving DecidableEq, Repr

namespace Finalization

/-- A run before its first statement. -/
def start : Finalization := ⟨.prepare, false, false, false, false, [], false⟩

/-- An exception: the failure report, then the cleanup. -/
def raising (run : Finalization) (code : String) : Finalization :=
  { run with phase := .removeStaging, errors := [code] }

/-- The next statement of the cleanup, with an issue where this one failed. -/
def cleaned (run : Finalization) (next : Phase) (issues : List String) : Finalization :=
  { run with phase := next, errors := run.errors ++ issues }

/-- `finalize_checkpoint`, one statement of the run `process`: the new local variables, the lock
file and the destination.  A failing statement raises an exception with a code. -/
def advance {ρ : Type} (run : Finalization) (process : ρ) (failure : Option String)
    (lockFile destination : Option ρ) : Finalization × Option ρ × Option ρ :=
  match run.phase with
  | .prepare =>
      match failure with
      | some code => (run.raising code, lockFile, destination)
      | none =>
          if destination.isSome then (run.raising "destination_exists", lockFile, destination)
          else ({ run with lockPath := true, phase := .acquire }, lockFile, destination)
  | .acquire =>
      match failure with
      | some _ => (run.raising "finalization_io_error", lockFile, destination)
      | none =>
          if lockFile.isSome then (run.raising "finalization_locked", lockFile, destination)
          else ({ run with created := true, phase := .writePid }, some process, destination)
  | .writePid =>
      match failure with
      | some _ => ({ run with phase := .closeAbandoned }, lockFile, destination)
      | none => ({ run with lockFd := true, phase := .verify }, lockFile, destination)
  | .closeAbandoned =>
      match failure with
      | some _ => (run.raising "finalization_io_error", lockFile, destination)
      | none => ({ run with phase := .unlinkAbandoned }, lockFile, destination)
  | .unlinkAbandoned =>
      match failure with
      | some _ => (run.raising "finalization_io_error", lockFile, destination)
      | none => (run.raising "finalization_io_error", none, destination)
  | .verify =>
      match failure with
      | some code => (run.raising code, lockFile, destination)
      | none => ({ run with phase := .stage }, lockFile, destination)
  | .stage =>
      match failure with
      | some code => (run.raising code, lockFile, destination)
      | none => ({ run with staging := true, phase := .copy }, lockFile, destination)
  | .copy =>
      match failure with
      | some code => (run.raising code, lockFile, destination)
      | none => ({ run with phase := .checkDestination }, lockFile, destination)
  | .checkDestination =>
      match failure with
      | some code => (run.raising code, lockFile, destination)
      | none =>
          if destination.isSome then (run.raising "destination_exists", lockFile, destination)
          else ({ run with phase := .rename }, lockFile, destination)
  | .rename =>
      -- a directory is not renamed over one that is not empty
      match failure with
      | some code => (run.raising code, lockFile, destination)
      | none =>
          if destination.isSome then (run.raising "finalization_io_error", lockFile, destination)
          else
            ({ run with staging := false, published := true, phase := .reseal }, lockFile,
              some process)
  | .reseal =>
      match failure with
      | some code => (run.raising code, lockFile, destination)
      | none => ({ run with phase := .removeStaging }, lockFile, destination)
  | .removeStaging =>
      match failure with
      | some _ =>
          (run.cleaned .closeLock (if run.staging then ["staging_cleanup_failed"] else []),
            lockFile, destination)
      | none => (run.cleaned .closeLock [], lockFile, destination)
  | .closeLock =>
      match failure with
      | some _ =>
          (run.cleaned .lookForLock (if run.lockFd then ["lock_cleanup_failed"] else []), lockFile,
            destination)
      | none => (run.cleaned .lookForLock [], lockFile, destination)
  | .lookForLock =>
      -- `os.path.lexists` answers no when it fails
      if run.lockPath && failure.isNone && lockFile.isSome then
        (run.cleaned .unlinkLock [], lockFile, destination)
      else (run.cleaned .finished [], lockFile, destination)
  | .unlinkLock =>
      if failure.isNone && lockFile.isSome then (run.cleaned .finished [], none, destination)
      else (run.cleaned .finished ["lock_cleanup_failed"], lockFile, destination)
  | .finished => (run, lockFile, destination)

end Finalization

/-- The lock file, the destination and the runs. -/
structure World (ρ : Type) where
  /-- The run that created the lock file, when there is one. -/
  lockFile : Option ρ
  /-- The run that published the destination, when there is one. -/
  destination : Option ρ
  runs : ρ → Finalization

/-- One statement of one run, with the code of its exception when it fails. -/
structure Event (ρ : Type) where
  process : ρ
  failure : Option String

namespace World

variable {ρ : Type} [DecidableEq ρ]

/-- No lock file and no destination, before any run. -/
def start : World ρ := ⟨none, none, fun _ => .start⟩

def step (world : World ρ) (event : Event ρ) : World ρ :=
  let (run, lockFile, destination) := (world.runs event.process).advance event.process event.failure
    world.lockFile world.destination
  ⟨lockFile, destination, Function.update world.runs event.process run⟩

end World

open Transaction

namespace Finalization

/-- The run has created the lock file and has not finished its cleanup. -/
def Holds (run : Finalization) : Prop := run.created = true ∧ run.phase ≠ .finished

/-- The write of the process id failed and the run is in its cleanup. -/
def Abandoned (run : Finalization) : Prop :=
  run.created = true ∧ run.lockFd = false ∧
    run.phase ∈ [Phase.removeStaging, .closeLock, .lookForLock, .unlinkLock]

/-- The variables of a run fit its next statement. -/
def Consistent (run : Finalization) : Prop :=
  match run.phase with
  | .prepare | .acquire => run.created = false ∧ run.lockFd = false
  | .writePid | .closeAbandoned | .unlinkAbandoned => run.created = true ∧ run.lockFd = false
  | .verify | .stage | .copy | .checkDestination | .rename | .reseal =>
      run.created = true ∧ run.lockFd = true
  | _ => run.lockFd = true → run.created = true

/-- The ways in which one statement of a run can concern the lock. -/
inductive LockEffect {ρ : Type} (run : Finalization) (process : ρ) (failure : Option String)
    (lockFile : Option ρ) : Finalization → Option ρ → Prop where
  | kept (next : Finalization) (held : next.Holds → run.Holds)
      (abandoned : run.Abandoned → next.Holds → next.Abandoned) :
      LockEffect run process failure lockFile next lockFile
  | created (next : Finalization) (phase : run.phase = .acquire) (succeeds : failure = none)
      (absent : lockFile = none) (holds : next.Holds) (retained : ¬next.Abandoned) :
      LockEffect run process failure lockFile next (some process)
  | givenUp (next : Finalization) (held : run.Holds) (abandoned : next.Abandoned) :
      LockEffect run process failure lockFile next none
  | released (next : Finalization) (phase : run.phase = .unlinkLock) (succeeds : failure = none)
      (present : lockFile ≠ none) (done : ¬next.Holds) :
      LockEffect run process failure lockFile next none

variable {ρ : Type} {process : ρ} {failure : Option String} {lockFile destination : Option ρ}
  {run : Finalization}

theorem Abandoned.holds (abandoned : run.Abandoned) : run.Holds := by
  refine ⟨abandoned.1, fun finished => ?_⟩
  have cleaning := abandoned.2.2
  rw [finished] at cleaning
  simp at cleaning

theorem advance_consistent (consistent : run.Consistent) :
    (run.advance process failure lockFile destination).1.Consistent := by
  obtain ⟨phase, lockPath, lockFd, staging, published, errors, created⟩ := run
  cases phase <;> simp only [Consistent] at consistent <;> simp only [advance] <;>
    repeat' split
  all_goals simp_all [Consistent, raising, cleaned]

theorem advance_effect (consistent : run.Consistent) : LockEffect run process failure lockFile
      (run.advance process failure lockFile destination).1
      (run.advance process failure lockFile destination).2.1 := by
  obtain ⟨phase, lockPath, lockFd, staging, published, errors, created⟩ := run
  cases phase with
  | acquire =>
      simp only [Consistent] at consistent
      simp only [advance]
      split
      · exact .kept _ (by simp [Holds, raising, consistent]) (by simp [Abandoned])
      · split
        · exact .kept _ (by simp [Holds, raising, consistent]) (by simp [Abandoned])
        · next absent =>
          exact .created _ rfl rfl (by simpa using absent) (by simp [Holds]) (by simp [Abandoned])
  | unlinkAbandoned =>
      simp only [Consistent] at consistent
      simp only [advance]
      split
      · exact .kept _ (by simp [Holds, consistent]) (by simp [Abandoned])
      · exact .givenUp _ (by simp [Holds, consistent]) (by simp [Abandoned, raising, consistent])
  | unlinkLock =>
      simp only [advance]
      split
      · next present =>
        simp only [Bool.and_eq_true, Option.isNone_iff_eq_none] at present
        exact .released _ rfl present.1 (Option.isSome_iff_ne_none.mp present.2)
          (by simp [Holds, cleaned])
      · exact .kept _ (by simp [Holds, cleaned]) (by simp [Holds, cleaned])
  | _ =>
      simp only [Consistent] at consistent
      simp only [advance]
      repeat' split
      all_goals
        refine .kept _ ?_ ?_ <;> simp_all [Holds, Abandoned, raising, cleaned]

end Finalization

namespace World

variable {ρ : Type} [DecidableEq ρ]

/-- At most one run holds the lock. -/
def Excludes (world : World ρ) : Prop :=
  ∀ first second, (world.runs first).Holds → (world.runs second).Holds → first = second

/-- A statement of a run that has not created the lock file leaves another run's lock file. -/
def LeavesOthers (world : World ρ) (event : Event ρ) : Prop :=
  (world.runs event.process).created = false → ∀ owner, owner ≠ event.process →
    world.lockFile = some owner → (world.step event).lockFile = some owner

/-- One statement leaves other runs' lock files and keeps the exclusion. -/
def Respects (world : World ρ) (event : Event ρ) : Prop :=
  world.LeavesOthers event ∧ (world.step event).Excludes

/-- No lock file is created during the cleanup of a run whose process id could not be written, and
a cleanup that unlinks a lock file meets the one of its own run. -/
def Clear (world : World ρ) (event : Event ρ) : Prop :=
  event.failure = none → ((world.runs event.process).phase = .acquire → world.lockFile = none →
      ∀ other, ¬(world.runs other).Abandoned) ∧
    ((world.runs event.process).phase = .unlinkLock →
      ∀ owner, world.lockFile = some owner → owner = event.process)

/-- What statements under the condition keep. -/
structure LockInvariant (world : World ρ) : Prop where
  consistent : ∀ process, (world.runs process).Consistent
  /-- A run that holds the lock has its file there, unless it has abandoned it. -/
  covered : ∀ process, (world.runs process).Holds →
    world.lockFile = some process ∨ (world.runs process).Abandoned
  /-- While a run that abandoned its lock file cleans up, no other lock file is there. -/
  vacant : ∀ process owner, (world.runs process).Abandoned → world.lockFile = some owner →
    owner = process
  excludes : world.Excludes

theorem step_others (world : World ρ) {event : Event ρ} {other : ρ}
    (apart : other ≠ event.process) : (world.step event).runs other = world.runs other :=
  Function.update_of_ne apart _ _

theorem step_self (world : World ρ) (event : Event ρ) : (world.step event).runs event.process =
      ((world.runs event.process).advance event.process event.failure world.lockFile
        world.destination).1 :=
  Function.update_self _ _ _

omit [DecidableEq ρ] in
theorem LockInvariant.start : (start : World ρ).LockInvariant where
  consistent _ := ⟨rfl, rfl⟩
  covered _ holds := by cases holds.1
  vacant _ _ abandoned := by cases abandoned.1
  excludes _ _ holds := by cases holds.1

theorem LockInvariant.effect {world : World ρ} (invariant : world.LockInvariant)
    (event : Event ρ) : Finalization.LockEffect (world.runs event.process) event.process
      event.failure world.lockFile ((world.step event).runs event.process)
      (world.step event).lockFile := by
  rw [step_self]
  exact Finalization.advance_effect (invariant.consistent _)

/-- A run that holds the lock after another run's statement held it before. -/
theorem holds_before {world : World ρ} {event : Event ρ} {other : ρ} (apart : other ≠ event.process)
    (holds : ((world.step event).runs other).Holds) : (world.runs other).Holds := by
  rwa [step_others world apart] at holds

namespace LockInvariant

variable {world : World ρ} {event : Event ρ}

/-- Exclusion is kept when the run that moves held the lock before, or no other run does. -/
theorem excludes_step (invariant : world.LockInvariant)
    (moved : ((world.step event).runs event.process).Holds → (world.runs event.process).Holds ∨
      ∀ other, other ≠ event.process → ¬(world.runs other).Holds)
        : (world.step event).Excludes := by
  intro first second firstHolds secondHolds
  by_cases firstMoved : first = event.process
  · by_cases secondMoved : second = event.process
    · exact firstMoved.trans secondMoved.symm
    · have before := holds_before secondMoved secondHolds
      subst firstMoved
      rcases moved firstHolds with held | alone
      · exact invariant.excludes _ _ held before
      · exact absurd before (alone second secondMoved)
  · have before := holds_before firstMoved firstHolds
    by_cases secondMoved : second = event.process
    · subst secondMoved
      rcases moved secondHolds with held | alone
      · exact invariant.excludes _ _ before held
      · exact absurd before (alone first firstMoved)
    · exact invariant.excludes _ _ before (holds_before secondMoved secondHolds)

omit [DecidableEq ρ] in
/-- When the lock file is created under the condition, no run holds the lock. -/
theorem none_holds (invariant : world.LockInvariant) (clear : world.Clear event)
    (phase : (world.runs event.process).phase = .acquire) (succeeds : event.failure = none)
    (absent : world.lockFile = none) (other : ρ) : ¬(world.runs other).Holds := by
  intro holds
  rcases invariant.covered other holds with present | abandoned
  · rw [absent] at present
    cases present
  · exact (clear succeeds).1 phase absent other abandoned

theorem step (invariant : world.LockInvariant) (clear : world.Clear event) :
    (world.step event).LockInvariant := by
  have consistent : ∀ process, ((world.step event).runs process).Consistent := by
    intro process
    by_cases moved : process = event.process
    · subst moved
      rw [step_self]
      exact Finalization.advance_consistent (invariant.consistent _)
    · rw [step_others world moved]
      exact invariant.consistent process
  have effect := invariant.effect event
  generalize isRun : (world.step event).runs event.process = run at effect
  generalize isLock : (world.step event).lockFile = lockFile at effect
  cases effect with
  | kept held abandoned =>
      refine ⟨consistent, fun process holds => ?_, fun process owner gone present => ?_, ?_⟩
      · by_cases moved : process = event.process
        · subst moved
          rw [isRun] at holds ⊢
          rcases invariant.covered _ (held holds) with present | gone
          · exact .inl (isLock.trans present)
          · exact .inr (abandoned gone holds)
        · rw [step_others world moved] at holds ⊢
          rw [isLock]
          exact invariant.covered process holds
      · rw [isLock] at present
        by_cases moved : process = event.process
        · subst moved
          rw [isRun] at gone
          rcases invariant.covered _ (held gone.holds) with mine | earlier
          · exact Option.some.inj (present.symm.trans mine)
          · exact invariant.vacant _ owner earlier present
        · rw [step_others world moved] at gone
          exact invariant.vacant process owner gone present
      · exact invariant.excludes_step fun holds => .inl (held (isRun ▸ holds))
  | created phase succeeds absent holds retained =>
      have free := invariant.none_holds clear phase succeeds absent
      refine ⟨consistent, fun process holding => ?_, fun process owner gone present => ?_, ?_⟩
      · by_cases moved : process = event.process
        · exact .inl (by rw [isLock, moved])
        · exact absurd (holds_before moved holding) (free process)
      · by_cases moved : process = event.process
        · subst moved
          exact absurd (isRun ▸ gone) retained
        · exact absurd (holds_before moved gone.holds) (free process)
      · exact invariant.excludes_step fun _ => .inr fun other _ => free other
  | givenUp held abandoned =>
      refine ⟨consistent, fun process holding => ?_, fun process owner gone present => ?_, ?_⟩
      · by_cases moved : process = event.process
        · subst moved
          exact .inr (by rw [isRun]; exact abandoned)
        · exact absurd (invariant.excludes _ _ (holds_before moved holding) held) moved
      · rw [isLock] at present
        cases present
      · exact invariant.excludes_step fun _ => .inl held
  | released phase succeeds present done =>
      refine ⟨consistent, fun process holding => ?_, fun process owner gone there => ?_, ?_⟩
      · by_cases moved : process = event.process
        · subst moved
          exact absurd (isRun ▸ holding) done
        · have before := holds_before moved holding
          rw [step_others world moved]
          rcases invariant.covered process before with mine | gone
          · exact absurd ((clear succeeds).2 phase process mine) moved
          · exact .inr gone
      · rw [isLock] at there
        cases there
      · exact invariant.excludes_step fun holds => absurd (isRun ▸ holds) done

theorem respects_of_clear (invariant : world.LockInvariant) (clear : world.Clear event) :
    world.Respects event := by
  refine ⟨fun outside owner apart present => ?_, (invariant.step clear).excludes⟩
  have effect := invariant.effect event
  generalize isLock : (world.step event).lockFile = lockFile at effect
  cases effect with
  | kept held abandoned => exact present
  | created phase succeeds absent holds retained =>
      rw [absent] at present
      cases present
  | givenUp held abandoned =>
      have created := held.1
      rw [outside] at created
      cases created
  | released phase succeeds there done =>
      exact absurd ((clear succeeds).2 phase owner present) apart

theorem clear_of_respects (invariant : world.LockInvariant) (respects : world.Respects event) :
    world.Clear event := by
  obtain ⟨leaves, excludes⟩ := respects
  refine fun succeeds => ⟨fun phase absent other abandoned => ?_, fun phase owner present => ?_⟩
  · -- the run that abandoned its lock and the one that creates the file would both hold the lock
    have outside : (world.runs event.process).created = false := by
      have consistent := invariant.consistent event.process
      rw [Finalization.Consistent, phase] at consistent
      exact consistent.1
    have apart : other ≠ event.process := by
      rintro rfl
      have created := abandoned.1
      rw [outside] at created
      cases created
    have holds : ((world.step event).runs event.process).Holds := by
      rw [step_self]
      simp [Finalization.advance, Finalization.Holds, phase, succeeds, absent]
    have still : ((world.step event).runs other).Holds := by
      rw [step_others world apart]
      exact abandoned.holds
    exact apart (excludes _ _ still holds)
  · by_contra apart
    have unlinked : (world.step event).lockFile = none := by
      simp [World.step, Finalization.advance, phase, succeeds, present]
    cases created : (world.runs event.process).created with
    | false =>
        have left := leaves created owner apart present
        rw [unlinked] at left
        cases left
    | true =>
        have holds : (world.runs event.process).Holds := ⟨created, by rw [phase]; simp⟩
        rcases invariant.covered _ holds with mine | abandoned
        · exact apart (Option.some.inj (present.symm.trans mine))
        · exact apart (invariant.vacant _ owner abandoned present)

end LockInvariant

/-- Run 0 takes the lock, run 1 is refused and cleans up, and run 2 takes the lock. -/
def refusedCleansUp : List (Event ℕ) :=
  [⟨0, none⟩, ⟨1, none⟩, ⟨2, none⟩, ⟨0, none⟩, ⟨0, none⟩, ⟨1, none⟩, ⟨1, none⟩, ⟨1, none⟩,
    ⟨1, none⟩, ⟨1, none⟩, ⟨2, none⟩]

/-- The cleanup of the refused run 1 unlinks the lock file of run 0, so run 2 gets the lock too. -/
theorem finalizers_not_exclusive : ¬Along step Respects (start : World ℕ) refusedCleansUp ∧
      (run step (start : World ℕ) (refusedCleansUp.take 9)).lockFile = some 0 ∧
      (run step (start : World ℕ) (refusedCleansUp.take 10)).lockFile = none ∧
      ¬(run step (start : World ℕ) refusedCleansUp).Excludes := by
  refine ⟨fun along => ?_, rfl, rfl, fun excludes => ?_⟩
  · obtain ⟨-, -, -, -, -, -, -, -, -, ⟨leaves, -⟩, -⟩ := along
    have left := leaves rfl 0 (by decide) rfl
    cases left
  · have same := excludes 0 2 ⟨rfl, by decide⟩ ⟨rfl, by decide⟩
    cases same

/-- Finalizers exclude each other and leave each other's lock files in a run, exactly when no lock
file is created during the cleanup of a run that abandoned its own, and no cleanup unlinks another
run's lock file. -/
theorem finalizers_exclude_iff (events : List (Event ρ)) :
    Along step Respects (start : World ρ) events ↔ Along step Clear start events :=
  along_congr
    (fun _ _ invariant => ⟨invariant.clear_of_respects, invariant.respects_of_clear⟩)
    (fun _ _ invariant clear => LockInvariant.step invariant clear) LockInvariant.start events

end World

end VoodooOne.Checkpoint
