import Mathlib.Algebra.Order.Group.Int
import Mathlib.Data.Option.Basic

/-!
# Lockouts

Failures are counted in a window of time.  When a window holds too many of them, the counter is
locked
for a while, and then starts again.  A counter that was not touched for long may be forgotten.
-/

namespace Lockout

/-- The limits of a counter.  A counter is kept for at least a window and a lockout. -/
structure Limits where
  (maximum window lockout retention : ℤ)
  maximum_pos : 0 < maximum
  window_le : window ≤ retention
  lockout_le : lockout ≤ retention

inductive Counter where
  | counting (count start updated : ℤ)
  | locked (stop updated : ℤ)
deriving DecidableEq, Repr

inductive Operation where
  /-- An attempt, admitted unless the counter is locked. -/
  | attempt
  /-- A failure, after the counters that were not touched for long are forgotten. -/
  | failure
  /-- The counters that were not touched for long are forgotten. -/
  | purge
  /-- The counter is forgotten. -/
  | reset
  | idle
deriving DecidableEq, Repr

namespace Counter

variable (limits : Limits)

/-- When the counter was touched last. -/
def updated : Counter → ℤ
  | counting _ _ updated => updated
  | locked _ updated => updated

def Locked (now : ℤ) : Counter → Prop
  | counting _ _ _ => False
  | locked stop _ => now < stop

instance (now : ℤ) (counter : Counter) : Decidable (counter.Locked now) := by
  cases counter <;> unfold Locked <;> infer_instance

/-- A counter is not locked any more, or its window is ended. -/
def Stale (now : ℤ) : Counter → Prop
  | counting _ start _ => limits.window ≤ now - start
  | locked stop _ => stop ≤ now

instance (now : ℤ) (counter : Counter) : Decidable (counter.Stale limits now) := by
  cases counter <;> unfold Stale <;> infer_instance

/-- The counter with a number of failures in the window that started at a moment. -/
def tally (now count start : ℤ) : Counter :=
  if limits.maximum ≤ count then locked (now + limits.lockout) now else counting count start now

end Counter

section Step

variable (limits : Limits)

def fail (now : ℤ) : Option Counter → Counter
  | none => .tally limits now 1 now
  | some (.locked stop updated) =>
      if now < stop then .locked stop updated else .tally limits now 1 now
  | some (.counting count start _) =>
      if limits.window ≤ now - start then .tally limits now 1 now
      else .tally limits now (count + 1) start

/-- The counter, unless it was not touched for long. -/
def purge (now : ℤ) (state : Option Counter) : Option Counter :=
  state.filter fun counter => now - limits.retention ≤ counter.updated

def step (state : Option Counter) (now : ℤ) : Operation → Option Counter
  | .attempt => state.filter fun counter => ¬counter.Stale limits now
  | .failure => some (fail limits now (purge limits now state))
  | .purge => purge limits now state
  | .reset => none
  | .idle => state

def Admits (now : ℤ) (state : Option Counter) : Prop := ∀ counter ∈ state, ¬counter.Locked now

instance (now : ℤ) (state : Option Counter) : Decidable (Admits now state) :=
  inferInstanceAs (Decidable (∀ counter ∈ state, ¬counter.Locked now))

end Step

/-- What is true of every counter that was reached. -/
def Counter.Valid (limits : Limits) : Counter → Prop
  | counting count _ _ => 1 ≤ count ∧ count < limits.maximum
  | locked stop updated => stop = updated + limits.lockout

section Invariant

variable {limits : Limits} {state : Option Counter} {now : ℤ}

theorem tally_valid {count start : ℤ} (positive : 1 ≤ count) :
    (Counter.tally limits now count start).Valid limits := by
  unfold Counter.tally
  split
  · exact rfl
  · next below => exact ⟨positive, not_le.mp below⟩

theorem fail_valid (valid : ∀ counter ∈ state, counter.Valid limits) :
    (fail limits now state).Valid limits := by
  cases state with
  | none => exact tally_valid le_rfl
  | some counter =>
      cases counter with
      | locked stop updated =>
          rw [fail]
          split
          · exact valid _ rfl
          · exact tally_valid le_rfl
      | counting count start updated =>
          have counted : 1 ≤ count := (valid _ rfl).1
          rw [fail]
          split
          · exact tally_valid le_rfl
          · exact tally_valid (by omega)

theorem step_valid (valid : ∀ counter ∈ state, counter.Valid limits) (operation : Operation) :
    ∀ counter ∈ step limits state now operation, counter.Valid limits := by
  have filtered (keep : Counter → Bool) : ∀ counter ∈ state.filter keep, counter.Valid limits :=
    fun counter member => valid counter (Option.mem_filter_iff.mp member).1
  cases operation with
  | attempt => exact filtered _
  | purge => exact filtered _
  | failure =>
      rintro _ ⟨⟩
      exact fail_valid (filtered _)
  | reset => exact fun _ member => absurd member (Option.not_mem_none _)
  | idle => exact valid

end Invariant

theorem step_locked {limits : Limits} {stop updated now : ℤ}
    (valid : (Counter.locked stop updated).Valid limits) (before : now < stop)
    {operation : Operation} (kept : operation ≠ .reset) :
    step limits (some (.locked stop updated)) now operation = some (.locked stop updated) := by
  have isStop : stop = updated + limits.lockout := valid
  have retained : now - limits.retention ≤ updated := by
    have lockout := limits.lockout_le
    omega
  have unpurged : purge limits now (some (.locked stop updated)) = some (.locked stop updated) := by
    rw [purge, Option.filter_some]
    exact if_pos (decide_eq_true retained)
  cases operation with
  | attempt =>
      have notStale : ¬(Counter.locked stop updated).Stale limits now := not_le.mpr before
      rw [step, Option.filter_some, if_pos (decide_eq_true notStale)]
  | failure => rw [step, unpurged, fail, if_pos before]
  | purge => exact unpurged
  | reset => exact absurd rfl kept
  | idle => rfl

/-- How many more failures can be admitted within a window and a lockout of a moment. -/
def potential (limits : Limits) (moment : ℤ) : Option Counter → ℤ
  | none => limits.maximum
  | some (.locked stop _) => if moment + limits.lockout ≤ stop then 0 else limits.maximum
  | some (.counting count start updated) =>
      if moment ≤ start ∧ moment ≤ updated then limits.maximum - count
      else 2 * limits.maximum - 1 - count

/-- A moment is less than a window and less than a lockout after another. -/
structure Within (limits : Limits) (moment now : ℤ) : Prop where
  after : moment ≤ now
  window : now < moment + limits.window
  lockout : now < moment + limits.lockout

section Potential

variable {limits : Limits} {state : Option Counter} {moment now : ℤ}

theorem potential_le (valid : ∀ counter ∈ state, counter.Valid limits) :
    potential limits moment state ≤ 2 * limits.maximum - 1 := by
  have positive := limits.maximum_pos
  cases state with
  | none =>
      rw [potential]
      omega
  | some counter =>
      cases counter with
      | locked stop updated =>
          rw [potential]
          split <;> omega
      | counting count start updated =>
          have counted : 1 ≤ count := (valid _ rfl).1
          rw [potential]
          split <;> omega

theorem potential_nonneg (valid : ∀ counter ∈ state, counter.Valid limits) :
    0 ≤ potential limits moment state := by
  have positive := limits.maximum_pos
  cases state with
  | none =>
      rw [potential]
      omega
  | some counter =>
      cases counter with
      | locked stop updated =>
          rw [potential]
          split <;> omega
      | counting count start updated =>
          have below : count < limits.maximum := (valid _ rfl).2
          rw [potential]
          split <;> omega

theorem potential_none_le (valid : ∀ counter ∈ state, counter.Valid limits)
    (old : ∀ counter ∈ state, ∀ count start updated,
      counter = .counting count start updated → ¬(moment ≤ start ∧ moment ≤ updated))
    (ended : ∀ counter ∈ state, ∀ stop updated,
      counter = .locked stop updated → stop < moment + limits.lockout) :
    limits.maximum ≤ potential limits moment state := by
  cases state with
  | none => exact le_rfl
  | some counter =>
      cases counter with
      | locked stop updated =>
          have isOver := ended _ rfl _ _ rfl
          rw [potential, if_neg (not_le.mpr isOver)]
      | counting count start updated =>
          have below : count < limits.maximum := (valid _ rfl).2
          rw [potential, if_neg (old _ rfl _ _ _ rfl)]
          omega

theorem potential_purge (valid : ∀ counter ∈ state, counter.Valid limits)
    (within : Within limits moment now) :
    potential limits moment (purge limits now state) ≤ potential limits moment state := by
  have retained := limits.window_le
  have lockout := limits.lockout_le
  have window := within.window
  cases state with
  | none => exact le_rfl
  | some counter =>
      rw [purge, Option.filter_some]
      split
      · exact le_rfl
      · next forgotten =>
        have early : counter.updated < now - limits.retention :=
          not_le.mp fun kept => forgotten (decide_eq_true kept)
        refine potential_none_le valid ?_ ?_
        · rintro _ ⟨⟩ count start updated rfl ⟨-, after⟩
          have isEarly : updated < now - limits.retention := early
          omega
        · rintro _ ⟨⟩ stop updated rfl
          have isEarly : updated < now - limits.retention := early
          have isStop : stop = updated + limits.lockout := valid _ rfl
          omega

theorem potential_attempt (valid : ∀ counter ∈ state, counter.Valid limits)
    (within : Within limits moment now) :
    potential limits moment (step limits state now .attempt) ≤ potential limits moment state := by
  have window := within.window
  have lockout := within.lockout
  cases state with
  | none => exact le_rfl
  | some counter =>
      rw [step, Option.filter_some]
      split
      · exact le_rfl
      · next dropped =>
        have stale : counter.Stale limits now := by simpa using dropped
        refine potential_none_le valid ?_ ?_
        · rintro _ ⟨⟩ count start updated rfl ⟨started, -⟩
          have isStale : limits.window ≤ now - start := stale
          omega
        · rintro _ ⟨⟩ stop updated rfl
          have isStale : stop ≤ now := stale
          omega

theorem potential_tally {count start bound : ℤ} (after : moment ≤ now) (nonneg : 0 ≤ bound)
    (counting : count < limits.maximum →
      potential limits moment (some (.counting count start now)) ≤ bound) :
    potential limits moment (some (Counter.tally limits now count start)) ≤ bound := by
  unfold Counter.tally
  split
  · rw [potential, if_pos (by omega)]
    exact nonneg
  · next below => exact counting (not_le.mp below)

theorem potential_fail (valid : ∀ counter ∈ state, counter.Valid limits)
    (within : Within limits moment now) :
    potential limits moment (some (fail limits now state)) + (if Admits now state then 1 else 0) ≤
      potential limits moment state := by
  have after := within.after
  have positive := limits.maximum_pos
  have first : potential limits moment (some (Counter.tally limits now 1 now)) ≤
      limits.maximum - 1 := by
    refine potential_tally after (by omega) fun _ => ?_
    rw [potential, if_pos ⟨after, after⟩]
  cases state with
  | none =>
      have admitted : Admits now none := fun _ member => absurd member (Option.not_mem_none _)
      rw [fail, if_pos admitted, potential]
      omega
  | some counter =>
      cases counter with
      | locked stop updated =>
          rw [fail]
          by_cases before : now < stop
          · have refused : ¬Admits now (some (.locked stop updated)) := fun admits =>
              admits _ rfl before
            rw [if_pos before, if_neg refused, add_zero]
          · have admitted : Admits now (some (.locked stop updated)) := by
              rintro _ ⟨⟩
              exact before
            have lockout := within.lockout
            rw [if_neg before, if_pos admitted]
            rw [potential, if_neg (by omega)]
            omega
      | counting count start updated =>
          obtain ⟨counted, below⟩ : 1 ≤ count ∧ count < limits.maximum := valid _ rfl
          have admitted : Admits now (some (.counting count start updated)) := by
            rintro _ ⟨⟩
            exact id
          have window := within.window
          rw [fail, if_pos admitted]
          by_cases stale : limits.window ≤ now - start
          · rw [if_pos stale]
            rw [potential, if_neg (by omega)]
            omega
          · rw [if_neg stale]
            have next : potential limits moment (some (Counter.tally limits now (count + 1) start))
              ≤
                potential limits moment (some (.counting count start updated)) - 1 := by
              refine potential_tally after ?_ fun _ => ?_
              · rw [potential]
                split <;> omega
              · rw [potential, potential]
                split <;> split <;> omega
            omega

theorem admits_purge (valid : ∀ counter ∈ state, counter.Valid limits) :
    Admits now (purge limits now state) ↔ Admits now state := by
  cases state with
  | none => exact Iff.rfl
  | some counter =>
      rw [purge, Option.filter_some]
      split
      · exact Iff.rfl
      · next forgotten =>
        have early : counter.updated < now - limits.retention :=
          not_le.mp fun kept => forgotten (decide_eq_true kept)
        refine iff_of_true (fun _ member => absurd member (Option.not_mem_none _)) ?_
        rintro _ ⟨⟩
        cases counter with
        | counting count start updated => exact id
        | locked stop updated =>
            have isEarly : updated < now - limits.retention := early
            have isStop : stop = updated + limits.lockout := valid _ rfl
            have lockout := limits.lockout_le
            exact not_lt.mpr (by omega)

/-- No operation but a reset raises the potential, and a failure that is admitted lowers it. -/
theorem potential_step (valid : ∀ counter ∈ state, counter.Valid limits)
    (within : Within limits moment now) {operation : Operation} (kept : operation ≠ .reset) :
    potential limits moment (step limits state now operation) +
        (if operation = .failure ∧ Admits now state then 1 else 0) ≤
      potential limits moment state := by
  have other (different : operation ≠ .failure)
      (lowers : potential limits moment (step limits state now operation) ≤
        potential limits moment state) :
      potential limits moment (step limits state now operation) +
          (if operation = .failure ∧ Admits now state then 1 else 0) ≤
        potential limits moment state := by
    rw [if_neg fun both => different both.1, add_zero]
    exact lowers
  cases operation with
  | attempt => exact other (by decide) (potential_attempt valid within)
  | purge => exact other (by decide) (potential_purge valid within)
  | idle => exact other (by decide) le_rfl
  | reset => exact absurd rfl kept
  | failure =>
      have purged : ∀ counter ∈ purge limits now state, counter.Valid limits :=
        step_valid valid .purge
      have lowered := potential_fail purged within
      have smaller := potential_purge valid within
      simp only [admits_purge valid] at lowered
      simp only [step, true_and]
      exact lowered.trans smaller

end Potential

def admittedFailures (limits : Limits) : Option Counter → List (ℤ × Operation) → ℤ
  | _, [] => 0
  | state, (now, operation) :: events =>
      (if operation = .failure ∧ Admits now state then 1 else 0) +
        admittedFailures limits (step limits state now operation) events

/-- Without a reset, fewer than twice the maximum of failures are admitted in a span of time. -/
theorem admittedFailures_le {limits : Limits} {state : Option Counter} {moment : ℤ}
    (valid : ∀ counter ∈ state, counter.Valid limits) {events : List (ℤ × Operation)}
    (within : ∀ event ∈ events, Within limits moment event.1)
    (kept : ∀ event ∈ events, event.2 ≠ .reset) :
    admittedFailures limits state events ≤ potential limits moment state := by
  induction events generalizing state with
  | nil => exact potential_nonneg valid
  | cons event events induction =>
      obtain ⟨now, operation⟩ := event
      rw [List.forall_mem_cons] at within kept
      have next : ∀ counter ∈ step limits state now operation, counter.Valid limits :=
        step_valid valid operation
      have later := induction next within.2 kept.2
      have lowered := potential_step valid within.1 kept.1
      dsimp only at lowered
      rw [admittedFailures]
      omega

end Lockout
