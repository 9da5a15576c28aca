import VoodooOne.Identity.LoginLimits

/-!
# Lockouts of authentication

The rows of one key are a counter: every call does one operation on it, whatever it does to other
keys.  So a blocked key stays blocked, and the failures that are admitted in a short time are
bounded.
-/

namespace VoodooOne

open Lockout

def AuthRateLimitRow.counter (row : AuthRateLimitRow) : Counter :=
  if row.blockedUntil = 0 then
    .counting row.failureCount row.windowStartedAt row.updatedAt
  else .locked row.blockedUntil row.updatedAt

def counterAt (rows : List AuthRateLimitRow) (key : String × String) : Option Counter :=
  (Table.lookup AuthRateLimitRow.key rows key).map (·.counter)

/-- What is true of every table that was reached, apart from the counters. -/
structure RateLimitRows (rows : List AuthRateLimitRow) : Prop where
  keyed : Table.Keyed AuthRateLimitRow.key rows
  blockedUntil : ∀ row ∈ rows, 0 ≤ row.blockedUntil

namespace AuthRateLimitRow

variable {row : AuthRateLimitRow} {now : Int}

theorem counter_updated (row : AuthRateLimitRow) : row.counter.updated = row.updatedAt := by
  unfold counter
  split <;> rfl

theorem counter_locked (clock : 0 ≤ now) : row.counter.Locked now ↔ now < row.blockedUntil := by
  unfold counter
  split
  · next unblocked =>
    rw [unblocked]
    exact iff_of_false id (not_lt.mpr clock)
  · exact Iff.rfl

theorem counter_stale {limits : Limits} (nonneg : 0 ≤ row.blockedUntil) (clock : 0 ≤ now) :
    row.counter.Stale limits now ↔ ¬now < row.blockedUntil ∧
      (0 < row.blockedUntil ∨ limits.window ≤ now - row.windowStartedAt) := by
  unfold counter
  split
  · next unblocked =>
    rw [unblocked, and_iff_right (not_lt.mpr clock), or_iff_right (lt_irrefl _)]
    exact Iff.rfl
  · next blocked =>
    have positive : 0 < row.blockedUntil := lt_of_le_of_ne nonneg (Ne.symm blocked)
    rw [and_iff_left (.inl positive), not_lt]
    exact Iff.rfl

end AuthRateLimitRow

section Statements

variable {rows : List AuthRateLimitRow} {key : String × String}

theorem RateLimitRows.filter (held : RateLimitRows rows) (keep : AuthRateLimitRow → Bool) :
    RateLimitRows (rows.filter keep) :=
  ⟨held.keyed.filter keep, fun row member => held.blockedUntil row (List.mem_filter.mp member).1⟩

theorem counterAt_filter (held : RateLimitRows rows) (keep : AuthRateLimitRow → Bool)
    (keeps : Counter → Bool) (same : ∀ row ∈ rows, row.key = key → keep row = keeps row.counter) :
    counterAt (rows.filter keep) key = (counterAt rows key).filter keeps := by
  rw [counterAt, held.keyed.lookup_filter, counterAt]
  cases found : Table.lookup AuthRateLimitRow.key rows key with
  | none => rfl
  | some row =>
      obtain ⟨member, isKey⟩ := Table.mem_of_lookup found
      rw [Option.filter_some, Option.map_some, Option.filter_some, same row member isKey]
      split <;> rfl

variable (service : AuthenticationRateLimitService)

theorem counterAt_delete (held : RateLimitRows rows) (entry : RateLimitEntry) :
    counterAt (service.delete rows entry) key =
      if key = service.key entry then none else counterAt rows key := by
  unfold AuthenticationRateLimitService.delete
  by_cases same : key = service.key entry
  · rw [if_pos same, counterAt_filter held _ (fun _ => false)]
    · cases counterAt rows key <;> rfl
    · rintro row member isKey
      exact decide_eq_false (not_not.mpr (isKey.trans same))
  · rw [if_neg same, counterAt_filter held _ (fun _ => true)]
    · cases counterAt rows key <;> rfl
    · rintro row member isKey
      exact decide_eq_true fun other => same (isKey.symm.trans other)

theorem counterAt_deleteExpired (held : RateLimitRows rows) (limits : Limits) (now : Int) :
    counterAt (AuthenticationRateLimitService.deleteExpired rows (now - limits.retention)) key =
      purge limits now (counterAt rows key) := by
  refine counterAt_filter held _ _ fun row member isKey => ?_
  rw [row.counter_updated]
  exact decide_eq_decide.mpr not_lt

theorem RateLimitRows.upsert (held : RateLimitRows rows) {row : AuthRateLimitRow}
    (nonneg : 0 ≤ row.blockedUntil) :
    RateLimitRows (Table.upsert AuthRateLimitRow.key rows row) where
  keyed := held.keyed.upsert
  blockedUntil other member := by
    unfold Table.upsert at member
    split at member
    · rcases List.mem_append.mp member with there | new
      · exact held.blockedUntil other there
      · exact List.mem_singleton.mp new ▸ nonneg
    · rcases Table.mem_replace.mp member with ⟨rfl, -⟩ | ⟨there, -⟩
      · exact nonneg
      · exact held.blockedUntil other there

theorem counterAt_upsert (row : AuthRateLimitRow) :
    counterAt (Table.upsert AuthRateLimitRow.key rows row) key =
      if key = row.key then some row.counter else counterAt rows key := by
  rw [counterAt, Table.lookup_upsert, counterAt]
  split <;> rfl

end Statements

namespace AuthenticationRateLimitService

variable (service : AuthenticationRateLimitService)

def maximum (scope : String) : Int :=
  if scope = "login.source" then service.config.authSourceMaxFailures
  else service.config.authMaxFailures

theorem maximum_pos (scope : String) : 0 < service.maximum scope := by
  have account := service.config.maxFailures
  have source := service.config.sourceMaxFailures
  unfold maximum
  split <;> omega

def limits (scope : String) : Limits where
  maximum := service.maximum scope
  window := service.config.authWindowSeconds
  lockout := service.config.authLockoutSeconds
  retention := service.retention
  maximum_pos := service.maximum_pos scope
  window_le := by
    have window := service.config.windowSeconds
    unfold retention
    omega
  lockout_le := by
    have lockout := service.config.lockoutSeconds
    unfold retention
    omega

theorem entries_maximum (subject : AuthSubject) :
    ∀ entry ∈ service.entries subject, entry.maximum = service.maximum entry.scope := by
  cases subject <;> simp [entries, maximum]

theorem keys_nodup (call : AuthCall) : (service.keys call).Nodup := by
  unfold keys
  cases call.subject <;> simp [entries, key]

section Entry

variable {service} {state : RateLimitState} {entry : RateLimitEntry} {now : Int}
  {key : String × String}

theorem enforceEntry_rows (held : RateLimitRows state.rows) :
    RateLimitRows (service.enforceEntry now state entry).rows := by
  unfold enforceEntry
  split
  · exact held
  · split
    · exact held
    · split
      · exact held.filter _
      · exact held

theorem enforceEntry_counterAt (held : RateLimitRows state.rows) (clock : 0 ≤ now)
    (limits : Limits) (window : limits.window = service.config.authWindowSeconds) :
    counterAt (service.enforceEntry now state entry).rows key =
      if key = service.key entry then Lockout.step limits (counterAt state.rows key) now .attempt
      else counterAt state.rows key := by
  by_cases same : key = service.key entry
  · subst same
    rw [if_pos rfl, Lockout.step]
    unfold enforceEntry select
    cases found : Table.lookup AuthRateLimitRow.key state.rows (service.key entry) with
    | none =>
        have absent : counterAt state.rows (service.key entry) = none := by
          rw [counterAt, found]
          rfl
        dsimp only
        rw [absent]
        rfl
    | some row =>
        obtain ⟨member, -⟩ := Table.mem_of_lookup found
        have present : counterAt state.rows (service.key entry) = some row.counter := by
          rw [counterAt, found]
          rfl
        have stale : row.counter.Stale limits now ↔ _ :=
          row.counter_stale (held.blockedUntil row member) clock
        rw [window] at stale
        rw [present, Option.filter_some]
        dsimp only
        by_cases blocked : now < row.blockedUntil
        · have fresh : ¬row.counter.Stale limits now := fun isStale => (stale.mp isStale).1 blocked
          rw [if_pos blocked, if_pos (decide_eq_true fresh), present]
        · rw [if_neg blocked]
          by_cases ended : 0 < row.blockedUntil ∨
              service.config.authWindowSeconds ≤ now - row.windowStartedAt
          · have isStale := stale.mpr ⟨blocked, ended⟩
            rw [if_pos ended, counterAt_delete service held, if_pos rfl, if_neg]
            exact fun fresh => of_decide_eq_true fresh isStale
          · have fresh : ¬row.counter.Stale limits now := fun isStale => ended (stale.mp isStale).2
            rw [if_neg ended, if_pos (decide_eq_true fresh), present]
  · rw [if_neg same]
    unfold enforceEntry
    split
    · rfl
    · split
      · rfl
      · split
        · exact (counterAt_delete service held entry).trans (if_neg same)
        · rfl

/-- The retry time stays zero where no key is locked. -/
theorem enforceEntry_retry (clock : 0 ≤ now) (nonneg : 0 ≤ state.retryAfter) :
    0 ≤ (service.enforceEntry now state entry).retryAfter ∧
      ((service.enforceEntry now state entry).retryAfter = 0 ↔
        state.retryAfter = 0 ∧ Admits now (counterAt state.rows (service.key entry))) := by
  unfold enforceEntry counterAt select
  cases Table.lookup AuthRateLimitRow.key state.rows (service.key entry) with
  | none =>
      refine ⟨nonneg, ?_⟩
      dsimp only
      rw [Option.map_none, and_iff_left]
      exact fun _ member => absurd member (Option.not_mem_none _)
  | some row =>
      have admits : Admits now (some row.counter) ↔ ¬now < row.blockedUntil := by
        rw [← row.counter_locked clock]
        exact ⟨fun admits => admits _ rfl, fun free _ member => Option.some.inj member ▸ free⟩
      dsimp only
      rw [Option.map_some, admits]
      by_cases blocked : now < row.blockedUntil
      · rw [if_pos blocked]
        have positive : 0 < max state.retryAfter (row.blockedUntil - now) :=
          lt_max_of_lt_right (by omega)
        exact ⟨positive.le, iff_of_false positive.ne' fun both => both.2 blocked⟩
      · rw [if_neg blocked, and_iff_left blocked]
        split <;> exact ⟨nonneg, Iff.rfl⟩

theorem writeFailures_rows (clock : 0 ≤ now) (held : RateLimitRows state.rows) (count start : Int) :
    RateLimitRows (service.writeFailures now count start state entry).rows := by
  refine held.upsert ?_
  have lockout := service.config.lockoutSeconds
  dsimp only
  split <;> omega

theorem writeFailures_counterAt (clock : 0 ≤ now) (count start : Int)
    (maximum : entry.maximum = service.maximum entry.scope) :
    counterAt (service.writeFailures now count start state entry).rows key =
      if key = service.key entry then
        some (Counter.tally (service.limits key.1) now count start)
      else counterAt state.rows key := by
  have lockout := service.config.lockoutSeconds
  refine (counterAt_upsert _).trans ?_
  by_cases same : key = service.key entry
  · subst same
    refine (if_pos rfl).trans ((congrArg some ?_).trans (if_pos rfl).symm)
    have isMaximum : (service.limits entry.scope).maximum = entry.maximum := maximum.symm
    unfold AuthRateLimitRow.counter Counter.tally
    rw [key, isMaximum]
    dsimp only
    by_cases reached : entry.maximum ≤ count
    · rw [if_pos reached, if_pos reached, if_neg (by omega)]
      rfl
    · rw [if_neg reached, if_neg reached, if_pos rfl]
  · rw [if_neg same]
    exact if_neg same

theorem recordEntry_rows (clock : 0 ≤ now) (held : RateLimitRows state.rows) :
    RateLimitRows (service.recordEntry now state entry).rows := by
  unfold recordEntry
  split
  · exact writeFailures_rows clock held _ _
  · split
    · exact held
    · split
      · exact writeFailures_rows clock held _ _
      · exact writeFailures_rows clock held _ _

theorem recordEntry_counterAt (held : RateLimitRows state.rows) (clock : 0 ≤ now)
    (maximum : entry.maximum = service.maximum entry.scope) :
    counterAt (service.recordEntry now state entry).rows key =
      if key = service.key entry then
        some (fail (service.limits key.1) now (counterAt state.rows key))
      else counterAt state.rows key := by
  have written (count start : Int) :
      counterAt (service.writeFailures now count start state entry).rows key = _ :=
    writeFailures_counterAt clock count start maximum
  unfold recordEntry select
  by_cases same : key = service.key entry
  · subst same
    simp only [if_pos] at written ⊢
    cases found : Table.lookup AuthRateLimitRow.key state.rows (service.key entry) with
    | none =>
        have absent : counterAt state.rows (service.key entry) = none := by
          rw [counterAt, found]
          rfl
        dsimp only
        rw [written, absent, fail]
    | some row =>
        obtain ⟨member, -⟩ := Table.mem_of_lookup found
        have present : counterAt state.rows (service.key entry) = some row.counter := by
          rw [counterAt, found]
          rfl
        have nonneg := held.blockedUntil row member
        have window : (service.limits (service.key entry).1).window =
            service.config.authWindowSeconds := rfl
        dsimp only
        by_cases unblocked : row.blockedUntil = 0
        · have counter : row.counter =
              .counting row.failureCount row.windowStartedAt row.updatedAt := if_pos unblocked
          have running : ¬now < row.blockedUntil := by omega
          rw [present, counter, fail, if_neg running, window]
          by_cases ended : service.config.authWindowSeconds ≤ now - row.windowStartedAt
          · rw [if_pos (Or.inr ended), if_pos ended, written]
          · have counted : ¬(0 < row.blockedUntil ∨
                service.config.authWindowSeconds ≤ now - row.windowStartedAt) := by omega
            rw [if_neg counted, if_neg ended, written]
        · have counter : row.counter = .locked row.blockedUntil row.updatedAt := if_neg unblocked
          have blocked : 0 < row.blockedUntil := lt_of_le_of_ne nonneg (Ne.symm unblocked)
          by_cases before : now < row.blockedUntil
          · rw [if_pos before, present, counter, fail, if_pos before]
          · rw [if_neg before, if_pos (Or.inl blocked), present, counter, fail, if_neg before,
              written]
  · simp only [if_neg same] at written ⊢
    split
    · exact written _ _
    · split
      · rfl
      · split <;> exact written _ _

end Entry

section Loops

variable {service} {σ : Type} (rows : σ → List AuthRateLimitRow) {change : σ → RateLimitEntry → σ}
  {entries : List RateLimitEntry} {state : σ}

theorem foldl_rows (kept : ∀ state entry, RateLimitRows (rows state) →
      RateLimitRows (rows (change state entry))) (held : RateLimitRows (rows state)) :
    RateLimitRows (rows (entries.foldl change state)) := by
  induction entries generalizing state with
  | nil => exact held
  | cons entry entries induction => exact induction (kept state entry held)

/-- A loop over entries with distinct keys operates once on the counter of each of them. -/
theorem foldl_counterAt {key : String × String} (operate : Option Counter → Option Counter)
    (kept : ∀ state entry, RateLimitRows (rows state) → RateLimitRows (rows (change state entry)))
    (acts : ∀ entry ∈ entries, ∀ state, RateLimitRows (rows state) →
      counterAt (rows (change state entry)) key =
        if key = service.key entry then operate (counterAt (rows state) key)
        else counterAt (rows state) key)
    (distinct : (entries.map service.key).Nodup) (held : RateLimitRows (rows state)) :
    counterAt (rows (entries.foldl change state)) key =
      if key ∈ entries.map service.key then operate (counterAt (rows state) key)
      else counterAt (rows state) key := by
  induction entries generalizing state with
  | nil => rfl
  | cons entry entries induction =>
      rw [List.map_cons, List.nodup_cons] at distinct
      rw [List.forall_mem_cons] at acts
      rw [List.foldl_cons, induction acts.2 distinct.2 (kept state entry held), acts.1 state held]
      simp only [List.map_cons, List.mem_cons]
      by_cases same : key = service.key entry
      · have fresh : key ∉ entries.map service.key := same ▸ distinct.1
        simp only [same ▸ fresh, same, if_false, if_true, true_or]
      · simp only [same, if_false, false_or]

/-- A transaction finds no retry time when none of its keys is locked. -/
theorem foldl_retry {now : Int} (clock : 0 ≤ now) {state : RateLimitState}
    (distinct : (entries.map service.key).Nodup) (held : RateLimitRows state.rows)
    (nonneg : 0 ≤ state.retryAfter) :
    (entries.foldl (service.enforceEntry now) state).retryAfter = 0 ↔ state.retryAfter = 0 ∧
      ∀ entry ∈ entries, Admits now (counterAt state.rows (service.key entry)) := by
  induction entries generalizing state with
  | nil => simp
  | cons entry entries induction =>
      rw [List.map_cons, List.nodup_cons] at distinct
      obtain ⟨nextNonneg, isZero⟩ :
          0 ≤ (service.enforceEntry now state entry).retryAfter ∧ _ :=
        enforceEntry_retry clock nonneg
      rw [List.foldl_cons, induction distinct.2 (enforceEntry_rows held) nextNonneg, isZero,
        List.forall_mem_cons, and_assoc]
      refine and_congr_right fun _ => and_congr_right fun _ => ?_
      refine forall₂_congr fun other member => ?_
      have apart : service.key other ≠ service.key entry := fun same =>
        distinct.1 (same ▸ List.mem_map_of_mem member)
      rw [enforceEntry_counterAt held clock (service.limits "") rfl, if_neg apart]

end Loops

section Calls

variable {service} {rows : List AuthRateLimitRow}

/-- An attempt passes when none of its keys is locked. -/
theorem enforce_ok_iff {now : Int} (clock : 0 ≤ now) {entries : List RateLimitEntry}
    (distinct : (entries.map service.key).Nodup) (held : RateLimitRows rows) :
    (service.enforce now entries rows).1 = .ok () ↔
      ∀ entry ∈ entries, Admits now (counterAt rows (service.key entry)) := by
  have start : RateLimitRows (⟨0, rows⟩ : RateLimitState).rows := held
  have retry := foldl_retry clock distinct start le_rfl
  rw [eq_self, true_and] at retry
  rw [← retry, enforce, raiseRetry]
  split
  · next raised => exact iff_of_false (by simp) raised
  · next silent => exact iff_of_true rfl (not_not.mp silent)

def operation (service : AuthenticationRateLimitService) (key : String × String) (call : AuthCall) :
    Operation :=
  match call.action with
  | .enforce => if key ∈ service.keys call then .attempt else .idle
  | .recordFailure => if key ∈ service.keys call then .failure else .purge
  | .clear => if key ∈ service.keys call then .reset else .idle

theorem step_rows (held : RateLimitRows rows) (call : AuthCall) :
    RateLimitRows (service.step rows call) := by
  have clock : (0 : Int) ≤ call.now := Int.natCast_nonneg _
  unfold step perform
  cases call.action with
  | enforce => exact foldl_rows RateLimitState.rows (fun _ _ held => enforceEntry_rows held) held
  | recordFailure =>
      exact foldl_rows RateLimitState.rows (fun _ _ held => recordEntry_rows clock held)
        (held.filter _)
  | clear => exact foldl_rows id (fun _ _ held => held.filter _) held

theorem step_counterAt (held : RateLimitRows rows) (call : AuthCall) (key : String × String) :
    counterAt (service.step rows call) key =
      Lockout.step (service.limits key.1) (counterAt rows key) call.now
        (service.operation key call) := by
  have clock : (0 : Int) ≤ call.now := Int.natCast_nonneg _
  have distinct := service.keys_nodup call
  unfold step perform operation
  cases call.action with
  | enforce =>
      refine (foldl_counterAt RateLimitState.rows
        (fun counter => Lockout.step (service.limits key.1) counter call.now .attempt)
        (fun _ _ held => enforceEntry_rows held)
        (fun _ _ _ held => enforceEntry_counterAt held clock _ rfl) distinct held).trans ?_
      unfold keys
      dsimp only
      split <;> rfl
  | recordFailure =>
      have purged : counterAt (deleteExpired rows (call.now - service.retention)) key =
          purge (service.limits key.1) call.now (counterAt rows key) :=
        counterAt_deleteExpired held (service.limits key.1) call.now
      refine (foldl_counterAt RateLimitState.rows
        (fun counter => some (fail (service.limits key.1) call.now counter))
        (fun _ _ held => recordEntry_rows clock held)
        (fun entry member _ held => recordEntry_counterAt held clock
          (service.entries_maximum call.subject entry member)) distinct (held.filter _)).trans ?_
      dsimp only
      rw [purged]
      unfold keys
      split <;> rfl
  | clear =>
      refine (foldl_counterAt id (fun _ => none) (fun _ _ held => held.filter _)
        (fun entry _ _ held => counterAt_delete service held entry) distinct held).trans ?_
      unfold keys
      dsimp only
      split <;> rfl

end Calls

/-- What is true of every table that was reached. -/
structure Reached (service : AuthenticationRateLimitService) (rows : List AuthRateLimitRow) :
    Prop where
  table : RateLimitRows rows
  valid : ∀ key, ∀ counter ∈ counterAt rows key, counter.Valid (service.limits key.1)

theorem Reached.step {service : AuthenticationRateLimitService} {rows : List AuthRateLimitRow}
    (reached : service.Reached rows) (call : AuthCall) :
      service.Reached (service.step rows call) where
  table := step_rows reached.table call
  valid key := by
    rw [step_counterAt reached.table]
    exact step_valid (reached.valid key) _

theorem reached_after (calls : List AuthCall) : service.Reached (service.after calls) := by
  have start : service.Reached [] :=
    ⟨⟨List.nodup_nil, List.forall_mem_nil _⟩, fun _ _ member =>
      absurd member (Option.not_mem_none _)⟩
  exact Transaction.run_invariant (fun _ call held => held.step call) start calls

def BlockedUntil (rows : List AuthRateLimitRow) (key : String × String) (stop : Int) : Prop :=
  ∃ row ∈ rows, row.key = key ∧ row.blockedUntil = stop

def Clears (key : String × String) (call : AuthCall) : Prop :=
  call.action = .clear ∧ key ∈ service.keys call

/-- A call records a failure of a key, at a time at which an attempt passes for the key. -/
def AdmittedFailure (key : String × String) (rows : List AuthRateLimitRow) (call : AuthCall) :
    Prop :=
  call.action = .recordFailure ∧ ∃ entry ∈ service.entries call.subject,
    service.key entry = key ∧ (service.enforce call.now [entry] rows).1 = .ok ()

instance (key : String × String) (rows : List AuthRateLimitRow) (call : AuthCall) :
    Decidable (service.AdmittedFailure key rows call) := by
  unfold AdmittedFailure
  infer_instance

/-- The number of failures of a key that calls record and attempts admit. -/
def admittedFailures (key : String × String) : List AuthRateLimitRow → List AuthCall → Nat
  | _, [] => 0
  | rows, call :: calls =>
      (if service.AdmittedFailure key rows call then 1 else 0) +
        admittedFailures key (service.step rows call) calls

/-- Calls without a clear of a key, after others. -/
structure Uncleared (key : String × String) where
  (before calls : List AuthCall)
  /-- The clock does not go back. -/
  ordered : (before ++ calls).Pairwise fun earlier later => earlier.now ≤ later.now
  uncleared : ∀ call ∈ calls, ¬service.Clears key call

section Runs

variable {service} {rows : List AuthRateLimitRow} {key : String × String}

theorem operation_eq_reset {call : AuthCall} :
    service.operation key call = .reset ↔ service.Clears key call := by
  unfold operation Clears
  cases call.action <;> by_cases own : key ∈ service.keys call <;> simp [own]

theorem operation_eq_failure {call : AuthCall} : service.operation key call = .failure ↔
      call.action = .recordFailure ∧ key ∈ service.keys call := by
  unfold operation
  cases call.action <;> by_cases own : key ∈ service.keys call <;> simp [own]

theorem admittedFailure_iff (held : RateLimitRows rows) {call : AuthCall} :
    service.AdmittedFailure key rows call ↔
      service.operation key call = .failure ∧ Admits call.now (counterAt rows key) := by
  have clock : (0 : Int) ≤ call.now := Int.natCast_nonneg _
  have passes (entry : RateLimitEntry) : (service.enforce call.now [entry] rows).1 = .ok () ↔
      Admits call.now (counterAt rows (service.key entry)) := by
    have distinct : ([entry].map service.key).Nodup := List.nodup_singleton _
    rw [enforce_ok_iff clock distinct held]
    exact List.forall_mem_singleton
  simp only [AdmittedFailure, passes, operation_eq_failure, keys, List.mem_map]
  constructor
  · rintro ⟨action, entry, member, rfl, admits⟩
    exact ⟨⟨action, entry, member, rfl⟩, admits⟩
  · rintro ⟨⟨action, entry, member, rfl⟩, admits⟩
    exact ⟨action, entry, member, rfl, admits⟩

theorem admittedFailures_eq (reached : service.Reached rows) (calls : List AuthCall) :
    (service.admittedFailures key rows calls : Int) =
      Lockout.admittedFailures (service.limits key.1) (counterAt rows key)
        (calls.map fun call => ((call.now : Int), service.operation key call)) := by
  induction calls generalizing rows with
  | nil => rfl
  | cons call calls induction =>
      rw [admittedFailures, List.map_cons, Lockout.admittedFailures, Nat.cast_add,
        induction (reached.step call), step_counterAt reached.table]
      simp only [admittedFailure_iff reached.table]
      split <;> rfl

theorem counterAt_blocked {stop updated : Int} (reached : service.Reached rows)
    (blocked : counterAt rows key = some (.locked stop updated)) {calls : List AuthCall}
    (before : ∀ call ∈ calls, (call.now : Int) < stop)
    (uncleared : ∀ call ∈ calls, ¬service.Clears key call) :
    counterAt (Transaction.run service.step rows calls) key = some (.locked stop updated) := by
  induction calls generalizing rows with
  | nil => exact blocked
  | cons call calls induction =>
      rw [List.forall_mem_cons] at before uncleared
      refine induction (reached.step call) ?_ before.2 uncleared.2
      have valid := reached.valid key _ blocked
      rw [step_counterAt reached.table, blocked]
      exact step_locked valid before.1 (operation_eq_reset.not.mpr uncleared.1)

end Runs

namespace Uncleared

variable {service} {key : String × String} (segment : service.Uncleared key)

theorem refuses {stop : Int} (isBlocked : BlockedUntil (service.after segment.before) key stop)
    {between later : List AuthCall} {enforced : AuthCall}
    (calls : segment.calls = between ++ enforced :: later) (action : enforced.action = .enforce)
    (own : key ∈ service.keys enforced) (before : (enforced.now : Int) < stop) :
    ∃ error, (service.perform enforced (service.after (segment.before ++ between))).1 =
      .error error := by
  obtain ⟨row, member, rfl, rfl⟩ := isBlocked
  have reached := service.reached_after segment.before
  have clock : (0 : Int) ≤ enforced.now := Int.natCast_nonneg _
  have found : counterAt (service.after segment.before) row.key =
      some (.locked row.blockedUntil row.updatedAt) := by
    rw [counterAt, reached.table.keyed.lookup_of_mem member, Option.map_some,
      AuthRateLimitRow.counter, if_neg (by omega)]
  obtain ⟨-, ordered, -⟩ := List.pairwise_append.mp segment.ordered
  rw [calls, List.pairwise_append] at ordered
  have earlier : ∀ call ∈ between, (call.now : Int) < row.blockedUntil := fun call there => by
    have notLater := ordered.2.2 call there enforced (List.mem_cons_self ..)
    omega
  have uncleared : ∀ call ∈ between, ¬service.Clears row.key call := fun call there =>
    segment.uncleared call (calls ▸ List.mem_append_left _ there)
  have blocked : counterAt (service.after (segment.before ++ between)) row.key =
      some (.locked row.blockedUntil row.updatedAt) := by
    rw [after, Transaction.run_append]
    exact counterAt_blocked reached found earlier uncleared
  obtain ⟨entry, listed, isKey⟩ := List.mem_map.mp own
  cases outcome : (service.perform enforced (service.after (segment.before ++ between))).1 with
  | error error => exact ⟨error, rfl⟩
  | ok =>
      rw [perform, action] at outcome
      have table := (service.reached_after (segment.before ++ between)).table
      have admits := (enforce_ok_iff clock (service.keys_nodup enforced) table).mp outcome entry
        listed
      rw [isKey, blocked] at admits
      exact absurd before (admits _ rfl)

/-- The calls take less than a window and a lockout. -/
def Short : Prop := ∀ first ∈ segment.calls, ∀ last ∈ segment.calls,
  (last.now : Int) - first.now < service.config.authWindowSeconds ∧
    (last.now : Int) - first.now < service.config.authLockoutSeconds

theorem exists_moment (short : segment.Short) : ∃ moment : Int, ∀ call ∈ segment.calls,
    Within (service.limits key.1) moment call.now := by
  obtain ⟨-, ordered, -⟩ := List.pairwise_append.mp segment.ordered
  unfold Short at short
  cases isCalls : segment.calls with
  | nil => exact ⟨0, List.forall_mem_nil _⟩
  | cons first rest =>
      rw [isCalls] at ordered short
      refine ⟨first.now, fun call member => ?_⟩
      obtain ⟨window, lockout⟩ := short first (List.mem_cons_self ..) call member
      have later : first.now ≤ call.now := by
        rcases List.mem_cons.mp member with rfl | there
        · exact le_rfl
        · exact (List.pairwise_cons.mp ordered).1 call there
      exact ⟨Int.ofNat_le.mpr later, sub_lt_iff_lt_add'.mp window, sub_lt_iff_lt_add'.mp lockout⟩

theorem admittedFailures_le (short : segment.Short) :
    (service.admittedFailures key (service.after segment.before) segment.calls : Int) ≤
      2 * service.maximum key.1 - 1 := by
  have reached := service.reached_after segment.before
  obtain ⟨moment, within⟩ := segment.exists_moment short
  have events : ∀ event ∈ segment.calls.map fun call =>
    ((call.now : Int), service.operation key call),
      Within (service.limits key.1) moment event.1 ∧ event.2 ≠ .reset := by
    intro event listed
    obtain ⟨call, member, rfl⟩ := List.mem_map.mp listed
    exact ⟨within call member, operation_eq_reset.not.mpr (segment.uncleared call member)⟩
  have bounded := Lockout.admittedFailures_le (reached.valid key)
    (fun event listed => (events event listed).1) fun event listed => (events event listed).2
  rw [admittedFailures_eq reached]
  exact bounded.trans (potential_le (reached.valid key))

end Uncleared

end AuthenticationRateLimitService

/-- Lockouts hold: a key that is blocked until a time is refused until then unless it is cleared,
whatever else is called, and in a time span that is shorter than the window and the lockout at most
one failure less than twice the maximum is admitted for a key that is not cleared. -/
theorem lockout_holds (service : AuthenticationRateLimitService) (key : String × String)
    (segment : service.Uncleared key) :
    (∀ stop, AuthenticationRateLimitService.BlockedUntil (service.after segment.before) key stop →
      ∀ between enforced later, segment.calls = between ++ enforced :: later →
        enforced.action = .enforce → key ∈ service.keys enforced → (enforced.now : Int) < stop →
        ∃ error, (service.perform enforced (service.after (segment.before ++ between))).1 =
          .error error) ∧
    (segment.Short →
      (service.admittedFailures key (service.after segment.before) segment.calls : Int) ≤
        2 * service.maximum key.1 - 1) :=
  ⟨fun _ blocked _ _ _ calls action own before => segment.refuses blocked calls action own before,
    segment.admittedFailures_le⟩

end VoodooOne
