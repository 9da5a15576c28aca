import Mathlib.Data.List.Basic

/-!
# Serialized transactions and runs

A transaction body either returns a result with the next state or raises; a raising body leaves
the state as it was.  A run applies a list of calls one after the other, so a run is one order in
which serialized transactions commit.
-/

namespace Transaction

variable {σ ε α κ : Type*}

/-- Outcome and next state of one transaction: an exception rolls the state back. -/
def commit (body : σ → Except ε (α × σ)) (state : σ) : Except ε α × σ :=
  match body state with
  | .ok (result, next) => (.ok result, next)
  | .error error => (.error error, state)

def run (step : σ → κ → σ) (state : σ) (calls : List κ) : σ := calls.foldl step state

variable {body : σ → Except ε (α × σ)} {state : σ} {invariant : σ → Prop} {step : σ → κ → σ}

theorem commit_of_ok {state next : σ} {result : α} (ok : body state = .ok (result, next)) :
    commit body state = (.ok result, next) := by
  simp [commit, ok]

theorem commit_of_error {error : ε} (raised : body state = .error error) :
    commit body state = (.error error, state) := by
  simp [commit, raised]

theorem commit_rollback {error : ε} (raised : (commit body state).1 = .error error) :
    (commit body state).2 = state := by
  unfold commit at raised ⊢
  split at raised
  · simp at raised
  · rfl

/-- What holds before a transaction and after each normal return of its body holds after it. -/
theorem commit_cases {motive : σ → Prop} (body : σ → Except ε (α × σ)) (state : σ)
    (rollback : motive state) (ok : ∀ result next, body state = .ok (result, next) → motive next) :
    motive (commit body state).2 := by
  unfold commit
  split
  · next result next returned => exact ok result next returned
  · exact rollback

@[simp] theorem run_nil (step : σ → κ → σ) (state : σ) : run step state [] = state := rfl

@[simp] theorem run_cons (step : σ → κ → σ) (state : σ) (call : κ) (calls : List κ) :
    run step state (call :: calls) = run step (step state call) calls := rfl

theorem run_append (step : σ → κ → σ) (state : σ) (first second : List κ) :
    run step state (first ++ second) = run step (run step state first) second := by
  simp [run]

theorem run_invariant (kept : ∀ state call, invariant state → invariant (step state call))
    (initial : invariant state) (calls : List κ) :
    invariant (run step state calls) := by
  induction calls generalizing state with
  | nil => exact initial
  | cons call calls induction => exact induction (kept state call initial)

theorem run_relation (related : σ → σ → Prop)
    (kept : ∀ state call, invariant state → invariant (step state call))
    (refl : ∀ state, related state state)
    (trans : ∀ {first second third}, related first second → related second third →
      related first third)
    (linked : ∀ state call, invariant state → related state (step state call))
    (initial : invariant state) (calls : List κ) :
    related state (run step state calls) := by
  induction calls generalizing state with
  | nil => exact refl state
  | cons call calls induction =>
      exact trans (linked state call initial) (induction (kept state call initial))

/-- Every call of a run, in the state that it meets, has a property. -/
def Along (step : σ → κ → σ) (property : σ → κ → Prop) : σ → List κ → Prop
  | _, [] => True
  | state, call :: calls => property state call ∧ Along step property (step state call) calls

/-- What every call has in a state with an invariant that every step keeps, each call of a run has.
-/
theorem along_of_invariant {property : σ → κ → Prop}
    (holds : ∀ state call, invariant state → property state call)
    (kept : ∀ state call, invariant state → invariant (step state call)) (initial : invariant state)
    (calls : List κ) : Along step property state calls := by
  induction calls generalizing state with
  | nil => trivial
  | cons call calls induction =>
      exact ⟨holds state call initial, induction (kept state call initial)⟩

/-- Two properties that agree where an invariant holds agree along a run, when the calls that have
the second keep the invariant. -/
theorem along_congr {property condition : σ → κ → Prop}
    (agree : ∀ state call, invariant state → (property state call ↔ condition state call))
    (kept : ∀ state call, invariant state → condition state call → invariant (step state call))
    (initial : invariant state) (calls : List κ) :
    Along step property state calls ↔ Along step condition state calls := by
  induction calls generalizing state with
  | nil => exact Iff.rfl
  | cons call calls induction =>
      constructor
      · rintro ⟨first, later⟩
        have met := (agree state call initial).mp first
        exact ⟨met, (induction (kept state call initial met)).mp later⟩
      · rintro ⟨met, later⟩
        exact ⟨(agree state call initial).mpr met, (induction (kept state call initial met)).mpr
          later⟩

end Transaction
