import Mathlib.Order.Defs.Unbundled

/-!
# Processes

A process returns or raises, and what it did before it raised stays done.
-/

structure Process (σ ε α : Type) where
  run : σ → Except ε α × σ

namespace Process

variable {σ ε α β : Type}

instance : Monad (Process σ ε) where
  pure value := ⟨fun state => (.ok value, state)⟩
  bind first next := ⟨fun state =>
    match first.run state with
    | (.ok value, middle) => (next value).run middle
    | (.error error, middle) => (.error error, middle)⟩

def raise (error : ε) : Process σ ε α := ⟨fun state => (.error error, state)⟩

/-- A result that does not depend on the state. -/
def lift (result : Except ε α) : Process σ ε α := ⟨fun state => (result, state)⟩

def state : Process σ ε σ := ⟨fun state => (.ok state, state)⟩

def change (update : σ → σ) : Process σ ε Unit := ⟨fun state => (.ok (), update state)⟩

def handle (process : Process σ ε α) (handler : ε → Process σ ε α) : Process σ ε α :=
  ⟨fun state =>
    match process.run state with
    | (.ok value, middle) => (.ok value, middle)
    | (.error error, middle) => (handler error).run middle⟩

/-- A process and what is done at its end; an exception of the end replaces its result. -/
def ensure (process : Process σ ε α) (last : Process σ ε Unit) : Process σ ε α :=
  ⟨fun state =>
    match last.run (process.run state).2 with
    | (.ok (), final) => ((process.run state).1, final)
    | (.error error, final) => (.error error, final)⟩

section Results

variable {first : Process σ ε α} {state middle : σ} {value : α} {error : ε}

theorem bind_of_ok (returned : first.run state = (.ok value, middle)) (next : α → Process σ ε β) :
    (first >>= next).run state = (next value).run middle := by
  simp only [Bind.bind, returned]

theorem bind_of_error (raised : first.run state = (.error error, middle))
    (next : α → Process σ ε β) : (first >>= next).run state = (.error error, middle) := by
  simp only [Bind.bind, raised]

theorem handle_of_ok (returned : first.run state = (.ok value, middle))
    (handler : ε → Process σ ε α) : (first.handle handler).run state = (.ok value, middle) := by
  simp only [handle, returned]

theorem handle_of_error (raised : first.run state = (.error error, middle))
    (handler : ε → Process σ ε α) : (first.handle handler).run state =
      (handler error).run middle := by
  simp only [handle, raised]

end Results

theorem bind_assoc {γ : Type} (first : Process σ ε α) (second : α → Process σ ε β)
    (third : β → Process σ ε γ) :
    first >>= second >>= third = first >>= fun value => second value >>= third := by
  have same (state : σ) : (first >>= second >>= third).run state =
      (first >>= fun value => second value >>= third).run state := by
    cases ran : first.run state with
    | mk result middle =>
        cases result with
        | ok value =>
            rw [bind_of_ok ran]
            simp only [Bind.bind, ran]
        | error error => rw [bind_of_error ran, bind_of_error (bind_of_error ran second)]
  exact congrArg mk (funext same)

/-- The state before and the state after are related, whether it returns or raises. -/
def Keeps (related : σ → σ → Prop) (process : Process σ ε α) : Prop :=
  ∀ state, related state (process.run state).2

namespace Keeps

variable {related : σ → σ → Prop} {process : Process σ ε α}

theorem pure [Std.Refl related] (value : α) : Keeps related (Pure.pure value : Process σ ε α) :=
  fun state => refl state

theorem raise [Std.Refl related] (error : ε) : Keeps related (raise error : Process σ ε α) :=
  fun state => refl state

theorem lift [Std.Refl related] (result : Except ε α) : Keeps related
    (lift result : Process σ ε α) :=
  fun state => refl state

theorem bind [IsTrans σ related] (first : Keeps related process) {next : α → Process σ ε β}
    (later : ∀ value, Keeps related (next value)) : Keeps related (process >>= next) := by
  intro state
  have early := first state
  cases returned : process.run state with
  | mk result middle =>
      rw [returned] at early
      cases result with
      | ok value =>
          rw [bind_of_ok returned]
          exact Trans.trans early (later value middle)
      | error error =>
          rw [bind_of_error returned]
          exact early

theorem handle [IsTrans σ related] (first : Keeps related process) {handler : ε → Process σ ε α}
    (later : ∀ error, Keeps related (handler error)) : Keeps related (process.handle handler) := by
  intro state
  have early := first state
  cases returned : process.run state with
  | mk result middle =>
      rw [returned] at early
      cases result with
      | ok value =>
          rw [handle_of_ok returned]
          exact early
      | error error =>
          rw [handle_of_error returned]
          exact Trans.trans early (later error middle)

theorem ensure [IsTrans σ related] (first : Keeps related process) {last : Process σ ε Unit}
    (later : Keeps related last) : Keeps related (process.ensure last) := by
  intro state
  have late := Trans.trans (first state) (later (process.run state).2)
  unfold Process.ensure
  dsimp only
  split <;> next ended => rwa [ended] at late

theorem change {update : σ → σ} (updates : ∀ state, related state (update state)) :
    Keeps related (change update : Process σ ε Unit) := updates

end Keeps

def Raises (allowed : ε → Prop) (process : Process σ ε α) : Prop :=
  ∀ state error, (process.run state).1 = .error error → allowed error

namespace Raises

variable {allowed : ε → Prop} {process : Process σ ε α}

theorem pure (value : α) : Raises allowed (Pure.pure value : Process σ ε α) :=
  fun _ _ raised => by cases raised

theorem raise {error : ε} (holds : allowed error) : Raises allowed (raise error : Process σ ε α) :=
  fun _ _ raised => Except.error.inj raised ▸ holds

theorem lift {result : Except ε α} (holds : ∀ error, result = .error error → allowed error) :
    Raises allowed (lift result : Process σ ε α) := fun _ => holds

theorem change (update : σ → σ) : Raises allowed (change update : Process σ ε Unit) :=
  fun _ _ raised => by cases raised

theorem bind (first : Raises allowed process) {next : α → Process σ ε β}
    (later : ∀ value, Raises allowed (next value)) : Raises allowed (process >>= next) := by
  intro state error raised
  cases returned : process.run state with
  | mk result middle =>
      cases result with
      | ok value =>
          rw [bind_of_ok returned] at raised
          exact later value middle error raised
      | error early =>
          rw [bind_of_error returned] at raised
          refine first state error ?_
          rw [returned, Except.error.inj raised]

theorem handle {met : ε → Prop} (first : Raises met process) {handler : ε → Process σ ε α}
    (later : ∀ error, met error → Raises allowed (handler error)) :
    Raises allowed (process.handle handler) := by
  intro state error raised
  cases returned : process.run state with
  | mk result middle =>
      cases result with
      | ok value =>
          rw [handle_of_ok returned] at raised
          cases raised
      | error early =>
          rw [handle_of_error returned] at raised
          exact later early (first state early (congrArg Prod.fst returned)) middle error raised

theorem mono {weaker : ε → Prop} (raises : Raises allowed process)
    (weaken : ∀ error, allowed error → weaker error) : Raises weaker process :=
  fun state error raised => weaken error (raises state error raised)

end Raises

end Process
