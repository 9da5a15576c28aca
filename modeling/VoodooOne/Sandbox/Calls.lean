import VoodooOne.Sandbox.Adapter

/-!
# Results of system calls

A system call fails with an error of the system, whether or not it is the failing one.  Errors of
the system are no adapter errors.
-/

namespace VoodooOne.Sandbox

/-- An error that the `except` clause of the write turns into an adapter error. -/
def SystemError (error : Raised) : Prop := error.cls.isA .osError ∨ error.cls.isA .valueError

abbrev IsAdapterError (error : Raised) : Prop := error.cls.isA .adapterError

theorem eq_adapterError {cls : ExceptionClass} (is : cls.isA .adapterError) :
    cls = .adapterError := by
  revert is
  cases cls <;> decide

theorem SystemError.not_adapterError {error : Raised} (system : SystemError error) :
    ¬IsAdapterError error := by
  intro adapter
  rw [SystemError, eq_adapterError adapter] at system
  revert system
  decide

theorem systemError_osError (message : String) : SystemError (osError message) := .inl rfl

theorem systemError_trouble (trouble : FileTree.Trouble) : SystemError (troubleError trouble) := by
  cases trouble <;> exact .inl rfl

/-- Every error that a computation raises is allowed. -/
def Raises {α : Type} (allowed : Raised → Prop) (result : Except Raised α) : Prop :=
  ∀ error, result = .error error → allowed error

namespace Raises

variable {α β : Type} {allowed : Raised → Prop}

theorem ok (value : α) : Raises allowed (.ok value) := fun _ raised => by cases raised

theorem error {error : Raised} (holds : allowed error) : Raises allowed
    (.error error : Except Raised α) :=
  fun _ raised => Except.error.inj raised ▸ holds

theorem bind {first : Except Raised α} {next : α → Except Raised β} (early : Raises allowed first)
    (late : ∀ value, Raises allowed (next value)) : Raises allowed (first >>= next) := by
  cases first with
  | ok value => exact late value
  | error raised => exact error (early raised rfl)

theorem raiseIf {condition : Prop} [Decidable condition] {raised : Raised}
    (holds : allowed raised) : Raises allowed (raiseIf condition raised) := by
  unfold VoodooOne.raiseIf
  split
  · exact error holds
  · exact ok ()

theorem orRaise {raised : Raised} (holds : allowed raised) (value : Option α) :
    Raises allowed (orRaise raised value) := by
  cases value with
  | none => exact error holds
  | some value => exact ok value

theorem mapError {ε : Type} {convert : ε → Raised} (holds : ∀ raised, allowed (convert raised))
    (result : Except ε α) : Raises allowed (result.mapError convert) := by
  cases result with
  | ok value => exact ok value
  | error raised => exact error (holds raised)

end Raises

section Errors

variable {surroundings : Surroundings}

theorem raises_locateAbsolute (followLast : Bool) (path : Path) (tree : Tree) :
    Raises SystemError (locateAbsolute surroundings followLast path tree) :=
  (Raises.raiseIf (systemError_osError _)).bind fun _ => Raises.mapError systemError_trouble _

theorem raises_locateBelow (directory : Path) (argument : Option PathArgument) (tree : Tree) :
    Raises SystemError (locateBelow surroundings directory argument tree) := by
  refine (Raises.orRaise (.inr rfl) _).bind fun argument => ?_
  refine (Raises.raiseIf (systemError_osError _)).bind fun _ => ?_
  refine (Raises.mapError systemError_trouble _).bind fun path => ?_
  refine (Raises.raiseIf ?_).bind fun _ => .ok _
  split
  · exact .inl rfl
  · exact .inl rfl

theorem raises_lstat {locate : Locator} (located : ∀ tree, Raises SystemError (locate tree))
    (tree : Tree) : Raises SystemError (lstat locate tree) :=
  (located tree).bind fun _ => (Raises.orRaise (.inl rfl) _).bind fun _ => .ok _

theorem raises_openDirectory {locate : Locator} (located : ∀ tree, Raises SystemError (locate tree))
    (tree : Tree) : Raises SystemError (openDirectory locate tree) := by
  refine (located tree).bind fun path => ?_
  split
  · exact .ok _
  · exact .error (.inl rfl)
  · exact .error (.inl rfl)

theorem raises_makeAbsolute (path : Path) (tree : Tree) :
    Raises SystemError (makeAbsolute surroundings path tree) :=
  (raises_locateAbsolute _ _ _).bind fun _ => (Raises.raiseIf (.inl rfl)).bind fun _ => .ok _

theorem raises_makeBelow (directory : Path) (argument : Option PathArgument) (tree : Tree) :
    Raises SystemError (makeBelow surroundings directory argument tree) := by
  refine (Raises.orRaise (.inr rfl) _).bind fun argument => ?_
  refine (Raises.raiseIf (systemError_osError _)).bind fun _ => ?_
  split
  · exact (raises_locateBelow _ _ _).bind fun _ => .error (.inl rfl)
  · exact (Raises.raiseIf (.inl rfl)).bind fun _ => .ok _

theorem raises_createFile (parent : Path) (name : Text) (tree : Tree) :
    Raises SystemError (createFile surroundings parent name tree) :=
  (raises_locateBelow _ _ _).bind fun _ => (Raises.raiseIf (.inl rfl)).bind fun _ => .ok _

theorem raises_replaceFile (parent : Path) (source destination : Text) (tree : Tree) :
    Raises SystemError (replaceFile surroundings parent source destination tree) :=
  (raises_locateBelow _ _ _).bind fun _ => (raises_locateBelow _ _ _).bind fun _ =>
    (Raises.orRaise (.inl rfl) _).bind fun _ => (Raises.raiseIf (.inl rfl)).bind fun _ => .ok _

end Errors

section Calls

variable {surroundings : Surroundings} {α : Type} {call : SystemCall} {progress : Progress}

theorem systemCall_fault (fault : surroundings.fault = some call)
    (act : Tree → Except Raised (α × Tree)) : (systemCall surroundings call act).run progress =
      (.error faultError, progress) := by
  simp only [systemCall, if_pos fault]

theorem systemCall_of_ok (works : surroundings.fault ≠ some call)
    {act : Tree → Except Raised (α × Tree)} {value : α} {tree : Tree}
    (ok : act progress.tree = .ok (value, tree)) :
    (systemCall surroundings call act).run progress = (.ok value, { progress with tree }) := by
  simp only [systemCall, if_neg works, ok]

theorem systemCall_of_error (works : surroundings.fault ≠ some call)
    {act : Tree → Except Raised (α × Tree)} {error : Raised}
    (raised : act progress.tree = .error error) :
    (systemCall surroundings call act).run progress = (.error error, progress) := by
  simp only [systemCall, if_neg works, raised]

theorem observe_fault (fault : surroundings.fault = some call) (look : Tree → Except Raised α) :
    (observe surroundings call look).run progress =
      (.error faultError, progress) := systemCall_fault fault _

theorem observe_of_ok (works : surroundings.fault ≠ some call) {look : Tree → Except Raised α}
    {value : α} (ok : look progress.tree = .ok value) :
    (observe surroundings call look).run progress = (.ok value, progress) :=
  systemCall_of_ok works (by rw [ok]; rfl)

theorem observe_of_error (works : surroundings.fault ≠ some call) {look : Tree → Except Raised α}
    {error : Raised} (raised : look progress.tree = .error error) :
    (observe surroundings call look).run progress = (.error error, progress) :=
  systemCall_of_error works (by rw [raised]; rfl)

theorem touch_of_works (works : surroundings.fault ≠ some call) :
    (touch surroundings call).run progress = (.ok (), progress) := observe_of_ok works rfl

theorem touch_fault (fault : surroundings.fault = some call) :
    (touch surroundings call).run progress = (.error faultError, progress) := observe_fault fault _

theorem observe_snd (look : Tree → Except Raised α) :
    ((observe surroundings call look).run progress).2 = progress := by
  by_cases fault : surroundings.fault = some call
  · rw [observe_fault fault]
  · cases looked : look progress.tree with
    | ok value => rw [observe_of_ok fault looked]
    | error error => rw [observe_of_error fault looked]

theorem perform_fault (fault : surroundings.fault = some call) (act : Tree → Except Raised Tree) :
    (perform surroundings call act).run progress =
      (.error faultError, progress) := systemCall_fault fault _

theorem perform_of_ok (works : surroundings.fault ≠ some call) {act : Tree → Except Raised Tree}
    {tree : Tree} (ok : act progress.tree = .ok tree) :
    (perform surroundings call act).run progress = (.ok (), { progress with tree }) :=
  systemCall_of_ok works (by rw [ok]; rfl)

theorem perform_of_error (works : surroundings.fault ≠ some call) {act : Tree → Except Raised Tree}
    {error : Raised} (raised : act progress.tree = .error error) :
    (perform surroundings call act).run progress = (.error error, progress) :=
  systemCall_of_error works (by rw [raised]; rfl)

theorem raises_systemCall {act : Tree → Except Raised (α × Tree)}
    (raises : ∀ tree, Raises SystemError (act tree)) :
    (systemCall surroundings call act).Raises SystemError := by
  intro progress error raised
  by_cases fault : surroundings.fault = some call
  · rw [systemCall_fault fault] at raised
    exact Except.error.inj raised ▸ systemError_osError _
  · cases acted : act progress.tree with
    | ok result =>
        rw [systemCall_of_ok fault acted] at raised
        cases raised
    | error early =>
        rw [systemCall_of_error fault acted] at raised
        exact Except.error.inj raised ▸ raises _ _ acted

theorem raises_map {β : Type} {result : Except Raised α} (raises : Raises SystemError result)
    (convert : α → β) : Raises SystemError (result.map convert) := by
  cases result with
  | ok value => exact .ok _
  | error error => exact .error (raises error rfl)

theorem raises_observe {look : Tree → Except Raised α}
    (raises : ∀ tree, Raises SystemError (look tree)) :
    (observe surroundings call look).Raises SystemError :=
  raises_systemCall fun tree => raises_map (raises tree) _

theorem raises_perform {act : Tree → Except Raised Tree}
    (raises : ∀ tree, Raises SystemError (act tree)) :
    (perform surroundings call act).Raises SystemError :=
  raises_systemCall fun tree => raises_map (raises tree) _

def KeptDirectories (before after : Progress) : Prop :=
  ∀ path, before.tree.entry path = some .directory → after.tree.entry path = some .directory

instance : Std.Refl KeptDirectories := ⟨fun _ _ directory => directory⟩

instance : IsTrans Progress KeptDirectories :=
  ⟨fun _ _ _ early late path directory => late path (early path directory)⟩

theorem keptDirectories_systemCall {act : Tree → Except Raised (α × Tree)}
    (kept : ∀ tree value next, act tree = .ok (value, next) → ∀ path,
      tree.entry path = some .directory → next.entry path = some .directory) :
    (systemCall surroundings call act).Keeps KeptDirectories := by
  intro progress
  by_cases fault : surroundings.fault = some call
  · rw [systemCall_fault fault]
    exact refl progress
  · cases acted : act progress.tree with
    | ok result =>
        rw [systemCall_of_ok fault acted]
        exact kept _ _ _ acted
    | error error =>
        rw [systemCall_of_error fault acted]
        exact refl progress

theorem keptDirectories_observe (look : Tree → Except Raised α) :
    (observe surroundings call look).Keeps KeptDirectories := by
  intro progress
  rw [observe_snd]
  exact refl progress

theorem keptDirectories_perform {act : Tree → Except Raised Tree}
    (kept : ∀ tree next, act tree = .ok next → ∀ path,
      tree.entry path = some .directory → next.entry path = some .directory) :
    (perform surroundings call act).Keeps KeptDirectories := by
  refine keptDirectories_systemCall fun tree value next acted => ?_
  cases found : act tree with
  | ok result =>
      rw [found] at acted
      obtain ⟨-, rfl⟩ := Prod.mk.inj (Except.ok.inj acted)
      exact kept tree result found
  | error error =>
      rw [found] at acted
      cases acted

end Calls

end VoodooOne.Sandbox
