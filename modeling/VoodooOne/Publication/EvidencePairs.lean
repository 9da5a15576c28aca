import VoodooOne.Library.Transaction
import VoodooOne.Publication.Evidence

/-!
# Complete pairs of evidence

A final JSON file has its sidecar beside it, no final file is replaced, and of the calls with one
identity at most one returns.  A call that raises has not published, as long as no removal fails
after its JSON file is linked.
-/

namespace VoodooOne.Publication

open Transaction

structure EvidenceView where
  call : EvidenceCall
  /-- A final name of its identity is a link to its file. -/
  linked : Part → Prop
  /-- A temporary name is a link to its file. -/
  holds : String → Part → Prop
  /-- Its file has the contents that it is asked to write. -/
  complete : Part → Prop

namespace EvidenceView

variable (view : EvidenceView)

/-- The finished temporary file of a part, to be linked. -/
def Keeps (part : Part) : Prop :=
  ∃ name, view.call.temporaries part = some name ∧ view.holds name part ∧ view.complete part

/-- A temporary file that is left over. -/
def Leaves (part : Part) : Prop :=
  ∀ name, view.call.temporaries part = some name → view.holds name part

/-- The temporary file in the making. -/
def Writes (part : Part) : Prop :=
  ∃ name, view.call.temporary = some name ∧ view.holds name part

/-- Nothing is published, and the call goes on. -/
def Running : Prop :=
  ¬view.linked .json ∧ ¬view.linked .sidecar ∧ view.call.temporaries .sidecar = none ∧
    view.call.reservationOwned = true

/-- What a call has at each of its statements. -/
def Stage : Prop :=
  match view.call.phase with
  | .prepare | .reserve | .closeReservation =>
      view.call.failed = false ∧ ¬view.linked .json ∧ ¬view.linked .sidecar ∧
        view.call.temporaries .json = none ∧ view.call.temporaries .sidecar = none
  | .lookForTarget | .lookForSidecar | .serialize | .create .json =>
      view.call.failed = false ∧ view.Running ∧ view.call.temporaries .json = none
  | .fill .json =>
      view.call.failed = false ∧ view.Running ∧ view.call.temporaries .json = none ∧
        view.Writes .json
  | .restrict .json =>
      view.call.failed = false ∧ view.Running ∧ view.call.temporaries .json = none ∧
        view.Writes .json ∧ view.complete .json
  | .discard .json => view.Running ∧ view.call.temporaries .json = none ∧ view.Writes .json
  | .create .sidecar => view.call.failed = false ∧ view.Running ∧ view.Keeps .json
  | .fill .sidecar =>
      view.call.failed = false ∧ view.Running ∧ view.Keeps .json ∧ view.Writes .sidecar
  | .restrict .sidecar =>
      view.call.failed = false ∧ view.Running ∧ view.Keeps .json ∧ view.Writes .sidecar ∧
        view.complete .sidecar
  | .discard .sidecar => view.Running ∧ view.Keeps .json ∧ view.Writes .sidecar
  | .link .sidecar =>
      view.call.failed = false ∧ ¬view.linked .json ∧ ¬view.linked .sidecar ∧
        view.Keeps .json ∧ view.Keeps .sidecar ∧ view.call.reservationOwned = true
  | .unlink .sidecar =>
      view.call.failed = false ∧ ¬view.linked .json ∧ view.linked .sidecar ∧ view.Keeps .json ∧
        view.Keeps .sidecar ∧ view.call.reservationOwned = true
  | .link .json =>
      view.call.failed = false ∧ ¬view.linked .json ∧ view.linked .sidecar ∧ view.Keeps .json ∧
        view.call.temporaries .sidecar = none ∧ view.call.reservationOwned = true
  | .unlink .json =>
      view.call.failed = false ∧ view.linked .json ∧ view.Keeps .json ∧
        view.call.temporaries .sidecar = none ∧ view.call.reservationOwned = true
  | .drop .json =>
      view.Leaves .json ∧ view.Leaves .sidecar ∧ (view.call.failed = false →
        view.linked .json ∧ view.call.temporaries .json = none ∧ view.call.temporaries .sidecar =
          none)
  | .drop .sidecar =>
      view.Leaves .sidecar ∧ (view.call.failed = false →
        view.linked .json ∧ view.call.temporaries .sidecar = none)
  | .dropReservation | .finished => view.call.failed = false → view.linked .json

/-- What a call has in every state. -/
structure Fits : Prop where
  stage : view.Stage
  paired : view.linked .json → view.linked .sidecar
  whole : ∀ part, view.linked part → view.complete part
  owned : view.linked .json → view.call.reservationOwned = true

/-- What an exception leaves to the `finally` clause. -/
theorem Fits.raising {view : EvidenceView} (fits : view.Fits) (json : view.Leaves .json)
    (sidecar : view.Leaves .sidecar) : Fits { view with call := view.call.raising } :=
  ⟨⟨json, sidecar, fun goes => absurd goes.symm Bool.false_ne_true⟩, fits.paired, fits.whole,
    fits.owned⟩

theorem Fits.escaping {view : EvidenceView} (fits : view.Fits) :
    Fits { view with call := view.call.escaping } :=
  ⟨fun goes => absurd goes.symm Bool.false_ne_true, fits.paired, fits.whole, fits.owned⟩

theorem Keeps.leaves {view : EvidenceView} {part : Part} (keeps : view.Keeps part) :
    view.Leaves part := by
  obtain ⟨kept, named, holds, -⟩ := keeps
  intro name left
  rwa [← Option.some.inj (named.symm.trans left)]

theorem leaves_of_none {view : EvidenceView} {part : Part}
    (none : view.call.temporaries part = Option.none) : view.Leaves part := by
  intro name left
  cases none.symm.trans left

/-- A call whose exception is on its way out has published no JSON file. -/
def Honest : Prop := view.call.failed = true → ¬view.linked .json

end EvidenceView

namespace EvidenceWorld

variable {ρ : Type} [DecidableEq ρ] (requests : EvidenceRequests ρ) (sha256 : ByteArray → String)
  (world : EvidenceWorld ρ)

def view (process : ρ) : EvidenceView where
  call := world.calls process
  linked part := world.final part (requests.identity process) = some (process, part)
  holds name part := world.temporary name = some (process, part)
  complete part := world.content (process, part) = requests.contents sha256 process part

/-- The ways in which a statement of a call can change the directory. -/
inductive Change (process : ρ) : EvidenceWorld ρ → Prop where
  | stays : Change process world
  | moves (reserved : String → Option ρ) (call : EvidenceCall) :
      Change process ({ world with reserved := reserved }.move process call)
  | creates (name : String) (part : Part) (call : EvidenceCall)
    (free : world.temporary name = none) :
      Change process ((world.setTemporary name (some (process, part))).move process call)
  | writes (part : Part) (bytes : ByteArray) (call : EvidenceCall)
      (unlinked : world.final part (requests.identity process) ≠ some (process, part)) :
      Change process ((world.setContent (process, part) bytes).move process call)
  | links (part : Part) (call : EvidenceCall)
      (free : world.final part (requests.identity process) = none) :
      Change process
        ((world.setFinal part (requests.identity process) (process, part)).move process call)
  | releases (name : String) (part : Part) (call : EvidenceCall)
      (held : world.temporary name = some (process, part)) :
      Change process ((world.setTemporary name none).move process call)

/-- No removal fails after the JSON file is linked. -/
def Clear (event : EvidenceEvent ρ) : Prop :=
  event.fails = true → (world.calls event.process).phase ∈ [.unlink .json, .dropReservation] →
    ¬(world.view requests sha256 event.process).linked .json

section Views

variable {requests sha256 world} {process other : ρ}

theorem view_moves (reserved : String → Option ρ) (call : EvidenceCall) :
    ({ world with reserved := reserved }.move process call).view requests sha256 process =
      { world.view requests sha256 process with call := call } := by
  simp [view, move]

theorem view_creates (name : String) (part : Part) (call : EvidenceCall) :
    ((world.setTemporary name (some (process, part))).move process call).view requests sha256
        process =
      { world.view requests sha256 process with
        call := call
        holds := fun other made => if other = name then made = part
          else (world.view requests sha256 process).holds other made } := by
  simp only [view, move, setTemporary, Function.update_self, EvidenceView.mk.injEq, true_and,
    and_true]
  funext other made
  by_cases same : other = name
  · rw [same, Function.update_self, if_pos rfl]
    simp [eq_comm]
  · rw [Function.update_of_ne same, if_neg same]

theorem view_writes (part : Part) (bytes : ByteArray) (call : EvidenceCall) :
    ((world.setContent (process, part) bytes).move process call).view requests sha256 process =
      { world.view requests sha256 process with
        call := call
        complete := fun made => if made = part then bytes = requests.contents sha256 process part
          else (world.view requests sha256 process).complete made } := by
  simp only [view, move, setContent, Function.update_self, EvidenceView.mk.injEq, true_and]
  funext made
  by_cases same : made = part
  · rw [same, Function.update_self, if_pos rfl]
  · rw [Function.update_of_ne (by simpa using same), if_neg same]

theorem view_links (part : Part) (call : EvidenceCall) :
    ((world.setFinal part (requests.identity process) (process, part)).move process call).view
        requests sha256 process =
      { world.view requests sha256 process with
        call := call
        linked := fun made => made = part ∨ (world.view requests sha256 process).linked made } := by
  simp only [view, move, setFinal, Function.update_self, EvidenceView.mk.injEq, true_and, and_true]
  funext made
  by_cases same : made = part
  · subst same
    simp
  · simp [same]

theorem view_releases (name : String) (call : EvidenceCall) :
    ((world.setTemporary name none).move process call).view requests sha256 process =
      { world.view requests sha256 process with
        call := call
        holds := fun other made => other ≠ name ∧
          (world.view requests sha256 process).holds other made } := by
  simp only [view, move, setTemporary, Function.update_self, EvidenceView.mk.injEq, true_and,
    and_true]
  funext other made
  by_cases same : other = name
  · rw [same, Function.update_self]
    simp
  · simp [same]

theorem Change.view_others {after : EvidenceWorld ρ} (change : world.Change requests process after)
    (apart : other ≠ process) :
    after.view requests sha256 other = world.view requests sha256 other := by
  cases change with
  | stays => rfl
  | moves reserved call => simp [view, move, apart]
  | creates name part call free =>
      simp only [view, move, setTemporary, Function.update_of_ne apart, EvidenceView.mk.injEq,
        true_and, and_true]
      funext temporary made
      by_cases same : temporary = name
      · rw [same, Function.update_self, free]
        simp [Ne.symm apart]
      · rw [Function.update_of_ne same]
  | writes part bytes call unlinked =>
      simp [view, move, setContent, apart]
  | links part call free =>
      simp only [view, move, setFinal, Function.update_of_ne apart, EvidenceView.mk.injEq, true_and,
        and_true]
      funext made
      by_cases same : made = part
      · subst same
        rw [Function.update_self]
        by_cases identity : requests.identity other = requests.identity process
        · rw [identity, Function.update_self, free]
          simp [Ne.symm apart]
        · rw [Function.update_of_ne identity]
      · rw [Function.update_of_ne same]
  | releases name part call held =>
      simp only [view, move, setTemporary, Function.update_of_ne apart, EvidenceView.mk.injEq,
        true_and, and_true]
      funext temporary made
      by_cases same : temporary = name
      · rw [same, Function.update_self, held]
        simp [Ne.symm apart]
      · rw [Function.update_of_ne same]

end Views

/-- What one statement of a call does. -/
structure Good (event : EvidenceEvent ρ) (after : EvidenceWorld ρ) : Prop where
  change : world.Change requests event.process after
  fits : (after.view requests sha256 event.process).Fits
  honest : world.Clear requests sha256 event → (world.view requests sha256 event.process).Honest →
      (after.view requests sha256 event.process).Honest
  dishonest : ¬world.Clear requests sha256 event →
    ¬(after.view requests sha256 event.process).Honest

section Statements

variable {requests sha256 world} {event : EvidenceEvent ρ}

omit [DecidableEq ρ] in
theorem clear_of_phase (apart : (world.calls event.process).phase ∉
    [EvidencePhase.unlink .json, .dropReservation]) : world.Clear requests sha256 event :=
  fun _ there => absurd there apart

/-- A statement whose failure cannot spoil a published file. -/
theorem Good.of_clear {after : EvidenceWorld ρ} {view : EvidenceView}
    (clear : world.Clear requests sha256 event)
    (change : world.Change requests event.process after)
    (viewed : after.view requests sha256 event.process = view) (fits : view.Fits)
    (honest : (world.view requests sha256 event.process).Honest → view.Honest) :
    world.Good requests sha256 event after :=
  ⟨change, viewed ▸ fits, fun _ before => viewed ▸ honest before, fun unclear =>
    absurd clear unclear⟩

theorem Good.moves (clear : world.Clear requests sha256 event) (reserved : String → Option ρ)
    (call : EvidenceCall)
    (fits : EvidenceView.Fits { world.view requests sha256 event.process with call := call })
    (honest : call.failed = true → (world.calls event.process).failed = true ∨
      ¬(world.view requests sha256 event.process).linked .json) :
    world.Good requests sha256 event
      ({ world with reserved := reserved }.move event.process call) :=
  .of_clear clear (.moves reserved call) (view_moves reserved call) fits fun before failed =>
    (honest failed).elim before id

theorem Good.raises (clear : world.Clear requests sha256 event)
    (fits : (world.view requests sha256 event.process).Fits)
    (json : (world.view requests sha256 event.process).Leaves .json)
    (sidecar : (world.view requests sha256 event.process).Leaves .sidecar)
    (unpublished : ¬(world.view requests sha256 event.process).linked .json) :
    world.Good requests sha256 event
      (world.move event.process (world.calls event.process).raising) :=
  .moves clear world.reserved _ (fits.raising json sidecar) fun _ => .inr unpublished

theorem good_reserving (fits : (world.view requests sha256 event.process).Fits)
    (phase : (world.calls event.process).phase ∈
      [EvidencePhase.prepare, .reserve, .closeReservation]) :
    world.Good requests sha256 event (world.step requests sha256 event) := by
  have clear : world.Clear requests sha256 event := clear_of_phase fun there => by
    rcases List.mem_pair.mp there with same | same <;> simp [same] at phase
  have stage := fits.stage
  have called : (world.view requests sha256 event.process).call = world.calls event.process := rfl
  simp only [List.mem_cons, List.not_mem_nil, or_false] at phase
  rcases phase with phase | phase | phase <;>
    simp only [EvidenceView.Stage, called, phase] at stage <;>
    obtain ⟨running, noJson, noSidecar, noTarget, noOther⟩ := stage <;>
    simp only [step, phase] <;> split
  · exact .moves clear world.reserved _ fits.escaping fun _ => .inr noJson
  · exact .moves clear world.reserved _ ⟨⟨running, noJson, noSidecar, noTarget, noOther⟩,
      fits.paired, fits.whole, fits.owned⟩ fun _ => .inr noJson
  · exact .raises clear fits (EvidenceView.leaves_of_none noTarget)
      (EvidenceView.leaves_of_none noOther) noJson
  · exact .moves clear _ _ ⟨⟨running, noJson, noSidecar, noTarget, noOther⟩,
      fits.paired, fits.whole, fits.owned⟩ fun _ => .inr noJson
  · exact .raises clear fits (EvidenceView.leaves_of_none noTarget)
      (EvidenceView.leaves_of_none noOther) noJson
  · exact .moves clear world.reserved _ ⟨⟨running, ⟨noJson, noSidecar, noOther, rfl⟩, noTarget⟩,
      fits.paired, fits.whole, fun linked => absurd linked noJson⟩ fun _ => .inr noJson

theorem good_checking (fits : (world.view requests sha256 event.process).Fits)
    (phase : (world.calls event.process).phase ∈
      [EvidencePhase.lookForTarget, .lookForSidecar, .serialize]) :
    world.Good requests sha256 event (world.step requests sha256 event) := by
  have clear : world.Clear requests sha256 event := clear_of_phase fun there => by
    rcases List.mem_pair.mp there with same | same <;> simp [same] at phase
  have stage := fits.stage
  have called : (world.view requests sha256 event.process).call = world.calls event.process := rfl
  simp only [List.mem_cons, List.not_mem_nil, or_false] at phase
  rcases phase with phase | phase | phase <;>
    simp only [EvidenceView.Stage, called, phase] at stage <;>
    obtain ⟨running, runs, noTarget⟩ := stage <;>
    simp only [step, phase] <;> split
  all_goals first
    | exact .raises clear fits (EvidenceView.leaves_of_none noTarget)
        (EvidenceView.leaves_of_none runs.2.2.1) runs.1
    | exact .moves clear world.reserved _ ⟨⟨running, runs, noTarget⟩, fits.paired, fits.whole,
        fits.owned⟩ fun _ => .inr runs.1

omit [DecidableEq ρ] in
theorem part_unique {name : String} {left right : Part}
    (first : (world.view requests sha256 event.process).holds name left)
    (second : (world.view requests sha256 event.process).holds name right) : left = right :=
  congrArg Prod.snd (Option.some.inj (Eq.trans first.symm second))

variable {part : Part}

/-- A file is kept while another name gets a file, or another file's name is removed. -/
theorem Keeps.of_ne {view next : EvidenceView} (keeps : view.Keeps part)
    (temporaries : next.call.temporaries part = view.call.temporaries part)
    (holds : ∀ name, view.holds name part → next.holds name part)
    (complete : view.complete part → next.complete part) : next.Keeps part := by
  obtain ⟨name, named, held, whole⟩ := keeps
  exact ⟨name, temporaries.trans named, holds name held, complete whole⟩

/-- Before its first link a call has published nothing. -/
theorem good_creating (fits : (world.view requests sha256 event.process).Fits)
    (phase : (world.calls event.process).phase = .create part) :
    world.Good requests sha256 event (world.step requests sha256 event) := by
  have clear : world.Clear requests sha256 event := clear_of_phase (by simp [phase])
  have stage := fits.stage
  have called : (world.view requests sha256 event.process).call = world.calls event.process := rfl
  simp only [step, phase]
  cases part with
  | json =>
    simp only [EvidenceView.Stage, called, phase] at stage
    obtain ⟨running, runs, noTarget⟩ := stage
    split
    · exact .raises clear fits (EvidenceView.leaves_of_none noTarget)
        (EvidenceView.leaves_of_none runs.2.2.1) runs.1
    split
    · exact .of_clear clear .stays rfl fits id
    · next free =>
      refine .of_clear clear (.creates _ _ _ (by simpa using free)) (view_creates _ _ _)
        ⟨⟨running, runs, noTarget, event.random, rfl, ?_⟩, fits.paired, fits.whole, fits.owned⟩
        fun _ _ => runs.1
      exact (if_pos rfl).mpr rfl
  | sidecar =>
    simp only [EvidenceView.Stage, called, phase] at stage
    obtain ⟨running, runs, keeps⟩ := stage
    split
    · exact .raises clear fits keeps.leaves (EvidenceView.leaves_of_none runs.2.2.1) runs.1
    split
    · exact .of_clear clear .stays rfl fits id
    · next free =>
      refine .of_clear clear (.creates _ _ _ (by simpa using free)) (view_creates _ _ _)
        ⟨⟨running, runs, Keeps.of_ne keeps rfl (fun name held => ?_) id, event.random, rfl, ?_⟩,
          fits.paired, fits.whole, fits.owned⟩ fun _ _ => runs.1
      · refine (if_neg fun same => ?_).mpr held
        rw [same] at held
        simp only [view] at held
        simp [held] at free
      · exact (if_pos rfl).mpr rfl

theorem good_filling (fits : (world.view requests sha256 event.process).Fits)
    (phase : (world.calls event.process).phase = .fill part) :
    world.Good requests sha256 event (world.step requests sha256 event) := by
  have clear : world.Clear requests sha256 event := clear_of_phase (by simp [phase])
  have stage := fits.stage
  have called : (world.view requests sha256 event.process).call = world.calls event.process := rfl
  simp only [step, phase]
  cases part with
  | json =>
    simp only [EvidenceView.Stage, called, phase] at stage
    obtain ⟨running, runs, noTarget, writes⟩ := stage
    have whole {bytes : ByteArray} (part : Part)
        (linked : (world.view requests sha256 event.process).linked part) :
        if part = .json then bytes = requests.contents sha256 event.process .json
          else (world.view requests sha256 event.process).complete part := by
      cases part with
      | json => exact absurd linked runs.1
      | sidecar => exact absurd linked runs.2.1
    split
    · exact .of_clear clear (.writes _ _ _ runs.1) (view_writes _ _ _)
        ⟨⟨runs, noTarget, writes⟩, fits.paired, whole, fits.owned⟩ fun _ _ => runs.1
    · exact .of_clear clear (.writes _ _ _ runs.1) (view_writes _ _ _)
        ⟨⟨running, runs, noTarget, writes, by simp⟩, fits.paired, whole, fits.owned⟩
        fun _ _ => runs.1
  | sidecar =>
    simp only [EvidenceView.Stage, called, phase] at stage
    obtain ⟨running, runs, keeps, writes⟩ := stage
    have whole {bytes : ByteArray} (part : Part)
        (linked : (world.view requests sha256 event.process).linked part) :
        if part = .sidecar then bytes = requests.contents sha256 event.process .sidecar
          else (world.view requests sha256 event.process).complete part := by
      cases part with
      | json => exact absurd linked runs.1
      | sidecar => exact absurd linked runs.2.1
    split
    · exact .of_clear clear (.writes _ _ _ runs.2.1) (view_writes _ _ _)
        ⟨⟨runs, Keeps.of_ne keeps rfl (fun _ => id) id, writes⟩, fits.paired, whole, fits.owned⟩
        fun _ _ => runs.1
    · exact .of_clear clear (.writes _ _ _ runs.2.1) (view_writes _ _ _)
        ⟨⟨running, runs, Keeps.of_ne keeps rfl (fun _ => id) id, writes, by simp⟩,
          fits.paired, whole, fits.owned⟩ fun _ _ => runs.1

theorem good_restricting (fits : (world.view requests sha256 event.process).Fits)
    (phase : (world.calls event.process).phase = .restrict part) :
    world.Good requests sha256 event (world.step requests sha256 event) := by
  have clear : world.Clear requests sha256 event := clear_of_phase (by simp [phase])
  have stage := fits.stage
  have called : (world.view requests sha256 event.process).call = world.calls event.process := rfl
  simp only [step, phase]
  cases part with
  | json =>
    simp only [EvidenceView.Stage, called, phase] at stage
    obtain ⟨running, runs, noTarget, ⟨name, named, held⟩, whole⟩ := stage
    split
    · exact .moves clear world.reserved _ ⟨⟨runs, noTarget, name, named, held⟩, fits.paired,
        fits.whole, fits.owned⟩ fun _ => .inr runs.1
    · refine .moves clear world.reserved _ ⟨⟨running, runs, name, ?_, held, whole⟩, fits.paired,
        fits.whole, fits.owned⟩ fun _ => .inr runs.1
      rw [called] at named
      simpa using named
  | sidecar =>
    simp only [EvidenceView.Stage, called, phase] at stage
    obtain ⟨running, runs, keeps, ⟨name, named, held⟩, whole⟩ := stage
    split
    · exact .moves clear world.reserved _ ⟨⟨runs, keeps, name, named, held⟩, fits.paired,
        fits.whole, fits.owned⟩ fun _ => .inr runs.1
    · refine .moves clear world.reserved _ ⟨⟨running, runs.1, runs.2.1,
        Keeps.of_ne keeps rfl (fun _ => id) id, ⟨name, ?_, held, whole⟩, runs.2.2.2⟩, fits.paired,
        fits.whole, fits.owned⟩ fun _ => .inr runs.1
      rw [called] at named
      simpa using named

/-- The unlinked temporary file is no longer held, and any other still is. -/
theorem Keeps.release {view next : EvidenceView} {name : String} {part removed : Part}
    (keeps : view.Keeps part) (unique : ∀ name left right, view.holds name left →
      view.holds name right → left = right)
    (held : view.holds name removed) (apart : part ≠ removed)
    (temporaries : next.call.temporaries part = view.call.temporaries part)
    (holds : next.holds = fun other made => other ≠ name ∧ view.holds other made)
    (complete : next.complete = view.complete) : next.Keeps part := by
  refine Keeps.of_ne keeps temporaries (fun other still => ?_) fun whole => complete ▸ whole
  rw [holds]
  refine ⟨fun same => apart ?_, still⟩
  subst same
  exact unique _ _ _ still held

theorem good_discarding (fits : (world.view requests sha256 event.process).Fits)
    (phase : (world.calls event.process).phase = .discard part) :
    world.Good requests sha256 event (world.step requests sha256 event) := by
  have clear : world.Clear requests sha256 event := clear_of_phase (by simp [phase])
  have stage := fits.stage
  have called : (world.view requests sha256 event.process).call = world.calls event.process := rfl
  simp only [step, phase]
  cases part with
  | json =>
    simp only [EvidenceView.Stage, called, phase] at stage
    obtain ⟨runs, noTarget, name, named, held⟩ := stage
    split
    · exact .raises clear fits (EvidenceView.leaves_of_none noTarget)
        (EvidenceView.leaves_of_none runs.2.2.1) runs.1
    · rw [called] at named
      rw [named, removeTemporary]
      refine .of_clear clear (.releases name .json _ held) (view_releases name _)
        ⟨⟨?_, ?_, fun goes => absurd goes.symm Bool.false_ne_true⟩, fits.paired, fits.whole,
          fits.owned⟩ fun _ _ => runs.1
      · exact EvidenceView.leaves_of_none noTarget
      · exact EvidenceView.leaves_of_none runs.2.2.1
  | sidecar =>
    simp only [EvidenceView.Stage, called, phase] at stage
    obtain ⟨runs, keeps, name, named, held⟩ := stage
    split
    · exact .raises clear fits keeps.leaves (EvidenceView.leaves_of_none runs.2.2.1) runs.1
    · rw [called] at named
      rw [named, removeTemporary]
      refine .of_clear clear (.releases name .sidecar _ held) (view_releases name _)
        ⟨⟨?_, ?_, fun goes => absurd goes.symm Bool.false_ne_true⟩, fits.paired, fits.whole,
          fits.owned⟩ fun _ _ => runs.1
      · refine EvidenceView.Keeps.leaves (Keeps.release keeps ?_ held (by decide) rfl rfl rfl)
        exact fun _ _ _ => part_unique
      · exact EvidenceView.leaves_of_none runs.2.2.1

omit [DecidableEq ρ] in
theorem found_of_keeps (keeps : (world.view requests sha256 event.process).Keeps part) :
    ((world.calls event.process).temporaries part).bind world.temporary =
      some (event.process, part) := by
  obtain ⟨name, named, held, -⟩ := keeps
  exact Option.bind_eq_some_iff.mpr ⟨name, named, held⟩

theorem good_linking (fits : (world.view requests sha256 event.process).Fits)
    (phase : (world.calls event.process).phase = .link part) :
    world.Good requests sha256 event (world.step requests sha256 event) := by
  have clear : world.Clear requests sha256 event := clear_of_phase (by simp [phase])
  have stage := fits.stage
  have called : (world.view requests sha256 event.process).call = world.calls event.process := rfl
  simp only [step, phase]
  cases part with
  | json =>
    simp only [EvidenceView.Stage, called, phase] at stage
    obtain ⟨running, unlinked, linked, keeps, noSidecar, owned⟩ := stage
    split
    · exact .raises clear fits keeps.leaves (EvidenceView.leaves_of_none noSidecar) unlinked
    · next free =>
      rw [found_of_keeps keeps]
      refine .of_clear clear (.links .json _ (by simp_all)) (view_links _ _)
        ⟨⟨running, .inl rfl, Keeps.of_ne keeps rfl (fun _ => id) id, noSidecar, owned⟩,
          fun _ => .inr linked, fun part there => ?_, fun _ => owned⟩ fun _ failed => ?_
      · rcases there with rfl | before
        · exact keeps.choose_spec.2.2
        · exact fits.whole part before
      · exact absurd (running.symm.trans failed) Bool.false_ne_true
  | sidecar =>
    simp only [EvidenceView.Stage, called, phase] at stage
    obtain ⟨running, unlinked, noSidecar, keeps, keepsSidecar, owned⟩ := stage
    split
    · exact .raises clear fits keeps.leaves keepsSidecar.leaves unlinked
    · next free =>
      rw [found_of_keeps keepsSidecar]
      refine .of_clear clear (.links .sidecar _ (by simp_all)) (view_links _ _)
        ⟨⟨running, fun there => ?_, .inl rfl, Keeps.of_ne keeps rfl (fun _ => id) id,
          Keeps.of_ne keepsSidecar rfl (fun _ => id) id, owned⟩,
          fun _ => .inl rfl, fun part there => ?_, fun _ => owned⟩ fun _ failed => ?_
      · exact there.elim (fun same => absurd same (by decide)) unlinked
      · rcases there with rfl | before
        · exact keepsSidecar.choose_spec.2.2
        · exact fits.whole part before
      · exact absurd (running.symm.trans failed) Bool.false_ne_true

theorem Good.spoils (call : EvidenceCall) (failed : call.failed = true)
    (linked : (world.view requests sha256 event.process).linked .json)
    (unclear : ¬world.Clear requests sha256 event)
    (fits : EvidenceView.Fits { world.view requests sha256 event.process with call := call }) :
    world.Good requests sha256 event (world.move event.process call) := by
  have viewed : ({ world with reserved := world.reserved }.move event.process call).view requests
      sha256 event.process = { world.view requests sha256 event.process with call := call } :=
    view_moves world.reserved call
  refine ⟨.moves world.reserved call, ?_, fun clear => absurd clear unclear, fun _ honest => ?_⟩
  · exact viewed ▸ fits
  · rw [show world.move event.process call = { world with reserved := world.reserved }.move
      event.process call from rfl, viewed] at honest
    exact honest failed linked

theorem good_unlinking (fits : (world.view requests sha256 event.process).Fits)
    (phase : (world.calls event.process).phase = .unlink part) :
    world.Good requests sha256 event (world.step requests sha256 event) := by
  have stage := fits.stage
  have called : (world.view requests sha256 event.process).call = world.calls event.process := rfl
  simp only [step, phase]
  cases part with
  | json =>
    simp only [EvidenceView.Stage, called, phase] at stage
    obtain ⟨running, linked, keeps, noSidecar, owned⟩ := stage
    rw [found_of_keeps keeps]
    cases fails : event.fails with
    | true =>
      refine .spoils _ rfl linked (fun clear => ?_) (fits.raising keeps.leaves
        (EvidenceView.leaves_of_none noSidecar))
      exact clear fails (by simp [phase]) linked
    | false =>
      have clear : world.Clear requests sha256 event := fun failing => by simp [fails] at failing
      obtain ⟨name, named, held, -⟩ := keeps
      rw [called] at named
      rw [named, removeTemporary]
      refine .of_clear clear (.releases name .json _ held) (view_releases name _)
        ⟨⟨?_, ?_, fun _ => ⟨linked, ?_, ?_⟩⟩, fits.paired, fits.whole, fits.owned⟩ fun before =>
          before
      · exact EvidenceView.leaves_of_none (by simp)
      · exact EvidenceView.leaves_of_none noSidecar
      · simp
      · exact noSidecar
  | sidecar =>
    have clear : world.Clear requests sha256 event := clear_of_phase (by simp [phase])
    simp only [EvidenceView.Stage, called, phase] at stage
    obtain ⟨running, unlinked, linked, keeps, keepsSidecar, owned⟩ := stage
    split
    · exact .raises clear fits keeps.leaves keepsSidecar.leaves unlinked
    · obtain ⟨name, named, held, -⟩ := keepsSidecar
      rw [called] at named
      rw [named, removeTemporary]
      refine .of_clear clear (.releases name .sidecar _ held) (view_releases name _)
        ⟨⟨running, unlinked, linked, ?_, ?_, owned⟩, fits.paired, fits.whole, fits.owned⟩
        fun _ _ => unlinked
      · exact Keeps.release keeps (fun _ _ _ => part_unique) held (by decide) rfl rfl rfl
      · simp

/-- The removal of a part's temporary file in the `finally` clause. -/
theorem good_dropping (fits : (world.view requests sha256 event.process).Fits)
    (phase : (world.calls event.process).phase = .drop part) :
    world.Good requests sha256 event (world.step requests sha256 event) := by
  have clear : world.Clear requests sha256 event := clear_of_phase (by simp [phase])
  have stage := fits.stage
  have called : (world.view requests sha256 event.process).call = world.calls event.process := rfl
  simp only [step, phase]
  cases part with
  | json =>
    simp only [EvidenceView.Stage, called, phase] at stage
    obtain ⟨leaves, leavesSidecar, returns⟩ := stage
    split
    · next failing =>
      refine .moves clear world.reserved _ fits.escaping fun _ => .inl ?_
      by_contra running
      simp [(returns (by simpa using running)).2.1] at failing
    · cases named : (world.calls event.process).temporaries .json with
      | none =>
        exact .moves clear world.reserved _ ⟨⟨leavesSidecar, fun running =>
          ⟨(returns running).1, (returns running).2.2⟩⟩, fits.paired, fits.whole, fits.owned⟩ .inl
      | some name =>
        have held := leaves name named
        refine .of_clear clear (.releases name .json _ held) (view_releases name _)
          ⟨⟨fun other left => ⟨fun same => ?_, leavesSidecar other left⟩, fun running =>
            ⟨(returns running).1, (returns running).2.2⟩⟩, fits.paired, fits.whole, fits.owned⟩ id
        exact absurd (part_unique held (same ▸ leavesSidecar other left)) (by decide)
  | sidecar =>
    simp only [EvidenceView.Stage, called, phase] at stage
    obtain ⟨leaves, returns⟩ := stage
    split
    · next failing =>
      refine .moves clear world.reserved _ fits.escaping fun _ => .inl ?_
      by_contra running
      simp [(returns (by simpa using running)).2] at failing
    · cases named : (world.calls event.process).temporaries .sidecar with
      | none =>
        exact .moves clear world.reserved _ ⟨fun running => (returns running).1, fits.paired,
          fits.whole, fits.owned⟩ .inl
      | some name =>
        exact .of_clear clear (.releases name .sidecar _ (leaves name named)) (view_releases name _)
          ⟨fun running => (returns running).1, fits.paired, fits.whole, fits.owned⟩ id

theorem good_releasing (fits : (world.view requests sha256 event.process).Fits)
    (phase : (world.calls event.process).phase = .dropReservation) :
    world.Good requests sha256 event (world.step requests sha256 event) := by
  have stage := fits.stage
  have called : (world.view requests sha256 event.process).call = world.calls event.process := rfl
  simp only [EvidenceView.Stage, called, phase] at stage
  have ends (reserved : String → Option ρ) (clear : world.Clear requests sha256 event) :
      world.Good requests sha256 event ({ world with reserved := reserved }.move event.process
        { world.calls event.process with phase := .finished }) :=
    .moves clear reserved _ ⟨stage, fits.paired, fits.whole, fits.owned⟩ .inl
  simp only [step, phase]
  by_cases linked : (world.view requests sha256 event.process).linked .json
  · have owned : (world.calls event.process).reservationOwned = true := fits.owned linked
    cases fails : event.fails with
    | true =>
      rw [if_pos (by simp [owned])]
      refine .spoils _ rfl linked (fun clear => ?_) fits.escaping
      exact clear fails (by simp [phase]) linked
    | false =>
      rw [if_neg (by simp), if_pos owned]
      exact ends _ fun failing => by simp [fails] at failing
  · have clear : world.Clear requests sha256 event := fun _ _ => linked
    split
    · exact .moves clear world.reserved _ fits.escaping fun _ => .inr linked
    split
    · exact ends _ clear
    · exact ends world.reserved clear

theorem good_step (fits : (world.view requests sha256 event.process).Fits) :
    world.Good requests sha256 event (world.step requests sha256 event) := by
  cases phase : (world.calls event.process).phase with
  | prepare => exact good_reserving fits (by simp [phase])
  | reserve => exact good_reserving fits (by simp [phase])
  | closeReservation => exact good_reserving fits (by simp [phase])
  | lookForTarget => exact good_checking fits (by simp [phase])
  | lookForSidecar => exact good_checking fits (by simp [phase])
  | serialize => exact good_checking fits (by simp [phase])
  | create part => exact good_creating fits phase
  | fill part => exact good_filling fits phase
  | restrict part => exact good_restricting fits phase
  | discard part => exact good_discarding fits phase
  | link part => exact good_linking fits phase
  | unlink part => exact good_unlinking fits phase
  | drop part => exact good_dropping fits phase
  | dropReservation => exact good_releasing fits phase
  | finished =>
    have clear : world.Clear requests sha256 event := clear_of_phase (by simp [phase])
    simp only [step, phase]
    exact .of_clear clear .stays rfl fits id

end Statements

/-- What is true of the directory and the calls at any time. -/
structure Invariant : Prop where
  fits : ∀ process, (world.view requests sha256 process).Fits
  /-- A final name is a link to the file of a call with that identity. -/
  owned : ∀ part identity process made, world.final part identity = some (process, made) →
    made = part ∧ requests.identity process = identity

/-- Final files stay, with their contents. -/
def Preserves (after : EvidenceWorld ρ) : Prop :=
  ∀ part identity file, world.final part identity = some file →
    after.final part identity = some file ∧ after.content file = world.content file

/-- Beside a JSON file there is the sidecar with its digest and its name. -/
def Paired : Prop :=
  ∀ identity file, world.final .json identity = some file →
    ∃ sidecar, world.final .sidecar identity = some sidecar ∧ world.content sidecar =
        EvidenceRequests.sidecarContents sha256 identity (world.content file)

def Returned (process : ρ) : Prop :=
  (world.calls process).phase = .finished ∧ (world.calls process).failed = false

/-- At most one call of an identity has returned. -/
def Unique : Prop :=
  ∀ first second, world.Returned first → world.Returned second →
    requests.identity first = requests.identity second → first = second

/-- A call that raises has published no JSON file. -/
def RaisesUnpublished : Prop :=
  ∀ process, (world.calls process).failed = true →
    ∀ identity, world.final .json identity ≠ some (process, .json)

/-- A step leaves final files as they are, in pairs, and returned calls unique. -/
def Safe (event : EvidenceEvent ρ) : Prop :=
  world.Preserves (world.step requests sha256 event) ∧
    (world.step requests sha256 event).Paired sha256 ∧
    (world.step requests sha256 event).Unique requests

/-- A step that is safe, after which no raising call has published. -/
def Respects (event : EvidenceEvent ρ) : Prop :=
  world.Safe requests sha256 event ∧ (world.step requests sha256 event).RaisesUnpublished

namespace Invariant

variable {requests sha256 world} {event : EvidenceEvent ρ}

omit [DecidableEq ρ] in
theorem start : (start : EvidenceWorld ρ).Invariant requests sha256 where
  fits process := by
    refine ⟨⟨rfl, ?_, ?_, rfl, rfl⟩, ?_, ?_, ?_⟩ <;> simp [view, EvidenceWorld.start]
  owned part identity process made linked := by cases linked

theorem step (invariant : world.Invariant requests sha256) :
    (world.step requests sha256 event).Invariant requests sha256 := by
  have good := good_step (invariant.fits event.process)
  refine ⟨fun process => ?_, ?_⟩
  · by_cases moved : process = event.process
    · rw [moved]
      exact good.fits
    · rw [good.change.view_others moved]
      exact invariant.fits process
  · have change := good.change
    generalize world.step requests sha256 event = after at change
    intro part identity process made linked
    cases change with
    | links target call free =>
      simp only [move, setFinal] at linked
      by_cases same : part = target
      · subst same
        rw [Function.update_self] at linked
        by_cases here : identity = requests.identity event.process
        · subst here
          rw [Function.update_self] at linked
          obtain ⟨rfl, rfl⟩ := Prod.mk.inj (Option.some.inj linked)
          exact ⟨rfl, rfl⟩
        · rw [Function.update_of_ne here] at linked
          exact invariant.owned _ _ _ _ linked
      · rw [Function.update_of_ne same] at linked
        exact invariant.owned _ _ _ _ linked
    | _ => exact invariant.owned _ _ _ _ linked

theorem preserves (invariant : world.Invariant requests sha256) :
    world.Preserves (world.step requests sha256 event) := by
  have change := (good_step (invariant.fits event.process)).change
  generalize world.step requests sha256 event = after at change
  intro part identity file linked
  cases change with
  | links target call free =>
    refine ⟨?_, rfl⟩
    simp only [move, setFinal]
    by_cases same : part = target
    · subst same
      rw [Function.update_self]
      by_cases here : identity = requests.identity event.process
      · rw [here, free] at linked
        cases linked
      · rwa [Function.update_of_ne here]
    · rwa [Function.update_of_ne same]
  | writes target bytes call unlinked =>
    refine ⟨linked, ?_⟩
    refine Function.update_of_ne (fun same => unlinked ?_) _ _
    subst same
    obtain ⟨rfl, rfl⟩ := invariant.owned _ _ _ _ linked
    exact linked
  | _ => exact ⟨linked, rfl⟩

omit [DecidableEq ρ] in
theorem paired (invariant : world.Invariant requests sha256) : world.Paired sha256 := by
  intro identity file linked
  obtain ⟨process, made⟩ := file
  obtain ⟨rfl, rfl⟩ := invariant.owned _ _ _ _ linked
  have fits := invariant.fits process
  have sidecar := fits.paired linked
  have json : world.content (process, .json) = requests.serialized process := fits.whole _ linked
  have line : world.content (process, .sidecar) = requests.contents sha256 process .sidecar :=
    fits.whole _ sidecar
  refine ⟨_, sidecar, ?_⟩
  rw [line, json]
  rfl

omit [DecidableEq ρ] in
theorem unique (invariant : world.Invariant requests sha256) : world.Unique requests := by
  have published (process : ρ) (returned : world.Returned process) :
      world.final .json (requests.identity process) = some (process, .json) := by
    have stage := (invariant.fits process).stage
    simp only [EvidenceView.Stage, view, returned.1] at stage
    exact stage returned.2
  intro first second firstReturned secondReturned same
  have left := published first firstReturned
  rw [same, published second secondReturned] at left
  exact (congrArg Prod.fst (Option.some.inj left)).symm

omit [DecidableEq ρ] in
theorem raisesUnpublished_iff (invariant : world.Invariant requests sha256) :
    world.RaisesUnpublished ↔ ∀ process, (world.view requests sha256 process).Honest := by
  constructor
  · intro unpublished process failed
    exact unpublished process failed _
  · intro honest process failed identity linked
    obtain ⟨-, rfl⟩ := invariant.owned _ _ _ _ linked
    exact honest process failed linked

theorem safe (invariant : world.Invariant requests sha256) : world.Safe requests sha256 event :=
  ⟨invariant.preserves, invariant.step.paired, invariant.step.unique⟩

/-- A clear step keeps calls honest, and no other does. -/
theorem respects_iff (invariant : world.Invariant requests sha256)
    (unpublished : world.RaisesUnpublished) :
    world.Respects requests sha256 event ↔ world.Clear requests sha256 event := by
  have good := good_step (invariant.fits event.process)
  rw [invariant.raisesUnpublished_iff] at unpublished
  constructor
  · rintro ⟨-, after⟩
    rw [invariant.step.raisesUnpublished_iff] at after
    by_contra unclear
    exact good.dishonest unclear (after event.process)
  · intro clear
    refine ⟨invariant.safe, invariant.step.raisesUnpublished_iff.mpr fun process => ?_⟩
    by_cases moved : process = event.process
    · rw [moved]
      exact good.honest clear (unpublished event.process)
    · rw [good.change.view_others moved]
      exact unpublished process

end Invariant

end EvidenceWorld

section Result

open EvidenceWorld

/-- One call that writes the files `a` and `b`, and cannot remove `a` after its last link. -/
def removalFails : List (EvidenceEvent ℕ) :=
  List.replicate 6 ⟨0, false, "a", ByteArray.empty⟩ ++
    List.replicate 3 ⟨0, false, "a", ByteArray.empty⟩ ++
    List.replicate 6 ⟨0, false, "b", ByteArray.empty⟩ ++ [⟨0, true, "", ByteArray.empty⟩]

/-- The call raises, and its JSON file is published. -/
theorem raises_published : ¬∀ (requests : EvidenceRequests ℕ) (sha256 : ByteArray → String)
    (events : List (EvidenceEvent ℕ)), Along (step requests sha256) (Respects requests sha256)
      start events := by
  intro respects
  have along := respects ⟨fun _ => "", fun _ => ByteArray.empty⟩ (fun _ => "") removalFails
  obtain ⟨-, -, -, -, -, -, -, -, -, -, -, -, -, -, -, ⟨-, unpublished⟩, -⟩ := along
  exact unpublished 0 rfl "" rfl

/-- In every run final files stay, each JSON file has its sidecar, and one call of an identity
returns; and calls that raise have published no JSON file exactly where no removal fails after the
JSON file is linked. -/
theorem evidence_sound {ρ : Type} [DecidableEq ρ] (requests : EvidenceRequests ρ)
    (sha256 : ByteArray → String) (events : List (EvidenceEvent ρ)) :
    Along (step requests sha256) (Safe requests sha256) start events ∧
      (Along (step requests sha256) (Respects requests sha256) start events ↔
        Along (step requests sha256) (Clear requests sha256) start events) := by
  have initial : (start : EvidenceWorld ρ).Invariant requests sha256 := Invariant.start
  have kept (world : EvidenceWorld ρ) (event : EvidenceEvent ρ)
      (invariant : world.Invariant requests sha256) :
      (world.step requests sha256 event).Invariant requests sha256 := invariant.step
  have safe (world : EvidenceWorld ρ) (event : EvidenceEvent ρ)
      (invariant : world.Invariant requests sha256) : world.Safe requests sha256 event :=
    invariant.safe
  refine ⟨along_of_invariant safe kept initial events, ?_⟩
  have agree (world : EvidenceWorld ρ) (event : EvidenceEvent ρ)
      (state : world.Invariant requests sha256 ∧ world.RaisesUnpublished) :
      world.Respects requests sha256 event ↔ world.Clear requests sha256 event :=
    state.1.respects_iff state.2
  refine along_congr agree (fun world event state clear => ⟨kept world event state.1, ?_⟩)
    ⟨initial, fun _ failed => by cases failed⟩ events
  exact ((agree world event state).mpr clear).2

end Result

end VoodooOne.Publication
