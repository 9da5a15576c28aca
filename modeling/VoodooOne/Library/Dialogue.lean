import Mathlib.Data.List.Basic

/-!
# Dialogues with an environment

A computation that sends requests and waits for an answer to each.  Nothing is assumed about the
answers: an environment may answer the same request differently at any time.
-/

/-- A computation that sends requests `ρ`, reads answers `ω`, and returns or raises. -/
inductive Dialogue (ρ ω ε α : Type) where
  | done (outcome : Except ε α)
  | ask (request : ρ) (next : ω → Dialogue ρ ω ε α)

namespace Dialogue

variable {ρ ω ε α β : Type}

def andThen : Dialogue ρ ω ε α → (α → Dialogue ρ ω ε β) → Dialogue ρ ω ε β
  | done (.ok result), second => second result
  | done (.error error), _ => done (.error error)
  | ask request next, second => ask request fun answer => (next answer).andThen second

instance : Monad (Dialogue ρ ω ε) where
  pure result := done (.ok result)
  bind := andThen

instance : MonadLift (Except ε) (Dialogue ρ ω ε) where
  monadLift := done

def send (request : ρ) : Dialogue ρ ω ε ω := ask request fun answer => done (.ok answer)

def Leads : Dialogue ρ ω ε α → List (ρ × ω) → Except ε α → Prop
  | done outcome, [], ended => ended = outcome
  | ask request next, (sent, answer) :: later, ended => sent = request ∧
      (next answer).Leads later ended
  | _, _, _ => False

/-- The requests with their answers, and the outcome, where the answers are given in turn. -/
def run : Dialogue ρ ω ε α → (Nat → ω) → List (ρ × ω) × Except ε α
  | done outcome, _ => ([], outcome)
  | ask request next, answers =>
      let (later, outcome) := (next (answers 0)).run fun index => answers (index + 1)
      ((request, answers 0) :: later, outcome)

theorem run_leads (dialogue : Dialogue ρ ω ε α) (answers : Nat → ω) :
    dialogue.Leads (dialogue.run answers).1 (dialogue.run answers).2 := by
  induction dialogue generalizing answers with
  | done outcome => rfl
  | ask request next induction => exact ⟨rfl, induction _ _⟩

variable {exchanges : List (ρ × ω)}

@[simp] theorem leads_done {outcome ended : Except ε α} :
    (done outcome : Dialogue ρ ω ε α).Leads exchanges ended ↔ exchanges = [] ∧ ended = outcome := by
  cases exchanges <;> simp [Leads]

@[simp] theorem leads_pure {result : α} {ended : Except ε α} :
    (pure result : Dialogue ρ ω ε α).Leads exchanges ended ↔ exchanges = [] ∧ ended = .ok result :=
  leads_done

@[simp] theorem leads_lift {outcome ended : Except ε α} :
    (liftM outcome : Dialogue ρ ω ε α).Leads exchanges ended ↔ exchanges = [] ∧ ended = outcome :=
  leads_done

@[simp] theorem leads_send {request : ρ} {ended : Except ε ω} :
    (send request : Dialogue ρ ω ε ω).Leads exchanges ended ↔
      ∃ answer, exchanges = [(request, answer)] ∧ ended = .ok answer := by
  cases exchanges with
  | nil => simp [send, Leads]
  | cons exchange later =>
      obtain ⟨sent, answer⟩ := exchange
      simp only [send, Leads, leads_done, List.cons.injEq, Prod.mk.injEq]
      constructor
      · rintro ⟨rfl, rfl, rfl⟩
        exact ⟨answer, ⟨⟨rfl, rfl⟩, rfl⟩, rfl⟩
      · rintro ⟨_, ⟨⟨rfl, rfl⟩, rfl⟩, rfl⟩
        exact ⟨rfl, rfl, rfl⟩

variable {second : α → Dialogue ρ ω ε β} {first : Dialogue ρ ω ε α} {ended : Except ε β}
  {outcome : Except ε α}

/-- A sequence ends where its first part raises, or after both parts. -/
theorem leads_bind : (first >>= second).Leads exchanges ended ↔
      (∃ error, first.Leads exchanges (.error error) ∧ ended = .error error) ∨
      ∃ result early late, exchanges = early ++ late ∧ first.Leads early (.ok result) ∧
        (second result).Leads late ended := by
  change (first.andThen second).Leads exchanges ended ↔ _
  induction first generalizing exchanges with
  | done outcome =>
      cases outcome with
      | error error => simp [andThen]
      | ok result => simp [andThen]
  | ask request next induction =>
      cases exchanges with
      | nil => simp [andThen, Leads]
      | cons exchange later =>
          obtain ⟨sent, answer⟩ := exchange
          simp only [andThen, Leads, induction answer]
          constructor
          · rintro ⟨asked, ⟨error, raised, rfl⟩ | ⟨result, early, late, rfl, returned, ends⟩⟩
            · exact .inl ⟨error, ⟨asked, raised⟩, rfl⟩
            · exact .inr ⟨result, (sent, answer) :: early, late, rfl, ⟨asked, returned⟩, ends⟩
          · rintro (⟨error, ⟨asked, raised⟩, rfl⟩ | ⟨result, early, late, split, returned, ends⟩)
            · exact ⟨asked, .inl ⟨error, raised, rfl⟩⟩
            · cases early with
              | nil => exact absurd returned (by simp [Leads])
              | cons first early =>
                  rw [List.cons_append, List.cons.injEq] at split
                  obtain ⟨rfl, rfl⟩ := split
                  exact ⟨returned.1, .inr ⟨result, early, late, rfl, returned.2, ends⟩⟩

/-- A sequence that returns went through both parts. -/
theorem leads_bind_ok {value : β} : (first >>= second).Leads exchanges (.ok value) ↔
      ∃ result early late, exchanges = early ++ late ∧ first.Leads early (.ok result) ∧
        (second result).Leads late (.ok value) := by
  rw [leads_bind]
  constructor
  · rintro (⟨_, _, ended⟩ | returned)
    · cases ended
    · exact returned
  · exact .inr

/-- A part without requests raises before anything is sent, or sends nothing itself. -/
theorem leads_lift_bind : ((liftM outcome : Dialogue ρ ω ε α) >>= second).Leads exchanges ended ↔
      (∃ error, outcome = .error error ∧ exchanges = [] ∧ ended = .error error) ∨
      ∃ result, outcome = .ok result ∧ (second result).Leads exchanges ended := by
  rw [leads_bind]
  simp only [leads_lift]
  constructor
  · rintro (⟨error, ⟨rfl, rfl⟩, rfl⟩ | ⟨result, _, late, rfl, ⟨rfl, rfl⟩, later⟩)
    · exact .inl ⟨error, rfl, rfl, rfl⟩
    · exact .inr ⟨result, rfl, later⟩
  · rintro (⟨error, rfl, rfl, rfl⟩ | ⟨result, rfl, later⟩)
    · exact .inl ⟨error, ⟨rfl, rfl⟩, rfl⟩
    · exact .inr ⟨result, [], exchanges, rfl, ⟨rfl, rfl⟩, later⟩

theorem leads_lift_bind_ok {value : β} :
    ((liftM outcome : Dialogue ρ ω ε α) >>= second).Leads exchanges (.ok value) ↔
      ∃ result, outcome = .ok result ∧ (second result).Leads exchanges (.ok value) := by
  rw [leads_lift_bind]
  constructor
  · rintro (⟨_, _, _, ended⟩ | returned)
    · cases ended
    · exact returned
  · exact .inr

theorem leads_send_bind {request : ρ} {second : ω → Dialogue ρ ω ε β} :
    ((send request : Dialogue ρ ω ε ω) >>= second).Leads exchanges ended ↔
      ∃ answer later, exchanges = (request, answer) :: later ∧
        (second answer).Leads later ended := by
  rw [leads_bind]
  simp only [leads_send]
  constructor
  · rintro (⟨_, ⟨_, _, ended⟩, _⟩ | ⟨_, _, late, rfl, ⟨answer, rfl, same⟩, later⟩)
    · cases ended
    · cases same
      exact ⟨_, late, rfl, later⟩
  · rintro ⟨answer, late, rfl, later⟩
    exact .inr ⟨answer, [(request, answer)], late, rfl, ⟨answer, rfl, rfl⟩, later⟩

/-- Whatever the answers are, only allowed requests are sent. -/
def Sends (allowed : ρ → Prop) (dialogue : Dialogue ρ ω ε α) : Prop :=
  ∀ exchanges ended, dialogue.Leads exchanges ended → ∀ exchange ∈ exchanges, allowed exchange.1

variable {allowed : ρ → Prop}

theorem sends_done (outcome : Except ε α) : (done outcome : Dialogue ρ ω ε α).Sends allowed := by
  intro exchanges ended leads exchange member
  rw [(leads_done.mp leads).1] at member
  cases member

theorem sends_send {request : ρ} (granted : allowed request) :
    (send request : Dialogue ρ ω ε ω).Sends allowed := by
  intro exchanges ended leads exchange member
  obtain ⟨answer, rfl, -⟩ := leads_send.mp leads
  rw [List.mem_singleton.mp member]
  exact granted

theorem Sends.bind (early : first.Sends allowed) (late : ∀ result, (second result).Sends allowed) :
    (first >>= second).Sends allowed := by
  intro exchanges ended leads exchange member
  rcases leads_bind.mp leads with ⟨error, raised, -⟩ | ⟨result, _, _, rfl, returned, later⟩
  · exact early _ _ raised exchange member
  · rcases List.mem_append.mp member with old | new
    · exact early _ _ returned exchange old
    · exact late result _ _ later exchange new

theorem Sends.lift_bind (late : ∀ result, (second result).Sends allowed) :
    ((liftM outcome : Dialogue ρ ω ε α) >>= second).Sends allowed :=
  (sends_done outcome).bind late

/-- Whatever the answers are, only values with the property are returned. -/
def Returns (property : α → Prop) (dialogue : Dialogue ρ ω ε α) : Prop :=
  ∀ exchanges value, dialogue.Leads exchanges (.ok value) → property value

theorem returns_pure {property : α → Prop} {value : α} (holds : property value) :
    (pure value : Dialogue ρ ω ε α).Returns property := by
  intro exchanges other leads
  rw [Except.ok.inj (leads_pure.mp leads).2]
  exact holds

theorem Returns.bind {property : β → Prop} (first : Dialogue ρ ω ε α)
    (late : ∀ result, (second result).Returns property) :
    (first >>= second).Returns property := by
  intro exchanges value leads
  obtain ⟨result, _, _, -, -, later⟩ := leads_bind_ok.mp leads
  exact late result _ _ later

theorem Returns.lift_bind {property : β → Prop}
    (late : ∀ result, outcome = .ok result → (second result).Returns property) :
    ((liftM outcome : Dialogue ρ ω ε α) >>= second).Returns property := by
  intro exchanges value leads
  obtain ⟨result, returned, later⟩ := leads_lift_bind_ok.mp leads
  exact late result returned _ _ later

end Dialogue
