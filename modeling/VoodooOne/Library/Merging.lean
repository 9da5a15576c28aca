import VoodooOne.Library.Table

/-!
# Merging

A dictionary is a list of rows with distinct keys.  Rows are assigned to it one after the other, and
a row whose key already has another value is a conflict.
-/

namespace Merging

variable {κ υ ε : Type} [DecidableEq κ] [DecidableEq υ]

omit [DecidableEq κ] [DecidableEq υ] in
/-- No key has two values. -/
def Functional (states : κ × υ → Prop) : Prop :=
  ∀ ⦃key one other⦄, states (key, one) → states (key, other) → one = other

def assign (conflict : κ → ε) (rows : List (κ × υ)) (key : κ) (value : υ) :
    Except ε (List (κ × υ)) :=
  match rows.lookup key with
  | none => .ok (rows ++ [(key, value)])
  | some previous => if previous = value then .ok rows else .error (conflict key)

def merge (conflict : κ → ε) (rows : List (κ × υ)) : List (κ × υ) → Except ε (List (κ × υ))
  | [] => .ok rows
  | row :: more =>
      match assign conflict rows row.1 row.2 with
      | .ok rows => merge conflict rows more
      | .error error => .error error

variable {conflict : κ → ε} {rows more result : List (κ × υ)} {key : κ} {value : υ}

omit [DecidableEq κ] [DecidableEq υ] in
theorem Functional.of_keyed (keyed : Table.Keyed Prod.fst rows) : Functional (· ∈ rows) :=
  fun _ _ _ found there => congrArg Prod.snd (keyed.unique found there rfl)

omit [DecidableEq κ] [DecidableEq υ] in
theorem Functional.congr {left right : κ × υ → Prop} (same : ∀ row, left row ↔ right row) :
    Functional left ↔ Functional right := by
  simp only [Functional, same]

omit [DecidableEq κ] [DecidableEq υ] in
theorem Functional.mono {left right : κ × υ → Prop} (functional : Functional right)
    (part : ∀ row, left row → right row) : Functional left :=
  fun _ _ _ found there => functional (part _ found) (part _ there)

omit [DecidableEq υ] in
theorem lookup_eq_some_iff_mem (keyed : Table.Keyed Prod.fst rows) :
    rows.lookup key = some value ↔ (key, value) ∈ rows := by
  constructor
  · intro found
    obtain ⟨front, back, rfl, -⟩ := List.lookup_eq_some_iff.mp found
    exact List.mem_append_right _ List.mem_cons_self
  · intro member
    cases found : rows.lookup key with
    | none =>
        have absent := List.lookup_eq_none_iff.mp found (key, value) member
        simp at absent
    | some other =>
        obtain ⟨front, back, rfl, -⟩ := List.lookup_eq_some_iff.mp found
        have same := keyed.unique member (List.mem_append_right _ List.mem_cons_self) rfl
        exact congrArg some (congrArg Prod.snd same).symm

omit [DecidableEq υ] in
theorem ne_of_lookup_eq_none (fresh : rows.lookup key = none) : ∀ row ∈ rows, row.1 ≠ key := by
  intro row member same
  have absent := List.lookup_eq_none_iff.mp fresh row member
  simp [same] at absent

/-- One assignment: the keys stay distinct, and the row is the only new one. -/
theorem assign_spec (keyed : Table.Keyed Prod.fst rows)
    (assigned : assign conflict rows key value = .ok result) :
    Table.Keyed Prod.fst result ∧ ∀ row, row ∈ result ↔ row ∈ rows ∨ row = (key, value) := by
  unfold assign at assigned
  split at assigned
  · next fresh =>
    cases assigned
    exact ⟨keyed.append (ne_of_lookup_eq_none fresh), fun row => by simp⟩
  · next previous known =>
    split at assigned
    · next same =>
      cases assigned
      subst same
      have member := (lookup_eq_some_iff_mem keyed).mp known
      refine ⟨keyed, fun row => ⟨.inl, ?_⟩⟩
      rintro (old | rfl)
      · exact old
      · exact member
    · cases assigned

theorem assign_ok_iff (keyed : Table.Keyed Prod.fst rows) :
    (∃ result, assign conflict rows key value = .ok result) ↔
      Functional fun row => row ∈ rows ∨ row = (key, value) := by
  constructor
  · rintro ⟨result, assigned⟩
    obtain ⟨distinct, members⟩ := assign_spec keyed assigned
    exact (Functional.congr members).mp (Functional.of_keyed distinct)
  · intro functional
    cases known : rows.lookup key with
    | none => exact ⟨_, by rw [assign, known]⟩
    | some previous =>
        have member := (lookup_eq_some_iff_mem keyed).mp known
        exact ⟨rows, by rw [assign, known]; exact if_pos (functional (.inl member) (.inr rfl))⟩

theorem merge_spec (keyed : Table.Keyed Prod.fst rows)
    (merged : merge conflict rows more = .ok result) :
    Table.Keyed Prod.fst result ∧ ∀ row, row ∈ result ↔ row ∈ rows ∨ row ∈ more := by
  induction more generalizing rows with
  | nil =>
      cases merged
      exact ⟨keyed, fun row => by simp⟩
  | cons first more induction =>
      rw [merge] at merged
      cases assigned : assign conflict rows first.1 first.2 with
      | error error => rw [assigned] at merged; cases merged
      | ok next =>
          rw [assigned] at merged
          obtain ⟨distinct, added⟩ := assign_spec keyed assigned
          obtain ⟨distinct, members⟩ := induction distinct merged
          refine ⟨distinct, fun row => ?_⟩
          rw [members, added, List.mem_cons, or_assoc]

/-- Rows are merged exactly when no key gets two values. -/
theorem merge_ok_iff (keyed : Table.Keyed Prod.fst rows) :
    (∃ result, merge conflict rows more = .ok result) ↔
      Functional fun row => row ∈ rows ∨ row ∈ more := by
  constructor
  · rintro ⟨result, merged⟩
    obtain ⟨distinct, members⟩ := merge_spec keyed merged
    exact (Functional.congr members).mp (Functional.of_keyed distinct)
  · intro functional
    induction more generalizing rows with
    | nil => exact ⟨rows, rfl⟩
    | cons first more induction =>
        have here : Functional fun row => row ∈ rows ∨ row = (first.1, first.2) :=
          functional.mono fun row => Or.imp_right fun same => same ▸ List.mem_cons_self
        obtain ⟨next, assigned⟩ := (assign_ok_iff keyed).mpr here
        obtain ⟨distinct, added⟩ := assign_spec keyed assigned
        have later : Functional fun row => row ∈ next ∨ row ∈ more := by
          refine functional.mono fun row => ?_
          rw [added, List.mem_cons, or_assoc]
          exact id
        obtain ⟨result, merged⟩ := induction distinct later
        exact ⟨result, by rw [merge, assigned]; exact merged⟩

end Merging
