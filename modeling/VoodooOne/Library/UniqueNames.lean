import Mathlib.Data.List.Nodup
import Mathlib.Data.List.Range

/-!
# Unique names

Candidates for names are taken one after the other.  A candidate that is in use is numbered until it
is not, so all names that are given are different from each other and from those in use before.
-/

namespace UniqueNames

variable {κ : Type*}

def attempts (numbered : κ → Nat → κ) (candidate : κ) (count : Nat) : List κ :=
  candidate :: (List.range count).map fun index => numbered candidate (index + 2)

/-- The first of the candidate and its numbered forms that is not in use. -/
def unused [DecidableEq κ] (numbered : κ → Nat → κ) (used : List κ) (candidate : κ) : κ :=
  ((attempts numbered candidate used.length).find? (· ∉ used)).getD candidate

/-- Names for candidates, each kept apart from those in use and those given before. -/
def assign [DecidableEq κ] (numbered : κ → Nat → κ) : List κ → List κ → List κ
  | _, [] => []
  | used, candidate :: candidates =>
      unused numbered used candidate ::
        assign numbered (used ++ [unused numbered used candidate]) candidates

/-- Numbered forms that differ from their candidate and from each other. -/
structure Numbering (numbered : κ → Nat → κ) : Prop where
  ne_candidate (candidate : κ) (number : Nat) : numbered candidate number ≠ candidate
  injective (candidate : κ) : Function.Injective (numbered candidate)

variable {numbered : κ → Nat → κ}

namespace Numbering

theorem attempts_nodup (numbering : Numbering numbered) (candidate : κ) (count : Nat) :
    (attempts numbered candidate count).Nodup := by
  refine List.nodup_cons.mpr ⟨?_, ?_⟩
  · intro member
    obtain ⟨index, -, same⟩ := List.mem_map.mp member
    exact numbering.ne_candidate candidate _ same
  · refine List.nodup_range.map fun left right same => ?_
    exact Nat.add_right_cancel (numbering.injective candidate same)

variable [DecidableEq κ]

/-- More forms are tried than names are in use, so one of them is free. -/
theorem exists_unused (numbering : Numbering numbered) (used : List κ) (candidate : κ) :
    ∃ name ∈ attempts numbered candidate used.length, name ∉ used := by
  by_contra all
  have taken : attempts numbered candidate used.length ⊆ used := fun name member =>
    not_not.mp fun free => all ⟨name, member, free⟩
  have short :=
    (numbering.attempts_nodup candidate used.length).length_le_of_subset taken
  rw [attempts, List.length_cons, List.length_map, List.length_range] at short
  omega

theorem unused_mem (numbering : Numbering numbered) (used : List κ) (candidate : κ) :
    unused numbered used candidate ∈ attempts numbered candidate used.length ∧
      unused numbered used candidate ∉ used := by
  obtain ⟨name, member, free⟩ := numbering.exists_unused used candidate
  unfold unused
  cases found : (attempts numbered candidate used.length).find? (· ∉ used) with
  | none => exact absurd (decide_eq_true free) (List.find?_eq_none.mp found name member)
  | some other =>
      have free := List.find?_some found
      exact ⟨List.mem_of_find?_eq_some found, of_decide_eq_true free⟩

/-- The names in use and those given are all different. -/
theorem assign_nodup (numbering : Numbering numbered) {used : List κ} (distinct : used.Nodup)
    (candidates : List κ) : (used ++ assign numbered used candidates).Nodup := by
  induction candidates generalizing used with
  | nil => rwa [assign, List.append_nil]
  | cons candidate candidates induction =>
      have free := (numbering.unused_mem used candidate).2
      have extended : (used ++ [unused numbered used candidate]).Nodup :=
        List.nodup_append.mpr ⟨distinct, List.nodup_singleton _,
          fun name member other single same =>
          free (List.mem_singleton.mp single ▸ same ▸ member)⟩
      have later := induction extended
      rwa [List.append_assoc, List.singleton_append] at later

end Numbering

variable [DecidableEq κ]

theorem length_assign (used candidates : List κ) :
    (assign numbered used candidates).length = candidates.length := by
  induction candidates generalizing used with
  | nil => rfl
  | cons candidate candidates induction => rw [assign, List.length_cons, List.length_cons,
      induction]

theorem forall_assign (numbering : Numbering numbered) (used candidates : List κ) :
    List.Forall₂ (fun name candidate => name = candidate ∨ ∃ number,
      name = numbered candidate number) (assign numbered used candidates) candidates := by
  induction candidates generalizing used with
  | nil => exact .nil
  | cons candidate candidates induction =>
      refine .cons ?_ (induction _)
      rcases List.mem_cons.mp (numbering.unused_mem used candidate).1 with same | member
      · exact .inl same
      · obtain ⟨index, -, same⟩ := List.mem_map.mp member
        exact .inr ⟨_, same.symm⟩

end UniqueNames
