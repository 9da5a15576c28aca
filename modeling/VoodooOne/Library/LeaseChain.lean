import Mathlib

/-!
# Lease chains

The leases granted for one resource form a chain of time intervals: each starts when the one
before it has ended, and the resource is completed at most once, inside the last interval.
-/

/-- Intervals of successive leases, and the time of completion. -/
structure LeaseChain (τ : Type*) [LinearOrder τ] where
  /-- Start and end of each lease, in order of granting. -/
  intervals : List (τ × τ)
  /-- Time of completion. -/
  completion : Option τ
  /-- Every lease starts before it ends. -/
  proper : ∀ interval ∈ intervals, interval.1 < interval.2
  /-- A lease starts after all earlier ones have ended. -/
  ordered : intervals.Pairwise fun earlier later => earlier.2 ≤ later.1
  /-- Completion lies inside the last lease. -/
  inside : ∀ time ∈ completion, ∃ interval ∈ intervals.getLast?,
    interval.1 ≤ time ∧ time < interval.2

namespace LeaseChain

variable {τ : Type*} [LinearOrder τ] (chain : LeaseChain τ)

/-- No lease has been granted. -/
def empty : LeaseChain τ where
  intervals := []
  completion := none
  proper := by simp
  ordered := .nil
  inside := by simp

theorem le_last {last interval : τ × τ} (isLast : last ∈ chain.intervals.getLast?)
    (member : interval ∈ chain.intervals) : interval.2 ≤ last.2 := by
  obtain ⟨front, shape⟩ := List.getLast?_eq_some_iff.mp isLast
  have ordered := chain.ordered
  rw [shape, List.pairwise_append] at ordered
  rw [shape] at member
  rcases List.mem_append.mp member with early | late
  · have before := ordered.2.2 interval early last (List.mem_singleton_self last)
    have lastMember : last ∈ chain.intervals := by
      rw [shape]
      simp
    exact before.trans (chain.proper last lastMember).le
  · rw [List.mem_singleton.mp late]

def grant (start stop : τ) (proper : start < stop) (uncompleted : chain.completion = none)
    (after : ∀ last ∈ chain.intervals.getLast?, last.2 ≤ start) : LeaseChain τ where
  intervals := chain.intervals ++ [(start, stop)]
  completion := chain.completion
  proper interval member := by
    rcases List.mem_append.mp member with old | new
    · exact chain.proper interval old
    · rw [List.mem_singleton.mp new]
      exact proper
  ordered := by
    rw [List.pairwise_append]
    refine ⟨chain.ordered, List.pairwise_singleton .., ?_⟩
    intro earlier member later new
    rw [List.mem_singleton.mp new]
    obtain ⟨last, isLast⟩ : ∃ last, last ∈ chain.intervals.getLast? := by
      cases found : chain.intervals.getLast? with
      | none =>
          rw [List.getLast?_eq_none_iff.mp found] at member
          cases member
      | some last => exact ⟨last, rfl⟩
    exact (chain.le_last isLast member).trans (after last isLast)
  inside time completed := by
    rw [uncompleted] at completed
    cases completed

def complete (time : τ) (inside : ∃ interval ∈ chain.intervals.getLast?,
    interval.1 ≤ time ∧ time < interval.2) : LeaseChain τ where
  intervals := chain.intervals
  completion := some time
  proper := chain.proper
  ordered := chain.ordered
  inside other same := by
    rw [Option.mem_some_iff.mp same] at inside
    exact inside

/-- Two leases of a chain are never in force together. -/
theorem disjoint : chain.intervals.Pairwise fun earlier later =>
    Disjoint (Set.Ico earlier.1 earlier.2) (Set.Ico later.1 later.2) := by
  refine chain.ordered.imp ?_
  intro earlier later before
  rw [Set.Ico_disjoint_Ico]
  exact (min_le_left _ _).trans (before.trans (le_max_right _ _))

end LeaseChain
