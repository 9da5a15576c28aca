import Mathlib.Order.Interval.Set.LinearOrder

/-!
# Windows of time

A window is a nonempty half-open stretch of time.  One window lies in another when all of its
moments do, and a deadline cuts a window off.
-/

namespace VoodooOne

/-- A half-open stretch of time. -/
structure Window (Time : Type) [LinearOrder Time] where
  (start stop : Time)
  nonempty : start < stop

namespace Window

variable {Time : Type} [LinearOrder Time]

/-- The moments of a window: its start is one, its stop is not. -/
def moments (window : Window Time) : Set Time := Set.Ico window.start window.stop

instance : LE (Window Time) := ⟨fun inner outer => inner.moments ⊆ outer.moments⟩

theorem le_iff {inner outer : Window Time} :
    inner ≤ outer ↔ outer.start ≤ inner.start ∧ inner.stop ≤ outer.stop :=
  Set.Ico_subset_Ico_iff inner.nonempty

theorem le_self (window : Window Time) : window ≤ window := le_iff.mpr ⟨le_rfl, le_rfl⟩

theorem le_trans {inner middle outer : Window Time} (within : inner ≤ middle)
    (further : middle ≤ outer) : inner ≤ outer := Set.Subset.trans within further

def cutAt (window : Window Time) (deadline : Time) (later : window.start < deadline) :
    Window Time :=
  ⟨window.start, min window.stop deadline, lt_min window.nonempty later⟩

theorem cutAt_le (window : Window Time) {deadline : Time} (later : window.start < deadline) :
    window.cutAt deadline later ≤ window :=
  le_iff.mpr ⟨le_rfl, min_le_left _ _⟩

theorem cutAt_stop_le (window : Window Time) {deadline : Time} (later : window.start < deadline) :
    (window.cutAt deadline later).stop ≤ deadline :=
  min_le_right _ _

end Window

end VoodooOne
