import Mathlib.Data.List.Sort

/-!
# Sorting by a key

A sorted list whose keys tell its items apart is the only sorted list of those items.
-/

namespace Sorting

variable {α β : Type*} [LinearOrder β] {key : α → β} {left right : List α}

theorem pairwise_sorted (items : List α) :
    (items.insertionSort fun first second => key first ≤ key second).Pairwise
      fun first second => key first ≤ key second := by
  let le (first second : α) : Prop := key first ≤ key second
  have total : Std.Total le := ⟨fun first second => le_total (key first) (key second)⟩
  have trans : IsTrans α le := ⟨fun _ _ _ early late => le_trans early late⟩
  exact List.pairwise_insertionSort le items

/-- Sorting finds the strictly sorted list of the same items. -/
theorem insertionSort_eq_of_strict (perm : left.Perm right)
    (strict : (right.map key).Pairwise (· < ·)) :
    left.insertionSort (fun first second => key first ≤ key second) = right := by
  have ascending : right.Pairwise fun first second => key first ≤ key second :=
    (List.pairwise_map.mp strict).imp le_of_lt
  have distinct : (right.map key).Nodup := strict.imp ne_of_lt
  have sorted := (List.perm_insertionSort (fun first second => key first ≤ key second) left).trans
    perm
  refine List.Perm.eq_of_pairwise ?_ (pairwise_sorted left) ascending sorted
  intro first second found other early late
  exact List.inj_on_of_nodup_map distinct (sorted.mem_iff.mp found) other (le_antisymm early late)

/-- Sorting by a key that tells all items apart forgets their order. -/
theorem insertionSort_eq_of_perm (distinct : Function.Injective key) (perm : left.Perm right) :
    left.insertionSort (fun first second => key first ≤ key second) =
      right.insertionSort fun first second => key first ≤ key second := by
  let le (first second : α) : Prop := key first ≤ key second
  have sorted := (List.perm_insertionSort le left).trans
    (perm.trans (List.perm_insertionSort le right).symm)
  exact List.Perm.eq_of_pairwise (fun _ _ _ _ early late => distinct (le_antisymm early late))
    (pairwise_sorted left) (pairwise_sorted right) sorted

/-- Sorting forgets the order of items that their keys tell apart. -/
theorem insertionSort_eq_of_distinct (distinct : (left.map key).Nodup) (perm : left.Perm right) :
    left.insertionSort (fun first second => key first ≤ key second) =
      right.insertionSort fun first second => key first ≤ key second := by
  let le (first second : α) : Prop := key first ≤ key second
  have sorted := (List.perm_insertionSort le left).trans
    (perm.trans (List.perm_insertionSort le right).symm)
  refine List.Perm.eq_of_pairwise ?_ (pairwise_sorted left) (pairwise_sorted right) sorted
  intro first second found other early late
  have here := (List.mem_insertionSort le).mp found
  have there := perm.mem_iff.mpr ((List.mem_insertionSort le).mp other)
  exact List.inj_on_of_nodup_map distinct here there (le_antisymm early late)

end Sorting
