import Mathlib.Data.List.Forall2
import Mathlib.Data.List.Count
import VoodooOne.Library.Table

/-!
# Paired journals

Two append-only journals are paired when their records come in related pairs, each pair under a key
of its own.  Then a key has a record on one side exactly when it has one single record on the other.
-/

/-- Two journals whose records come in related pairs under distinct keys. -/
structure Paired {α β κ : Type*} (related : α → β → Prop) (left : α → κ) (right : β → κ)
    (lefts : List α) (rights : List β) : Prop where
  pairs : List.Forall₂ related lefts rights
  sameKeys : lefts.map left = rights.map right
  distinct : Table.Keyed left lefts

namespace Paired

variable {α β κ : Type*} {related other : α → β → Prop} {left : α → κ} {right : β → κ}
  {lefts : List α} {rights : List β}

theorem nil : Paired related left right [] [] := ⟨.nil, rfl, Table.keyed_nil⟩

theorem imp (paired : Paired related left right lefts rights)
    (weaker : ∀ a b, related a b → other a b) : Paired other left right lefts rights :=
  ⟨paired.pairs.imp weaker, paired.sameKeys, paired.distinct⟩

theorem append (paired : Paired related left right lefts rights) {a : α} {b : β}
    (pair : related a b) (same : left a = right b) (fresh : ∀ x ∈ lefts, left x ≠ left a) :
    Paired related left right (lefts ++ [a]) (rights ++ [b]) := by
  refine ⟨List.rel_append paired.pairs (.cons pair .nil), ?_, paired.distinct.append fresh⟩
  rw [List.map_append, List.map_append, paired.sameKeys, List.map_singleton, List.map_singleton,
    same]

theorem related_of_mem (paired : Paired related left right lefts rights) {a : α} {b : β}
    (aMember : a ∈ lefts) (bMember : b ∈ rights) (same : left a = right b) : related a b := by
  obtain ⟨pairs, sameKeys, distinct⟩ := paired
  induction pairs with
  | nil => cases aMember
  | cons pair pairs induction =>
      simp only [List.map_cons, List.cons.injEq] at sameKeys
      obtain ⟨first, rest⟩ := sameKeys
      rw [Table.Keyed, List.map_cons, List.nodup_cons] at distinct
      rcases List.mem_cons.mp aMember with rfl | aLater
      · rcases List.mem_cons.mp bMember with rfl | bLater
        · exact pair
        · have absent := distinct.1
          rw [rest, same] at absent
          exact absurd (List.mem_map_of_mem bLater) absent
      · rcases List.mem_cons.mp bMember with rfl | bLater
        · have absent := distinct.1
          rw [first, ← same] at absent
          exact absurd (List.mem_map_of_mem aLater) absent
        · exact induction aLater bLater rest distinct.2

theorem exactly_one [DecidableEq κ] (paired : Paired related left right lefts rights) (key : κ) :
    (∃ a ∈ lefts, left a = key) ↔ (rights.filter fun b => right b = key).length = 1 := by
  have counted : (rights.filter fun b => right b = key).length = (rights.map right).count key := by
    rw [← List.countP_eq_length_filter, List.count, List.countP_map]
    rfl
  have member : (∃ a ∈ lefts, left a = key) ↔ key ∈ rights.map right := by
    rw [← paired.sameKeys, List.mem_map]
  have once := (paired.sameKeys ▸ paired.distinct : (rights.map right).Nodup).count (a := key)
  rw [counted, member, once]
  split <;> simp_all

end Paired
