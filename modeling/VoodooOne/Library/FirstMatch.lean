import Mathlib.Data.List.Basic

/-!
# First matches by an index

The first row of a list with a given key is found by a scan, or by an index that is filled from the
front and keeps the entry that came first.  Both find the same row.
-/

namespace FirstMatch

variable {κ ρ : Type*} [DecidableEq κ]

def setDefault (index : List (κ × ρ)) (key : κ) (row : ρ) : List (κ × ρ) :=
  if (index.lookup key).isSome then index else index ++ [(key, row)]

/-- The index of some rows under their keys. -/
def indexOf (rows : List (κ × ρ)) : List (κ × ρ) :=
  rows.foldl (fun index row => setDefault index row.1 row.2) []

theorem lookup_cons (row : κ × ρ) (rows : List (κ × ρ)) (wanted : κ) :
    (row :: rows).lookup wanted = if wanted = row.1 then some row.2 else rows.lookup wanted := by
  obtain ⟨key, value⟩ := row
  by_cases same : wanted = key
  · rw [if_pos same, same, List.lookup_cons_self]
  · have other : (wanted == key) = false := beq_eq_false_iff_ne.mpr same
    rw [if_neg same, List.lookup_cons, other]

theorem lookup_setDefault (index : List (κ × ρ)) (key wanted : κ) (row : ρ) :
    (setDefault index key row).lookup wanted =
      (index.lookup wanted).or (if wanted = key then some row else none) := by
  rw [setDefault]
  split
  case isTrue present =>
    by_cases same : wanted = key
    · obtain ⟨found, there⟩ := Option.isSome_iff_exists.mp present
      rw [same, there, Option.some_or]
    · rw [if_neg same, Option.or_none]
  case isFalse absent =>
    rw [List.lookup_append, lookup_cons, List.lookup_nil]

theorem lookup_foldl (rows index : List (κ × ρ)) (wanted : κ) :
    (rows.foldl (fun index row => setDefault index row.1 row.2) index).lookup wanted =
      (index.lookup wanted).or (rows.lookup wanted) := by
  induction rows generalizing index with
  | nil => rw [List.foldl_nil, List.lookup_nil, Option.or_none]
  | cons row rows ih =>
      rw [List.foldl_cons, ih, lookup_setDefault, Option.or_assoc, lookup_cons]
      by_cases same : wanted = row.1
      · rw [if_pos same, if_pos same, Option.some_or]
      · rw [if_neg same, if_neg same, Option.none_or]

theorem lookup_indexOf (rows : List (κ × ρ)) (wanted : κ) :
    (indexOf rows).lookup wanted = rows.lookup wanted := by
  rw [indexOf, lookup_foldl, List.lookup_nil, Option.none_or]

end FirstMatch
