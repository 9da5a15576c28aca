import Mathlib.Data.List.Basic

/-!
# Bracketed sequences

Elements with a separator between them and a bracket after them are read one by one.  The alphabet,
its blanks, the separator and the bracket are arbitrary; what the elements look like is known to
their reader only.
-/

namespace Separated

variable {σ α β : Type} [DecidableEq σ] (blank : σ → Bool) (comma : σ)

/-- Read elements up to a closing symbol.  Every element takes a symbol, so as many rounds as there
are symbols are enough. -/
def elements (element : List σ → Option (α × List σ)) (close : σ) :
    Nat → List σ → Option (List α × List σ)
  | 0, _ => none
  | fuel + 1, text => do
      let (item, rest) ← element (text.dropWhile blank)
      match rest.dropWhile blank with
      | [] => none
      | next :: rest =>
          if next = close then some ([item], rest)
          else if next = comma then do
            let (items, rest) ← elements element close fuel rest
            return (item :: items, rest)
          else none

/-- Read a possibly empty sequence whose opening bracket is read. -/
def sequence (element : List σ → Option (α × List σ)) (close : σ) (text : List σ) :
    Option (List α × List σ) :=
  if (text.dropWhile blank).head? = some close then some ([], (text.dropWhile blank).tail)
  else elements blank comma element close text.length text

omit [DecidableEq σ] in
theorem length_le_joined (texts : List (List σ)) :
    texts.length ≤ (List.intercalate [comma] texts).length + 1 := by
  induction texts with
  | nil => simp
  | cons first texts induction =>
      cases texts with
      | nil => simp
      | cons second texts =>
          rw [List.intercalate_cons_cons]
          simp only [List.length_append, List.length_cons, List.length_nil] at induction ⊢
          omega

variable {blank comma} {element : List σ → Option (α × List σ)} {close : σ} {text : β → List σ}
  {value : β → α}

theorem elements_joined (apart : close ≠ comma) (commaSeen : blank comma = false)
    (closeSeen : blank close = false) {items : List β} (nonempty : items ≠ [])
    (reads : ∀ item ∈ items, ∀ next rest, next = comma ∨ next = close →
      element ((text item ++ next :: rest).dropWhile blank) = some (value item, next :: rest))
    {fuel : Nat} (enough : items.length ≤ fuel) (rest : List σ) :
    elements blank comma element close fuel
        (List.intercalate [comma] (items.map text) ++ close :: rest) =
      some (items.map value, rest) := by
  induction items generalizing fuel with
  | nil => exact absurd rfl nonempty
  | cons item items induction =>
      obtain ⟨fuel, rfl⟩ := Nat.exists_eq_succ_of_ne_zero
        (by rw [List.length_cons] at enough; omega : fuel ≠ 0)
      rw [List.forall_mem_cons] at reads
      obtain ⟨first, later⟩ := reads
      cases items with
      | nil => simp [elements, first, closeSeen]
      | cons second items =>
          rw [List.map_cons, List.map_cons, List.intercalate_cons_cons, ← List.map_cons,
            List.append_assoc, List.append_assoc, List.singleton_append, elements,
            first _ _ (.inl rfl)]
          have others := induction (by simp) later (Nat.le_of_succ_le_succ enough)
          rw [List.map_cons, List.map_cons] at others
          simp [commaSeen, apart.symm, others]

/-- A sequence is read back when each element is read back before a separator or the bracket. -/
theorem sequence_joined (apart : close ≠ comma) (commaSeen : blank comma = false)
    (closeSeen : blank close = false) {items : List β}
    (starts : ∀ item ∈ items, ∃ first tail, text item = first :: tail ∧ blank first = false ∧
      first ≠ close)
    (reads : ∀ item ∈ items, ∀ next rest, next = comma ∨ next = close →
      element (text item ++ next :: rest) = some (value item, next :: rest))
    (rest : List σ) :
    sequence blank comma element close
        (List.intercalate [comma] (items.map text) ++ close :: rest) =
      some (items.map value, rest) := by
  cases items with
  | nil => simp [sequence, closeSeen]
  | cons item items =>
      have kept : ∀ other ∈ item :: items, ∀ rest,
          (text other ++ rest).dropWhile blank = text other ++ rest := by
        intro other member rest
        obtain ⟨first, tail, start, seen, -⟩ := starts other member
        simp [start, seen]
      have joined : ∃ rest', List.intercalate [comma] ((item :: items).map text) ++ close :: rest =
          text item ++ rest' := by
        cases items with
        | nil => exact ⟨close :: rest, by simp⟩
        | cons second items =>
            rw [List.map_cons, List.map_cons, List.intercalate_cons_cons, List.append_assoc,
              List.append_assoc]
            exact ⟨_, rfl⟩
      have opened : ((List.intercalate [comma] ((item :: items).map text) ++
          close :: rest).dropWhile blank).head? ≠ some close := by
        obtain ⟨rest', joined⟩ := joined
        obtain ⟨first, tail, start, -, other⟩ := starts item List.mem_cons_self
        rw [joined, kept item List.mem_cons_self, start]
        simpa using other
      rw [sequence, if_neg opened]
      apply elements_joined apart commaSeen closeSeen (by simp)
      · intro other member next rest ends
        rw [kept other member, reads other member next rest ends]
      · have bound := length_le_joined comma ((item :: items).map text)
        rw [List.length_map] at bound
        simp only [List.length_append, List.length_cons] at bound ⊢
        omega

end Separated
