import Mathlib.Data.List.Basic

/-!
# Lines of a text

A text is a list of characters, some of which end a line.  Lines without such characters, written
one after the other with an ending each, are split again into the same lines.
-/

namespace Lines

variable {α : Type*} (isBreak : α → Bool)

/-- The lines of a text; after the last ending there is no further line. -/
def split : List α → List (List α)
  | [] => []
  | character :: text =>
      if isBreak character then [] :: split text
      else match split text with
        | [] => [[character]]
        | line :: lines => (character :: line) :: lines

def join (ending : α) (lines : List (List α)) : List α := lines.flatMap (· ++ [ending])

variable {isBreak}

theorem mem_of_mem_split {text line : List α} {character : α} (member : line ∈ split isBreak text)
    (inside : character ∈ line) : character ∈ text ∧ isBreak character = false := by
  induction text generalizing line character with
  | nil => cases member
  | cons first text induction =>
      rw [split] at member
      split at member
      · rcases List.mem_cons.mp member with rfl | later
        · cases inside
        · obtain ⟨known, plain⟩ := induction later inside
          exact ⟨List.mem_cons_of_mem _ known, plain⟩
      · next plainFirst =>
        split at member
        · obtain rfl := List.mem_singleton.mp member
          obtain rfl := List.mem_singleton.mp inside
          exact ⟨List.mem_cons_self, by simpa using plainFirst⟩
        · next line' lines same =>
          rw [same] at induction
          rcases List.mem_cons.mp member with rfl | later
          · rcases List.mem_cons.mp inside with rfl | rest
            · exact ⟨List.mem_cons_self, by simpa using plainFirst⟩
            · obtain ⟨known, plain⟩ := induction List.mem_cons_self rest
              exact ⟨List.mem_cons_of_mem _ known, plain⟩
          · obtain ⟨known, plain⟩ := induction (List.mem_cons_of_mem _ later) inside
            exact ⟨List.mem_cons_of_mem _ known, plain⟩

theorem split_line {line rest : List α} {ending : α} (plain : ∀ character ∈ line,
    isBreak character = false) (ends : isBreak ending = true) :
    split isBreak (line ++ ending :: rest) = line :: split isBreak rest := by
  induction line with
  | nil => rw [List.nil_append, split, if_pos ends]
  | cons first line induction =>
      obtain ⟨plainFirst, plainRest⟩ := List.forall_mem_cons.mp plain
      rw [List.cons_append, split, if_neg (by simp [plainFirst]), induction plainRest]

theorem split_plain {line : List α} (plain : ∀ character ∈ line, isBreak character = false)
    (nonempty : line ≠ []) : split isBreak line = [line] := by
  induction line with
  | nil => exact absurd rfl nonempty
  | cons first line induction =>
      obtain ⟨plainFirst, plainRest⟩ := List.forall_mem_cons.mp plain
      rw [split, if_neg (by simp [plainFirst])]
      cases line with
      | nil => rfl
      | cons second line => rw [induction plainRest (List.cons_ne_nil _ _)]

theorem split_join {lines : List (List α)} {ending : α} (plain : ∀ line ∈ lines,
    ∀ character ∈ line, isBreak character = false) (ends : isBreak ending = true) :
    split isBreak (join ending lines) = lines := by
  induction lines with
  | nil => rfl
  | cons line lines induction =>
      obtain ⟨plainLine, plainRest⟩ := List.forall_mem_cons.mp plain
      rw [join, List.flatMap_cons, List.append_assoc, List.singleton_append,
        split_line plainLine ends]
      exact congrArg _ (induction plainRest)

theorem intercalate_append (ending : α) (lines : List (List α)) (nonempty : lines ≠ []) :
    List.intercalate [ending] lines ++ [ending] = join ending lines := by
  induction lines with
  | nil => exact absurd rfl nonempty
  | cons line lines induction =>
      cases lines with
      | nil => simp [join, List.intercalate]
      | cons next lines =>
          have rest := induction (List.cons_ne_nil _ _)
          rw [join, List.flatMap_cons, ← join, ← rest]
          simp [List.intercalate]

theorem map_join {β : Type*} (f : α → β) (ending : α) (lines : List (List α)) :
    (join ending lines).map f = join (f ending) (lines.map (List.map f)) := by
  rw [join, join, List.map_flatMap, List.flatMap_map]
  simp only [List.map_append, List.map_singleton]

theorem mem_join {ending character : α} {lines : List (List α)}
    (member : character ∈ join ending lines) :
    character = ending ∨ ∃ line ∈ lines, character ∈ line := by
  obtain ⟨line, there, inside⟩ := List.mem_flatMap.mp member
  rcases List.mem_append.mp inside with own | last
  · exact .inr ⟨line, there, own⟩
  · exact .inl (List.mem_singleton.mp last)

theorem mem_intercalate {separator character : α} {parts : List (List α)}
    (member : character ∈ List.intercalate [separator] parts) :
    character = separator ∨ ∃ part ∈ parts, character ∈ part := by
  rw [List.intercalate, List.mem_flatten] at member
  obtain ⟨piece, there, inside⟩ := member
  induction parts with
  | nil => cases there
  | cons part parts induction =>
      cases parts with
      | nil =>
          obtain rfl := List.mem_singleton.mp there
          exact .inr ⟨piece, List.mem_cons_self, inside⟩
      | cons next parts =>
          rw [List.intersperse_cons_cons] at there
          rcases List.mem_cons.mp there with rfl | there
          · exact .inr ⟨piece, List.mem_cons_self, inside⟩
          · rcases List.mem_cons.mp there with rfl | there
            · exact .inl (List.mem_singleton.mp inside)
            · exact (induction there).imp_right fun ⟨found, known, own⟩ =>
                ⟨found, List.mem_cons_of_mem _ known, own⟩

theorem mem_intercalate_of_mem {separator character : α} {parts : List (List α)} {part : List α}
    (there : part ∈ parts) (inside : character ∈ part) :
    character ∈ List.intercalate [separator] parts := by
  rw [List.intercalate, List.mem_flatten]
  refine ⟨part, ?_, inside⟩
  induction parts with
  | nil => cases there
  | cons first parts induction =>
      cases parts with
      | nil => exact there
      | cons next parts =>
          rw [List.intersperse_cons_cons]
          rcases List.mem_cons.mp there with rfl | there
          · exact List.mem_cons_self
          · exact List.mem_cons_of_mem _ (List.mem_cons_of_mem _ (induction there))

theorem not_mem_of_mem_splitOn [DecidableEq α] {separator : α} {text part : List α}
    (member : part ∈ text.splitOn separator) : separator ∉ part := by
  induction text generalizing part with
  | nil =>
      rw [List.splitOn_nil, List.mem_singleton] at member
      rw [member]
      exact List.not_mem_nil
  | cons character text induction =>
      rw [List.splitOn_cons_eq_if_modifyHead] at member
      split at member
      · rcases List.mem_cons.mp member with rfl | later
        · exact List.not_mem_nil
        · exact induction later
      · next other =>
        cases parts : text.splitOn separator with
        | nil => rw [parts] at member; cases member
        | cons first rest =>
            rw [parts, List.modifyHead_cons] at member
            rw [parts] at induction
            rcases List.mem_cons.mp member with rfl | later
            · intro inside
              rcases List.mem_cons.mp inside with same | within
              · exact other (beq_iff_eq.mpr same.symm)
              · exact induction List.mem_cons_self within
            · exact induction (List.mem_cons_of_mem _ later)

theorem splitOn_map {β : Type*} [DecidableEq α] [DecidableEq β] {f : α → β}
    (injective : Function.Injective f) (separator : α) (text : List α) :
    (text.map f).splitOn (f separator) = (text.splitOn separator).map (List.map f) := by
  induction text with
  | nil => rfl
  | cons character text induction =>
      rw [List.map_cons, List.splitOn_cons_eq_if_modifyHead, List.splitOn_cons_eq_if_modifyHead,
        induction]
      by_cases same : character = separator
      · simp [same]
      · have other : f character ≠ f separator := fun equal => same (injective equal)
        simp only [beq_iff_eq, same, other, if_false]
        cases text.splitOn separator with
        | nil => rfl
        | cons part parts => rfl

end Lines
