import VoodooOne.Foundation.Checks

/-!
# Which texts are valid

A text is valid by its two ends and by having no NUL character.  So texts of plain characters are
valid, and texts that are put together of valid ones.
-/

namespace VoodooOne

/-- Stripping keeps a text that does not start or end with white space. -/
theorem eq_strip_iff {text : String} : text = strip text ↔
    (∀ first ∈ text.toList.head?, isSpace first = false) ∧
      ∀ last ∈ text.toList.getLast?, isSpace last = false := by
  have stripped : text = strip text ↔
      (text.toList.dropWhile isSpace).rdropWhile isSpace = text.toList := by
    rw [strip, ← List.rdropWhile, eq_comm, ← String.toList_inj, String.toList_ofList]
  have ends (characters : List Char) :
      (characters.rdropWhile isSpace = characters ↔
        ∀ last ∈ characters.getLast?, isSpace last = false) ∧
      (characters.dropWhile isSpace = characters ↔
        ∀ first ∈ characters.head?, isSpace first = false) := by
    constructor
    · rw [List.rdropWhile_eq_self_iff]
      cases characters using List.reverseRecOn <;> simp
    · rw [List.dropWhile_eq_self_iff]
      cases characters <;> simp
  rw [stripped, ← (ends text.toList).1, ← (ends text.toList).2]
  constructor
  · intro same
    -- dropping at both ends keeps the length, so nothing is dropped at either
    have shorter := (List.rdropWhile_prefix isSpace (text.toList.dropWhile isSpace)).length_le
    rw [same] at shorter
    have kept := (List.dropWhile_suffix isSpace).eq_of_length_le shorter
    exact ⟨kept, by rwa [kept] at same⟩
  · rintro ⟨first, last⟩
    rw [first, last]

theorem validText_of_plain {text : String} (nonempty : text ≠ "")
    (plain : ∀ character ∈ text.toList, isSpace character = false ∧ character ≠ Char.ofNat 0) :
    ValidText text := by
  refine ⟨nonempty, eq_strip_iff.mpr ⟨fun first member => ?_, fun last member => ?_⟩,
    fun nul => (plain _ nul).2 rfl⟩
  · exact (plain first (List.mem_of_mem_head? member)).1
  · exact (plain last (List.mem_of_mem_getLast? member)).1

theorem ValidText.append {left between right : String} (leftValid : ValidText left)
    (rightValid : ValidText right) (plain : Char.ofNat 0 ∉ between.toList) :
    ValidText (left ++ between ++ right) := by
  obtain ⟨leftNonempty, leftEnds, leftPlain⟩ := leftValid
  obtain ⟨rightNonempty, rightEnds, rightPlain⟩ := rightValid
  have leftSome : left.toList ≠ [] := fun none => leftNonempty (String.toList_eq_nil_iff.mp none)
  have rightSome : right.toList ≠ [] := fun none => rightNonempty (String.toList_eq_nil_iff.mp none)
  refine ⟨?_, eq_strip_iff.mpr ⟨fun first member => ?_, fun last member => ?_⟩, ?_⟩
  · intro empty
    have none := congrArg String.toList empty
    rw [String.toList_append] at none
    exact rightSome (List.append_eq_nil_iff.mp none).2
  · rw [String.toList_append, String.toList_append, List.append_assoc,
      List.head?_append_of_ne_nil _ leftSome] at member
    exact (eq_strip_iff.mp leftEnds).1 first member
  · rw [String.toList_append, List.getLast?_append_of_ne_nil _ rightSome] at member
    exact (eq_strip_iff.mp rightEnds).2 last member
  · rw [String.toList_append, String.toList_append, List.mem_append, List.mem_append]
    rintro ((nul | nul) | nul)
    · exact leftPlain nul
    · exact plain nul
    · exact rightPlain nul

theorem plain_of_ascii {character : Char} (above : 32 < character.toNat)
    (below : character.toNat < 128) : isSpace character = false ∧ character ≠ Char.ofNat 0 := by
  constructor
  · simp only [isSpace, Bool.or_eq_false_iff, Bool.and_eq_false_iff, decide_eq_false_iff_not,
      beq_eq_false_iff_ne]
    omega
  · rintro rfl
    exact absurd above (by decide)

theorem mem_splitOnP {α : Type} (separates : α → Bool) {items : List α} {item : α}
    (member : item ∈ items) :
    separates item = true ∨ ∃ part ∈ items.splitOnP separates, item ∈ part := by
  induction items with
  | nil => cases member
  | cons head tail induction =>
      rw [List.splitOnP_cons_eq_if_modifyHead]
      by_cases apart : separates head = true
      · rw [if_pos apart]
        rcases List.mem_cons.mp member with rfl | later
        · exact .inl apart
        · refine (induction later).imp_right ?_
          rintro ⟨part, found, inside⟩
          exact ⟨part, List.mem_cons_of_mem _ found, inside⟩
      · rw [if_neg apart]
        cases parts : tail.splitOnP separates with
        | nil => exact absurd parts (List.splitOnP_ne_nil separates tail)
        | cons first rest =>
            rw [List.modifyHead_cons]
            rcases List.mem_cons.mp member with rfl | later
            · exact .inr ⟨_, List.mem_cons_self .., List.mem_cons_self ..⟩
            · rcases induction later with separator | ⟨part, found, inside⟩
              · exact .inl separator
              · rw [parts] at found
                rcases List.mem_cons.mp found with rfl | further
                · exact .inr ⟨_, List.mem_cons_self .., List.mem_cons_of_mem _ inside⟩
                · exact .inr ⟨part, List.mem_cons_of_mem _ further, inside⟩

theorem digit_of_mem_pad {width number : Nat} {character : Char}
    (member : character ∈ DecimalText.pad width number) :
    ∃ value, character = DecimalText.digit value := by
  induction width generalizing number with
  | zero => cases member
  | succ width induction =>
      rcases List.mem_append.mp member with front | last
      · exact induction front
      · exact ⟨number, List.mem_singleton.mp last⟩

theorem mem_render {columns : List DecimalText.Column} {numbers : List Nat} {character : Char}
    (member : character ∈ DecimalText.render columns numbers) :
    (∃ value, character = DecimalText.digit value) ∨
      ∃ column ∈ columns, character ∈ column.suffix := by
  induction columns generalizing numbers with
  | nil => cases member
  | cons column columns induction =>
      cases numbers with
      | nil => cases member
      | cons number numbers =>
          rw [DecimalText.render, List.mem_append, List.mem_append] at member
          rcases member with digits | separator | rest
          · exact .inl (digit_of_mem_pad digits)
          · exact .inr ⟨column, List.mem_cons_self, separator⟩
          · obtain digit | ⟨later, listed, there⟩ := induction rest
            · exact .inl digit
            · exact .inr ⟨later, List.mem_cons_of_mem _ listed, there⟩

theorem validText_isoformat (instant : Calendar.Instant) : ValidText instant.isoformat := by
  have separators : (Calendar.Instant.isoColumns.all fun column =>
    column.suffix.all fun character =>
      decide (32 < character.toNat) && decide (character.toNat < 128)) = true := by decide
  refine validText_of_plain ?_ fun character member => ?_
  · intro empty
    have length := congrArg (fun text => text.toList.length) empty
    simp [Calendar.Instant.isoformat, Calendar.Instant.isoColumns, Calendar.Instant.fields,
      DecimalText.render] at length
  · rw [Calendar.Instant.isoformat, String.toList_ofList] at member
    rcases mem_render member with ⟨value, rfl⟩ | ⟨column, listed, there⟩
    · have code := DecimalText.digit_toNat value
      exact plain_of_ascii (by omega) (by omega)
    · have code := List.all_eq_true.mp (List.all_eq_true.mp separators column listed) character
        there
      rw [Bool.and_eq_true, decide_eq_true_iff, decide_eq_true_iff] at code
      exact plain_of_ascii code.1 code.2

end VoodooOne
