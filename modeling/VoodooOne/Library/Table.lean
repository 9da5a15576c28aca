import Mathlib.Data.List.Nodup

/-!
# Keyed tables

A table is a list of rows, each with a key.  Rows are found by key, new rows are appended, and a
row is replaced by one with the same key.  In a table whose keys are distinct, these operations
touch one row only.
-/

namespace Table

variable {ρ κ : Type*} {key : ρ → κ} {table : List ρ} {row new : ρ}

def Keyed (key : ρ → κ) (table : List ρ) : Prop := (table.map key).Nodup

@[simp] theorem keyed_nil : Keyed key [] := List.nodup_nil

theorem Keyed.unique {other : ρ} (keyed : Keyed key table) (left : row ∈ table)
    (right : other ∈ table) (same : key row = key other) : row = other :=
  List.inj_on_of_nodup_map keyed left right same

theorem Keyed.append (keyed : Keyed key table) (fresh : ∀ row ∈ table, key row ≠ key new) :
    Keyed key (table ++ [new]) := by
  unfold Keyed at keyed ⊢
  rw [List.map_append, List.map_singleton, List.nodup_append]
  refine ⟨keyed, List.nodup_singleton _, ?_⟩
  intro value member other found same
  obtain ⟨row, rowMember, rfl⟩ := List.mem_map.mp member
  exact fresh row rowMember (same.trans (List.mem_singleton.mp found))

theorem Keyed.filter (keyed : Keyed key table) (keep : ρ → Bool) : Keyed key (table.filter keep) :=
  List.Nodup.sublist (List.filter_sublist.map key) keyed

/-- Rows that are known by the rows they name are keyed as those are. -/
theorem Keyed.through {σ ν : Type*} {parents : List σ} {link : ρ → ν} {parentKey : σ → κ}
    (links : Keyed link table) (parentLink : σ → ν) (keyed : Keyed parentKey parents)
    (named : ∀ row ∈ table, ∃ parent ∈ parents,
      parentLink parent = link row ∧ parentKey parent = key row) : Keyed key table := by
  refine (List.Nodup.of_map _ links).map_on fun left leftMember right rightMember same => ?_
  obtain ⟨first, firstMember, firstLink, firstKey⟩ := named left leftMember
  obtain ⟨second, secondMember, secondLink, secondKey⟩ := named right rightMember
  obtain rfl := keyed.unique firstMember secondMember (firstKey.trans (same.trans secondKey.symm))
  exact links.unique leftMember rightMember (firstLink.symm.trans secondLink)

variable [DecidableEq κ]

theorem Keyed.countP_eq_one {selects : ρ → Bool} (keyed : Keyed key table) (member : row ∈ table)
    (selected : ∀ other ∈ table, selects other = true ↔ key other = key row) :
    table.countP selects = 1 := by
  have counted : table.countP selects = (table.map key).count (key row) := by
    rw [List.count, List.countP_map]
    apply List.countP_congr
    intro other there
    rw [selected other there]
    simp
  rw [counted]
  exact List.count_eq_one_of_mem keyed (List.mem_map_of_mem member)

def lookup (key : ρ → κ) (table : List ρ) (wanted : κ) : Option ρ :=
  table.find? fun row => key row = wanted

/-- The table with each row of the key of `new` replaced by `new`. -/
def replace (key : ρ → κ) (table : List ρ) (new : ρ) : List ρ :=
  table.map fun row => if key row = key new then new else row

variable {wanted : κ}

theorem mem_of_lookup (found : lookup key table wanted = some row) :
    row ∈ table ∧ key row = wanted := by
  unfold lookup at found
  exact ⟨List.mem_of_find?_eq_some found, by simpa using List.find?_some found⟩

theorem lookup_eq_none : lookup key table wanted = none ↔ ∀ row ∈ table, key row ≠ wanted := by
  simp [lookup]

theorem Keyed.lookup_of_mem (keyed : Keyed key table) (member : row ∈ table) :
    lookup key table (key row) = some row := by
  cases found : lookup key table (key row) with
  | none => exact absurd rfl (lookup_eq_none.mp found row member)
  | some other =>
      obtain ⟨otherMember, same⟩ := mem_of_lookup found
      rw [keyed.unique otherMember member same]

theorem Keyed.lookup_iff (keyed : Keyed key table) :
    lookup key table wanted = some row ↔ row ∈ table ∧ key row = wanted := by
  constructor
  · exact mem_of_lookup
  · rintro ⟨member, rfl⟩
    exact keyed.lookup_of_mem member

theorem lookup_append : lookup key (table ++ [new]) wanted =
    (lookup key table wanted).or (if key new = wanted then some new else none) := by
  unfold lookup
  rw [List.find?_append]
  by_cases same : key new = wanted <;> simp [same]

theorem map_replace_of_eq {β : Type*} {shown : ρ → β}
    (same : ∀ row ∈ table, key row = key new → shown row = shown new) :
    (replace key table new).map shown = table.map shown := by
  unfold replace
  rw [List.map_map]
  apply List.map_congr_left
  intro row member
  by_cases replaced : key row = key new
  · simp [replaced, same row member replaced]
  · simp [replaced]

@[simp] theorem map_key_replace : (replace key table new).map key = table.map key :=
  map_replace_of_eq fun _ _ same => same

theorem Keyed.replace (keyed : Keyed key table) : Keyed key (replace key table new) := by
  unfold Keyed
  rw [map_key_replace]
  exact keyed

theorem mem_replace : row ∈ replace key table new ↔
    (row = new ∧ ∃ old ∈ table, key old = key new) ∨ (row ∈ table ∧ key row ≠ key new) := by
  unfold replace
  rw [List.mem_map]
  constructor
  · rintro ⟨old, member, rfl⟩
    by_cases same : key old = key new
    · rw [if_pos same]
      exact .inl ⟨rfl, old, member, same⟩
    · rw [if_neg same]
      exact .inr ⟨member, same⟩
  · rintro (⟨rfl, old, member, same⟩ | ⟨member, other⟩)
    · exact ⟨old, member, by rw [if_pos same]⟩
    · exact ⟨row, member, by rw [if_neg other]⟩

theorem lookup_replace : lookup key (replace key table new) wanted =
    (lookup key table wanted).map fun row => if key row = key new then new else row := by
  unfold lookup replace
  rw [List.find?_map]
  congr 1
  congr 1
  funext row
  by_cases same : key row = key new <;> simp [same]

/-- Replacing a row that is there changes what its key finds, and nothing else. -/
theorem lookup_replace_found {old : ρ} (found : lookup key table (key new) = some old) :
    lookup key (replace key table new) wanted =
      if wanted = key new then some new else lookup key table wanted := by
  rw [lookup_replace]
  by_cases same : wanted = key new
  · subst same
    have oldKey := (mem_of_lookup found).2
    rw [found, if_pos rfl, Option.map_some, if_pos oldKey]
  · rw [if_neg same]
    cases other : lookup key table wanted with
    | none => rfl
    | some row =>
        have rowKey := (mem_of_lookup other).2
        rw [Option.map_some, if_neg]
        intro matched
        exact same (rowKey.symm.trans matched)

theorem lookup_replace_self {old : ρ} (found : lookup key table wanted = some old)
    (same : key new = wanted) : lookup key (replace key table new) wanted = some new := by
  subst same
  rw [lookup_replace_found found, if_pos rfl]

/-- The kept rows are found, and no others. -/
theorem Keyed.lookup_filter (keyed : Keyed key table) (keep : ρ → Bool) (wanted : κ) :
    lookup key (table.filter keep) wanted = (lookup key table wanted).filter keep := by
  refine Option.ext fun row => ?_
  rw [(keyed.filter keep).lookup_iff, Option.filter_eq_some_iff, keyed.lookup_iff, List.mem_filter]
  exact and_right_comm

/-- The table with a row in place of the one with its key, or after the others. -/
def upsert (key : ρ → κ) (table : List ρ) (new : ρ) : List ρ :=
  match lookup key table (key new) with
  | none => table ++ [new]
  | some _ => replace key table new

theorem lookup_upsert (wanted : κ) : lookup key (upsert key table new) wanted =
    if wanted = key new then some new else lookup key table wanted := by
  unfold upsert
  cases found : lookup key table (key new) with
  | none =>
      dsimp only
      rw [lookup_append]
      by_cases same : wanted = key new
      · subst same
        rw [found, if_pos rfl]
        rfl
      · rw [if_neg same, if_neg (Ne.symm same), Option.or_none]
  | some old => exact lookup_replace_found found

theorem Keyed.upsert (keyed : Keyed key table) : Keyed key (upsert key table new) := by
  unfold Table.upsert
  cases found : lookup key table (key new) with
  | none => exact keyed.append (lookup_eq_none.mp found)
  | some old => exact keyed.replace

end Table
