import Mathlib.Data.List.Induction
import Mathlib.Logic.Function.Basic

/-!
# File trees

A tree of directories, regular files and symbolic links.  Every entry but the root lies in a
directory.  Paths of names are followed from a directory on, through links as often as allowed.
-/

inductive FileStep (ν : Type) where
  | up
  | down (name : ν)
deriving DecidableEq

inductive FileEntry (ν : Type) where
  | directory
  | file (content : List UInt8)
  | link (absolute : Bool) (target : List (FileStep ν))
deriving DecidableEq

structure FileTree (ν : Type) where
  /-- What is at a path of names from the root, which leads through directories only. -/
  entry : List ν → Option (FileEntry ν)
  root : entry [] = some .directory
  nested : ∀ path name, entry (path ++ [name]) ≠ none → entry path = some .directory

namespace FileTree

variable {ν : Type}

/-- Why a path leads nowhere. -/
inductive Trouble where
  | missing
  | notDirectory
  | loop
deriving DecidableEq

/-- Follow a path from a directory on; the last link is followed on demand.  The last name may be
missing. -/
def walk (tree : FileTree ν) (followLast : Bool) (links : Nat) (directory : List ν) :
    List (FileStep ν) → Except Trouble (List ν)
  | [] => .ok directory
  | .up :: steps => tree.walk followLast links directory.dropLast steps
  | .down name :: steps =>
      match tree.entry (directory ++ [name]) with
      | none => if steps = [] then .ok (directory ++ [name]) else .error .missing
      | some .directory => tree.walk followLast links (directory ++ [name]) steps
      | some (.file _) => if steps = [] then .ok (directory ++ [name]) else .error .notDirectory
      | some (.link absolute target) =>
          if steps = [] ∧ followLast = false then .ok (directory ++ [name])
          else match links with
            | 0 => .error .loop
            | links + 1 =>
                tree.walk followLast links (if absolute then [] else directory) (target ++ steps)
termination_by steps => (links, steps.length)

variable {tree : FileTree ν} {links : Nat} {steps : List (FileStep ν)}

theorem ne_of_directory {path other : List ν} (directory : tree.entry path = some .directory)
    (different : tree.entry other ≠ some .directory) :
    path ≠ other := fun same => different (same ▸ directory)

section Changes

variable [DecidableEq ν]

/-- A tree with something else at a path that is no directory, in a directory. -/
def replace (tree : FileTree ν) (path : List ν) (value : Option (FileEntry ν))
    (parent : value ≠ none → tree.entry path.dropLast = some .directory)
    (free : tree.entry path ≠ some .directory) : FileTree ν where
  entry := Function.update tree.entry path value
  root := (Function.update_of_ne (ne_of_directory tree.root free) _ _).trans tree.root
  nested := by
    intro above name present
    have directory : tree.entry above = some .directory := by
      by_cases here : above ++ [name] = path
      · rw [here, Function.update_self] at present
        rw [← parent present, ← here, List.dropLast_concat]
      · rw [Function.update_of_ne here] at present
        exact tree.nested above name present
    rw [Function.update_of_ne (ne_of_directory directory free), directory]

/-- Put something at a path in a directory, unless a directory is there. -/
def place (tree : FileTree ν) (path : List ν) (value : FileEntry ν) : FileTree ν :=
  if fits : tree.entry path.dropLast = some .directory ∧ tree.entry path ≠ some .directory then
    tree.replace path (some value) (fun _ => fits.1) fits.2
  else tree

/-- Take what is at a path away, unless it is a directory. -/
def remove (tree : FileTree ν) (path : List ν) : FileTree ν :=
  if free : tree.entry path ≠ some .directory then
    tree.replace path none (fun present => absurd rfl present) free
  else tree

variable {tree : FileTree ν} {path other : List ν}

theorem entry_place {value : FileEntry ν} (parent : tree.entry path.dropLast = some .directory)
    (free : tree.entry path ≠ some .directory) :
    (tree.place path value).entry = Function.update tree.entry path (some value) := by
  rw [place, dif_pos ⟨parent, free⟩, replace]

theorem entry_remove (free : tree.entry path ≠ some .directory) :
    (tree.remove path).entry = Function.update tree.entry path none := by
  rw [remove, dif_pos free, replace]

theorem entry_place_of_ne (value : FileEntry ν) (different : other ≠ path) :
    (tree.place path value).entry other = tree.entry other := by
  rw [place]
  split
  · exact Function.update_of_ne different _ _
  · rfl

theorem directory_place (value : FileEntry ν) (directory : tree.entry other = some .directory) :
    (tree.place path value).entry other = some .directory := by
  rw [place]
  split
  · next fits =>
    exact (Function.update_of_ne (ne_of_directory directory fits.2) _ _).trans directory
  · exact directory

theorem directory_remove (directory : tree.entry other = some .directory) :
    (tree.remove path).entry other = some .directory := by
  rw [remove]
  split
  · next free => exact (Function.update_of_ne (ne_of_directory directory free) _ _).trans directory
  · exact directory

end Changes

theorem entry_append_eq_none {path : List ν} (absent : tree.entry path ≠ some .directory)
    {below : List ν} (nonempty : below ≠ []) :
    tree.entry (path ++ below) = none := by
  induction below using List.reverseRecOn with
  | nil => exact absurd rfl nonempty
  | append_singleton below name induction =>
      by_contra present
      rw [← List.append_assoc] at present
      have directory := tree.nested _ _ present
      by_cases here : below = []
      · rw [here, List.append_nil] at directory
        exact absent directory
      · rw [induction here] at directory
        cases directory

theorem directory_of_prefix {above path : List ν} (present : tree.entry path ≠ none)
    (below : above <+: path) (different : above ≠ path) :
    tree.entry above = some .directory := by
  obtain ⟨rest, rfl⟩ := below
  by_contra absent
  refine present (entry_append_eq_none absent ?_)
  rintro rfl
  exact different (List.append_nil above).symm

theorem walk_single {directory : List ν} {name : ν} :
    tree.walk false links directory [.down name] = .ok (directory ++ [name]) := by
  rw [walk]
  split
  · rfl
  · rw [walk]
  · rfl
  · rfl

theorem directory_dropLast {path : List ν} (directory : tree.entry path = some .directory) :
    tree.entry path.dropLast = some .directory := by
  cases path using List.reverseRecOn with
  | nil => exact directory
  | append_singleton path name =>
      rw [List.dropLast_concat]
      refine tree.nested path name ?_
      rw [directory]
      exact Option.some_ne_none _

theorem directory_of_walk {followLast : Bool} {directory found : List ν}
    (inside : tree.entry directory = some .directory)
    (walked : tree.walk followLast links directory steps = .ok found) :
    tree.entry found.dropLast = some .directory := by
  have last (name : ν) (here : Except.ok (directory ++ [name]) = Except.ok (ε := Trouble) found) :
      tree.entry found.dropLast = some .directory := by
    rw [← Except.ok.inj here, List.dropLast_concat, inside]
  fun_induction walk tree followLast links directory steps with
  | case1 links directory => exact Except.ok.inj walked ▸ directory_dropLast inside
  | case2 links directory steps induction =>
      have above := directory_dropLast inside
      refine induction above walked fun name here => ?_
      rw [← Except.ok.inj here, List.dropLast_concat, above]
  | case3 links directory name absent => exact last name walked
  | case4 => cases walked
  | case5 links directory name steps here induction =>
      refine induction here walked fun next found => ?_
      rw [← Except.ok.inj found, List.dropLast_concat, here]
  | case6 links directory name content here => exact last name walked
  | case7 => cases walked
  | case8 links directory name steps absolute target here unfollowed => exact last name walked
  | case9 => cases walked
  | case10 directory name steps absolute target here unfinished links induction =>
      have start : tree.entry (if absolute then [] else directory) = some .directory := by
        split
        · exact tree.root
        · exact inside
      refine induction (by simpa only [dite_eq_ite] using start) walked fun next found => ?_
      rw [← Except.ok.inj found, List.dropLast_concat]
      simpa only [dite_eq_ite] using start

/-- A path that is followed to its end through a last link is also found without following it. -/
theorem walk_unfollowed {directory found : List ν}
    (followed : tree.walk true links directory steps = .ok found) :
    ∃ path, tree.walk false links directory steps = .ok path ∧
      (path = found ∨ ∃ absolute target, tree.entry path = some (.link absolute target)) := by
  fun_induction walk tree true links directory steps with
  | case1 links directory => exact ⟨directory, by rw [walk], .inl (Except.ok.inj followed)⟩
  | case2 links directory steps induction =>
      rw [walk]
      exact induction followed
  | case3 links directory name absent =>
      exact ⟨_, walk_single, .inl (Except.ok.inj followed)⟩
  | case4 => cases followed
  | case5 links directory name steps inside induction =>
      rw [walk]
      simp only [inside]
      exact induction followed
  | case6 links directory name content here =>
      exact ⟨_, walk_single, .inl (Except.ok.inj followed)⟩
  | case7 => cases followed
  | case8 links directory name steps absolute target here last => cases last.2
  | case9 => cases followed
  | case10 directory name steps absolute target here unfinished links induction =>
      by_cases last : steps = []
      · subst last
        exact ⟨_, walk_single, .inr ⟨absolute, target, here⟩⟩
      · rw [walk]
        simp only [here, last, false_and, if_false]
        simpa only [dite_eq_ite] using induction followed

/-- A path that does not end at a link is found by following the last link as well. -/
theorem walk_followed {directory path : List ν}
    (found : tree.walk false links directory steps = .ok path)
    (other : ∀ absolute target, tree.entry path ≠ some (.link absolute target)) :
    tree.walk true links directory steps = .ok path := by
  fun_induction walk tree false links directory steps with
  | case1 links directory => rwa [walk]
  | case2 links directory steps induction =>
      rw [walk]
      exact induction found
  | case3 links directory name absent =>
      rw [walk]
      simpa only [absent, if_true] using found
  | case4 => cases found
  | case5 links directory name steps inside induction =>
      rw [walk]
      simp only [inside]
      exact induction found
  | case6 links directory name content here =>
      rw [walk]
      simpa only [here, if_true] using found
  | case7 => cases found
  | case8 links directory name steps absolute target here last =>
      rw [← Except.ok.inj found] at other
      exact absurd here (other absolute target)
  | case9 => cases found
  | case10 directory name steps absolute target here unfinished links induction =>
      rw [walk]
      simp only [here, reduceCtorEq, and_false, if_false]
      simpa only [dite_eq_ite] using induction found

end FileTree
