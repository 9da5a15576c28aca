import VoodooOne.Sandbox.Endings

/-!
# Sandbox root

The directories of the sandbox root are made if need be.  A root that is there as a directory is
left as it is; otherwise the call raises, or the tree has a new directory.
-/

namespace VoodooOne.Sandbox

variable {surroundings : Surroundings} {progress : Progress} {path : Path}

/-- A path leads to a directory, through a last link if there is one. -/
def LeadsToDirectory (surroundings : Surroundings) (tree : Tree) (path : Path) : Prop :=
  ∃ found, locateAbsolute surroundings true path tree = .ok found ∧
    tree.entry found = some .directory

theorem locateAbsolute_eq_ok {followLast : Bool} {tree : Tree} {found : Path} :
    locateAbsolute surroundings followLast path tree = .ok found ↔
      surroundings.accepts (path.flatMap fun name => 47 :: name) = true ∧
        tree.walk followLast maxLinks [] (path.map .down) = .ok found := by
  simp only [locateAbsolute, bind_eq_ok, raiseIf_eq_ok, exists_const, mapError_eq_ok,
    Bool.not_eq_false]

theorem LeadsToDirectory.last {tree : Tree} (leads : LeadsToDirectory surroundings tree path) :
    ∃ last, locateAbsolute surroundings false path tree = .ok last ∧
      (tree.entry last = some .directory ∨
        ∃ absolute target, tree.entry last = some (.link absolute target)) := by
  obtain ⟨found, located, directory⟩ := leads
  obtain ⟨accepted, followed⟩ := locateAbsolute_eq_ok.mp located
  obtain ⟨last, walked, same | linked⟩ := FileTree.walk_unfollowed followed
  · exact ⟨last, locateAbsolute_eq_ok.mpr ⟨accepted, walked⟩, .inl (same ▸ directory)⟩
  · exact ⟨last, locateAbsolute_eq_ok.mpr ⟨accepted, walked⟩, .inr linked⟩

theorem leadsToDirectory_of_directory {tree : Tree} {root : Path}
    (located : locateAbsolute surroundings false path tree = .ok root)
    (directory : tree.entry root = some .directory) : LeadsToDirectory surroundings tree path := by
  obtain ⟨accepted, walked⟩ := locateAbsolute_eq_ok.mp located
  have followed : tree.walk true maxLinks [] (path.map .down) = .ok root := by
    refine FileTree.walk_followed walked fun absolute target => ?_
    rw [directory]
    simp
  exact ⟨root, locateAbsolute_eq_ok.mpr ⟨accepted, followed⟩, directory⟩

structure Grows (tree next : Tree) : Prop where
  makes : Makes (fun _ => True) tree next
  grown : ∃ path, tree.entry path = none ∧ next.entry path = some .directory

theorem Grows.trans {tree middle next : Tree} (early : Grows tree middle)
    (late : Grows middle next) : Grows tree next := by
  refine ⟨early.makes.trans late.makes (fun _ => id) fun _ => id, ?_⟩
  obtain ⟨path, missing, directory⟩ := early.grown
  refine ⟨path, missing, ?_⟩
  rcases late.makes path with same | ⟨absent, -⟩
  · rw [same, directory]
  · rw [directory] at absent
    cases absent

theorem grows_of_makeAbsolute {tree next : Tree}
    (made : makeAbsolute surroundings path tree = .ok next) : Grows tree next := by
  simp only [makeAbsolute, bind_eq_ok, raiseIf_eq_ok, not_not, exists_const, pure_eq_ok] at made
  obtain ⟨found, located, missing, rfl⟩ := made
  obtain ⟨-, walked⟩ := locateAbsolute_eq_ok.mp located
  have entries : (tree.place found .directory).entry =
      Function.update tree.entry found (some .directory) := by
    refine FileTree.entry_place (FileTree.directory_of_walk tree.root walked) ?_
    rw [missing]
    exact (Option.some_ne_none _).symm
  have here : (tree.place found .directory).entry found = some .directory := by
    rw [entries, Function.update_self]
  refine ⟨fun path => ?_, found, missing, here⟩
  by_cases same : path = found
  · exact .inr ⟨same ▸ missing, same ▸ here, trivial⟩
  · exact .inl (FileTree.entry_place_of_ne _ same)

/-- What becomes of a directory that is made if need be. -/
inductive RootResult (surroundings : Surroundings) (path : Path) (progress : Progress) :
    Except Raised Unit × Progress → Prop
  | refused (error : Raised) (next : Progress) (system : SystemError error) :
      RootResult surroundings path progress (.error error, next)
  | present (leads : LeadsToDirectory surroundings progress.tree path) :
      RootResult surroundings path progress (.ok (), progress)
  | made (tree : Tree) (grows : Grows progress.tree tree) :
      RootResult surroundings path progress (.ok (), { progress with tree })

theorem isDirectory_cases : (∃ error, SystemError error ∧
      (isDirectory surroundings path).run progress = (.error error, progress)) ∨
    (isDirectory surroundings path).run progress = (.ok false, progress) ∨
    LeadsToDirectory surroundings progress.tree path ∧
      (isDirectory surroundings path).run progress = (.ok true, progress) := by
  rw [isDirectory]
  by_cases fault : surroundings.fault = some (.isDirectory path)
  · exact .inl ⟨_, systemError_osError _, observe_fault fault _⟩
  cases located : locateAbsolute surroundings true path progress.tree with
  | ok found =>
      by_cases directory : progress.tree.entry found = some .directory
      · refine .inr (.inr ⟨⟨found, located, directory⟩, observe_of_ok fault ?_⟩)
        simp only [located, directory, decide_true]
      · refine .inr (.inl (observe_of_ok fault ?_))
        simp only [located, directory, decide_false]
  | error error =>
      by_cases refused : surroundings.accepts (path.flatMap fun name => 47 :: name) = false
      · refine .inl ⟨error, raises_locateAbsolute _ _ _ _ located, observe_of_error fault ?_⟩
        simp only [located, if_pos refused]
      · refine .inr (.inl (observe_of_ok fault ?_))
        simp only [located, if_neg refused]

/-- One directory is made, is there already, or is made after what is missing. -/
theorem makeExisting_result {again : Bool} {missing : Write Unit}
    (otherwise : RootResult surroundings path progress (missing.run progress)) :
    RootResult surroundings path progress
      ((makeExisting surroundings path again missing).run progress) := by
  have failed (error : Raised) (system : SystemError error)
      (raised : (perform surroundings (.makeRoot path again) (makeAbsolute surroundings path)).run
        progress = (.error error, progress)) :
      RootResult surroundings path progress
        ((makeExisting surroundings path again missing).run progress) := by
    rw [makeExisting, Process.handle_of_error raised]
    split
    · exact otherwise
    · rcases isDirectory_cases with ⟨early, system, looked⟩ | looked | ⟨leads, looked⟩
      · rw [Process.bind_of_error looked]
        exact .refused early progress system
      · rw [Process.bind_of_ok looked]
        exact .refused error progress system
      · rw [Process.bind_of_ok looked]
        exact .present leads
  by_cases fault : surroundings.fault = some (.makeRoot path again)
  · exact failed _ (systemError_osError _) (perform_fault fault _)
  cases made : makeAbsolute surroundings path progress.tree with
  | error error => exact failed error (raises_makeAbsolute _ _ _ made) (perform_of_error fault made)
  | ok next =>
      rw [makeExisting, Process.handle_of_ok (perform_of_ok fault made)]
      exact .made next (grows_of_makeAbsolute made)

theorem makeDirectories_result (names : List FileName) :
    RootResult surroundings names.reverse progress
      ((makeDirectories surroundings names).run progress) := by
  have nothing (path : Path) (progress : Progress) : RootResult surroundings path progress
      ((Process.raise fileNotFound : Write Unit).run progress) :=
    .refused fileNotFound progress (.inl rfl)
  induction names generalizing progress with
  | nil => exact makeExisting_result (nothing _ _)
  | cons name above induction =>
      refine makeExisting_result ?_
      have early : RootResult surroundings above.reverse progress
          ((makeDirectories surroundings above).run progress) := induction
      generalize ran : (makeDirectories surroundings above).run progress = outcome at early
      cases early with
      | refused error next system =>
          rw [Process.bind_of_error ran]
          exact .refused error next system
      | present leads =>
          rw [Process.bind_of_ok ran]
          exact makeExisting_result (nothing _ _)
      | made tree grows =>
          rw [Process.bind_of_ok ran]
          have late : RootResult surroundings (name :: above).reverse { progress with tree }
              ((makeExisting surroundings (name :: above).reverse true
                (Process.raise fileNotFound)).run { progress with tree }) :=
            makeExisting_result (nothing _ _)
          generalize (makeExisting surroundings (name :: above).reverse true
            (Process.raise fileNotFound)).run { progress with tree } = outcome at late
          cases late with
          | refused error next system => exact .refused error next system
          | present leads => exact .made tree grows
          | made next later => exact .made next (grows.trans later)

section Present

variable (leads : LeadsToDirectory surroundings progress.tree path)
include leads

theorem makeAbsolute_of_leads : makeAbsolute surroundings path progress.tree =
    .error fileExists := by
  obtain ⟨last, located, kinds⟩ := leads.last
  have present : progress.tree.entry last ≠ none := by
    rcases kinds with directory | ⟨absolute, target, link⟩
    · rw [directory]
      exact Option.some_ne_none _
    · rw [link]
      exact Option.some_ne_none _
  rw [makeAbsolute, located, ok_bind, raiseIf, if_pos present]
  rfl

theorem makeExisting_of_leads {again : Bool} {missing : Write Unit} :
    (makeExisting surroundings path again missing).run progress =
      (if surroundings.fault = some (.isDirectory path) then (.error faultError, progress)
      else (.ok (), progress)) := by
  obtain ⟨error, raised, other⟩ : ∃ error, (perform surroundings (.makeRoot path again)
      (makeAbsolute surroundings path)).run progress = (.error error, progress) ∧
        ¬error.cls.isA .fileNotFoundError := by
    by_cases fault : surroundings.fault = some (.makeRoot path again)
    · exact ⟨faultError, perform_fault fault _, by decide⟩
    · exact ⟨fileExists, perform_of_error fault (makeAbsolute_of_leads leads), by decide⟩
  rw [makeExisting, Process.handle_of_error raised, if_neg other]
  split
  · next fault => rw [isDirectory, Process.bind_of_error (observe_fault fault _)]
  · next works =>
    obtain ⟨found, located, directory⟩ := leads
    have looked : (isDirectory surroundings path).run progress = (.ok true, progress) := by
      refine observe_of_ok works ?_
      simp only [located, directory, decide_true]
    rw [Process.bind_of_ok looked]
    rfl

end Present

theorem makeDirectories_of_leads (leads : LeadsToDirectory surroundings progress.tree path) :
    (makeDirectories surroundings path.reverse).run progress =
      (if surroundings.fault = some (.isDirectory path) then (.error faultError, progress)
      else (.ok (), progress)) := by
  cases reversed : path.reverse with
  | nil =>
      obtain rfl := List.reverse_eq_nil_iff.mp reversed
      exact makeExisting_of_leads leads
  | cons name above =>
      have same : (name :: above).reverse = path := by rw [← reversed, List.reverse_reverse]
      rw [makeDirectories, same]
      exact makeExisting_of_leads leads

variable {depth : Nat} {parent : Path}

theorem openVerifiedDirectory_of_link {locate : Locator} {absolute : Bool}
    {target : List (FileStep FileName)} (located : locate progress.tree = .ok path)
    (link : progress.tree.entry path = some (.link absolute target)) :
    (openVerifiedDirectory surroundings depth locate).run progress =
      (if surroundings.fault = some (.inspect depth) then (.error faultError, progress)
      else (.error failedClosed, progress)) := by
  have looked : lstat locate progress.tree = .ok (path, .link absolute target) := by
    rw [lstat, located, ok_bind, link]
    rfl
  rw [openVerifiedDirectory]
  split
  · next fault => rw [Process.bind_of_error (observe_fault fault _)]
  · next works =>
    rw [Process.bind_of_ok (observe_of_ok works looked), raiseIf, if_pos (by simp)]
    rfl

theorem keptDirectories_touch {call : SystemCall} :
    (touch surroundings call).Keeps KeptDirectories := keptDirectories_observe _

theorem keptDirectories_openVerifiedDirectory {locate : Locator} :
    (openVerifiedDirectory surroundings depth locate).Keeps KeptDirectories :=
  (keptDirectories_observe _).bind fun _ => (Process.Keeps.lift _).bind fun _ =>
    (keptDirectories_observe _).bind fun _ => (keptDirectories_observe _).bind fun _ =>
      (keptDirectories_observe _).bind fun _ => (Process.Keeps.lift _).bind fun _ =>
        Process.Keeps.pure _

theorem keptDirectories_makeBelow {argument : Option PathArgument} :
    (perform surroundings (.makeDirectory depth)
      (makeBelow surroundings parent argument)).Keeps KeptDirectories := by
  refine keptDirectories_perform fun tree next made path directory => ?_
  simp only [makeBelow, bind_eq_ok, raiseIf_eq_ok, exists_const] at made
  obtain ⟨value, -, -, made⟩ := made
  split at made
  · simp only [bind_eq_ok, reduceCtorEq, and_false, exists_false] at made
  · simp only [bind_eq_ok, raiseIf_eq_ok, exists_const, pure_eq_ok] at made
    obtain ⟨-, rfl⟩ := made
    exact FileTree.directory_place _ directory

theorem keptDirectories_descend (arguments : List (Option PathArgument)) :
    (descend surroundings depth parent arguments).Keeps KeptDirectories := by
  induction arguments generalizing depth parent with
  | nil => exact Process.Keeps.pure _
  | cons argument arguments induction =>
      have made : (makeIfMissing surroundings depth parent argument).Keeps KeptDirectories := by
        refine keptDirectories_makeBelow.handle fun error => ?_
        split
        · exact Process.Keeps.pure _
        · exact Process.Keeps.raise _
      rw [descend, ensureAndOpenDirectory_eq]
      refine (made.bind fun _ => keptDirectories_openVerifiedDirectory).bind fun next => ?_
      exact (Process.Keeps.change fun _ _ directory => directory).bind fun _ => induction

theorem keptDirectories_setFile (content : List UInt8) :
    (Process.change (Progress.setFile path content) : Write Unit).Keeps KeptDirectories :=
  Process.Keeps.change fun _ _ directory => FileTree.directory_place _ directory

theorem keptDirectories_writeTemporary {text : Text} {content : List UInt8} :
    (writeTemporary surroundings parent text content).Keeps KeptDirectories := by
  have created : (systemCall surroundings .createTemporary
      (createFile surroundings parent text)).Keeps KeptDirectories := by
    refine keptDirectories_systemCall fun tree value next made path directory => ?_
    simp only [createFile, bind_eq_ok, raiseIf_eq_ok, exists_const, pure_eq_ok,
      Prod.mk.injEq] at made
    obtain ⟨found, -, -, -, rfl⟩ := made
    exact FileTree.directory_place _ directory
  have wrote (path : Path) : (writeFile surroundings path content).Keeps KeptDirectories := by
    rw [writeFile]
    split
    · exact (keptDirectories_setFile _).bind fun _ => Process.Keeps.raise _
    · exact keptDirectories_setFile _
  exact created.bind fun path => keptDirectories_touch.bind fun _ => (wrote path).bind fun _ =>
    keptDirectories_touch.bind fun _ => keptDirectories_touch

theorem keptDirectories_writeArtifact {name : Text} {content : List UInt8} :
    (writeArtifact surroundings parent name content).Keeps KeptDirectories := by
  have rejected : (rejectUnsafeDestination surroundings parent
    (PathArgument.ofComponent name)).Keeps
      KeptDirectories := by
    rw [rejectUnsafeDestination_eq]
    refine Process.Keeps.bind (Process.Keeps.handle ?_ fun error => ?_) fun _ =>
      Process.Keeps.lift _
    · exact (keptDirectories_observe _).bind fun _ => Process.Keeps.pure _
    · split
      · exact Process.Keeps.pure _
      · exact Process.Keeps.raise _
  have replaced : (perform surroundings .replace (replaceFile surroundings parent
      (temporaryText surroundings name) name)).Keeps KeptDirectories := by
    refine keptDirectories_perform fun tree next made path directory => ?_
    simp only [replaceFile, bind_eq_ok, raiseIf_eq_ok, exists_const, pure_eq_ok] at made
    obtain ⟨old, -, new, -, entry, -, -, rfl⟩ := made
    exact FileTree.directory_place _ (FileTree.directory_remove directory)
  have named (text : Option Text) : (Process.change (Progress.setTemporary text) : Write Unit).Keeps
      KeptDirectories := Process.Keeps.change fun _ _ directory => directory
  exact rejected.bind fun _ => (named _).bind fun _ => keptDirectories_writeTemporary.bind fun _ =>
    replaced.bind fun _ => (named _).bind fun _ => keptDirectories_touch

theorem keptDirectories_cleanUp : (cleanUp surroundings).Keeps KeptDirectories := by
  have closed (count : Nat) : (closeAll surroundings count).Keeps KeptDirectories := by
    induction count with
    | zero => exact Process.Keeps.pure _
    | succ count induction => exact keptDirectories_touch.bind fun _ => induction
  have removed (progress : Progress) :
      (removeTemporary surroundings progress).Keeps KeptDirectories := by
    rw [removeTemporary]
    split
    · refine Process.Keeps.handle (keptDirectories_perform fun tree next made path directory => ?_)
        fun error => ?_
      · simp only [unlink, bind_eq_ok, raiseIf_eq_ok, exists_const, pure_eq_ok] at made
        obtain ⟨found, -, -, -, rfl⟩ := made
        exact FileTree.directory_remove directory
      · split
        · exact Process.Keeps.pure _
        · exact Process.Keeps.raise _
    · exact Process.Keeps.pure _
  refine Process.Keeps.bind (fun progress => refl progress) fun progress => ?_
  exact (removed progress).bind fun _ => closed _

/-- Below an open root no directory is taken away. -/
theorem keptDirectories_ending {body : Write Unit} (kept : body.Keeps KeptDirectories) :
    (Process.ensure (closing body) (cleanUp surroundings)).Keeps KeptDirectories :=
  (kept.handle fun _ => Process.Keeps.raise _).ensure keptDirectories_cleanUp

end VoodooOne.Sandbox
