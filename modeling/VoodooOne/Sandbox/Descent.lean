import VoodooOne.Sandbox.Calls

/-!
# Descent into the sandbox

A directory that is opened is a directory of the tree at its own path, unless a link is followed at
the workspace id.  The descent opens directories as far as there are any or they can be made, and
makes no others.
-/

namespace VoodooOne.Sandbox

variable {surroundings : Surroundings} {depth : Nat} {locate : Locator} {progress : Progress}
  {path : Path}

def Works (surroundings : Surroundings) (calls : List SystemCall) : Prop :=
  ∀ call ∈ calls, surroundings.fault ≠ some call

theorem fault_of_not_works {calls : List SystemCall} (fails : ¬Works surroundings calls) :
    ∃ call ∈ calls, surroundings.fault = some call := by
  simpa only [Works, not_forall, not_not, exists_prop] using fails

def openCalls (depth : Nat) : List SystemCall :=
  [.inspect depth, .openDirectory depth, .inspectOpened depth, .inspectAgain depth]

section Looks

variable (located : locate progress.tree = .ok path)
  (directory : progress.tree.entry path = some .directory)
include located directory

theorem lstat_of_directory : lstat locate progress.tree = .ok (path, .directory) := by
  rw [lstat, located, ok_bind, directory]
  rfl

theorem openDirectory_of_directory : openDirectory locate progress.tree = .ok path := by
  rw [openDirectory, located, ok_bind, directory]
  rfl

theorem openVerifiedDirectory_of_works (works : Works surroundings (openCalls depth)) :
    (openVerifiedDirectory surroundings depth locate).run progress = (.ok path, progress) := by
  have looked := lstat_of_directory located directory
  have opened := openDirectory_of_directory located directory
  have known : lstat (fun _ => .ok path) progress.tree = .ok (path, .directory) :=
    lstat_of_directory rfl directory
  simp only [Works, openCalls, List.forall_mem_cons] at works
  obtain ⟨first, second, third, fourth, -⟩ := works
  rw [openVerifiedDirectory, Process.bind_of_ok (observe_of_ok first looked),
    raiseIf_of_not (not_not.mpr rfl), Process.bind_of_ok rfl,
    Process.bind_of_ok (observe_of_ok second opened),
    Process.bind_of_ok (observe_of_ok third known),
    Process.bind_of_ok (observe_of_ok fourth looked)]
  rw [raiseIf_of_not (by simp)]
  rfl

theorem openVerifiedDirectory_of_fault (fails : ¬Works surroundings (openCalls depth)) :
    (openVerifiedDirectory surroundings depth locate).run progress =
      (.error faultError, progress) := by
  have looked := lstat_of_directory located directory
  have opened := openDirectory_of_directory located directory
  have known : lstat (fun _ => .ok path) progress.tree = .ok (path, .directory) :=
    lstat_of_directory rfl directory
  obtain ⟨call, member, fault⟩ := fault_of_not_works fails
  have others (other : SystemCall) (different : other ≠ call) : surroundings.fault ≠ some other :=
    fun same => different (Option.some.inj (same.symm.trans fault))
  rw [openVerifiedDirectory]
  simp only [openCalls, List.mem_cons, List.not_mem_nil, or_false] at member
  rcases member with rfl | rfl | rfl | rfl
  · rw [Process.bind_of_error (observe_fault fault _)]
  · rw [Process.bind_of_ok (observe_of_ok (others (.inspect depth) (by simp)) looked),
      raiseIf_of_not (not_not.mpr rfl), Process.bind_of_ok rfl,
      Process.bind_of_error (observe_fault fault _)]
  · rw [Process.bind_of_ok (observe_of_ok (others (.inspect depth) (by simp)) looked),
      raiseIf_of_not (not_not.mpr rfl), Process.bind_of_ok rfl,
      Process.bind_of_ok (observe_of_ok (others (.openDirectory depth) (by simp)) opened),
      Process.bind_of_error (observe_fault fault _)]
  · rw [Process.bind_of_ok (observe_of_ok (others (.inspect depth) (by simp)) looked),
      raiseIf_of_not (not_not.mpr rfl), Process.bind_of_ok rfl,
      Process.bind_of_ok (observe_of_ok (others (.openDirectory depth) (by simp)) opened),
      Process.bind_of_ok (observe_of_ok (others (.inspectOpened depth) (by simp)) known),
      Process.bind_of_error (observe_fault fault _)]

end Looks

theorem openVerifiedDirectory_of_other (other : ∀ path, locate progress.tree = .ok path →
    progress.tree.entry path ≠ some .directory) :
    ∃ error, (openVerifiedDirectory surroundings depth locate).run progress =
      (.error error, progress) := by
  rw [openVerifiedDirectory]
  by_cases fault : surroundings.fault = some (.inspect depth)
  · exact ⟨_, Process.bind_of_error (observe_fault fault _) _⟩
  cases looked : lstat locate progress.tree with
  | error error => exact ⟨error, Process.bind_of_error (observe_of_error fault looked) _⟩
  | ok metadata =>
      have found := looked
      simp only [lstat, bind_eq_ok, orRaise_eq_ok, pure_eq_ok] at found
      obtain ⟨path, located, entry, here, rfl⟩ := found
      have differs : entry ≠ .directory := fun same => other path located (here.trans (same ▸ rfl))
      refine ⟨failedClosed, ?_⟩
      rw [Process.bind_of_ok (observe_of_ok fault looked), raiseIf, if_pos differs]
      exact Process.bind_of_error rfl _

abbrev WriteError (error : Raised) : Prop := SystemError error ∨ IsAdapterError error

theorem raises_openVerifiedDirectory (located : ∀ tree, Raises SystemError (locate tree)) :
    (openVerifiedDirectory surroundings depth locate).Raises WriteError := by
  have known (path : Path) (tree : Tree) :
      Raises SystemError (lstat (fun _ => .ok path) tree) := raises_lstat (fun _ => .ok _) tree
  have refused (condition : Prop) [Decidable condition] :
      ∀ error, raiseIf condition failedClosed = .error error → WriteError error :=
    Raises.raiseIf (.inr rfl)
  refine ((raises_observe (raises_lstat located)).mono fun _ => .inl).bind fun metadata => ?_
  refine (Process.Raises.lift (refused _)).bind fun _ => ?_
  refine ((raises_observe (raises_openDirectory located)).mono fun _ => .inl).bind fun path => ?_
  refine ((raises_observe (known path)).mono fun _ => .inl).bind fun opened => ?_
  refine ((raises_observe (raises_lstat located)).mono fun _ => .inl).bind fun current => ?_
  exact (Process.Raises.lift (refused _)).bind fun _ => .pure _

section Entering

variable {tree : Tree} {parent : Path} {argument : Option PathArgument} {value : PathArgument}

theorem mapError_eq_ok {ε α : Type} {convert : ε → Raised} {result : Except ε α} {found : α} :
    result.mapError convert = .ok found ↔ result = .ok found := by
  cases result with
  | ok value => simp [Except.mapError]
  | error error => simp [Except.mapError]

/-- A path of one component leads to its component, not to where a link at it leads. -/
def Direct (surroundings : Surroundings) (tree : Tree) (parent : Path)
    (argument : Option PathArgument) : Prop :=
  ∀ value ∈ argument, ∀ found, locateBelow surroundings parent (some value) tree = .ok found →
    found = parent ++ [value.name]

theorem locateBelow_eq_ok {found : Path} :
    locateBelow surroundings parent (some value) tree = .ok found ↔
      surroundings.accepts value.bytes = true ∧
        tree.walk value.trailing maxLinks parent [.down value.name] = .ok found ∧
        (value.trailing = true → tree.entry found = some .directory) := by
  simp only [locateBelow, bind_eq_ok, orRaise_eq_ok, raiseIf_eq_ok, pure_eq_ok, Option.some.injEq,
    exists_eq_left', Bool.not_eq_false, exists_const, not_and, not_not]
  constructor
  · rintro ⟨accepted, path, walked, checked, rfl⟩
    exact ⟨accepted, mapError_eq_ok.mp walked, checked⟩
  · rintro ⟨accepted, walked, checked⟩
    exact ⟨accepted, found, mapError_eq_ok.mpr walked, checked, rfl⟩

theorem direct_of_untrailing (untrailing : ∀ value ∈ argument, value.trailing = false) :
    Direct surroundings tree parent argument := by
  intro value member found located
  obtain ⟨-, walked, -⟩ := locateBelow_eq_ok.mp located
  rw [untrailing value member, FileTree.walk_single] at walked
  exact (Except.ok.inj walked).symm

theorem locateBelow_of_directory (accepted : surroundings.accepts value.bytes = true)
    (directory : tree.entry (parent ++ [value.name]) = some .directory) :
    locateBelow surroundings parent (some value) tree = .ok (parent ++ [value.name]) := by
  refine locateBelow_eq_ok.mpr ⟨accepted, ?_, fun _ => directory⟩
  rw [FileTree.walk]
  simp only [directory]
  rw [FileTree.walk]

/-- The directory that a path names can be opened, if need be after it is made. -/
def Enterable (surroundings : Surroundings) (tree : Tree) (parent : Path)
    (value : PathArgument) : Prop :=
  surroundings.accepts value.bytes = true ∧ (tree.entry (parent ++ [value.name]) = some .directory ∨
    tree.entry (parent ++ [value.name]) = none ∧ value.dotted = false)

def withDirectory (tree : Tree) (path : Path) : Tree :=
  if tree.entry path = none then tree.place path .directory else tree

theorem entry_made {name : FileName} (inside : tree.entry parent = some .directory)
    (missing : tree.entry (parent ++ [name]) = none) :
    (tree.place (parent ++ [name]) .directory).entry (parent ++ [name]) = some .directory := by
  rw [FileTree.entry_place, Function.update_self]
  · rwa [List.dropLast_concat]
  · rw [missing]
    exact (Option.some_ne_none _).symm

/-- The first call of `_ensure_and_open_directory`. -/
def makeIfMissing (surroundings : Surroundings) (depth : Nat) (parent : Path)
    (argument : Option PathArgument) : Write Unit :=
  (perform surroundings (.makeDirectory depth) (makeBelow surroundings parent argument)).handle
    fun error => if error.cls.isA .fileExistsError then pure () else Process.raise error

theorem makeIfMissing_of_directory (works : surroundings.fault ≠ some (.makeDirectory depth))
    (accepted : surroundings.accepts value.bytes = true)
    (directory : progress.tree.entry (parent ++ [value.name]) = some .directory) :
    (makeIfMissing surroundings depth parent (some value)).run progress = (.ok (), progress) := by
  have exists_ : makeBelow surroundings parent (some value) progress.tree = .error fileExists := by
    rw [makeBelow, orRaise, ok_bind, raiseIf_of_not (by simp [accepted]), ok_bind]
    split
    · rw [locateBelow_of_directory accepted directory]
      rfl
    · rw [directory, raiseIf, if_pos (Option.some_ne_none _)]
      rfl
  rw [makeIfMissing, Process.handle_of_error (perform_of_error works exists_)]
  rfl

theorem makeIfMissing_of_missing (works : surroundings.fault ≠ some (.makeDirectory depth))
    (accepted : surroundings.accepts value.bytes = true) (undotted : value.dotted = false)
    (missing : progress.tree.entry (parent ++ [value.name]) = none) :
    (makeIfMissing surroundings depth parent (some value)).run progress =
      (.ok (), { progress with tree := progress.tree.place (parent ++ [value.name]) .directory
        }) := by
  have makes : makeBelow surroundings parent (some value) progress.tree =
      .ok (progress.tree.place (parent ++ [value.name]) .directory) := by
    rw [makeBelow, orRaise, ok_bind, raiseIf_of_not (by simp [accepted]), ok_bind,
      if_neg (by simp [undotted]), missing, raiseIf_of_not (not_not.mpr rfl), ok_bind]
    rfl
  rw [makeIfMissing, Process.handle_of_ok (perform_of_ok works makes)]

theorem makeIfMissing_cases :
    (∃ error, (makeIfMissing surroundings depth parent argument).run progress =
      (.error error, progress)) ∨
    surroundings.fault ≠ some (.makeDirectory depth) ∧
      ((makeIfMissing surroundings depth parent argument).run progress = (.ok (), progress) ∨
        ∃ value, argument = some value ∧ surroundings.accepts value.bytes = true ∧
          value.dotted = false ∧ progress.tree.entry (parent ++ [value.name]) = none) := by
  by_cases fault : surroundings.fault = some (.makeDirectory depth)
  · refine .inl ⟨faultError, ?_⟩
    rw [makeIfMissing, Process.handle_of_error (perform_fault fault _)]
    rfl
  cases made : makeBelow surroundings parent argument progress.tree with
  | error error =>
      by_cases existing : error.cls.isA .fileExistsError
      · refine .inr ⟨fault, .inl ?_⟩
        rw [makeIfMissing, Process.handle_of_error (perform_of_error fault made), if_pos existing]
        rfl
      · refine .inl ⟨error, ?_⟩
        rw [makeIfMissing, Process.handle_of_error (perform_of_error fault made), if_neg existing]
        rfl
  | ok next =>
      refine .inr ⟨fault, .inr ?_⟩
      cases argument with
      | none => cases made
      | some value =>
          simp only [makeBelow, bind_eq_ok, orRaise_eq_ok, raiseIf_eq_ok, exists_const,
            Option.some.injEq, exists_eq_left', Bool.not_eq_false] at made
          obtain ⟨accepted, made⟩ := made
          split at made
          · simp only [bind_eq_ok, reduceCtorEq, and_false, exists_false] at made
          · next undotted =>
            simp only [bind_eq_ok, raiseIf_eq_ok, not_not, exists_const] at made
            exact ⟨value, rfl, accepted, Bool.not_eq_true _ ▸ undotted, made.1⟩

theorem ensureAndOpenDirectory_eq : ensureAndOpenDirectory surroundings depth parent argument =
    (makeIfMissing surroundings depth parent argument >>= fun _ =>
      openVerifiedDirectory surroundings depth (locateBelow surroundings parent argument)) := rfl

/-- The calls of `_ensure_and_open_directory`. -/
def enterCalls (depth : Nat) : List SystemCall := .makeDirectory depth :: openCalls depth

theorem works_enterCalls : Works surroundings (enterCalls depth) ↔
    surroundings.fault ≠ some (.makeDirectory depth) ∧ Works surroundings (openCalls depth) :=
  List.forall_mem_cons

theorem ensureAndOpenDirectory_of_enterable (inside : progress.tree.entry parent = some .directory)
    (enterable : Enterable surroundings progress.tree parent value)
    (works : Works surroundings (enterCalls depth)) :
    (ensureAndOpenDirectory surroundings depth parent (some value)).run progress =
      (.ok (parent ++ [value.name]),
        { progress with tree := withDirectory progress.tree (parent ++ [value.name]) }) := by
  obtain ⟨made, opened⟩ := works_enterCalls.mp works
  obtain ⟨accepted, directory | ⟨missing, undotted⟩⟩ := enterable
  · have present : progress.tree.entry (parent ++ [value.name]) ≠ none := by
      rw [directory]
      exact Option.some_ne_none _
    rw [ensureAndOpenDirectory_eq, withDirectory, if_neg present,
      Process.bind_of_ok (makeIfMissing_of_directory made accepted directory)]
    exact openVerifiedDirectory_of_works (locateBelow_of_directory accepted directory) directory
      opened
  · rw [ensureAndOpenDirectory_eq, withDirectory, if_pos missing,
      Process.bind_of_ok (makeIfMissing_of_missing made accepted undotted missing)]
    have directory : (progress.tree.place (parent ++ [value.name]) .directory).entry
        (parent ++ [value.name]) = some .directory := entry_made inside missing
    exact openVerifiedDirectory_of_works (locateBelow_of_directory accepted directory) directory
      opened

/-- Otherwise the call raises, and nothing but that directory is made. -/
theorem ensureAndOpenDirectory_of_not (inside : progress.tree.entry parent = some .directory)
    (direct : Direct surroundings progress.tree parent argument)
    (not : ∀ value, argument = some value → Enterable surroundings progress.tree parent value →
      ¬Works surroundings (enterCalls depth)) :
    ∃ error tree, (ensureAndOpenDirectory surroundings depth parent argument).run progress =
        (.error error, { progress with tree }) ∧
      (tree = progress.tree ∨ ∃ value, argument = some value ∧
        Enterable surroundings progress.tree parent value ∧
        tree = withDirectory progress.tree (parent ++ [value.name])) := by
  have unopened (works : surroundings.fault ≠ some (.makeDirectory depth)) (value : PathArgument)
      (given : argument = some value)
      (enterable : Enterable surroundings progress.tree parent value) :
      ¬Works surroundings (openCalls depth) := fun opens =>
    not value given enterable (works_enterCalls.mpr ⟨works, opens⟩)
  rcases makeIfMissing_cases with ⟨error, raised⟩ | ⟨made, kept | fresh⟩
  · exact ⟨error, progress.tree, Process.bind_of_error raised _, .inl rfl⟩
  · rw [ensureAndOpenDirectory_eq, Process.bind_of_ok kept]
    by_cases opens : ∃ value, argument = some value ∧ surroundings.accepts value.bytes = true ∧
        progress.tree.entry (parent ++ [value.name]) = some .directory
    · obtain ⟨value, rfl, accepted, directory⟩ := opens
      have fails := unopened made value rfl ⟨accepted, .inl directory⟩
      exact ⟨_, progress.tree, openVerifiedDirectory_of_fault
        (locateBelow_of_directory accepted directory) directory fails, .inl rfl⟩
    · have other : ∀ path, locateBelow surroundings parent argument progress.tree = .ok path →
          progress.tree.entry path ≠ some .directory := by
        intro path located directory
        cases argument with
        | none => cases located
        | some value =>
            rw [direct value rfl path located] at directory
            exact opens ⟨value, rfl, (locateBelow_eq_ok.mp located).1, directory⟩
      obtain ⟨error, raised⟩ := openVerifiedDirectory_of_other other
      exact ⟨error, progress.tree, raised, .inl rfl⟩
  · obtain ⟨value, rfl, accepted, undotted, missing⟩ := fresh
    have enterable : Enterable surroundings progress.tree parent value :=
      ⟨accepted, .inr ⟨missing, undotted⟩⟩
    have directory : (progress.tree.place (parent ++ [value.name]) .directory).entry
        (parent ++ [value.name]) = some .directory := entry_made inside missing
    rw [ensureAndOpenDirectory_eq,
      Process.bind_of_ok (makeIfMissing_of_missing made accepted undotted missing)]
    refine ⟨faultError, withDirectory progress.tree (parent ++ [value.name]), ?_,
      .inr ⟨value, rfl, enterable, rfl⟩⟩
    rw [withDirectory, if_pos missing]
    exact openVerifiedDirectory_of_fault (locateBelow_of_directory accepted directory) directory
      (unopened made value rfl enterable)

theorem withDirectory_of_ne {other : Path} (different : other ≠ path) :
    (withDirectory tree path).entry other = tree.entry other := by
  rw [withDirectory]
  split
  · exact FileTree.entry_place_of_ne _ different
  · rfl

theorem withDirectory_self (inside : tree.entry parent = some .directory)
    (enterable : Enterable surroundings tree parent value) :
    (withDirectory tree (parent ++ [value.name])).entry (parent ++ [value.name]) =
      some .directory := by
  rw [withDirectory]
  split
  · next missing => exact entry_made inside missing
  · next present =>
    rcases enterable.2 with directory | ⟨missing, -⟩
    · exact directory
    · exact absurd missing present

end Entering

/-- Where a path of components leads, as far as it can be passed to the system. -/
def reached (directory : Path) : List (Option PathArgument) → Path
  | [] => directory
  | none :: _ => directory
  | some value :: arguments => reached (directory ++ [value.name]) arguments

/-- All directories of a path can be opened, if need be after they are made. -/
def Opens (surroundings : Surroundings) (tree : Tree) (directory : Path) :
    List (Option PathArgument) → Prop
  | [] => True
  | argument :: arguments => ∃ value, argument = some value ∧
      Enterable surroundings tree directory value ∧
      Opens surroundings tree (directory ++ [value.name]) arguments

/-- A path below a directory on the way to another one. -/
def Between (directory final path : Path) : Prop :=
  directory <+: path ∧ path ≠ directory ∧ path <+: final

/-- Nothing is changed, but directories are made at some paths where nothing was. -/
def Makes (made : Path → Prop) (tree next : Tree) : Prop :=
  ∀ path, next.entry path = tree.entry path ∨
    tree.entry path = none ∧ next.entry path = some .directory ∧ made path

theorem Makes.trans {first second made : Path → Prop} {tree middle next : Tree}
    (early : Makes first tree middle) (late : Makes second middle next)
    (before : ∀ path, first path → made path) (after : ∀ path, second path → made path) :
    Makes made tree next := by
  intro path
  rcases early path with same | ⟨missing, directory, here⟩
  · rcases late path with kept | ⟨missing, directory, here⟩
    · exact .inl (kept.trans same)
    · exact .inr ⟨same ▸ missing, directory, after path here⟩
  · rcases late path with kept | ⟨missing', directory', -⟩
    · exact .inr ⟨missing, kept.trans directory, before path here⟩
    · rw [directory] at missing'
      cases missing'

theorem makes_withDirectory {tree : Tree} {parent : Path} {value : PathArgument}
    (inside : tree.entry parent = some .directory)
    (enterable : Enterable surroundings tree parent value) :
    Makes (· = parent ++ [value.name]) tree (withDirectory tree (parent ++ [value.name])) := by
  intro path
  by_cases here : path = parent ++ [value.name]
  · subst here
    have directory := withDirectory_self inside enterable
    rcases enterable.2 with present | ⟨missing, -⟩
    · exact .inl (directory.trans present.symm)
    · exact .inr ⟨missing, directory, rfl⟩
  · exact .inl (withDirectory_of_ne here)

theorem opens_congr {tree other : Tree} {directory : Path} {arguments : List (Option PathArgument)}
    (same : ∀ below, below ≠ [] → tree.entry (directory ++ below) =
      other.entry (directory ++ below)) :
    Opens surroundings tree directory arguments ↔ Opens surroundings other directory arguments := by
  induction arguments generalizing directory with
  | nil => exact Iff.rfl
  | cons argument arguments induction =>
      refine exists_congr fun value => and_congr_right fun _ => and_congr ?_ (induction ?_)
      · rw [Enterable, Enterable, same _ (List.cons_ne_nil _ _)]
      · intro below nonempty
        rw [List.append_assoc]
        exact same _ (by simp)

inductive DescentResult (surroundings : Surroundings) (depth : Nat) (directory : Path)
    (arguments : List (Option PathArgument)) (progress : Progress) :
    Except Raised Path × Progress → Prop
  | arrived (next : Progress) (opens : Opens surroundings progress.tree directory arguments)
      (works : ∀ offset < arguments.length, Works surroundings (enterCalls (depth + offset)))
      (opened : next.openFds.length = progress.openFds.length + arguments.length)
      (last : next.openFds.getLast? = some (reached directory arguments))
      (inside : next.tree.entry (reached directory arguments) = some .directory)
      (temporary : next.temporaryName = progress.temporaryName)
      (makes : Makes (Between directory (reached directory arguments)) progress.tree next.tree) :
      DescentResult surroundings depth directory arguments progress
        (.ok (reached directory arguments), next)
  | stopped (error : Raised) (next : Progress) (count : Nat) (within : count < arguments.length)
      (opens : Opens surroundings progress.tree directory (arguments.take count))
      (blocked : ¬Opens surroundings progress.tree directory (arguments.take (count + 1)) ∨
        ¬Works surroundings (enterCalls (depth + count)))
      (opened : next.openFds.length = progress.openFds.length + count)
      (temporary : next.temporaryName = progress.temporaryName)
      (makes : Makes (Between directory (reached directory arguments)) progress.tree next.tree) :
      DescentResult surroundings depth directory arguments progress (.error error, next)

theorem prefix_reached (directory : Path) (arguments : List (Option PathArgument)) :
    directory <+: reached directory arguments := by
  fun_induction reached directory arguments with
  | case1 directory => exact List.prefix_rfl
  | case2 directory arguments => exact List.prefix_rfl
  | case3 directory value arguments induction => exact (List.prefix_append _ _).trans induction

theorem between_below {directory final path : Path} {name : FileName}
    (between : Between (directory ++ [name]) final path) : Between directory final path := by
  obtain ⟨above, -, below⟩ := between
  refine ⟨(List.prefix_append _ _).trans above, ?_, below⟩
  rintro rfl
  have longer := above.length_le
  rw [List.length_append] at longer
  exact absurd longer (Nat.not_succ_le_self _)

theorem between_first {directory final : Path} {name : FileName}
    (below : directory ++ [name] <+: final) : Between directory final (directory ++ [name]) :=
  ⟨List.prefix_append _ _, by simp, below⟩

theorem descend_result {arguments : List (Option PathArgument)} {directory : Path}
    (inside : progress.tree.entry directory = some .directory)
    (last : progress.openFds.getLast? = some directory)
    (direct : ∀ argument ∈ arguments.head?, Direct surroundings progress.tree directory argument)
    (untrailing : ∀ argument ∈ arguments.tail, ∀ value ∈ argument, value.trailing = false) :
    DescentResult surroundings depth directory arguments progress
      ((descend surroundings depth directory arguments).run progress) := by
  induction arguments generalizing depth directory progress with
  | nil =>
      exact .arrived progress trivial (fun offset below => absurd below (Nat.not_lt_zero _)) rfl
        last inside rfl fun path => .inl rfl
  | cons argument arguments induction =>
      by_cases enters : ∃ value, argument = some value ∧
          Enterable surroundings progress.tree directory value ∧
          Works surroundings (enterCalls depth)
      · obtain ⟨value, rfl, enterable, works⟩ := enters
        let path := directory ++ [value.name]
        let middle : Progress :=
          Progress.append path { progress with tree := withDirectory progress.tree path }
        have moved : (descend surroundings depth directory (some value :: arguments)).run progress =
            (descend surroundings (depth + 1) path arguments).run middle := by
          rw [descend, Process.bind_of_ok
            (ensureAndOpenDirectory_of_enterable inside enterable works), Process.bind_of_ok rfl]
        have same (arguments : List (Option PathArgument)) :
            Opens surroundings middle.tree path arguments ↔
              Opens surroundings progress.tree path arguments :=
          opens_congr fun below nonempty => withDirectory_of_ne (by simpa using nonempty)
        have makes {next : Tree}
            (late : Makes (Between path (reached path arguments)) middle.tree next) :
            Makes (Between directory (reached path arguments)) progress.tree next := by
          refine (makes_withDirectory inside enterable).trans late ?_ fun _ => between_below
          rintro _ rfl
          exact between_first (prefix_reached path arguments)
        have inside' : middle.tree.entry path = some .directory :=
          withDirectory_self inside enterable
        have last' : middle.openFds.getLast? = some path := List.getLast?_concat
        have later : DescentResult surroundings (depth + 1) path arguments middle
            ((descend surroundings (depth + 1) path arguments).run middle) :=
          induction inside' last'
            (fun next member => direct_of_untrailing
              (untrailing next (List.mem_of_mem_head? member)))
            fun next member => untrailing next (List.mem_of_mem_tail member)
        have reach : reached directory (some value :: arguments) = reached path arguments := rfl
        have longer (count : Nat) : middle.openFds.length + count =
            progress.openFds.length + (count + 1) := by
          rw [show middle.openFds = progress.openFds ++ [path] from rfl, List.length_append,
            List.length_singleton]
          omega
        rw [moved]
        generalize (descend surroundings (depth + 1) path arguments).run middle = outcome at later
        cases later with
        | arrived next opens works' opened last inside temporary made =>
            have all : ∀ offset < (some value :: arguments).length,
                Works surroundings (enterCalls (depth + offset)) := by
              intro offset below
              cases offset with
              | zero => exact works
              | succ offset =>
                  rw [← Nat.add_assoc, Nat.add_right_comm]
                  exact works' offset (Nat.lt_of_succ_lt_succ below)
            have result : DescentResult surroundings depth directory (some value :: arguments)
              progress
                (.ok (reached directory (some value :: arguments)), next) :=
              .arrived next ⟨value, rfl, enterable, (same _).mp opens⟩ all
                (opened.trans (longer _)) (reach ▸ last) (reach ▸ inside) temporary
                (reach ▸ makes made)
            rwa [reach] at result
        | stopped error next count within opens blocked opened temporary made =>
            refine .stopped error next (count + 1) (Nat.succ_lt_succ within)
              ⟨value, rfl, enterable, (same _).mp opens⟩ ?_ (opened.trans (longer _)) temporary
              (reach ▸ makes made)
            refine blocked.imp (fun blocked => ?_) fun fails => ?_
            · rintro ⟨other, given, -, opens⟩
              obtain rfl := Option.some.inj given
              exact blocked ((same _).mpr opens)
            · rwa [← Nat.add_assoc, Nat.add_right_comm]
      · have not : ∀ value, argument = some value →
            Enterable surroundings progress.tree directory value →
            ¬Works surroundings (enterCalls depth) :=
          fun value given enterable works => enters ⟨value, given, enterable, works⟩
        obtain ⟨error, tree, raised, made⟩ :=
          ensureAndOpenDirectory_of_not inside (direct argument rfl) not
        rw [descend, Process.bind_of_error raised]
        refine .stopped error _ 0 (Nat.succ_pos _) trivial ?_ rfl rfl ?_
        · by_cases works : Works surroundings (enterCalls depth)
          · refine .inl ?_
            rintro ⟨value, given, enterable, -⟩
            exact enters ⟨value, given, enterable, works⟩
          · exact .inr works
        · rcases made with rfl | ⟨value, rfl, enterable, rfl⟩
          · exact fun path => .inl rfl
          · intro path
            refine (makes_withDirectory inside enterable path).imp_right fun ⟨missing, made,
              here⟩ => ?_
            refine ⟨missing, made, here ▸ between_first ?_⟩
            exact prefix_reached _ _

end VoodooOne.Sandbox
