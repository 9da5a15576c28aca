import VoodooOne.Sandbox.Descent

/-!
# Replacement of an artifact

The temporary file has another name than its destination.  Either it replaces the destination, or it
is removed again, unless something else had its name.
-/

namespace VoodooOne.Sandbox

variable {surroundings : Surroundings} {progress : Progress} {parent : Path} {name : Text}
  {bytes : FileName}

theorem fsencode_append {left right : Text} {first second : FileName}
    (early : fsencode left = some first) (late : fsencode right = some second) :
    fsencode (left ++ right) = some (first ++ second) := by
  rw [fsencode, Option.map_eq_some_iff] at early late ⊢
  obtain ⟨start, starts, rfl⟩ := early
  obtain ⟨rest, rests, rfl⟩ := late
  refine ⟨start ++ rest, ?_, List.flatten_append⟩
  rw [List.mapM_append, starts, rests]
  rfl

theorem fsencode_digits (digits : List (Fin 16)) :
    ∃ bytes, fsencode (digits.map fun digit : Fin 16 => .char (hexDigit digit)) = some bytes := by
  have encodes : ∀ digit : Fin 16, (unitBytes (.char (hexDigit digit))).isSome := by decide
  induction digits with
  | nil => exact ⟨[], rfl⟩
  | cons digit digits induction =>
      obtain ⟨rest, rests⟩ := induction
      obtain ⟨first, firsts⟩ := Option.isSome_iff_exists.mp (encodes digit)
      have single : fsencode [.char (hexDigit digit)] = some [first].flatten := by
        rw [fsencode, List.mapM_cons, firsts]
        rfl
      exact ⟨_, fsencode_append single rests⟩

theorem fsencode_temporaryText (encodes : fsencode name = some bytes) :
    ∃ temporary, fsencode (temporaryText surroundings name) = some temporary ∧
      temporary ≠ bytes := by
  have dot : fsencode (Text.ofString ".") = some [46] := by decide
  have ending : fsencode (Text.ofString ".tmp") = some [46, 116, 109, 112] := by decide
  obtain ⟨digits, token⟩ := fsencode_digits surroundings.token
  refine ⟨_, fsencode_append (fsencode_append (fsencode_append (fsencode_append dot encodes) dot)
    token) ending, fun same => ?_⟩
  have lengths := congrArg List.length same
  simp only [List.length_append, List.length_cons, List.length_nil] at lengths
  omega

theorem ofComponent_of_encodes (encodes : fsencode name = some bytes) :
    PathArgument.ofComponent name = some ⟨bytes, bytes, false, false⟩ := by
  rw [PathArgument.ofComponent, encodes]
  rfl

theorem locateBelow_of_accepted {tree : Tree} (encodes : fsencode name = some bytes)
    (accepted : surroundings.accepts bytes = true) :
    locateBelow surroundings parent (PathArgument.ofComponent name) tree =
      .ok (parent ++ [bytes]) := by
  rw [ofComponent_of_encodes encodes]
  exact locateBelow_eq_ok.mpr ⟨accepted, FileTree.walk_single, fun trailing => by cases trailing⟩

theorem locateBelow_component {tree : Tree} {path : Path}
    (located : locateBelow surroundings parent (PathArgument.ofComponent name) tree = .ok path) :
    ∃ bytes, fsencode name = some bytes ∧ surroundings.accepts bytes = true ∧
      path = parent ++ [bytes] := by
  cases encodes : fsencode name with
  | none =>
      rw [PathArgument.ofComponent, encodes] at located
      cases located
  | some bytes =>
      rw [ofComponent_of_encodes encodes] at located
      obtain ⟨accepted, walked, -⟩ := locateBelow_eq_ok.mp located
      rw [FileTree.walk_single] at walked
      exact ⟨bytes, rfl, accepted, (Except.ok.inj walked).symm⟩

/-- The destination is a file, or nothing is there. -/
def Writable (surroundings : Surroundings) (tree : Tree) (parent : Path) (bytes : FileName) :
    Prop :=
  surroundings.accepts bytes = true ∧
    ∀ entry, tree.entry (parent ++ [bytes]) = some entry → isRegular entry = true

/-- What the destination is, if there is anything. -/
def destinationOf (surroundings : Surroundings) (parent : Path) (name : Text) :
    Write (Option (Path × FileEntry FileName)) :=
  (do return some (← observe surroundings .inspectDestination
    (lstat (locateBelow surroundings parent (PathArgument.ofComponent name))))).handle fun error =>
      if error.cls.isA .fileNotFoundError then pure none else Process.raise error

theorem rejectUnsafeDestination_eq :
    rejectUnsafeDestination surroundings parent (PathArgument.ofComponent name) =
      (destinationOf surroundings parent name >>= fun metadata => Process.lift
        (raiseIf (∃ inspected ∈ metadata, isRegular inspected.2 = false) failedClosed)) := rfl

theorem destinationOf_of_entry {path : Path} {entry : FileEntry FileName}
    (works : surroundings.fault ≠ some .inspectDestination)
    (located : locateBelow surroundings parent (PathArgument.ofComponent name) progress.tree =
      .ok path)
    (here : progress.tree.entry path = some entry) :
    (destinationOf surroundings parent name).run progress =
      (.ok (some (path, entry)), progress) := by
  have looked : lstat (locateBelow surroundings parent (PathArgument.ofComponent name))
      progress.tree = .ok (path, entry) := by
    rw [lstat, located, ok_bind, here]
    rfl
  rw [destinationOf, Process.handle_of_ok]
  rw [Process.bind_of_ok (observe_of_ok works looked)]
  rfl

theorem destinationOf_of_missing {path : Path}
    (works : surroundings.fault ≠ some .inspectDestination)
    (located : locateBelow surroundings parent (PathArgument.ofComponent name) progress.tree =
      .ok path)
    (missing : progress.tree.entry path = none) :
    (destinationOf surroundings parent name).run progress = (.ok none, progress) := by
  have looked : lstat (locateBelow surroundings parent (PathArgument.ofComponent name))
      progress.tree = .error fileNotFound := by
    rw [lstat, located, ok_bind, missing]
    rfl
  rw [destinationOf, Process.handle_of_error (Process.bind_of_error (observe_of_error works looked)
    _)]
  rfl

theorem rejectUnsafeDestination_of_writable (encodes : fsencode name = some bytes)
    (works : surroundings.fault ≠ some .inspectDestination)
    (writable : Writable surroundings progress.tree parent bytes) :
    (rejectUnsafeDestination surroundings parent (PathArgument.ofComponent name)).run progress =
      (.ok (), progress) := by
  have located : locateBelow surroundings parent (PathArgument.ofComponent name) progress.tree =
    .ok (parent ++ [bytes]) := locateBelow_of_accepted encodes writable.1
  rw [rejectUnsafeDestination_eq]
  cases here : progress.tree.entry (parent ++ [bytes]) with
  | none =>
      rw [Process.bind_of_ok (destinationOf_of_missing works located here),
        raiseIf_of_not (by simp)]
      rfl
  | some entry =>
      have regular := writable.2 entry here
      rw [Process.bind_of_ok (destinationOf_of_entry works located here),
        raiseIf_of_not (by simp [regular])]
      rfl

theorem rejectUnsafeDestination_of_not
    (not : surroundings.fault ≠ some .inspectDestination → ∀ bytes, fsencode name = some bytes →
      ¬Writable surroundings progress.tree parent bytes) :
    ∃ error, (rejectUnsafeDestination surroundings parent (PathArgument.ofComponent name)).run
      progress = (.error error, progress) := by
  have raised (error : Raised) (raises : (observe surroundings .inspectDestination
        (lstat (locateBelow surroundings parent (PathArgument.ofComponent name)))).run progress =
        (.error error, progress)) (other : ¬error.cls.isA .fileNotFoundError) :
      ∃ error, (rejectUnsafeDestination surroundings parent (PathArgument.ofComponent name)).run
        progress = (.error error, progress) := by
    refine ⟨error, ?_⟩
    rw [rejectUnsafeDestination_eq, Process.bind_of_error]
    rw [destinationOf, Process.handle_of_error (Process.bind_of_error raises _), if_neg other]
    rfl
  by_cases fault : surroundings.fault = some .inspectDestination
  · exact raised _ (observe_fault fault _) (by decide)
  cases encodes : fsencode name with
  | none =>
      have refused : lstat (locateBelow surroundings parent (PathArgument.ofComponent name))
          progress.tree = .error pathError := by
        rw [PathArgument.ofComponent, encodes]
        rfl
      exact raised _ (observe_of_error fault refused) (by decide)
  | some bytes =>
      by_cases accepted : surroundings.accepts bytes = true
      · have located : locateBelow surroundings parent (PathArgument.ofComponent name) progress.tree
          = .ok (parent ++ [bytes]) := locateBelow_of_accepted encodes accepted
        have irregular : ¬∀ entry, progress.tree.entry (parent ++ [bytes]) = some entry →
            isRegular entry = true := fun regular => not fault bytes encodes ⟨accepted, regular⟩
        simp only [not_forall, Bool.not_eq_true] at irregular
        obtain ⟨entry, here, irregular⟩ := irregular
        refine ⟨failedClosed, ?_⟩
        rw [rejectUnsafeDestination_eq, Process.bind_of_ok
          (destinationOf_of_entry fault located here), raiseIf, if_pos ⟨_, rfl, irregular⟩]
        rfl
      · have refused : lstat (locateBelow surroundings parent (PathArgument.ofComponent name))
            progress.tree = .error (osError "File name too long") := by
          rw [ofComponent_of_encodes encodes, lstat, locateBelow, orRaise, ok_bind, raiseIf,
            if_pos (Bool.not_eq_true _ ▸ accepted)]
          rfl
        exact raised _ (observe_of_error fault refused) (by decide)

section Temporary

variable {text : Text} {temporary : FileName} {content : List UInt8}

/-- Nothing has the name of the temporary file, and the system takes it. -/
def Free (surroundings : Surroundings) (tree : Tree) (parent : Path) (temporary : FileName) :
    Prop :=
  surroundings.accepts temporary = true ∧ tree.entry (parent ++ [temporary]) = none

/-- The calls that create, write and close the temporary file. -/
def temporaryCalls : List SystemCall :=
  [.createTemporary, .openHandle, .write, .sync, .closeTemporary]

theorem createFile_of_free {tree : Tree} (encodes : fsencode text = some temporary)
    (free : Free surroundings tree parent temporary) :
    createFile surroundings parent text tree =
      .ok (parent ++ [temporary], tree.place (parent ++ [temporary]) (.file [])) := by
  rw [createFile, locateBelow_of_accepted encodes free.1, ok_bind,
    raiseIf_of_not (not_not.mpr free.2)]
  rfl

theorem entry_place_file {tree : Tree} (inside : tree.entry parent = some .directory)
    (missing : tree.entry (parent ++ [temporary]) = none) (content : List UInt8) :
    (tree.place (parent ++ [temporary]) (.file content)).entry =
      Function.update tree.entry (parent ++ [temporary]) (some (.file content)) := by
  refine FileTree.entry_place ?_ ?_
  · rwa [List.dropLast_concat]
  · rw [missing]
    exact (Option.some_ne_none _).symm

theorem entry_place_again {tree : Tree} (inside : tree.entry parent = some .directory)
    (missing : tree.entry (parent ++ [temporary]) = none) (first content : List UInt8) :
    ((tree.place (parent ++ [temporary]) (.file first)).place (parent ++ [temporary])
        (.file content)).entry =
      Function.update tree.entry (parent ++ [temporary]) (some (.file content)) := by
  have placed := entry_place_file inside missing first
  rw [FileTree.entry_place, placed, Function.update_idem]
  · rw [List.dropLast_concat]
    exact FileTree.directory_place _ inside
  · rw [placed, Function.update_self]
    simp

theorem writeTemporary_of_taken (encodes : fsencode text = some temporary)
    (taken : ¬(Free surroundings progress.tree parent temporary ∧
      surroundings.fault ≠ some .createTemporary)) :
    ∃ error, (writeTemporary surroundings parent text content).run progress =
      (.error error, progress) := by
  by_cases fault : surroundings.fault = some .createTemporary
  · exact ⟨_, Process.bind_of_error (systemCall_fault fault _) _⟩
  cases created : createFile surroundings parent text progress.tree with
  | error error => exact ⟨error, Process.bind_of_error (systemCall_of_error fault created) _⟩
  | ok result =>
      simp only [createFile, bind_eq_ok, raiseIf_eq_ok, not_not, exists_const] at created
      obtain ⟨path, located, missing, -⟩ := created
      obtain ⟨bytes, same, accepted, rfl⟩ := locateBelow_component located
      obtain rfl := Option.some.inj (encodes.symm.trans same)
      exact absurd ⟨⟨accepted, missing⟩, fault⟩ taken

theorem writeTemporary_of_free (encodes : fsencode text = some temporary)
    (free : Free surroundings progress.tree parent temporary)
    (works : surroundings.fault ≠ some .createTemporary) :
    (writeTemporary surroundings parent text content).run progress = (do
      touch surroundings .openHandle
      writeFile surroundings (parent ++ [temporary]) content
      touch surroundings .sync
      touch surroundings .closeTemporary).run
        (progress.setFile (parent ++ [temporary]) []) :=
  Process.bind_of_ok (systemCall_of_ok works (createFile_of_free encodes free)) _

theorem writeTemporary_of_works (encodes : fsencode text = some temporary)
    (free : Free surroundings progress.tree parent temporary)
    (works : Works surroundings temporaryCalls) :
    (writeTemporary surroundings parent text content).run progress =
      (.ok (), (progress.setFile (parent ++ [temporary]) []).setFile (parent ++ [temporary])
        content) := by
  simp only [Works, temporaryCalls, List.forall_mem_cons] at works
  obtain ⟨creates, opens, writes, syncs, closes, -⟩ := works
  rw [writeTemporary_of_free encodes free creates, Process.bind_of_ok (touch_of_works opens),
    writeFile, if_neg writes, Process.bind_of_ok rfl, Process.bind_of_ok (touch_of_works syncs),
    touch_of_works closes]

theorem writeTemporary_of_fault (inside : progress.tree.entry parent = some .directory)
    (encodes : fsencode text = some temporary)
    (free : Free surroundings progress.tree parent temporary)
    (creates : surroundings.fault ≠ some .createTemporary)
    (fails : ¬Works surroundings temporaryCalls) :
    ∃ tree some_, (writeTemporary surroundings parent text content).run progress =
        (.error faultError, { progress with tree }) ∧
      tree.entry = Function.update progress.tree.entry (parent ++ [temporary])
        (some (.file some_)) := by
  obtain ⟨call, member, fault⟩ := fault_of_not_works fails
  have others (other : SystemCall) (unlike : other ≠ call) : surroundings.fault ≠ some other :=
    fun same => unlike (Option.some.inj (same.symm.trans fault))
  have created := entry_place_file inside free.2 []
  have rewritten := entry_place_again inside free.2 []
  rw [writeTemporary_of_free encodes free creates]
  simp only [temporaryCalls, List.mem_cons, List.not_mem_nil, or_false] at member
  rcases member with rfl | rfl | rfl | rfl | rfl
  · exact absurd fault creates
  · exact ⟨_, [], Process.bind_of_error (touch_fault fault) _, created⟩
  · refine ⟨_, content.take surroundings.written, ?_, rewritten _⟩
    rw [Process.bind_of_ok (touch_of_works (others .openHandle (by simp))), writeFile, if_pos fault]
    exact Process.bind_of_error rfl _
  · refine ⟨_, content, ?_, rewritten _⟩
    rw [Process.bind_of_ok (touch_of_works (others .openHandle (by simp))), writeFile,
      if_neg (others .write (by simp)), Process.bind_of_ok rfl,
      Process.bind_of_error (touch_fault fault)]
    rfl
  · refine ⟨_, content, ?_, rewritten _⟩
    rw [Process.bind_of_ok (touch_of_works (others .openHandle (by simp))), writeFile,
      if_neg (others .write (by simp)), Process.bind_of_ok rfl,
      Process.bind_of_ok (touch_of_works (others .sync (by simp))), touch_fault fault]
    rfl

end Temporary

section Destination

variable {temporary : FileName} {content : List UInt8}

theorem Writable.not_directory {tree : Tree} (writable : Writable surroundings tree parent bytes) :
    tree.entry (parent ++ [bytes]) ≠ some .directory := fun directory => by
  cases writable.2 _ directory

theorem append_ne (different : temporary ≠ bytes) : parent ++ [temporary] ≠ parent ++ [bytes] :=
  fun same => different (List.singleton_injective (List.append_cancel_left same))

theorem replaceFile_of_written {tree written : Tree} {text : Text}
    (inside : tree.entry parent = some .directory) (encodes : fsencode name = some bytes)
    (encodesTemporary : fsencode text = some temporary) (different : temporary ≠ bytes)
    (writable : Writable surroundings tree parent bytes)
    (free : Free surroundings tree parent temporary)
    (entries : written.entry =
      Function.update tree.entry (parent ++ [temporary]) (some (.file content))) :
    ∃ next, replaceFile surroundings parent text name written = .ok next ∧
      next.entry = Function.update tree.entry (parent ++ [bytes]) (some (.file content)) := by
  have here : written.entry (parent ++ [temporary]) = some (.file content) := by
    rw [entries, Function.update_self]
  have kept : written.entry (parent ++ [bytes]) ≠ some .directory := by
    rw [entries, Function.update_of_ne (append_ne different.symm)]
    exact writable.not_directory
  have removed : (written.remove (parent ++ [temporary])).entry = tree.entry := by
    rw [FileTree.entry_remove, entries, Function.update_idem, ← free.2, Function.update_eq_self]
    rw [here]
    simp
  refine ⟨(written.remove (parent ++ [temporary])).place (parent ++ [bytes]) (.file content), ?_,
    ?_⟩
  · rw [replaceFile, locateBelow_of_accepted encodesTemporary free.1, ok_bind,
      locateBelow_of_accepted encodes writable.1, ok_bind, here, orRaise, ok_bind,
      raiseIf_of_not kept]
    rfl
  · rw [FileTree.entry_place, removed]
    · rw [removed, List.dropLast_concat]
      exact inside
    · rw [removed]
      exact writable.not_directory

def replaceCalls : List SystemCall := temporaryCalls ++ [.replace]

/-- What a write does to a destination that is a file or missing. -/
inductive ArtifactResult (surroundings : Surroundings) (progress : Progress) (parent : Path)
    (name : Text) (bytes temporary : FileName) (content : List UInt8) :
    Except Raised Unit × Progress → Prop
  | uninspected (error : Raised) (fault : surroundings.fault = some .inspectDestination) :
      ArtifactResult surroundings progress parent name bytes temporary content
        (.error error, progress)
  | uncreated (error : Raised) (works : surroundings.fault ≠ some .inspectDestination)
      (taken : ¬(Free surroundings progress.tree parent temporary ∧
        surroundings.fault ≠ some .createTemporary)) :
      ArtifactResult surroundings progress parent name bytes temporary content
        (.error error, progress.setTemporary (some (temporaryText surroundings name)))
  | unfinished (error : Raised) (tree : Tree) (some_ : List UInt8)
      (works : surroundings.fault ≠ some .inspectDestination)
      (free : Free surroundings progress.tree parent temporary)
      (fails : ¬Works surroundings replaceCalls)
      (entries : tree.entry =
        Function.update progress.tree.entry (parent ++ [temporary]) (some (.file some_))) :
      ArtifactResult surroundings progress parent name bytes temporary content (.error error,
        { progress with tree, temporaryName := some (temporaryText surroundings name) })
  | unsynced (error : Raised) (tree : Tree)
      (free : Free surroundings progress.tree parent temporary)
      (fault : surroundings.fault = some .syncDirectory)
      (entries : tree.entry =
        Function.update progress.tree.entry (parent ++ [bytes]) (some (.file content))) :
      ArtifactResult surroundings progress parent name bytes temporary content
        (.error error, { progress with tree, temporaryName := none })
  | written (tree : Tree) (free : Free surroundings progress.tree parent temporary)
      (works : Works surroundings (.inspectDestination :: .syncDirectory :: replaceCalls))
      (entries : tree.entry =
        Function.update progress.tree.entry (parent ++ [bytes]) (some (.file content))) :
      ArtifactResult surroundings progress parent name bytes temporary content
        (.ok (), { progress with tree, temporaryName := none })

theorem writeArtifact_result (inside : progress.tree.entry parent = some .directory)
    (encodes : fsencode name = some bytes)
    (encodesTemporary : fsencode (temporaryText surroundings name) = some temporary)
    (different : temporary ≠ bytes)
    (writable : Writable surroundings progress.tree parent bytes) :
    ArtifactResult surroundings progress parent name bytes temporary content
      ((writeArtifact surroundings parent name content).run progress) := by
  by_cases inspects : surroundings.fault = some .inspectDestination
  · obtain ⟨error, raised⟩ : ∃ error, (rejectUnsafeDestination surroundings parent
        (PathArgument.ofComponent name)).run progress = (.error error, progress) :=
      rejectUnsafeDestination_of_not fun works => absurd inspects works
    rw [writeArtifact, Process.bind_of_error raised]
    exact .uninspected error inspects
  let text := temporaryText surroundings name
  let started := progress.setTemporary (some text)
  rw [writeArtifact, Process.bind_of_ok (rejectUnsafeDestination_of_writable encodes inspects
    writable), Process.bind_of_ok rfl]
  by_cases creates : Free surroundings progress.tree parent temporary ∧
      surroundings.fault ≠ some .createTemporary
  swap
  · obtain ⟨error, raised⟩ : ∃ error, (writeTemporary surroundings parent text content).run started
      =
        (.error error, started) := writeTemporary_of_taken encodesTemporary creates
    rw [Process.bind_of_error raised]
    exact .uncreated error inspects creates
  obtain ⟨free, creates⟩ := creates
  by_cases writes : Works surroundings temporaryCalls
  swap
  · obtain ⟨tree, some_, raised, entries⟩ : ∃ tree some_,
        (writeTemporary surroundings parent text content).run started =
          (.error faultError, { started with tree }) ∧ tree.entry =
            Function.update progress.tree.entry (parent ++ [temporary]) (some (.file some_)) :=
      writeTemporary_of_fault inside encodesTemporary free creates writes
    rw [Process.bind_of_error raised]
    exact .unfinished _ tree some_ inspects free
      (fun works => writes (List.forall_mem_append.mp works).1) entries
  have finished : (writeTemporary surroundings parent text content).run started = (.ok (),
      (started.setFile (parent ++ [temporary]) []).setFile (parent ++ [temporary]) content) :=
    writeTemporary_of_works encodesTemporary free writes
  have written := entry_place_again inside free.2 [] content
  obtain ⟨next, replaced, entries⟩ :=
    replaceFile_of_written inside encodes encodesTemporary different writable free written
  rw [Process.bind_of_ok finished]
  by_cases replaces : surroundings.fault = some .replace
  · rw [Process.bind_of_error (perform_fault replaces _)]
    exact .unfinished _ _ content inspects free
      (fun works => works .replace (by simp [replaceCalls]) replaces) written
  rw [Process.bind_of_ok (perform_of_ok replaces replaced), Process.bind_of_ok rfl]
  by_cases syncs : surroundings.fault = some .syncDirectory
  · rw [touch_fault syncs]
    exact .unsynced _ next free syncs entries
  · have calls : Works surroundings replaceCalls :=
      List.forall_mem_append.mpr ⟨writes, List.forall_mem_singleton.mpr replaces⟩
    rw [touch_of_works syncs]
    exact .written next free
      (List.forall_mem_cons.mpr ⟨inspects, List.forall_mem_cons.mpr ⟨syncs, calls⟩⟩) entries

end Destination

end VoodooOne.Sandbox
