import VoodooOne.Sandbox.Root

/-!
# Containment of sandbox writes

A sandbox write changes nothing but the directory of its workspace, and it is done as a whole or not
at all, unless a call fails that the write does not guard or a link is followed at the workspace id.
-/

namespace VoodooOne.Sandbox

variable {surroundings : Surroundings} {sandboxRoot : Path} {workspaceId : Text}
  {payload : ArtifactPayload} {tree : Tree}

section Statement

variable (surroundings : Surroundings) (sandboxRoot : Path) (workspaceId : Text)
  (payload : ArtifactPayload) (tree : Tree)

def WorkspaceDirectory (directory : Path) : Prop :=
  ∃ root part name, locateAbsolute surroundings false sandboxRoot tree = .ok root ∧
    tree.entry root = some .directory ∧ workspacePart workspaceId = .ok part ∧
    fsencode part = some name ∧ directory = root ++ [name]

/-- The directory of the workspace, or a path below it. -/
def Inside (path : Path) : Prop :=
  ∃ directory, WorkspaceDirectory surroundings sandboxRoot workspaceId tree directory ∧
    directory <+: path

/-- The artifact is where the report says, and apart from it only directories were made. -/
structure Stored (next : Tree) (report : ArtifactReport) (directory : Path) (part : Text)
    (relativePath : List Text) (names : List FileName) (content : List UInt8) : Prop where
  workspace : WorkspaceDirectory surroundings sandboxRoot workspaceId tree directory
  component : workspacePart workspaceId = .ok part
  relative : payload.relativePath = .ok relativePath
  encodes : relativePath.mapM fsencode = some names
  below : names ≠ []
  encoded : payload.encodedBytes = some content
  path : report.path = List.intercalate (Text.ofString "/") (part :: relativePath)
  bytes : report.bytes = content.length
  above : ∀ path, path <+: directory ++ names → path ≠ directory ++ names →
    next.entry path = some .directory
  places : Places (directory ++ names) content (fun _ => True) tree next

/-- What a sandbox write may do. -/
structure Contained (outcome : Except Raised ArtifactReport × Tree) : Prop where
  inside : ∀ path, outcome.2.entry path ≠ tree.entry path →
    Inside surroundings sandboxRoot workspaceId tree path
  returned : ∀ report, outcome.1 = .ok report → ∃ directory part relativePath names content,
    Stored surroundings sandboxRoot workspaceId payload tree outcome.2 report directory part
      relativePath names content
  raised : ∀ error, outcome.1 = .error error →
    IsAdapterError error ∧ Makes (fun _ => True) tree outcome.2

def FollowsLink : Prop :=
  ∃ root part, locateAbsolute surroundings false sandboxRoot tree = .ok root ∧
    tree.entry root = some .directory ∧ workspacePart workspaceId = .ok part ∧
    ¬Direct surroundings tree root (PathArgument.ofPath workspaceId part)

/-- The write leaves nothing behind that it did not find, unless it returns. -/
def Traceless (root : Path) (arguments : List (Option PathArgument)) (name : Text)
    (content : List UInt8) : Prop :=
  ∀ bytes temporary, Reaches surroundings tree root arguments name bytes temporary →
    (Taken surroundings tree (reached root arguments) temporary →
      surroundings.fault = some .removeTemporary) ∧
    (Free surroundings tree (reached root arguments) temporary →
      surroundings.fault = some .syncDirectory →
      tree.entry (reached root arguments ++ [bytes]) = some (.file content))

/-- When a write does no more than it may. -/
inductive Safe : Prop
  | rejectedPath (error : Raised) (rejected : payload.relativePath = .error error)
  | tooLarge (content : List UInt8) (encoded : payload.encodedBytes = some content)
      (large : maxArtifactBytes < content.length)
  | rejectedWorkspace (content : List UInt8) (encoded : payload.encodedBytes = some content)
      (error : Raised) (rejected : workspacePart workspaceId = .error error)
  | linkedRoot (content : List UInt8) (encoded : payload.encodedBytes = some content)
      (leads : LeadsToDirectory surroundings tree sandboxRoot)
      (linked : ∀ root, locateAbsolute surroundings false sandboxRoot tree = .ok root →
        tree.entry root ≠ some .directory)
      (looks : surroundings.fault ≠ some (.isDirectory sandboxRoot))
      (inspects : surroundings.fault ≠ some (.inspect 0))
  | openRoot (relativePath : List Text) (content : List UInt8) (part : Text) (root : Path)
      (relative : payload.relativePath = .ok relativePath)
      (encoded : payload.encodedBytes = some content)
      (component : workspacePart workspaceId = .ok part)
      (located : locateAbsolute surroundings false sandboxRoot tree = .ok root)
      (directory : tree.entry root = some .directory)
      (direct : Direct surroundings tree root (PathArgument.ofPath workspaceId part))
      (works : Works surroundings (.isDirectory sandboxRoot :: openCalls 0))
      (closes : Closes surroundings tree root (directoryArguments workspaceId part relativePath))
      (traceless : Traceless surroundings tree root
        (directoryArguments workspaceId part relativePath) (relativePath.getLastD []) content)

end Statement

theorem isAdapterError_adapterError (message : String) : IsAdapterError (adapterError message) :=
  rfl

theorem raises_safeRelativePath (value : Text) : Raises IsAdapterError (safeRelativePath value) :=
  (Raises.raiseIf (isAdapterError_adapterError _)).bind fun _ =>
    (Raises.raiseIf (isAdapterError_adapterError _)).bind fun _ =>
      (Raises.raiseIf (isAdapterError_adapterError _)).bind fun _ => .ok _

theorem raises_workspacePart (workspaceId : Text) :
    Raises IsAdapterError (workspacePart workspaceId) := by
  refine (Raises.raiseIf (isAdapterError_adapterError _)).bind fun _ => ?_
  split
  · exact (Raises.raiseIf (isAdapterError_adapterError _)).bind fun _ => .ok _
  · exact .error (isAdapterError_adapterError _)

def writeFromRoot (surroundings : Surroundings) (sandboxRoot : Path) (workspaceId part : Text)
    (relativePath : List Text) (content : List UInt8) : Write Unit := do
  makeDirectories surroundings sandboxRoot.reverse
  let root ← openVerifiedDirectory surroundings 0 (locateAbsolute surroundings false sandboxRoot)
  Process.change (Progress.append root)
  Process.ensure (closing (writeBelow surroundings root workspaceId part relativePath content))
    (cleanUp surroundings)

abbrev fromRoot (surroundings : Surroundings) (sandboxRoot : Path) (workspaceId part : Text)
    (relativePath : List Text) (content : List UInt8) (tree : Tree) :
    Except Raised Unit × Progress :=
  (writeFromRoot surroundings sandboxRoot workspaceId part relativePath content).run ⟨tree, [],
    none⟩

theorem contained_refused {error : Raised} (adapter : IsAdapterError error) :
    Contained surroundings sandboxRoot workspaceId payload tree (.error error, tree) where
  inside path different := absurd rfl different
  returned report returned := by cases returned
  raised other raised := ⟨Except.error.inj raised ▸ adapter, fun path => .inl rfl⟩

theorem not_contained_of_error {error : Raised} {next : Tree} (other : ¬IsAdapterError error) :
    ¬Contained surroundings sandboxRoot workspaceId payload tree (.error error, next) :=
  fun contained => other (contained.raised error rfl).1

def adapterBody (surroundings : Surroundings) (sandboxRoot : Path) (workspaceId : Text)
    (payload : ArtifactPayload) : Write ArtifactReport := do
  let relativePath ← Process.lift payload.relativePath
  let content ← Process.lift (orRaise ⟨.valueError, "surrogates not allowed"⟩ payload.encodedBytes)
  Process.lift (raiseIf (maxArtifactBytes < content.length)
    (adapterError "artifact exceeds the governed size limit"))
  let path ← writeSandboxFile surroundings sandboxRoot workspaceId relativePath content
  return ⟨path, content.length⟩

theorem executeAdapter_of_body {result : Except Raised ArtifactReport} {next : Progress}
    (ran : (adapterBody surroundings sandboxRoot workspaceId payload).run ⟨tree, [], none⟩ =
      (result, next)) :
    executeAdapter surroundings sandboxRoot workspaceId payload tree = (result, next.tree) := by
  have outcome : executeAdapter surroundings sandboxRoot workspaceId payload tree =
    (((adapterBody surroundings sandboxRoot workspaceId payload).run ⟨tree, [], none⟩).1,
      ((adapterBody surroundings sandboxRoot workspaceId payload).run ⟨tree, [], none⟩).2.tree) :=
        rfl
  rw [outcome, ran]

section Run

theorem executeAdapter_of_rejectedPath {error : Raised}
    (rejected : payload.relativePath = .error error) :
    executeAdapter surroundings sandboxRoot workspaceId payload tree = (.error error, tree) := by
  have ran : (adapterBody surroundings sandboxRoot workspaceId payload).run ⟨tree, [], none⟩ =
      (.error error, ⟨tree, [], none⟩) := by
    rw [adapterBody, rejected]
    exact Process.bind_of_error rfl _
  exact executeAdapter_of_body ran

variable {relativePath : List Text} {content : List UInt8}
  (relative : payload.relativePath = .ok relativePath)
include relative

theorem executeAdapter_of_unencoded (unencoded : payload.encodedBytes = none) :
    executeAdapter surroundings sandboxRoot workspaceId payload tree =
      (.error ⟨.valueError, "surrogates not allowed"⟩, tree) := by
  have ran : (adapterBody surroundings sandboxRoot workspaceId payload).run ⟨tree, [], none⟩ =
      (.error ⟨.valueError, "surrogates not allowed"⟩, ⟨tree, [], none⟩) := by
    rw [adapterBody, relative, Process.bind_of_ok rfl, unencoded]
    exact Process.bind_of_error rfl _
  exact executeAdapter_of_body ran

variable (encoded : payload.encodedBytes = some content)
include encoded

theorem executeAdapter_of_tooLarge (large : maxArtifactBytes < content.length) :
    executeAdapter surroundings sandboxRoot workspaceId payload tree =
      (.error (adapterError "artifact exceeds the governed size limit"), tree) := by
  have ran : (adapterBody surroundings sandboxRoot workspaceId payload).run ⟨tree, [], none⟩ =
      (.error (adapterError "artifact exceeds the governed size limit"), ⟨tree, [], none⟩) := by
    rw [adapterBody, relative, Process.bind_of_ok rfl, encoded, Process.bind_of_ok rfl, raiseIf,
      if_pos large]
    exact Process.bind_of_error rfl _
  exact executeAdapter_of_body ran

variable (small : ¬maxArtifactBytes < content.length)
include small

theorem adapterBody_of_small :
    (adapterBody surroundings sandboxRoot workspaceId payload).run ⟨tree, [], none⟩ =
      (writeSandboxFile surroundings sandboxRoot workspaceId relativePath content >>= fun path =>
        pure (ArtifactReport.mk path content.length)).run ⟨tree, [], none⟩ := by
  rw [adapterBody, relative, Process.bind_of_ok rfl, encoded, Process.bind_of_ok rfl,
    raiseIf_of_not small]
  exact Process.bind_of_ok rfl _

theorem executeAdapter_of_rejectedWorkspace {error : Raised}
    (rejected : workspacePart workspaceId = .error error) :
    executeAdapter surroundings sandboxRoot workspaceId payload tree = (.error error, tree) := by
  have ran : (adapterBody surroundings sandboxRoot workspaceId payload).run ⟨tree, [], none⟩ =
      (.error error, ⟨tree, [], none⟩) := by
    rw [adapterBody_of_small relative encoded small, writeSandboxFile, rejected]
    exact Process.bind_of_error (Process.bind_of_error rfl _) _
  exact executeAdapter_of_body ran

theorem executeAdapter_of_part {part : Text} (component : workspacePart workspaceId = .ok part) :
    executeAdapter surroundings sandboxRoot workspaceId payload tree =
      ((fromRoot surroundings sandboxRoot workspaceId part relativePath content tree).1.map fun _ =>
        ⟨List.intercalate (Text.ofString "/") (part :: relativePath), content.length⟩,
      (fromRoot surroundings sandboxRoot workspaceId part relativePath content tree).2.tree) := by
  have write : writeSandboxFile surroundings sandboxRoot workspaceId relativePath content =
      (Process.lift (workspacePart workspaceId) >>= fun part =>
        writeFromRoot surroundings sandboxRoot workspaceId part relativePath content >>= fun _ =>
          pure (List.intercalate (Text.ofString "/") (part :: relativePath))) := by
    simp only [writeSandboxFile, writeFromRoot, Process.bind_assoc]
  refine executeAdapter_of_body ?_
  rw [adapterBody_of_small relative encoded small, write, component, Process.bind_assoc,
    Process.bind_of_ok rfl, Process.bind_assoc, fromRoot]
  cases ran : (writeFromRoot surroundings sandboxRoot workspaceId part relativePath content).run
      ⟨tree, [], none⟩ with
  | mk result next =>
      cases result with
      | ok value =>
          rw [Process.bind_of_ok ran, Process.bind_of_ok rfl]
          rfl
      | error error =>
          rw [Process.bind_of_error ran]
          rfl

end Run

section FromRoot

variable {part : Text} {relativePath : List Text} {content : List UInt8} {root : Path}

theorem works_cons {call : SystemCall} {calls : List SystemCall} :
    Works surroundings (call :: calls) ↔ surroundings.fault ≠ some call ∧
      Works surroundings calls :=
  List.forall_mem_cons

theorem fromRoot_of_directory
    (located : locateAbsolute surroundings false sandboxRoot tree = .ok root)
    (directory : tree.entry root = some .directory)
    (direct : Direct surroundings tree root (PathArgument.ofPath workspaceId part))
    (works : Works surroundings (.isDirectory sandboxRoot :: openCalls 0)) :
    Ended surroundings tree root (directoryArguments workspaceId part relativePath)
      (relativePath.getLastD []) content
      (fromRoot surroundings sandboxRoot workspaceId part relativePath content tree) := by
  obtain ⟨looks, opens⟩ := works_cons.mp works
  let start : Progress := ⟨tree, [], none⟩
  have made : (makeDirectories surroundings sandboxRoot.reverse).run start = (.ok (), start) := by
    rw [makeDirectories_of_leads (leadsToDirectory_of_directory located directory), if_neg looks]
  have opened : (openVerifiedDirectory surroundings 0
      (locateAbsolute surroundings false sandboxRoot)).run start = (.ok root, start) :=
    openVerifiedDirectory_of_works located directory opens
  rw [fromRoot, writeFromRoot, Process.bind_of_ok made, Process.bind_of_ok opened,
    Process.bind_of_ok rfl]
  have inside : (start.append root).tree.entry root = some .directory := directory
  have ended : Ended surroundings (start.append root).tree root
      (directoryArguments workspaceId part relativePath) (relativePath.getLastD []) content
      (ending surroundings (writeBelow surroundings root workspaceId part relativePath content)
        (start.append root)) := ended_writeBelow inside rfl rfl direct
  exact ended

section Link

variable (leads : LeadsToDirectory surroundings tree sandboxRoot)
  (linked : ∀ root, locateAbsolute surroundings false sandboxRoot tree = .ok root →
    tree.entry root ≠ some .directory)
include leads linked

theorem fromRoot_of_link :
    fromRoot surroundings sandboxRoot workspaceId part relativePath content tree =
      (if surroundings.fault = some (.isDirectory sandboxRoot) ∨
          surroundings.fault = some (.inspect 0) then .error faultError
        else .error failedClosed, ⟨tree, [], none⟩) := by
  let start : Progress := ⟨tree, [], none⟩
  have made : (makeDirectories surroundings sandboxRoot.reverse).run start =
      (if surroundings.fault = some (.isDirectory sandboxRoot) then (.error faultError, start)
      else (.ok (), start)) := makeDirectories_of_leads leads
  obtain ⟨last, located, directory | ⟨absolute, target, link⟩⟩ := leads.last
  · exact absurd directory (linked last located)
  have opened : (openVerifiedDirectory surroundings 0
      (locateAbsolute surroundings false sandboxRoot)).run start =
      (if surroundings.fault = some (.inspect 0) then (.error faultError, start)
      else (.error failedClosed, start)) := openVerifiedDirectory_of_link located link
  by_cases looks : surroundings.fault = some (.isDirectory sandboxRoot)
  · rw [if_pos looks] at made
    rw [fromRoot, writeFromRoot, Process.bind_of_error made, if_pos (.inl looks)]
  rw [if_neg looks] at made
  by_cases inspects : surroundings.fault = some (.inspect 0)
  · rw [if_pos inspects] at opened
    rw [fromRoot, writeFromRoot, Process.bind_of_ok made, Process.bind_of_error opened,
      if_pos (.inr inspects)]
  · rw [if_neg inspects] at opened
    rw [fromRoot, writeFromRoot, Process.bind_of_ok made, Process.bind_of_error opened,
      if_neg (not_or.mpr ⟨looks, inspects⟩)]

end Link

theorem fromRoot_of_fault (located : locateAbsolute surroundings false sandboxRoot tree = .ok root)
    (directory : tree.entry root = some .directory)
    (fails : ¬Works surroundings (.isDirectory sandboxRoot :: openCalls 0)) :
    fromRoot surroundings sandboxRoot workspaceId part relativePath content tree =
      (.error faultError, ⟨tree, [], none⟩) := by
  let start : Progress := ⟨tree, [], none⟩
  have made : (makeDirectories surroundings sandboxRoot.reverse).run start =
      (if surroundings.fault = some (.isDirectory sandboxRoot) then (.error faultError, start)
      else (.ok (), start)) :=
    makeDirectories_of_leads (leadsToDirectory_of_directory located directory)
  by_cases looks : surroundings.fault = some (.isDirectory sandboxRoot)
  · rw [if_pos looks] at made
    rw [fromRoot, writeFromRoot, Process.bind_of_error made]
  · rw [if_neg looks] at made
    have opened : (openVerifiedDirectory surroundings 0
        (locateAbsolute surroundings false sandboxRoot)).run start = (.error faultError, start) :=
      openVerifiedDirectory_of_fault located directory fun opens =>
        fails (works_cons.mpr ⟨looks, opens⟩)
    rw [fromRoot, writeFromRoot, Process.bind_of_ok made, Process.bind_of_error opened]

/-- A root that is not there is made, or the call raises an error that is no adapter error. -/
theorem fromRoot_of_missing (missing : ¬LeadsToDirectory surroundings tree sandboxRoot) :
    (∃ error, ¬IsAdapterError error ∧
      (fromRoot surroundings sandboxRoot workspaceId part relativePath content tree).1 =
        .error error) ∨
    ∃ path, (fromRoot surroundings sandboxRoot workspaceId part relativePath content
      tree).2.tree.entry path ≠ tree.entry path := by
  let start : Progress := ⟨tree, [], none⟩
  have result : RootResult surroundings sandboxRoot start
      ((makeDirectories surroundings sandboxRoot.reverse).run start) := by
    have reversed : RootResult surroundings sandboxRoot.reverse.reverse start
      ((makeDirectories surroundings sandboxRoot.reverse).run start) := makeDirectories_result _
    rwa [List.reverse_reverse] at reversed
  generalize made : (makeDirectories surroundings sandboxRoot.reverse).run start = outcome at result
  cases result with
  | refused error next system =>
      refine .inl ⟨error, system.not_adapterError, ?_⟩
      rw [fromRoot, writeFromRoot, Process.bind_of_error made]
  | present leads => exact absurd leads missing
  | made next grows =>
      have kept : (openVerifiedDirectory surroundings 0
          (locateAbsolute surroundings false sandboxRoot) >>= fun root => do
            Process.change (Progress.append root)
            Process.ensure
              (closing (writeBelow surroundings root workspaceId part relativePath content))
              (cleanUp surroundings)).Keeps KeptDirectories := by
        refine keptDirectories_openVerifiedDirectory.bind fun root => ?_
        refine (Process.Keeps.change fun _ _ directory => directory).bind fun _ => ?_
        exact keptDirectories_ending ((keptDirectories_descend _).bind fun _ =>
          keptDirectories_writeArtifact)
      obtain ⟨path, absent, directory⟩ := grows.grown
      refine .inr ⟨path, ?_⟩
      rw [fromRoot, writeFromRoot, Process.bind_of_ok made, kept _ path directory, absent]
      exact Option.some_ne_none _

end FromRoot

theorem relativePath_ne_nil {relativePath : List Text}
    (relative : payload.relativePath = .ok relativePath) : relativePath ≠ [] := by
  simp only [ArtifactPayload.relativePath, safeRelativePath, bind_eq_ok, raiseIf_eq_ok,
    exists_const, pure_eq_ok] at relative
  obtain ⟨-, nonempty, -, rfl⟩ := relative
  exact nonempty

section Workspace

variable {part : Text} {relativePath : List Text} {content : List UInt8} {root : Path}

theorem fsencode_of_ofPath {text : Text} {value : PathArgument}
    (given : PathArgument.ofPath text part = some value) : fsencode part = some value.name := by
  simp only [PathArgument.ofPath, bind, Option.bind_eq_some_iff, pure, Option.some.injEq] at given
  obtain ⟨bytes, -, name, encodes, rfl⟩ := given
  exact encodes

theorem reached_components {directory : Path} {parts : List Text}
    (opens : Opens surroundings tree directory (parts.map PathArgument.ofComponent)) :
    ∃ names, parts.mapM fsencode = some names ∧
      reached directory (parts.map PathArgument.ofComponent) = directory ++ names := by
  induction parts generalizing directory with
  | nil => exact ⟨[], rfl, (List.append_nil _).symm⟩
  | cons part parts induction =>
      obtain ⟨value, given, -, opens⟩ := opens
      obtain ⟨names, encodes, same⟩ := induction opens
      obtain ⟨name, first, rfl⟩ := Option.map_eq_some_iff.mp given
      refine ⟨name :: names, ?_, ?_⟩
      · rw [List.mapM_cons, first, encodes]
        rfl
      · rw [List.map_cons, given, reached, same, List.append_assoc]
        rfl

section Root

variable (located : locateAbsolute surroundings false sandboxRoot tree = .ok root)
  (directory : tree.entry root = some .directory) (component : workspacePart workspaceId = .ok part)
include located directory component

theorem inside_of_prefix {value : PathArgument} {path : Path}
    (given : PathArgument.ofPath workspaceId part = some value)
    (below : root ++ [value.name] <+: path) :
    Inside surroundings sandboxRoot workspaceId tree path :=
  ⟨_, ⟨root, part, value.name, located, directory, component, fsencode_of_ofPath given, rfl⟩, below⟩

theorem inside_of_between {path : Path}
    (between : Between root (reached root (directoryArguments workspaceId part relativePath))
      path) :
    Inside surroundings sandboxRoot workspaceId tree path := by
  obtain ⟨below, different, above⟩ := between
  have longer : root.length < path.length :=
    lt_of_le_of_ne below.length_le fun same => different (below.eq_of_length same).symm
  cases given : PathArgument.ofPath workspaceId part with
  | none =>
      rw [directoryArguments, given, reached] at above
      exact absurd above.length_le (Nat.not_le.mpr longer)
  | some value =>
      rw [directoryArguments, given, reached] at above
      refine inside_of_prefix located directory component given ?_
      refine List.prefix_of_prefix_length_le (prefix_reached _ _) above ?_
      rw [List.length_append, List.length_singleton]
      exact longer

theorem inside_of_places {next : Tree} {bytes temporary name : FileName} {text : Text}
    (reaches : Reaches surroundings tree root (directoryArguments workspaceId part relativePath)
      text bytes temporary)
    (places : Places (reached root (directoryArguments workspaceId part relativePath) ++ [name])
      content (Between root (reached root (directoryArguments workspaceId part relativePath)))
      tree next) {path : Path} (changed : next.entry path ≠ tree.entry path) :
    Inside surroundings sandboxRoot workspaceId tree path := by
  by_cases here : path = reached root (directoryArguments workspaceId part relativePath) ++ [name]
  · obtain ⟨value, given, -, -⟩ := reaches.opens
    refine inside_of_prefix located directory component given ?_
    rw [here, directoryArguments, given, reached]
    exact (prefix_reached _ _).trans (List.prefix_append _ _)
  · rcases places.others path here with same | ⟨-, -, between⟩
    · exact absurd same changed
    · exact inside_of_between located directory component between

theorem stored_of_places {next : Tree} {bytes temporary : FileName}
    (relative : payload.relativePath = .ok relativePath)
    (encoded : payload.encodedBytes = some content)
    (reaches : Reaches surroundings tree root (directoryArguments workspaceId part relativePath)
      (relativePath.getLastD []) bytes temporary)
    (places : Places (reached root (directoryArguments workspaceId part relativePath) ++ [bytes])
      content (Between root (reached root (directoryArguments workspaceId part relativePath)))
      tree next) :
    ∃ directory names, Stored surroundings sandboxRoot workspaceId payload tree next
        ⟨List.intercalate (Text.ofString "/") (part :: relativePath), content.length⟩ directory part
        relativePath names content := by
  obtain ⟨value, given, -, opens⟩ := reaches.opens
  obtain ⟨names, encodes, same⟩ := reached_components opens
  have destination : reached root (directoryArguments workspaceId part relativePath) ++ [bytes] =
      (root ++ [value.name]) ++ (names ++ [bytes]) := by
    rw [directoryArguments, given, reached, same, List.append_assoc]
  rw [destination] at places
  have nonempty := relativePath_ne_nil relative
  refine ⟨root ++ [value.name], names ++ [bytes],
    ⟨root, part, value.name, located, directory, component, fsencode_of_ofPath given, rfl⟩,
    component, relative, ?_, by simp, encoded, rfl, rfl, ?_, ?_⟩
  · have last := reaches.encodes
    obtain ⟨front, name, rfl⟩ := (List.eq_nil_or_concat relativePath).resolve_left nonempty
    rw [List.concat_eq_append, List.dropLast_concat] at encodes
    rw [List.concat_eq_append, List.getLastD_concat] at last
    rw [List.concat_eq_append, List.mapM_append, encodes, List.mapM_cons, last]
    rfl
  · intro path below different
    refine FileTree.directory_of_prefix ?_ below different
    rw [places.file]
    exact Option.some_ne_none _
  · exact ⟨places.file, fun path other => (places.others path other).imp_right
      fun ⟨missing, made, _⟩ => ⟨missing, made, trivial⟩⟩

section Outcome

variable (relative : payload.relativePath = .ok relativePath)
  (encoded : payload.encodedBytes = some content) {outcome : Except Raised Unit × Progress}
  (ended : Ended surroundings tree root (directoryArguments workspaceId part relativePath)
    (relativePath.getLastD []) content outcome)
include relative encoded ended

theorem contained_of_ended
    (closes : Closes surroundings tree root (directoryArguments workspaceId part relativePath))
    (traceless : Traceless surroundings tree root (directoryArguments workspaceId part relativePath)
      (relativePath.getLastD []) content) :
    Contained surroundings sandboxRoot workspaceId payload tree
      (outcome.1.map fun _ => ⟨List.intercalate (Text.ofString "/") (part :: relativePath),
        content.length⟩, outcome.2.tree) := by
  cases ended with
  | unclosed error next other unclosed => exact absurd closes unclosed
  | traceless error next adapter closes kept makes =>
      refine ⟨fun path changed => ?_, fun report returned => (by cases returned), ?_⟩
      · rcases makes path with same | ⟨-, -, between⟩
        · exact absurd same changed
        · exact inside_of_between located directory component between
      · intro other raised
        obtain rfl := Except.error.inj raised
        exact ⟨adapter, fun path => (makes path).imp_right
          fun ⟨missing, made, _⟩ => ⟨missing, made, trivial⟩⟩
  | lost error next bytes temporary reaches taken removes gone =>
      exact absurd ((traceless bytes temporary reaches).1 taken) removes
  | unsynced error next bytes temporary adapter reaches free fault places =>
      have same := (traceless bytes temporary reaches).2 free fault
      refine ⟨fun path => inside_of_places located directory component reaches places,
        fun report returned => (by cases returned), ?_⟩
      intro other raised
      obtain rfl := Except.error.inj raised
      refine ⟨adapter, fun path => ?_⟩
      by_cases here : path =
          reached root (directoryArguments workspaceId part relativePath) ++ [bytes]
      · subst here
        exact .inl (places.file.trans same.symm)
      · exact (places.others path here).imp_right fun ⟨missing, made, _⟩ => ⟨missing, made, trivial⟩
  | written next bytes temporary closes reaches free syncs places =>
      refine ⟨fun path => inside_of_places located directory component reaches places, ?_,
        fun error raised => (by cases raised)⟩
      intro report returned
      obtain rfl := Except.ok.inj returned
      obtain ⟨directory, names, stored⟩ :=
        stored_of_places located directory component relative encoded reaches places
      exact ⟨directory, part, relativePath, names, content, stored⟩

omit located directory component relative encoded in
/-- A write that does no more than it may has met no failure that it does not guard. -/
theorem traceless_of_contained {report : ArtifactReport}
    (contained : Contained surroundings sandboxRoot workspaceId payload tree
      (outcome.1.map fun _ => report, outcome.2.tree)) :
    Closes surroundings tree root (directoryArguments workspaceId part relativePath) ∧
      Traceless surroundings tree root (directoryArguments workspaceId part relativePath)
        (relativePath.getLastD []) content := by
  cases ended with
  | unclosed error next other unclosed => exact absurd (contained.raised error rfl).1 other
  | traceless error next adapter closes kept makes =>
      refine ⟨closes, fun bytes temporary reaches => ?_⟩
      obtain ⟨taken, free⟩ := kept bytes temporary reaches
      exact ⟨taken, fun missing synced => absurd synced (free missing)⟩
  | lost error next bytes temporary reaches taken removes gone =>
      obtain ⟨-, entry, here, -⟩ := taken
      rcases (contained.raised error rfl).2
          (reached root (directoryArguments workspaceId part relativePath) ++ [temporary]) with
        same | ⟨missing, -⟩
      · rw [gone, here] at same
        cases same
      · rw [here] at missing
        cases missing
  | unsynced error next bytes temporary adapter reaches free fault places =>
      refine ⟨fun depth _ _ close => ?_, fun bytes' temporary' again => ?_⟩
      · rw [fault] at close
        simp at close
      · obtain ⟨rfl, rfl⟩ := reaches.unique again
        refine ⟨fun taken => absurd free taken.not_free, fun _ _ => ?_⟩
        rcases (contained.raised error rfl).2
            (reached root (directoryArguments workspaceId part relativePath) ++ [bytes']) with
          same | ⟨-, directory, -⟩
        · exact same.symm.trans places.file
        · rw [places.file] at directory
          cases directory
  | written next bytes temporary closes reaches free syncs places =>
      refine ⟨closes, fun bytes' temporary' again => ?_⟩
      obtain ⟨rfl, rfl⟩ := reaches.unique again
      exact ⟨fun taken => absurd free taken.not_free, fun _ synced => absurd synced syncs⟩

end Outcome

end Root

end Workspace

theorem executeAdapter_safe (safe : Safe surroundings sandboxRoot workspaceId payload tree) :
    Contained surroundings sandboxRoot workspaceId payload tree
      (executeAdapter surroundings sandboxRoot workspaceId payload tree) := by
  cases relative : payload.relativePath with
  | error error =>
      rw [executeAdapter_of_rejectedPath relative]
      exact contained_refused (raises_safeRelativePath _ _ relative)
  | ok relativePath =>
      have refusedLarge (content : List UInt8) (encoded : payload.encodedBytes = some content)
          (large : maxArtifactBytes < content.length) :
          Contained surroundings sandboxRoot workspaceId payload tree
            (executeAdapter surroundings sandboxRoot workspaceId payload tree) := by
        rw [executeAdapter_of_tooLarge relative encoded large]
        exact contained_refused (isAdapterError_adapterError _)
      have refusedWorkspace (content : List UInt8) (encoded : payload.encodedBytes = some content)
          (error : Raised) (rejected : workspacePart workspaceId = .error error) :
          Contained surroundings sandboxRoot workspaceId payload tree
            (executeAdapter surroundings sandboxRoot workspaceId payload tree) := by
        by_cases large : maxArtifactBytes < content.length
        · exact refusedLarge content encoded large
        · rw [executeAdapter_of_rejectedWorkspace relative encoded large rejected]
          exact contained_refused (raises_workspacePart _ _ rejected)
      cases safe with
      | rejectedPath error rejected => exact absurd (relative.symm.trans rejected) (by simp)
      | tooLarge content encoded large => exact refusedLarge content encoded large
      | rejectedWorkspace content encoded error rejected =>
          exact refusedWorkspace content encoded error rejected
      | linkedRoot content encoded leads linked looks inspects =>
          by_cases large : maxArtifactBytes < content.length
          · exact refusedLarge content encoded large
          cases component : workspacePart workspaceId with
          | error error => exact refusedWorkspace content encoded error component
          | ok part =>
              have ran : fromRoot surroundings sandboxRoot workspaceId part relativePath content
                tree =
                  (.error failedClosed, ⟨tree, [], none⟩) := by
                rw [fromRoot_of_link leads linked, if_neg (not_or.mpr ⟨looks, inspects⟩)]
              rw [executeAdapter_of_part relative encoded large component, ran]
              exact contained_refused (isAdapterError_adapterError _)
      | openRoot relativePath' content part root relative' encoded component located directory
        direct
          works closes traceless =>
          obtain rfl := Except.ok.inj (relative.symm.trans relative')
          by_cases large : maxArtifactBytes < content.length
          · exact refusedLarge content encoded large
          rw [executeAdapter_of_part relative encoded large component]
          exact contained_of_ended located directory component relative encoded
            (fromRoot_of_directory located directory direct works) closes traceless

/-- A write that does no more than it may has met no failure that it does not guard. -/
theorem safe_of_contained (contained : Contained surroundings sandboxRoot workspaceId payload tree
      (executeAdapter surroundings sandboxRoot workspaceId payload tree)) :
    Safe surroundings sandboxRoot workspaceId payload tree ∨
      FollowsLink surroundings sandboxRoot workspaceId tree := by
  cases relative : payload.relativePath with
  | error error => exact .inl (.rejectedPath error relative)
  | ok relativePath =>
  cases encoded : payload.encodedBytes with
  | none =>
      rw [executeAdapter_of_unencoded relative encoded] at contained
      exact absurd contained (not_contained_of_error (by decide))
  | some content =>
  by_cases large : maxArtifactBytes < content.length
  · exact .inl (.tooLarge content encoded large)
  cases component : workspacePart workspaceId with
  | error error => exact .inl (.rejectedWorkspace content encoded error component)
  | ok part =>
  rw [executeAdapter_of_part relative encoded large component] at contained
  -- an exception of the part that is not guarded
  have guarded : (fromRoot surroundings sandboxRoot workspaceId part relativePath content tree).1 ≠
      .error faultError := by
    intro raised
    rw [raised] at contained
    exact not_contained_of_error not_isAdapterError_faultError contained
  by_cases leads : LeadsToDirectory surroundings tree sandboxRoot
  swap
  · have missing : (∃ error, ¬IsAdapterError error ∧
          (fromRoot surroundings sandboxRoot workspaceId part relativePath content tree).1 =
            .error error) ∨
        ∃ path, (fromRoot surroundings sandboxRoot workspaceId part relativePath content
          tree).2.tree.entry path ≠ tree.entry path := fromRoot_of_missing leads
    rcases missing with ⟨error, other, raised⟩ | ⟨path, changed⟩
    · rw [raised] at contained
      exact absurd contained (not_contained_of_error other)
    · obtain ⟨_, ⟨root, _, _, located, directory, -⟩, -⟩ := contained.inside path changed
      exact absurd (leadsToDirectory_of_directory located directory) leads
  obtain ⟨root, located, directory | ⟨absolute, target, link⟩⟩ := leads.last
  · by_cases works : Works surroundings (.isDirectory sandboxRoot :: openCalls 0)
    swap
    · exact absurd (congrArg Prod.fst (fromRoot_of_fault located directory works)) guarded
    by_cases direct : Direct surroundings tree root (PathArgument.ofPath workspaceId part)
    · obtain ⟨closes, traceless⟩ :=
        traceless_of_contained (fromRoot_of_directory located directory direct works) contained
      exact .inl (.openRoot relativePath content part root relative encoded component located
        directory direct works closes traceless)
    · exact .inr ⟨root, part, located, directory, component, direct⟩
  · have linked : ∀ other, locateAbsolute surroundings false sandboxRoot tree = .ok other →
        tree.entry other ≠ some .directory := by
      intro other found
      obtain rfl := Except.ok.inj (located.symm.trans found)
      rw [link]
      simp
    have unfaulted : ¬(surroundings.fault = some (.isDirectory sandboxRoot) ∨
        surroundings.fault = some (.inspect 0)) := by
      intro fault
      rw [fromRoot_of_link leads linked, if_pos fault] at guarded
      exact guarded rfl
    obtain ⟨looks, inspects⟩ := not_or.mp unfaulted
    exact .inl (.linkedRoot content encoded leads linked looks inspects)

def sandboxTree : Tree where
  entry path := if path = [] ∨ path = [[115]] then some .directory else none
  root := if_pos (.inl rfl)
  nested path name present := by
    have known : path ++ [name] = [] ∨ path ++ [name] = [[115]] := by
      by_contra other
      exact present (if_neg other)
    rcases known with empty | single
    · simp at empty
    · have above : path = [] := by simpa using congrArg List.dropLast single
      rw [above]
      exact if_pos (.inl rfl)

theorem sandboxTree_entry (path : Path) : sandboxTree.entry path =
    if path = [] ∨ path = [[115]] then some .directory else none := rfl

/-- The directory of the artifact cannot be synced. -/
def unsynced : Surroundings :=
  ⟨fun _ => true, some .syncDirectory, 0, List.replicate 16 ⟨0, Nat.zero_lt_succ 15⟩⟩

def unsyncedPayload : ArtifactPayload := ⟨some (.ofString "a"), some (.str (.ofString "x"))⟩

end VoodooOne.Sandbox
