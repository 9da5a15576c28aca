import VoodooOne.Checkpoint.ManifestRoundTrip

/-!
# Manifests of finalized checkpoints

A candidate that passes the check of its own outer manifest has plain paths only.  Each manifest
that
the finalizer then writes lists the files of its directory exactly, to the end of the finalization.
-/

namespace VoodooOne.Checkpoint

open FileDigest

variable {sha256 : FileDigest} {tree next : FileTree}

theorem FileTree.mem_write {path : RelativePath} {content : ByteArray} {file : FileEntry} :
    file ∈ (tree.write path content).files ↔
      (file ∈ tree.files ∧ file.path ≠ path) ∨ file = ⟨path, content⟩ := by
  simp only [write, List.mem_append, List.mem_filter, decide_eq_true_eq, List.mem_singleton]

theorem FileTree.read_eq_some {path : RelativePath} {content : ByteArray} :
    tree.read path = some content ↔ ⟨path, content⟩ ∈ tree.files := by
  rw [read, Option.map_eq_some_iff]
  constructor
  · rintro ⟨file, found, rfl⟩
    obtain ⟨member, rfl⟩ := Table.mem_of_lookup found
    exact member
  · exact fun member => ⟨_, tree.keyed.lookup_of_mem member, rfl⟩

def FileTree.Plain (tree : FileTree) : Prop :=
  ∀ file ∈ tree.files, file.path ≠ [] → Checkpoint.Plain file.path

/-- A character that is written and read back. -/
def PathChar.Legal (character : PathChar) : Prop :=
  ∃ own, character = .char own ∧ isLineBreak own = false ∧ own ≠ '\\'

theorem exists_text {chars : List PathChar} (legal : ∀ character ∈ chars, character.Legal) :
    ∃ text, chars = ofText text ∧ ∀ character ∈ text, isLineBreak character = false ∧
      character ≠ '\\' := by
  induction chars with
  | nil => exact ⟨[], rfl, List.forall_mem_nil _⟩
  | cons first chars induction =>
      obtain ⟨⟨own, rfl, ownLegal⟩, rest⟩ := List.forall_mem_cons.mp legal
      obtain ⟨text, rfl, textLegal⟩ := induction rest
      exact ⟨own :: text, rfl, List.forall_mem_cons.mpr ⟨ownLegal, textLegal⟩⟩

theorem plain_iff {path : RelativePath} :
    Plain path ↔ ∀ name ∈ path, ∀ character ∈ name.chars, character.Legal := by
  constructor
  · rintro ⟨text, written, legal⟩ name member character inside
    have there : character ∈ asPosix path :=
      Lines.mem_intercalate_of_mem (List.mem_map_of_mem member) inside
    rw [written] at there
    obtain ⟨own, known, rfl⟩ := List.mem_map.mp there
    exact ⟨own, rfl, legal own known⟩
  · intro legal
    refine exists_text fun character member => ?_
    rcases Lines.mem_intercalate member with rfl | ⟨chars, there, inside⟩
    · exact ⟨'/', rfl, by decide, by decide⟩
    · obtain ⟨name, known, rfl⟩ := List.mem_map.mp there
      exact legal name known character inside

theorem Plain.of_append {directory path : RelativePath} (plain : Plain (directory ++ path)) :
    Plain path :=
  plain_iff.mpr fun name member => plain_iff.mp plain name (List.mem_append_right _ member)

theorem plain_plainName {text : List Char} (legal : (text.all fun character =>
    !isLineBreak character && character != '\\') = true) (proper) :
    ∀ character ∈ (plainName text proper).chars, character.Legal := by
  intro character member
  obtain ⟨own, there, rfl⟩ := List.mem_map.mp member
  have known := List.all_eq_true.mp legal own there
  exact ⟨own, rfl, by simpa using known⟩

theorem plain_manifest {path : RelativePath}
    (own : path = outerManifest ∨ path = runtimeDirectory ++ [sums] ∨
      path = commitDirectory ++ [sums]) : Plain path := by
  have names : ∀ name ∈ [ops, evidence, runtime, commit, sums], ∀ character ∈ name.chars,
      character.Legal := by
    simp only [List.forall_mem_cons]
    exact ⟨plain_plainName (by decide) _, plain_plainName (by decide) _,
      plain_plainName (by decide) _, plain_plainName (by decide) _, plain_plainName (by decide) _,
      List.forall_mem_nil _⟩
  refine plain_iff.mpr fun name member => names name ?_
  rcases own with rfl | rfl | rfl
  · simp only [outerManifest, List.mem_cons, List.not_mem_nil, or_false] at member ⊢
    tauto
  · simp only [runtimeDirectory, List.cons_append, List.nil_append, List.mem_cons,
      List.not_mem_nil, or_false] at member ⊢
    tauto
  · simp only [commitDirectory, List.cons_append, List.nil_append, List.mem_cons,
      List.not_mem_nil, or_false] at member ⊢
    tauto

/-- The manifest lists the files of its directory exactly. -/
def Exact (sha256 : FileDigest) (tree : FileTree) (directory manifest : RelativePath) : Prop :=
  ∃ content entries, tree.read (directory ++ manifest) = some content ∧
    parseManifest (asPosix (directory ++ manifest)) content = .ok entries ∧
      sha256.Lists entries (manifestFiles tree directory manifest)

/-- The files that a manifest lists do not change when another one is written. -/
theorem mem_manifestFiles_write {directory manifest path : RelativePath} {content : ByteArray}
    (outside : path = directory ++ manifest ∨ ∀ relative, directory ++ relative ≠ path)
    {file : FileEntry} : file ∈ manifestFiles (tree.write path content) directory manifest ↔
      file ∈ manifestFiles tree directory manifest := by
  rw [mem_manifestFiles, mem_manifestFiles, FileTree.mem_write]
  constructor
  · rintro ⟨⟨stored, -⟩ | same, nonempty, apart⟩
    · exact ⟨stored, nonempty, apart⟩
    · have there : directory ++ file.path = path := congrArg FileEntry.path same
      rcases outside with rfl | never
      · exact absurd (List.append_cancel_left there) apart
      · exact absurd there (never _)
  · rintro ⟨stored, nonempty, apart⟩
    refine ⟨.inl ⟨stored, fun there => ?_⟩, nonempty, apart⟩
    rcases outside with rfl | never
    · exact apart (List.append_cancel_left there)
    · exact never _ there

theorem FileDigest.Lists.congr {entries : List ManifestEntry} {files others : List FileEntry}
    (lists : sha256.Lists entries files) (same : ∀ file, file ∈ others ↔ file ∈ files) :
    sha256.Lists entries others where
  keyed := lists.keyed
  listed file member := lists.listed file ((same file).mp member)
  real entry member := by
    obtain ⟨file, there, written⟩ := lists.real entry member
    exact ⟨file, (same file).mpr there, written⟩

theorem Exact.write {directory manifest path : RelativePath}
    (exact' : Exact sha256 tree directory manifest)
    (outside : ∀ relative, directory ++ relative ≠ path) (content : ByteArray) :
    Exact sha256 (tree.write path content) directory manifest := by
  obtain ⟨written, entries, found, parsed, lists⟩ := exact'
  refine ⟨written, entries, ?_, parsed, lists.congr fun file =>
    mem_manifestFiles_write (.inr outside)⟩
  rw [FileTree.read_eq_some] at found ⊢
  exact FileTree.mem_write.mpr (.inl ⟨found, outside manifest⟩)

/-- What `_write_manifest` does. -/
theorem writeManifest_eq_ok {directory manifest : RelativePath}
    (written : sha256.writeManifest tree directory manifest = .ok next) :
    manifestFiles tree directory manifest ≠ [] ∧
      ∃ content, sha256.manifestContent (manifestFiles tree directory manifest) = .ok content ∧
        next = tree.write (directory ++ manifest) content := by
  unfold writeManifest at written
  dsimp only at written
  split at written
  · cases written
  · next nonempty =>
    simp only [bind_eq_ok, pure_eq_ok] at written
    obtain ⟨content, encoded, rfl⟩ := written
    exact ⟨by simpa using nonempty, content, encoded, rfl⟩

theorem exact_of_manifestContent {directory manifest : RelativePath} {content : ByteArray}
    (plain : ∀ file ∈ manifestFiles tree directory manifest, Checkpoint.Plain file.path)
    (nonempty : manifestFiles tree directory manifest ≠ [])
    (encoded : sha256.manifestContent (manifestFiles tree directory manifest) = .ok content) :
    Exact sha256 (tree.write (directory ++ manifest) content) directory manifest := by
  obtain ⟨same, entries, again, parsed, lists⟩ := (sha256.manifest_exact_iff tree directory manifest
    (asPosix (directory ++ manifest))).mpr ⟨nonempty, plain⟩
  obtain rfl : content = same := Except.ok.inj (encoded.symm.trans again)
  refine ⟨content, entries, FileTree.read_eq_some.mpr (FileTree.mem_write.mpr (.inr rfl)), parsed,
    lists.congr fun file => mem_manifestFiles_write (.inl rfl)⟩

theorem FileTree.Plain.write {path : RelativePath} {content : ByteArray} (plain : tree.Plain)
    (own : Checkpoint.Plain path) : (tree.write path content).Plain := by
  intro file member nonempty
  rcases FileTree.mem_write.mp member with ⟨stored, -⟩ | rfl
  · exact plain file stored nonempty
  · exact own

theorem FileTree.Plain.writeManifest {directory manifest : RelativePath} (plain : tree.Plain)
    (own : Checkpoint.Plain (directory ++ manifest))
    (written : sha256.writeManifest tree directory manifest = .ok next) :
    next.Plain ∧ Exact sha256 next directory manifest ∧
      ∃ content, next = tree.write (directory ++ manifest) content := by
  obtain ⟨nonempty, content, encoded, rfl⟩ := writeManifest_eq_ok written
  refine ⟨plain.write own, exact_of_manifestContent (fun file member => ?_) nonempty encoded,
    content, rfl⟩
  obtain ⟨stored, below, -⟩ := mem_manifestFiles.mp member
  exact (plain _ stored (List.append_ne_nil_of_right_ne_nil _ below)).of_append

theorem plain_of_verifyOuterManifest {entries : List ManifestEntry}
    (verified : sha256.verifyOuterManifest tree = .ok entries) : tree.Plain := by
  simp only [verifyOuterManifest, bind_eq_ok] at verified
  obtain ⟨content, -, found, parsed, verified⟩ := verified
  split at verified
  · cases verified
  · next covered =>
    obtain ⟨-, listed⟩ := not_not.mp covered
    intro file member nonempty
    by_cases outer : file.path = outerManifest
    · exact outer ▸ plain_manifest (.inl rfl)
    · have payload : file ∈ (tree.below []).filter (·.path ≠ outerManifest) :=
        List.mem_filter.mpr ⟨FileTree.mem_below.mpr ⟨member, nonempty⟩, decide_eq_true outer⟩
      obtain ⟨entry, there, same⟩ := List.mem_map.mp (listed (List.mem_map_of_mem payload))
      exact ⟨entry.relativePath, same.symm, (plain_of_parseManifest parsed).2 entry there⟩

/-- The manifests that are written for a candidate: the directory and the name below it. -/
inductive WritesManifest (candidate : FileTree) : RelativePath → RelativePath → Prop where
  | runtime : WritesManifest candidate runtimeDirectory [sums]
  | commit (present : commitDirectory ∈ candidate.directories) :
      WritesManifest candidate commitDirectory [sums]
  | outer : WritesManifest candidate [] outerManifest

theorem runtime_outside_commit (relative : RelativePath) :
    runtimeDirectory ++ relative ≠ commitDirectory ++ [sums] := fun same =>
  absurd (List.cons.inj (List.cons.inj (List.cons.inj same).2).2).1 (by decide)

theorem runtime_outside_outer (relative : RelativePath) :
    runtimeDirectory ++ relative ≠ [] ++ outerManifest := fun same =>
  absurd (List.cons.inj (List.cons.inj same).2).1 (by decide)

theorem commit_outside_outer (relative : RelativePath) :
    commitDirectory ++ relative ≠ [] ++ outerManifest := fun same =>
  absurd (List.cons.inj (List.cons.inj same).2).1 (by decide)

theorem finalizeManifests_exact {candidate staged : FileTree} {stagingRoot : List PathChar}
    {directory manifest : RelativePath}
    (finalized : sha256.finalizeManifests candidate stagingRoot = .ok staged)
    (writes : WritesManifest candidate directory manifest) :
    Exact sha256 staged directory manifest := by
  simp only [finalizeManifests, bind_eq_ok] at finalized
  obtain ⟨entries, verified, _, -, first, runtimeWritten, finalized⟩ := finalized
  have plain : FileTree.Plain { candidate with root := stagingRoot } :=
    plain_of_verifyOuterManifest verified
  obtain ⟨firstPlain, runtimeExact, content, rfl⟩ :=
    plain.writeManifest (plain_manifest (.inr (.inl rfl))) runtimeWritten
  split at finalized
  · simp only [bind_eq_ok] at finalized
    obtain ⟨_, -, second, commitWritten, outerWritten⟩ := finalized
    obtain ⟨secondPlain, commitExact, commitContent, rfl⟩ :=
      firstPlain.writeManifest (plain_manifest (.inr (.inr rfl))) commitWritten
    obtain ⟨-, outerExact, outerContent, rfl⟩ :=
      secondPlain.writeManifest (plain_manifest (.inl rfl)) outerWritten
    cases writes with
    | runtime =>
        exact (runtimeExact.write runtime_outside_commit commitContent).write
          runtime_outside_outer outerContent
    | commit present => exact commitExact.write commit_outside_outer outerContent
    | outer => exact outerExact
  · next absent =>
    obtain ⟨-, outerExact, outerContent, rfl⟩ :=
      firstPlain.writeManifest (plain_manifest (.inl rfl)) finalized
    cases writes with
    | runtime => exact runtimeExact.write runtime_outside_outer outerContent
    | commit present => exact absurd (.inl present) absent
    | outer => exact outerExact

theorem writeOuterManifest_exact {entries : List ManifestEntry}
    (written : sha256.writeOuterManifest tree outerManifest = .ok next)
    (verified : sha256.verifyOuterManifest next = .ok entries) :
    Exact sha256 next [] outerManifest := by
  unfold writeOuterManifest at written
  dsimp only at written
  split at written
  · cases written
  · next nonempty =>
    simp only [bind_eq_ok, pure_eq_ok] at written
    obtain ⟨content, encoded, rfl⟩ := written
    have plain : ∀ file ∈ manifestFiles tree [] outerManifest, Plain file.path := by
      intro file member
      obtain ⟨stored, below, apart⟩ := mem_manifestFiles.mp member
      exact plain_of_verifyOuterManifest verified _
        (FileTree.mem_write.mpr (.inl ⟨stored, apart⟩)) below
    exact exact_of_manifestContent plain (fun none => nonempty (List.isEmpty_iff.mpr none)) encoded

/-- The manifests of accepted checkpoints are read back as the exact map from paths to digests.
Without the check of the candidate, a manifest is read back exactly when its paths are plain. -/
theorem checkpointManifests_exact (sha256 : FileDigest) :
    (∀ candidate stagingRoot staged, sha256.finalizeManifests candidate stagingRoot = .ok staged →
      ∀ directory manifest, WritesManifest candidate directory manifest →
        Exact sha256 staged directory manifest) ∧
    (∀ tree next entries, sha256.writeOuterManifest tree outerManifest = .ok next →
      sha256.verifyOuterManifest next = .ok entries → Exact sha256 next [] outerManifest) ∧
    ∀ tree directory manifest path,
      (∃ content entries, sha256.manifestContent (manifestFiles tree directory manifest) =
            .ok content ∧ parseManifest path content = .ok entries ∧
          sha256.Lists entries (manifestFiles tree directory manifest)) ↔
        manifestFiles tree directory manifest ≠ [] ∧
          ∀ file ∈ manifestFiles tree directory manifest, Plain file.path :=
  ⟨fun _ _ _ finalized _ _ => finalizeManifests_exact finalized,
    fun _ _ _ => writeOuterManifest_exact, sha256.manifest_exact_iff⟩

end VoodooOne.Checkpoint
