import VoodooOne.Checkpoint.Manifest

/-!
# Manifests read back

The manifest of a set of files is read back exactly when no path has a line break, a backslash or a
byte that is not UTF-8.  The finalizer checks the candidate against its own outer manifest first, so
what it writes is always read back.
-/

namespace VoodooOne.Checkpoint

variable {text : List Char} {path : RelativePath} {digest : String}

theorem toText?_eq_some {path : List PathChar} : toText? path = some text ↔ path = ofText text := by
  induction path generalizing text with
  | nil => cases text <;> simp [toText?, ofText]
  | cons first path induction =>
      cases first with
      | surrogate byte => cases text <;> simp [toText?, ofText]
      | char character =>
          rw [toText?, Option.map_eq_some_iff]
          constructor
          · rintro ⟨rest, found, rfl⟩
            rw [induction.mp found]
            rfl
          · intro same
            cases text with
            | nil => cases same
            | cons other text =>
                obtain ⟨head, tail⟩ := List.cons.inj same
                exact ⟨text, induction.mpr tail, by rw [PathChar.char.inj head]⟩

theorem splitOn_asPosix (below : path ≠ []) :
    (asPosix path).splitOn (.char '/') = path.map (·.chars) := by
  refine List.splitOn_intercalate _ (fun chars member => ?_) (by simpa using below)
  obtain ⟨name, -, rfl⟩ := List.mem_map.mp member
  exact name.proper.2.1

theorem FileName.chars_injective : Function.Injective FileName.chars := by
  rintro ⟨left, _⟩ ⟨right, _⟩ rfl
  rfl

theorem asPosix_injective {left right : RelativePath} (leftBelow : left ≠ [])
    (rightBelow : right ≠ []) (same : asPosix left = asPosix right) : left = right := by
  have parts := congrArg (List.splitOn (.char '/')) same
  rw [splitOn_asPosix leftBelow, splitOn_asPosix rightBelow] at parts
  exact List.map_injective_iff.mpr FileName.chars_injective parts

/-- A path whose text stands on one line of a manifest and is read as it is written. -/
def Plain (path : RelativePath) : Prop :=
  ∃ text, asPosix path = ofText text ∧ ∀ character ∈ text, isLineBreak character = false ∧
    character ≠ '\\'

theorem parts_asPosix (below : path ≠ []) (written : asPosix path = ofText text) {part : List Char}
    (member : part ∈ text.splitOn '/') :
    part ≠ [] ∧ part ≠ ['.'] ∧ part ≠ ['.', '.'] ∧ Char.ofNat 0 ∉ part := by
  have parts : (text.splitOn '/').map ofText = path.map (·.chars) := by
    rw [← splitOn_asPosix below, written]
    exact (Lines.splitOn_map (fun _ _ same => PathChar.char.inj same) '/' text).symm
  have there : ofText part ∈ path.map (·.chars) := parts ▸ List.mem_map_of_mem member
  obtain ⟨name, -, same⟩ := List.mem_map.mp there
  obtain ⟨nonempty, -, noNull, notDot, notDots⟩ := name.proper
  rw [same] at nonempty noNull notDot notDots
  exact ⟨fun none => nonempty (none ▸ rfl), fun dot => notDot (dot ▸ rfl),
    fun dots => notDots (dots ▸ rfl), fun null => noNull (List.mem_map_of_mem null)⟩

theorem safeRelativeParts_asPosix (below : path ≠ []) (written : asPosix path = ofText text)
    (plain : '\\' ∉ text) :
    safeRelativeParts text = .ok (text.splitOn '/') := by
  have proper : ∀ {part : List Char}, part ∈ text.splitOn '/' → part ≠ [] ∧ part ≠ ['.'] ∧
      part ≠ ['.', '.'] ∧ Char.ofNat 0 ∉ part := parts_asPosix below written
  have nonempty : text ≠ [] := by
    rintro rfl
    exact (proper (List.mem_singleton_self [])).1 rfl
  have noNull : Char.ofNat 0 ∉ text := by
    intro null
    rw [← (List.intercalate_splitOn '/' : List.intercalate ['/'] (text.splitOn '/') = text)] at null
    rcases Lines.mem_intercalate null with slash | ⟨part, member, inside⟩
    · exact absurd slash (by decide)
    · exact (proper member).2.2.2 inside
  have kept : (text.splitOn '/').filter (fun part => part ≠ [] ∧ part ≠ ['.']) =
      text.splitOn '/' :=
    List.filter_eq_self.mpr fun part member =>
      decide_eq_true ⟨(proper member).1, (proper member).2.1⟩
  have relative : text.head? ≠ some '/' := by
    cases text with
    | nil => exact absurd rfl nonempty
    | cons first text =>
        intro absolute
        obtain rfl := Option.some.inj absolute
        have root : [] ∈ ('/' :: text).splitOn '/' := by
          rw [List.splitOn_cons_eq_if_modifyHead, if_pos (beq_self_eq_true '/')]
          exact List.mem_cons_self
        exact (proper root).1 rfl
  rw [safeRelativeParts, if_neg (by tauto)]
  dsimp only
  rw [kept, if_neg]
  rintro (absolute | none | dots)
  · exact relative absolute
  · exact List.splitOn_ne_nil _ _ none
  · exact (proper dots).2.2.1 rfl

theorem isLineBreak_of_isDigest (isDigest : IsDigest digest) {character : Char}
    (member : character ∈ digest.toList) : isLineBreak character = false := by
  have plain : ("0123456789abcdef".toList.all fun character => !isLineBreak character) = true := by
    decide
  simpa using List.all_eq_true.mp plain character (isDigest.2 character member)

theorem matchManifestLine_append (isDigest : IsDigest digest) (nonempty : text ≠ []) :
    matchManifestLine (digest.toList ++ [' ', ' '] ++ text) = some (digest, text) := by
  have length : digest.toList.length = 64 := isDigest.1
  obtain ⟨first, rest, rfl⟩ := List.exists_cons_of_ne_nil nonempty
  rw [matchManifestLine, List.append_assoc, List.drop_left' length, List.take_left' length,
    String.ofList_toList]
  simp [isDigest]

theorem mem_of_matchManifestLine {line path : List Char}
    (matched : matchManifestLine line = some (digest, path)) {character : Char}
    (member : character ∈ path) : character ∈ line := by
  unfold matchManifestLine at matched
  split at matched
  · next first rest dropped =>
    split at matched
    · obtain ⟨-, rfl⟩ := Prod.mk.inj (Option.some.inj matched)
      refine List.mem_of_mem_drop (i := 64) ?_
      rw [dropped]
      exact List.mem_cons_of_mem _ (List.mem_cons_of_mem _ member)
    · cases matched
  · cases matched

theorem safeRelativeParts_eq_ok {path : List Char} {parts : List (List Char)}
    (safe : safeRelativeParts path = .ok parts) :
    '\\' ∉ path ∧ ∀ part ∈ parts, ∀ character ∈ part, character ∈ path := by
  unfold safeRelativeParts at safe
  split at safe
  · cases safe
  · next legal =>
    dsimp only at safe
    split at safe
    · cases safe
    · obtain rfl := Except.ok.inj safe
      refine ⟨fun member => legal (.inr (.inr member)), fun part member character inside => ?_⟩
      rw [← (List.intercalate_splitOn '/' : List.intercalate ['/'] (path.splitOn '/') = path)]
      exact Lines.mem_intercalate_of_mem (List.mem_filter.mp member).1 inside

theorem plain_of_parseManifestLines {path : List PathChar} {number : Nat}
    {seen lines : List (List Char)} {entries : List ManifestEntry}
    (parsed : parseManifestLines path number seen lines = .ok entries)
    (unbroken : ∀ line ∈ lines, ∀ character ∈ line, isLineBreak character = false) :
    ∀ entry ∈ entries, ∀ character ∈ entry.relativePath, isLineBreak character = false ∧
      character ≠ '\\' := by
  induction lines generalizing number seen entries with
  | nil =>
      obtain rfl := Except.ok.inj parsed
      exact List.forall_mem_nil _
  | cons line lines induction =>
      obtain ⟨unbrokenLine, unbrokenRest⟩ := List.forall_mem_cons.mp unbroken
      rw [parseManifestLines] at parsed
      split at parsed
      · cases parsed
      · next digest relative matched =>
        simp only [bind_eq_ok] at parsed
        obtain ⟨parts, safe, parsed⟩ := parsed
        split at parsed
        · cases parsed
        · simp only [bind_eq_ok, pure_eq_ok] at parsed
          obtain ⟨rest, later, rfl⟩ := parsed
          refine List.forall_mem_cons.mpr ⟨fun character member => ?_, induction later unbrokenRest⟩
          obtain ⟨noBackslash, inside⟩ := safeRelativeParts_eq_ok safe
          rcases Lines.mem_intercalate member with rfl | ⟨part, there, own⟩
          · exact ⟨by decide, by decide⟩
          · have known := inside part there character own
            exact ⟨unbrokenLine character (mem_of_matchManifestLine matched known),
              fun same => noBackslash (same ▸ known)⟩

namespace FileDigest

variable (sha256 : FileDigest)

def entry (file : FileEntry) : ManifestEntry where
  digest := sha256.hexdigest file.content
  relativePath := (toText? (asPosix file.path)).getD []

variable {file : FileEntry}

theorem entry_relativePath {text : List Char} (written : asPosix file.path = ofText text) :
    (sha256.entry file).relativePath = text := by
  rw [entry, toText?_eq_some.mpr written, Option.getD_some]

def line (file : FileEntry) : List Char :=
  (sha256.entry file).digest.toList ++ [' ', ' '] ++ (sha256.entry file).relativePath

theorem manifestLine_eq (plain : Plain file.path) :
    sha256.manifestLine file = ofText (sha256.line file) := by
  obtain ⟨text, written, -⟩ := plain
  rw [manifestLine, line, sha256.entry_relativePath written, written]
  simp [ofText, entry]

theorem unbroken_line (plain : Plain file.path) :
    ∀ character ∈ sha256.line file, isLineBreak character = false := by
  obtain ⟨text, written, legal⟩ := plain
  intro character member
  rw [line, sha256.entry_relativePath written] at member
  rcases List.mem_append.mp member with start | path
  · rcases List.mem_append.mp start with digest | space
    · exact isLineBreak_of_isDigest (sha256.isDigest _) digest
    · obtain rfl : character = ' ' := by simpa using space
      decide
  · exact (legal character path).1

theorem parseManifestLines_line (path : List PathChar) {files : List FileEntry} (number : Nat)
    (seen : List (List Char)) (below : ∀ file ∈ files, file.path ≠ [])
    (plain : ∀ file ∈ files, Plain file.path)
    (unseen : ∀ file ∈ files, (sha256.entry file).relativePath ∉ seen)
    (distinct : (files.map fun file => (sha256.entry file).relativePath).Nodup) :
    parseManifestLines path number seen (files.map sha256.line) = .ok (files.map sha256.entry) := by
  induction files generalizing number seen with
  | nil => rfl
  | cons file files induction =>
      obtain ⟨belowFile, belowRest⟩ := List.forall_mem_cons.mp below
      obtain ⟨⟨text, written, legal⟩, plainRest⟩ := List.forall_mem_cons.mp plain
      obtain ⟨unseenFile, unseenRest⟩ := List.forall_mem_cons.mp unseen
      rw [List.map_cons, List.nodup_cons] at distinct
      have same := sha256.entry_relativePath written
      have nonempty : text ≠ [] := by
        rintro rfl
        exact (parts_asPosix belowFile written (List.mem_singleton_self [])).1 rfl
      have later := induction (number + 1) ((sha256.entry file).relativePath :: seen) belowRest
        plainRest (fun other member known => by
          rcases List.mem_cons.mp known with equal | known
          · exact distinct.1 (equal ▸ List.mem_map_of_mem member)
          · exact unseenRest other member known) distinct.2
      have matched : matchManifestLine (sha256.line file) =
          some ((sha256.entry file).digest, text) := by
        rw [line, same]
        exact matchManifestLine_append (sha256.isDigest _) nonempty
      rw [List.map_cons, parseManifestLines, matched]
      dsimp only
      rw [safeRelativeParts_asPosix belowFile written fun backslash =>
        (legal _ backslash).2 rfl, ok_bind, List.intercalate_splitOn, ← same, if_neg unseenFile,
          later, ok_bind]
      rfl

theorem manifestContent_eq {files : List FileEntry} (nonempty : files ≠ [])
    (plain : ∀ file ∈ files, Plain file.path) :
    sha256.manifestContent files =
      .ok (String.ofList (Lines.join '\n' (files.map sha256.line))).toUTF8 := by
  have lines : files.map (sha256.manifestLine) = (files.map sha256.line).map ofText := by
    rw [List.map_map]
    exact List.map_congr_left fun file member => sha256.manifestLine_eq (plain file member)
  have text : List.intercalate (ofText ['\n']) (files.map sha256.manifestLine) ++ ofText ['\n'] =
      ofText (Lines.join '\n' (files.map sha256.line)) := by
    refine (Lines.intercalate_append (PathChar.char '\n') (files.map sha256.manifestLine)
      (by simpa using nonempty)).trans ?_
    rw [lines]
    exact (Lines.map_join PathChar.char '\n' _).symm
  rw [manifestContent, text, toText?_eq_some.mpr rfl]

end FileDigest

theorem universalNewlines_eq (unreturned : '\r' ∉ text) : universalNewlines text = text := by
  induction text with
  | nil => rfl
  | cons first text induction =>
      obtain ⟨notReturn, rest⟩ := not_or.mp (mt List.mem_cons.mpr unreturned)
      rw [universalNewlines, induction rest]
      · rintro _ rfl
        exact absurd rfl notReturn
      · rintro rfl
        exact absurd rfl notReturn

theorem fromUTF8?_toUTF8 (text : String) : String.fromUTF8? text.toUTF8 = some text := by
  simp [String.fromUTF8?, String.fromUTF8, text.isValidUTF8]

instance : Std.Total PosixLe := ⟨fun left _ => le_total (left.map (·.point)) _⟩

instance : IsTrans (List PathChar) PosixLe :=
  ⟨fun _ _ _ first second => le_trans (α := List Nat) first second⟩

namespace FileDigest

variable (sha256 : FileDigest)

theorem parseManifest_manifestContent (path : List PathChar) {files : List FileEntry}
    (nonempty : files ≠ []) (below : ∀ file ∈ files, file.path ≠ [])
    (plain : ∀ file ∈ files, Plain file.path) (keyed : Table.Keyed FileEntry.path files)
    (sorted : files.Pairwise fun left right => PosixLe (asPosix left.path) (asPosix right.path)) :
    ∃ content, sha256.manifestContent files = .ok content ∧
      parseManifest path content = .ok (files.map sha256.entry) := by
  refine ⟨_, sha256.manifestContent_eq nonempty plain, ?_⟩
  have unbroken : ∀ line ∈ files.map sha256.line, ∀ character ∈ line,
      isLineBreak character = false := by
    intro line member
    obtain ⟨file, there, rfl⟩ := List.mem_map.mp member
    exact sha256.unbroken_line (plain file there)
  have unreturned : '\r' ∉ Lines.join '\n' (files.map sha256.line) := by
    intro member
    rcases Lines.mem_join member with ending | ⟨line, there, inside⟩
    · exact absurd ending (by decide)
    · exact absurd (unbroken line there _ inside) (by decide)
  have written : ∀ file ∈ files, asPosix file.path = ofText (sha256.entry file).relativePath := by
    intro file member
    obtain ⟨text, same, -⟩ := plain file member
    rw [sha256.entry_relativePath same, same]
  have distinct : (files.map fun file => (sha256.entry file).relativePath).Nodup := by
    refine List.Nodup.map_on (fun left leftMember right rightMember same => ?_) keyed.of_map
    refine keyed.unique leftMember rightMember
      (asPosix_injective (below left leftMember) (below right rightMember) ?_)
    rw [written left leftMember, written right rightMember, same]
  have paths : (files.map sha256.entry).map (fun entry => ofText entry.relativePath) =
      files.map fun file => asPosix file.path := by
    rw [List.map_map]
    exact List.map_congr_left fun file member => (written file member).symm
  have inOrder : (files.map fun file => asPosix file.path).insertionSort PosixLe =
      files.map fun file => asPosix file.path :=
    List.Pairwise.insertionSort_eq (List.pairwise_map.mpr sorted)
  rw [parseManifest, fromUTF8?_toUTF8]
  dsimp only
  rw [String.toList_ofList, universalNewlines_eq unreturned,
    Lines.split_join unbroken (by decide), sha256.parseManifestLines_line path 1 [] below plain
      (fun _ _ => List.not_mem_nil) distinct, ok_bind, if_neg (by simpa using nonempty), paths,
      inOrder, if_neg (not_not.mpr rfl)]
  rfl

end FileDigest

theorem relativeTo_eq_some {directory path relative : RelativePath} :
    relativeTo directory path = some relative ↔ path = directory ++ relative ∧ relative ≠ [] := by
  induction directory generalizing path with
  | nil =>
      cases path with
      | nil =>
          simp only [relativeTo, reduceCtorEq, List.nil_append, false_iff, not_and, not_not]
          exact Eq.symm
      | cons name path =>
          simp only [relativeTo, Option.some.injEq, List.nil_append]
          exact ⟨fun same => ⟨same, same ▸ List.cons_ne_nil _ _⟩, And.left⟩
  | cons name directory induction =>
      cases path with
      | nil => simp [relativeTo]
      | cons first path =>
          by_cases same : name = first
          · subst same
            simp [relativeTo, induction]
          · have other : first ≠ name := fun equal => same equal.symm
            simp [relativeTo, same, other]

theorem FileTree.mem_below {tree : FileTree} {directory : RelativePath} {file : FileEntry} :
    file ∈ tree.below directory ↔
      ⟨directory ++ file.path, file.content⟩ ∈ tree.files ∧ file.path ≠ [] := by
  simp only [below, List.mem_filterMap, Option.map_eq_some_iff, relativeTo_eq_some]
  constructor
  · rintro ⟨stored, member, relative, ⟨same, nonempty⟩, rfl⟩
    exact ⟨same ▸ member, nonempty⟩
  · rintro ⟨member, nonempty⟩
    exact ⟨_, member, file.path, ⟨rfl, nonempty⟩, rfl⟩

theorem FileTree.keyed_below (tree : FileTree) (directory : RelativePath) :
    Table.Keyed FileEntry.path (tree.below directory) := by
  have distinct : tree.files.Pairwise fun left right => left.path ≠ right.path :=
    List.pairwise_map.mp tree.keyed
  refine List.pairwise_map.mpr (List.pairwise_filterMap.mpr (distinct.imp ?_))
  intro left right apart leftFile leftFound rightFile rightFound same
  obtain ⟨leftPath, leftRelative, rfl⟩ := Option.map_eq_some_iff.mp leftFound
  obtain ⟨rightPath, rightRelative, rfl⟩ := Option.map_eq_some_iff.mp rightFound
  refine apart ?_
  rw [(relativeTo_eq_some.mp leftRelative).1, (relativeTo_eq_some.mp rightRelative).1]
  exact congrArg _ same

namespace FileDigest

theorem mem_manifestFiles {tree : FileTree} {directory manifest : RelativePath} {file : FileEntry} :
    file ∈ manifestFiles tree directory manifest ↔
      ⟨directory ++ file.path, file.content⟩ ∈ tree.files ∧ file.path ≠ [] ∧
        file.path ≠ manifest := by
  rw [manifestFiles, (List.perm_insertionSort _ _).mem_iff, List.mem_filter, FileTree.mem_below,
    decide_eq_true_eq, and_assoc]

theorem keyed_manifestFiles (tree : FileTree) (directory manifest : RelativePath) :
    Table.Keyed FileEntry.path (manifestFiles tree directory manifest) := by
  have kept : Table.Keyed FileEntry.path
      ((tree.below directory).filter (·.path ≠ manifest)) :=
    (tree.keyed_below directory).sublist (List.filter_sublist.map _)
  exact ((List.perm_insertionSort _ _).map _).nodup_iff.mpr kept

theorem sorted_manifestFiles (tree : FileTree) (directory manifest : RelativePath) :
    (manifestFiles tree directory manifest).Pairwise fun left right =>
      PosixLe (asPosix left.path) (asPosix right.path) := by
  have total : Std.Total fun left right : FileEntry =>
      PosixLe (asPosix left.path) (asPosix right.path) :=
    ⟨fun left right => Std.Total.total (r := PosixLe) (asPosix left.path) (asPosix right.path)⟩
  have trans : IsTrans FileEntry fun left right : FileEntry =>
      PosixLe (asPosix left.path) (asPosix right.path) :=
    ⟨fun _ _ _ first second => IsTrans.trans (r := PosixLe) _ _ _ first second⟩
  exact List.pairwise_insertionSort _ _

variable (sha256 : FileDigest)

/-- The entries are exactly the files, each with its path and digest. -/
structure Lists (entries : List ManifestEntry) (files : List FileEntry) : Prop where
  keyed : Table.Keyed (·.relativePath) entries
  /-- No file is lost. -/
  listed : ∀ file ∈ files, ∃ entry ∈ entries, asPosix file.path = ofText entry.relativePath ∧
    entry.digest = sha256.hexdigest file.content
  /-- No path is added, and no digest is altered. -/
  real : ∀ entry ∈ entries, ∃ file ∈ files, asPosix file.path = ofText entry.relativePath ∧
    entry.digest = sha256.hexdigest file.content

theorem lists_entries {files : List FileEntry} (below : ∀ file ∈ files, file.path ≠ [])
    (plain : ∀ file ∈ files, Plain file.path) (keyed : Table.Keyed FileEntry.path files) :
    sha256.Lists (files.map sha256.entry) files := by
  have written : ∀ file ∈ files, asPosix file.path = ofText (sha256.entry file).relativePath := by
    intro file member
    obtain ⟨text, same, -⟩ := plain file member
    rw [sha256.entry_relativePath same, same]
  refine ⟨?_, fun file member => ⟨_, List.mem_map_of_mem member, written file member, rfl⟩, ?_⟩
  · rw [Table.Keyed, List.map_map]
    refine List.Nodup.map_on (fun left leftMember right rightMember same => ?_) keyed.of_map
    refine keyed.unique leftMember rightMember
      (asPosix_injective (below left leftMember) (below right rightMember) ?_)
    rw [written left leftMember, written right rightMember]
    exact congrArg ofText same
  · intro entry member
    obtain ⟨file, there, rfl⟩ := List.mem_map.mp member
    exact ⟨file, there, written file there, rfl⟩

theorem plain_of_parseManifest {path : List PathChar} {content : ByteArray}
    {entries : List ManifestEntry} (parsed : parseManifest path content = .ok entries) :
    entries ≠ [] ∧ ∀ entry ∈ entries, ∀ character ∈ entry.relativePath,
      isLineBreak character = false ∧ character ≠ '\\' := by
  unfold parseManifest at parsed
  split at parsed
  · cases parsed
  · next text decoded =>
    simp only [bind_eq_ok] at parsed
    obtain ⟨found, lines, parsed⟩ := parsed
    split at parsed
    · cases parsed
    · next nonempty =>
      split at parsed
      · cases parsed
      · obtain rfl := Except.ok.inj parsed
        exact ⟨nonempty, plain_of_parseManifestLines lines fun line member character inside =>
          (Lines.mem_of_mem_split member inside).2⟩

/-- A manifest is read back exactly when there is a file to list and every path is plain. -/
theorem manifest_exact_iff (tree : FileTree) (directory manifest : RelativePath)
    (path : List PathChar) :
    (∃ content entries, sha256.manifestContent (manifestFiles tree directory manifest) =
          .ok content ∧ parseManifest path content = .ok entries ∧
        sha256.Lists entries (manifestFiles tree directory manifest)) ↔
      manifestFiles tree directory manifest ≠ [] ∧
        ∀ file ∈ manifestFiles tree directory manifest, Plain file.path := by
  constructor
  · rintro ⟨content, entries, -, parsed, lists⟩
    obtain ⟨nonempty, plain⟩ := plain_of_parseManifest parsed
    constructor
    · obtain ⟨entry, rest, rfl⟩ := List.exists_cons_of_ne_nil nonempty
      obtain ⟨file, member, -⟩ := lists.real entry List.mem_cons_self
      exact List.ne_nil_of_mem member
    · intro file member
      obtain ⟨entry, there, written, -⟩ := lists.listed file member
      exact ⟨entry.relativePath, written, plain entry there⟩
  · rintro ⟨nonempty, plain⟩
    have below : ∀ file ∈ manifestFiles tree directory manifest, file.path ≠ [] :=
      fun file member => (mem_manifestFiles.mp member).2.1
    have keyed := keyed_manifestFiles tree directory manifest
    obtain ⟨content, written, parsed⟩ := sha256.parseManifest_manifestContent path nonempty below
      plain keyed (sorted_manifestFiles tree directory manifest)
    exact ⟨content, _, written, parsed, sha256.lists_entries below plain keyed⟩

end FileDigest

end VoodooOne.Checkpoint
