import VoodooOne.Foundation.Checks
import VoodooOne.Library.Lines
import VoodooOne.Library.Table

/-!
# Checkpoint manifests

A manifest has one line for each file of a directory tree, with its digest and its path.  The format
has no escapes, so a path with a line break or a backslash is not read back.
-/

namespace VoodooOne.Checkpoint

/-- A character of a path, or a byte of a path that is not UTF-8 and is read as a surrogate. -/
inductive PathChar where
  | char (character : Char)
  | surrogate (byte : UInt8)
deriving DecidableEq

/-- The code point by which texts are sorted. -/
def PathChar.point : PathChar → Nat
  | .char character => character.toNat
  | .surrogate byte => 0xDC00 + byte.toNat

def ofText (text : List Char) : List PathChar := text.map .char

/-- The characters, when no byte is left that UTF-8 does not encode. -/
def toText? : List PathChar → Option (List Char)
  | [] => some []
  | .char character :: path => (toText? path).map (character :: ·)
  | .surrogate _ :: _ => none

structure FileName where
  chars : List PathChar
  proper : chars ≠ [] ∧ .char '/' ∉ chars ∧ .char (Char.ofNat 0) ∉ chars ∧
    chars ≠ ofText ['.'] ∧ chars ≠ ofText ['.', '.']
deriving DecidableEq

abbrev RelativePath := List FileName

def asPosix (path : RelativePath) : List PathChar :=
  List.intercalate [.char '/'] (path.map (·.chars))

/-- Paths in the order of their texts. -/
def PosixLe (left right : List PathChar) : Prop := left.map (·.point) ≤ right.map (·.point)

instance : DecidableRel PosixLe := fun left right =>
  inferInstanceAs (Decidable (left.map (·.point) ≤ right.map (·.point)))

def relativeTo : RelativePath → RelativePath → Option RelativePath
  | [], [] => none
  | [], path => some path
  | _ :: _, [] => none
  | name :: directory, first :: path => if name = first then relativeTo directory path else none

structure FileEntry where
  path : RelativePath
  content : ByteArray

/-- A tree of directories and regular files below a root. -/
structure FileTree where
  root : List PathChar
  files : List FileEntry
  directories : List RelativePath
  keyed : Table.Keyed FileEntry.path files

namespace FileTree

def read (tree : FileTree) (path : RelativePath) : Option ByteArray :=
  (Table.lookup FileEntry.path tree.files path).map (·.content)

def write (tree : FileTree) (path : RelativePath) (content : ByteArray) : FileTree where
  root := tree.root
  files := tree.files.filter (·.path ≠ path) ++ [⟨path, content⟩]
  directories := tree.directories
  keyed := by
    have kept : Table.Keyed FileEntry.path (tree.files.filter (·.path ≠ path)) :=
      tree.keyed.sublist (List.filter_sublist.map _)
    exact kept.append fun file member => of_decide_eq_true (List.mem_filter.mp member).2

def absolute (tree : FileTree) (path : RelativePath) : List PathChar :=
  if path = [] then tree.root else tree.root ++ .char '/' :: asPosix path

/-- The files below a directory, by their paths from there. -/
def below (tree : FileTree) (directory : RelativePath) : List FileEntry :=
  tree.files.filterMap fun file =>
    (relativeTo directory file.path).map fun path => ⟨path, file.content⟩

end FileTree

inductive CheckpointError where
  /-- `EvidenceVerificationError`. -/
  | evidence (code message : String) (path : List PathChar)
  /-- `CheckpointFinalizationError`. -/
  | finalization (code message : String) (path : List PathChar)
  /-- `CheckpointCaptureError`. -/
  | capture (code message : String) (path : List PathChar)
  /-- `manifest_coverage_mismatch`, with the missing and unexpected paths. -/
  | coverage (missing unexpected : List (List PathChar))
  /-- `manifest_digest_mismatch`, with the paths. -/
  | mismatch (paths : List (List Char))
  | unicodeEncodeError
  | unicodeDecodeError

structure FileDigest where
  hexdigest : ByteArray → String
  isDigest : ∀ content, IsDigest (hexdigest content)

namespace FileDigest

variable (sha256 : FileDigest)

def manifestLine (file : FileEntry) : List PathChar :=
  ofText (sha256.hexdigest file.content).toList ++ ofText [' ', ' '] ++ asPosix file.path

def manifestFiles (tree : FileTree) (directory manifest : RelativePath) : List FileEntry :=
  ((tree.below directory).filter (·.path ≠ manifest)).insertionSort
    fun left right => PosixLe (asPosix left.path) (asPosix right.path)

def manifestContent (files : List FileEntry) : Except CheckpointError ByteArray :=
  match toText? (List.intercalate (ofText ['\n']) (files.map (manifestLine sha256)) ++
      ofText ['\n']) with
  | some text => .ok (String.ofList text).toUTF8
  | none => .error .unicodeEncodeError

/-- `_write_manifest` of `checkpoint_producer`. -/
def writeManifest (tree : FileTree) (directory manifest : RelativePath) :
    Except CheckpointError FileTree := do
  let files := manifestFiles tree directory manifest
  if files.isEmpty then
    .error (.finalization "manifest_payload_empty"
      "manifest scope must contain at least one payload file" (tree.absolute directory))
  else
    let content ← sha256.manifestContent files
    return tree.write (directory ++ manifest) content

/-- `_write_outer_manifest` of `checkpoint_capture`. -/
def writeOuterManifest (tree : FileTree) (manifest : RelativePath) :
    Except CheckpointError FileTree := do
  let files := manifestFiles tree [] manifest
  if files.isEmpty then
    .error (.capture "capture_io_error" "candidate manifest cannot be empty" tree.root)
  else
    let content ← sha256.manifestContent files
    return tree.write manifest content

end FileDigest

/-- The characters at which `str.splitlines` ends a line. -/
def isLineBreak (character : Char) : Bool :=
  character.toNat ∈ [0x0a, 0x0b, 0x0c, 0x0d, 0x1c, 0x1d, 0x1e, 0x85, 0x2028, 0x2029]

/-- The line endings that `read_text` leaves. -/
def universalNewlines : List Char → List Char
  | [] => []
  | '\r' :: '\n' :: text => '\n' :: universalNewlines text
  | '\r' :: text => '\n' :: universalNewlines text
  | character :: text => character :: universalNewlines text

/-- `_MANIFEST_PATTERN.fullmatch`. -/
def matchManifestLine (line : List Char) : Option (String × List Char) :=
  match line.drop 64 with
  | ' ' :: ' ' :: first :: path =>
      if IsDigest (String.ofList (line.take 64)) then
        some (String.ofList (line.take 64), first :: path)
      else none
  | _ => none

def safeRelativeParts (relativePath : List Char) : Except CheckpointError (List (List Char)) :=
  if relativePath = [] ∨ Char.ofNat 0 ∈ relativePath ∨ '\\' ∈ relativePath then
    .error (.evidence "unsafe_relative_path"
      "evidence paths must be non-empty POSIX relative paths" (ofText relativePath))
  else
    -- a pure path drops empty parts and single dots
    let parts := (relativePath.splitOn '/').filter fun part => part ≠ [] ∧ part ≠ ['.']
    if relativePath.head? = some '/' ∨ parts = [] ∨ ['.', '.'] ∈ parts then
      .error (.evidence "unsafe_relative_path"
        "absolute paths and traversal components are prohibited" (ofText relativePath))
    else .ok parts

structure ManifestEntry where
  digest : String
  relativePath : List Char
deriving DecidableEq

/-- The loop of `_parse_manifest`. -/
def parseManifestLines (path : List PathChar) :
    Nat → List (List Char) → List (List Char) → Except CheckpointError (List ManifestEntry)
  | _, _, [] => .ok []
  | number, seen, line :: lines =>
      match matchManifestLine line with
      | none => .error (.evidence "manifest_line_invalid"
          ("invalid SHA256SUMS line " ++ toString number) path)
      | some (digest, relativePath) => do
          let parts ← safeRelativeParts relativePath
          let normalized := List.intercalate ['/'] parts
          if normalized ∈ seen then
            .error (.evidence "manifest_duplicate_path"
              ("duplicate manifest path: " ++ String.ofList normalized) path)
          else
            let entries ← parseManifestLines path (number + 1) (normalized :: seen) lines
            return ⟨digest, normalized⟩ :: entries

/-- `_parse_manifest`, on the bytes of the manifest at `path`. -/
def parseManifest (path : List PathChar) (content : ByteArray) :
    Except CheckpointError (List ManifestEntry) :=
  match String.fromUTF8? content with
  | none => .error .unicodeDecodeError
  | some text => do
      let entries ← parseManifestLines path 1 []
        (Lines.split isLineBreak (universalNewlines text.toList))
      if entries = [] then
        .error (.evidence "manifest_empty" "SHA256SUMS must not be empty" path)
      else
        let paths := entries.map fun entry => ofText entry.relativePath
        if paths ≠ paths.insertionSort PosixLe then
          .error (.evidence "manifest_not_sorted" "SHA256SUMS paths must be sorted" path)
        else return entries

def plainName (text : List Char) (proper : ofText text ≠ [] ∧ .char '/' ∉ ofText text ∧
    .char (Char.ofNat 0) ∉ ofText text ∧ ofText text ≠ ofText ['.'] ∧
    ofText text ≠ ofText ['.', '.']) : FileName :=
  ⟨ofText text, proper⟩

/-- `SHA256SUMS`. -/
def sums : FileName := plainName "SHA256SUMS".toList (by decide)

def ops : FileName := plainName "ops".toList (by decide)

def evidence : FileName := plainName "evidence".toList (by decide)

def runtime : FileName := plainName "runtime".toList (by decide)

def commit : FileName := plainName "commit".toList (by decide)

/-- `ops/SHA256SUMS`. -/
def outerManifest : RelativePath := [ops, sums]

/-- `ops/evidence/runtime`. -/
def runtimeDirectory : RelativePath := [ops, evidence, runtime]

/-- `ops/evidence/commit`. -/
def commitDirectory : RelativePath := [ops, evidence, commit]

/-- `_safe_regular_file`, from the directory `done`. -/
def safeRegularFile (tree : FileTree) (done : RelativePath) :
    RelativePath → Except CheckpointError ByteArray
  | [] => .error (.evidence "evidence_not_regular_file"
      "evidence target must be a regular file" (asPosix done))
  | name :: rest =>
      match tree.read (done ++ [name]) with
      | some content =>
          if rest = [] then .ok content
          else .error (.evidence "evidence_parent_not_directory"
            "evidence parent component is not a directory" (asPosix (done ++ name :: rest)))
      | none =>
          if done ++ [name] ∈ tree.directories then safeRegularFile tree (done ++ [name]) rest
          else .error (.evidence "evidence_file_missing"
            "required evidence file is missing" (asPosix (done ++ name :: rest)))

namespace FileDigest

variable (sha256 : FileDigest)

def verifyOuterManifest (tree : FileTree) : Except CheckpointError (List ManifestEntry) := do
  let content ← safeRegularFile tree [] outerManifest
  let entries ← parseManifest (asPosix outerManifest) content
  let payloads := (tree.below []).filter (·.path ≠ outerManifest)
  let actual := payloads.map fun file => asPosix file.path
  let expected := entries.map fun entry => ofText entry.relativePath
  if ¬(expected ⊆ actual ∧ actual ⊆ expected) then
    .error (.coverage (expected.filter (· ∉ actual)) (actual.filter (· ∉ expected)))
  else
    let mismatches := entries.filter fun entry => payloads.any fun file =>
      asPosix file.path = ofText entry.relativePath ∧ sha256.hexdigest file.content ≠ entry.digest
    if mismatches ≠ [] then .error (.mismatch (mismatches.map (·.relativePath)))
    else return entries

def requireRealDirectory (tree : FileTree) (directory : RelativePath) (code : String) :
    Except CheckpointError Unit :=
  if directory ∈ tree.directories then .ok ()
  else .error (.finalization code
    (if (tree.read directory).isSome then "required directory must be a real directory"
      else "required directory does not exist") (tree.absolute directory))

/-- The manifests that `finalize_checkpoint` writes into its staging copy of a candidate, after the
candidate has passed the check of its own outer manifest.  `stagingRoot` is the copy's directory. -/
def finalizeManifests (candidate : FileTree) (stagingRoot : List PathChar) :
    Except CheckpointError FileTree := do
  let _ ← sha256.verifyOuterManifest candidate
  let staging : FileTree := { candidate with root := stagingRoot }
  requireRealDirectory staging runtimeDirectory "runtime_evidence_directory_invalid"
  let staging ← sha256.writeManifest staging runtimeDirectory [sums]
  if commitDirectory ∈ staging.directories ∨ (staging.read commitDirectory).isSome then
    requireRealDirectory staging commitDirectory "commit_evidence_directory_invalid"
    let staging ← sha256.writeManifest staging commitDirectory [sums]
    sha256.writeManifest staging [] outerManifest
  else sha256.writeManifest staging [] outerManifest

end FileDigest

end VoodooOne.Checkpoint
