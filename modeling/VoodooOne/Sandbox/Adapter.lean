import VoodooOne.Foundation.Texts
import VoodooOne.Library.FileTree
import VoodooOne.Library.Process

/-!
# Sandbox adapter

`execute_adapter` for `write_artifact`: the artifact is written to a temporary file beside its
destination, which it then replaces.
-/

namespace VoodooOne.Sandbox

/-- A name in a directory, as the bytes that the system sees. -/
abbrev FileName := List UInt8

abbrev Tree := FileTree FileName

abbrev Path := List FileName

abbrev slash : TextUnit := .char '/'

def unitBytes : TextUnit → Option FileName
  | .char character =>
      if character = Char.ofNat 0 then none else some (String.utf8EncodeChar character)
  | .surrogate offset =>
      -- the error handler `surrogateescape` stands for the bytes from 128 on
      if 1152 ≤ offset.val ∧ offset.val < 1280 then some [UInt8.ofNat (offset.val - 1024)] else none

/-- `os.fsencode` of a path that is passed to a system call; a NUL character is refused too. -/
def fsencode (text : Text) : Option FileName := (text.mapM unitBytes).map List.flatten

/-- The components of a `Path`. -/
def components (text : Text) : List Text :=
  (text.splitOn slash).filter fun part => part ≠ [] ∧ part ≠ Text.ofString "."

/-- A path of one component that is passed to a system call. -/
structure PathArgument where
  /-- The path as it is passed. -/
  bytes : FileName
  /-- Its component. -/
  name : FileName
  /-- A slash or a dot follows, so a link at the name is followed. -/
  trailing : Bool
  /-- The last component as it is passed is a dot. -/
  dotted : Bool

def PathArgument.ofComponent (part : Text) : Option PathArgument :=
  (fsencode part).map fun name => ⟨name, name, false, false⟩

def PathArgument.ofPath (text part : Text) : Option PathArgument := do
  let bytes ← fsencode text
  let name ← fsencode part
  let last := (text.splitOn slash).getLast?
  return ⟨bytes, name, last ≠ some part, last = some (Text.ofString ".")⟩

/-- The system calls of one sandbox write.  Directories are counted from the sandbox root. -/
inductive SystemCall where
  /-- `os.mkdir` of the sandbox root or a directory above it, before or after those above it. -/
  | makeRoot (path : Path) (again : Bool)
  | isDirectory (path : Path)
  | makeDirectory (depth : Nat)
  | inspect (depth : Nat)
  | openDirectory (depth : Nat)
  | inspectOpened (depth : Nat)
  | inspectAgain (depth : Nat)
  | inspectDestination
  | createTemporary
  | openHandle
  | write
  | sync
  | closeTemporary
  | replace
  | syncDirectory
  | removeTemporary
  | close (depth : Nat)
deriving DecidableEq

/-- What a sandbox write meets besides the tree. -/
structure Surroundings where
  /-- The paths that are not too long for the system. -/
  accepts : FileName → Bool
  /-- The system call that fails. -/
  fault : Option SystemCall
  /-- How many bytes of a failing write arrive. -/
  written : Nat
  /-- The digits of `secrets.token_hex(8)`. -/
  token : List (Fin 16)

def adapterError (message : String) : Raised := ⟨.adapterError, message⟩

def fileNotFound : Raised := ⟨.fileNotFoundError, "No such file or directory"⟩

def fileExists : Raised := ⟨.fileExistsError, "File exists"⟩

def osError (message : String) : Raised := ⟨.osError, message⟩

/-- The exception of the system call that fails. -/
def faultError : Raised := osError "Input/output error"

/-- A path that cannot be passed to the system. -/
def pathError : Raised := ⟨.valueError, "embedded null byte"⟩

/-- The exception of a path that leads nowhere. -/
def troubleError : FileTree.Trouble → Raised
  | .missing => fileNotFound
  | .notDirectory => osError "Not a directory"
  | .loop => osError "Too many levels of symbolic links"

/-- How many links are followed in one path. -/
def maxLinks : Nat := 40

/-- Where a path leads. -/
abbrev Locator := Tree → Except Raised Path

section Calls

variable (surroundings : Surroundings)

def locateAbsolute (followLast : Bool) (path : Path) : Locator := fun tree => do
  raiseIf (surroundings.accepts (path.flatMap fun name => 47 :: name) = false)
    (osError "File name too long")
  (tree.walk followLast maxLinks [] (path.map .down)).mapError troubleError

def locateBelow (directory : Path) (argument : Option PathArgument) : Locator := fun tree => do
  let argument ← orRaise pathError argument
  raiseIf (surroundings.accepts argument.bytes = false) (osError "File name too long")
  let path ← (tree.walk argument.trailing maxLinks directory [.down argument.name]).mapError
    troubleError
  raiseIf (argument.trailing = true ∧ tree.entry path ≠ some .directory)
    (if tree.entry path = none then fileNotFound else osError "Not a directory")
  return path

/-- `os.stat` without following a last link. -/
def lstat (locate : Locator) (tree : Tree) : Except Raised (Path × FileEntry FileName) := do
  let path ← locate tree
  let entry ← orRaise fileNotFound (tree.entry path)
  return (path, entry)

/-- `os.open` of a directory, without following a last link. -/
def openDirectory (locate : Locator) (tree : Tree) : Except Raised Path := do
  let path ← locate tree
  match tree.entry path with
  | some .directory => return path
  | none => .error fileNotFound
  | _ => .error (osError "Not a directory")

/-- `os.mkdir` of an absolute path. -/
def makeAbsolute (path : Path) (tree : Tree) : Except Raised Tree := do
  let path ← locateAbsolute surroundings false path tree
  raiseIf (tree.entry path ≠ none) fileExists
  return tree.place path .directory

/-- `os.mkdir` below an open directory. -/
def makeBelow (directory : Path) (argument : Option PathArgument) (tree : Tree) :
    Except Raised Tree := do
  let argument ← orRaise pathError argument
  raiseIf (surroundings.accepts argument.bytes = false) (osError "File name too long")
  if argument.dotted then
    -- the name before a dot must lead to a directory, which exists then
    let _ ← locateBelow surroundings directory (some argument) tree
    .error fileExists
  else
    raiseIf (tree.entry (directory ++ [argument.name]) ≠ none) fileExists
    return tree.place (directory ++ [argument.name]) .directory

end Calls

def safeRelativePath (value : Text) : Except Raised (List Text) := do
  let parts := components value
  raiseIf (value.head? = some slash ∨
    ∃ part ∈ parts, part ∈ [[], Text.ofString ".", Text.ofString ".."])
    (adapterError "path escapes the governed sandbox")
  raiseIf (parts = []) (adapterError "artifact path is empty")
  raiseIf (240 < value.length ∨ 32 < parts.length)
    (adapterError "artifact path exceeds the governed limit")
  return parts

/-- A string literal of JSON text that keeps characters beyond ASCII. -/
def quoteText (text : Text) : Text :=
  let escape : TextUnit → Text
    | .char character => (escapeCharacter character).map .char
    | .surrogate offset => [.surrogate offset]
  .char '"' :: (text.flatMap escape ++ [.char '"'])

/-- Items between brackets, each on a line of its own. -/
def bracketed (opening closing : String) (indent : Nat) (items : List Text) : Text :=
  let line (depth : Nat) := Text.ofString (String.ofList ('\n' :: List.replicate (2 * depth) ' '))
  if items = [] then Text.ofString (opening ++ closing)
  else Text.ofString opening ++ line (indent + 1) ++
    List.intercalate (Text.ofString "," ++ line (indent + 1)) items ++ line indent ++
    Text.ofString closing

mutual

/-- `json.dumps` with an indent of two, sorted keys and characters beyond ASCII; the text of a very
long integer is refused. -/
def dumps (indent : Nat) : TextValue → Option Text
  | .null => some (.ofString "null")
  | .bool true => some (.ofString "true")
  | .bool false => some (.ofString "false")
  | .int value =>
      if (Nat.toDigits 10 value.natAbs).length ≤ maxDigits then some (.ofString (toString value))
      else none
  | .float repr => some (.ofString repr)
  | .str text => some (quoteText text)
  | .arr items => (dumpItems (indent + 1) items).map (bracketed "[" "]" indent)
  | .obj fields => do
      let texts ← dumpFields (indent + 1) fields
      let sorted := texts.insertionSort fun left right => Text.key left.1 ≤ Text.key right.1
      return bracketed "\x7b" "\x7d" indent
        (sorted.map fun field => quoteText field.1 ++ Text.ofString ": " ++ field.2)

def dumpItems (indent : Nat) : List TextValue → Option (List Text)
  | [] => some []
  | item :: items => do return (← dumps indent item) :: (← dumpItems indent items)

def dumpFields (indent : Nat) : List (Text × TextValue) → Option (List (Text × Text))
  | [] => some []
  | (key, value) :: fields => do
      return (key, ← dumps indent value) :: (← dumpFields indent fields)

end

/-- `payload` of `write_artifact`. -/
structure ArtifactPayload where
  (path : Option Text)
  (content : Option TextValue)

namespace ArtifactPayload

variable (payload : ArtifactPayload)

def relativePath : Except Raised (List Text) :=
  safeRelativePath (payload.path.getD (.ofString "artifact.json"))

/-- The text of the artifact, none if it has a very long integer. -/
def encoded : Option Text :=
  match payload.content.getD (.obj []) with
  | .str text => some text
  | value => dumps 0 value

/-- The bytes of the artifact, none if its text cannot be encoded. -/
def encodedBytes : Option (List UInt8) :=
  (payload.encoded.bind TextUnit.encode?).map fun text => text.toList.flatMap String.utf8EncodeChar

end ArtifactPayload

def maxArtifactBytes : Nat := 1048576

def workspacePart (workspaceId : Text) : Except Raised Text := do
  let escapes := adapterError "workspace path escapes the governed sandbox"
  raiseIf (workspaceId.head? = some slash) escapes
  match components workspaceId with
  | [part] => do
      raiseIf (part ∈ [[], Text.ofString ".", Text.ofString ".."]) escapes
      return part
  | _ => .error escapes

/-- A write in progress: the tree, the descriptors that are open and the temporary file. -/
structure Progress where
  tree : Tree
  openFds : List Path
  temporaryName : Option Text

abbrev Write := Process Progress Raised

def failedClosed : Raised := adapterError "sandbox write failed closed"

section Write

variable (surroundings : Surroundings)

def systemCall {α : Type} (call : SystemCall) (act : Tree → Except Raised (α × Tree)) : Write α :=
  ⟨fun progress =>
    if surroundings.fault = some call then (.error faultError, progress)
    else match act progress.tree with
      | .ok (value, tree) => (.ok value, { progress with tree })
      | .error error => (.error error, progress)⟩

def observe {α : Type} (call : SystemCall) (look : Tree → Except Raised α) : Write α :=
  systemCall surroundings call fun tree => (look tree).map fun value => (value, tree)

/-- A system call that neither shows nor changes the tree. -/
def touch (call : SystemCall) : Write Unit := observe surroundings call fun _ => .ok ()

def perform (call : SystemCall) (act : Tree → Except Raised Tree) : Write Unit :=
  systemCall surroundings call fun tree => (act tree).map fun next => ((), next)

/-- `Path.is_dir` of an absolute path. -/
def isDirectory (path : Path) : Write Bool :=
  observe surroundings (.isDirectory path) fun tree =>
    match locateAbsolute surroundings true path tree with
    | .ok found => .ok (tree.entry found = some .directory)
    | .error error =>
        if surroundings.accepts (path.flatMap fun name => 47 :: name) = false then .error error
        else .ok false

/-- One `os.mkdir` of `Path.mkdir` with `exist_ok`, and what follows if something is missing. -/
def makeExisting (path : Path) (again : Bool) (missing : Write Unit) : Write Unit :=
  (perform surroundings (.makeRoot path again) (makeAbsolute surroundings path)).handle
    fun error => do
      if error.cls.isA .fileNotFoundError then missing
      else
        let existing ← isDirectory surroundings path
        Process.lift (raiseIf (existing = false) error)

/-- `Path.mkdir` with `parents` and `exist_ok`, of a path whose last name comes first. -/
def makeDirectories : List FileName → Write Unit
  | [] => makeExisting surroundings [] false (Process.raise fileNotFound)
  | name :: above =>
      let path := (name :: above).reverse
      makeExisting surroundings path false do
        makeDirectories above
        makeExisting surroundings path true (Process.raise fileNotFound)

/-- `_open_verified_directory`.  Nobody else changes the tree, so a path is the identity of what is
there. -/
def openVerifiedDirectory (depth : Nat) (locate : Locator) : Write Path := do
  let metadata ← observe surroundings (.inspect depth) (lstat locate)
  Process.lift (raiseIf (metadata.2 ≠ .directory) failedClosed)
  let descriptor ← observe surroundings (.openDirectory depth) (openDirectory locate)
  let opened ← observe surroundings (.inspectOpened depth) (lstat fun _ => .ok descriptor)
  let current ← observe surroundings (.inspectAgain depth) (lstat locate)
  Process.lift (raiseIf (opened.2 ≠ .directory ∨ current.2 ≠ .directory ∨
    opened.1 ≠ metadata.1 ∨ current.1 ≠ metadata.1) failedClosed)
  return descriptor

def ensureAndOpenDirectory (depth : Nat) (parent : Path) (argument : Option PathArgument) :
    Write Path := do
  (perform surroundings (.makeDirectory depth) (makeBelow surroundings parent argument)).handle
    fun error => if error.cls.isA .fileExistsError then pure () else Process.raise error
  openVerifiedDirectory surroundings depth (locateBelow surroundings parent argument)

def Progress.append (descriptor : Path) (progress : Progress) : Progress :=
  { progress with openFds := progress.openFds ++ [descriptor] }

/-- The directories of the path, one after the other. -/
def descend (depth : Nat) (current : Path) : List (Option PathArgument) → Write Path
  | [] => return current
  | argument :: arguments => do
      let next ← ensureAndOpenDirectory surroundings depth current argument
      Process.change (Progress.append next)
      descend (depth + 1) next arguments

def isRegular : FileEntry FileName → Bool
  | .file _ => true
  | _ => false

def rejectUnsafeDestination (parent : Path) (argument : Option PathArgument) : Write Unit := do
  let found : Write (Option (Path × FileEntry FileName)) := do
    return some (← observe surroundings .inspectDestination
      (lstat (locateBelow surroundings parent argument)))
  let metadata ← found.handle fun error =>
    if error.cls.isA .fileNotFoundError then pure none else Process.raise error
  Process.lift (raiseIf (∃ inspected ∈ metadata, isRegular inspected.2 = false) failedClosed)

/-- The name of the temporary file beside a destination. -/
def temporaryText (name : Text) : Text :=
  Text.ofString "." ++ name ++ Text.ofString "." ++
    surroundings.token.map (fun digit => .char (hexDigit digit)) ++ Text.ofString ".tmp"

/-- `os.open` of a new file, which must not exist. -/
def createFile (parent : Path) (name : Text) (tree : Tree) : Except Raised (Path × Tree) := do
  let path ← locateBelow surroundings parent (PathArgument.ofComponent name) tree
  raiseIf (tree.entry path ≠ none) fileExists
  return (path, tree.place path (.file []))

/-- The bytes of an open file are replaced. -/
def Progress.setFile (path : Path) (content : List UInt8) (progress : Progress) : Progress :=
  { progress with tree := progress.tree.place path (.file content) }

/-- Write a file that is open; some bytes of a failing write may arrive. -/
def writeFile (path : Path) (content : List UInt8) : Write Unit :=
  if surroundings.fault = some .write then do
    Process.change (Progress.setFile path (content.take surroundings.written))
    Process.raise faultError
  else Process.change (Progress.setFile path content)

/-- `os.replace` of a file by another one in the same directory. -/
def replaceFile (parent : Path) (source destination : Text) (tree : Tree) : Except Raised Tree := do
  let old ← locateBelow surroundings parent (PathArgument.ofComponent source) tree
  let new ← locateBelow surroundings parent (PathArgument.ofComponent destination) tree
  let entry ← orRaise fileNotFound (tree.entry old)
  raiseIf (tree.entry new = some .directory) (osError "Is a directory")
  return (tree.remove old).place new entry

def unlink (parent : Path) (name : Text) (tree : Tree) : Except Raised Tree := do
  let path ← locateBelow surroundings parent (PathArgument.ofComponent name) tree
  raiseIf (tree.entry path = none) fileNotFound
  raiseIf (tree.entry path = some .directory) (osError "Is a directory")
  return tree.remove path

/-- The temporary file is created, written, synced and closed. -/
def writeTemporary (parent : Path) (temporary : Text) (content : List UInt8) : Write Unit := do
  let path ← systemCall surroundings .createTemporary (createFile surroundings parent temporary)
  touch surroundings .openHandle
  writeFile surroundings path content
  touch surroundings .sync
  touch surroundings .closeTemporary

/-- `temporary_name` is assigned. -/
def Progress.setTemporary (temporary : Option Text) (progress : Progress) : Progress :=
  { progress with temporaryName := temporary }

/-- The temporary file is written and replaces the destination. -/
def writeArtifact (parent : Path) (name : Text) (content : List UInt8) : Write Unit := do
  rejectUnsafeDestination surroundings parent (PathArgument.ofComponent name)
  let temporary := temporaryText surroundings name
  Process.change (Progress.setTemporary (some temporary))
  writeTemporary surroundings parent temporary content
  perform surroundings .replace (replaceFile surroundings parent temporary name)
  Process.change (Progress.setTemporary none)
  touch surroundings .syncDirectory

/-- `os.close` of descriptors, the last one first. -/
def closeAll : Nat → Write Unit
  | 0 => return
  | depth + 1 => do
      touch surroundings (.close depth)
      closeAll depth

/-- The temporary file is removed, if there is one. -/
def removeTemporary (progress : Progress) : Write Unit :=
  match progress.temporaryName, progress.openFds.getLast? with
  | some temporary, some parent =>
      (perform surroundings .removeTemporary (unlink surroundings parent temporary)).handle
        fun error => if error.cls.isA .osError then pure () else Process.raise error
  | _, _ => pure ()

/-- The `finally` clause: the temporary file is removed, and the descriptors are closed. -/
def cleanUp : Write Unit := do
  let progress ← Process.state
  removeTemporary surroundings progress
  closeAll surroundings progress.openFds.length

/-- The `except` clause of the write. -/
def closing {α : Type} (body : Write α) : Write α :=
  body.handle fun error =>
    Process.raise (if error.cls.isA .osError || error.cls.isA .valueError then failedClosed else
      error)

/-- `_write_sandbox_file`, below the sandbox root. -/
def writeBelow (root : Path) (workspaceId part : Text) (relativePath : List Text)
    (content : List UInt8) : Write Unit := do
  let directories := PathArgument.ofPath workspaceId part ::
    relativePath.dropLast.map PathArgument.ofComponent
  let current ← descend surroundings 1 root directories
  writeArtifact surroundings current (relativePath.getLastD []) content

/-- `_write_sandbox_file`, on a platform with the path primitives that it requires. -/
def writeSandboxFile (sandboxRoot : Path) (workspaceId : Text) (relativePath : List Text)
    (content : List UInt8) : Write Text := do
  let part ← Process.lift (workspacePart workspaceId)
  makeDirectories surroundings sandboxRoot.reverse
  let root ← openVerifiedDirectory surroundings 0 (locateAbsolute surroundings false sandboxRoot)
  Process.change (Progress.append root)
  Process.ensure (closing (writeBelow surroundings root workspaceId part relativePath content))
    (cleanUp surroundings)
  return List.intercalate (Text.ofString "/") (part :: relativePath)

/-- What `execute_adapter` returns for `write_artifact`. -/
structure ArtifactReport where
  path : Text
  bytes : Nat

/-- `execute_adapter` for `write_artifact`: its result, and the tree that it leaves. -/
def executeAdapter (sandboxRoot : Path) (workspaceId : Text) (payload : ArtifactPayload)
    (tree : Tree) : Except Raised ArtifactReport × Tree :=
  let body : Write ArtifactReport := do
    let relativePath ← Process.lift payload.relativePath
    let content ← Process.lift
      (orRaise ⟨.valueError, "surrogates not allowed"⟩ payload.encodedBytes)
    Process.lift (raiseIf (maxArtifactBytes < content.length)
      (adapterError "artifact exceeds the governed size limit"))
    let path ← writeSandboxFile surroundings sandboxRoot workspaceId relativePath content
    return ⟨path, content.length⟩
  let (result, progress) := body.run ⟨tree, [], none⟩
  (result, progress.tree)

end Write

end VoodooOne.Sandbox
