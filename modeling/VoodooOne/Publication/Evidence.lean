import Mathlib.Logic.Function.Basic
import Mathlib.Data.String.Basic

/-!
# Evidence of a publication

Calls of `write_evidence` share a directory.  Each reserves the name of its evidence, writes two
temporary files, and links them to the final names: first the sidecar, then the JSON file.  A call
advances system call by system call, in any order with those of other calls, and each may fail.
-/

namespace VoodooOne.Publication

/-- The two files of a piece of evidence. -/
inductive Part where
  | json
  | sidecar
deriving DecidableEq

/-- `target.suffix` and the suffix of the sidecar. -/
def Part.suffix : Part → String
  | .json => ".json"
  | .sidecar => ".json.sha256"

/-- The names that `write_evidence` uses, with what differs between two names of a kind. -/
inductive EvidenceName where
  | reservation (identity : String)
  | final (part : Part) (identity : String)
  | temporary (random : String)

namespace EvidenceName

def text : EvidenceName → String
  | reservation identity => ".review-publication-" ++ identity ++ ".reserve"
  | final part identity => "review-publication-" ++ identity ++ part.suffix
  | temporary random => ".review-publication-" ++ random

/-- Random names are made of lowercase letters, digits and underscores. -/
def Proper : EvidenceName → Prop
  | temporary random => '.' ∉ random.toList
  | _ => True

end EvidenceName

/-- What the calls are asked to write. -/
structure EvidenceRequests (ρ : Type) where
  /-- `f"{timestamp}-{head}-{publication_id}"`, which may be the same for two calls. -/
  identity : ρ → String
  serialized : ρ → ByteArray

namespace EvidenceRequests

variable {ρ : Type} (requests : EvidenceRequests ρ) (sha256 : ByteArray → String)

/-- The line of the sidecar of a JSON file. -/
def sidecarContents (identity : String) (serialized : ByteArray) : ByteArray :=
  (sha256 serialized ++ "  " ++ (EvidenceName.final .json identity).text ++ "\n").toUTF8

def contents (call : ρ) : Part → ByteArray
  | .json => requests.serialized call
  | .sidecar => sidecarContents sha256 (requests.identity call) (requests.serialized call)

end EvidenceRequests

/-- The next statement of `write_evidence`. -/
inductive EvidencePhase where
  /-- `validate_evidence_dir`, `mkdir` and `chmod`. -/
  | prepare
  /-- `_reserve_publication_identity`. -/
  | reserve
  | closeReservation
  | lookForTarget
  | lookForSidecar
  | serialize
  /-- `_write_fsynced_temporary`, and the `unlink` of its handler. -/
  | create (part : Part)
  | fill (part : Part)
  | restrict (part : Part)
  | discard (part : Part)
  /-- `_publish_no_clobber`. -/
  | link (part : Part)
  | unlink (part : Part)
  /-- The `finally` clause. -/
  | drop (part : Part)
  | dropReservation
  | finished
deriving DecidableEq

structure EvidenceCall where
  phase : EvidencePhase
  /-- `temporary` of `_write_fsynced_temporary`. -/
  temporary : Option String
  /-- `json_temporary` and `sidecar_temporary`. -/
  temporaries : Part → Option String
  reservationOwned : Bool
  /-- Whether an exception is on its way out. -/
  failed : Bool

namespace EvidenceCall

/-- A call before its first statement. -/
def start : EvidenceCall := ⟨.prepare, none, fun _ => none, false, false⟩

/-- An exception in the `try` block. -/
def raising (call : EvidenceCall) : EvidenceCall :=
  { call with phase := .drop .json, failed := true }

/-- An exception that nothing in the call meets any more. -/
def escaping (call : EvidenceCall) : EvidenceCall :=
  { call with phase := .finished, failed := true }

end EvidenceCall

/-- A file, known by the call that created it and by what it was created for. -/
abbrev EvidenceFile (ρ : Type) := ρ × Part

/-- The directory, by the kinds of its names, the contents of files, and the calls. -/
structure EvidenceWorld (ρ : Type) where
  reserved : String → Option ρ
  final : Part → String → Option (EvidenceFile ρ)
  temporary : String → Option (EvidenceFile ρ)
  content : EvidenceFile ρ → ByteArray
  calls : ρ → EvidenceCall

/-- One system call of a call: whether it fails, the random name it tries, and what a failing write
leaves. -/
structure EvidenceEvent (ρ : Type) where
  process : ρ
  fails : Bool
  random : String
  written : ByteArray

namespace EvidenceWorld

variable {ρ : Type} [DecidableEq ρ]

/-- An empty directory, before any call. -/
def start : EvidenceWorld ρ := ⟨fun _ => none, fun _ _ => none, fun _ => none,
    fun _ => ByteArray.empty,
  fun _ => .start⟩

variable (requests : EvidenceRequests ρ) (sha256 : ByteArray → String) (world : EvidenceWorld ρ)
  (process : ρ)

def move (call : EvidenceCall) : EvidenceWorld ρ :=
  { world with calls := Function.update world.calls process call }

def setReserved (identity : String) (owner : Option ρ) : EvidenceWorld ρ :=
  { world with reserved := Function.update world.reserved identity owner }

def setTemporary (name : String) (file : Option (EvidenceFile ρ)) : EvidenceWorld ρ :=
  { world with temporary := Function.update world.temporary name file }

def setFinal (part : Part) (identity : String) (file : EvidenceFile ρ) : EvidenceWorld ρ :=
  { world with
    final := Function.update world.final part
      (Function.update (world.final part) identity (some file)) }

def setContent (file : EvidenceFile ρ) (bytes : ByteArray) : EvidenceWorld ρ :=
  { world with content := Function.update world.content file bytes }

/-- `unlink(missing_ok=True)` of a temporary file. -/
def removeTemporary (name : Option String) : EvidenceWorld ρ :=
  match name with
  | some name => world.setTemporary name none
  | none => world

def step (event : EvidenceEvent ρ) : EvidenceWorld ρ :=
  let process := event.process
  let call := world.calls process
  let identity := requests.identity process
  match call.phase with
  | .prepare =>
      if event.fails then world.move process call.escaping
      else world.move process { call with phase := .reserve }
  | .reserve =>
      if event.fails || (world.reserved identity).isSome then world.move process call.raising
      else
        (world.setReserved identity (some process)).move process
          { call with phase := .closeReservation }
  | .closeReservation =>
      if event.fails then world.move process call.raising
      else world.move process { call with phase := .lookForTarget, reservationOwned := true }
  | .lookForTarget =>
      -- `os.path.lexists` answers no when it fails
      if !event.fails && (world.final .json identity).isSome then world.move process call.raising
      else world.move process { call with phase := .lookForSidecar }
  | .lookForSidecar =>
      if !event.fails && (world.final .sidecar identity).isSome then world.move process call.raising
      else world.move process { call with phase := .serialize }
  | .serialize =>
      if event.fails then world.move process call.raising
      else world.move process { call with phase := .create .json }
  | .create part =>
      if event.fails then world.move process call.raising
      -- another random name is tried when this one is taken
      else if (world.temporary event.random).isSome then world
      else
        (world.setTemporary event.random (some (process, part))).move process
          { call with phase := .fill part, temporary := some event.random }
  | .fill part =>
      if event.fails then
        (world.setContent (process, part) event.written).move process
          { call with phase := .discard part, failed := true }
      else
        (world.setContent (process, part) (requests.contents sha256 process part)).move process
          { call with phase := .restrict part }
  | .restrict part =>
      if event.fails then world.move process { call with phase := .discard part, failed := true }
      else
        world.move process
          { call with
            phase := match part with
              | .json => .create .sidecar
              | .sidecar => .link .sidecar
            temporary := none
            temporaries := Function.update call.temporaries part call.temporary }
  | .discard _ =>
      if event.fails then world.move process call.raising
      else (world.removeTemporary call.temporary).move process call.raising
  | .link part =>
      if event.fails || (world.final part identity).isSome then world.move process call.raising
      else
        match (call.temporaries part).bind world.temporary with
        | none => world.move process call.raising
        | some file =>
            (world.setFinal part identity file).move process { call with phase := .unlink part }
  | .unlink part =>
      if event.fails || ((call.temporaries part).bind world.temporary).isNone then
        world.move process call.raising
      else
        (world.removeTemporary (call.temporaries part)).move process
          { call with
            phase := match part with
              | .sidecar => .link .json
              | .json => .drop .json
            temporaries := Function.update call.temporaries part none }
  | .drop part =>
      if (call.temporaries part).isSome && event.fails then world.move process call.escaping
      else
        (world.removeTemporary (call.temporaries part)).move process
          { call with
            phase := match part with
              | .json => .drop .sidecar
              | .sidecar => .dropReservation }
  | .dropReservation =>
      if call.reservationOwned && event.fails then world.move process call.escaping
      else if call.reservationOwned then
        (world.setReserved identity none).move process { call with phase := .finished }
      else world.move process { call with phase := .finished }
  | .finished => world

end EvidenceWorld

end VoodooOne.Publication
