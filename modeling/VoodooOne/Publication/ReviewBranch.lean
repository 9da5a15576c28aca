import Mathlib.Data.List.Infix
import VoodooOne.Checkpoint.Manifest
import VoodooOne.Library.Dialogue

/-!
# Publication of a review branch

A plan is built from what git reports about the local repository and the remote one.  It is carried
out under an approval that repeats the plan, by one push, and read back from the remote.
-/

namespace VoodooOne.Publication

open Dialogue

/-- `str.split()`. -/
def words (text : String) : List String :=
  ((Lines.split isSpace text.toList).filter (· ≠ [])).map String.ofList

/-- `token in text`. -/
def contains (token text : String) : Bool := token.toList <:+: text.toList

/-- The number of nonempty lines of `str.splitlines()`. -/
def lineCount (text : String) : Int :=
  ((Lines.split Checkpoint.isLineBreak text.toList).filter (· ≠ [])).length

/-- The digits of `int(text)`; single underscores may stand between digits. -/
def digitsValue : Nat → List Char → Option Nat
  | total, [] => some total
  | total, '_' :: character :: rest =>
      if character.isDigit then digitsValue (10 * total + (character.toNat - 48)) rest else none
  | total, character :: rest =>
      if character.isDigit then digitsValue (10 * total + (character.toNat - 48)) rest else none

/-- `int(text)`, for the ASCII digits that git prints. -/
def integer (text : String) : Except Raised Int :=
  orRaise (valueError "invalid literal for int() with base 10")
    (match (strip text).toList with
    | '-' :: first :: rest =>
        if first.isDigit then (digitsValue 0 (first :: rest)).map fun value =>
          -(value : Int) else none
    | '+' :: first :: rest =>
        if first.isDigit then (digitsValue 0 (first :: rest)).map fun value =>
          (value : Int) else none
    | first :: rest =>
        if first.isDigit then (digitsValue 0 (first :: rest)).map fun value =>
          (value : Int) else none
    | [] => none)

/-- The number of a commit: 40 lowercase hexadecimal digits. -/
def IsCommitName (text : String) : Prop :=
  text.length = 40 ∧ text.toList.all (· ∈ "0123456789abcdef".toList) = true

instance : DecidablePred IsCommitName := fun text =>
  inferInstanceAs (Decidable (text.length = 40 ∧
    text.toList.all (· ∈ "0123456789abcdef".toList) = true))

def publicationError (message : String) : Raised := ⟨.publicationError, message⟩

def allowedGitHubRepository : String := "https://github.com/eimyroot/Voodoo-One.git"

def legacyGitHubRepositoryAliases : List String :=
  ["https://github.com/eimyroot/V-One.git", "https://github.com/nulleimy/V-One.git"]

def defaultBaseRef : String := "origin/main"

def defaultBaseFetchRefspec : String := "+refs/heads/main:refs/remotes/origin/main"

structure PublicationPolicy where
  allowedRepositoryUrl : String := allowedGitHubRepository
  targetPrefix : String := "review/"
  protectedBranches : List String := ["main", "master", "trunk", "develop", "production"]

section Policy

-- `repr` is the `!r` conversion of a text
variable (repr : String → String) (policy : PublicationPolicy)

def PublicationPolicy.validateRepositoryUrl (repositoryUrl : String) : Except Raised Unit :=
  raiseIf (repositoryUrl ≠ policy.allowedRepositoryUrl) (publicationError
    ("repository URL is not allowlisted: expected=" ++ repr policy.allowedRepositoryUrl ++
      " actual=" ++ repr repositoryUrl))

def PublicationPolicy.validateOriginFetchUrl (originFetchUrl repositoryUrl : String) :
    Except Raised Unit :=
  raiseIf (originFetchUrl ≠ repositoryUrl ∧ ¬(repositoryUrl = policy.allowedRepositoryUrl ∧
        originFetchUrl ∈ legacyGitHubRepositoryAliases))
    (publicationError ("origin fetch URL is not an accepted source for the publication repository: "
      ++ "origin=" ++ repr originFetchUrl ++ " publication=" ++ repr repositoryUrl))

/-- Parts that no branch name may have. -/
def forbiddenParts : List String := ["..", "@\x7b", "\\", " ", "~", "^", ":", "?", "*", "["]

def PublicationPolicy.validateTargetBranch (targetBranch : String) : Except Raised Unit := do
  raiseIf (targetBranch ∈ policy.protectedBranches)
    (publicationError ("protected branch is forbidden: " ++ targetBranch))
  raiseIf (¬policy.targetPrefix.toList <+: targetBranch.toList) (publicationError
    ("target branch must start with " ++ repr policy.targetPrefix ++ ": " ++ repr targetBranch))
  raiseIf (160 < targetBranch.length) (publicationError "target branch is too long")
  raiseIf (targetBranch.toList.getLast? = some '/' ∨ targetBranch.toList.getLast? = some '.' ∨
      forbiddenParts.any (contains · targetBranch) = true)
    (publicationError ("target branch contains an invalid Git ref pattern: " ++ repr targetBranch))

end Policy

structure Command where
  args : List String
  cwd : String
deriving DecidableEq

/-- `subprocess.CompletedProcess`. -/
structure Completed where
  returncode : Int
  stdout : String
  stderr : String
deriving DecidableEq

/-- A computation that runs commands; a command may also fail to run. -/
abbrev Shell := Dialogue Command (Except Raised Completed) Raised

def runCommand (cwd : String) (args : List String) (check : Bool) : Shell Completed := do
  let answer ← send ⟨args, cwd⟩
  let result ← answer
  raiseIf (check = true ∧ result.returncode ≠ 0) (publicationError
    ("command failed (" ++ toString result.returncode ++ "): " ++ " ".intercalate args ++ "\n" ++
      strip (if result.stderr ≠ "" then result.stderr else result.stdout)))
  return result

def git (repoRoot : String) (args : List String) (check : Bool) : Shell Completed :=
  runCommand repoRoot ("git" :: args) check

/-- The push of a plan, which names the local commit as `HEAD`. -/
def pushCommand (repositoryUrl targetRef : String) : List String :=
  ["git", "push", "--no-verify", repositoryUrl, "HEAD:" ++ targetRef]

/-- The listing of the remote heads that match a name. -/
def lsRemoteCommand (repositoryUrl targetRef : String) : List String :=
  ["git", "ls-remote", "--heads", repositoryUrl, targetRef]

/-- The files as the plan finds them. -/
structure Worktree where
  resolve : String → Except Raised String
  isFile : String → Bool
  read : String → Except Raised ByteArray

/-- `directory / name`. -/
def joinPath (directory name : String) : String :=
  if name.toList.head? = some '/' then name else directory ++ "/" ++ name

/-- `read_text` with UTF-8. -/
def readText (content : ByteArray) : Except Raised String :=
  (orRaise ⟨.unicodeDecodeError, "'utf-8' codec can't decode"⟩ (String.fromUTF8? content)).map
    fun text => String.ofList (Checkpoint.universalNewlines text.toList)

def verifySha256Manifest (sha256 : ByteArray → String) (worktree : Worktree)
    (repoRoot manifestName : String) : Except Raised String := do
  let manifestPath := joinPath repoRoot manifestName
  raiseIf (worktree.isFile manifestPath = false)
    (publicationError ("required SHA-256 manifest is missing: " ++ manifestName))
  let content ← worktree.read manifestPath
  let text ← readText content
  let fields := words (strip text)
  let expected := fields.headD ""
  raiseIf (fields.length < 2 ∨ ¬IsDigest expected)
    (publicationError ("invalid SHA-256 manifest format: " ++ manifestName))
  let last := fields.getLastD ""
  let targetName := if last.toList.head? = some '*' then String.ofList last.toList.tail else last
  let targetPath := joinPath repoRoot targetName
  raiseIf (worktree.isFile targetPath = false)
    (publicationError ("SHA-256 target is missing: " ++ targetName))
  let target ← worktree.read targetPath
  let actual := sha256 target
  raiseIf (actual ≠ expected) (publicationError
    ("SHA-256 mismatch for " ++ targetName ++ ": expected=" ++ expected ++ " actual=" ++ actual))
  return actual

structure PublicationPlan where
  repoRoot : String
  head : String
  baseRef : String
  originFetchUrl : String
  repositoryUrl : String
  targetBranch : String
  targetRef : String
  commitCount : Int
  mergeCommitCount : Int
  diffShortstat : String
  changedFileCount : Int
  approval : String
deriving DecidableEq

def expectedApproval (plan : PublicationPlan) : String :=
  "PUBLISH_REVIEW HEAD=" ++ plan.head ++ " REPOSITORY=" ++ plan.repositoryUrl ++ " BRANCH=" ++
    plan.targetBranch ++ " COMMITS=" ++ toString plan.commitCount

def validateExpectedHead (expectedHead : String) : Except Raised Unit :=
  raiseIf (¬IsCommitName expectedHead)
    (publicationError "--expected-head must be a full lowercase 40-character Git SHA")

def fetchOriginBase (repr : String → String) (repoRoot baseRef : String) : Shell Unit := do
  raiseIf (baseRef ≠ defaultBaseRef) (publicationError
    ("unsupported --base-ref: expected=" ++ repr defaultBaseRef ++ " actual=" ++ repr baseRef))
  let _ ← git repoRoot ["fetch", "--no-tags", "origin", defaultBaseFetchRefspec] true

/-- The fetch that `build_plan` does on demand. -/
def refreshBase (repr : String → String) (fetchOrigin : Bool) (repoRoot baseRef : String) :
    Shell Unit :=
  if fetchOrigin then fetchOriginBase repr repoRoot baseRef else pure ()

/-- The arguments of `build_plan`. -/
structure PlanArguments where
  repoRoot : String
  expectedHead : String
  repositoryUrl : String
  targetBranch : String
  baseRef : String
  expectedCommitCount : Int
  policy : PublicationPolicy
  fetchOrigin : Bool

/-- What `build_plan` learns first. -/
structure ObservedHead where
  repoRoot : String
  head : String
  originFetchUrl : String

/-- What it learns about the commits to publish. -/
structure ObservedRange where
  commitCount : Int
  mergeCommitCount : Int

structure ObservedChange where
  diffShortstat : String
  changedFileCount : Int

section BuildPlan

variable (sha256 : ByteArray → String) (repr : String → String) (worktree : Worktree)

/-- The first part of `build_plan`: the root, the head and the source of the repository. -/
def observeHead (arguments : PlanArguments) : Shell ObservedHead := do
  let repoRoot ← worktree.resolve arguments.repoRoot
  validateExpectedHead arguments.expectedHead
  arguments.policy.validateRepositoryUrl repr arguments.repositoryUrl
  arguments.policy.validateTargetBranch repr arguments.targetBranch
  let toplevel ← git repoRoot ["rev-parse", "--show-toplevel"] true
  let actualRoot ← worktree.resolve (strip toplevel.stdout)
  raiseIf (actualRoot ≠ repoRoot)
    (publicationError ("working directory is not the repository root: " ++ actualRoot))
  let status ← git repoRoot ["status", "--porcelain=v1", "--untracked-files=all"] true
  raiseIf (status.stdout ≠ "") (publicationError
    ("worktree is not clean:\n" ++ String.ofList (status.stdout.toList.rdropWhile isSpace)))
  let revision ← git repoRoot ["rev-parse", "HEAD"] true
  let head := strip revision.stdout
  raiseIf (head ≠ arguments.expectedHead) (publicationError
    ("unexpected HEAD: expected=" ++ arguments.expectedHead ++ " actual=" ++ head))
  let _ ← verifySha256Manifest sha256 worktree repoRoot
    "WORLD_CLASS_SOFTWARE_DEVOPS_OPERATING_MODE.md.sha256"
  let _ ← verifySha256Manifest sha256 worktree repoRoot
    "VOODOO_PRODUCT_DECISION_DELIVERY_CONSTITUTION.md.sha256"
  let origin ← git repoRoot ["remote", "get-url", "origin"] true
  let originFetchUrl := strip origin.stdout
  arguments.policy.validateOriginFetchUrl repr originFetchUrl arguments.repositoryUrl
  return ⟨repoRoot, head, originFetchUrl⟩

/-- The second part of `build_plan`: the range of commits to publish. -/
def observeRange (arguments : PlanArguments) (repoRoot : String) : Shell ObservedRange := do
  let base := arguments.baseRef
  let range := base ++ "..HEAD"
  refreshBase repr arguments.fetchOrigin repoRoot base
  let _ ← git repoRoot ["rev-parse", "--verify", base ++ "^\x7bcommit\x7d"] true
  let ancestor ← git repoRoot ["merge-base", "--is-ancestor", base, "HEAD"] false
  raiseIf (ancestor.returncode ≠ 0) (publicationError ("HEAD is not based on " ++ base))
  let counted ← git repoRoot ["rev-list", "--count", range] true
  let commitCount ← integer counted.stdout
  raiseIf (commitCount ≠ arguments.expectedCommitCount) (publicationError
    ("unexpected publication commit count: expected=" ++ toString arguments.expectedCommitCount ++
      " actual=" ++ toString commitCount))
  let merges ← git repoRoot ["rev-list", "--count", "--merges", range] true
  let mergeCommitCount ← integer merges.stdout
  raiseIf (mergeCommitCount ≠ 0) (publicationError
    ("publication range contains merge commits: " ++ toString mergeCommitCount))
  let _ ← git repoRoot ["diff", "--check", range] true
  return ⟨commitCount, mergeCommitCount⟩

/-- The last part of `build_plan`: no remote head has the target's name yet. -/
def observeTarget (arguments : PlanArguments) (repoRoot targetRef : String) :
    Shell ObservedChange := do
  let range := arguments.baseRef ++ "..HEAD"
  let _ ← git repoRoot ["check-ref-format", "--branch", arguments.targetBranch] true
  let listed ← runCommand repoRoot (lsRemoteCommand arguments.repositoryUrl targetRef) true
  raiseIf (strip listed.stdout ≠ "")
    (publicationError ("remote target branch already exists: " ++ targetRef))
  let shortstat ← git repoRoot ["diff", "--shortstat", range] true
  let changedFiles ← git repoRoot ["diff", "--name-only", range] true
  return ⟨strip shortstat.stdout, lineCount changedFiles.stdout⟩

def buildPlan (arguments : PlanArguments) : Shell PublicationPlan := do
  let observed ← observeHead sha256 repr worktree arguments
  let range ← observeRange repr arguments observed.repoRoot
  let targetRef := "refs/heads/" ++ arguments.targetBranch
  let change ← observeTarget arguments observed.repoRoot targetRef
  let provisional : PublicationPlan := ⟨observed.repoRoot, observed.head, arguments.baseRef,
    observed.originFetchUrl, arguments.repositoryUrl, arguments.targetBranch, targetRef,
    range.commitCount, range.mergeCommitCount, change.diffShortstat, change.changedFileCount, ""⟩
  return { provisional with approval := expectedApproval provisional }

end BuildPlan

/-- The first word of the listing, which is the commit on its first line. -/
def verifyRemote (plan : PublicationPlan) (listed : Completed) : Except Raised String := do
  let remote := strip listed.stdout
  raiseIf (remote = "")
    (publicationError "remote branch verification returned no result after push")
  let remoteSha := (words remote).headD ""
  raiseIf (remoteSha ≠ plan.head) (publicationError
    ("remote branch SHA mismatch after push: expected=" ++ plan.head ++ " actual=" ++ remoteSha))
  return remoteSha

def executePublication (plan : PublicationPlan) (approval : String) :
    Shell (Completed × String) := do
  raiseIf (approval ≠ plan.approval)
    (publicationError "explicit publication approval does not exactly match the verified plan")
  let push ← runCommand plan.repoRoot (pushCommand plan.repositoryUrl plan.targetRef) true
  let remote ← runCommand plan.repoRoot (lsRemoteCommand plan.repositoryUrl plan.targetRef) true
  let remoteSha ← verifyRemote plan remote
  return (push, remoteSha)

end VoodooOne.Publication
