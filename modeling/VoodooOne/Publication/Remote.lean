import VoodooOne.Publication.ReviewBranch

/-!
# The remote branch among changes by others

Others may move the local `HEAD` and the remote branches between any two commands of a publication.
The push names `HEAD` and not the commit of the plan, and the listing after it is read without the
names on its lines.
-/

namespace VoodooOne.Publication

open Dialogue

structure Commit where
  name : String
  proper : IsCommitName name
deriving DecidableEq

/-- What commands and others change: the local `HEAD` and the references of each remote repository.
-/
structure World where
  head : Option Commit
  refs : String → List (String × Commit)
  keyed : ∀ url, Table.Keyed Prod.fst (refs url)

namespace World

variable (world : World)

def commitAt (url ref : String) : Option Commit :=
  (Table.lookup Prod.fst (world.refs url) ref).map Prod.snd

/-- A listed head is the wanted name or ends in it, after a slash. -/
def listsAs (wanted ref : String) : Bool :=
  "refs/heads/".toList <+: ref.toList && '/' :: wanted.toList <:+ '/' :: ref.toList

/-- A line of `git ls-remote`. -/
def refLine (entry : String × Commit) : List Char :=
  entry.2.name.toList ++ '\t' :: (entry.1.toList ++ ['\n'])

/-- The output of `git ls-remote --heads`. -/
def listing (url wanted : String) : String :=
  String.ofList (((world.refs url).filter fun entry => listsAs wanted entry.1).flatMap refLine)

/-- A push without force is accepted where the reference is absent or an ancestor of `HEAD`. -/
def Accepts (ancestor : Commit → Commit → Prop) (head : Commit) (url ref : String) : Prop :=
  world.head = some head ∧ ∀ old ∈ world.commitAt url ref, ancestor old head

def IsPushed (head : Commit) (url ref : String) (after : World) : Prop :=
  ∀ url' ref', after.commitAt url' ref' =
    if url' = url ∧ ref' = ref then some head else world.commitAt url' ref'

end World

/-- A command with the world in which it starts, its answer, and the world that it leaves. -/
structure Moment where
  before : World
  command : Command
  answer : Except Raised Completed
  after : World

namespace Moment

variable (ancestor : Commit → Commit → Prop) (plan : PublicationPlan) (moment : Moment)

def exchange : Command × Except Raised Completed := (moment.command, moment.answer)

/-- The command exits with status zero and this output. -/
def Prints (output : String) : Prop :=
  ∃ stderr, moment.answer = .ok ⟨0, output, stderr⟩

/-- The remote references stay as they are. -/
def Leaves : Prop := ∀ url ref, moment.after.commitAt url ref = moment.before.commitAt url ref

/-- What git does.  Every command may fail; only a push changes remote references. -/
structure Possible : Prop where
  leaves : (∀ url ref, moment.command.args ≠ pushCommand url ref) → moment.Leaves
  revision : moment.command.args = ["git", "rev-parse", "HEAD"] → ∀ completed,
    moment.answer = .ok completed → completed.returncode = 0 →
      ∃ head, moment.before.head = some head ∧ completed.stdout = head.name ++ "\n"
  listed : ∀ url ref, moment.command.args = lsRemoteCommand url ref → ∀ completed,
    moment.answer = .ok completed → completed.returncode = 0 →
      completed.stdout = moment.before.listing url ref
  pushed : ∀ url ref, moment.command.args = pushCommand url ref → moment.Leaves ∨
    ∃ head, moment.before.Accepts ancestor head url ref ∧
      moment.before.IsPushed head url ref moment.after
  accepted : ∀ url ref, moment.command.args = pushCommand url ref → ∀ completed,
    moment.answer = .ok completed → completed.returncode = 0 → ∃ head,
      moment.before.Accepts ancestor head url ref ∧ moment.before.IsPushed head url ref moment.after

/-- A remote reference that changes is the target, which is created at the head of the plan. -/
def Creates : Prop :=
  ∀ url ref, moment.after.commitAt url ref ≠ moment.before.commitAt url ref →
    url = plan.repositoryUrl ∧ ref = plan.targetRef ∧ moment.before.commitAt url ref = none ∧
      (moment.after.commitAt url ref).map Commit.name = some plan.head

/-- The target is at the head of the plan. -/
def Holds : Prop :=
  (moment.before.commitAt plan.repositoryUrl plan.targetRef).map Commit.name = some plan.head

/-- The push finds `HEAD` at the plan's commit and no target, or a target to which `HEAD` adds
nothing. -/
def PushesPlanned : Prop :=
  ∀ head ∈ moment.before.head,
    head.name = plan.head ∧ moment.before.commitAt plan.repositoryUrl plan.targetRef = none ∨
      ∃ old ∈ moment.before.commitAt plan.repositoryUrl plan.targetRef,
        old = head ∨ ¬ancestor old head

/-- No other head that is listed with the target is at the plan's commit. -/
def ListsPlanned : Prop :=
  ∀ entry ∈ moment.before.refs plan.repositoryUrl, World.listsAs plan.targetRef entry.1 = true →
    entry.1 ≠ plan.targetRef → entry.2.name ≠ plan.head

/-- The commands of the publication find what the plan found. -/
def Undisturbed : Prop :=
  (moment.command.args = pushCommand plan.repositoryUrl plan.targetRef →
    moment.PushesPlanned ancestor plan) ∧
  (moment.command.args = lsRemoteCommand plan.repositoryUrl plan.targetRef →
    moment.ListsPlanned plan)

end Moment

/-- The plan is for the head, the repository and the branch that were asked for, and its approval
repeats them. -/
structure PublicationPlan.Follows (plan : PublicationPlan) (arguments : PlanArguments) : Prop where
  head : plan.head = arguments.expectedHead
  repositoryUrl : plan.repositoryUrl = arguments.repositoryUrl
  targetRef : plan.targetRef = "refs/heads/" ++ arguments.targetBranch
  approval : plan.approval = expectedApproval plan

/-- A plan that was built, and its publication, among changes by others before each command. -/
structure PublicationRun (sha256 : ByteArray → String) (repr : String → String)
    (worktree : Worktree) (ancestor : Commit → Commit → Prop) where
  arguments : PlanArguments
  building : List Moment
  plan : PublicationPlan
  built : (buildPlan sha256 repr worktree arguments).Leads (building.map Moment.exchange) (.ok plan)
  approval : String
  execution : List Moment
  outcome : Except Raised (Completed × String)
  executed : (executePublication plan approval).Leads (execution.map Moment.exchange) outcome
  possible : ∀ moment ∈ building ++ execution, moment.Possible ancestor

namespace PublicationRun

variable {sha256 : ByteArray → String} {repr : String → String} {worktree : Worktree}
  {ancestor : Commit → Commit → Prop} (publication : PublicationRun sha256 repr worktree ancestor)

/-- The plan follows its arguments; a changed remote branch is the new target at the plan's commit;
and the publication returns only under the plan's approval, with the target at that commit. -/
def Sound : Prop :=
  publication.plan.Follows publication.arguments ∧
  (∀ moment ∈ publication.execution, moment.Creates publication.plan) ∧
    ∀ push remoteSha, publication.outcome = .ok (push, remoteSha) →
      publication.approval = publication.plan.approval ∧
        ∃ moment ∈ publication.execution.getLast?, moment.Holds publication.plan

end PublicationRun

theorem isCommitName_plain {text : String} (proper : IsCommitName text) :
    text.toList ≠ [] ∧ ∀ character ∈ text.toList, isSpace character = false := by
  obtain ⟨long, digits⟩ := proper
  have plain : "0123456789abcdef".toList.all (!isSpace ·) = true := by decide
  refine ⟨fun none => ?_, fun character member => ?_⟩
  · rw [← String.length_toList, none] at long
    cases long
  · have digit := List.all_eq_true.mp digits character member
    simpa using List.all_eq_true.mp plain character (by simpa using digit)

/-- White space at the end of a text with a solid beginning is dropped after that beginning. -/
theorem rdropWhile_append {solid rest : List Char}
    (plain : ∀ character ∈ solid, isSpace character = false) :
    ∃ kept, kept <+: rest ∧ (solid ++ rest).rdropWhile isSpace = solid ++ kept := by
  induction rest using List.reverseRecOn with
  | nil =>
      refine ⟨[], List.nil_prefix, ?_⟩
      rw [List.append_nil, List.rdropWhile_eq_self_iff]
      intro _
      rw [plain _ (List.getLast_mem _)]
      exact Bool.false_ne_true
  | append_singleton rest last induction =>
      by_cases space : isSpace last = true
      · obtain ⟨kept, within, dropped⟩ := induction
        refine ⟨kept, within.trans (List.prefix_append rest [last]), ?_⟩
        rw [← List.append_assoc, List.rdropWhile_concat_pos isSpace _ _ space, dropped]
      · refine ⟨rest ++ [last], List.prefix_rfl, ?_⟩
        rw [← List.append_assoc, List.rdropWhile_concat_neg isSpace _ _ space]

theorem headD_words_strip {name rest : List Char} {separator : Char} (nonempty : name ≠ [])
    (plain : ∀ character ∈ name, isSpace character = false) (space : isSpace separator = true) :
    strip (String.ofList (name ++ separator :: rest)) ≠ "" ∧
      (words (strip (String.ofList (name ++ separator :: rest)))).headD "" =
        String.ofList name := by
  obtain ⟨first, others, rfl⟩ := List.exists_cons_of_ne_nil nonempty
  have front : (first :: others ++ separator :: rest).dropWhile isSpace =
      first :: others ++ separator :: rest :=
    List.dropWhile_cons_of_neg (by rw [plain first List.mem_cons_self]; exact Bool.false_ne_true)
  obtain ⟨kept, ⟨dropped, prefixed⟩, kepts⟩ :=
    @rdropWhile_append (first :: others) (separator :: rest) plain
  have stripped : strip (String.ofList (first :: others ++ separator :: rest)) =
      String.ofList (first :: others ++ kept) := by
    rw [strip, String.toList_ofList, front, ← kepts]
    rfl
  rw [stripped]
  refine ⟨fun empty => ?_, ?_⟩
  · have none := congrArg String.toList empty
    rw [String.toList_ofList] at none
    cases none
  · rw [words, String.toList_ofList]
    cases kept with
    | nil =>
        rw [List.append_nil, Lines.split_plain plain (List.cons_ne_nil _ _)]
        rfl
    | cons next kept =>
        rw [List.cons_append, List.cons.injEq] at prefixed
        rw [prefixed.1, Lines.split_line plain space]
        rfl

theorem World.exists_listed {world : World} {url wanted : String}
    (printed : strip (world.listing url wanted) ≠ "") :
    ∃ entry ∈ world.refs url, World.listsAs wanted entry.1 = true ∧
      (words (strip (world.listing url wanted))).headD "" = entry.2.name := by
  unfold World.listing at printed ⊢
  cases listed : (world.refs url).filter fun entry => World.listsAs wanted entry.1 with
  | nil =>
      rw [listed] at printed
      exact absurd rfl printed
  | cons entry entries =>
      have member : entry ∈ (world.refs url).filter fun entry => World.listsAs wanted entry.1 :=
        listed ▸ List.mem_cons_self
      obtain ⟨present, matches'⟩ := List.mem_filter.mp member
      obtain ⟨nonempty, plain⟩ := isCommitName_plain entry.2.proper
      refine ⟨entry, present, matches', ?_⟩
      rw [List.flatMap_cons, World.refLine, List.append_assoc, List.cons_append,
        (headD_words_strip nonempty plain (by decide)).2, String.ofList_toList]

theorem World.commitAt_of_mem {world : World} {url : String} {entry : String × Commit}
    (member : entry ∈ world.refs url) : world.commitAt url entry.1 = some entry.2 := by
  rw [World.commitAt, (world.keyed url).lookup_of_mem member, Option.map_some]

variable {exchanges : List (Command × Except Raised Completed)} {plan : PublicationPlan}

theorem runCommand_leads {cwd : String} {args : List String} {check : Bool} {result : Completed} :
    (runCommand cwd args check).Leads exchanges (.ok result) ↔
      exchanges = [(⟨args, cwd⟩, .ok result)] ∧ (check = true → result.returncode = 0) := by
  simp only [runCommand, leads_send_bind, leads_lift_bind_ok, leads_pure, raiseIf_eq_ok, not_and,
    not_not, Except.ok.injEq]
  constructor
  · rintro ⟨_, _, rfl, _, rfl, _, checked, rfl, rfl⟩
    exact ⟨rfl, checked⟩
  · rintro ⟨rfl, checked⟩
    exact ⟨_, _, rfl, _, rfl, (), checked, rfl, rfl⟩

theorem runCommand_sends {allowed : Command → Prop} {cwd : String} {args : List String}
    (check : Bool) (granted : allowed ⟨args, cwd⟩) : (runCommand cwd args check).Sends allowed :=
  (sends_send granted).bind fun _ => .lift_bind fun _ => .lift_bind fun _ => sends_done _

theorem executePublication_sends (plan : PublicationPlan) (approval : String) :
    (executePublication plan approval).Sends fun command =>
      command.args = pushCommand plan.repositoryUrl plan.targetRef ∨
        command.args = lsRemoteCommand plan.repositoryUrl plan.targetRef :=
  .lift_bind fun _ => (runCommand_sends true (.inl rfl)).bind fun _ =>
    (runCommand_sends true (.inr rfl)).bind fun _ => .lift_bind fun _ => sends_done _

theorem verifyRemote_eq_ok {listed : Completed} {remoteSha : String} :
    verifyRemote plan listed = .ok remoteSha ↔ strip listed.stdout ≠ "" ∧
      (words (strip listed.stdout)).headD "" = plan.head ∧ remoteSha = plan.head := by
  simp only [verifyRemote, bind_eq_ok, raiseIf_eq_ok, pure_eq_ok, exists_const, not_not]
  constructor
  · rintro ⟨printed, same, rfl⟩
    exact ⟨printed, same, same⟩
  · rintro ⟨printed, same, rfl⟩
    exact ⟨printed, same, same⟩

/-- A publication that returns has listed the target last, with the plan's head first. -/
theorem executePublication_ok {approval : String} {result : Completed × String}
    (returned : (executePublication plan approval).Leads exchanges (.ok result)) :
    approval = plan.approval ∧ ∃ pushed listed : Completed, exchanges =
      [(⟨pushCommand plan.repositoryUrl plan.targetRef, plan.repoRoot⟩, .ok pushed),
        (⟨lsRemoteCommand plan.repositoryUrl plan.targetRef, plan.repoRoot⟩, .ok listed)] ∧
      pushed.returncode = 0 ∧ listed.returncode = 0 ∧ strip listed.stdout ≠ "" ∧
      (words (strip listed.stdout)).headD "" = plan.head := by
  simp only [executePublication, leads_lift_bind_ok, raiseIf_eq_ok, not_not,
    exists_const] at returned
  obtain ⟨approved, returned⟩ := returned
  obtain ⟨pushed, _, _, rfl, pushes, afterPush⟩ := leads_bind_ok.mp returned
  obtain ⟨listed, _, _, rfl, lists, afterListing⟩ := leads_bind_ok.mp afterPush
  obtain ⟨remoteSha, verified, final⟩ := leads_lift_bind_ok.mp afterListing
  obtain ⟨rfl, pushOk⟩ := runCommand_leads.mp pushes
  obtain ⟨rfl, listOk⟩ := runCommand_leads.mp lists
  obtain ⟨rfl, -⟩ := leads_pure.mp final
  obtain ⟨printed, first, -⟩ := verifyRemote_eq_ok.mp verified
  exact ⟨approved, pushed, listed, rfl, pushOk rfl, listOk rfl, printed, first⟩

theorem observeHead_returns (sha256 : ByteArray → String) (repr : String → String)
    (worktree : Worktree) (arguments : PlanArguments) :
    (observeHead sha256 repr worktree arguments).Returns
      fun observed => observed.head = arguments.expectedHead := by
  refine .lift_bind fun repoRoot _ => .lift_bind fun _ _ => .lift_bind fun _ _ => ?_
  refine .lift_bind fun _ _ => .bind _ fun toplevel => .lift_bind fun _ _ => ?_
  refine .lift_bind fun _ _ => .bind _ fun status => .lift_bind fun _ _ => ?_
  refine .bind _ fun revision => .lift_bind fun _ expected => .lift_bind fun _ _ => ?_
  refine .lift_bind fun _ _ => .bind _ fun origin => .lift_bind fun _ _ => ?_
  exact returns_pure (not_not.mp (raiseIf_eq_ok.mp expected))

theorem buildPlan_ok {sha256 : ByteArray → String} {repr : String → String} {worktree : Worktree}
    {arguments : PlanArguments}
    (built : (buildPlan sha256 repr worktree arguments).Leads exchanges (.ok plan)) :
    plan.Follows arguments := by
  obtain ⟨observed, _, _, rfl, head, rest⟩ := leads_bind_ok.mp built
  obtain ⟨range, _, _, rfl, -, rest'⟩ := leads_bind_ok.mp rest
  obtain ⟨change, _, _, rfl, -, final⟩ := leads_bind_ok.mp rest'
  obtain ⟨-, same⟩ := leads_pure.mp final
  obtain rfl := Except.ok.inj same
  exact ⟨observeHead_returns sha256 repr worktree arguments _ _ head, rfl, rfl, rfl⟩

theorem pushCommand_inj {url url' ref ref' : String}
    (same : pushCommand url ref = pushCommand url' ref') : url = url' ∧ ref = ref' := by
  simp only [pushCommand, List.cons.injEq, true_and, and_true] at same
  refine ⟨same.1, String.toList_inj.mp ?_⟩
  have characters := congrArg String.toList same.2
  rw [String.toList_append, String.toList_append] at characters
  exact List.append_cancel_left characters

theorem lsRemoteCommand_ne_pushCommand (url ref url' ref' : String) :
    lsRemoteCommand url ref ≠ pushCommand url' ref' := by
  simp [lsRemoteCommand, pushCommand]

namespace Moment

variable {ancestor : Commit → Commit → Prop} {plan : PublicationPlan} {moment : Moment}

theorem Leaves.creates (leaves : moment.Leaves) : moment.Creates plan :=
  fun url ref changed => absurd (leaves url ref) changed

theorem creates_of_push (possible : moment.Possible ancestor)
    (pushes : moment.command.args = pushCommand plan.repositoryUrl plan.targetRef)
    (planned : moment.PushesPlanned ancestor plan) : moment.Creates plan := by
  rcases possible.pushed _ _ pushes with leaves | ⟨head, ⟨current, related⟩, pushed⟩
  · exact leaves.creates
  · intro url ref changed
    rw [pushed url ref] at changed ⊢
    split at changed
    · next target =>
      obtain ⟨rfl, rfl⟩ := target
      rcases planned head current with ⟨approved, absent⟩ | ⟨old, present, same | apart⟩
      · rw [if_pos ⟨rfl, rfl⟩]
        exact ⟨rfl, rfl, absent, congrArg some approved⟩
      · rw [Option.mem_def.mp present, same] at changed
        exact absurd rfl changed
      · exact absurd (related old present) apart
    · exact absurd rfl changed

/-- A listing that begins with the plan's head, among no others like it, shows the target there. -/
theorem holds_of_listing (planned : moment.ListsPlanned plan)
    (printed : strip (moment.before.listing plan.repositoryUrl plan.targetRef) ≠ "")
    (first : (words (strip (moment.before.listing plan.repositoryUrl plan.targetRef))).headD "" =
      plan.head) : moment.Holds plan := by
  obtain ⟨entry, member, listed, head⟩ := World.exists_listed printed
  have target : entry.1 = plan.targetRef := by
    by_contra other
    exact planned entry member listed other (head.symm.trans first)
  rw [Holds, ← target, World.commitAt_of_mem member, Option.map_some, ← head, first]

end Moment

end VoodooOne.Publication
