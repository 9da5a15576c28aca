import VoodooOne.Checkpoint.ManifestRoundTrip
import VoodooOne.Publication.Remote

/-!
# Soundness of a publication

A publication is sound where its push and its listing find what the plan found.  A commit that is
made after the plan is published in the place of the approved one.
-/

namespace VoodooOne.Publication

open Dialogue

/-- A command of git that exits with status zero and this output. -/
def ran (args : List String) (output : String) : Command × Except Raised Completed :=
  (⟨"git" :: args, "/repo"⟩, .ok ⟨0, output, ""⟩)

theorem leads_ran {β : Type} {args : List String} {output : String} {check : Bool}
    {second : Completed → Shell β} {later : List (Command × Except Raised Completed)}
    {ended : Except Raised β} (leads : (second ⟨0, output, ""⟩).Leads later ended) :
    (git "/repo" args check >>= second).Leads (ran args output :: later) ended := by
  refine leads_bind.mpr (.inr ⟨⟨0, output, ""⟩, [ran args output], later, rfl, ?_, leads⟩)
  exact runCommand_leads.mpr ⟨rfl, fun _ => rfl⟩

theorem leads_check {β : Type} {condition : Prop} [Decidable condition] {error : Raised}
    {second : Unit → Shell β} {later : List (Command × Except Raised Completed)}
    {ended : Except Raised β} (holds : ¬condition) (leads : (second ()).Leads later ended) :
    ((liftM (raiseIf condition error) : Shell Unit) >>= second).Leads later ended :=
  leads_lift_bind.mpr (.inr ⟨(), raiseIf_of_not holds, leads⟩)

theorem leads_value {α β : Type} {outcome : Except Raised α} {value : α}
    {second : α → Shell β} {later : List (Command × Except Raised Completed)}
    {ended : Except Raised β} (returned : outcome = .ok value)
    (leads : (second value).Leads later ended) :
    ((liftM outcome : Shell α) >>= second).Leads later ended :=
  leads_lift_bind.mpr (.inr ⟨value, returned, leads⟩)

def emptyDigest : String := "e3b0c44298fc1c149afbf4c8996fb92427ae41e4649b934ca495991b7852b855"

def sampleManifest : String := emptyDigest ++ "  CHARTER.md\n"

/-- A repository whose manifests name an empty file. -/
def sampleWorktree : Worktree where
  resolve path := .ok path
  isFile _ := true
  read path := .ok (if path = "/repo/CHARTER.md" then ByteArray.empty else sampleManifest.toUTF8)

theorem readText_sample : readText sampleManifest.toUTF8 = .ok sampleManifest := by
  rw [readText, Checkpoint.fromUTF8?_toUTF8]
  decide +kernel

theorem verifySha256Manifest_sample {manifestName : String}
    (apart : joinPath "/repo" manifestName ≠ "/repo/CHARTER.md") :
    verifySha256Manifest (fun _ => emptyDigest) sampleWorktree "/repo" manifestName =
      .ok emptyDigest := by
  have fields : words (strip sampleManifest) = [emptyDigest, "CHARTER.md"] := by decide +kernel
  have proper : IsDigest emptyDigest := by decide +kernel
  have found : sampleWorktree.read (joinPath "/repo" manifestName) = .ok sampleManifest.toUTF8 :=
    congrArg Except.ok (if_neg apart)
  rw [verifySha256Manifest, raiseIf_of_not (by exact Bool.noConfusion), ok_bind, found, ok_bind,
    readText_sample, ok_bind, fields]
  rfl

def approvedCommit : Commit := ⟨String.ofList (List.replicate 40 'a'), by decide⟩

/-- A commit that another process makes on top of it. -/
def laterCommit : Commit := ⟨String.ofList (List.replicate 40 'b'), by decide⟩

def sampleArguments : PlanArguments where
  repoRoot := "/repo"
  expectedHead := approvedCommit.name
  repositoryUrl := allowedGitHubRepository
  targetBranch := "review/x"
  baseRef := defaultBaseRef
  expectedCommitCount := 1
  policy := {}
  fetchOrigin := true

def headExchanges : List (Command × Except Raised Completed) :=
  [ran ["rev-parse", "--show-toplevel"] "/repo\n",
    ran ["status", "--porcelain=v1", "--untracked-files=all"] "",
    ran ["rev-parse", "HEAD"] (approvedCommit.name ++ "\n"),
    ran ["remote", "get-url", "origin"] (allowedGitHubRepository ++ "\n")]

def rangeExchanges : List (Command × Except Raised Completed) :=
  [ran ["fetch", "--no-tags", "origin", defaultBaseFetchRefspec] "",
    ran ["rev-parse", "--verify", "origin/main^\x7bcommit\x7d"] (approvedCommit.name ++ "\n"),
    ran ["merge-base", "--is-ancestor", "origin/main", "HEAD"] "",
    ran ["rev-list", "--count", "origin/main..HEAD"] "1\n",
    ran ["rev-list", "--count", "--merges", "origin/main..HEAD"] "0\n",
    ran ["diff", "--check", "origin/main..HEAD"] ""]

def targetExchanges : List (Command × Except Raised Completed) :=
  [ran ["check-ref-format", "--branch", "review/x"] "review/x\n",
    ran ["ls-remote", "--heads", allowedGitHubRepository, "refs/heads/review/x"] "",
    ran ["diff", "--shortstat", "origin/main..HEAD"] " 1 file changed, 1 insertion(+)\n",
    ran ["diff", "--name-only", "origin/main..HEAD"] "one.txt\n"]

def samplePlan : PublicationPlan :=
  let provisional : PublicationPlan := ⟨"/repo", approvedCommit.name, defaultBaseRef,
    allowedGitHubRepository, allowedGitHubRepository, "review/x", "refs/heads/review/x", 1, 0,
    "1 file changed, 1 insertion(+)", 1, ""⟩
  { provisional with approval := expectedApproval provisional }

theorem validateTargetBranch_sample (repr : String → String) :
    sampleArguments.policy.validateTargetBranch repr "review/x" = .ok () := by
  rw [PublicationPolicy.validateTargetBranch, raiseIf_of_not (by decide), ok_bind,
    raiseIf_of_not (by decide), ok_bind, raiseIf_of_not (by decide), ok_bind,
    raiseIf_of_not (by decide +kernel)]

theorem observeHead_sample (repr : String → String) :
    (observeHead (fun _ => emptyDigest) repr sampleWorktree sampleArguments).Leads
      headExchanges (.ok ⟨"/repo", approvedCommit.name, allowedGitHubRepository⟩) := by
  have root : strip "/repo\n" = "/repo" := by decide
  have head : strip (approvedCommit.name ++ "\n") = approvedCommit.name := by decide +kernel
  have origin : strip (allowedGitHubRepository ++ "\n") = allowedGitHubRepository := by
    decide +kernel
  have resolved : sampleWorktree.resolve "/repo" = .ok "/repo" := rfl
  refine leads_value resolved (leads_check (by decide) ?_)
  refine leads_check (by decide) (leads_value (validateTargetBranch_sample repr) ?_)
  refine leads_ran (leads_value (congrArg Except.ok root) (leads_check (by decide) ?_))
  refine leads_ran (leads_check (by decide) (leads_ran ?_))
  dsimp only
  rw [head]
  refine leads_check (by decide) (leads_value (verifySha256Manifest_sample (by decide)) ?_)
  refine leads_value (verifySha256Manifest_sample (by decide)) (leads_ran ?_)
  dsimp only
  rw [origin]
  exact leads_check (by decide) (leads_pure.mpr ⟨rfl, rfl⟩)

theorem observeRange_sample (repr : String → String) :
    (observeRange repr sampleArguments "/repo").Leads rangeExchanges (.ok ⟨1, 0⟩) := by
  have counted : integer "1\n" = .ok 1 := by decide +kernel
  have merges : integer "0\n" = .ok 0 := by decide +kernel
  have fetched : (refreshBase repr true "/repo" "origin/main").Leads
      [ran ["fetch", "--no-tags", "origin", defaultBaseFetchRefspec] ""] (.ok ()) :=
    leads_check (by decide) (leads_ran (leads_pure.mpr ⟨rfl, rfl⟩))
  refine leads_bind.mpr (.inr ⟨(), _, _, rfl, fetched, leads_ran (leads_ran ?_)⟩)
  refine leads_check (by decide) (leads_ran (leads_value counted (leads_check (by decide) ?_)))
  refine leads_ran (leads_value merges (leads_check (by decide) ?_))
  exact leads_ran (leads_pure.mpr ⟨rfl, rfl⟩)

theorem observeTarget_sample :
    (observeTarget sampleArguments "/repo" "refs/heads/review/x").Leads targetExchanges
      (.ok ⟨"1 file changed, 1 insertion(+)", 1⟩) := by
  have shortstat : strip " 1 file changed, 1 insertion(+)\n" =
    "1 file changed, 1 insertion(+)" := by
    decide +kernel
  have changed : lineCount "one.txt\n" = 1 := by decide +kernel
  refine leads_ran (leads_ran (leads_check (by decide) (leads_ran (leads_ran ?_))))
  dsimp only
  rw [shortstat, changed]
  exact leads_pure.mpr ⟨rfl, rfl⟩

/-- A repository with this `HEAD`, where the published one has these references. -/
def sampleWorld (head : Commit) (refs : List (String × Commit))
    (keyed : Table.Keyed Prod.fst refs) : World where
  head := some head
  refs url := if url = allowedGitHubRepository then refs else []
  keyed url := by
    split
    · exact keyed
    · exact Table.keyed_nil

/-- Before the push: no remote reference yet. -/
def worldBefore (head : Commit) : World := sampleWorld head [] Table.keyed_nil

def worldAfter (head : Commit) : World :=
  sampleWorld head [("refs/heads/review/x", head)] (List.nodup_singleton _)

theorem buildPlan_sample (repr : String → String) :
    (buildPlan (fun _ => emptyDigest) repr sampleWorktree sampleArguments).Leads
      (headExchanges ++ (rangeExchanges ++ targetExchanges)) (.ok samplePlan) := by
  refine leads_bind.mpr (.inr ⟨_, _, _, rfl, observeHead_sample repr, ?_⟩)
  refine leads_bind.mpr (.inr ⟨_, _, _, rfl, observeRange_sample repr, ?_⟩)
  refine leads_bind.mpr (.inr ⟨_, _, _, (List.append_nil _).symm, observeTarget_sample, ?_⟩)
  exact leads_pure.mpr ⟨rfl, rfl⟩

def stillMoment (world : World) (exchange : Command × Except Raised Completed) : Moment :=
  ⟨world, exchange.1, exchange.2, world⟩

def PrintsBefore (head : Commit) (exchange : Command × Except Raised Completed) : Prop :=
  exchange.1.args[1]? ≠ some "push" ∧
    (exchange.1.args = ["git", "rev-parse", "HEAD"] → exchange.2 = .ok ⟨0, head.name ++ "\n", ""⟩) ∧
    (exchange.1.args[1]? = some "ls-remote" → exchange.2 = .ok ⟨0, "", ""⟩)

theorem listing_before (head : Commit) (url ref : String) : (worldBefore head).listing url ref =
    "" := by
  have none : (worldBefore head).refs url = [] := ite_self _
  rw [World.listing, none]
  rfl

theorem stillMoment_possible {ancestor : Commit → Commit → Prop} {head : Commit}
    {exchange : Command × Except Raised Completed} (prints : PrintsBefore head exchange) :
    (stillMoment (worldBefore head) exchange).Possible ancestor := by
  obtain ⟨noPush, revision, listing⟩ := prints
  have otherwise (url ref : String) : exchange.1.args ≠ pushCommand url ref := by
    intro same
    rw [same] at noPush
    exact noPush rfl
  refine ⟨fun _ _ _ => rfl, fun same completed answered _ => ⟨head, rfl, ?_⟩,
    fun url ref same completed answered _ => ?_, fun url ref same =>
      absurd same (otherwise url ref),
    fun url ref same => absurd same (otherwise url ref)⟩
  · rw [← Except.ok.inj ((revision same).symm.trans answered)]
  · have printed := listing (congrArg (·[1]?) same)
    rw [← Except.ok.inj (printed.symm.trans answered)]
    exact (listing_before head url ref).symm

theorem prints_sample : ∀ exchange ∈ headExchanges ++ (rangeExchanges ++ targetExchanges),
      PrintsBefore approvedCommit exchange := by
  unfold PrintsBefore
  decide +kernel

def pushMoment (head : Commit) : Moment :=
  ⟨worldBefore head, ⟨pushCommand allowedGitHubRepository "refs/heads/review/x", "/repo"⟩,
    .ok ⟨0, "", ""⟩, worldAfter head⟩

def listMoment (head : Commit) : Moment :=
  stillMoment (worldAfter head)
    (⟨lsRemoteCommand allowedGitHubRepository "refs/heads/review/x", "/repo"⟩,
      .ok ⟨0, (worldAfter head).listing allowedGitHubRepository "refs/heads/review/x", ""⟩)

theorem pushMoment_pushed (head : Commit) : (worldBefore head).IsPushed head allowedGitHubRepository
    "refs/heads/review/x" (worldAfter head) := by
  intro url ref
  by_cases published : url = allowedGitHubRepository
  · by_cases target : ref = "refs/heads/review/x"
    · simp [World.commitAt, worldAfter, sampleWorld, Table.lookup, published, target]
    · simp [World.commitAt, worldAfter, worldBefore, sampleWorld, Table.lookup, target,
        Ne.symm target]
  · simp [World.commitAt, worldAfter, worldBefore, sampleWorld, Table.lookup, published]

theorem pushMoment_possible {ancestor : Commit → Commit → Prop} (head : Commit) :
    (pushMoment head).Possible ancestor := by
  have accepts : (worldBefore head).Accepts ancestor head allowedGitHubRepository
      "refs/heads/review/x" := by
    refine ⟨rfl, fun old present => ?_⟩
    simp [World.commitAt, worldBefore, sampleWorld, Table.lookup] at present
  have target {url ref : String} (same : (pushMoment head).command.args = pushCommand url ref) :
      ∃ head', (worldBefore head).Accepts ancestor head' url ref ∧
        (worldBefore head).IsPushed head' url ref (worldAfter head) := by
    obtain ⟨rfl, rfl⟩ := pushCommand_inj same
    exact ⟨head, accepts, pushMoment_pushed head⟩
  refine ⟨fun others => absurd rfl (others _ _), fun same => ?_, fun url ref same => ?_,
    fun url ref same => .inr (target same), fun url ref same _ _ _ => target same⟩
  · simp [pushMoment, pushCommand] at same
  · exact absurd same.symm (lsRemoteCommand_ne_pushCommand _ _ _ _)

theorem listMoment_possible {ancestor : Commit → Commit → Prop} (head : Commit) :
    (listMoment head).Possible ancestor := by
  refine ⟨fun _ _ _ => rfl, fun same => ?_, fun url ref same completed answered _ => ?_,
    fun url ref same => absurd same (lsRemoteCommand_ne_pushCommand _ _ _ _),
    fun url ref same => absurd same (lsRemoteCommand_ne_pushCommand _ _ _ _)⟩
  · simp [listMoment, stillMoment, lsRemoteCommand] at same
  · simp only [listMoment, stillMoment, lsRemoteCommand, List.cons.injEq, true_and,
      and_true] at same
    obtain ⟨rfl, rfl⟩ := same
    rw [← Except.ok.inj answered]
    rfl

theorem executePublication_leads {plan : PublicationPlan} {pushed listed : Completed}
    (pushOk : pushed.returncode = 0) (listOk : listed.returncode = 0) :
    (executePublication plan plan.approval).Leads
      [(⟨pushCommand plan.repositoryUrl plan.targetRef, plan.repoRoot⟩, .ok pushed),
        (⟨lsRemoteCommand plan.repositoryUrl plan.targetRef, plan.repoRoot⟩, .ok listed)]
      ((verifyRemote plan listed).map fun remoteSha => (pushed, remoteSha)) := by
  refine leads_check (not_not.mpr rfl) (leads_bind.mpr (.inr ⟨pushed, [_], [_], rfl, ?_, ?_⟩))
  · exact runCommand_leads.mpr ⟨rfl, fun _ => pushOk⟩
  refine leads_bind.mpr (.inr ⟨listed, [_], [], rfl, ?_, ?_⟩)
  · exact runCommand_leads.mpr ⟨rfl, fun _ => listOk⟩
  cases verified : verifyRemote plan listed with
  | error error => exact leads_lift_bind.mpr (.inl ⟨error, rfl, rfl, rfl⟩)
  | ok remoteSha => exact leads_value rfl (leads_pure.mpr ⟨rfl, rfl⟩)

/-- The publication of the sample plan, with this `HEAD` at the time of the push. -/
def sampleRun (repr : String → String) (ancestor : Commit → Commit → Prop) (head : Commit) :
    PublicationRun (fun _ => emptyDigest) repr sampleWorktree ancestor where
  arguments := sampleArguments
  building := (headExchanges ++ (rangeExchanges ++ targetExchanges)).map
    (stillMoment (worldBefore approvedCommit))
  plan := samplePlan
  built := by
    rw [List.map_map]
    exact buildPlan_sample repr
  approval := samplePlan.approval
  execution := [pushMoment head, listMoment head]
  outcome := (verifyRemote samplePlan ⟨0, (worldAfter head).listing allowedGitHubRepository
    "refs/heads/review/x", ""⟩).map fun remoteSha => (⟨0, "", ""⟩, remoteSha)
  executed := executePublication_leads rfl rfl
  possible moment member := by
    rcases List.mem_append.mp member with building | execution
    · obtain ⟨exchange, sent, rfl⟩ := List.mem_map.mp building
      exact stillMoment_possible (prints_sample exchange sent)
    · rcases List.mem_pair.mp execution with rfl | rfl
      · exact pushMoment_possible head
      · exact listMoment_possible head

theorem commitAt_before (head : Commit) (url ref : String) :
    (worldBefore head).commitAt url ref = none := by
  simp [World.commitAt, worldBefore, sampleWorld, Table.lookup]

/-- A commit made after the plan was built is published under the approval of the plan. -/
theorem later_commit_published : ¬∀ (sha256 : ByteArray → String) (repr : String → String)
    (worktree : Worktree) (ancestor : Commit → Commit → Prop)
    (publication : PublicationRun sha256 repr worktree ancestor), publication.Sound := by
  intro sound
  obtain ⟨-, creates, -⟩ := sound _ id _ Eq (sampleRun id Eq laterCommit)
  have pushed := pushMoment_pushed laterCommit allowedGitHubRepository "refs/heads/review/x"
  rw [if_pos ⟨rfl, rfl⟩] at pushed
  have changed : (pushMoment laterCommit).after.commitAt allowedGitHubRepository
      "refs/heads/review/x" ≠ (pushMoment laterCommit).before.commitAt allowedGitHubRepository
        "refs/heads/review/x" := by
    rw [show (pushMoment laterCommit).after = worldAfter laterCommit from rfl, pushed,
      show (pushMoment laterCommit).before = worldBefore laterCommit from rfl, commitAt_before]
    exact Option.some_ne_none _
  obtain ⟨-, -, -, approved⟩ := creates _ List.mem_cons_self _ _ changed
  rw [show (pushMoment laterCommit).after = worldAfter laterCommit from rfl, pushed] at approved
  have different : laterCommit.name ≠ approvedCommit.name := by decide
  exact different (Option.some.inj approved)

/-- A publication whose commands find what the plan found is sound. -/
theorem publication_sound {sha256 : ByteArray → String} {repr : String → String}
    {worktree : Worktree} {ancestor : Commit → Commit → Prop}
    (publication : PublicationRun sha256 repr worktree ancestor)
    (undisturbed : ∀ moment ∈ publication.execution,
      moment.Undisturbed ancestor publication.plan) : publication.Sound := by
  have possible (moment : Moment) (member : moment ∈ publication.execution) :=
    publication.possible moment (List.mem_append_right _ member)
  refine ⟨buildPlan_ok publication.built, fun moment member => ?_, fun push remoteSha returned =>
    ?_⟩
  · have sent := executePublication_sends _ _ _ _ publication.executed moment.exchange
      (List.mem_map_of_mem member)
    rcases sent with pushes | lists
    · exact Moment.creates_of_push (possible moment member) pushes
        ((undisturbed moment member).1 pushes)
    · refine ((possible moment member).leaves fun url ref same => ?_).creates
      exact lsRemoteCommand_ne_pushCommand _ _ _ _ (lists.symm.trans same)
  · obtain ⟨approved, pushed, listed, exchanges, -, listOk, printed, first⟩ :=
      executePublication_ok (returned ▸ publication.executed)
    have final : publication.execution.getLast?.map Moment.exchange = some
        (⟨lsRemoteCommand publication.plan.repositoryUrl publication.plan.targetRef,
          publication.plan.repoRoot⟩, .ok listed) := by
      rw [← List.getLast?_map, exchanges]
      rfl
    obtain ⟨moment, last, exchanged⟩ := Option.map_eq_some_iff.mp final
    have member := List.mem_of_getLast? last
    have lists : moment.command.args = lsRemoteCommand publication.plan.repositoryUrl
        publication.plan.targetRef := congrArg (·.1.args) exchanged
    have answered : moment.answer = .ok listed := congrArg Prod.snd exchanged
    have shown := (possible moment member).listed _ _ lists listed answered listOk
    rw [shown] at printed first
    exact ⟨approved, moment, last,
      Moment.holds_of_listing ((undisturbed moment member).2 lists) printed first⟩

/-- The sample plan is published soundly while `HEAD` stays. -/
theorem publication_sound_sample : (sampleRun id Eq approvedCommit).Sound := by
  refine publication_sound _ fun moment member => ?_
  rcases List.mem_pair.mp member with rfl | rfl
  · refine ⟨fun _ head current => .inl ⟨?_, commitAt_before _ _ _⟩, fun same => ?_⟩
    · rw [← Option.some.inj current]
      rfl
    · exact absurd same.symm (lsRemoteCommand_ne_pushCommand _ _ _ _)
  · refine ⟨fun same => absurd same (lsRemoteCommand_ne_pushCommand _ _ _ _), ?_⟩
    intro _ entry listed _ other
    exact absurd (congrArg Prod.fst (List.mem_singleton.mp listed)) other

end VoodooOne.Publication
