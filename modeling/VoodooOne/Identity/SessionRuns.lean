import VoodooOne.Identity.Sessions
import VoodooOne.Library.Transaction

/-!
# Sessions over runs

A token authenticates exactly while its session stands: it was registered, nothing has revoked it
since, and it is not expired.
-/

namespace VoodooOne

open SessionLifecycleService

/-- What a call that commits does to the sessions. -/
inductive SessionEvent where
  | registered (session : SessionClaims) (reference : String)
  | revoked (session : SessionClaims) (reference actorId : String)
  | revokedAll (userId actorId reason : String) (count : Nat)

namespace SessionEvent

def entry : SessionEvent → AuditEntry
  | registered session reference => issueEntry (session.row reference)
  | revoked _ reference actorId => revokeEntry actorId reference "user logout"
  | revokedAll userId actorId reason count => revokeAllEntry actorId userId reason count

def Ends (session : SessionClaims) : SessionEvent → Prop
  | registered _ _ => False
  | revoked ended _ _ => ended.sessionId = session.sessionId ∧ ended.userId = session.userId
  | revokedAll userId _ _ _ => userId = session.userId

def names : SessionEvent → Option (String × String)
  | registered session reference | revoked session reference _ =>
      some (session.sessionId, reference)
  | revokedAll _ _ _ _ => none

def registers : SessionEvent → Option String
  | registered session _ => some session.sessionId
  | revoked _ _ _ | revokedAll _ _ _ _ => none

end SessionEvent

/-- A session was registered, and no later event ended it. -/
def Standing (history : List SessionEvent) (session : SessionClaims) : Prop :=
  ∃ before reference after, history = before ++ .registered session reference :: after ∧
    ∀ event ∈ after, ¬event.Ends session

/-- A session was registered, and a later event ended it. -/
def Revoked (history : List SessionEvent) (session : SessionClaims) : Prop :=
  ∃ before event after, history = before ++ event :: after ∧ event.Ends session ∧
    ∃ reference, .registered session reference ∈ before

/-- No session identifier is registered twice. -/
def FreshSessions (history : List SessionEvent) : Prop :=
  (history.filterMap SessionEvent.registers).Nodup

variable {session : SessionClaims} {history : List SessionEvent}

theorem standing_append {event : SessionEvent} : Standing (history ++ [event]) session ↔
      (∃ reference, event = .registered session reference) ∨
        (Standing history session ∧ ¬event.Ends session) := by
  constructor
  · rintro ⟨before, reference, after, split, ends⟩
    rcases List.eq_nil_or_concat' after with rfl | ⟨after, last, rfl⟩
    · obtain ⟨-, same⟩ := List.append_inj' split rfl
      exact .inl ⟨reference, List.singleton_inj.mp same⟩
    · rw [← List.cons_append, ← List.append_assoc] at split
      obtain ⟨same, isLast⟩ := List.append_inj' split rfl
      obtain rfl := List.singleton_inj.mp isLast
      refine .inr ⟨⟨before, reference, after, same, fun other member => ?_⟩, ?_⟩
      · exact ends other (List.mem_append_left _ member)
      · exact ends event (List.mem_append_right _ (List.mem_singleton_self _))
  · rintro (⟨reference, rfl⟩ | ⟨⟨before, reference, after, rfl, ends⟩, stays⟩)
    · exact ⟨history, reference, [], rfl, List.forall_mem_nil _⟩
    · refine ⟨before, reference, after ++ [event], by simp, fun other member => ?_⟩
      rcases List.mem_append.mp member with old | new
      · exact ends other old
      · exact List.mem_singleton.mp new ▸ stays

theorem revoked_append {event : SessionEvent} (revoked : Revoked (history ++ [event]) session) :
    Revoked history session ∨
      (event.Ends session ∧ ∃ reference, .registered session reference ∈ history) := by
  obtain ⟨before, ending, after, split, ends, registered⟩ := revoked
  rcases List.eq_nil_or_concat' after with rfl | ⟨after, last, rfl⟩
  · obtain ⟨rfl, same⟩ := List.append_inj' split rfl
    obtain rfl := List.singleton_inj.mp same
    exact .inr ⟨ends, registered⟩
  · rw [← List.cons_append, ← List.append_assoc] at split
    exact .inl ⟨before, ending, after, (List.append_inj' split rfl).1, ends, registered⟩

theorem Standing.registered (standing : Standing history session) :
    ∃ reference, .registered session reference ∈
      history := by
  obtain ⟨before, reference, after, rfl, -⟩ := standing
  exact ⟨reference, List.mem_append_right _ (List.mem_cons_self ..)⟩

theorem FreshSessions.not_standing (fresh : FreshSessions history)
    (revoked : Revoked history session) :
    ¬Standing history session := by
  induction history using List.reverseRecOn with
  | nil =>
      obtain ⟨before, event, after, split, -⟩ := revoked
      simp at split
  | append_singleton history event induction =>
      rw [FreshSessions, List.filterMap_append, List.nodup_append] at fresh
      obtain ⟨earlier, -, apart⟩ := fresh
      rw [standing_append]
      rintro (⟨reference, rfl⟩ | ⟨standing, stays⟩)
      · -- a second registration would name a registered identifier
        have registered : ∃ reference, .registered session reference ∈ history := by
          rcases revoked_append revoked with ⟨before, ending, after, rfl, -, reference, member⟩
            | old
          · exact ⟨reference, List.mem_append_left _ member⟩
          · exact old.2
        obtain ⟨old, member⟩ := registered
        refine apart session.sessionId (List.mem_filterMap.mpr ⟨_, member, rfl⟩) session.sessionId
          ?_ rfl
        exact List.mem_filterMap.mpr ⟨_, List.mem_singleton_self _, rfl⟩
      · rcases revoked_append revoked with old | ⟨ends, -⟩
        · exact induction earlier old standing
        · exact stays ends

def sessionActions : List String := [issueAction, revokeAction, revokeAllAction]

/-- One call: a call of the identity provider or of the session service, an audit event of another
kind, or any change of other tables.  The numbers are the seconds that pass before each reading of
the clock. -/
inductive SessionCall where
  | issue (stamp : Stamp) (nonce : String) (first second third : Nat)
      (userId username role : String)
  | logout (stamp : Stamp) (first : Nat) (token actorId : String)
  | revokeAll (stamp : Stamp) (userId actorId reason : String)
  | audit (stamp : Stamp) (entry : AuditEntry) (other : entry.action ∉ sessionActions)
  | elsewhere (first : Nat) (other : Database) (keyed : Table.Keyed (·.id) other.users)

/-- The database with the clock and with what has happened to sessions. -/
structure SessionWorld where
  db : Database
  clock : Int
  history : List SessionEvent

namespace SessionCall

def lasts : SessionCall → Nat
  | issue _ _ first second third _ _ _ => first + second + third
  | logout _ first _ _ | elsewhere first _ _ => first
  | revokeAll _ _ _ _ | audit _ _ _ => 0

variable (sha256 : String → String) (authority : TokenAuthority)

/-- The transaction of a call that starts at a time. -/
def body (clock : Int) : SessionCall → Database → Except Raised (Option SessionEvent × Database)
  | issue stamp nonce first second third userId username role, db => do
      let ((_, session, row), next) ← LocalIdentityProvider.issueSession sha256 authority stamp
        nonce
        (clock + first) (clock + first + second) (clock + (first + second + third : Nat)) userId
        username role db
      return (some (.registered session row.sessionReference), next)
  | logout stamp first token actorId, db => do
      let ((session, reference), next) ← LocalIdentityProvider.revokeSession sha256 authority stamp
        (clock + first) token actorId db
      return (some (.revoked session reference actorId), next)
  | revokeAll stamp userId actorId reason, db => do
      let (count, next) ← revokeAllSessions sha256 stamp userId actorId reason db
      return (some (.revokedAll userId actorId (strip reason) count), next)
  | audit stamp entry _, db => do
      let next ← db.appendAudit sha256 stamp entry
      return (none, next)
  | elsewhere _ other _, db => .ok (none, (other.setActiveSessions
      db.activeSessions).setAuditEvents db.auditEvents)

def outcome (world : SessionWorld) (call : SessionCall) :
    Except Raised (Option SessionEvent) × Database :=
  Transaction.commit (call.body sha256 authority world.clock) world.db

def step (world : SessionWorld) (call : SessionCall) : SessionWorld :=
  let outcome := call.outcome sha256 authority world
  ⟨outcome.2, world.clock + call.lasts, world.history ++ (outcome.1.toOption.bind id).toList⟩

end SessionCall

/-- What a call that commits does to the sessions, up to a time. -/
inductive SessionStep (authority : TokenAuthority) (clock : Int) (db next : Database) :
    Option SessionEvent → Prop where
  | other (events : List AuditEventRow)
      (users : Table.Keyed (·.id) db.users → Table.Keyed (·.id) next.users)
      (sessions : next.activeSessions = db.activeSessions)
      (logged : next.auditEvents = db.auditEvents ++ events)
      (others : ∀ event ∈ events, event.action ∉ sessionActions) :
      SessionStep authority clock db next none
  | register (session : SessionClaims) (reference : String) (event : AuditEventRow)
      (isReference : SessionLifecycleService.reference authority session.sessionId = .ok reference)
      (users : next.users = db.users)
      (fresh : ∀ row ∈ db.activeSessions.filter (clock < ·.expiresAt),
        row.sessionReference ≠ reference)
      (sessions : next.activeSessions =
        db.activeSessions.filter (clock < ·.expiresAt) ++ [session.row reference])
      (logged : next.auditEvents = db.auditEvents ++ [event])
      (shows : event.Shows (SessionEvent.registered session reference).entry) :
      SessionStep authority clock db next (some (.registered session reference))
  | revoke (session : SessionClaims) (reference actorId : String) (event : AuditEventRow)
      (isReference : SessionLifecycleService.reference authority session.sessionId = .ok reference)
      (users : next.users = db.users)
      (sessions : next.activeSessions = db.activeSessions.filter fun row =>
        ¬(row.sessionReference = reference ∧ row.userId = session.userId))
      (logged : next.auditEvents = db.auditEvents ++ [event])
      (shows : event.Shows (SessionEvent.revoked session reference actorId).entry) :
      SessionStep authority clock db next (some (.revoked session reference actorId))
  | revokeAll (userId actorId reason : String) (count : Nat) (event : AuditEventRow)
      (users : next.users = db.users)
      (sessions : next.activeSessions = db.activeSessions.filter (·.userId ≠ userId))
      (logged : next.auditEvents = db.auditEvents ++ [event])
      (shows : event.Shows (SessionEvent.revokedAll userId actorId reason count).entry) :
      SessionStep authority clock db next (some (.revokedAll userId actorId reason count))

theorem SessionCall.step_of_ok {sha256 : String → String} {authority : TokenAuthority} {clock : Int}
    {db next : Database} {call : SessionCall} {event : Option SessionEvent}
    (returned : call.body sha256 authority clock db = .ok (event, next)) :
    SessionStep authority (clock + call.lasts) db next event := by
  cases call with
  | issue stamp nonce first second third userId username role =>
      simp only [body, LocalIdentityProvider.issueSession, registerSession,
        Database.insertActiveSession, bind_eq_ok, catching_eq_ok, raiseIf_eq_ok, pure_eq_ok,
        Prod.mk.injEq] at returned
      obtain ⟨_, ⟨token, -, verified, -, _, ⟨_, -, reference, isReference, _, ⟨_, -, _, fresh, _, -,
        rfl⟩, _, audited, rfl⟩, rfl⟩, rfl, rfl⟩ := returned
      obtain ⟨rfl, -⟩ := Database.appendAudit_eq_ok audited
      refine .register _ reference _ isReference rfl (fun row member same => ?_) rfl rfl
        (Database.auditRow_shows ..)
      exact fresh ⟨row, member, same⟩
  | logout stamp first token actorId =>
      simp only [body, LocalIdentityProvider.revokeSession, SessionLifecycleService.revokeSession,
        normalizedReason, bind_eq_ok, raiseIf_eq_ok, pure_eq_ok, Prod.mk.injEq] at returned
      obtain ⟨_, ⟨verified, -, _, ⟨_, -, reason, ⟨_, -, rfl⟩, reference, isReference, _, removed, _,
        audited, rfl⟩, rfl⟩, rfl, rfl⟩ := returned
      obtain ⟨rfl, -⟩ := Database.appendAudit_eq_ok audited
      exact .revoke _ reference actorId _ isReference rfl rfl rfl (Database.auditRow_shows ..)
  | revokeAll stamp userId actorId reason =>
      simp only [body, revokeAllSessions, normalizedReason, bind_eq_ok, raiseIf_eq_ok, pure_eq_ok,
        Prod.mk.injEq] at returned
      obtain ⟨_, ⟨_, -, reason, ⟨_, -, rfl⟩, _, -, _, audited, rfl⟩, rfl, rfl⟩ := returned
      obtain ⟨rfl, -⟩ := Database.appendAudit_eq_ok audited
      exact .revokeAll userId actorId _ _ _ rfl rfl rfl (Database.auditRow_shows ..)
  | audit stamp entry other =>
      simp only [body, bind_eq_ok, pure_eq_ok, Prod.mk.injEq] at returned
      obtain ⟨_, audited, rfl, rfl⟩ := returned
      obtain ⟨rfl, -⟩ := Database.appendAudit_eq_ok audited
      exact .other [_] id rfl rfl (List.forall_mem_singleton.mpr other)
  | elsewhere first other keyed =>
      cases returned
      exact .other [] (fun _ => keyed) rfl (List.append_nil _).symm (List.forall_mem_nil _)

structure SessionClaims.Holds (authority : TokenAuthority) (session : SessionClaims)
    (row : ActiveSessionRow) : Prop where
  columns : row = session.row row.sessionReference
  reference : SessionLifecycleService.reference authority session.sessionId =
    .ok row.sessionReference

def SharesReference (authority : TokenAuthority) (history : List SessionEvent)
    (session : SessionClaims) : Prop :=
  ∃ event ∈ history, ∃ other reference, event.names = some (other, reference) ∧
    other ≠ session.sessionId ∧
    SessionLifecycleService.reference authority session.sessionId = .ok reference

theorem SharesReference.append {authority : TokenAuthority} {history later : List SessionEvent}
    (shares : SharesReference authority history session) :
    SharesReference authority (history ++ later) session := by
  obtain ⟨event, member, names⟩ := shares
  exact ⟨event, List.mem_append_left _ member, names⟩

/-- A database before the first session, with the key of its users. -/
structure SessionStart where
  db : Database
  clock : Int
  users : Table.Keyed (·.id) db.users
  noSessions : db.activeSessions = []

def SessionStart.world (start : SessionStart) : SessionWorld := ⟨start.db, start.clock, []⟩

def LogsSessions (start db : Database) (history : List SessionEvent) : Prop :=
  ∃ events, db.auditEvents = start.auditEvents ++ events ∧
    List.Forall₂ (fun row event => row.Shows event.entry)
      (events.filter (·.action ∈ sessionActions)) history

/-- What holds of every world that calls reach. -/
structure SessionInvariant (authority : TokenAuthority) (start : Database) (world : SessionWorld) :
    Prop where
  users : Table.Keyed (·.id) world.db.users
  keyed : Table.Keyed (·.sessionReference) world.db.activeSessions
  /-- Each row is the one of a session that stands. -/
  sound : ∀ row ∈ world.db.activeSessions, ∃ session : SessionClaims, session.Holds authority row ∧
    Standing world.history session
  /-- Each session that stands has its row until it expires. -/
  complete : ∀ session, Standing world.history session → world.clock < session.expiresAt →
    SharesReference authority world.history session ∨
      ∃ row ∈ world.db.activeSessions, session.Holds authority row
  named : ∀ event ∈ world.history, ∀ other reference, event.names = some (other, reference) →
    SessionLifecycleService.reference authority other = .ok reference
  logged : LogsSessions start world.db world.history

theorem SessionEvent.entry_action (event : SessionEvent) : event.entry.action ∈ sessionActions := by
  cases event with
  | registered session reference => exact List.mem_cons_self ..
  | revoked session reference actorId => exact List.mem_cons_of_mem _ (List.mem_cons_self ..)
  | revokedAll userId actorId reason count =>
      exact List.mem_cons_of_mem _ (List.mem_cons_of_mem _ (List.mem_cons_self ..))

namespace LogsSessions

variable {start db next : Database} {history : List SessionEvent}

theorem other (logs : LogsSessions start db history) {later : List AuditEventRow}
    (logged : next.auditEvents = db.auditEvents ++ later)
    (others : ∀ event ∈ later, event.action ∉ sessionActions) :
      LogsSessions start next history := by
  obtain ⟨events, isLog, shown⟩ := logs
  refine ⟨events ++ later, by rw [logged, isLog, List.append_assoc], ?_⟩
  have none : later.filter (·.action ∈ sessionActions) = [] :=
    List.filter_eq_nil_iff.mpr fun event member => by simpa using others event member
  rw [List.filter_append, none, List.append_nil]
  exact shown

theorem append (logs : LogsSessions start db history) {row : AuditEventRow} {event : SessionEvent}
    (logged : next.auditEvents = db.auditEvents ++ [row]) (shows : row.Shows event.entry) :
    LogsSessions start next (history ++ [event]) := by
  obtain ⟨events, isLog, shown⟩ := logs
  refine ⟨events ++ [row], by rw [logged, isLog, List.append_assoc], ?_⟩
  have kept : [row].filter (·.action ∈ sessionActions) = [row] :=
    List.filter_cons_of_pos (decide_eq_true (shows.action ▸ event.entry_action))
  rw [List.filter_append, kept]
  exact List.rel_append shown (.cons shows .nil)

end LogsSessions

namespace SessionInvariant

variable {authority : TokenAuthority} {start next : Database} {world : SessionWorld} {clock : Int}

theorem of_start (start : SessionStart) : SessionInvariant authority start.db start.world where
  users := start.users
  keyed := by
    rw [SessionStart.world, start.noSessions]
    exact Table.keyed_nil
  sound row member := by
    rw [SessionStart.world, start.noSessions] at member
    cases member
  complete session standing _ := by
    obtain ⟨reference, member⟩ := standing.registered
    cases member
  named _ member := nomatch member
  logged := ⟨[], (List.append_nil _).symm, .nil⟩

theorem named_append (invariant : SessionInvariant authority start world) {event : SessionEvent}
    (own : ∀ other reference, event.names = some (other, reference) →
      SessionLifecycleService.reference authority other = .ok reference) :
    ∀ earlier ∈ world.history ++ [event], ∀ other reference,
      earlier.names = some (other, reference) →
      SessionLifecycleService.reference authority other = .ok reference := by
  intro earlier member
  rcases List.mem_append.mp member with old | new
  · exact invariant.named earlier old
  · exact List.mem_singleton.mp new ▸ own

theorem ending (invariant : SessionInvariant authority start world) {event : SessionEvent}
    {row : AuditEventRow} {removes : ActiveSessionRow → Prop} [DecidablePred removes]
    (later : world.clock ≤ clock) (users : next.users = world.db.users)
    (sessions : next.activeSessions = world.db.activeSessions.filter fun row => ¬removes row)
    (logged : next.auditEvents = world.db.auditEvents ++ [row]) (shows : row.Shows event.entry)
    (registers : ∀ session reference, event ≠ .registered session reference)
    (own : ∀ other reference, event.names = some (other, reference) →
      SessionLifecycleService.reference authority other = .ok reference)
    (ended : ∀ (session : SessionClaims) row, session.Holds authority row → event.Ends session →
      removes row)
    (kept : ∀ (session : SessionClaims) row, session.Holds authority row → ¬event.Ends session →
      removes row → SharesReference authority [event] session) :
    SessionInvariant authority start ⟨next, clock, world.history ++ [event]⟩ where
  users := users ▸ invariant.users
  keyed := by
    rw [sessions]
    exact invariant.keyed.filter _
  sound row member := by
    rw [sessions, List.mem_filter, decide_eq_true_eq] at member
    obtain ⟨session, holds, standing⟩ := invariant.sound row member.1
    refine ⟨session, holds, standing_append.mpr (.inr ⟨standing, fun ends => ?_⟩)⟩
    exact member.2 (ended session row holds ends)
  complete session standing unexpired := by
    rcases standing_append.mp standing with ⟨reference, isEvent⟩ | ⟨before, stays⟩
    · exact absurd isEvent (registers session reference)
    · rcases invariant.complete session before (later.trans_lt unexpired) with shares | stored
      · exact .inl shares.append
      · obtain ⟨row, member, holds⟩ := stored
        by_cases removed : removes row
        · obtain ⟨found, isEvent, names⟩ := kept session row holds stays removed
          exact .inl ⟨found, List.mem_append_right _ isEvent, names⟩
        · refine .inr ⟨row, ?_, holds⟩
          rw [sessions]
          exact List.mem_filter.mpr ⟨member, decide_eq_true removed⟩
  named := invariant.named_append own
  logged := invariant.logged.append logged shows

protected theorem step {event : Option SessionEvent}
    (invariant : SessionInvariant authority start world) (later : world.clock ≤ clock)
    (step : SessionStep authority clock world.db next event) :
    SessionInvariant authority start ⟨next, clock, world.history ++ event.toList⟩ := by
  cases step with
  | other events users sessions logged others =>
      rw [Option.toList_none, List.append_nil]
      refine ⟨users invariant.users, sessions ▸ invariant.keyed, sessions ▸ invariant.sound,
        fun session standing unexpired => ?_, invariant.named, invariant.logged.other logged others⟩
      rw [sessions]
      exact invariant.complete session standing (later.trans_lt unexpired)
  | register session reference row isReference users fresh sessions logged shows =>
      refine ⟨users ▸ invariant.users, ?_, ?_, ?_, invariant.named_append ?_,
        invariant.logged.append logged shows⟩
      · rw [sessions]
        exact (invariant.keyed.filter _).append fresh
      · intro stored member
        rw [sessions, List.mem_append, List.mem_singleton] at member
        rcases member with old | rfl
        · obtain ⟨other, holds, standing⟩ := invariant.sound stored (List.mem_filter.mp old).1
          exact ⟨other, holds, standing_append.mpr (.inr ⟨standing, id⟩)⟩
        · exact ⟨session, ⟨rfl, isReference⟩, standing_append.mpr (.inl ⟨reference, rfl⟩)⟩
      · intro other standing unexpired
        rw [sessions]
        rcases standing_append.mp standing with ⟨found, isEvent⟩ | ⟨before, -⟩
        · obtain ⟨rfl, rfl⟩ := SessionEvent.registered.inj isEvent
          exact .inr ⟨_, List.mem_append_right _ (List.mem_singleton_self _), rfl, isReference⟩
        · rcases invariant.complete other before (later.trans_lt unexpired) with shares | stored
          · exact .inl shares.append
          · obtain ⟨stored, member, holds⟩ := stored
            refine .inr ⟨stored, List.mem_append_left _ (List.mem_filter.mpr ⟨member, ?_⟩), holds⟩
            rw [holds.columns]
            exact decide_eq_true unexpired
      · rintro other found ⟨⟩
        exact isReference
  | revoke session reference actorId row isReference users sessions logged shows =>
      refine invariant.ending later users sessions logged shows (fun _ _ => nofun) ?_ ?_ ?_
      · rintro other found ⟨⟩
        exact isReference
      · rintro other stored holds ⟨sameSession, sameUser⟩
        rw [sameSession, holds.reference] at isReference
        rw [holds.columns]
        exact ⟨Except.ok.inj isReference, sameUser.symm⟩
      · rintro other stored holds stays ⟨isFound, isUser⟩
        rw [holds.columns] at isUser
        refine ⟨_, List.mem_singleton_self _, session.sessionId, reference, rfl, ?_, ?_⟩
        · exact fun same => stays ⟨same, isUser.symm⟩
        · rw [holds.reference, isFound]
  | revokeAll userId actorId reason count row users sessions logged shows =>
      refine invariant.ending later users sessions logged shows (fun _ _ => nofun)
        (fun _ _ => nofun) ?_ ?_
      · rintro other stored holds rfl
        rw [holds.columns]
        rfl
      · rintro other stored holds stays rfl
        rw [holds.columns] at stays
        exact absurd rfl stays

theorem call {sha256 : String → String} (invariant : SessionInvariant authority start world)
    (call : SessionCall) : SessionInvariant authority start (call.step sha256 authority world) := by
  have later : world.clock ≤ world.clock + call.lasts := by omega
  unfold SessionCall.step SessionCall.outcome Transaction.commit
  cases returned : call.body sha256 authority world.clock world.db with
  | ok result => exact invariant.step later (SessionCall.step_of_ok returned)
  | error error =>
      exact invariant.step later
        (.other [] id rfl (List.append_nil _).symm (List.forall_mem_nil _))

theorem run {sha256 : String → String} (invariant : SessionInvariant authority start world)
    (calls : List SessionCall) :
    SessionInvariant authority start (Transaction.run (SessionCall.step sha256 authority) world
      calls) :=
  Transaction.run_invariant (fun _ call held => held.call call) invariant calls

/-- The session of a token is active exactly while it stands and is not expired. -/
theorem active_iff (invariant : SessionInvariant authority start world) {now : Int}
    (later : world.clock ≤ now) {session : SessionClaims}
    (alone : ¬SharesReference authority world.history session) :
    requireActiveSession authority now session world.db = .ok () ↔
      Standing world.history session ∧ now < session.expiresAt := by
  simp only [requireActiveSession, bind_eq_ok, orRaise_eq_ok, raiseIf_eq_ok, not_or, not_not,
    Database.selectActiveSession_eq_some invariant.keyed]
  constructor
  · rintro ⟨reference, isReference, row, ⟨member, rfl, unexpired⟩, user, issued, expires⟩
    obtain ⟨other, holds, standing⟩ := invariant.sound row member
    have same : other.sessionId = session.sessionId := by
      by_contra differs
      obtain ⟨found, registered⟩ := standing.registered
      have own := invariant.named _ registered _ _ rfl
      rw [holds.reference] at own
      exact alone ⟨_, registered, _, found, rfl, differs, isReference.trans own⟩
    have columns := holds.columns
    obtain rfl : other = session := by
      obtain ⟨_, _, _, _⟩ := other
      obtain ⟨_, _, _, _⟩ := session
      obtain ⟨_, _, _, _⟩ := row
      cases columns
      cases same
      cases user
      cases issued
      cases expires
      rfl
    exact ⟨standing, expires ▸ unexpired⟩
  · rintro ⟨standing, unexpired⟩
    obtain ⟨row, member, holds⟩ :=
      (invariant.complete session standing (later.trans_lt unexpired)).resolve_left alone
    refine ⟨row.sessionReference, holds.reference, row, ⟨member, rfl, ?_⟩, ?_⟩
    · rw [holds.columns]
      exact unexpired
    · rw [holds.columns]
      exact ⟨rfl, rfl, rfl⟩

end SessionInvariant

theorem getActiveUser_eq_ok {userId : String} {db : Database} {user : UserRow}
    (keyed : Table.Keyed (·.id) db.users) : getActiveUser userId db = .ok user ↔
      user ∈ db.users ∧ user.id = userId ∧ user.active = true ∧ user.role ∈ validRoles := by
  simp only [getActiveUser, bind_eq_ok, orRaise_eq_ok, raiseIf_eq_ok, not_not, pure_eq_ok,
    keyed.lookup_iff, Bool.not_eq_false]
  constructor
  · rintro ⟨found, ⟨member, same⟩, _, active, _, known, rfl⟩
    exact ⟨member, same, active, known⟩
  · rintro ⟨member, same, active, known⟩
    exact ⟨user, ⟨member, same⟩, (), active, (), known, rfl⟩

open LocalIdentityProvider in
/-- In every run a token authenticates exactly while it verifies, its session stands and is not
expired, and its account is active with a known role, which is the role of the principal; with fresh
session identifiers a revoked session never authenticates again; each registration and each
revocation has one audit event; and a call that raises changes nothing.  Two sessions of the run
with one reference are the only exception. -/
theorem sessions_authenticate_iff (sha256 : String → String) (authority : TokenAuthority)
    (start : SessionStart) (earlier later : List SessionCall) :
    let step := SessionCall.step sha256 authority
    let world := Transaction.run step start.world earlier
    let accounts := (Transaction.run step world later).db
    (∀ (token : String) (verifiedAt : Int) (waits : Nat) (principal : Principal),
      (∃ verified, verifySessionToken authority verifiedAt token = .ok verified ∧
        SharesReference authority world.history verified.claims) ∨
      (authenticateBearer authority verifiedAt (world.clock + waits) token world.db accounts =
          .ok principal ↔
        ∃ verified, verifySessionToken authority verifiedAt token = .ok verified ∧
          (Standing world.history verified.claims ∧ world.clock + waits < verified.expiresAt) ∧
          ∃ user ∈ accounts.users, user.id = verified.principal.userId ∧ user.active = true ∧
            user.role ∈ validRoles ∧ principal = ⟨user.id, user.username, user.role⟩)) ∧
    (FreshSessions world.history → ∀ (token : String) (verifiedAt : Int) (waits : Nat)
      (verified : VerifiedSessionToken) (principal : Principal),
      verifySessionToken authority verifiedAt token = .ok verified →
      Revoked world.history verified.claims →
      SharesReference authority world.history verified.claims ∨
        authenticateBearer authority verifiedAt (world.clock + waits) token world.db accounts ≠
          .ok principal) ∧
    LogsSessions start.db world.db world.history ∧
    ∀ call : SessionCall, (∃ error, (call.outcome sha256 authority world).1 = .error error) →
      (call.outcome sha256 authority world).2 = world.db := by
  intro step world accounts
  have invariant : SessionInvariant authority start.db world :=
    (SessionInvariant.of_start start).run earlier
  have users : Table.Keyed (·.id) accounts.users := (invariant.run later).users
  have after (waits : Nat) : world.clock ≤ world.clock + waits := by omega
  refine ⟨fun token verifiedAt waits principal => ?_, ?_, invariant.logged, ?_⟩
  · by_cases shares : ∃ verified, verifySessionToken authority verifiedAt token = .ok verified ∧
      SharesReference authority world.history verified.claims
    · exact .inl shares
    · right
      simp only [authenticateBearer, bind_eq_ok, pure_eq_ok, getActiveUser_eq_ok users]
      constructor
      · rintro ⟨verified, isVerified, _, active, user, ⟨member, same, isActive, known⟩, rfl⟩
        have alone := not_and.mp (not_exists.mp shares verified) isVerified
        exact ⟨verified, isVerified, (invariant.active_iff (after waits) alone).mp active, user,
          member, same, isActive, known, rfl⟩
      · rintro ⟨verified, isVerified, stands, user, member, same, isActive, known, rfl⟩
        have alone := not_and.mp (not_exists.mp shares verified) isVerified
        exact ⟨verified, isVerified, (), (invariant.active_iff (after waits) alone).mpr stands,
          user, ⟨member, same, isActive, known⟩, rfl⟩
  · intro fresh token verifiedAt waits verified principal isVerified revoked
    by_cases shares : SharesReference authority world.history verified.claims
    · exact .inl shares
    · refine .inr fun authenticated => fresh.not_standing revoked ?_
      simp only [authenticateBearer, isVerified, ok_bind, bind_eq_ok] at authenticated
      obtain ⟨_, active, -⟩ := authenticated
      exact ((invariant.active_iff (after waits) shares).mp active).1
  · rintro call ⟨error, raised⟩
    exact Transaction.commit_rollback raised

end VoodooOne
