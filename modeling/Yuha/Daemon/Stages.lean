import Yuha.Daemon.Identities

/-!
# The stages of a session

A session is registered as connecting, made active by the task that has registered it, and
from then on active or idle. Whatever the order of the steps, no session of the daemon ever
gets to another status: it is never failed, so that nothing is ever to be reconnected, and
it is gone before it could be closing.
-/

namespace Yuha

open Library Library.Program Library.Execution

/-- What a task has to do with a session before it is active. -/
structure StageNote where
  /-- The session that the task has registered and has yet to make active. -/
  connecting : Option SessionId := none
  /-- The session that the task had yet to make active when it was gone. -/
  lost : Option SessionId := none
  deriving DecidableEq

namespace StageNote

/-- The statuses that the task can give a session. -/
def MaySet (note : StageNote) (sessionId : SessionId) : SessionStatus → Prop
  | .connecting => note.connecting = some sessionId
  | .active => True
  | .idle => note.connecting = none
  | .closing => note.lost = some sessionId
  | _ => False

def PermitsCall (note : StageNote) : ManagerAction → Prop
  | .register metadata => note.connecting = none ∧ metadata.status = .creating
  | .updateStatus sessionId status => note.MaySet sessionId status
  | .recordStatusChange _ _ newStatus => newStatus ≠ .failed
  | .recordConnectionFailure _ | .update _ _ => False
  | _ => True

/-- The note after the session was not found. -/
def lose (note : StageNote) (sessionId : SessionId) : StageNote :=
  if note.connecting = some sessionId then { connecting := none, lost := some sessionId } else note

/-- The note after the session was given the status. -/
def reach (note : StageNote) (sessionId : SessionId) (status : SessionStatus) : StageNote :=
  if note.connecting = some sessionId ∧ status = .active then { note with connecting := none }
  else note

def afterCall (note : StageNote) : (action : ManagerAction) → action.Answer → StageNote
  | .register metadata, .ok _ => { note with connecting := some metadata.id }
  | .get sessionId, none => note.lose sessionId
  | .updateStatus sessionId status, .ok _ => note.reach sessionId status
  | .updateStatus sessionId _, .error _ => note.lose sessionId
  | _, _ => note

def Permits (note : StageNote) : HandlerAction → Prop
  | .manager action => note.PermitsCall action
  | _ => True

def after (note : StageNote) : (action : HandlerAction) → action.Answer → StageNote
  | .manager action, answer => note.afterCall action answer
  | _, _ => note

/-- The monitor of the manager's calls. -/
abbrev calls : Monitor ManagerAction ManagerAction.Answer StageNote where
  Permits := PermitsCall
  update := afterCall

/-- The monitor of the tasks. -/
abbrev tasks : Monitor HandlerAction HandlerAction.Answer StageNote where
  Permits := Permits
  update := after

variable {note : StageNote} {sessionId : SessionId} {status : SessionStatus}

theorem lose_of_none (h : note.connecting = none) : note.lose sessionId = note := by
  rw [lose, if_neg (by rw [h]; exact nofun)]

theorem reach_of_none (h : note.connecting = none) : note.reach sessionId status = note := by
  rw [reach, if_neg (by rw [h]; exact fun hreached => nomatch hreached.1)]

theorem leaves_get (h : note.connecting = none) (sessionId : SessionId) :
    calls.Leaves note (.get sessionId) := by
  refine ⟨trivial, fun answer => ?_⟩
  cases answer with
  | none => exact lose_of_none h
  | some _ => rfl

end StageNote

/-! ## The manager's programs -/

namespace ManagerProgram

open StageNote

variable {config : SessionManagerConfig} {note : StageNote} {sessionId : SessionId} {α β : Type}

/-- The program leaves the note what it is. -/
abbrev Leaving (note : StageNote) (p : ManagerProgram α) : Prop :=
  p.Forall fun action _ => StageNote.calls.Leaves note action

theorem leaving_call {action : ManagerAction} {next : action.Answer → ManagerProgram α}
    (h : StageNote.calls.Leaves note action) (hnext : ∀ answer, Leaving note (next answer)) :
    Leaving note (action.await >>= next) :=
  ⟨h, hnext⟩

theorem leaving_await {action : ManagerAction} (h : StageNote.calls.Leaves note action) :
    Leaving note action.await :=
  forall_perform.mpr h

theorem Leaving.bind {p : ManagerProgram α} {f : α → ManagerProgram β} (h : Leaving note p)
    (hf : ∀ result, Leaving note (f result)) : Leaving note (p >>= f) :=
  Forall.bind h (fun _ _ hleaves => hleaves) hf

theorem leaving_whenMetrics {p : ManagerProgram Unit} (h : Leaving note p) :
    Leaving note (whenMetrics config p) := by
  unfold whenMetrics
  split
  · exact h
  · trivial

theorem leaving_poolByStatus {status : SessionStatus}
    (h : status = .idle → note.connecting = none) :
    Leaving note (poolByStatus sessionId status) := by
  cases status with
  | idle =>
      refine leaving_call (leaves_get (h rfl) sessionId) fun metadata => ?_
      cases metadata with
      | none => trivial
      | some metadata => exact leaving_call ⟨trivial, fun _ => rfl⟩ fun _ => trivial
  | active | failed | closed => exact leaving_call ⟨trivial, fun _ => rfl⟩ fun _ => trivial
  | creating | connecting | reconnecting | closing => trivial

theorem leaving_recordTransition {status : SessionStatus} (h : status ≠ .failed)
    (oldStatus : SessionStatus) : Leaving note (recordTransition sessionId oldStatus status) := by
  refine leaving_call ⟨h, fun _ => rfl⟩ fun _ => ?_
  cases status with
  | failed => exact absurd rfl h
  | active =>
      dsimp only
      split
      · exact leaving_await ⟨trivial, fun _ => rfl⟩
      · trivial
  | idle | closed | creating | connecting | reconnecting | closing => trivial

/-- The session gets the status, or it is gone. -/
theorem follows_updateSessionStatus {status : SessionStatus} (hmay : note.MaySet sessionId status) :
    StageNote.calls.Follows
      (fun result after => after = match result with
        | .ok _ => note.reach sessionId status
        | .error _ => note.lose sessionId)
      (updateSessionStatus config sessionId status) note := by
  have hidle : status = .idle → (note.reach sessionId status).connecting = none := by
    rintro rfl
    rw [reach_of_none hmay]
    exact hmay
  have hfailed : status ≠ .failed := by
    rintro rfl
    exact hmay
  refine Monitor.follows_perform.mpr ⟨trivial, fun metadata => ?_⟩
  cases metadata with
  | none => rfl
  | some metadata =>
      refine Monitor.follows_perform.mpr ⟨hmay, fun result => ?_⟩
      cases result with
      | error e => rfl
      | ok _ =>
          refine Monitor.follows_bind.mpr (Monitor.follows_of_leaves (leaving_poolByStatus hidle)
            fun _ => Monitor.follows_bind.mpr ?_)
          exact Monitor.follows_of_leaves
            (leaving_whenMetrics (leaving_recordTransition hfailed _)) fun _ => rfl

/-- A task that has no session to make active changes a status without a note. -/
theorem follows_updateSessionStatus_of_none {status : SessionStatus}
    (hnone : note.connecting = none) (hmay : note.MaySet sessionId status) :
    StageNote.calls.Follows (fun _ after => after = note)
      (updateSessionStatus config sessionId status) note := by
  refine (follows_updateSessionStatus hmay).mono fun result after hafter => ?_
  cases result with
  | ok _ => exact hafter.trans (reach_of_none hnone)
  | error _ => exact hafter.trans (lose_of_none hnone)

theorem follows_useSession (hnone : note.connecting = none) :
    StageNote.calls.Follows (fun _ after => after = note) (useSession config sessionId) note := by
  have hrecorded : Leaving note (whenMetrics config (recordUsage sessionId)) := by
    refine leaving_whenMetrics (leaving_call (leaves_get hnone sessionId) fun metadata => ?_)
    cases metadata with
    | none => trivial
    | some metadata => exact leaving_await ⟨trivial, fun _ => rfl⟩
  refine Monitor.Leaves.follows ⟨trivial, fun _ => rfl⟩ fun result => ?_
  cases result with
  | error e => rfl
  | ok _ =>
      refine Monitor.follows_bind.mpr (Monitor.follows_of_leaves hrecorded fun _ => ?_)
      refine (leaves_get hnone sessionId).follows fun metadata => ?_
      cases metadata with
      | none => rfl
      | some metadata =>
          dsimp only
          split
          · exact follows_updateSessionStatus_of_none hnone trivial
          · rfl

/-- The session that is created is the task's to make active. -/
theorem follows_createSession_stage (hnone : note.connecting = none) (name : String)
    (transportConfig : TransportConfig) (tags : List String) (description : Option String) :
    StageNote.calls.Follows
      (fun result after => after = match result with
        | .ok sessionId => { note with connecting := some sessionId }
        | .error _ => note)
      (createSession config name transportConfig tags description) note := by
  refine Monitor.follows_perform.mpr ⟨trivial, fun ambient => ?_⟩
  refine Monitor.follows_perform.mpr ⟨⟨hnone, rfl⟩, fun registered => ?_⟩
  cases registered with
  | error e => rfl
  | ok _ =>
      refine Monitor.follows_bind.mpr (Monitor.follows_of_leaves
        (leaving_whenMetrics (leaving_await ⟨trivial, fun _ => rfl⟩)) fun _ => ?_)
      rfl

/-- A session is closed only where it is gone. -/
theorem follows_closeSession_stage (hnone : note.connecting = none)
    (hlost : note.lost = some sessionId) :
    StageNote.calls.Follows (fun _ after => after = note) (closeSession config sessionId) note := by
  have hmay : note.MaySet sessionId .closing := hlost
  refine (leaves_get hnone sessionId).follows fun metadata => ?_
  refine (follows_updateSessionStatus_of_none hnone hmay).bind ?_
  rintro result _ rfl
  cases result with
  | error e => rfl
  | ok _ =>
      refine Monitor.follows_perform.mpr ⟨trivial, fun _ => ?_⟩
      refine Monitor.follows_perform.mpr ⟨trivial, fun removed => ?_⟩
      cases removed with
      | none => rfl
      | some metadata =>
          refine Monitor.follows_bind.mpr (Monitor.follows_of_leaves
            (leaving_whenMetrics (leaving_await ⟨trivial, fun _ => rfl⟩)) fun _ => ?_)
          rfl

theorem leaving_expireSession (note : StageNote) (session : SessionMetadata) :
    Leaving note (expireSession config session) := by
  refine leaving_call ⟨trivial, fun _ => rfl⟩ fun ambient => ?_
  split
  · refine leaving_call ⟨trivial, fun _ => rfl⟩ fun removed => ?_
    cases removed with
    | none => trivial
    | some metadata =>
        have hcloses : StageNote.calls.Leaves note (.recordSessionClosed metadata) :=
          ⟨trivial, fun _ => rfl⟩
        refine leaving_call ⟨trivial, fun _ => rfl⟩ fun _ => ?_
        exact (leaving_whenMetrics (leaving_await hcloses)).bind fun _ => trivial
  · trivial

theorem leaving_expireSessions (note : StageNote) (sessions : List SessionMetadata) :
    Leaving note (expireSessions config sessions) := by
  induction sessions with
  | nil => trivial
  | cons session sessions ih =>
      exact (leaving_expireSession note session).bind fun _ => ih.bind fun _ => trivial

/-- The cleanup changes no status. -/
theorem leaving_cleanup (note : StageNote) : Leaving note (cleanup config) := by
  refine leaving_call ⟨trivial, fun _ => rfl⟩ fun sessions => ?_
  refine (leaving_expireSessions note sessions).bind fun expired => ?_
  refine leaving_call ⟨trivial, fun _ => rfl⟩ fun expiredPooled => ?_
  have hcleans : StageNote.calls.Leaves note (.cleanupOldHistory (Duration.fromSecs 86400)) :=
    ⟨trivial, fun _ => rfl⟩
  exact (leaving_whenMetrics (leaving_await hcleans)).bind fun _ => trivial

theorem follows_lift_stage {Q : α → StageNote → Prop} {p : ManagerProgram α}
    (h : StageNote.calls.Follows Q p note) : StageNote.tasks.Follows Q p.lift note :=
  follows_lift_of (fun _ _ hpermits => hpermits) (fun _ _ _ => rfl) h

end ManagerProgram

/-! ## The handler's programs -/

namespace HandlerProgram

open StageNote ManagerProgram

variable {config : SessionManagerConfig} {note : StageNote}

/-- The task ends with no session that it has yet to make active. -/
abbrev Settles (p : HandlerProgram DaemonResponse) (note : StageNote) : Prop :=
  StageNote.tasks.Follows (fun _ after => after.connecting = none) p note

/-- The session that was the task's to make active is so, or it is gone. -/
theorem follows_connectClient_stage {sessionId : SessionId}
    (hconnecting : note.connecting = some sessionId) :
    StageNote.tasks.Follows
      (fun result after => after.connecting = none ∧
        ∀ e, result = .error e → after.lost = some sessionId)
      (connectClient config sessionId) note := by
  have hlose : note.lose sessionId = { connecting := none, lost := some sessionId } :=
    if_pos hconnecting
  have hkept : note.reach sessionId .connecting = note :=
    if_neg fun hreached => nomatch hreached.2
  have hreached : note.reach sessionId .active = { note with connecting := none } :=
    if_pos ⟨hconnecting, rfl⟩
  have hmay : note.MaySet sessionId .connecting := hconnecting
  refine Monitor.follows_bind.mpr (follows_lift_stage ?_)
  refine (follows_updateSessionStatus hmay).mono ?_
  rintro result _ rfl
  cases result with
  | error e =>
      rw [hlose]
      exact ⟨rfl, fun _ _ => rfl⟩
  | ok _ =>
      rw [hkept]
      refine Monitor.follows_perform.mpr ⟨trivial, fun _ =>
        Monitor.follows_bind.mpr (follows_lift_stage ?_)⟩
      have hmay' : note.MaySet sessionId .active := trivial
      refine (follows_updateSessionStatus hmay').mono ?_
      rintro result _ rfl
      cases result with
      | error e =>
          rw [hlose]
          exact ⟨rfl, fun _ _ => rfl⟩
      | ok _ =>
          rw [hreached]
          exact ⟨rfl, nofun⟩

theorem settles_createAndConnect (hnone : note.connecting = none) (name : String)
    (transportConfig : TransportConfig) (tags : List String) (description : Option String) :
    Settles (createAndConnect config name transportConfig tags description) note := by
  refine (follows_lift_stage (follows_createSession_stage hnone name transportConfig tags
    description)).bind ?_
  rintro result _ rfl
  cases result with
  | error e => exact hnone
  | ok sessionId =>
      refine (follows_connectClient_stage rfl).bind fun connected after hafter => ?_
      cases connected with
      | error e =>
          refine (follows_lift_stage (follows_closeSession_stage hafter.1
            (hafter.2 e rfl))).bind ?_
          rintro _ _ rfl
          exact hafter.1
      | ok _ => exact hafter.1

theorem settles_handleCreateSession (hnone : note.connecting = none) (name : String)
    (transportConfig : TransportConfig) (tags : List String) (description : Option String) :
    Settles (handleCreateSession config name transportConfig tags description) note := by
  refine Monitor.follows_perform.mpr ⟨trivial, fun found => ?_⟩
  cases found with
  | none => exact settles_createAndConnect hnone name transportConfig tags description
  | some sessionId =>
      refine (follows_lift_stage (follows_useSession hnone)).bind ?_
      rintro result _ rfl
      cases result with
      | ok _ => exact hnone
      | error e => exact settles_createAndConnect hnone name transportConfig tags description

theorem follows_useByName_stage (hnone : note.connecting = none) (name : String)
    (sessions : List SessionMetadata) :
    StageNote.tasks.Follows (fun _ after => after = note) (useByName config name sessions)
      note := by
  induction sessions with
  | nil => rfl
  | cons session sessions ih =>
      unfold useByName
      split
      · refine (follows_lift_stage (follows_useSession hnone)).bind ?_
        rintro result _ rfl
        cases result with
        | ok _ => rfl
        | error e => exact ih
      · exact ih

/-- Whatever is requested, the task ends with no session that it has yet to make active. -/
theorem settles_handleRequest (hnone : note.connecting = none) (request : DaemonRequest) :
    Settles (handleRequest config request) note := by
  cases request with
  | ping | shutdown => exact hnone
  | createSession name transportConfig tags description =>
      exact settles_handleCreateSession hnone name transportConfig tags description
  | connectSession name transportConfig =>
      refine Monitor.follows_perform.mpr ⟨trivial, fun sessions => ?_⟩
      refine (follows_useByName_stage hnone name sessions).bind ?_
      rintro used _ rfl
      cases used with
      | some sessionId => exact hnone
      | none => exact settles_handleCreateSession hnone name transportConfig [] none
  | disconnectSession sessionId =>
      have hmay : note.MaySet sessionId .idle := hnone
      refine Monitor.follows_perform.mpr ⟨trivial, fun _ =>
        Monitor.follows_bind.mpr (follows_lift_stage ?_)⟩
      refine (follows_updateSessionStatus_of_none hnone hmay).mono ?_
      rintro result _ rfl
      cases result <;> exact hnone
  | listSessions => exact ⟨trivial, fun sessions => hnone⟩
  | getSessionInfo sessionId =>
      have hget : StageNote.tasks.Leaves note (.manager (.get sessionId)) :=
        leaves_get hnone sessionId
      refine hget.follows fun metadata => ?_
      cases metadata <;> exact hnone
  | executeCommand sessionId command =>
      refine Monitor.follows_perform.mpr ⟨trivial, fun client => ?_⟩
      cases client with
      | none => exact hnone
      | some _ =>
          refine (follows_lift_stage (follows_useSession hnone)).bind ?_
          rintro result _ rfl
          cases command <;> exact hnone

end HandlerProgram

/-- Every task makes active what it has registered, or loses it. -/
theorem DaemonInput.settles_program (config : SessionManagerConfig) (input : DaemonInput) :
    StageNote.tasks.Follows (fun _ after => after.connecting = none) (input.program config) {} := by
  cases input with
  | request client asked =>
      refine (HandlerProgram.settles_handleRequest rfl asked).bind fun response after hafter => ?_
      exact ⟨trivial, fun _ => hafter⟩
  | cleanup =>
      refine (ManagerProgram.follows_lift_stage (Monitor.follows_of_leaves
        (ManagerProgram.leaving_cleanup {}) fun _ => rfl)).bind ?_
      rintro expired _ rfl
      rfl

/-! ## One step of a task -/

namespace StageNote

open ServingHandler

variable {note : StageNote} {ambient : Ambient} {s : ServingHandler} {id : SessionId}
  {action : HandlerAction}

/-- What the registry answers to a change of status, and what it makes of it. -/
theorem exec_updateStatus (ambient : Ambient) (s : ServingHandler) (sessionId : SessionId)
    (status : SessionStatus) :
    (s.registry.get sessionId = none ∧
      (∃ e, (exec ambient (.manager (.updateStatus sessionId status)) s).1 = .error e) ∧
      (exec ambient (.manager (.updateStatus sessionId status)) s).2.registry = s.registry) ∨
    ((exec ambient (.manager (.updateStatus sessionId status)) s).1 = .ok () ∧
      ∃ metadata, (exec ambient (.manager (.updateStatus sessionId status)) s).2.registry.get
        sessionId = some metadata ∧ metadata.status = status) := by
  have hget := SessionRegistry.get_modify s.registry sessionId
    (·.setStatus ambient.now status) sessionId
  rw [if_pos rfl] at hget
  cases hold : s.registry.get sessionId with
  | none =>
      have hlookup : s.registry.sessions.lookup sessionId = none := hold
      refine .inl ⟨rfl, ⟨.notFound sessionId.toString, ?_⟩, ?_⟩ <;>
        simp [exec, withManager, SessionManager.exec, SessionManager.withRegistry,
          SessionRegistry.updateStatus, SessionRegistry.modify, hlookup]
  | some metadata =>
      rw [hold] at hget
      have hlookup : s.registry.sessions.lookup sessionId = some metadata := hold
      refine .inr ⟨?_, metadata.setStatus ambient.now status, hget, rfl⟩
      simp [exec, withManager, SessionManager.exec, SessionManager.withRegistry,
        SessionRegistry.updateStatus, SessionRegistry.modify, hlookup]

/-- What a step does to the note: nothing, unless a session is registered, is not found or
is given a status. -/
theorem after_cases (note : StageNote) (ambient : Ambient) (action : HandlerAction)
    (s : ServingHandler) :
    note.after action (exec ambient action s).1 = note ∨
    (∃ metadata, action = .manager (.register metadata) ∧
      (exec ambient action s).2.registry.get metadata.id = some metadata.asRegistered ∧
      note.after action (exec ambient action s).1 =
        { note with connecting := some metadata.id }) ∨
    (∃ sessionId, (exec ambient action s).2.registry.get sessionId = none ∧
      note.after action (exec ambient action s).1 = note.lose sessionId) ∨
    ∃ sessionId metadata, (exec ambient action s).2.registry.get sessionId = some metadata ∧
      note.after action (exec ambient action s).1 = note.reach sessionId metadata.status := by
  cases action with
  | getClient | insertClient | removeClient | send => exact .inl rfl
  | manager action =>
      cases action with
      | register metadata =>
          cases hcheck : s.registry.checkRegister metadata with
          | error e =>
              rw [exec_register_of_error ambient hcheck]
              exact .inl rfl
          | ok _ =>
              rw [exec_register_of_ok ambient hcheck]
              refine .inr (.inl ⟨metadata, rfl, ?_, rfl⟩)
              change (s.registry.register metadata).2.get metadata.id = _
              rw [SessionRegistry.get_register_of_ok hcheck, if_pos rfl]
      | get sessionId =>
          change note.afterCall (.get sessionId) (s.registry.get sessionId) = note ∨ _
          cases hget : s.registry.get sessionId with
          | some _ => exact .inl rfl
          | none =>
              refine .inr (.inr (.inl ⟨sessionId, hget, ?_⟩))
              change note.afterCall (.get sessionId) (s.registry.get sessionId) = _
              rw [hget]
              rfl
      | updateStatus sessionId status =>
          obtain ⟨hnone, ⟨e, herror⟩, hsame⟩ | ⟨hok, metadata, hmetadata, rfl⟩ :=
            exec_updateStatus ambient s sessionId status
          · refine .inr (.inr (.inl ⟨sessionId, ?_, ?_⟩))
            · rw [hsame]
              exact hnone
            · rw [herror]
              rfl
          · refine .inr (.inr (.inr ⟨sessionId, metadata, hmetadata, ?_⟩))
            rw [hok]
            rfl
      | ambient | update | markUsed | listAll | unregister | unregisterExpired | addSession
        | removeSession | findSession | cleanupExpired | recordSessionCreated
        | recordStatusChange | recordConnectionSuccess | recordConnectionFailure
        | recordSessionUsage | recordSessionClosed | cleanupOldHistory => exact .inl rfl

/-- A task gets a session to make active by registering it. -/
theorem connecting_exec
    (h : (note.after action (exec ambient action s).1).connecting = some id) :
    note.connecting = some id ∨
      ∃ metadata, (exec ambient action s).2.registry.get id = some metadata := by
  obtain hsame | ⟨metadata, -, hget, hafter⟩ | ⟨sessionId, -, hafter⟩ | ⟨sessionId, _, -, hafter⟩ :=
    note.after_cases ambient action s
  · exact .inl (hsame ▸ h)
  · rw [hafter] at h
    obtain rfl := Option.some.inj h
    exact .inr ⟨metadata.asRegistered, hget⟩
  · refine .inl ?_
    rw [hafter, lose] at h
    split at h
    · cases h
    · exact h
  · refine .inl ?_
    rw [hafter, reach] at h
    split at h
    · cases h
    · exact h

/-- A task loses the session that it had yet to make active when that is gone. -/
theorem lost_exec (h : (note.after action (exec ambient action s).1).lost = some id) :
    note.lost = some id ∨
      note.connecting = some id ∧ (exec ambient action s).2.registry.get id = none := by
  obtain hsame | ⟨metadata, -, -, hafter⟩ | ⟨sessionId, hnone, hafter⟩ |
    ⟨sessionId, _, -, hafter⟩ := note.after_cases ambient action s
  · exact .inl (hsame ▸ h)
  · rw [hafter] at h
    exact .inl h
  · rw [hafter, lose] at h
    split at h
    · next hconnecting =>
        obtain rfl := Option.some.inj h
        exact .inr ⟨hconnecting, hnone⟩
    · exact .inl h
  · refine .inl ?_
    rw [hafter, reach] at h
    split at h <;> exact h

/-- A session that is the task's to make active stays so until it is active or gone. -/
theorem kept_exec (hconnecting : note.connecting = some id) (hpermits : note.Permits action)
    {later : SessionMetadata} (hget : (exec ambient action s).2.registry.get id = some later) :
    (note.after action (exec ambient action s).1).connecting = some id ∨
      later.status = .active := by
  obtain hsame | ⟨metadata, rfl, -, -⟩ | ⟨sessionId, hnone, hafter⟩ |
    ⟨sessionId, metadata, hmetadata, hafter⟩ := note.after_cases ambient action s
  · rw [hsame]
    exact .inl hconnecting
  · exact absurd (hpermits.1.symm.trans hconnecting) nofun
  · have hother : note.connecting ≠ some sessionId := by
      intro hsession
      obtain rfl := Option.some.inj (hsession.symm.trans hconnecting)
      cases hnone.symm.trans hget
    rw [hafter, lose, if_neg hother]
    exact .inl hconnecting
  · rw [hafter, reach]
    split
    · next hreached =>
        obtain rfl := Option.some.inj (hreached.1.symm.trans hconnecting)
        obtain rfl := Option.some.inj (hmetadata.symm.trans hget)
        exact .inr hreached.2
    · exact .inl hconnecting

/-- What a task makes of the status of a session. -/
theorem status_exec (hpermits : note.Permits action)
    (hlost : ∀ id, note.lost = some id → s.registry.get id = none) {later : SessionMetadata}
    (hget : (exec ambient action s).2.registry.get id = some later) :
    later.status = .active ∨ later.status = .idle ∨
      (later.status = .connecting ∧
        (note.after action (exec ambient action s).1).connecting = some id) ∨
      ∃ metadata, s.registry.get id = some metadata ∧ metadata.status = later.status := by
  cases action with
  | getClient | insertClient | removeClient | send =>
      exact .inr (.inr (.inr ⟨later, hget, rfl⟩))
  | manager action =>
      rcases SessionManager.getSession_exec hget with hold | ⟨newMetadata, rfl, rfl, rfl⟩ |
        ⟨rfl, _⟩ | ⟨metadata, rfl, hold, rfl⟩ | ⟨metadata, status, rfl, hold, rfl⟩
      · exact .inr (.inr (.inr ⟨later, hold, rfl⟩))
      · cases hcheck : s.registry.checkRegister newMetadata with
        | error e =>
            rw [exec_register_of_error ambient hcheck] at hget
            exact .inr (.inr (.inr ⟨_, hget, rfl⟩))
        | ok _ =>
            rw [exec_register_of_ok ambient hcheck]
            refine .inr (.inr (.inl ⟨?_, rfl⟩))
            rw [SessionMetadata.asRegistered, if_pos hpermits.2]
      · exact hpermits.elim
      · exact .inr (.inr (.inr ⟨metadata, hold, rfl⟩))
      · have hmay : note.MaySet id status := hpermits
        cases status with
        | active => exact .inl rfl
        | idle => exact .inr (.inl rfl)
        | closing => exact absurd ((hlost id hmay).symm.trans hold) nofun
        | creating | reconnecting | failed | closed => exact hmay.elim
        | connecting =>
            refine .inr (.inr (.inl ⟨rfl, ?_⟩))
            exact (kept_exec hmay hpermits hget).resolve_right nofun

end StageNote

/-- No failure was ever recorded. -/
def SessionManager.Unfailed (manager : SessionManager) : Prop :=
  ∀ collector, manager.metrics = some collector →
    collector.metrics.failedSessions = 0 ∧ collector.metrics.failedConnections = 0

namespace SessionManager

variable {manager : SessionManager}

/-- Leaving a status does not make a session failed, and entering another than failed neither. -/
theorem failed_leaveStatus {metrics : SessionMetrics} (h : metrics.failedSessions = 0)
    (status : SessionStatus) : (metrics.leaveStatus status).failedSessions = 0 := by
  cases status <;> simp [SessionMetrics.leaveStatus, h]

theorem Unfailed.record (h : manager.Unfailed)
    {f : SessionMetricsCollector → SessionMetricsCollector}
    (hf : ∀ collector, collector.metrics.failedSessions = 0 ∧
        collector.metrics.failedConnections = 0 →
      (f collector).metrics.failedSessions = 0 ∧ (f collector).metrics.failedConnections = 0) :
    (manager.record f).2.Unfailed := by
  intro collector hcollector
  obtain ⟨before, hbefore, rfl⟩ := Option.map_eq_some_iff.mp hcollector
  exact hf before (h before hbefore)

theorem Unfailed.exec (h : manager.Unfailed) {note : StageNote} (ambient : Ambient)
    {action : ManagerAction} (hpermits : note.PermitsCall action) :
    (exec ambient action manager).2.Unfailed := by
  cases action with
  | update | recordConnectionFailure => exact hpermits.elim
  | recordStatusChange sessionId oldStatus newStatus =>
      refine h.record fun collector ⟨hsessions, hconnections⟩ => ?_
      have hnew : newStatus ≠ .failed := hpermits
      have hleft := failed_leaveStatus hsessions oldStatus
      cases newStatus with
      | failed => exact absurd rfl hnew
      | _ => cases oldStatus <;> exact ⟨hleft, hconnections⟩
  | recordSessionClosed session =>
      refine h.record fun collector ⟨hsessions, hconnections⟩ => ?_
      have hleft := failed_leaveStatus hsessions session.status
      have hmetrics : ∀ now, (collector.recordSessionClosed now session).metrics.failedSessions =
          (collector.metrics.leaveStatus session.status).failedSessions ∧
          (collector.recordSessionClosed now session).metrics.failedConnections =
            collector.metrics.failedConnections := by
        intro now
        simp only [SessionMetricsCollector.recordSessionClosed]
        cases session.status <;> exact ⟨rfl, rfl⟩
      exact ⟨(hmetrics ambient.now).1.trans hleft, (hmetrics ambient.now).2.trans hconnections⟩
  | recordSessionCreated | recordConnectionSuccess | recordSessionUsage | cleanupOldHistory =>
      exact h.record fun _ hcollector => hcollector
  | ambient | register | get | updateStatus | markUsed | listAll | unregister
    | unregisterExpired | addSession | removeSession | findSession | cleanupExpired => exact h

end SessionManager

namespace DaemonTasks

open TaskNote ServingHandler

variable {config : SessionManagerConfig} {issued : List SessionId}
  {notes : List (TaskNote × StageNote)} {s : ServingHandler} {turns : List DaemonTurn}

/-- The two monitors side by side. -/
abbrev staging (config : SessionManagerConfig) :
    Monitor HandlerAction HandlerAction.Answer (TaskNote × StageNote) :=
  (TaskNote.tasks config).both StageNote.tasks

/-- The identifier was issued, and no task has yet to register a session under it. -/
def Assigned (issued : List SessionId) (notes : List (TaskNote × StageNote)) (id : SessionId) :
    Prop :=
  id ∈ issued ∧ ∀ note ∈ notes.map Prod.fst, note.drawn ≠ some id

/-- Every session is active or idle, or some task has yet to make it active. -/
structure Stages (issued : List SessionId) (notes : List (TaskNote × StageNote))
    (s : ServingHandler) : Prop where
  placed : Placed issued (notes.map Prod.fst) s
  status : ∀ id metadata, s.registry.get id = some metadata →
    metadata.status = .active ∨ metadata.status = .idle ∨
      metadata.status = .connecting ∧ ∃ note ∈ notes, note.2.connecting = some id
  connecting : ∀ note ∈ notes, ∀ id, note.2.connecting = some id → Assigned issued notes id
  lost : ∀ note ∈ notes, ∀ id, note.2.lost = some id →
    Assigned issued notes id ∧ s.registry.get id = none
  unfailed : s.handler.sessionManager.Unfailed

theorem Stages.new (config : SessionManagerConfig) : Stages [] [] (.new config) where
  placed := Placed.new config
  status id metadata hget := by
    cases ((Placed.new config).registered id metadata hget).1
  connecting := nofun
  lost := nofun
  unfailed collector hcollector := by
    simp only [ServingHandler.new, RequestHandler.new, SessionManager.new] at hcollector
    split at hcollector
    · obtain rfl := Option.some.inj hcollector
      exact ⟨rfl, rfl⟩
    · cases hcollector

/-- A registered session has an identifier that was issued and is no longer a draw. -/
theorem assigned_of_get (h : Placed issued (notes.map Prod.fst) s) {id : SessionId}
    {metadata : SessionMetadata} (hget : s.registry.get id = some metadata) :
    Assigned issued notes id :=
  ⟨(h.registered id metadata hget).1, drawn_ne_of_tally (h.registered id metadata hget).2⟩

/-- The notes on a task that has done nothing yet. -/
def unstarted : TaskNote × StageNote := ({}, {})

theorem Stages.start (h : Stages issued notes s) : Stages issued (notes ++ [unstarted]) s := by
  have hassigned : ∀ id, Assigned issued notes id → Assigned issued (notes ++ [unstarted]) id := by
    rintro id ⟨hissued, hundrawn⟩
    refine ⟨hissued, fun note hmem => ?_⟩
    rw [List.map_append] at hmem
    obtain hold | hnew := List.mem_append.mp hmem
    · exact hundrawn note hold
    · rw [List.mem_singleton.mp hnew]
      exact nofun
  refine ⟨by simpa [unstarted] using h.placed.start, fun id metadata hget => ?_,
    fun note hmem id hid => ?_, fun note hmem id hid => ?_, h.unfailed⟩
  · obtain hactive | hidle | ⟨hconnecting, note, hmem, hnote⟩ := h.status id metadata hget
    · exact .inl hactive
    · exact .inr (.inl hidle)
    · exact .inr (.inr ⟨hconnecting, note, List.mem_append_left _ hmem, hnote⟩)
  · obtain hold | hnew := List.mem_append.mp hmem
    · exact hassigned id (h.connecting note hold id hid)
    · rw [List.mem_singleton.mp hnew] at hid
      cases hid
  · obtain hold | hnew := List.mem_append.mp hmem
    · exact ⟨hassigned id (h.lost note hold id hid).1, (h.lost note hold id hid).2⟩
    · rw [List.mem_singleton.mp hnew] at hid
      cases hid

theorem Assigned.mono {id : SessionId} (h : Assigned issued notes id) (id' : SessionId) :
    Assigned (issued ++ [id']) notes id :=
  ⟨List.mem_append_left _ h.1, h.2⟩

theorem Stages.mono (h : Stages issued notes s) (id' : SessionId) :
    Stages (issued ++ [id']) notes s where
  placed := h.placed.mono id'
  status := h.status
  connecting note hmem id hid := (h.connecting note hmem id hid).mono id'
  lost note hmem id hid := ⟨(h.lost note hmem id hid).1.mono id', (h.lost note hmem id hid).2⟩
  unfailed := h.unfailed

/-- A step of a task that draws no identifier that was issued keeps what is assigned. -/
theorem Assigned.advance {id : SessionId} (h : Assigned issued notes id) {i : Nat}
    {note : TaskNote × StageNote} (hnote : notes[i]? = some note) {action : HandlerAction}
    {ambient : Ambient} (hnew : ambient.freshId ∉ issued) :
    Assigned (issued ++ [ambient.freshId])
      (notes.set i ((staging config).update note action (exec ambient action s).1)) id := by
  refine ⟨List.mem_append_left _ h.1, fun drawing hmem hdrawn => ?_⟩
  rw [List.map_set] at hmem
  obtain hold | rfl := List.mem_or_eq_of_mem_set hmem
  · exact h.2 drawing hold hdrawn
  · obtain hbefore | rfl := drawn_after hdrawn
    · exact h.2 note.1 (List.mem_map_of_mem (List.mem_of_getElem? hnote)) hbefore
    · exact hnew h.1

/-- A step that both notes permit keeps every session on its stage. -/
theorem Stages.advance (h : Stages issued notes s) {i : Nat} {note : TaskNote × StageNote}
    (hnote : notes[i]? = some note) {action : HandlerAction} {ambient : Ambient}
    (hpermits : (staging config).Permits note action) (hnew : ambient.freshId ∉ issued) :
    Stages (issued ++ [ambient.freshId])
      (notes.set i ((staging config).update note action (exec ambient action s).1))
      (exec ambient action s).2 := by
  have hmem := List.mem_of_getElem? hnote
  have hundrawn : ∀ id, Assigned issued notes id → note.1.drawn ≠ some id :=
    fun id hassigned => hassigned.2 note.1 (List.mem_map_of_mem hmem)
  have hplaced : Placed (issued ++ [ambient.freshId])
      ((notes.set i ((staging config).update note action (exec ambient action s).1)).map Prod.fst)
      (exec ambient action s).2 := by
    rw [List.map_set]
    exact h.placed.advance (by rw [List.getElem?_map, hnote]; rfl) hpermits.1 hnew
  have hgone : ∀ id, Assigned issued notes id → s.registry.get id = none →
      (exec ambient action s).2.registry.get id = none := by
    intro id hassigned hnone
    by_contra hsome
    obtain ⟨later, hlater⟩ := Option.ne_none_iff_exists'.mp hsome
    obtain ⟨before, hbefore, -⟩ := continues_exec hpermits.1 (hundrawn id hassigned) hlater
    cases hnone.symm.trans hbefore
  have hmine : (staging config).update note action (exec ambient action s).1 ∈
      notes.set i ((staging config).update note action (exec ambient action s).1) :=
    List.mem_set (List.getElem?_eq_some_iff.mp hnote).1 _
  refine ⟨hplaced, fun id later hlater => ?_, fun other hother id hid => ?_,
    fun other hother id hid => ?_, ?_⟩
  · obtain hactive | hidle | ⟨hconnecting, hown⟩ | ⟨metadata, hget, hsame⟩ :=
      StageNote.status_exec hpermits.2 (fun id hid => (h.lost note hmem id hid).2) hlater
    · exact .inl hactive
    · exact .inr (.inl hidle)
    · exact .inr (.inr ⟨hconnecting, _, hmine, hown⟩)
    · rw [← hsame]
      obtain hactive | hidle | ⟨hconnecting, other, hother, hown⟩ := h.status id metadata hget
      · exact .inl hactive
      · exact .inr (.inl hidle)
      · by_cases hnotes : other = note
        · subst hnotes
          obtain hkept | hactive := StageNote.kept_exec hown hpermits.2 hlater
          · exact .inr (.inr ⟨hconnecting, _, hmine, hkept⟩)
          · exact .inl (hsame.trans hactive)
        · exact .inr (.inr ⟨hconnecting, other, Calls.mem_set_of_ne hnote hother hnotes, hown⟩)
  · obtain hold | rfl := List.mem_or_eq_of_mem_set hother
    · exact (h.connecting other hold id hid).advance hnote hnew
    · obtain hbefore | ⟨metadata, hget⟩ := StageNote.connecting_exec hid
      · exact (h.connecting note hmem id hbefore).advance hnote hnew
      · exact assigned_of_get hplaced hget
  · obtain hold | rfl := List.mem_or_eq_of_mem_set hother
    · obtain ⟨hassigned, hnone⟩ := h.lost other hold id hid
      exact ⟨hassigned.advance hnote hnew, hgone id hassigned hnone⟩
    · obtain hbefore | ⟨hconnecting, hnone⟩ := StageNote.lost_exec hid
      · obtain ⟨hassigned, hnone⟩ := h.lost note hmem id hbefore
        exact ⟨hassigned.advance hnote hnew, hgone id hassigned hnone⟩
      · exact ⟨(h.connecting note hmem id hconnecting).advance hnote hnew, hnone⟩
  · cases action with
    | manager action => exact h.unfailed.exec ambient hpermits.2
    | getClient | insertClient | removeClient | send => exact h.unfailed

/-- A task that has ended has recorded what it had to, and has no session to make active. -/
def Ended (note : TaskNote × StageNote) : Prop := note.1.Settled ∧ note.2.connecting = none

theorem follows_staging (config : SessionManagerConfig) (input : DaemonInput) :
    (staging config).Follows (fun _ after => Ended after) (input.program config) unstarted :=
  (DaemonInput.follows_program config input).both (DaemonInput.settles_program config input)

theorem exists_stages (config : SessionManagerConfig) (hfresh : (issuedIds turns).Nodup) :
    ∀ past, past <+: turns → ∃ notes,
      Calls.Monitored (staging config) Ended notes (run (step config) (new config) past) ∧
        Stages (issuedIds past) notes (run (step config) (new config) past).shared := by
  refine Calls.exists_notes (J := fun past notes s => Stages (issuedIds past) notes s.shared)
    (follows_staging config) (along_offersNew config hfresh) (Stages.new config) ?_ ?_ ?_
  · intro past notes s input h
    rw [issuedIds_start]
    exact h.start
  · intro past notes s i ambient h _
    rw [issuedIds_advance]
    exact h.mono ambient.freshId
  · intro past notes s i ambient note action h hnew hnote hpermits hshared
    rw [hshared, issuedIds_advance]
    exact h.advance hnote hpermits (hnew i ambient rfl)

/-- Only a task that has not ended has a session to make active. -/
theorem connecting_le_inProgress {s : DaemonTasks}
    (h : Calls.Monitored (staging config) Ended notes s) :
    (notes.filterMap (·.2.connecting)).length ≤ inProgress s := by
  unfold Calls.Monitored at h
  unfold inProgress
  generalize s.calls = calls at h
  induction h with
  | nil => exact Nat.le_refl _
  | @cons p note calls notes hfirst hmore ih =>
      simp only [List.countP_cons]
      cases p with
      | done result =>
          have hnone : note.2.connecting = none := hfirst.2
          simpa [hnone] using ih
      | call action next =>
          cases hconnecting : note.2.connecting <;> simp [hconnecting] <;> omega

/-- Every session is connecting, active or idle, and there are at most as many connecting as
tasks in progress. No failure is recorded, and no session is to be reconnected. -/
structure OnStage (s : DaemonTasks) : Prop where
  status : ∀ id metadata, s.shared.registry.get id = some metadata →
    metadata.status = .connecting ∨ metadata.status = .active ∨ metadata.status = .idle
  connecting : s.shared.registry.countByStatus .connecting ≤ inProgress s
  unfailed : s.shared.handler.sessionManager.Unfailed
  unreconnected : ∀ id metadata, s.shared.registry.get id = some metadata →
    ∀ (lifecycle : SessionLifecycleConfig) (enableAutoReconnect : Bool) (now : SystemTime),
      lifecycle.shouldReconnectSession enableAutoReconnect now metadata = false

/-- In whatever order the tasks take their steps, every session of the daemon is on its way
to being active, active or idle, and it never fails. -/
theorem onStage_run (config : SessionManagerConfig) (turns : List DaemonTurn)
    (hfresh : (issuedIds turns).Nodup) : Always (step config) OnStage (new config) turns := by
  intro past hpast
  obtain ⟨notes, hmonitored, hstages⟩ := exists_stages config hfresh past hpast
  have hstatus : ∀ id metadata,
      (run (step config) (new config) past).shared.registry.get id = some metadata →
      metadata.status = .connecting ∨ metadata.status = .active ∨ metadata.status = .idle := by
    intro id metadata hget
    obtain hactive | hidle | ⟨hconnecting, -⟩ := hstages.status id metadata hget
    · exact .inr (.inl hactive)
    · exact .inr (.inr hidle)
    · exact .inl hconnecting
  refine ⟨hstatus, ?_, hstages.unfailed, ?_⟩
  · refine (HashMap.count_le_length fun id metadata hget hconnecting => ?_).trans
      (connecting_le_inProgress hmonitored)
    have hconnecting' : metadata.status = .connecting := of_decide_eq_true hconnecting
    obtain hactive | hidle | ⟨-, note, hmem, hown⟩ := hstages.status id metadata hget
    · rw [hconnecting'] at hactive; cases hactive
    · rw [hconnecting'] at hidle; cases hidle
    · exact List.mem_filterMap.mpr ⟨note, hmem, hown⟩
  · intro id metadata hget lifecycle enableAutoReconnect now
    have hnot : metadata.status ≠ .failed := by
      intro hfailed
      have hthree := hstatus id metadata hget
      simp [hfailed] at hthree
    unfold SessionLifecycleConfig.shouldReconnectSession
    rw [if_pos hnot, ite_self]

theorem onStage_run_createdTogether : Always (step {}) OnStage (new {}) createdTogether :=
  onStage_run {} createdTogether (by decide)

end DaemonTasks

end Yuha
