import Yuha.Daemon.Tasks
import Yuha.Library.Monitor

/-!
# What a task has under way

A task draws an identifier, registers a session under it, records that it was created and
hands the session out; the cleanup unregisters a session and then records that it was
closed. Between these steps other tasks come in. The notes here say of each task which of
its steps the metrics and the clients have not seen yet.
-/

namespace Yuha

open Library Library.Program

structure TaskNote where
  /-- The identifier drawn last, if no session was registered under it. -/
  drawn : Option SessionId := none
  /-- The session that the task has registered and not handed out. -/
  created : Option SessionId := none
  /-- A session was registered, and its creation is not recorded yet. -/
  unrecorded : Bool := false
  /-- A session was unregistered, and its closing is not recorded yet. -/
  unclosed : Bool := false
  deriving DecidableEq

namespace TaskNote

/-- Nothing is left to record. -/
def Settled (note : TaskNote) : Prop := note.unrecorded = false ∧ note.unclosed = false

/-- The response hands out no new session but the one the task has registered. -/
def HandsOut (note : TaskNote) (response : DaemonResponse) : Prop :=
  ∀ id, response = .sessionCreated id false → note.created = some id

variable (config : SessionManagerConfig)

/-- A session is registered only under the identifier drawn last, and what is to be recorded
is recorded before anything else is to be recorded. No session is replaced. -/
def PermitsCall (note : TaskNote) : ManagerAction → Prop
  | .register metadata => note.drawn = some metadata.id ∧ note.unrecorded = false
  | .recordSessionCreated _ => note.unrecorded = true
  | .unregister _ | .unregisterExpired _ _ => note.unclosed = false
  | .recordSessionClosed _ => note.unclosed = true
  | .update _ _ => False
  | _ => True

/-- The note after a session was unregistered, or was not found. -/
def unregistered (note : TaskNote) : Option SessionMetadata → TaskNote
  | some _ => { note with unclosed := config.enableMetrics }
  | none => note

def afterCall (note : TaskNote) : (action : ManagerAction) → action.Answer → TaskNote
  | .ambient, ambient => { note with drawn := some ambient.freshId }
  | .register metadata, .ok _ =>
      { note with
        drawn := none
        created := some metadata.id
        unrecorded := config.enableMetrics }
  | .register _, .error _ => { note with drawn := none }
  | .recordSessionCreated _, _ => { note with unrecorded := false }
  | .unregister _, answer => note.unregistered config answer
  | .unregisterExpired _ _, answer => note.unregistered config answer
  | .recordSessionClosed _, _ => { note with unclosed := false }
  | _, _ => note

def Permits (note : TaskNote) : HandlerAction → Prop
  | .manager action => note.PermitsCall action
  | .send _ response => note.HandsOut response
  | _ => True

def after (note : TaskNote) : (action : HandlerAction) → action.Answer → TaskNote
  | .manager action, answer => note.afterCall config action answer
  | .send _ _, _ => { note with created := none }
  | _, _ => note

/-- The monitor of the manager's calls. -/
abbrev calls : Monitor ManagerAction ManagerAction.Answer TaskNote where
  Permits := PermitsCall
  update := afterCall config

/-- The monitor of the tasks. -/
abbrev tasks : Monitor HandlerAction HandlerAction.Answer TaskNote where
  Permits := Permits
  update := after config

end TaskNote

/-! ## The manager's programs -/

/-- A call that only reads, or changes what no note is about. -/
def ManagerAction.Unnoted : ManagerAction → Prop
  | .ambient | .register _ | .unregister _ | .unregisterExpired _ _ | .recordSessionCreated _
  | .recordSessionClosed _ | .update _ _ => False
  | _ => True

namespace ManagerProgram

open TaskNote

variable {config : SessionManagerConfig} {note : TaskNote} {α β : Type}

theorem ignores_of_unnoted {action : ManagerAction} (h : action.Unnoted) :
    (TaskNote.calls config).Ignores action := by
  intro note
  cases action with
  | ambient | register | unregister | unregisterExpired | recordSessionCreated
    | recordSessionClosed | update => exact h.elim
  | get | updateStatus | markUsed | listAll | addSession | removeSession | findSession
    | cleanupExpired | recordStatusChange | recordConnectionSuccess | recordConnectionFailure
    | recordSessionUsage | cleanupOldHistory => exact ⟨trivial, fun answer => rfl⟩

/-- The program makes no call that is noted. -/
abbrev Unnoting (p : ManagerProgram α) : Prop := p.Forall fun action _ => action.Unnoted

theorem Unnoting.bind {p : ManagerProgram α} {f : α → ManagerProgram β} (h : Unnoting p)
    (hf : ∀ result, Unnoting (f result)) : Unnoting (p >>= f) :=
  Forall.bind h (fun _ _ hunnoted => hunnoted) hf

theorem unnoting_call {action : ManagerAction} {next : action.Answer → ManagerProgram α}
    (h : action.Unnoted) (hnext : ∀ answer, Unnoting (next answer)) :
    Unnoting (action.await >>= next) :=
  ⟨h, hnext⟩

theorem unnoting_await {action : ManagerAction} (h : action.Unnoted) :
    Unnoting action.await :=
  forall_perform.mpr h

theorem Unnoting.whenMetrics {p : ManagerProgram Unit} (h : Unnoting p) :
    Unnoting (whenMetrics config p) := by
  unfold ManagerProgram.whenMetrics
  split
  · exact h
  · trivial

theorem unnoting_poolByStatus (sessionId : SessionId) (status : SessionStatus) :
    Unnoting (poolByStatus sessionId status) := by
  cases status with
  | idle =>
      refine unnoting_call trivial fun metadata => ?_
      cases metadata with
      | none => trivial
      | some metadata => exact unnoting_call trivial fun _ => trivial
  | active | failed | closed => exact unnoting_call trivial fun _ => trivial
  | creating | connecting | reconnecting | closing => trivial

theorem unnoting_recordTransition (sessionId : SessionId) (oldStatus status : SessionStatus) :
    Unnoting (recordTransition sessionId oldStatus status) := by
  refine unnoting_call trivial fun _ => ?_
  cases status with
  | active | failed =>
      dsimp only
      split
      · exact unnoting_await trivial
      · trivial
  | idle | closed | creating | connecting | reconnecting | closing => trivial

theorem unnoting_updateSessionStatus (sessionId : SessionId) (status : SessionStatus) :
    Unnoting (updateSessionStatus config sessionId status) := by
  refine unnoting_call trivial fun metadata => ?_
  cases metadata with
  | none => trivial
  | some metadata =>
      refine unnoting_call trivial fun result => ?_
      cases result with
      | error e => trivial
      | ok _ =>
          refine (unnoting_poolByStatus sessionId status).bind fun _ => ?_
          exact (unnoting_recordTransition sessionId _ status).whenMetrics.bind fun _ => trivial

theorem unnoting_recordUsage (sessionId : SessionId) : Unnoting (recordUsage sessionId) := by
  refine unnoting_call trivial fun metadata => ?_
  cases metadata with
  | none => trivial
  | some metadata => exact unnoting_await trivial

theorem unnoting_useSession (sessionId : SessionId) : Unnoting (useSession config sessionId) := by
  refine unnoting_call trivial fun result => ?_
  cases result with
  | error e => trivial
  | ok _ =>
      refine (unnoting_recordUsage sessionId).whenMetrics.bind fun _ => ?_
      refine unnoting_call trivial fun metadata => ?_
      cases metadata with
      | none => trivial
      | some metadata =>
          dsimp only
          split
          · exact unnoting_updateSessionStatus sessionId .active
          · trivial

theorem Unnoting.follows {p : ManagerProgram α} (h : Unnoting p) {Q : α → TaskNote → Prop}
    (hQ : ∀ result, Q result note) : (TaskNote.calls config).Follows Q p note :=
  Monitor.follows_of_ignores (h.mono fun _ _ hunnoted => ignores_of_unnoted hunnoted) hQ

/-- A monitor of the tasks that agrees with one of the manager's calls on these. -/
theorem follows_lift_of {N : Type} {calls : Monitor ManagerAction ManagerAction.Answer N}
    {tasks : Monitor HandlerAction HandlerAction.Answer N}
    (hpermits : ∀ note action, calls.Permits note action → tasks.Permits note (.manager action))
    (hupdate : ∀ note action answer,
      tasks.update note (.manager action) answer = calls.update note action answer)
    {Q : α → N → Prop} {p : ManagerProgram α} {note : N} (h : calls.Follows Q p note) :
    tasks.Follows Q p.lift note := by
  induction p generalizing note with
  | done result => exact h
  | call action next ih =>
      refine ⟨hpermits note action h.1, fun answer => ?_⟩
      rw [hupdate note action answer]
      exact ih answer (h.2 answer)

theorem follows_lift {Q : α → TaskNote → Prop} {p : ManagerProgram α}
    (h : (TaskNote.calls config).Follows Q p note) :
    (TaskNote.tasks config).Follows Q p.lift note :=
  follows_lift_of (fun _ _ hpermits => hpermits) (fun _ _ _ => rfl) h

/-- What is to be recorded if there are metrics is recorded. -/
theorem follows_whenMetrics {P : Unit → TaskNote → Prop} {p : ManagerProgram Unit}
    (hp : config.enableMetrics = true → (TaskNote.calls config).Follows P p note)
    (hskip : config.enableMetrics = false → P () note) :
    (TaskNote.calls config).Follows P (whenMetrics config p) note := by
  unfold ManagerProgram.whenMetrics
  split
  · next henabled => exact hp henabled
  · next hdisabled => exact hskip (Bool.eq_false_iff.mpr hdisabled)

/-- A new session is registered and recorded, and it is the task's to hand out. -/
theorem follows_createSession (hnote : note.Settled) (name : String)
    (transportConfig : TransportConfig) (tags : List String) (description : Option String) :
    (TaskNote.calls config).Follows
      (fun result after => after.Settled ∧ ∀ id, result = .ok id → after.created = some id)
      (createSession config name transportConfig tags description) note := by
  refine Monitor.follows_perform.mpr ⟨trivial, fun ambient => ?_⟩
  refine Monitor.follows_perform.mpr ⟨⟨rfl, hnote.1⟩, fun registered => ?_⟩
  cases registered with
  | error e => exact ⟨hnote, nofun⟩
  | ok _ =>
      refine Monitor.follows_bind.mpr (follows_whenMetrics (fun henabled => ?_) fun hdisabled => ?_)
      · exact ⟨henabled, fun _ => ⟨⟨rfl, hnote.2⟩, fun id hid => congrArg some (Except.ok.inj hid)⟩⟩
      · exact ⟨⟨hdisabled, hnote.2⟩, fun id hid => congrArg some (Except.ok.inj hid)⟩

/-- A session that was unregistered is recorded as closed. -/
theorem follows_recordSessionClosed (hnote : note.Settled) (metadata : SessionMetadata)
    {Q : Unit → TaskNote → Prop} (hQ : Q () note) :
    (TaskNote.calls config).Follows Q
      (whenMetrics config (ManagerAction.await (.recordSessionClosed metadata)))
      { note with unclosed := config.enableMetrics } := by
  have hsame : { note with unclosed := false } = note := by rw [← hnote.2]
  refine follows_whenMetrics (fun henabled => ?_) fun hdisabled => ?_
  · refine ⟨henabled, fun _ => ?_⟩
    change Q () { note with unclosed := false }
    rwa [hsame]
  · rw [hdisabled]
    rwa [hsame]

theorem follows_closeSession (hnote : note.Settled) (sessionId : SessionId) :
    (TaskNote.calls config).Follows (fun _ after => after = note)
      (closeSession config sessionId) note := by
  refine Monitor.follows_perform.mpr ⟨trivial, fun _ => Monitor.follows_bind.mpr ?_⟩
  refine (unnoting_updateSessionStatus sessionId .closing).follows fun result => ?_
  cases result with
  | error e => rfl
  | ok _ =>
      refine Monitor.follows_perform.mpr ⟨trivial, fun _ => ?_⟩
      refine Monitor.follows_perform.mpr ⟨hnote.2, fun removed => ?_⟩
      cases removed with
      | none => rfl
      | some metadata =>
          exact Monitor.follows_bind.mpr (follows_recordSessionClosed hnote metadata rfl)

/-- The cleanup reads the clock, which draws an identifier that it does not use. -/
theorem follows_expireSession (hnote : note.Settled) (session : SessionMetadata) :
    (TaskNote.calls config).Follows (fun _ after => after.Settled)
      (expireSession config session) note := by
  refine Monitor.follows_perform.mpr ⟨trivial, fun ambient => ?_⟩
  dsimp only
  split
  · refine ⟨hnote.2, fun removed => ?_⟩
    cases removed with
    | none => exact hnote
    | some metadata =>
        refine Monitor.follows_perform.mpr ⟨trivial, fun _ => Monitor.follows_bind.mpr ?_⟩
        have hdrawn : TaskNote.Settled { note with drawn := some ambient.freshId } := hnote
        exact follows_recordSessionClosed hdrawn metadata hdrawn
  · exact hnote

theorem follows_expireSessions (hnote : note.Settled) (sessions : List SessionMetadata) :
    (TaskNote.calls config).Follows (fun _ after => after.Settled)
      (expireSessions config sessions) note := by
  induction sessions generalizing note with
  | nil => exact hnote
  | cons session sessions ih =>
      refine (follows_expireSession hnote session).bind fun expired after hafter => ?_
      exact (ih hafter).bind fun more last hlast => hlast

theorem follows_cleanup (hnote : note.Settled) :
    (TaskNote.calls config).Follows (fun _ after => after.Settled) (cleanup config) note := by
  refine Monitor.follows_perform.mpr ⟨trivial, fun sessions =>
    (follows_expireSessions hnote sessions).bind ?_⟩
  intro expired after hafter
  refine Monitor.follows_perform.mpr ⟨trivial, fun expiredPooled => Monitor.follows_bind.mpr ?_⟩
  exact follows_whenMetrics (fun _ => ⟨trivial, fun _ => hafter⟩) fun _ => hafter

end ManagerProgram

/-! ## The handler's programs -/

namespace HandlerProgram

open TaskNote ManagerProgram

variable {config : SessionManagerConfig} {note : TaskNote}

/-- The response hands out no new session but the task's own, and nothing is left to record. -/
abbrev Answers (config : SessionManagerConfig) (p : HandlerProgram DaemonResponse)
    (note : TaskNote) : Prop :=
  (TaskNote.tasks config).Follows (fun response after => after.Settled ∧ after.HandsOut response)
    p note

theorem follows_connectClient (sessionId : SessionId) :
    (TaskNote.tasks config).Follows (fun _ after => after = note)
      (connectClient config sessionId) note := by
  refine Monitor.follows_bind.mpr (follows_lift ?_)
  refine (unnoting_updateSessionStatus sessionId .connecting).follows fun result => ?_
  cases result with
  | error e => rfl
  | ok _ =>
      refine Monitor.follows_perform.mpr ⟨trivial, fun _ =>
        Monitor.follows_bind.mpr (follows_lift ?_)⟩
      refine (unnoting_updateSessionStatus sessionId .active).follows fun result => ?_
      cases result <;> rfl

theorem answers_createAndConnect (hnote : note.Settled) (name : String)
    (transportConfig : TransportConfig) (tags : List String) (description : Option String) :
    Answers config (createAndConnect config name transportConfig tags description) note := by
  have hcreate : (TaskNote.calls config).Follows
      (fun result after => after.Settled ∧ ∀ id, result = .ok id → after.created = some id)
      (ManagerProgram.createSession config name transportConfig tags description) note :=
    follows_createSession hnote name transportConfig tags description
  refine (follows_lift hcreate).bind fun result after hafter => ?_
  obtain ⟨hsettled, hcreated⟩ := hafter
  cases result with
  | error e => exact ⟨hsettled, nofun⟩
  | ok sessionId =>
      refine (follows_connectClient sessionId).bind ?_
      rintro connected _ rfl
      cases connected with
      | error e =>
          refine (follows_lift (follows_closeSession hsettled sessionId)).bind ?_
          rintro _ _ rfl
          exact ⟨hsettled, nofun⟩
      | ok _ =>
          refine ⟨hsettled, fun id hid => ?_⟩
          cases hid
          exact hcreated sessionId rfl

theorem answers_handleCreateSession (hnote : note.Settled) (name : String)
    (transportConfig : TransportConfig) (tags : List String) (description : Option String) :
    Answers config (handleCreateSession config name transportConfig tags description) note := by
  refine Monitor.follows_perform.mpr ⟨trivial, fun found => ?_⟩
  cases found with
  | none => exact answers_createAndConnect hnote name transportConfig tags description
  | some sessionId =>
      refine Monitor.follows_bind.mpr (follows_lift ?_)
      refine (unnoting_useSession sessionId).follows fun result => ?_
      cases result with
      | ok _ => exact ⟨hnote, nofun⟩
      | error e => exact answers_createAndConnect hnote name transportConfig tags description

theorem follows_useByName (name : String) (sessions : List SessionMetadata) :
    (TaskNote.tasks config).Follows (fun _ after => after = note)
      (useByName config name sessions) note := by
  induction sessions with
  | nil => rfl
  | cons session sessions ih =>
      unfold useByName
      split
      · refine Monitor.follows_bind.mpr (follows_lift ?_)
        refine (unnoting_useSession session.id).follows fun result => ?_
        cases result with
        | ok _ => rfl
        | error e => exact ih
      · exact ih

theorem answers_handleConnectSession (hnote : note.Settled) (name : String)
    (transportConfig : TransportConfig) :
    Answers config (handleConnectSession config name transportConfig) note := by
  refine Monitor.follows_perform.mpr ⟨trivial, fun sessions =>
    (follows_useByName name sessions).bind ?_⟩
  rintro used _ rfl
  cases used with
  | some sessionId => exact ⟨hnote, nofun⟩
  | none => exact answers_handleCreateSession hnote name transportConfig [] none

theorem answers_handleDisconnectSession (hnote : note.Settled) (sessionId : SessionId) :
    Answers config (handleDisconnectSession config sessionId) note := by
  refine Monitor.follows_perform.mpr ⟨trivial, fun _ =>
        Monitor.follows_bind.mpr (follows_lift ?_)⟩
  refine (unnoting_updateSessionStatus sessionId .idle).follows fun result => ?_
  cases result <;> exact ⟨hnote, nofun⟩

theorem answers_handleExecuteCommand (hnote : note.Settled) (sessionId : SessionId)
    (command : DaemonCommand) :
    Answers config (handleExecuteCommand config sessionId command) note := by
  refine Monitor.follows_perform.mpr ⟨trivial, fun client => ?_⟩
  cases client with
  | none => exact ⟨hnote, nofun⟩
  | some _ =>
      refine Monitor.follows_bind.mpr (follows_lift ?_)
      refine (unnoting_useSession sessionId).follows fun _ => ?_
      cases command <;> exact ⟨hnote, nofun⟩

/-- A request is answered with a new session only where its task has registered it. -/
theorem answers_handleRequest (hnote : note.Settled) (request : DaemonRequest) :
    Answers config (handleRequest config request) note := by
  cases request with
  | ping | shutdown => exact ⟨hnote, nofun⟩
  | createSession name transportConfig tags description =>
      exact answers_handleCreateSession hnote name transportConfig tags description
  | connectSession name transportConfig =>
      exact answers_handleConnectSession hnote name transportConfig
  | disconnectSession sessionId => exact answers_handleDisconnectSession hnote sessionId
  | listSessions => exact ⟨trivial, fun sessions => ⟨hnote, nofun⟩⟩
  | getSessionInfo sessionId =>
      refine Monitor.follows_perform.mpr ⟨trivial, fun metadata => ?_⟩
      cases metadata <;> exact ⟨hnote, nofun⟩
  | executeCommand sessionId command => exact answers_handleExecuteCommand hnote sessionId command

end HandlerProgram

/-- Every task does what the notes permit, and leaves nothing to record. -/
theorem DaemonInput.follows_program (config : SessionManagerConfig) (input : DaemonInput) :
    (TaskNote.tasks config).Follows (fun _ after => after.Settled) (input.program config) {} := by
  have hnew : TaskNote.Settled {} := ⟨rfl, rfl⟩
  cases input with
  | request client asked =>
      refine (HandlerProgram.answers_handleRequest hnew asked).bind fun response after hafter => ?_
      exact ⟨hafter.2, fun _ => hafter.1⟩
  | cleanup =>
      refine (ManagerProgram.follows_lift (ManagerProgram.follows_cleanup hnew)).bind ?_
      exact fun expired after hafter => hafter

end Yuha
