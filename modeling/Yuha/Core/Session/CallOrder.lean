import Yuha.Core.Session.ManagerCalls

/-!
# What the manager's operations do around their calls

Operations of the manager may take turns between any two of their calls. What can be
relied on then is the order in which one operation makes its calls.
-/

namespace Yuha

open Library Library.Program

/-- Operations of the manager in progress. -/
abbrev ManagerCalls := Calls SessionManager ManagerAction ManagerAction.Answer

abbrev ManagerTurn := Turn ManagerTask Ambient

namespace ManagerCalls

def new (config : SessionManagerConfig) : ManagerCalls where
  shared := .new config
  calls := []

abbrev step (config : SessionManagerConfig) (s : ManagerCalls) (turn : ManagerTurn) :
    ManagerCalls :=
  Calls.step (ManagerTask.program config) SessionManager.exec s turn

/-- A call takes its next turns, all at the same time. -/
def turnsOf (secs call count : Nat) : List ManagerTurn :=
  List.replicate count
    (.advance call { now := Duration.fromSecs secs, freshId := ⟨1⟩, rank := fun _ => 0 })

end ManagerCalls

/-! ## The order of the calls -/

namespace ManagerProgram

variable (config : SessionManagerConfig) (lists : Prop) (expires : SessionMetadata → Prop)

/-- A session is taken out of the pool right after it was made active, and right after the
cleanup unregistered it, which it does by a snapshot that was expired. Only new metadata
is registered. All sessions are listed only if `lists`, and a session is unregistered as
expired only by a snapshot from `expires`. -/
def Orderly {α : Type} :
    (action : ManagerAction) → (action.Answer → ManagerProgram α) → Prop
  | .updateStatus sessionId .active, next =>
      ∃ rest, next (.ok ()) = .call (.removeSession sessionId) rest
  | .unregisterExpired session checkedAt, next =>
      expires session ∧ config.lifecycle.shouldExpireSession checkedAt session ∧
        ∀ metadata, ∃ rest, next (some metadata) = .call (.removeSession session.id) rest
  | .register metadata, _ => metadata.status = .creating
  | .listAll, _ => lists
  | _, _ => True

variable {config lists expires}

theorem Orderly.mono {α : Type} {lists' : Prop} {expires' : SessionMetadata → Prop}
    (hlists : lists → lists') (hexpires : ∀ session, expires session → expires' session)
    (action : ManagerAction) (next : action.Answer → ManagerProgram α)
    (h : Orderly config lists expires action next) :
    Orderly config lists' expires' action next := by
  cases action with
  | unregisterExpired session checkedAt => exact ⟨hexpires session h.1, h.2⟩
  | listAll => exact hlists h
  | updateStatus sessionId status => cases status <;> exact h
  | ambient | register | get | update | markUsed | unregister | addSession
    | removeSession | findSession | cleanupExpired | recordSessionCreated | recordStatusChange
    | recordConnectionSuccess | recordConnectionFailure | recordSessionUsage
    | recordSessionClosed | cleanupOldHistory => exact h

theorem Orderly.bind {α β : Type} (f : α → ManagerProgram β) (action : ManagerAction)
    (next : action.Answer → ManagerProgram α) (h : Orderly config lists expires action next) :
    Orderly config lists expires action fun answer => next answer >>= f := by
  cases action with
  | updateStatus sessionId status =>
      cases status with
      | active =>
          obtain ⟨rest, hrest⟩ := h
          exact ⟨fun answer => rest answer >>= f, congrArg (· >>= f) hrest⟩
      | creating | connecting | idle | reconnecting | failed | closing | closed => trivial
  | unregisterExpired session checkedAt =>
      obtain ⟨hfrom, hexpired, hnext⟩ := h
      refine ⟨hfrom, hexpired, fun metadata => ?_⟩
      obtain ⟨rest, hrest⟩ := hnext metadata
      exact ⟨fun answer => rest answer >>= f, congrArg (· >>= f) hrest⟩
  | register | listAll => exact h
  | ambient | get | update | markUsed | unregister | addSession | removeSession
    | findSession | cleanupExpired | recordSessionCreated | recordStatusChange
    | recordConnectionSuccess | recordConnectionFailure | recordSessionUsage
    | recordSessionClosed | cleanupOldHistory => trivial

theorem forall_bind {α β : Type} {p : ManagerProgram α} {f : α → ManagerProgram β}
    (hp : p.Forall (Orderly config lists expires))
    (hf : ∀ result, (f result).Forall (Orderly config lists expires)) :
    (p >>= f).Forall (Orderly config lists expires) :=
  Forall.bind hp (Orderly.bind f) hf

theorem forall_await {α : Type} {action : ManagerAction}
    {next : action.Answer → ManagerProgram α} (h : Orderly config lists expires action next)
    (hnext : ∀ answer, (next answer).Forall (Orderly config lists expires)) :
    (action.await >>= next).Forall (Orderly config lists expires) :=
  ⟨h, hnext⟩

theorem forall_whenMetrics {p : ManagerProgram Unit} (h : p.Forall (Orderly config lists expires)) :
    (whenMetrics config p).Forall (Orderly config lists expires) := by
  unfold whenMetrics
  split
  · exact h
  · trivial

theorem forall_createSession (name : String) (transportConfig : TransportConfig)
    (tags : List String) (description : Option String) :
    (createSession config name transportConfig tags description).Forall
      (Orderly config lists expires) := by
  refine forall_await trivial fun ambient => ?_
  refine forall_await rfl fun registered => ?_
  cases registered with
  | error e => trivial
  | ok _ =>
      apply forall_bind (forall_whenMetrics (forall_perform.mpr trivial))
      exact fun _ => trivial

theorem forall_poolByStatus (sessionId : SessionId) (status : SessionStatus) :
    (poolByStatus sessionId status).Forall (Orderly config lists expires) := by
  cases status with
  | idle =>
      refine forall_await trivial fun found => ?_
      cases found with
      | none => trivial
      | some metadata => exact forall_await trivial fun _ => trivial
  | active | failed | closed => exact forall_await trivial fun _ => trivial
  | creating | connecting | reconnecting | closing => trivial

theorem forall_recordTransition (sessionId : SessionId) (oldStatus status : SessionStatus) :
    (recordTransition sessionId oldStatus status).Forall (Orderly config lists expires) := by
  refine forall_await trivial fun _ => ?_
  cases status with
  | active | failed =>
      dsimp only
      split
      · exact forall_perform.mpr trivial
      · trivial
  | creating | connecting | idle | reconnecting | closing | closed => trivial

theorem forall_updateSessionStatus (sessionId : SessionId) (status : SessionStatus) :
    (updateSessionStatus config sessionId status).Forall (Orderly config lists expires) := by
  refine forall_await trivial fun found => ?_
  cases found with
  | none => trivial
  | some metadata =>
      apply forall_await
      · cases status with
        | active => exact ⟨_, rfl⟩
        | creating | connecting | idle | reconnecting | failed | closing | closed => trivial
      intro updated
      cases updated with
      | error e => trivial
      | ok _ =>
          apply forall_bind (forall_poolByStatus sessionId status)
          intro _
          apply forall_bind (forall_whenMetrics (forall_recordTransition _ _ _))
          exact fun _ => trivial

theorem forall_recordUsage (sessionId : SessionId) :
    (recordUsage sessionId).Forall (Orderly config lists expires) := by
  refine forall_await trivial fun found => ?_
  cases found with
  | none => trivial
  | some metadata => exact forall_perform.mpr trivial

theorem forall_useSession (sessionId : SessionId) :
    (useSession config sessionId).Forall (Orderly config lists expires) := by
  refine forall_await trivial fun marked => ?_
  cases marked with
  | error e => trivial
  | ok _ =>
      apply forall_bind (forall_whenMetrics (forall_recordUsage sessionId))
      intro _
      refine forall_await trivial fun found => ?_
      cases found with
      | none => trivial
      | some metadata =>
          dsimp only
          split
          · exact forall_updateSessionStatus sessionId .active
          · trivial

theorem forall_closeSession (sessionId : SessionId) :
    (closeSession config sessionId).Forall (Orderly config lists expires) := by
  refine forall_await trivial fun _ => ?_
  apply forall_bind (forall_updateSessionStatus sessionId .closing)
  intro updated
  cases updated with
  | error e => trivial
  | ok _ =>
      refine forall_await trivial fun _ => ?_
      refine forall_await trivial fun removed => ?_
      cases removed with
      | none => trivial
      | some removedMetadata =>
          apply forall_bind (forall_whenMetrics (forall_perform.mpr trivial))
          exact fun _ => trivial

theorem forall_connectOrCreateSession (name : String) (transportConfig : TransportConfig) :
    (connectOrCreateSession config name transportConfig).Forall (Orderly config lists expires) := by
  refine forall_await trivial fun found => ?_
  cases found with
  | some sessionId =>
      apply forall_bind (forall_useSession sessionId)
      intro used
      cases used <;> trivial
  | none =>
      apply forall_bind (forall_createSession name transportConfig [] none)
      intro created
      cases created <;> trivial

theorem forall_expireSession {session : SessionMetadata} (h : expires session) :
    (expireSession config session).Forall (Orderly config lists expires) := by
  refine forall_await trivial fun ambient => ?_
  split
  · next hexpired =>
      refine forall_await ⟨h, hexpired, fun metadata => ⟨_, rfl⟩⟩ fun removed => ?_
      cases removed with
      | none => trivial
      | some metadata =>
          refine forall_await trivial fun _ => ?_
          apply forall_bind (forall_whenMetrics (forall_perform.mpr trivial))
          exact fun _ => trivial
  · trivial

theorem forall_expireSessions {sessions : List SessionMetadata}
    (h : ∀ session ∈ sessions, expires session) :
    (expireSessions config sessions).Forall (Orderly config lists expires) := by
  induction sessions with
  | nil => trivial
  | cons session sessions ih =>
      obtain ⟨hfirst, hmore⟩ := List.forall_mem_cons.mp h
      apply forall_bind (forall_expireSession hfirst)
      exact fun _ => forall_bind (ih hmore) fun _ => trivial

end ManagerProgram

open ManagerProgram

/-- The cleanup callback lists all sessions once, first, and expires only those. -/
theorem ManagerTask.program_cleanup (config : SessionManagerConfig) :
    ∃ next, ManagerTask.program config .cleanup = .call .listAll next ∧
      ∀ sessions, (next sessions).Forall (Orderly config False (· ∈ sessions)) := by
  refine ⟨_, rfl, fun sessions => ?_⟩
  change Forall _ ((expireSessions config sessions >>= _) >>= _)
  refine forall_bind (forall_bind (forall_expireSessions fun _ hmem => hmem) ?_) fun _ => trivial
  intro _
  refine forall_await trivial fun _ => ?_
  apply forall_bind (forall_whenMetrics (forall_perform.mpr trivial))
  exact fun _ => trivial

/-- The other operations do neither. -/
theorem ManagerTask.forall_program_of_ne {config : SessionManagerConfig} {task : ManagerTask}
    (h : task ≠ .cleanup) {lists : Prop} {expires : SessionMetadata → Prop} :
    (task.program config).Forall (Orderly config lists expires) := by
  cases task with
  | createSession name transportConfig tags description =>
      exact forall_bind (forall_createSession name transportConfig tags description)
        fun _ => trivial
  | updateSessionStatus sessionId status =>
      exact forall_bind (forall_updateSessionStatus sessionId status) fun _ => trivial
  | useSession sessionId => exact forall_bind (forall_useSession sessionId) fun _ => trivial
  | closeSession sessionId =>
      exact forall_bind (forall_closeSession sessionId) fun _ => trivial
  | connectOrCreateSession name transportConfig =>
      exact forall_bind (forall_connectOrCreateSession name transportConfig) fun _ => trivial
  | updateSessionMetadata sessionId metadata => exact ⟨trivial, fun _ => trivial⟩
  | cleanup => exact absurd rfl h

theorem ManagerTask.forall_program (config : SessionManagerConfig) (task : ManagerTask) :
    (task.program config).Forall (Orderly config True fun _ => True) := by
  by_cases hcleanup : task = .cleanup
  · subst hcleanup
    obtain ⟨next, hprogram, hnext⟩ := program_cleanup config
    rw [hprogram]
    refine ⟨trivial, fun sessions => (hnext sessions).mono ?_⟩
    exact Orderly.mono False.elim fun _ _ => trivial
  · exact forall_program_of_ne hcleanup

end Yuha
