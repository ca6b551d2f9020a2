import Yuha.Core.Session.Census
import Yuha.Core.Session.Expiring
import Yuha.Daemon.TaskNotes
import Yuha.Library.Tally

/-!
# The accounts of the daemon

Whatever the order in which the tasks take their steps, an identifier is drawn by one task,
becomes a session in the registry at most once, and is handed out as a new session at most
once. The metrics lag behind the registry by the sessions that some task has yet to record,
and by nothing else.
-/

namespace Yuha

open Library Library.Program Library.Execution

namespace DaemonTasks

/-- The identifiers that the turns offer, whether or not they are drawn. -/
def issuedIds (turns : List DaemonTurn) : List SessionId :=
  turns.filterMap fun turn => match turn with
    | .start _ => none
    | .advance _ ambient => some ambient.freshId

/-- The turn offers an identifier that was not offered before. -/
def OffersNew (past : List DaemonTurn) (turn : DaemonTurn) : Prop :=
  ∀ i ambient, turn = .advance i ambient → ambient.freshId ∉ issuedIds past

@[simp] theorem issuedIds_start (past : List DaemonTurn) (input : DaemonInput) :
    issuedIds (past ++ [.start input]) = issuedIds past := by
  simp [issuedIds]

@[simp] theorem issuedIds_advance (past : List DaemonTurn) (i : Nat) (ambient : Ambient) :
    issuedIds (past ++ [.advance i ambient]) = issuedIds past ++ [ambient.freshId] := by
  simp [issuedIds]

/-- Identifiers drawn once each are new at every turn. -/
theorem along_offersNew (config : SessionManagerConfig) {turns : List DaemonTurn}
    (hfresh : (issuedIds turns).Nodup) :
    Along (step config) (fun past _ turn => OffersNew past turn) (new config) turns := by
  rintro past turn hpast i ambient rfl
  have hnodup := (hpast.sublist.filterMap _).nodup hfresh
  change (issuedIds (past ++ [.advance i ambient])).Nodup at hnodup
  rw [issuedIds_advance, List.nodup_append] at hnodup
  exact fun hmem => hnodup.2.2 _ hmem _ (List.mem_singleton_self _) rfl

end DaemonTasks

/-! ## Where an identifier is -/

namespace TaskNote

def draws (id : SessionId) (note : TaskNote) : Nat := if note.drawn = some id then 1 else 0

def holds (id : SessionId) (note : TaskNote) : Nat := if note.created = some id then 1 else 0

variable {config : SessionManagerConfig}

@[simp] theorem unregistered_drawn (note : TaskNote) (answer : Option SessionMetadata) :
    (note.unregistered config answer).drawn = note.drawn := by
  cases answer <;> rfl

@[simp] theorem unregistered_created (note : TaskNote) (answer : Option SessionMetadata) :
    (note.unregistered config answer).created = note.created := by
  cases answer <;> rfl

@[simp] theorem unregistered_unrecorded (note : TaskNote) (answer : Option SessionMetadata) :
    (note.unregistered config answer).unrecorded = note.unrecorded := by
  cases answer <;> rfl

def owesCreation (note : TaskNote) : Nat := if note.unrecorded then 1 else 0

def owesClosing (note : TaskNote) : Nat := if note.unclosed then 1 else 0

end TaskNote

/-- The new session that a response hands out. -/
def DaemonResponse.newSession : DaemonResponse → Option SessionId
  | .sessionCreated id false => some id
  | _ => none

namespace ServingHandler

/-- The new sessions handed out, in order. -/
def handedOut (s : ServingHandler) : List SessionId :=
  s.sent.filterMap fun response => response.2.newSession

abbrev registry (s : ServingHandler) : SessionRegistry := s.handler.sessionManager.registry

variable {s : ServingHandler} {metadata : SessionMetadata} (ambient : Ambient)

theorem exec_register_of_error {e : SessionError}
    (h : s.registry.checkRegister metadata = .error e) :
    exec ambient (.manager (.register metadata)) s = (.error e, s) := by
  simp [exec, withManager, SessionManager.exec, SessionManager.withRegistry,
    SessionRegistry.register_of_error h]

theorem exec_register_of_ok (h : s.registry.checkRegister metadata = .ok ()) :
    exec ambient (.manager (.register metadata)) s =
      s.withManager (.ok metadata.id, { s.handler.sessionManager with
        registry := (s.registry.register metadata).2 }) := by
  simp [exec, withManager, SessionManager.exec, SessionManager.withRegistry,
    SessionRegistry.register, h]

end ServingHandler

open TaskNote in
/-- An identifier is in one place at most: drawn by one task, registered by one task that has
not handed it out, or handed out. No session is registered under one that is only drawn. -/
structure Placed (issued : List SessionId) (notes : List TaskNote) (s : ServingHandler) : Prop where
  once : ∀ id, tally (draws id) notes + tally (holds id) notes + s.handedOut.count id ≤
    if id ∈ issued then 1 else 0
  registered : ∀ id metadata, s.registry.get id = some metadata →
    id ∈ issued ∧ tally (draws id) notes = 0

namespace Placed

open TaskNote ServingHandler

variable {config : SessionManagerConfig} {issued : List SessionId} {notes : List TaskNote}
  {s : ServingHandler} {ambient : Ambient} {i : Nat} {note : TaskNote}

theorem new (config : SessionManagerConfig) : Placed [] [] (.new config) where
  once id := by simp [handedOut, ServingHandler.new]
  registered id metadata h := by
    simp [ServingHandler.new, RequestHandler.new, SessionManager.new, SessionRegistry.new,
      SessionRegistry.get] at h

theorem start (h : Placed issued notes s) :
    Placed issued (notes ++ [({} : TaskNote)]) s where
  once id := by simpa [draws, holds] using h.once id
  registered id metadata hget := by simpa [draws] using h.registered id metadata hget

theorem mono (h : Placed issued notes s) (id' : SessionId) : Placed (issued ++ [id']) notes s where
  once id := (h.once id).trans (by split <;> simp_all)
  registered id metadata hget :=
    ⟨List.mem_append_left _ (h.registered id metadata hget).1, (h.registered id metadata hget).2⟩

/-- A session is registered under the identifier that the task has drawn. -/
theorem get_eq_none_of_drawn (h : Placed issued notes s) (hnote : notes[i]? = some note)
    {id : SessionId} (hdrawn : note.drawn = some id) : s.registry.get id = none := by
  by_contra hsome
  obtain ⟨metadata, hget⟩ := Option.ne_none_iff_exists'.mp hsome
  have hzero := (h.registered id metadata hget).2
  have hone := tally_eq_zero_iff.mp hzero note (List.mem_of_getElem? hnote)
  simp [draws, hdrawn] at hone

/-- Nothing changes places where the task draws and hands out what it did before. -/
theorem set (h : Placed issued notes s) {s' : ServingHandler} (hnote : notes[i]? = some note)
    {note' : TaskNote} (hdrawn : note'.drawn = note.drawn) (hcreated : note'.created = note.created)
    (hsent : s'.sent = s.sent)
    (hget : ∀ id metadata, s'.registry.get id = some metadata →
      ∃ before, s.registry.get id = some before) :
    Placed issued (notes.set i note') s' where
  once id := by
    have hdraws := tally_set (draws id) hnote note'
    have hholds := tally_set (holds id) hnote note'
    have honce := h.once id
    simp only [draws, holds, hdrawn, hcreated, handedOut, hsent] at hdraws hholds honce ⊢
    omega
  registered id metadata hafter := by
    obtain ⟨before, hbefore⟩ := hget id metadata hafter
    obtain ⟨hissued, hzero⟩ := h.registered id before hbefore
    have hdraws := tally_set (draws id) hnote note'
    simp only [draws, hdrawn] at hdraws hzero ⊢
    exact ⟨hissued, by omega⟩

/-- A call that neither registers a session nor replaces one. -/
def AddsNone : ManagerAction → Prop
  | .register _ | .update _ _ => False
  | _ => True

/-- A call that registers and replaces no session leaves only sessions that were there. -/
theorem exists_get_before {action : ManagerAction} {manager : SessionManager}
    (hnone : AddsNone action) {id : SessionId} {metadata : SessionMetadata}
    (h : (SessionManager.exec ambient action manager).2.registry.get id = some metadata) :
    ∃ before, manager.registry.get id = some before := by
  rcases SessionManager.getSession_exec h with hold | ⟨newMetadata, rfl, _⟩ | ⟨rfl, _⟩ |
    ⟨oldMetadata, _, hold, _⟩ | ⟨oldMetadata, status, _, hold, _⟩
  · exact ⟨metadata, hold⟩
  · exact hnone.elim
  · exact hnone.elim
  · exact ⟨oldMetadata, hold⟩
  · exact ⟨oldMetadata, hold⟩

theorem setCall (h : Placed issued notes s) (hnote : notes[i]? = some note)
    {action : ManagerAction} {note' : TaskNote} (hnone : AddsNone action)
    (hdrawn : note'.drawn = note.drawn) (hcreated : note'.created = note.created) :
    Placed issued (notes.set i note') (exec ambient (.manager action) s).2 :=
  h.set hnote hdrawn hcreated rfl fun _ _ hget => exists_get_before hnone hget

/-- An identifier that is drawn was in no place. -/
theorem draw (h : Placed issued notes s) (hnote : notes[i]? = some note) {id' : SessionId}
    (hnew : id' ∉ issued) :
    Placed (issued ++ [id']) (notes.set i { note with drawn := some id' }) s where
  once id := by
    have hdraws := tally_set (draws id) hnote { note with drawn := some id' }
    have hholds := tally_set (holds id) hnote { note with drawn := some id' }
    have honce := h.once id
    by_cases hid : id = id'
    · subst hid
      simp only [draws, holds, hnew, if_false, if_true, List.mem_append, List.mem_singleton,
        or_true] at hdraws hholds honce ⊢
      omega
    · have hne : id' ≠ id := Ne.symm hid
      simp only [draws, holds, Option.some.injEq, hne, if_false, List.mem_append,
        List.mem_singleton, hid, or_false] at hdraws hholds honce ⊢
      omega
  registered id metadata hget := by
    obtain ⟨hissued, hzero⟩ := h.registered id metadata hget
    have hne : id' ≠ id := fun heq => hnew (heq ▸ hissued)
    have hdraws := tally_set (draws id) hnote { note with drawn := some id' }
    simp only [draws, Option.some.injEq, hne, if_false] at hdraws hzero ⊢
    exact ⟨List.mem_append_left _ hissued, by omega⟩

/-- A session is registered under the drawn identifier, which is drawn no longer. -/
theorem register (h : Placed issued notes s) (hnote : notes[i]? = some note)
    {s' : ServingHandler} {note' : TaskNote} {metadata : SessionMetadata}
    (hdrawn : note.drawn = some metadata.id) (hdrawn' : note'.drawn = none)
    (hcreated : note'.created = some metadata.id) (hsent : s'.sent = s.sent)
    (hget : ∀ id after, s'.registry.get id = some after →
      id = metadata.id ∨ ∃ before, s.registry.get id = some before) :
    Placed issued (notes.set i note') s' where
  once id := by
    have hdraws := tally_set (draws id) hnote note'
    have hholds := tally_set (holds id) hnote note'
    have honce := h.once id
    simp only [draws, holds, hdrawn, hdrawn', hcreated, handedOut, hsent, reduceCtorEq, if_false]
      at hdraws hholds honce ⊢
    omega
  registered id after hafter := by
    have hdraws := tally_set (draws id) hnote note'
    have honce := h.once id
    simp only [draws, hdrawn, hdrawn', Option.some.injEq, reduceCtorEq, if_false]
      at hdraws honce ⊢
    rcases hget id after hafter with rfl | ⟨before, hbefore⟩
    · rw [if_pos rfl] at hdraws
      split at honce
      · next hissued => exact ⟨hissued, by omega⟩
      · omega
    · obtain ⟨hissued, hzero⟩ := h.registered id before hbefore
      exact ⟨hissued, by omega⟩

/-- A task gives up an identifier that it has drawn. -/
theorem giveUp (h : Placed issued notes s) (hnote : notes[i]? = some note) :
    Placed issued (notes.set i { note with drawn := none }) s where
  once id := by
    have hdraws := tally_set (draws id) hnote { note with drawn := none }
    have hholds := tally_set (holds id) hnote { note with drawn := none }
    have honce := h.once id
    simp only [draws, holds, reduceCtorEq, if_false] at hdraws hholds honce ⊢
    omega
  registered id metadata hget := by
    obtain ⟨hissued, hzero⟩ := h.registered id metadata hget
    have hdraws := tally_set (draws id) hnote { note with drawn := none }
    simp only [draws, reduceCtorEq, if_false] at hdraws hzero ⊢
    exact ⟨hissued, by omega⟩

/-- A session is handed out by the task that has registered it, which holds it no longer. -/
theorem handOut (h : Placed issued notes s) (hnote : notes[i]? = some note) (client : ClientId)
    {response : DaemonResponse} (hhands : note.HandsOut response) :
    Placed issued (notes.set i { note with created := none })
      { s with sent := s.sent ++ [(client, response)] } where
  once id := by
    have hdraws := tally_set (draws id) hnote { note with created := none }
    have hholds := tally_set (holds id) hnote { note with created := none }
    have honce := h.once id
    have hout : handedOut { s with sent := s.sent ++ [(client, response)] } =
        s.handedOut ++ response.newSession.toList := by
      cases hnew : response.newSession <;> simp [handedOut, hnew]
    rw [hout, List.count_append]
    cases hnew : response.newSession with
    | none =>
        simp only [draws, holds, reduceCtorEq, if_false, Option.toList_none, List.count_nil]
          at hdraws hholds honce ⊢
        omega
    | some id' =>
        have hresponse : response = .sessionCreated id' false := by
          unfold DaemonResponse.newSession at hnew
          split at hnew
          · obtain rfl := Option.some.inj hnew
            rfl
          · cases hnew
        have hcreated := hhands id' hresponse
        simp only [draws, holds, hcreated, Option.some.injEq, reduceCtorEq, if_false,
          Option.toList_some, List.count_singleton, beq_iff_eq] at hdraws hholds honce ⊢
        omega
  registered id metadata hget := by
    obtain ⟨hissued, hzero⟩ := h.registered id metadata hget
    have hdraws := tally_set (draws id) hnote { note with created := none }
    simp only [draws] at hdraws hzero ⊢
    exact ⟨hissued, by omega⟩

theorem advanceRegister (h : Placed issued notes s) (hnote : notes[i]? = some note)
    {metadata : SessionMetadata} (hdrawn : note.drawn = some metadata.id) :
    Placed issued (notes.set i (note.afterCall config (.register metadata)
        (exec ambient (.manager (.register metadata)) s).1))
      (exec ambient (.manager (.register metadata)) s).2 := by
  cases hcheck : s.registry.checkRegister metadata with
  | error e =>
      rw [exec_register_of_error ambient hcheck]
      exact h.giveUp hnote
  | ok _ =>
      rw [exec_register_of_ok ambient hcheck]
      refine h.register hnote hdrawn rfl rfl rfl ?_
      intro id later hlater
      have hget : (s.registry.register metadata).2.get id = some later := hlater
      rw [SessionRegistry.get_register_of_ok hcheck] at hget
      split at hget
      · next hid => exact Or.inl hid
      · exact Or.inr ⟨later, hget⟩

theorem advanceCall (h : Placed issued notes s) (hnote : notes[i]? = some note)
    {action : ManagerAction} (hpermits : note.PermitsCall action)
    (hnew : ambient.freshId ∉ issued) :
    Placed (issued ++ [ambient.freshId])
      (notes.set i (note.afterCall config action (exec ambient (.manager action) s).1))
      (exec ambient (.manager action) s).2 := by
  have hmono := h.mono ambient.freshId
  cases action with
  | ambient => exact h.draw hnote hnew
  | update => exact hpermits.elim
  | register metadata => exact hmono.advanceRegister hnote hpermits.1
  | unregister sessionId =>
      exact hmono.setCall hnote trivial (unregistered_drawn note _) (unregistered_created note _)
  | unregisterExpired session checkedAt =>
      exact hmono.setCall hnote trivial (unregistered_drawn note _) (unregistered_created note _)
  | get | updateStatus | markUsed | listAll | addSession | removeSession | findSession
    | cleanupExpired | recordSessionCreated | recordStatusChange | recordConnectionSuccess
    | recordConnectionFailure | recordSessionUsage | recordSessionClosed | cleanupOldHistory =>
      exact hmono.setCall hnote trivial rfl rfl

/-- Every action that the note permits leaves each identifier in one place at most. -/
theorem advance (h : Placed issued notes s) (hnote : notes[i]? = some note)
    {action : HandlerAction} (hpermits : note.Permits action) (hnew : ambient.freshId ∉ issued) :
    Placed (issued ++ [ambient.freshId])
      (notes.set i (note.after config action (exec ambient action s).1))
      (exec ambient action s).2 := by
  cases action with
  | manager action => exact h.advanceCall hnote hpermits hnew
  | send client response => exact (h.mono _).handOut hnote client hpermits
  | getClient | insertClient | removeClient =>
      exact (h.mono _).set hnote rfl rfl rfl fun _ metadata hget => ⟨metadata, hget⟩

end Placed

/-! ## What the metrics have seen -/

namespace ManagerAction

/-- The sessions the call records as created. -/
def creations : ManagerAction → Nat
  | .recordSessionCreated _ => 1
  | _ => 0

/-- The sessions the call records as closed. -/
def closings : ManagerAction → Nat
  | .recordSessionClosed _ => 1
  | _ => 0

end ManagerAction

namespace SessionManager

/-- The sessions recorded as created. -/
def recordedCreated (manager : SessionManager) : Nat :=
  manager.metrics.elim 0 fun collector => collector.metrics.totalSessionsCreated

/-- The sessions recorded as closed. -/
def recordedClosed (manager : SessionManager) : Nat :=
  manager.metrics.elim 0 fun collector => collector.metrics.sessionsClosed

variable {manager : SessionManager} (ambient : Ambient)

/-- Only the two recordings count. -/
theorem recorded_exec (hmetrics : manager.metrics.isSome) (action : ManagerAction) :
    (exec ambient action manager).2.recordedCreated =
        manager.recordedCreated + action.creations ∧
      (exec ambient action manager).2.recordedClosed =
        manager.recordedClosed + action.closings := by
  obtain ⟨collector, hcollector⟩ := Option.isSome_iff_exists.mp hmetrics
  cases action with
  | recordSessionClosed session =>
      simpa [exec, record, recordedCreated, recordedClosed, hcollector, ManagerAction.creations,
        ManagerAction.closings]
        using SessionMetrics.totals_recordSessionClosed collector ambient.now session
  | recordStatusChange sessionId oldStatus newStatus =>
      simp [exec, record, recordedCreated, recordedClosed, hcollector,
        SessionMetricsCollector.recordStatusChange, ManagerAction.creations,
        ManagerAction.closings]
  | ambient | register | get | update | updateStatus | markUsed | listAll | unregister
    | unregisterExpired | addSession | removeSession | findSession | cleanupExpired
    | recordSessionCreated | recordConnectionSuccess | recordConnectionFailure
    | recordSessionUsage | cleanupOldHistory =>
      simp [exec, record, withRegistry, withPool, recordedCreated, recordedClosed, hcollector,
        SessionMetricsCollector.recordSessionCreated,
        SessionMetricsCollector.recordConnectionSuccess,
        SessionMetricsCollector.recordConnectionFailure,
        SessionMetricsCollector.recordSessionUsage, SessionMetricsCollector.cleanupOldHistory,
        ManagerAction.creations, ManagerAction.closings]

end SessionManager

open TaskNote in
/-- What was recorded, and what some task has yet to record, accounts for the registry. -/
def AccountsAgree (notes : List TaskNote) (s : ServingHandler) : Prop :=
  s.handler.sessionManager.recordedCreated + tally owesCreation notes =
    s.handler.sessionManager.recordedClosed + tally owesClosing notes + s.registry.count

namespace AccountsAgree

open TaskNote ServingHandler SessionManager

variable {config : SessionManagerConfig} {notes : List TaskNote} {s : ServingHandler}
  {ambient : Ambient} {i : Nat} {note : TaskNote}

theorem new (config : SessionManagerConfig) : AccountsAgree [] (.new config) := by
  have hmetrics : (SessionManager.new config).recordedCreated = 0 ∧
      (SessionManager.new config).recordedClosed = 0 := by
    constructor <;> cases h : config.enableMetrics <;>
      simp [recordedCreated, recordedClosed, SessionManager.new, h]
  simp only [AccountsAgree, ServingHandler.new, RequestHandler.new, hmetrics, tally_nil]
  rfl

theorem start (h : AccountsAgree notes s) : AccountsAgree (notes ++ [({} : TaskNote)]) s := by
  simpa [AccountsAgree, owesCreation, owesClosing] using h

/-- A step that leaves the registry as it is keeps the balance if what it records is what
the task owed. -/
theorem set (h : AccountsAgree notes s) (hnote : notes[i]? = some note) {s' : ServingHandler}
    {note' : TaskNote}
    (hcreated : s'.handler.sessionManager.recordedCreated + owesCreation note' =
      s.handler.sessionManager.recordedCreated + owesCreation note)
    (hclosed : s'.handler.sessionManager.recordedClosed + owesClosing note' + s'.registry.count =
      s.handler.sessionManager.recordedClosed + owesClosing note + s.registry.count) :
    AccountsAgree (notes.set i note') s' := by
  have hcreation := tally_set owesCreation hnote note'
  have hclosing := tally_set owesClosing hnote note'
  unfold AccountsAgree at h ⊢
  omega

theorem setCall (h : AccountsAgree notes s) (hnote : notes[i]? = some note)
    (hmetrics : s.handler.sessionManager.metrics.isSome) {action : ManagerAction}
    {note' : TaskNote}
    (hcreated : owesCreation note' + action.creations = owesCreation note)
    (hclosed : owesClosing note' + action.closings +
        (SessionManager.exec ambient action s.handler.sessionManager).2.registry.count =
      owesClosing note + s.registry.count) :
    AccountsAgree (notes.set i note') (ServingHandler.exec ambient (.manager action) s).2 := by
  obtain ⟨hrecorded, hrecorded'⟩ := recorded_exec ambient hmetrics action
  refine h.set hnote ?_ ?_
  · calc
      _ = (SessionManager.exec ambient action s.handler.sessionManager).2.recordedCreated +
          owesCreation note' := rfl
      _ = _ := by rw [hrecorded]; omega
  · calc
      _ = (SessionManager.exec ambient action s.handler.sessionManager).2.recordedClosed +
          owesClosing note' +
          (SessionManager.exec ambient action s.handler.sessionManager).2.registry.count := rfl
      _ = _ := by rw [hrecorded']; omega

/-- A session that was unregistered is to be recorded as closed. -/
theorem unregister (henabled : config.enableMetrics = true) (hnone : note.unclosed = false)
    (registry : SessionRegistry) (sessionId : SessionId) :
    owesClosing (note.unregistered config (registry.unregister sessionId).1) +
        (registry.unregister sessionId).2.count = owesClosing note + registry.count := by
  cases hget : registry.get sessionId with
  | none =>
      have hlookup : registry.sessions.lookup sessionId = none := hget
      simp [SessionRegistry.unregister, hlookup, unregistered]
  | some metadata =>
      have hcount := SessionRegistry.count_unregister hget
      have hfound : (registry.unregister sessionId).1 = some metadata := by
        have hlookup : registry.sessions.lookup sessionId = some metadata := hget
        simp [SessionRegistry.unregister, hlookup]
      simp only [hfound, unregistered, owesClosing, henabled, hnone, if_true] at hcount ⊢
      simp only [Bool.false_eq_true, if_false]
      omega

theorem advanceCall (h : AccountsAgree notes s) (hnote : notes[i]? = some note)
    (henabled : config.enableMetrics = true)
    (hmetrics : s.handler.sessionManager.metrics.isSome) {issued : List SessionId}
    (hplaced : Placed issued notes s) {action : ManagerAction}
    (hpermits : note.PermitsCall action) :
    AccountsAgree (notes.set i (note.afterCall config action
        (ServingHandler.exec ambient (.manager action) s).1))
      (ServingHandler.exec ambient (.manager action) s).2 := by
  cases action with
  | update => exact hpermits.elim
  | recordSessionCreated session =>
      have hone : note.unrecorded = true := hpermits
      exact h.setCall hnote hmetrics
        (by simp [owesCreation, afterCall, hone, ManagerAction.creations]) rfl
  | recordSessionClosed session =>
      have hone : note.unclosed = true := hpermits
      exact h.setCall hnote hmetrics rfl
        (by simp [owesClosing, afterCall, hone, SessionManager.exec, record,
          ManagerAction.closings])
  | unregister sessionId =>
      refine h.setCall hnote hmetrics ?_ (unregister henabled hpermits s.registry sessionId)
      exact congrArg (if · then 1 else 0) (unregistered_unrecorded note _)
  | unregisterExpired session checkedAt =>
      refine h.setCall hnote hmetrics ?_ (unregister henabled hpermits s.registry session.id)
      exact congrArg (if · then 1 else 0) (unregistered_unrecorded note _)
  | register metadata =>
      obtain ⟨hdrawn, hnone⟩ := hpermits
      cases hcheck : s.registry.checkRegister metadata with
      | error e =>
          rw [exec_register_of_error ambient hcheck]
          exact h.set hnote rfl rfl
      | ok _ =>
          have hfresh := hplaced.get_eq_none_of_drawn hnote hdrawn
          have hcount := SessionRegistry.count_register hcheck hfresh
          rw [exec_register_of_ok ambient hcheck]
          have hcreation := tally_set owesCreation hnote
            (note.afterCall config (.register metadata) (.ok metadata.id))
          have hclosing := tally_set owesClosing hnote
            (note.afterCall config (.register metadata) (.ok metadata.id))
          simp only [afterCall, owesCreation, owesClosing, hnone, henabled, if_true,
            Bool.false_eq_true, if_false] at hcreation hclosing
          simp only [AccountsAgree, withManager, afterCall, henabled] at h ⊢
          change recordedCreated s.handler.sessionManager + _ =
            recordedClosed s.handler.sessionManager + _ + (s.registry.register metadata).2.count
          omega
  | updateStatus | markUsed =>
      exact h.setCall hnote hmetrics rfl
        (congrArg (owesClosing note + ·) SessionRegistry.count_modify)
  | ambient | get | listAll | addSession | removeSession | findSession | cleanupExpired
    | recordStatusChange | recordConnectionSuccess | recordConnectionFailure
    | recordSessionUsage | cleanupOldHistory => exact h.setCall hnote hmetrics rfl rfl

theorem advance (h : AccountsAgree notes s) (hnote : notes[i]? = some note)
    (henabled : config.enableMetrics = true)
    (hmetrics : s.handler.sessionManager.metrics.isSome) {issued : List SessionId}
    (hplaced : Placed issued notes s) {action : HandlerAction} (hpermits : note.Permits action) :
    AccountsAgree (notes.set i (note.after config action (ServingHandler.exec ambient action s).1))
      (ServingHandler.exec ambient action s).2 := by
  cases action with
  | manager action => exact h.advanceCall hnote henabled hmetrics hplaced hpermits
  | getClient | insertClient | removeClient | send => exact h.set hnote rfl rfl

end AccountsAgree

/-! ## Every run -/

namespace DaemonTasks

open TaskNote

variable {config : SessionManagerConfig} {turns : List DaemonTurn}

variable (config) in
/-- The notes on the tasks say where each identifier is. -/
theorem exists_placed (hfresh : (issuedIds turns).Nodup) :
    ∀ past, past <+: turns → ∃ notes,
      Calls.Monitored (TaskNote.tasks config) Settled notes (run (step config) (new config) past) ∧
        Placed (issuedIds past) notes (run (step config) (new config) past).shared := by
  refine Calls.exists_notes (J := fun past notes s => Placed (issuedIds past) notes s.shared)
    (DaemonInput.follows_program config) (along_offersNew config hfresh) (Placed.new config)
    ?_ ?_ ?_
  · intro past notes s input h
    rw [issuedIds_start]
    exact h.start
  · intro past notes s i ambient h _
    rw [issuedIds_advance]
    exact h.mono ambient.freshId
  · intro past notes s i ambient note action h hnew hnote hpermits hshared
    rw [hshared, issuedIds_advance]
    exact h.advance hnote hpermits (hnew i ambient rfl)

/-- In whatever order the tasks take their steps, no identifier is handed out twice as that
of a new session. -/
theorem nodup_handedOut (config : SessionManagerConfig) (turns : List DaemonTurn)
    (hfresh : (issuedIds turns).Nodup) :
    (run (step config) (new config) turns).shared.handedOut.Nodup := by
  obtain ⟨notes, _, hplaced⟩ := exists_placed config hfresh turns (List.prefix_refl turns)
  refine List.nodup_iff_count_le_one.mpr fun id => ?_
  have honce := hplaced.once id
  split at honce <;> omega

/-- The state next to the notes, if the metrics are enabled. -/
structure Kept (config : SessionManagerConfig) (past : List DaemonTurn) (notes : List TaskNote)
    (s : ServingHandler) : Prop where
  built : s.handler.sessionManager.BuiltFrom config
  placed : Placed (issuedIds past) notes s
  balanced : AccountsAgree notes s

theorem exists_kept (henabled : config.enableMetrics = true) (hfresh : (issuedIds turns).Nodup) :
    ∀ past, past <+: turns → ∃ notes,
      Calls.Monitored (TaskNote.tasks config) Settled notes (run (step config) (new config) past) ∧
        Kept config past notes (run (step config) (new config) past).shared := by
  refine Calls.exists_notes (J := fun past notes s => Kept config past notes s.shared)
    (DaemonInput.follows_program config) (along_offersNew config hfresh)
    ⟨SessionManager.builtFrom_new config, Placed.new config, AccountsAgree.new config⟩ ?_ ?_ ?_
  · intro past notes s input h
    refine ⟨h.built, ?_, h.balanced.start⟩
    rw [issuedIds_start]
    exact h.placed.start
  · intro past notes s i ambient h _
    refine ⟨h.built, ?_, h.balanced⟩
    rw [issuedIds_advance]
    exact h.placed.mono ambient.freshId
  · intro past notes s i ambient note action h hnew hnote hpermits hshared
    have hmetrics : s.shared.handler.sessionManager.metrics.isSome = true :=
      h.built.metrics.trans henabled
    rw [hshared]
    refine ⟨HandlerProgram.builtFrom_exec ambient h.built action, ?_,
      h.balanced.advance hnote henabled hmetrics h.placed hpermits⟩
    rw [issuedIds_advance]
    exact h.placed.advance hnote hpermits (hnew i ambient rfl)

/-- The tasks that have not ended. -/
def inProgress (s : DaemonTasks) : Nat :=
  s.calls.countP fun p => match p with
    | .done _ => false
    | .call _ _ => true

theorem inProgress_of_quiescent {s : DaemonTasks} (h : s.Quiescent) : inProgress s = 0 := by
  refine List.countP_eq_zero.mpr fun p hp => ?_
  rw [h p hp]
  exact Bool.false_ne_true

/-- Only a task that has not ended has something to record, and it has one thing at most. -/
theorem tally_le_inProgress {notes : List TaskNote} {s : DaemonTasks}
    (h : Calls.Monitored (TaskNote.tasks config) Settled notes s) :
    tally owesCreation notes ≤ inProgress s ∧ tally owesClosing notes ≤ inProgress s := by
  unfold Calls.Monitored at h
  unfold inProgress
  generalize s.calls = calls at h
  induction h with
  | nil => exact ⟨Nat.le_refl _, Nat.le_refl _⟩
  | @cons p note calls notes hfirst hmore ih =>
      simp only [tally_cons, List.countP_cons]
      cases p with
      | done result =>
          obtain ⟨hrecorded, hclosed⟩ := hfirst
          simp only [owesCreation, owesClosing, hrecorded, hclosed, Bool.false_eq_true, if_false,
            Nat.zero_add, Nat.add_zero]
          exact ih
      | call action next =>
          simp only [owesCreation, owesClosing, if_true]
          constructor <;> split <;> omega

/-- The sessions recorded as created are those recorded as closed and those registered, up to
one for each task in progress. -/
structure RecordsInTime (s : DaemonTasks) : Prop where
  created : s.shared.handler.sessionManager.recordedCreated ≤
    s.shared.handler.sessionManager.recordedClosed + s.shared.registry.count + inProgress s
  closed : s.shared.handler.sessionManager.recordedClosed + s.shared.registry.count ≤
    s.shared.handler.sessionManager.recordedCreated + inProgress s
  quiescent : s.Quiescent → s.shared.handler.sessionManager.recordedCreated =
    s.shared.handler.sessionManager.recordedClosed + s.shared.registry.count

/-- In whatever order the tasks take their steps, the metrics account for the registry. -/
theorem recordsInTime (config : SessionManagerConfig) (henabled : config.enableMetrics = true)
    (turns : List DaemonTurn) (hfresh : (issuedIds turns).Nodup) :
    Always (step config) RecordsInTime (new config) turns := by
  intro past hpast
  obtain ⟨notes, hmonitored, hkept⟩ := exists_kept henabled hfresh past hpast
  obtain ⟨hcreation, hclosing⟩ := tally_le_inProgress hmonitored
  have hbalanced := hkept.balanced
  unfold AccountsAgree at hbalanced
  refine ⟨by omega, by omega, fun hquiescent => ?_⟩
  rw [inProgress_of_quiescent hquiescent] at hcreation hclosing
  omega

/-- Two clients create sessions at the same time. -/
def createdTogether : List DaemonTurn :=
  [.start (.request 0 (.createSession "build" {} [] none)),
    .start (.request 1 (.createSession "test" {} [] none))] ++
    (List.range 30).map fun n =>
      .advance (n % 2) { now := 0, freshId := ⟨BitVec.ofNat 128 n⟩, rank := fun _ => 0 }

theorem nodup_handedOut_createdTogether :
    (run (step {}) (new {}) createdTogether).shared.handedOut = [⟨2⟩, ⟨3⟩] ∧
      (run (step {}) (new {}) createdTogether).shared.handedOut.Nodup :=
  ⟨by decide +kernel, nodup_handedOut {} createdTogether (by decide)⟩

theorem recordsInTime_createdTogether :
    Always (step {}) RecordsInTime (new {}) createdTogether :=
  recordsInTime {} rfl createdTogether (by decide)

end DaemonTasks

end Yuha
