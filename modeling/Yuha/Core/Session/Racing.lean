import Yuha.Core.Session.CallOrder
import Yuha.Core.Session.Pooling

/-!
# Concurrent operations and the pool

Operations of the manager may take turns between any two of their calls. The pool is
brought up to date after the registry, with what an operation saw of it earlier, so
another operation can come in between. What is left in the pool then is harmless as long
as somebody is still about to take it out.
-/

namespace Yuha

open Library Library.Program Library.Execution

/-! ## What one call does -/

namespace SessionManager

/-- The session is registered, and not active. -/
def Rests (manager : SessionManager) (id : SessionId) : Prop :=
  ∃ metadata, manager.getSession id = some metadata ∧ metadata.status ≠ .active

/-- Every pooled session rests, or is about to be taken out of the pool. -/
def Attended (leaving : SessionId → Prop) (manager : SessionManager) : Prop :=
  ∀ id key, manager.pool.keyOf id = some key → manager.Rests id ∨ leaving id

/-- The call does not leave behind in the pool what nobody takes out again: what it pools
rests, and what it unregisters or makes active by an update is not pooled, unless it is
about to be taken out. -/
def Attends (leaving : SessionId → Prop) (manager : SessionManager) : ManagerAction → Prop
  | .addSession session => manager.pool.Accepts session →
      (∀ key, manager.pool.keyOf session.id = some key → key = session.connectionKey) ∧
        (manager.Rests session.id ∨ leaving session.id)
  | .unregister sessionId => manager.pool.keyOf sessionId = none ∨ leaving sessionId
  | .update sessionId metadata =>
      metadata.id ≠ sessionId ∨ metadata.status ≠ .active ∨
        manager.pool.keyOf sessionId = none ∨ leaving sessionId
  | _ => True

variable {manager : SessionManager}

theorem wellFormed_exec (h : manager.pool.WellFormed) {leaving : SessionId → Prop}
    (ambient : Ambient) {action : ManagerAction} (hattends : manager.Attends leaving action) :
    (exec ambient action manager).2.pool.WellFormed := by
  cases action with
  | addSession session =>
      by_cases haccepts : manager.pool.Accepts session
      · exact h.addSession ambient.now (hattends haccepts).1
      · have hpool := SessionPool.addSession_of_not_accepts haccepts ambient.now
        exact (congrArg SessionPool.WellFormed hpool).mpr h
  | removeSession sessionId => exact h.removeSession sessionId
  | cleanupExpired maxIdleTime => exact h.cleanupExpired ambient.now ambient.rank maxIdleTime
  | ambient | register | get | update | updateStatus | markUsed | listAll | unregister
    | unregisterExpired | findSession | recordSessionCreated | recordStatusChange
    | recordConnectionSuccess | recordConnectionFailure | recordSessionUsage
    | recordSessionClosed | cleanupOldHistory => exact h

/-- A change in place lets a session rest unless it makes it active. -/
theorem Rests.modify {id : SessionId} (h : manager.Rests id) {sessionId : SessionId}
    {f : SessionMetadata → SessionMetadata}
    (hf : ∀ metadata, id = sessionId → metadata.status ≠ .active →
      (f metadata).status ≠ .active) :
    (manager.withRegistry (manager.registry.modify sessionId f)).2.Rests id := by
  obtain ⟨metadata, hget, hstatus⟩ := h
  have hget' : manager.registry.get id = some metadata := hget
  refine ⟨if id = sessionId then f metadata else metadata, ?_, ?_⟩
  · change (manager.registry.modify sessionId f).2.get id = _
    rw [SessionRegistry.get_modify, hget']
    split <;> rfl
  · split
    · next hid => exact hf metadata hid hstatus
    · exact hstatus

theorem Rests.register {id : SessionId} (h : manager.Rests id) {metadata : SessionMetadata}
    (hnew : metadata.status = .creating) :
    (manager.withRegistry (manager.registry.register metadata)).2.Rests id := by
  cases hcheck : manager.registry.checkRegister metadata with
  | error e =>
      rw [SessionRegistry.register_of_error hcheck]
      exact h
  | ok _ =>
      obtain ⟨oldMetadata, hget, hstatus⟩ := h
      have hget' : manager.registry.get id = some oldMetadata := hget
      refine ⟨if id = metadata.id then metadata.asRegistered else oldMetadata, ?_, ?_⟩
      · change (manager.registry.register metadata).2.get id = _
        rw [SessionRegistry.get_register_of_ok hcheck, hget']
        split <;> rfl
      · split
        · simp [SessionMetadata.asRegistered, hnew]
        · exact hstatus

theorem Rests.update {id : SessionId} (h : manager.Rests id) {sessionId : SessionId}
    {metadata : SessionMetadata}
    (hstatus : metadata.id = sessionId → id = sessionId → metadata.status ≠ .active) :
    (manager.withRegistry (manager.registry.update sessionId metadata)).2.Rests id := by
  obtain ⟨oldMetadata, hget, hold⟩ := h
  have hget' : manager.registry.get id = some oldMetadata := hget
  have hafter := manager.registry.get_update sessionId metadata id
  split at hafter
  · next hreplaced =>
      obtain ⟨hid, rfl, _⟩ := hreplaced
      exact ⟨metadata, hafter, hstatus hid rfl⟩
  · exact ⟨oldMetadata, hafter.trans hget', hold⟩

theorem Rests.unregister {id : SessionId} (h : manager.Rests id) {sessionId : SessionId}
    (hne : id ≠ sessionId) :
    (manager.withRegistry (manager.registry.unregister sessionId)).2.Rests id := by
  obtain ⟨metadata, hget, hstatus⟩ := h
  refine ⟨metadata, ?_, hstatus⟩
  change (manager.registry.unregister sessionId).2.get id = _
  rw [SessionRegistry.get_unregister, if_neg hne]
  exact hget

open ManagerProgram in
/-- After a call that attends to the pool, a pooled session rests, or is still about to be
taken out, or is taken out by what follows the call. -/
theorem attended_exec {config : SessionManagerConfig} {leaving : SessionId → Prop}
    (h : manager.Attended leaving) (ambient : Ambient) {action : ManagerAction}
    {next : action.Answer → ManagerProgram Unit}
    (horderly : Orderly config True (fun _ => True) action next)
    (hattends : manager.Attends leaving action) :
    (exec ambient action manager).2.Attended fun id =>
      leaving id ∧ action ≠ .removeSession id ∨
        ∃ rest, next (exec ambient action manager).1 = .call (.removeSession id) rest := by
  intro id key hkey
  cases action with
  | ambient | get | listAll | findSession | recordSessionCreated | recordStatusChange
    | recordConnectionSuccess | recordConnectionFailure | recordSessionUsage
    | recordSessionClosed | cleanupOldHistory =>
      exact (h id key hkey).imp_right fun hleaving => Or.inl ⟨hleaving, nofun⟩
  | cleanupExpired maxIdleTime =>
      have hbefore := SessionPool.keyOf_of_keyOf_cleanupExpired hkey
      exact (h id key hbefore).imp_right fun hleaving => Or.inl ⟨hleaving, nofun⟩
  | removeSession sessionId =>
      change (manager.pool.removeSession sessionId).2.keyOf id = some key at hkey
      rw [SessionPool.keyOf_removeSession] at hkey
      split at hkey
      · cases hkey
      · next hne =>
          refine (h id key hkey).imp_right fun hleaving => Or.inl ⟨hleaving, ?_⟩
          rintro ⟨⟩
          exact hne rfl
  | addSession session =>
      by_cases haccepts : manager.pool.Accepts session
      · by_cases hid : id = session.id
        · subst hid
          exact (hattends haccepts).2.imp_right fun hleaving => Or.inl ⟨hleaving, nofun⟩
        · have hbefore := (manager.pool.keyOf_addSession_of_ne ambient.now hid).symm.trans hkey
          exact (h id key hbefore).imp_right fun hleaving => Or.inl ⟨hleaving, nofun⟩
      · have hpool := SessionPool.addSession_of_not_accepts haccepts ambient.now
        have hbefore : manager.pool.keyOf id = some key := hpool ▸ hkey
        exact (h id key hbefore).imp_right fun hleaving => Or.inl ⟨hleaving, nofun⟩
  | register metadata =>
      rcases h id key hkey with hrests | hleaving
      · exact Or.inl (hrests.register horderly)
      · exact Or.inr (Or.inl ⟨hleaving, nofun⟩)
  | markUsed sessionId =>
      rcases h id key hkey with hrests | hleaving
      · exact Or.inl (hrests.modify fun _ _ hstatus => hstatus)
      · exact Or.inr (Or.inl ⟨hleaving, nofun⟩)
  | updateStatus sessionId status =>
      rcases h id key hkey with hrests | hleaving
      · by_cases hactive : id = sessionId ∧ status = .active
        · obtain ⟨rfl, rfl⟩ := hactive
          obtain ⟨metadata, hget, _⟩ := hrests
          obtain ⟨rest, hrest⟩ := horderly
          have hanswer : (exec ambient (.updateStatus id .active) manager).1 = .ok () :=
            SessionRegistry.modify_fst_of_some hget
          exact Or.inr (Or.inr ⟨rest, (congrArg next hanswer).trans hrest⟩)
        · exact Or.inl (hrests.modify fun _ hid _ hstatus => hactive ⟨hid, hstatus⟩)
      · exact Or.inr (Or.inl ⟨hleaving, nofun⟩)
  | update sessionId metadata =>
      rcases h id key hkey with hrests | hleaving
      · by_cases hid : id = sessionId
        · subst hid
          rcases hattends with hne | hstatus | hnone | hleaving
          · exact Or.inl (hrests.update fun heq => absurd heq hne)
          · exact Or.inl (hrests.update fun _ _ => hstatus)
          · exact absurd (hnone.symm.trans hkey) nofun
          · exact Or.inr (Or.inl ⟨hleaving, nofun⟩)
        · exact Or.inl (hrests.update fun _ heq => absurd heq hid)
      · exact Or.inr (Or.inl ⟨hleaving, nofun⟩)
  | unregister sessionId =>
      rcases h id key hkey with hrests | hleaving
      · by_cases hid : id = sessionId
        · subst hid
          rcases hattends with hnone | hleaving
          · exact absurd (hnone.symm.trans hkey) nofun
          · exact Or.inr (Or.inl ⟨hleaving, nofun⟩)
        · exact Or.inl (hrests.unregister hid)
      · exact Or.inr (Or.inl ⟨hleaving, nofun⟩)
  | unregisterExpired session checkedAt =>
      rcases h id key hkey with hrests | hleaving
      · by_cases hid : id = session.id
        · subst hid
          obtain ⟨metadata, hget, _⟩ := hrests
          obtain ⟨rest, hrest⟩ := horderly.2.2 metadata
          have hanswer :
              (exec ambient (.unregisterExpired session checkedAt) manager).1 = some metadata :=
            (SessionRegistry.unregister_fst manager.registry session.id).trans hget
          exact Or.inr (Or.inr ⟨rest, (congrArg next hanswer).trans hrest⟩)
        · exact Or.inl (hrests.unregister hid)
      · exact Or.inr (Or.inl ⟨hleaving, nofun⟩)

end SessionManager

/-! ## Every run -/

namespace ManagerCalls

open SessionManager ManagerProgram

/-- Some operation is about to take the session out of the pool. -/
abbrev Leaving (s : ManagerCalls) (id : SessionId) : Prop := s.Pending (.removeSession id)

/-- The turn leaves nothing behind in the pool. -/
def AttendsPool (s : ManagerCalls) (turn : ManagerTurn) : Prop :=
  ∀ action, s.acting turn = some action → s.shared.Attends s.Leaving action

/-- A session in the pool is registered and not active. -/
def PoolsResting (s : ManagerCalls) : Prop :=
  ∀ id, (s.shared.pool.isPooled id ∨ ∃ key, id ∈ s.shared.pool.pools.group key) →
    s.shared.Rests id

/-- What every turn that attends to the pool preserves. -/
structure Guarded (config : SessionManagerConfig) (s : ManagerCalls) : Prop where
  pool : s.shared.pool.WellFormed
  orderly : ∀ p ∈ s.calls, p.Forall (Orderly config True fun _ => True)
  attended : s.shared.Attended s.Leaving

theorem guarded_new (config : SessionManagerConfig) : (new config).Guarded config where
  pool := SessionPool.wellFormed_new config.pool
  orderly := nofun
  attended := nofun

theorem Guarded.poolsResting {config : SessionManagerConfig} {s : ManagerCalls}
    (h : s.Guarded config) (hquiescent : s.Quiescent) : s.PoolsResting := by
  intro id hpooled
  have hkey : ∃ key, s.shared.pool.keyOf id = some key := by
    rcases hpooled with hpooled | ⟨key, hmem⟩
    · obtain ⟨metadata, hlookup⟩ := Option.isSome_iff_exists.mp hpooled
      exact ⟨metadata.connectionKey, by simp [SessionPool.keyOf, hlookup]⟩
    · exact ⟨key, (h.pool.mem_group key id).mp hmem⟩
  obtain ⟨key, hkey⟩ := hkey
  exact (h.attended id key hkey).resolve_right (hquiescent.not_pending _)

theorem Guarded.step {config : SessionManagerConfig} {s : ManagerCalls} (h : s.Guarded config)
    {turn : ManagerTurn} (hattends : s.AttendsPool turn) :
    (step config s turn).Guarded config := by
  have horderly : ∀ p ∈ (ManagerCalls.step config s turn).calls,
      p.Forall (Orderly config True fun _ => True) :=
    Calls.forall_step h.orderly fun task _ => ManagerTask.forall_program config task
  rcases s.step_cases (ManagerTask.program config) exec turn with
    ⟨task, rfl, hstep⟩ | ⟨i, ambient, action, next, rfl, hcall, hstep⟩ | ⟨_, hstep⟩
  · refine ⟨?_, horderly, ?_⟩
    · exact (congrArg (fun after => after.shared.pool.WellFormed) hstep).mpr h.pool
    · intro id key hkey
      have hshared : (ManagerCalls.step config s (.start task)).shared = s.shared := rfl
      rw [hshared] at hkey ⊢
      exact (h.attended id key hkey).imp_right fun hleaving => hleaving.step nofun
  · have hacting : s.acting (.advance i ambient : ManagerTurn) = some action := by
      simp [Calls.acting, hcall]
    have hshared : (ManagerCalls.step config s (.advance i ambient)).shared =
        (exec ambient action s.shared).2 := congrArg Calls.shared hstep
    have hcalls : (ManagerCalls.step config s (.advance i ambient)).calls =
        s.calls.set i (next (exec ambient action s.shared).1) := congrArg Calls.calls hstep
    have hforall := h.orderly _ (List.mem_of_getElem? hcall)
    refine ⟨?_, horderly, ?_⟩
    · rw [hshared]
      exact wellFormed_exec h.pool ambient (hattends action hacting)
    · intro id key hkey
      rw [hshared] at hkey ⊢
      refine (attended_exec h.attended ambient hforall.1 (hattends action hacting) id key
        hkey).imp_right ?_
      rintro (⟨hleaving, hne⟩ | ⟨rest, hrest⟩)
      · exact hleaving.step fun heq => hne (Option.some.inj (hacting.symm.trans heq))
      · refine ⟨rest, ?_⟩
        rw [hcalls, ← hrest]
        exact List.mem_set (List.getElem?_eq_some_iff.mp hcall).1 _
  · exact (congrArg (Guarded config) hstep).mpr h

/-- Whenever no operation is in progress, the pool holds registered sessions only, none of
them active, if every turn so far attended to the pool. -/
theorem poolsResting_of_attendsPool (config : SessionManagerConfig) (turns : List ManagerTurn)
    (h : Along (step config) (fun _ s turn => s.AttendsPool turn) (new config) turns) :
    Always (step config) (fun s => s.Quiescent → s.PoolsResting) (new config) turns := by
  intro past hpast
  have hguarded := h.invariant (I := fun _ s => Guarded config s) (guarded_new config)
    (fun _ _ _ hs hattends => hs.step hattends) past hpast
  exact fun hquiescent => hguarded.poolsResting hquiescent

theorem attendsPool_start (s : ManagerCalls) (task : ManagerTask) :
    s.AttendsPool (.start task) :=
  fun _ hacting => absurd hacting nofun

theorem poolsResting_of_attendsPool_idle :
    Always (step { enableMetrics := false }) (fun s => s.Quiescent → s.PoolsResting)
      (new { enableMetrics := false })
      ([.start (.createSession "build" {} [] none), .start (.updateSessionStatus ⟨1⟩ .idle)] ++
        turnsOf 0 0 2 ++ turnsOf 0 1 4) := by
  apply poolsResting_of_attendsPool
  simp only [turnsOf, List.replicate, List.cons_append, List.nil_append, along_cons]
  refine ⟨attendsPool_start _ _, attendsPool_start _ _, ?_, ?_, ?_, ?_, ?_, ?_, along_nil⟩
  all_goals rintro _ ⟨⟩
  iterate 5 exact trivial
  · intro _
    exact ⟨nofun, Or.inl ⟨_, rfl, by decide⟩⟩

/-- A session is created and connected. Then it is about to be left idle: the registry is
updated, and its new metadata was read. -/
def leavingIdle : List ManagerTurn :=
  [.start (.createSession "build" {} [] none)] ++ turnsOf 0 0 3 ++
    [.start (.updateSessionStatus ⟨1⟩ .active)] ++ turnsOf 0 1 5 ++
    [.start (.updateSessionStatus ⟨1⟩ .idle)] ++ turnsOf 0 2 3

/-- Meanwhile the session is used, and only then pooled. -/
def usedMeanwhile : List ManagerTurn :=
  leavingIdle ++ [.start (.useSession ⟨1⟩)] ++ turnsOf 0 3 8 ++ turnsOf 0 2 2

/-- Meanwhile the session is closed, and only then pooled. -/
def closedMeanwhile : List ManagerTurn :=
  leavingIdle ++ [.start (.closeSession ⟨1⟩)] ++ turnsOf 0 3 7 ++ turnsOf 0 2 2

/-- The session is pooled afterwards, although it is active, or no longer registered. -/
theorem poolsResting_false :
    ¬ Always (step {}) (fun s => s.Quiescent → s.PoolsResting) (new {}) usedMeanwhile ∧
      ¬ Always (step {}) (fun s => s.Quiescent → s.PoolsResting) (new {}) closedMeanwhile := by
  constructor
  · intro h
    have hcalls : (run (step {}) (new {}) usedMeanwhile).calls = List.replicate 4 (.done ⟨⟩) :=
      rfl
    obtain ⟨metadata, hget, hstatus⟩ :=
      h.last (Calls.quiescent_of_eq_replicate hcalls) ⟨1⟩ (Or.inl (by decide))
    obtain rfl := Option.some.inj hget
    exact hstatus rfl
  · intro h
    have hcalls : (run (step {}) (new {}) closedMeanwhile).calls =
        List.replicate 4 (.done ⟨⟩) := rfl
    obtain ⟨metadata, hget, _⟩ :=
      h.last (Calls.quiescent_of_eq_replicate hcalls) ⟨1⟩ (Or.inl (by decide))
    have hnone : (run (step {}) (new {}) closedMeanwhile).shared.getSession ⟨1⟩ = none := rfl
    exact absurd (hnone.symm.trans hget) nofun

end ManagerCalls

end Yuha
