import Yuha.Core.Session.CallOrder

/-!
# The snapshot of the cleanup

The cleanup callback lists all sessions, judges each by what it was then, and unregisters
it by its identifier. Operations that come in between are not seen. A session that they
do not put back is still due when it is unregistered.
-/

namespace Yuha

open Library Library.Program Library.Execution

/-! ## What one call does to the session -/

namespace SessionManager

variable (config : SessionLifecycleConfig) (checkedAt : SystemTime) (sessionId : SessionId)

/-- The session is expired as of the time it was judged, if it is registered. -/
def IsDue (manager : SessionManager) : Prop :=
  ∀ metadata, manager.getSession sessionId = some metadata →
    config.shouldExpireSession checkedAt metadata

/-- The call puts the session back, which takes that it is registered: it uses it or gives it
another status than failed though it is not past its lifetime, or stores what is not due. -/
def PutsBack (manager : SessionManager) : ManagerAction → Prop
  | .markUsed id => id = sessionId ∧ ∃ metadata, manager.getSession id = some metadata ∧
      metadata.status ≠ .failed ∧ metadata.age checkedAt ≤ config.maxSessionLifetime
  | .updateStatus id status => id = sessionId ∧ status ≠ .failed ∧
      ∃ metadata, manager.getSession id = some metadata ∧
        metadata.age checkedAt ≤ config.maxSessionLifetime
  | .update id metadata => id = sessionId ∧ metadata.id = id ∧
      (manager.getSession id).isSome ∧ ¬ config.shouldExpireSession checkedAt metadata
  | .register metadata => metadata.id = sessionId ∧
      manager.registry.checkRegister metadata = .ok () ∧
      ¬ config.shouldExpireSession checkedAt metadata.asRegistered
  | _ => False

/-- Whatever was before, the session is due after the call, or no longer registered. -/
def Settles : ManagerAction → Prop
  | .updateStatus id status => id = sessionId ∧ status = .failed
  | .update id metadata => id = sessionId ∧ metadata.id = id ∧
      config.shouldExpireSession checkedAt metadata
  | .unregister id => id = sessionId
  | .unregisterExpired session _ => session.id = sessionId
  | _ => False

variable {config checkedAt sessionId} {manager : SessionManager}

/-- Where a registered session can come from: it was registered before, or the call
registered it, replaced it or changed it. -/
theorem getSession_exec {ambient : Ambient} {action : ManagerAction} {id : SessionId}
    {metadata : SessionMetadata}
    (h : (exec ambient action manager).2.getSession id = some metadata) :
    manager.getSession id = some metadata ∨
      (∃ newMetadata, action = .register newMetadata ∧ newMetadata.id = id ∧
        metadata = newMetadata.asRegistered) ∨
      (action = .update id metadata ∧ metadata.id = id) ∨
      (∃ oldMetadata, action = .markUsed id ∧ manager.getSession id = some oldMetadata ∧
        metadata = oldMetadata.markUsed ambient.now) ∨
      ∃ oldMetadata status, action = .updateStatus id status ∧
        manager.getSession id = some oldMetadata ∧
        metadata = oldMetadata.setStatus ambient.now status := by
  cases action with
  | ambient | get | listAll | addSession | removeSession | findSession | cleanupExpired
    | recordSessionCreated | recordStatusChange | recordConnectionSuccess
    | recordConnectionFailure | recordSessionUsage | recordSessionClosed
    | cleanupOldHistory => exact Or.inl h
  | register newMetadata =>
      change (manager.registry.register newMetadata).2.get id = some metadata at h
      cases hcheck : manager.registry.checkRegister newMetadata with
      | error e =>
          rw [SessionRegistry.register_of_error hcheck] at h
          exact Or.inl h
      | ok _ =>
          rw [SessionRegistry.get_register_of_ok hcheck] at h
          split at h
          · next hid =>
              obtain rfl := Option.some.inj h
              exact Or.inr (Or.inl ⟨newMetadata, rfl, hid.symm, rfl⟩)
          · exact Or.inl h
  | unregister sessionId =>
      change (manager.registry.unregister sessionId).2.get id = some metadata at h
      rw [SessionRegistry.get_unregister] at h
      split at h
      · cases h
      · exact Or.inl h
  | unregisterExpired session expiredAt =>
      change (manager.registry.unregister session.id).2.get id = some metadata at h
      rw [SessionRegistry.get_unregister] at h
      split at h
      · cases h
      · exact Or.inl h
  | update sessionId newMetadata =>
      change (manager.registry.update sessionId newMetadata).2.get id = some metadata at h
      rw [SessionRegistry.get_update] at h
      split at h
      · next hreplaced =>
          obtain rfl := Option.some.inj h
          obtain ⟨hid, rfl, _⟩ := hreplaced
          exact Or.inr (Or.inr (Or.inl ⟨rfl, hid⟩))
      · exact Or.inl h
  | markUsed sessionId =>
      obtain hold | ⟨oldMetadata, rfl, hold, rfl⟩ := SessionRegistry.get_modify_cases h
      · exact Or.inl hold
      · exact Or.inr (Or.inr (Or.inr (Or.inl ⟨oldMetadata, rfl, hold, rfl⟩)))
  | updateStatus sessionId status =>
      obtain hold | ⟨oldMetadata, rfl, hold, rfl⟩ := SessionRegistry.get_modify_cases h
      · exact Or.inl hold
      · exact Or.inr (Or.inr (Or.inr (Or.inr ⟨oldMetadata, status, rfl, hold, rfl⟩)))

theorem IsDue.exec (h : manager.IsDue config checkedAt sessionId) (ambient : Ambient)
    {action : ManagerAction} (hspares : ¬ manager.PutsBack config checkedAt sessionId action) :
    (exec ambient action manager).2.IsDue config checkedAt sessionId := by
  intro metadata hget
  rcases getSession_exec hget with hold | ⟨newMetadata, rfl, hid, rfl⟩ | ⟨rfl, hid⟩ |
    ⟨oldMetadata, rfl, hold, rfl⟩ | ⟨oldMetadata, status, rfl, hold, rfl⟩
  · exact h metadata hold
  · cases hcheck : manager.registry.checkRegister newMetadata with
    | ok _ => exact not_not.mp fun hnot => hspares ⟨hid, hcheck, hnot⟩
    | error e =>
        change (manager.registry.register newMetadata).2.get sessionId = _ at hget
        rw [SessionRegistry.register_of_error hcheck] at hget
        exact h _ hget
  · change (manager.registry.update sessionId metadata).2.get sessionId = _ at hget
    rw [SessionRegistry.get_update] at hget
    split at hget
    · next hreplaced => exact not_not.mp fun hnot => hspares ⟨rfl, hid, hreplaced.2.2, hnot⟩
    · exact h _ hget
  · rw [SessionLifecycleConfig.shouldExpireSession_iff]
    by_cases hfailed : oldMetadata.status = .failed
    · exact .inr (.inr hfailed)
    · exact .inr (.inl (not_le.mp fun hyoung => hspares ⟨rfl, _, hold, hfailed, hyoung⟩))
  · rw [SessionLifecycleConfig.shouldExpireSession_iff]
    by_cases hfailed : status = .failed
    · exact .inr (.inr hfailed)
    · exact .inr (.inl (not_le.mp fun hyoung => hspares ⟨rfl, hfailed, _, hold, hyoung⟩))

theorem isDue_exec_of_settles {ambient : Ambient} {action : ManagerAction}
    (h : Settles config checkedAt sessionId action) :
    (exec ambient action manager).2.IsDue config checkedAt sessionId := by
  intro metadata hget
  cases action with
  | updateStatus id status =>
      obtain ⟨rfl, rfl⟩ := h
      change (manager.registry.updateStatus ambient.now id .failed).2.get id = _ at hget
      rw [SessionRegistry.updateStatus, SessionRegistry.get_modify, if_pos rfl] at hget
      obtain ⟨oldMetadata, _, rfl⟩ := Option.map_eq_some_iff.mp hget
      exact SessionLifecycleConfig.shouldExpireSession_iff.mpr (.inr (.inr rfl))
  | update id newMetadata =>
      obtain ⟨rfl, hid, hdue⟩ := h
      change (manager.registry.update id newMetadata).2.get id = _ at hget
      rw [SessionRegistry.get_update] at hget
      split at hget
      · exact Option.some.inj hget ▸ hdue
      · next hkept =>
          rw [hget] at hkept
          exact absurd ⟨hid, rfl, rfl⟩ hkept
  | unregister id =>
      obtain rfl := h
      change (manager.registry.unregister id).2.get id = _ at hget
      rw [SessionRegistry.get_unregister, if_pos rfl] at hget
      cases hget
  | unregisterExpired session expiredAt =>
      obtain rfl := h
      change (manager.registry.unregister session.id).2.get session.id = _ at hget
      rw [SessionRegistry.get_unregister, if_pos rfl] at hget
      cases hget
  | ambient | get | listAll | addSession | removeSession | findSession | cleanupExpired
    | recordSessionCreated | recordStatusChange | recordConnectionSuccess
    | recordConnectionFailure | recordSessionUsage | recordSessionClosed
    | cleanupOldHistory | register | markUsed => exact h.elim

/-- Sessions are registered under their own identifiers. -/
def Keyed (manager : SessionManager) : Prop :=
  ∀ id metadata, manager.getSession id = some metadata → metadata.id = id

theorem Keyed.exec (h : manager.Keyed) (ambient : Ambient) (action : ManagerAction) :
    (exec ambient action manager).2.Keyed := by
  intro id metadata hget
  rcases getSession_exec hget with hold | ⟨newMetadata, _, hid, rfl⟩ | ⟨_, hid⟩ |
    ⟨oldMetadata, _, hold, rfl⟩ | ⟨oldMetadata, status, _, hold, rfl⟩
  · exact h id metadata hold
  · exact newMetadata.asRegistered_id.trans hid
  · exact hid
  · exact h id oldMetadata hold
  · exact h id oldMetadata hold

end SessionManager

/-! ## Every run -/

namespace ManagerCalls

open SessionManager ManagerProgram

variable (config : SessionManagerConfig)

/-- When the cleanup unregisters a session, the session is expired. -/
def ExpiresRightly (s : ManagerCalls) (turn : ManagerTurn) : Prop :=
  ∀ call ambient snapshot checkedAt metadata, turn = .advance call ambient →
    s.acting turn = some (.unregisterExpired snapshot checkedAt) →
    s.shared.getSession snapshot.id = some metadata →
    config.lifecycle.shouldExpireSession ambient.now metadata

/-- After these turns the session, which was due before them, still is: no turn put it back
since one settled it, or since the first. -/
inductive LeavesDue (checkedAt : SystemTime) (sessionId : SessionId) (s : ManagerCalls) :
    List ManagerTurn → Prop
  | nil : LeavesDue checkedAt sessionId s []
  | settle {past : List ManagerTurn} {turn : ManagerTurn} {action : ManagerAction}
      (hacting : (run (step config) s past).acting turn = some action)
      (hsettles : Settles config.lifecycle checkedAt sessionId action) :
      LeavesDue checkedAt sessionId s (past ++ [turn])
  | spare {past : List ManagerTurn} {turn : ManagerTurn}
      (h : LeavesDue checkedAt sessionId s past)
      (hspares : ∀ action, (run (step config) s past).acting turn = some action →
        ¬ (run (step config) s past).shared.PutsBack config.lifecycle checkedAt sessionId
          action) : LeavesDue checkedAt sessionId s (past ++ [turn])

/-- When the cleanup unregisters a session, the clock was not set back since it judged it,
and the turns since all sessions were listed left the session due. -/
def Undisturbed (past : List ManagerTurn) (s : ManagerCalls) (turn : ManagerTurn) : Prop :=
  ∀ call ambient snapshot checkedAt, turn = .advance call ambient →
    s.acting turn = some (.unregisterExpired snapshot checkedAt) →
    checkedAt ≤ ambient.now ∧
      ∀ before listing since, past = before ++ .advance call listing :: since →
        (run (step config) (new config) before).acting
          (.advance call listing : ManagerTurn) = some .listAll →
        LeavesDue config checkedAt snapshot.id
          (run (step config) (new config) (before ++ [.advance call listing])) since

/-- The call listed the snapshot as it was registered then. -/
def Listed (past : List ManagerTurn) (call : Nat) (snapshot : SessionMetadata) : Prop :=
  ∃ before listing since, past = before ++ .advance call listing :: since ∧
    (run (step config) (new config) before).acting
      (.advance call listing : ManagerTurn) = some .listAll ∧
    (run (step config) (new config) before).shared.getSession snapshot.id = some snapshot

variable {config}

theorem Listed.concat {past : List ManagerTurn} {call : Nat} {snapshot : SessionMetadata}
    (h : Listed config past call snapshot) (turn : ManagerTurn) :
    Listed config (past ++ [turn]) call snapshot := by
  obtain ⟨before, listing, since, rfl, hlisting, hget⟩ := h
  exact ⟨before, listing, since ++ [turn], by simp, hlisting, hget⟩

/-- What a run knows of its calls: one is about to list all sessions as the cleanup does,
or expires only what it listed. -/
structure Traced (config : SessionManagerConfig) (past : List ManagerTurn) (s : ManagerCalls) :
    Prop where
  reached : s = run (step config) (new config) past
  keyed : s.shared.Keyed
  calls : ∀ call p, s.calls[call]? = some p →
    p = ManagerTask.program config .cleanup ∨
      p.Forall (Orderly config False (Listed config past call))

theorem traced_new (config : SessionManagerConfig) : Traced config [] (new config) where
  reached := rfl
  keyed _ _ hget := absurd hget (by simp [new, SessionManager.new, getSession])
  calls _ _ hcall := absurd hcall (by simp [new])

/-- What a call expires after the cleanup listed all sessions, it listed. -/
theorem Traced.listed {past : List ManagerTurn} {s : ManagerCalls} (h : Traced config past s)
    {call : Nat} {ambient : Ambient} {next : List SessionMetadata → ManagerProgram Unit}
    (hcall : s.calls[call]? = some (.call .listAll next)) {snapshot : SessionMetadata}
    (hmem : snapshot ∈ s.shared.registry.listAll ambient.rank) :
    Listed config (past ++ [.advance call ambient]) call snapshot := by
  obtain ⟨id, hget⟩ := SessionRegistry.mem_listAll.mp hmem
  obtain rfl := h.keyed id snapshot hget
  refine ⟨past, ambient, [], rfl, ?_, ?_⟩
  · rw [← h.reached]
    simp [Calls.acting, hcall]
  · rw [← h.reached]
    exact hget

theorem Traced.step {past : List ManagerTurn} {s : ManagerCalls} (h : Traced config past s)
    (turn : ManagerTurn) : Traced config (past ++ [turn]) (step config s turn) := by
  refine ⟨by rw [run_append, ← h.reached]; rfl, ?_, Calls.forall_getElem_step ?_ ?_ ?_⟩
  · exact Calls.shared_step h.keyed fun _ ambient action _ _ => h.keyed.exec ambient action
  · intro call p hcall
    refine (h.calls call p hcall).imp_right fun hforall => hforall.mono ?_
    exact Orderly.mono id fun _ hlisted => hlisted.concat turn
  · intro task _
    by_cases hcleanup : task = .cleanup
    · exact Or.inl (hcleanup ▸ rfl)
    · exact Or.inr (ManagerTask.forall_program_of_ne hcleanup)
  · rintro call ambient action next rfl hcall
    apply Or.inr
    rcases h.calls call _ hcall with hprogram | hforall
    · obtain ⟨listing, hcleanup, hlisting⟩ := ManagerTask.program_cleanup config
      obtain ⟨rfl, hnext⟩ := Program.call.inj (hprogram.trans hcleanup)
      obtain rfl := eq_of_heq hnext
      apply (hlisting _).mono
      exact Orderly.mono id fun _ hmem => h.listed hcall hmem
    · apply (hforall.2 _).mono
      exact Orderly.mono id fun _ hlisted => hlisted.concat _

/-- A call about to expire a session listed it, and judged it expired. -/
theorem Traced.judged {past : List ManagerTurn} {s : ManagerCalls} (h : Traced config past s)
    {call : Nat} {ambient : Ambient} {snapshot : SessionMetadata} {checkedAt : SystemTime}
    (hacting : s.acting (.advance call ambient : ManagerTurn) =
      some (.unregisterExpired snapshot checkedAt)) :
    Listed config past call snapshot ∧
      config.lifecycle.shouldExpireSession checkedAt snapshot := by
  obtain ⟨next, hcall⟩ := Calls.acting_advance_eq_some_iff.mp hacting
  rcases h.calls call _ hcall with hprogram | hforall
  · obtain ⟨listing, hcleanup, _⟩ := ManagerTask.program_cleanup config
    cases hprogram.trans hcleanup
  · exact ⟨hforall.1.1, hforall.1.2.1⟩

/-- A session that was due stays so where the turns leave it due. -/
theorem LeavesDue.isDue {checkedAt : SystemTime} {sessionId : SessionId} {s : ManagerCalls}
    {turns : List ManagerTurn} (hdue : s.shared.IsDue config.lifecycle checkedAt sessionId)
    (h : LeavesDue config checkedAt sessionId s turns) :
    (run (step config) s turns).shared.IsDue config.lifecycle checkedAt sessionId := by
  induction h with
  | nil => exact hdue
  | @settle past turn action hacting hsettles =>
      rw [run_append, run_cons, run_nil]
      exact Calls.shared_step_of_acting hacting fun ambient => isDue_exec_of_settles hsettles
  | @spare past turn _ hspares ih =>
      rw [run_append, run_cons, run_nil]
      exact Calls.shared_step ih fun _ ambient action _ hacting =>
        ih.exec ambient (hspares action hacting)

/-- A session is due right after it was listed, if it was then judged expired. -/
theorem isDue_listed {s : ManagerCalls} {call : Nat} {listing : Ambient}
    {snapshot : SessionMetadata} {checkedAt : SystemTime}
    (hlisting : s.acting (.advance call listing : ManagerTurn) = some .listAll)
    (hget : s.shared.getSession snapshot.id = some snapshot)
    (hjudged : config.lifecycle.shouldExpireSession checkedAt snapshot) :
    (step config s (.advance call listing)).shared.IsDue config.lifecycle checkedAt
      snapshot.id := by
  have hlisted : s.shared.IsDue config.lifecycle checkedAt snapshot.id := by
    intro metadata hmetadata
    obtain rfl := Option.some.inj (hget.symm.trans hmetadata)
    exact hjudged
  exact Calls.shared_step_of_acting hlisting fun _ => hlisted

/-- The cleanup unregisters no session that is not expired at that moment, if nothing
disturbed what it judged. -/
theorem expiresRightly_of_undisturbed (config : SessionManagerConfig)
    (turns : List ManagerTurn) (h : Along (step config) (Undisturbed config) (new config) turns) :
    Along (step config) (fun _ => ExpiresRightly config) (new config) turns := by
  intro past turn hpast call ambient snapshot checkedAt metadata hturn hacting hget
  subst hturn
  have htraced := h.invariant (I := Traced config) (traced_new config)
    (fun _ _ turn hs _ => hs.step turn) past ((List.prefix_append past _).trans hpast)
  obtain ⟨hclock, hleaves⟩ := h past _ hpast call ambient snapshot checkedAt rfl hacting
  obtain ⟨⟨before, listing, since, rfl, hlisting, hfound⟩, hjudged⟩ := htraced.judged hacting
  have hdue := LeavesDue.isDue (isDue_listed hlisting hfound hjudged)
    (by simpa using hleaves before listing since rfl hlisting)
  rw [run_append, run_cons] at hget
  exact SessionLifecycleConfig.shouldExpireSession_mono hclock (hdue metadata hget)

theorem undisturbed_of_acting_ne {past : List ManagerTurn} {s : ManagerCalls}
    {turn : ManagerTurn} (h : ∀ snapshot checkedAt,
      s.acting turn ≠ some (.unregisterExpired snapshot checkedAt)) :
    Undisturbed config past s turn :=
  fun _ _ snapshot checkedAt _ hacting => absurd hacting (h snapshot checkedAt)

/-- A session is created, and the cleanup finds it past its lifetime. -/
theorem expiresRightly_of_undisturbed_outlived :
    Along (step { enableMetrics := false }) (fun _ => ExpiresRightly { enableMetrics := false })
      (new { enableMetrics := false })
      ([.start (.createSession "build" {} [] none), .start .cleanup] ++
        turnsOf 0 0 2 ++ turnsOf 4000 1 3) := by
  apply expiresRightly_of_undisturbed
  simp only [turnsOf, List.replicate, List.cons_append, List.nil_append, along_cons]
  refine ⟨?_, ?_, ?_, ?_, ?_, ?_, ?_, along_nil⟩
  · exact undisturbed_of_acting_ne fun _ _ hacting => nomatch hacting
  · exact undisturbed_of_acting_ne fun _ _ hacting => nomatch hacting
  · exact undisturbed_of_acting_ne fun _ _ hacting => nomatch hacting
  · exact undisturbed_of_acting_ne fun _ _ hacting => nomatch hacting
  · exact undisturbed_of_acting_ne fun _ _ hacting => nomatch hacting
  · exact undisturbed_of_acting_ne fun _ _ hacting => nomatch hacting
  · rintro _ _ _ _ ⟨⟩ ⟨⟩
    refine ⟨Nat.le_refl _, fun before listing since hsplit _ => ?_⟩
    -- Only the reading of the clock can lie between the listing and now.
    simp only [List.cons_eq_append_iff, List.cons.injEq, reduceCtorEq, false_and, and_false,
      Turn.advance.injEq, one_ne_zero, true_and, List.nil_eq, List.append_eq_nil_iff,
      exists_const, or_false, ↓existsAndEq, false_or] at hsplit
    obtain ⟨_, rfl, ⟨rfl, rfl, rfl⟩ | ⟨rfl, rfl, rfl⟩⟩ := hsplit
    · change LeavesDue _ _ _ _ ([] ++ [_])
      refine .spare .nil ?_
      rintro _ ⟨⟩
      exact id
    · exact .nil

/-- A session is created and left idle. A while later all sessions are listed, and this one
is judged by its idle time. -/
def judging : List ManagerTurn :=
  [.start (.createSession "build" {} [] none)] ++ turnsOf 0 0 3 ++
    [.start (.updateSessionStatus ⟨1⟩ .idle)] ++ turnsOf 0 1 5 ++
    [.start .cleanup] ++ turnsOf 400 2 2

/-- The session is used before it is unregistered. -/
def usedSince : List ManagerTurn :=
  judging ++ [.start (.useSession ⟨1⟩)] ++ turnsOf 400 3 8

/-- The cleanup unregisters a session that just became active. -/
theorem expiresRightly_false :
    ¬ Along (step {}) (fun _ => ExpiresRightly {}) (new {}) (usedSince ++ turnsOf 400 2 1) := by
  intro h
  have hright := h usedSince _ (List.prefix_refl _) 2 _
    ((SessionMetadata.new 0 ⟨1⟩ "build" {} [] none).setStatus 0 .idle)
    (Duration.fromSecs 400) _ rfl rfl rfl
  exact absurd hright (by decide)

end ManagerCalls

end Yuha
