import Yuha.Core.Session.Census

/-!
# How many sessions a run creates

Every session that is created is counted for its transport, in a counter of 32 bits that
nothing lowers. The counters of the census stay in their range exactly as long as fewer than
`2 ^ 32` sessions of each transport are created.
-/

namespace Yuha

open Library Library.Execution Library.Program

namespace SessionManager

/-! ## The sessions of a run -/

/-- The transport of the session that `create_session` creates, if the registry admits it. -/
def admits (manager : SessionManager) (ambient : Ambient) (name : String)
    (transportConfig : TransportConfig) (tags : List String) (description : Option String) :
    Option TransportType :=
  match manager.registry.checkRegister (.new ambient.now ambient.freshId name transportConfig
      tags description) with
  | .ok _ => some transportConfig.transportType
  | .error _ => none

/-- The transport of the session that the operation creates, if it creates one. -/
def creates (manager : SessionManager) (op : ManagerOp) : Option TransportType :=
  match op.task with
  | .createSession name transportConfig tags description =>
      manager.admits op.ambient name transportConfig tags description
  | .connectOrCreateSession name transportConfig =>
      match manager.findReusableSession op.ambient.now transportConfig.connectionKey with
      | some _ => none
      | none => manager.admits op.ambient name transportConfig [] none
  | _ => none

/-- How many sessions of a transport a sequence of operations creates. -/
def created (manager : SessionManager) (transportType : TransportType) : List ManagerOp → Nat
  | [] => 0
  | op :: ops =>
      (if manager.creates op = some transportType then 1 else 0) +
        (manager.apply op).created transportType ops

variable {config : SessionManagerConfig} {manager : SessionManager}
  {transportType : TransportType}

theorem created_append (manager : SessionManager) (transportType : TransportType)
    (ops more : List ManagerOp) :
    manager.created transportType (ops ++ more) =
      manager.created transportType ops +
        (run apply manager ops).created transportType more := by
  induction ops generalizing manager with
  | nil => exact (Nat.zero_add _).symm
  | cons op ops ih => rw [List.cons_append, created, created, ih, run_cons, Nat.add_assoc]

theorem created_concat (manager : SessionManager) (transportType : TransportType)
    (ops : List ManagerOp) (op : ManagerOp) :
    manager.created transportType (ops ++ [op]) = manager.created transportType ops +
      if (run apply manager ops).creates op = some transportType then 1 else 0 :=
  created_append manager transportType ops [op]

/-! ## The usage of the transports -/

/-- How often the metrics have counted a transport. -/
def usageOf (manager : SessionManager) (transportType : TransportType) : Nat :=
  match manager.metrics with
  | some collector => collector.metrics.usageOf transportType
  | none => 0

theorem usageOf_of_some {collector : SessionMetricsCollector}
    (h : manager.metrics = some collector) (transportType : TransportType) :
    manager.usageOf transportType = collector.metrics.usageOf transportType := by
  simp [usageOf, h]

theorem usageOf_of_map {manager' : SessionManager}
    {f : SessionMetricsCollector → SessionMetricsCollector}
    (hmetrics : manager'.metrics = manager.metrics.map f)
    (hf : ∀ collector, (f collector).metrics.transportUsage = collector.metrics.transportUsage)
    (transportType : TransportType) :
    manager'.usageOf transportType = manager.usageOf transportType := by
  unfold usageOf SessionMetrics.usageOf
  rw [hmetrics]
  cases manager.metrics with
  | none => rfl
  | some collector => simp only [Option.map_some, hf]

theorem transportUsage_recordTransition (oldStatus status : SessionStatus)
    (collector : SessionMetricsCollector) :
    (recordTransition oldStatus status collector).metrics.transportUsage =
      collector.metrics.transportUsage := by
  unfold recordTransition SessionMetricsCollector.recordStatusChange
  cases oldStatus <;> cases status <;> rfl

theorem transportUsage_recordSessionClosed (now : SystemTime) (session : SessionMetadata)
    (collector : SessionMetricsCollector) :
    (collector.recordSessionClosed now session).metrics.transportUsage =
      collector.metrics.transportUsage := by
  unfold SessionMetricsCollector.recordSessionClosed
  cases session.status <;> rfl

theorem usageOf_recordSessionCreated (collector : SessionMetricsCollector)
    (session : SessionMetadata) (transportType : TransportType) :
    (collector.recordSessionCreated session).metrics.usageOf transportType =
      collector.metrics.usageOf transportType +
        if session.transportConfig.transportType = transportType then 1 else 0 := by
  simp only [SessionMetricsCollector.recordSessionCreated, SessionMetrics.usageOf,
    HashMap.lookup_insert_ite]
  by_cases hsame : transportType = session.transportConfig.transportType
  · rw [hsame]
    simp
  · simp [hsame, Ne.symm hsame]

theorem usageOf_createSession (ambient : Ambient) (name : String)
    (transportConfig : TransportConfig) (tags : List String) (description : Option String)
    (hmetrics : manager.metrics.isSome) :
    (manager.createSession ambient.now ambient.freshId name transportConfig tags
        description).2.usageOf transportType =
      manager.usageOf transportType +
        if manager.admits ambient name transportConfig tags description = some transportType
        then 1 else 0 := by
  obtain ⟨collector, hcollector⟩ := Option.isSome_iff_exists.mp hmetrics
  cases hcheck : manager.registry.checkRegister (.new ambient.now ambient.freshId name
      transportConfig tags description) with
  | error e =>
      have hnone : manager.admits ambient name transportConfig tags description = none := by
        simp only [admits, hcheck]
      rw [createSession_of_error hcheck, hnone, if_neg nofun]
      rfl
  | ok _ =>
      have hsome : manager.admits ambient name transportConfig tags description =
          some transportConfig.transportType := by simp only [admits, hcheck]
      have hafter := ManagerProgram.createSession_snd_of_ok ambient hcheck
      rw [hcollector] at hafter
      rw [hafter, usageOf_of_some rfl, usageOf_recordSessionCreated, usageOf_of_some hcollector,
        hsome]
      by_cases hsame : transportConfig.transportType = transportType <;>
        simp [hsame, SessionMetadata.new]

theorem usageOf_updateSessionStatus (now : SystemTime) (sessionId : SessionId)
    (status : SessionStatus) (transportType : TransportType) :
    (manager.updateSessionStatus now sessionId status).2.usageOf transportType =
      manager.usageOf transportType := by
  cases hget : manager.getSession sessionId with
  | none => rw [updateSessionStatus_of_none hget]
  | some metadata =>
      rw [updateSessionStatus_of_some hget]
      exact usageOf_of_map rfl (transportUsage_recordTransition metadata.status status) _

theorem usageOf_useSession (now : SystemTime) (sessionId : SessionId)
    (transportType : TransportType) :
    (manager.useSession now sessionId).2.usageOf transportType =
      manager.usageOf transportType := by
  cases hget : manager.getSession sessionId with
  | none => rw [useSession_of_none hget]
  | some metadata =>
      have hmark : (manager.afterMark now sessionId metadata).usageOf transportType =
          manager.usageOf transportType :=
        usageOf_of_map (f := (·.recordSessionUsage sessionId (metadata.useCount + 1))) rfl
          (fun _ => rfl) _
      rw [useSession_of_some hget]
      split
      · rw [usageOf_updateSessionStatus, hmark]
      · exact hmark

theorem usageOf_closeSession (now : SystemTime) (sessionId : SessionId)
    (transportType : TransportType) :
    (manager.closeSession now sessionId).2.usageOf transportType =
      manager.usageOf transportType := by
  cases hget : manager.getSession sessionId with
  | none => rw [closeSession_of_none hget]
  | some metadata =>
      obtain ⟨_, _, _, hclosed, _⟩ := closeSession_of_some now hget
      refine usageOf_of_map hclosed (fun collector => ?_) _
      exact (transportUsage_recordSessionClosed _ _ _).trans
        (transportUsage_recordTransition _ _ _)

theorem usageOf_expireSession (now : SystemTime) (acc : List SessionId × SessionManager)
    (session : SessionMetadata) (transportType : TransportType) :
    (expireSession now acc session).2.usageOf transportType = acc.2.usageOf transportType := by
  obtain ⟨expired, manager⟩ := acc
  unfold expireSession
  dsimp only
  split
  · split
    · exact usageOf_of_map rfl (transportUsage_recordSessionClosed now _) _
    · rfl
  · rfl

theorem usageOf_cleanup (now : SystemTime) (rank : SessionId → Nat)
    (transportType : TransportType) :
    (manager.cleanup now rank).2.usageOf transportType = manager.usageOf transportType := by
  have hfold : ((manager.registry.listAll rank).foldl (expireSession now)
      ([], manager)).2.usageOf transportType = manager.usageOf transportType := by
    apply List.foldlRecOn (motive := fun acc : List SessionId × SessionManager =>
      acc.2.usageOf transportType = manager.usageOf transportType) _ _ rfl
    exact fun acc hacc session _ => (usageOf_expireSession now acc session _).trans hacc
  refine Eq.trans ?_ hfold
  exact usageOf_of_map (f := (·.cleanupOldHistory now (Duration.fromSecs 86400))) rfl
    (fun _ => rfl) _

/-- The usage of a transport goes up with each session that is created for it. -/
theorem usageOf_apply (hmetrics : manager.metrics.isSome) (op : ManagerOp) :
    (manager.apply op).usageOf transportType = manager.usageOf transportType +
      if manager.creates op = some transportType then 1 else 0 := by
  obtain ⟨task, ambient⟩ := op
  cases task with
  | createSession name transportConfig tags description =>
      exact usageOf_createSession ambient name transportConfig tags description hmetrics
  | updateSessionStatus sessionId status => exact usageOf_updateSessionStatus _ _ _ _
  | useSession sessionId => exact usageOf_useSession _ _ _
  | closeSession sessionId => exact usageOf_closeSession _ _ _
  | connectOrCreateSession name transportConfig =>
      simp only [apply, connectOrCreateSession_snd]
      cases hfind : manager.findReusableSession ambient.now transportConfig.connectionKey with
      | some sessionId => simp [creates, hfind, usageOf_useSession]
      | none =>
          have hcreates : manager.creates ⟨.connectOrCreateSession name transportConfig,
              ambient⟩ = manager.admits ambient name transportConfig [] none := by
            simp only [creates, hfind]
          rw [hcreates]
          exact usageOf_createSession ambient name transportConfig [] none hmetrics
  | updateSessionMetadata sessionId metadata => rfl
  | cleanup => exact usageOf_cleanup _ _ _

/-! ## The range of the counters -/

/-- No counter of 32 bits saturates or overflows during the operation. -/
def CountsExactly (config : SessionManagerConfig) (manager : SessionManager)
    (op : ManagerOp) : Prop :=
  (op.task.program config).Each (exec op.ambient) ManagerAction.CountsExactly manager

theorem admits_eq_some_iff (ambient : Ambient) (name : String)
    (transportConfig : TransportConfig) (tags : List String) (description : Option String) :
    manager.admits ambient name transportConfig tags description = some transportType ↔
      manager.registry.checkRegister (.new ambient.now ambient.freshId name transportConfig tags
          description) = .ok () ∧
        transportConfig.transportType = transportType := by
  unfold admits
  split
  · next hcheck => simp [hcheck]
  · next hcheck => simp [hcheck]

/-- A counter overflows in the creation of a session exactly if its transport was counted
`2 ^ 32 - 1` times before. -/
theorem each_createSession_iff (ambient : Ambient) (name : String)
    (transportConfig : TransportConfig) (tags : List String) (description : Option String)
    (henabled : config.enableMetrics = true) (hmetrics : manager.metrics.isSome) :
    (ManagerProgram.createSession config name transportConfig tags description).Each
        (exec ambient) ManagerAction.CountsExactly manager ↔
      ∀ transportType,
        manager.admits ambient name transportConfig tags description = some transportType →
        manager.usageOf transportType + 1 < 2 ^ 32 := by
  obtain ⟨collector, hcollector⟩ := Option.isSome_iff_exists.mp hmetrics
  rw [ManagerProgram.each_createSession_iff ambient name transportConfig tags description
    henabled hcollector, ← usageOf_of_some hcollector]
  simp only [admits_eq_some_iff]
  constructor
  · rintro hroom transportType ⟨hcheck, rfl⟩
    exact hroom hcheck
  · exact fun hroom hcheck => hroom _ ⟨hcheck, rfl⟩

/-- From a counted manager only the creation of a session can get a counter out of range. -/
theorem Counted.countsExactly_iff (h : manager.Counted) (henabled : config.enableMetrics = true)
    (hmetrics : manager.metrics.isSome) {op : ManagerOp} (hspares : op.task.SparesMetadata) :
    manager.CountsExactly config op ↔ ∀ transportType,
      manager.creates op = some transportType → manager.usageOf transportType + 1 < 2 ^ 32 := by
  obtain ⟨task, ambient⟩ := op
  cases task with
  | createSession name transportConfig tags description =>
      refine (each_bind _ _ _ _ _).trans ((and_iff_left trivial).trans ?_)
      exact each_createSession_iff ambient name transportConfig tags description henabled
        hmetrics
  | updateSessionStatus sessionId status =>
      have hcounts := ManagerProgram.counts_updateSessionStatus ambient henabled h sessionId
        status
      exact iff_of_true ((each_bind _ _ _ _ _).mpr ⟨hcounts.1, trivial⟩)
        fun _ h => absurd h (Option.some_ne_none _).symm
  | useSession sessionId =>
      have hcounts := ManagerProgram.counts_useSession ambient henabled h sessionId
      exact iff_of_true ((each_bind _ _ _ _ _).mpr ⟨hcounts.1, trivial⟩)
        fun _ h => absurd h (Option.some_ne_none _).symm
  | closeSession sessionId =>
      have hcounts := ManagerProgram.counts_closeSession ambient henabled h sessionId
      exact iff_of_true ((each_bind _ _ _ _ _).mpr ⟨hcounts.1, trivial⟩)
        fun _ h => absurd h (Option.some_ne_none _).symm
  | connectOrCreateSession name transportConfig =>
      refine (each_bind _ _ _ _ _).trans ((and_iff_left trivial).trans ?_)
      unfold ManagerProgram.connectOrCreateSession
      rw [perform_bind, each_call]
      apply (and_iff_right fun _ _ => trivial).trans
      simp only [exec, creates, findReusableSession]
      cases hfind : manager.pool.findSession ambient.now transportConfig.connectionKey with
      | some sessionId =>
          have hcounts := ManagerProgram.counts_useSession ambient henabled h sessionId
          refine iff_of_true ((each_bind _ _ _ _ _).mpr ⟨hcounts.1, ?_⟩)
            fun _ h => absurd h (Option.some_ne_none _).symm
          split <;> trivial
      | none =>
          refine (each_bind _ _ _ _ _).trans ((and_iff_left ?_).trans ?_)
          · split <;> trivial
          · exact each_createSession_iff ambient name transportConfig [] none henabled hmetrics
  | updateSessionMetadata sessionId metadata => cases hspares
  | cleanup =>
      have hcounts := ManagerProgram.counts_cleanup ambient henabled h
      exact iff_of_true ((each_bind _ _ _ _ _).mpr ⟨hcounts.1, trivial⟩)
        fun _ h => absurd h (Option.some_ne_none _).symm

/-! ## Every run -/

/-- What a run of operations knows of its manager. -/
structure Recorded (config : SessionManagerConfig) (past : List ManagerOp)
    (manager : SessionManager) : Prop where
  reached : manager = run apply (new config) past
  counted : manager.Counted
  builtFrom : manager.BuiltFrom config
  registersWithin : manager.RegistersWithin (ManagerOp.issuedIds past)
  usage : ∀ transportType,
    manager.usageOf transportType = (new config).created transportType past

theorem recorded_new (hlimit : config.registry.maxSessions < 2 ^ 32) :
    Recorded config [] (new config) where
  reached := rfl
  counted := counted_new hlimit
  builtFrom := builtFrom_new config
  registersWithin := registersWithin_new config
  usage transportType := by
    cases henabled : config.enableMetrics <;>
      simp [usageOf, created, new, henabled, SessionMetrics.usageOf]

theorem Recorded.isSome_metrics {past : List ManagerOp} (h : Recorded config past manager)
    (henabled : config.enableMetrics = true) : manager.metrics.isSome :=
  h.builtFrom.metrics.trans henabled

theorem Recorded.apply {past : List ManagerOp} (h : Recorded config past manager)
    (henabled : config.enableMetrics = true) {op : ManagerOp}
    (hfresh : op.ambient.freshId ∉ ManagerOp.issuedIds past)
    (hspares : op.task.SparesMetadata) :
    Recorded config (past ++ [op]) (manager.apply op) where
  reached := by rw [run_append, ← h.reached]; rfl
  counted := h.counted.apply h.builtFrom henabled
    (h.registersWithin.getSession_eq_none hfresh) hspares
  builtFrom := h.builtFrom.apply op
  registersWithin := h.registersWithin.apply op
  usage transportType := by
    rw [usageOf_apply (h.isSome_metrics henabled), h.usage, created_concat, h.reached]

/-- Every session finds its counter below the limit exactly if the last one does. -/
theorem along_creates_iff (manager : SessionManager) (ops : List ManagerOp) :
    Along SessionManager.apply (fun past current op => ∀ transportType,
        current.creates op = some transportType →
          manager.created transportType past + 1 < 2 ^ 32) manager ops ↔
      ∀ transportType, manager.created transportType ops < 2 ^ 32 := by
  constructor
  · intro halong transportType
    induction ops using List.reverseRecOn with
    | nil => exact Nat.two_pow_pos 32
    | append_singleton ops op ih =>
        obtain ⟨hops, hop⟩ := along_concat.mp halong
        rw [created_concat]
        split
        · next hcreates => exact hop transportType hcreates
        · exact ih hops
  · rintro hcreated past op ⟨rest, rfl⟩ transportType hcreates
    have htotal := hcreated transportType
    rw [created_append, created_concat, if_pos hcreates] at htotal
    exact Nat.lt_of_le_of_lt (Nat.le_add_right _ _) htotal

section Runs

variable {ops : List ManagerOp}

theorem recorded_run (henabled : config.enableMetrics = true)
    (hlimit : config.registry.maxSessions < 2 ^ 32)
    (hspares : ∀ op ∈ ops, op.task.SparesMetadata) (hfresh : (ManagerOp.issuedIds ops).Nodup) :
    ∀ past, past <+: ops → Recorded config past (run apply (new config) past) := by
  have hknown : Along apply (fun past _ op => op.ambient.freshId ∉ ManagerOp.issuedIds past ∧
      op.task.SparesMetadata) (new config) ops :=
    (along_fresh _ hfresh).and fun past op hp => hspares op (hp.subset (by simp))
  exact hknown.invariant (recorded_new hlimit)
    fun past manager op h hop => h.apply henabled hop.1 hop.2

theorem along_countsExactly_iff (henabled : config.enableMetrics = true)
    (hlimit : config.registry.maxSessions < 2 ^ 32)
    (hspares : ∀ op ∈ ops, op.task.SparesMetadata) (hfresh : (ManagerOp.issuedIds ops).Nodup) :
    Along apply (fun _ manager op => manager.CountsExactly config op) (new config) ops ↔
      ∀ transportType, (new config).created transportType ops < 2 ^ 32 := by
  rw [← along_creates_iff]
  refine forall_congr' fun past => forall_congr' fun op => forall_congr' fun hp => ?_
  have h := recorded_run henabled hlimit hspares hfresh past
    ((List.prefix_append past [op]).trans hp)
  refine (h.counted.countsExactly_iff henabled (h.isSome_metrics henabled)
    (hspares op (hp.subset (by simp)))).trans ?_
  simp only [h.usage]

end Runs

/-- With metrics the counters agree with the registry after every operation, and no 32-bit
counter saturates or overflows on the way, exactly if fewer than `2 ^ 32` sessions of each
transport are created. The counters of the model have no bound, so it is faithful up to the
first overflow. -/
theorem censusHolds_iff_created_lt (config : SessionManagerConfig)
    (henabled : config.enableMetrics = true) (hlimit : config.registry.maxSessions < 2 ^ 32)
    (ops : List ManagerOp) (hspares : ∀ op ∈ ops, op.task.SparesMetadata)
    (hfresh : (ManagerOp.issuedIds ops).Nodup) :
    (Always apply CensusHolds (new config) ops ∧
        Along apply (fun _ manager op => manager.CountsExactly config op) (new config) ops) ↔
      ∀ transportType, (new config).created transportType ops < 2 ^ 32 := by
  rw [along_countsExactly_iff henabled hlimit hspares hfresh]
  refine and_iff_right fun past hp => ?_
  have h := recorded_run henabled hlimit hspares hfresh past hp
  obtain ⟨collector, hcollector⟩ := Option.isSome_iff_exists.mp (h.isSome_metrics henabled)
  exact ⟨collector, hcollector, h.counted.tallies collector hcollector⟩

/-- A session is created, connected, used, left idle and closed. -/
def wholeLifeOps : List ManagerOp :=
  [(ManagerTask.createSession "build" {} [] none).atSeconds 0 1,
    (ManagerTask.updateSessionStatus ⟨1⟩ .active).atSeconds 1 2,
    (ManagerTask.useSession ⟨1⟩).atSeconds 2 3,
    (ManagerTask.updateSessionStatus ⟨1⟩ .idle).atSeconds 3 4,
    (ManagerTask.closeSession ⟨1⟩).atSeconds 4 5]

theorem censusHolds_iff_created_lt_wholeLife :
    Always apply CensusHolds (new {}) wholeLifeOps ∧
      Along apply (fun _ manager op => manager.CountsExactly {} op) (new {}) wholeLifeOps := by
  refine (censusHolds_iff_created_lt {} rfl (by decide) wholeLifeOps ?_ (by decide)).mpr ?_
  · simp [wholeLifeOps, ManagerTask.atSeconds, ManagerTask.SparesMetadata]
  · rintro ⟨⟩ <;> decide

/-! ## Too many sessions for a counter of 32 bits -/

/-- Create and close this many sessions, one after the other. -/
def churnOps (n : Nat) : List ManagerOp :=
  (List.range n).flatMap fun i =>
    [(ManagerTask.createSession "build" {} [] none).atSeconds 0 (.ofNat 128 (2 * i)),
      (ManagerTask.closeSession ⟨.ofNat 128 (2 * i)⟩).atSeconds 0 (.ofNat 128 (2 * i + 1))]

theorem churnOps_succ (n : Nat) :
    churnOps (n + 1) = churnOps n ++
      [(ManagerTask.createSession "build" {} [] none).atSeconds 0 (.ofNat 128 (2 * n)),
        (ManagerTask.closeSession ⟨.ofNat 128 (2 * n)⟩).atSeconds 0 (.ofNat 128 (2 * n + 1))] := by
  simp [churnOps, List.range_succ]

theorem sparesMetadata_churnOps (n : Nat) : ∀ op ∈ churnOps n, op.task.SparesMetadata := by
  intro op hop
  obtain ⟨i, _, hop⟩ := List.mem_flatMap.mp hop
  rcases List.mem_pair.mp hop with rfl | rfl <;> trivial

theorem issuedIds_churnOps (n : Nat) :
    ManagerOp.issuedIds (churnOps n) =
      (List.range (2 * n)).map fun i => ⟨.ofNat 128 i⟩ := by
  induction n with
  | zero => rfl
  | succ n ih =>
      have hdouble : 2 * (n + 1) = 2 * n + 1 + 1 := by omega
      rw [churnOps_succ, ManagerOp.issuedIds, List.map_append, ← ManagerOp.issuedIds, ih,
        hdouble, List.range_succ, List.range_succ]
      simp [ManagerTask.atSeconds]

theorem nodup_issuedIds_churnOps {n : Nat} (h : 2 * n ≤ 2 ^ 128) :
    (ManagerOp.issuedIds (churnOps n)).Nodup := by
  rw [issuedIds_churnOps]
  refine List.Nodup.map_on (fun i hi j hj heq => ?_) List.nodup_range
  have hi' : i < 2 ^ 128 := (List.mem_range.mp hi).trans_le h
  have hj' : j < 2 ^ 128 := (List.mem_range.mp hj).trans_le h
  have htoNat := congrArg (fun id : SessionId => id.uuid.toNat) heq
  simp only [BitVec.toNat_ofNat] at htoNat
  calc i
    _ = i % 2 ^ 128 := (Nat.mod_eq_of_lt hi').symm
    _ = j % 2 ^ 128 := htoNat
    _ = j := Nat.mod_eq_of_lt hj'

/-- One session is created in an empty manager, and closed. -/
theorem churn_step (hconfig : manager.registry.config = {})
    (hempty : ∀ id, manager.getSession id = none) (create close : Ambient) :
    let ops : List ManagerOp := [⟨.createSession "build" {} [] none, create⟩,
      ⟨.closeSession create.freshId, close⟩]
    (∀ id, (run apply manager ops).getSession id = none) ∧ manager.created .local ops = 1 := by
  intro ops
  have hcheck : manager.registry.checkRegister (.new create.now create.freshId "build" {} []
      none) = .ok () := by
    rw [SessionRegistry.checkRegister_eq_ok_iff, hconfig]
    refine ⟨?_, Or.inl rfl⟩
    change manager.registry.count < 1000
    rw [SessionRegistry.count_eq_zero hempty]
    decide
  have hget : ∀ id, (manager.createSession create.now create.freshId "build" {} []
      none).2.getSession id = if id = create.freshId then _ else _ :=
    (createSession_of_ok hcheck).2.2
  have hself := hget create.freshId
  rw [if_pos rfl] at hself
  obtain ⟨_, _, _, _, hgone⟩ := closeSession_of_some close.now hself
  constructor
  · intro id
    refine (hgone id).trans ?_
    split
    · rfl
    · next hne => rw [hget, if_neg hne, hempty]
  · have hcreates : manager.creates ⟨.createSession "build" {} [] none, create⟩ = some .local :=
      (admits_eq_some_iff create "build" {} [] none).mpr ⟨hcheck, rfl⟩
    simp only [ops, created, hcreates]
    rfl

theorem churn_run (n : Nat) :
    (run apply (new {}) (churnOps n)).BuiltFrom {} ∧
      (run apply (new {}) (churnOps n)).registry.config = {} ∧
      (∀ id, (run apply (new {}) (churnOps n)).getSession id = none) ∧
      (new {}).created .local (churnOps n) = n := by
  induction n with
  | zero => exact ⟨builtFrom_new {}, rfl, fun _ => rfl, rfl⟩
  | succ n ih =>
      obtain ⟨hbuilt, hconfig, hempty, hcreated⟩ := ih
      obtain ⟨hempty', hone⟩ := churn_step hconfig hempty
        ((ManagerTask.createSession "build" {} [] none).atSeconds 0 (.ofNat 128 (2 * n))).ambient
        ((ManagerTask.closeSession ⟨.ofNat 128 (2 * n)⟩).atSeconds 0
          (.ofNat 128 (2 * n + 1))).ambient
      rw [churnOps_succ, run_append, run_cons, run_cons, run_nil]
      refine ⟨(hbuilt.apply _).apply _, ?_, hempty', ?_⟩
      · exact ((hbuilt.apply _).apply_registry_config _).trans
          ((hbuilt.apply_registry_config _).trans hconfig)
      · rw [created_append, hcreated]
        exact congrArg (n + ·) hone

/-- Creating and closing one local session after the other overflows `transport_usage`. -/
theorem censusHolds_churn_false :
    (∀ op ∈ churnOps (2 ^ 32), op.task.SparesMetadata) ∧
      (ManagerOp.issuedIds (churnOps (2 ^ 32))).Nodup ∧
      ¬ (Always apply CensusHolds (new {}) (churnOps (2 ^ 32)) ∧
        Along apply (fun _ manager op => manager.CountsExactly {} op) (new {})
          (churnOps (2 ^ 32))) := by
  have hspares := sparesMetadata_churnOps (2 ^ 32)
  have hfresh := nodup_issuedIds_churnOps (n := 2 ^ 32) (by decide)
  refine ⟨hspares, hfresh, ?_⟩
  rintro ⟨_, hcounts⟩
  have hless := (along_countsExactly_iff rfl (by decide) hspares hfresh).mp hcounts .local
  rw [(churn_run (2 ^ 32)).2.2.2] at hless
  exact lt_irrefl _ hless

end SessionManager

end Yuha
