import Yuha.Core.Session.Lagging
import Yuha.Core.Session.Limiting
import Yuha.Core.Session.PoolLimits
import Yuha.Library.CheckThenAct

/-!
# How far the limits are exceeded

The registry and the pool check their limits in one critical section and add a session in a
later one. Both are exceeded only by calls that run at the same time: with at most `bound`
calls between their start and their insertion, by less than `bound`.
-/

namespace Yuha

open Library Library.Execution Library.Interleaved

/-! ## The registry -/

namespace RegistryCalls

open RegistryCall

/-- `register` stands before its check, or before its insertion. -/
def registerStages : Stages RegistryCall where
  checking
    | .checking _ => true
    | _ => false
  passed
    | .inserting _ => true
    | _ => false

/-- The `register` calls that have not inserted their session yet. -/
def registering (s : RegistryCalls) : Nat :=
  s.checkingCalls registerStages + s.passedCalls registerStages

/-- The number of sessions that are registered. -/
def registered (shared : GuardedRegistry) : Nat := shared.registry.count

variable {s : RegistryCalls} {config : SessionRegistryConfig}

theorem respectsCheck_of_moves {i : Nat} {call call' : RegistryCall} {shared : GuardedRegistry}
    (hmoves : Moves i call s.shared call' shared) (hguards : s.Guards i call)
    (hconfig : s.shared.registry.config = config) :
    RespectsCheck registerStages registered config.maxSessions call call' s.shared shared := by
  cases hmoves with
  | accept hfree hcheck =>
      have hroom := ((SessionRegistry.checkRegister_eq_ok_iff _ _).mp hcheck).1
      exact Or.inl ⟨rfl, hconfig ▸ hroom, Nat.le_refl _⟩
  | insert hfree =>
      right
      simp only [registered, count_insertSession]
      split <;> simp [registerStages]
  | store =>
      right
      simp only [registered, count_insertSession, if_pos hguards.2]
      exact Nat.le_refl _
  | remove hfree hsome => exact Or.inr (count_removeSession_le _ _)
  | reject | indexConnection | missing | unindexConnection | refuse | enter =>
      exact Or.inr (Nat.le_refl _)
  | indexName | unindexName | moveConnection | moveName =>
      exact Or.inr (by simp [registered, SessionRegistry.count, registerStages])

theorem step_config (hconfig : s.shared.registry.config = config) (event : RegistryEvent) :
    (step s event).shared.registry.config = config := by
  rcases s.step_cases begins RegistryCall.move event with
    ⟨task, _, hstep⟩ | ⟨i, call, call', shared, _, _, hmove, hstep⟩ | hstep
  · rwa [step, hstep]
  · rw [step, hstep]
    exact (config_of_moves (moves_of_move hmove)).trans hconfig
  · rwa [step, hstep]

/-- With at most `bound` calls of `register` at a time, fewer than `bound` sessions more are
registered than the configuration allows. -/
theorem registered_le_of_registering_le (config : SessionRegistryConfig) (bound : Nat)
    (events : List RegistryEvent)
    (hbound : Always step (fun s => s.registering ≤ bound) (new config) events) :
    Always step (fun s => registered s.shared ≤ config.maxSessions + bound - 1) (new config)
      events := by
  refine size_le_of_calls_le registerStages
    (I := fun s => Guarded s ∧ s.shared.registry.config = config)
    ⟨guarded_new config, rfl⟩ rfl rfl (fun task => by cases task <;> rfl) ?_ ?_ hbound
  · exact fun s event hs => ⟨hs.1.step event, step_config hs.2 event⟩
  · exact fun s i call call' shared hs hcall hmove =>
      respectsCheck_of_moves (moves_of_move hmove) (hs.1 i call hcall) hs.2

theorem registered_le_of_registering_le_bothChecked :
    registered (run step (new { maxSessions := 1 }) bothChecked).shared = 1 + 2 - 1 ∧
      Always step (fun s => registered s.shared ≤ 1 + 2 - 1) (new { maxSessions := 1 })
        bothChecked :=
  ⟨by decide, registered_le_of_registering_le { maxSessions := 1 } 2 bothChecked (by decide)⟩

end RegistryCalls

/-! ## The pool -/

namespace PoolCalls

open PoolCall

/-- `add_session` stands before its check, or before it pools a session whose connection is
among these. -/
def addStages (among : String → Bool) : Stages PoolCall where
  checking
    | .checking _ session => among session.connectionKey
    | _ => false
  passed
    | .inserting _ session => among session.connectionKey
    | _ => false

/-- The `add_session` calls that have not pooled their session yet. -/
def adding (s : PoolCalls) : Nat :=
  s.checkingCalls (addStages fun _ => true) + s.passedCalls (addStages fun _ => true)

variable {s : PoolCalls} {pool pool' : SessionPool} {i : Nat} {call call' : PoolCall}

theorem adding_among_le (s : PoolCalls) (among : String → Bool) :
    s.checkingCalls (addStages among) + s.passedCalls (addStages among) ≤ s.adding := by
  refine Nat.add_le_add (tally_le_tally (fun call => ?_) _) (tally_le_tally (fun call => ?_) _)
  · cases call with
    | checking now session => exact Bool.toNat_le _
    | inserting | removing | done => exact Nat.le_refl 0
  · cases call with
    | inserting now session => exact Bool.toNat_le _
    | checking | removing | done => exact Nat.le_refl 0

/-- All that a section of a call can do. -/
inductive Moves : PoolCall → SessionPool → PoolCall → SessionPool → Prop
  | refuse {now session pool} : Moves (.checking now session) pool (.done false) pool
  | accept {now session pool} (hcapacity : pool.atCapacity session.connectionKey = false) :
      Moves (.checking now session) pool (.inserting now session) pool
  | insert {now session pool} :
      Moves (.inserting now session) pool (.done true) (pool.insertPooled now session)
  | remove {sessionId pool} :
      Moves (.removing sessionId) pool (.done (pool.removeSession sessionId).1)
        (pool.removeSession sessionId).2

theorem moves_of_move (h : move i call pool = some (call', pool')) :
    Moves call pool call' pool' := by
  cases call with
  | checking now session =>
      obtain ⟨rfl, rfl⟩ := Prod.mk.inj (Option.some.inj h)
      split
      · exact .refuse
      · split
        · exact .refuse
        · split
          · exact .refuse
          · next hcapacity => exact .accept (Bool.not_eq_true _ ▸ hcapacity)
  | inserting now session =>
      obtain ⟨rfl, rfl⟩ := Prod.mk.inj (Option.some.inj h)
      exact .insert
  | removing sessionId =>
      obtain ⟨rfl, rfl⟩ := Prod.mk.inj (Option.some.inj h)
      exact .remove
  | done answer => cases h

theorem size_removeSession_le (pool : SessionPool) (sessionId : SessionId) :
    (pool.removeSession sessionId).2.poolMetadata.size ≤ pool.poolMetadata.size := by
  unfold SessionPool.removeSession
  split
  · have hsize := HashMap.size_erase_add pool.poolMetadata sessionId
    exact Nat.le_of_add_right_le hsize.le
  · exact Nat.le_refl _

theorem length_group_removeSession_le (pool : SessionPool) (sessionId : SessionId)
    (connectionKey : String) :
    ((pool.removeSession sessionId).2.pools.group connectionKey).length ≤
      (pool.pools.group connectionKey).length := by
  unfold SessionPool.removeSession
  split
  · simp only [GroupedIndex.group_discard]
    split
    · next hkey => exact hkey ▸ List.length_filter_le _ _
    · exact Nat.le_refl _
  · exact Nat.le_refl _

variable {config : SessionPoolConfig}

theorem respectsCheck_size (h : Moves call pool call' pool') (hconfig : pool.config = config) :
    RespectsCheck (addStages fun _ => true) (fun pool : SessionPool => pool.poolMetadata.size)
      config.maxTotalSessions call call' pool pool' := by
  cases h with
  | accept hcapacity =>
      simp only [SessionPool.atCapacity, Bool.or_eq_false_iff, decide_eq_false_iff_not,
        not_le] at hcapacity
      exact Or.inl ⟨rfl, hconfig ▸ hcapacity.2, Nat.le_refl _⟩
  | insert =>
      right
      simp only [SessionPool.size_insertPooled]
      split <;> simp [addStages]
  | remove => exact Or.inr (size_removeSession_le _ _)
  | refuse => exact Or.inr (Nat.le_refl _)

/-- The first session of a connection is not checked against its limit. -/
theorem respectsCheck_group (h : Moves call pool call' pool') (hconfig : pool.config = config)
    (connectionKey : String) :
    RespectsCheck (addStages fun key => decide (key = connectionKey))
      (fun pool : SessionPool => (pool.pools.group connectionKey).length)
      (max 1 config.maxSessionsPerConnection) call call' pool pool' := by
  cases h with
  | @accept now session pool hcapacity =>
      by_cases hkey : session.connectionKey = connectionKey
      · subst hkey
        refine Or.inl ⟨decide_eq_true rfl, lt_max_iff.mpr ?_, Nat.le_refl _⟩
        simp only [SessionPool.atCapacity, Bool.or_eq_false_iff] at hcapacity
        cases hlookup : pool.pools.lookup session.connectionKey with
        | none => exact Or.inl (by simp [GroupedIndex.group, hlookup])
        | some sessionIds =>
            right
            simpa [GroupedIndex.group, hlookup, hconfig] using hcapacity.1
      · exact Or.inr (by simp [addStages, hkey])
  | @insert now session pool =>
      right
      simp only [SessionPool.length_group_insertPooled, addStages, eq_comm]
      split <;> simp_all
  | remove => exact Or.inr (length_group_removeSession_le _ _ _)
  | refuse => exact Or.inr (Nat.le_refl _)

theorem step_config (hconfig : s.shared.config = config) (event : PoolEvent) :
    (step s event).shared.config = config := by
  rcases s.step_cases begins move event with
    ⟨request, _, hstep⟩ | ⟨i, call, call', pool, _, _, hmove, hstep⟩ | hstep
  · rwa [step, hstep]
  · rw [step, hstep]
    have hmoves := moves_of_move hmove
    cases hmoves with
    | refuse | accept => exact hconfig
    | insert => exact hconfig
    | remove => exact (SessionPool.removeSession_config _ _).trans hconfig
  · rwa [step, hstep]

/-- The sessions in the pool, and those of any connection, exceed the limits by less than
`bound`. A connection that may have no session counts as one that may have one. -/
def WithinBound (config : SessionPoolConfig) (bound : Nat) (s : PoolCalls) : Prop :=
  s.shared.poolMetadata.size ≤ config.maxTotalSessions + bound - 1 ∧
    ∀ connectionKey, (s.shared.pools.group connectionKey).length ≤
      max 1 config.maxSessionsPerConnection + bound - 1

/-- With at most `bound` calls of `add_session` at a time, the limits of the pool are exceeded
by less than `bound`. -/
theorem withinBound_of_adding_le (config : SessionPoolConfig) (bound : Nat)
    (events : List PoolEvent)
    (hbound : Always step (fun s => s.adding ≤ bound) (new config) events) :
    Always step (WithinBound config bound) (new config) events := by
  have hinvariant : ∀ (s : PoolCalls) event, s.shared.config = config →
      (Interleaved.step begins move s event).shared.config = config :=
    fun s event hs => step_config hs event
  have hbegins : ∀ among request, (addStages among).passed (begins request) = false :=
    fun among request => by cases request <;> rfl
  have htotal := size_le_of_calls_le (I := fun s : PoolCalls => s.shared.config = config)
    (addStages fun _ => true) rfl rfl rfl (hbegins _) hinvariant
    (fun s i call call' pool hs _ hmove => respectsCheck_size (moves_of_move hmove) hs) hbound
  intro past hpast
  refine ⟨htotal past hpast, fun connectionKey => ?_⟩
  have hgroup := size_le_of_calls_le (I := fun s : PoolCalls => s.shared.config = config)
    (addStages fun key => decide (key = connectionKey)) rfl rfl
    (by simp [new, SessionPool.new]) (hbegins _) hinvariant
    (fun s i call call' pool hs _ hmove =>
      respectsCheck_group (moves_of_move hmove) hs connectionKey)
    (fun past hpast => (adding_among_le _ _).trans (hbound past hpast))
  exact hgroup past hpast

theorem withinBound_of_adding_le_bothCheckedLimits :
    ((run step (new { maxSessionsPerConnection := 1 }) bothCheckedLimits).shared.pools.group
        (idleSession 1).connectionKey).length = 1 + 2 - 1 ∧
      Always step (WithinBound { maxSessionsPerConnection := 1 } 2)
        (new { maxSessionsPerConnection := 1 }) bothCheckedLimits :=
  ⟨by decide, withinBound_of_adding_le { maxSessionsPerConnection := 1 } 2 bothCheckedLimits
    (by decide)⟩

end PoolCalls

end Yuha
