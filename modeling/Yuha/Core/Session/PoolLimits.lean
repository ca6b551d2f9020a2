import Yuha.Core.Session.Reusing
import Yuha.Library.Interleaving

/-!
# The limits of the pool

`add_session` checks the limits under read guards and pools the session under write guards
that it takes later, so another call can pool a session in between. The check is enough
exactly as long as no call takes the last place, of its connection or of the pool, while
another one that has passed its check is still to take a place there. Besides, it does not
look at the limit of a connection that has no session in the pool.
-/

namespace Yuha

open Library Library.Execution

namespace SessionPool

/-- No connection has more sessions in the pool than it may, and neither has the pool. -/
def WithinLimits (pool : SessionPool) : Prop :=
  (∀ connectionKey, (pool.pools.group connectionKey).length ≤
      pool.config.maxSessionsPerConnection) ∧
    pool.poolMetadata.size ≤ pool.config.maxTotalSessions

/-- The connection of the session may have one more session in the pool, and so may the pool,
unless the session is in it already. -/
def HasRoom (pool : SessionPool) (session : SessionMetadata) : Prop :=
  (pool.pools.group session.connectionKey).length < pool.config.maxSessionsPerConnection ∧
    (pool.isPooled session.id = true ∨ pool.poolMetadata.size < pool.config.maxTotalSessions)

variable {pool : SessionPool}

theorem withinLimits_new (config : SessionPoolConfig) : (new config).WithinLimits :=
  ⟨fun connectionKey => by simp [new], Nat.zero_le _⟩

theorem length_group_insertPooled (pool : SessionPool) (now : SystemTime)
    (session : SessionMetadata) (connectionKey : String) :
    ((pool.insertPooled now session).pools.group connectionKey).length =
      (pool.pools.group connectionKey).length +
        if connectionKey = session.connectionKey then 1 else 0 := by
  simp only [insertPooled, GroupedIndex.group_push]
  split
  · next hkey => simp [hkey]
  · rfl

theorem size_insertPooled (pool : SessionPool) (now : SystemTime) (session : SessionMetadata) :
    (pool.insertPooled now session).poolMetadata.size =
      if pool.isPooled session.id = true then pool.poolMetadata.size
      else pool.poolMetadata.size + 1 := by
  rw [insertPooled, HashMap.size_insert]
  cases hlookup : pool.poolMetadata.lookup session.id <;> simp [isPooled, hlookup]

theorem isPooled_insertPooled (pool : SessionPool) (now : SystemTime)
    (session : SessionMetadata) (id : SessionId) :
    (pool.insertPooled now session).isPooled id = true ↔
      id = session.id ∨ pool.isPooled id = true := by
  by_cases hid : id = session.id
  · rw [hid]
    simp [isPooled, insertPooled]
  · simp [isPooled, insertPooled, hid, AList.lookup_insert_ne hid]

/-- To pool a session keeps the limits exactly if there is room for it. -/
theorem withinLimits_insertPooled_iff (h : pool.WithinLimits) (now : SystemTime)
    (session : SessionMetadata) :
    (pool.insertPooled now session).WithinLimits ↔ pool.HasRoom session := by
  have hconnection : (∀ connectionKey, (pool.pools.group connectionKey).length +
        (if connectionKey = session.connectionKey then 1 else 0) ≤
          pool.config.maxSessionsPerConnection) ↔
      (pool.pools.group session.connectionKey).length <
        pool.config.maxSessionsPerConnection := by
    constructor
    · intro hall
      have hle := hall session.connectionKey
      rwa [if_pos rfl] at hle
    · intro hlt connectionKey
      have hle := h.1 connectionKey
      split
      · next hkey => rwa [hkey]
      · exact hle
  simp only [WithinLimits, length_group_insertPooled, size_insertPooled]
  apply and_congr hconnection
  have hle := h.2
  split
  · next hpooled => exact iff_of_true hle (Or.inl hpooled)
  · next hpooled => exact ⟨Or.inr, fun hroom => hroom.resolve_left hpooled⟩

/-- To take a session out keeps the limits. -/
theorem WithinLimits.removeSession (h : pool.WithinLimits) (sessionId : SessionId) :
    (pool.removeSession sessionId).2.WithinLimits := by
  unfold SessionPool.removeSession
  split
  · next metadata _ =>
      refine ⟨fun connectionKey => ?_, ?_⟩
      · refine Nat.le_trans ?_ (h.1 connectionKey)
        simp only [GroupedIndex.group_discard]
        split
        · next hkey =>
            rw [hkey]
            exact List.length_filter_le _ _
        · exact Nat.le_refl _
      · have hsize := HashMap.size_erase_add pool.poolMetadata sessionId
        exact Nat.le_trans (Nat.le_of_add_right_le hsize.le) h.2
  · exact h

/-! ## One call after the other -/

/-- Where the limits were checked there is room, unless the connection may have no session
at all: the first of a connection is not checked against its limit. -/
theorem hasRoom_of_accepts {session : SessionMetadata} (h : pool.Accepts session)
    (hlimit : 0 < pool.config.maxSessionsPerConnection) : pool.HasRoom session := by
  have hcapacity := h.2.2
  simp only [atCapacity, Bool.or_eq_false_iff, decide_eq_false_iff_not, not_le] at hcapacity
  refine ⟨?_, Or.inr hcapacity.2⟩
  cases hlookup : pool.pools.lookup session.connectionKey with
  | none => simpa [GroupedIndex.group, hlookup] using hlimit
  | some sessionIds => simpa [GroupedIndex.group, hlookup] using hcapacity.1

theorem WithinLimits.addSession (h : pool.WithinLimits)
    (hlimit : 0 < pool.config.maxSessionsPerConnection) (now : SystemTime)
    (session : SessionMetadata) : (pool.addSession now session).2.WithinLimits := by
  by_cases haccepts : pool.Accepts session
  · rw [addSession_of_accepts haccepts]
    exact (withinLimits_insertPooled_iff h now session).mpr (hasRoom_of_accepts haccepts hlimit)
  · rwa [addSession_of_not_accepts haccepts]

theorem WithinLimits.apply (h : pool.WithinLimits)
    (hlimit : 0 < pool.config.maxSessionsPerConnection) (op : PoolOp) :
    (pool.apply op).WithinLimits := by
  cases op with
  | addSession now session => exact h.addSession hlimit now session
  | removeSession sessionId => exact h.removeSession sessionId
  | cleanupExpired now rank maxIdleTime =>
      apply List.foldlRecOn _ _ h
      exact fun after hafter sessionId _ => hafter.removeSession sessionId
  | clear => exact ⟨fun connectionKey => by simp [SessionPool.apply, clear], Nat.zero_le _⟩

@[simp] theorem apply_config (pool : SessionPool) (op : PoolOp) :
    (pool.apply op).config = pool.config := by
  cases op with
  | addSession now session => exact addSession_config pool now session
  | removeSession sessionId => exact removeSession_config pool sessionId
  | cleanupExpired now rank maxIdleTime => exact cleanupExpired_config pool now rank maxIdleTime
  | clear => rfl

/-- One call at a time keeps to the limits, if a connection may have a session at all. -/
theorem withinLimits_of_calls {config : SessionPoolConfig}
    (hlimit : 0 < config.maxSessionsPerConnection) (ops : List PoolOp) :
    Always apply WithinLimits (new config) ops := by
  have hrun : ∀ past, past <+: ops → (run apply (new config) past).config = config ∧
      (run apply (new config) past).WithinLimits := by
    refine Along.invariant (G := fun _ _ _ => True) (I := fun _ (pool : SessionPool) =>
      pool.config = config ∧ pool.WithinLimits) (fun _ _ _ => trivial)
      ⟨rfl, withinLimits_new config⟩ ?_
    rintro _ pool op ⟨hconfig, hlimits⟩ _
    exact ⟨(apply_config pool op).trans hconfig, hlimits.apply (hconfig ▸ hlimit) op⟩
  exact fun past hpast => (hrun past hpast).2

end SessionPool

/-! ## Calls at the same time -/

inductive PoolCall
  /-- `add_session`, before it checks whether the session can be pooled. -/
  | checking (now : SystemTime) (session : SessionMetadata)
  /-- `add_session`, before it pools the session. -/
  | inserting (now : SystemTime) (session : SessionMetadata)
  | removing (sessionId : SessionId)
  | done (answer : Bool)
  deriving DecidableEq

inductive PoolRequest
  /-- The time is when the session comes to be pooled. -/
  | addSession (now : SystemTime) (session : SessionMetadata)
  | removeSession (sessionId : SessionId)

/-- The pool and the calls in progress on it. -/
abbrev PoolCalls := Interleaved SessionPool PoolCall

abbrev PoolEvent := Event PoolRequest

namespace PoolCalls

open PoolCall Interleaved

def new (config : SessionPoolConfig) : PoolCalls := ⟨SessionPool.new config, []⟩

def begins : PoolRequest → PoolCall
  | .addSession now session => .checking now session
  | .removeSession sessionId => .removing sessionId

/-- The next section of a call. -/
def move (_ : Nat) : PoolCall → SessionPool → Option (PoolCall × SessionPool)
  | .checking now session, pool =>
      some (if !pool.config.enabled then .done false
        else if session.status ≠ .idle ∧ session.status ≠ .active then .done false
        else if pool.atCapacity session.connectionKey then .done false
        else .inserting now session, pool)
  | .inserting now session, pool => some (.done true, pool.insertPooled now session)
  | .removing sessionId, pool =>
      some (.done (pool.removeSession sessionId).1, (pool.removeSession sessionId).2)
  | .done _, _ => none

def step : PoolCalls → PoolEvent → PoolCalls := Interleaved.step begins move

/-- The limits hold, and no call exceeds them in its next section. -/
def StaysWithinLimits (s : PoolCalls) : Prop :=
  s.shared.WithinLimits ∧ ∀ i, (step s (.advance i)).shared.WithinLimits

/-- The event lets a call pass the check only if a connection may have a session at all. -/
def AdmitsAny (s : PoolCalls) (event : PoolEvent) : Prop :=
  ∀ i now session, event = .advance i → s.calls[i]? = some (.checking now session) →
    s.shared.Accepts session → 0 < s.shared.config.maxSessionsPerConnection

/-- Where the event pools a session and takes the last place of its connection, no other call
that has passed its check is to pool one of this connection. Where it takes the last place of
the pool, no other such call is to pool one that is not in it, unless it is the same. -/
def TakesLastAlone (s : PoolCalls) (event : PoolEvent) : Prop :=
  ∀ i now session, event = .advance i → s.calls[i]? = some (.inserting now session) →
    ∀ j now' other, j ≠ i → s.calls[j]? = some (.inserting now' other) →
      (s.shared.config.maxSessionsPerConnection ≤
          (s.shared.pools.group session.connectionKey).length + 1 →
        other.connectionKey ≠ session.connectionKey) ∧
      (s.shared.isPooled session.id = false →
        s.shared.config.maxTotalSessions ≤ s.shared.poolMetadata.size + 1 →
        s.shared.isPooled other.id = true ∨ other.id = session.id)

/-- The two sections of `add_session`, with no other call between them, are the call. -/
theorem run_addSession (pool : SessionPool) (now : SystemTime) (session : SessionMetadata) :
    run step ⟨pool, []⟩ [.start (.addSession now session), .advance 0, .advance 0] =
      ⟨(pool.addSession now session).2, [.done (pool.addSession now session).1]⟩ := by
  simp only [run_cons, run_nil, step, Interleaved.step, begins, List.nil_append,
    List.getElem?_cons_zero, Option.bind_some, move, SessionPool.addSession, List.set_cons_zero]
  split_ifs <;> rfl

/-- There is room for every session that a call is to pool in its next section. -/
structure KeepsRoom (s : PoolCalls) : Prop where
  within : s.shared.WithinLimits
  room : ∀ (i : Nat) now session, s.calls[i]? = some (.inserting now session) →
    s.shared.HasRoom session

variable {s : PoolCalls}

theorem keepsRoom_new (config : SessionPoolConfig) : KeepsRoom (new config) where
  within := SessionPool.withinLimits_new config
  room i now session hcall := by simp [new] at hcall

theorem KeepsRoom.staysWithinLimits (h : KeepsRoom s) : StaysWithinLimits s := by
  refine ⟨h.within, fun i => ?_⟩
  cases hcall : s.calls[i]? with
  | none =>
      simp only [step, Interleaved.step, hcall, Option.bind_none]
      exact h.within
  | some call =>
      simp only [step, Interleaved.step, hcall, Option.bind_some]
      cases call with
      | checking | done => exact h.within
      | inserting now session =>
          exact (SessionPool.withinLimits_insertPooled_iff h.within now session).mpr
            (h.room i now session hcall)
      | removing sessionId => exact h.within.removeSession sessionId

/-- What a check lets pass finds room, if a connection may have a session at all. -/
theorem hasRoom_of_check {i : Nat} {now now' : SystemTime} {session other : SessionMetadata}
    (hadmits : s.AdmitsAny (.advance i)) (hcall : s.calls[i]? = some (.checking now session))
    (hpasses : (if !s.shared.config.enabled then .done false
      else if session.status ≠ .idle ∧ session.status ≠ .active then .done false
      else if s.shared.atCapacity session.connectionKey then .done false
      else PoolCall.inserting now session) = .inserting now' other) :
    s.shared.HasRoom other := by
  split_ifs at hpasses with henabled hstatus hcapacity
  obtain ⟨-, rfl⟩ := PoolCall.inserting.inj hpasses
  have haccepts : s.shared.Accepts session := by
    refine ⟨by simpa using henabled, ?_, by simpa using hcapacity⟩
    by_contra hnot
    exact hstatus (not_or.mp hnot)
  exact SessionPool.hasRoom_of_accepts haccepts (hadmits i now session rfl hcall haccepts)

/-- To pool a session leaves room for another, unless it takes the last place from it. -/
theorem hasRoom_insertPooled {pool : SessionPool} {session other : SessionMetadata}
    (h : pool.HasRoom other) (now : SystemTime)
    (hconnection : pool.config.maxSessionsPerConnection ≤
        (pool.pools.group session.connectionKey).length + 1 →
      other.connectionKey ≠ session.connectionKey)
    (htotal : pool.isPooled session.id = false →
      pool.config.maxTotalSessions ≤ pool.poolMetadata.size + 1 →
      pool.isPooled other.id = true ∨ other.id = session.id) :
    (pool.insertPooled now session).HasRoom other := by
  constructor
  · rw [SessionPool.length_group_insertPooled]
    split
    · next hkey =>
        rw [hkey]
        exact not_le.mp fun hfull => hconnection hfull hkey
    · exact h.1
  · rw [SessionPool.isPooled_insertPooled, SessionPool.size_insertPooled]
    obtain hpooled | hroom := h.2
    · exact .inl (.inr hpooled)
    · cases hsession : pool.isPooled session.id with
      | true => exact .inr hroom
      | false =>
          by_cases hfull : pool.config.maxTotalSessions ≤ pool.poolMetadata.size + 1
          · exact .inl ((htotal hsession hfull).symm)
          · exact .inr (not_le.mp hfull)

/-- To take a session out leaves room for every other. -/
theorem hasRoom_removeSession {pool : SessionPool} {session : SessionMetadata}
    (hwithin : pool.WithinLimits) (h : pool.HasRoom session) (sessionId : SessionId) :
    (pool.removeSession sessionId).2.HasRoom session := by
  unfold SessionPool.removeSession
  split
  · next metadata hlookup =>
      have hsize := HashMap.size_erase_add pool.poolMetadata sessionId
      rw [hlookup] at hsize
      have hless : HashMap.size (AList.erase sessionId pool.poolMetadata) <
          pool.poolMetadata.size := by
        rw [← hsize]
        exact Nat.lt_add_one _
      refine ⟨?_, .inr (hless.trans_le hwithin.2)⟩
      refine lt_of_le_of_lt ?_ h.1
      simp only [GroupedIndex.group_discard]
      split
      · next hkey =>
          rw [hkey]
          exact List.length_filter_le _ _
      · exact Nat.le_refl _
  · exact h

theorem KeepsRoom.step (h : KeepsRoom s) {event : PoolEvent} (hadmits : s.AdmitsAny event)
    (halone : s.TakesLastAlone event) : KeepsRoom (PoolCalls.step s event) := by
  refine ⟨?_, ?_⟩
  · cases event with
    | start request => exact h.within
    | advance i => exact h.staysWithinLimits.2 i
  rcases s.step_cases begins move event with
    ⟨request, _, hstep⟩ | ⟨i, call, call', pool, rfl, hcall, hmove, hstep⟩ | hstep
  · rw [PoolCalls.step, hstep]
    intro j now session hj
    obtain hold | ⟨-, hnew⟩ := getElem?_append_cases hj
    · exact h.room j now session hold
    · cases request <;> cases hnew
  · rw [PoolCalls.step, hstep]
    intro j now session hj
    cases call with
    | checking now' checked =>
        obtain ⟨hpasses, rfl⟩ := Prod.mk.inj (Option.some.inj hmove)
        obtain ⟨rfl, rfl⟩ | ⟨-, hold⟩ := getElem?_set_cases hj
        · exact hasRoom_of_check (s := s) hadmits hcall hpasses
        · exact h.room j now session hold
    | inserting now' inserted =>
        obtain ⟨rfl, rfl⟩ := Prod.mk.inj (Option.some.inj hmove)
        obtain ⟨-, hnew⟩ | ⟨hij, hold⟩ := getElem?_set_cases hj
        · cases hnew
        · obtain ⟨hconnection, htotal⟩ :=
            halone i now' inserted rfl hcall j now session hij.symm hold
          exact hasRoom_insertPooled (h.room j now session hold) now' hconnection htotal
    | removing sessionId =>
        obtain ⟨rfl, rfl⟩ := Prod.mk.inj (Option.some.inj hmove)
        obtain ⟨-, hnew⟩ | ⟨-, hold⟩ := getElem?_set_cases hj
        · cases hnew
        · exact hasRoom_removeSession h.within (h.room j now session hold) sessionId
    | done answer => cases hmove
  · rw [PoolCalls.step, hstep]
    exact h.room

/-- What a call does that is to pool its session. -/
theorem step_inserting {i : Nat} {now : SystemTime} {session : SessionMetadata}
    (hcall : s.calls[i]? = some (.inserting now session)) :
    PoolCalls.step s (.advance i) =
      { shared := s.shared.insertPooled now session, calls := s.calls.set i (.done true) } := by
  simp [PoolCalls.step, Interleaved.step, hcall, move]

/-- A call that is to pool a session for which there is no room exceeds a limit. -/
theorem StaysWithinLimits.hasRoom (h : StaysWithinLimits s) {i : Nat} {now : SystemTime}
    {session : SessionMetadata} (hcall : s.calls[i]? = some (.inserting now session)) :
    s.shared.HasRoom session := by
  have hnext := h.2 i
  rw [step_inserting hcall] at hnext
  exact (SessionPool.withinLimits_insertPooled_iff h.1 now session).mp hnext

/-- Where no session is allowed, a call that passes its check exceeds the limit. -/
theorem admitsAny_of_staysWithinLimits {event : PoolEvent}
    (h : StaysWithinLimits (PoolCalls.step s event)) : s.AdmitsAny event := by
  rintro i now session rfl hcall haccepts
  have hlt : i < s.calls.length := (List.getElem?_eq_some_iff.mp hcall).1
  have hstep : PoolCalls.step s (.advance i) =
      { shared := s.shared, calls := s.calls.set i (.inserting now session) } := by
    obtain ⟨henabled, hstatus, hcapacity⟩ := haccepts
    have hallowed : ¬ (session.status ≠ .idle ∧ session.status ≠ .active) :=
      not_and_or.mpr (hstatus.imp not_not.mpr not_not.mpr)
    simp only [PoolCalls.step, Interleaved.step, hcall, move, Option.bind_some, henabled,
      hcapacity, if_neg hallowed, Bool.not_true, Bool.false_eq_true, if_false]
  rw [hstep] at h
  have hchecked : (s.calls.set i (.inserting now session))[i]? = some (.inserting now session) := by
    simp [hlt]
  exact Nat.zero_lt_of_lt (h.hasRoom hchecked).1

/-- A call from which the last place is taken exceeds a limit. -/
theorem takesLastAlone_of_staysWithinLimits {event : PoolEvent}
    (h : StaysWithinLimits (PoolCalls.step s event)) : s.TakesLastAlone event := by
  rintro i now session rfl hcall j now' other hij hother
  rw [step_inserting hcall] at h
  have hother' : (s.calls.set i (.done true))[j]? = some (.inserting now' other) :=
    (List.getElem?_set_ne hij.symm).trans hother
  obtain ⟨hconnection, htotal⟩ := h.hasRoom hother'
  refine ⟨fun hfull hkey => ?_, fun hnew hfull => ?_⟩
  · rw [SessionPool.length_group_insertPooled, if_pos hkey, hkey] at hconnection
    exact absurd hconnection (not_lt.mpr hfull)
  · rw [SessionPool.isPooled_insertPooled, SessionPool.size_insertPooled, if_neg (by simp [hnew])]
      at htotal
    obtain hpooled | hroom := htotal
    · exact hpooled.symm
    · exact absurd hroom (not_lt.mpr hfull)

/-- Throughout a run the limits hold and no call exceeds them in its next section, exactly if
no call passes the check where no session is allowed, and none takes the last place while
another is still to take one there. -/
theorem staysWithinLimits_iff_takesLastAlone (config : SessionPoolConfig)
    (events : List PoolEvent) :
    Always step StaysWithinLimits (new config) events ↔
      Along step (fun _ s event => s.AdmitsAny event ∧ s.TakesLastAlone event) (new config)
        events := by
  refine always_iff_along (A := fun _ _ _ => True) (I := fun _ s => KeepsRoom s)
    (fun _ _ _ => trivial) (keepsRoom_new config) (fun _ _ h => h.staysWithinLimits) ?_ ?_
  · exact fun _ s event h _ hcondition => h.step hcondition.1 hcondition.2
  · intro _ s event _ _ hnot hstays
    exact hnot ⟨admitsAny_of_staysWithinLimits hstays, takesLastAlone_of_staysWithinLimits hstays⟩

def idleSession (id : Nat) : SessionMetadata :=
  { SessionMetadata.new 0 ⟨id⟩ "build" {} [] none with status := .idle }

/-- Both calls check the limits before either pools its session. -/
def bothCheckedLimits : List PoolEvent :=
  [.start (.addSession 0 (idleSession 1)), .start (.addSession 0 (idleSession 2)),
    .advance 0, .advance 1, .advance 0, .advance 1]

/-- Two sessions of one connection are in the pool where one is allowed. -/
theorem withinLimits_bothChecked_false :
    ¬ Always step (fun s => s.shared.WithinLimits) (new { maxSessionsPerConnection := 1 })
      bothCheckedLimits := by
  intro h
  have hlength := h.last.1 (idleSession 1).connectionKey
  exact absurd hlength (by decide)

end PoolCalls

end Yuha
