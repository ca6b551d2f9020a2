import Yuha.Core.Session.Operations

/-!
# The pool as a mirror of the registry

What `find_reusable_session` hands out is only as good as the pool's picture of the
registry. The picture stays true exactly as long as no operation moves a pooled session
to a status, or to metadata, that the pool is not told of.
-/

namespace Yuha

open Library Library.Execution

namespace SessionManager

/-- The session is registered, idle, and of this connection. -/
def Reusable (manager : SessionManager) (key : String) (id : SessionId) : Prop :=
  ∃ metadata, manager.getSession id = some metadata ∧ metadata.status = .idle ∧
    metadata.connectionKey = key

/-- Whatever is in the pool is registered, idle, and listed under its connection key, and
only such sessions are found for reuse. -/
structure MirrorsRegistry (manager : SessionManager) : Prop where
  pooled : ∀ id, manager.pool.isPooled id = true →
    ∃ key, manager.Reusable key id ∧ id ∈ manager.pool.pools.group key
  listed : ∀ key id, id ∈ manager.pool.pools.group key → manager.Reusable key id
  reusable : ∀ now key id, manager.findReusableSession now key = some id →
    manager.Reusable key id

variable {manager : SessionManager}

theorem isPooled_iff {pool : SessionPool} {id : SessionId} :
    pool.isPooled id = true ↔ ∃ key, pool.keyOf id = some key := by
  unfold SessionPool.isPooled SessionPool.keyOf
  cases pool.poolMetadata.lookup id <;> simp

theorem Coherent.mirrorsRegistry (h : manager.Coherent) : manager.MirrorsRegistry where
  pooled id hpooled := by
    obtain ⟨key, hkey⟩ := isPooled_iff.mp hpooled
    exact ⟨key, h.pooled id key hkey, (h.pool.mem_group key id).mpr hkey⟩
  listed key id hmem := h.pooled id key ((h.pool.mem_group key id).mp hmem)
  reusable _ key id hfind := h.pooled id key (h.pool.keyOf_of_findSession hfind)

/-- A listed session that is not idle, or of another connection, spoils the mirror. -/
theorem not_mirrorsRegistry {id : SessionId} {key : String}
    (hlisted : id ∈ manager.pool.pools.group key) {metadata : SessionMetadata}
    (hget : manager.getSession id = some metadata)
    (hwrong : metadata.status = .idle → metadata.connectionKey ≠ key) :
    ¬ manager.MirrorsRegistry := by
  intro h
  obtain ⟨metadata', hget', hidle, hkey⟩ := h.listed key id hlisted
  obtain rfl : metadata = metadata' := Option.some.inj (hget.symm.trans hget')
  exact hwrong hidle hkey

/-- From a coherent manager an operation that does not keep what is pooled leads to a
pool that does not mirror the registry. -/
theorem Coherent.not_mirrorsRegistry_apply (h : manager.Coherent) {op : ManagerOp}
    (hop : ¬ manager.KeepsPooled op) : ¬ (manager.apply op).MirrorsRegistry := by
  obtain ⟨task, ambient⟩ := op
  cases task with
  | updateSessionStatus sessionId status =>
      obtain ⟨hstatus, hpooled⟩ := not_or.mp hop
      obtain ⟨key, hkey⟩ := Option.ne_none_iff_exists'.mp hpooled
      obtain ⟨metadata, hget, _⟩ := h.pooled sessionId key hkey
      have hpool : (manager.updateSessionStatus ambient.now sessionId status).2.pool =
          manager.pool := by
        rw [updateSessionStatus_of_some hget]
        cases status <;> first | rfl | exact absurd trivial hstatus
      have hafter : (manager.updateSessionStatus ambient.now sessionId status).2.getSession
          sessionId = some (metadata.setStatus ambient.now status) := by
        simp [getSession_updateSessionStatus, hget]
      have hlisted : sessionId ∈
          (manager.updateSessionStatus ambient.now sessionId status).2.pool.pools.group key :=
        hpool.symm ▸ (h.pool.mem_group key sessionId).mpr hkey
      apply not_mirrorsRegistry hlisted hafter
      rintro rfl
      exact absurd trivial hstatus
  | updateSessionMetadata sessionId metadata =>
      simp only [KeepsPooled, not_forall] at hop
      obtain ⟨hid, key, hkey, hwrong⟩ := hop
      obtain ⟨oldMetadata, hget, _⟩ := h.pooled sessionId key hkey
      have hafter : (manager.updateSessionMetadata sessionId metadata).2.getSession sessionId =
          some metadata := by
        simp [getSession_updateSessionMetadata, hid, hget]
      refine not_mirrorsRegistry ((h.pool.mem_group key sessionId).mpr hkey) hafter ?_
      exact fun hidle hsame => hwrong ⟨hidle, hsame⟩
  | createSession | useSession | closeSession | connectOrCreateSession | cleanup =>
      exact absurd trivial hop

/-- The pool mirrors the registry throughout a run exactly if every operation of it keeps
what the pool knows. -/
theorem mirrorsRegistry_iff_keepsPooled (config : SessionManagerConfig) (ops : List ManagerOp)
    (hfresh : (ManagerOp.issuedIds ops).Nodup) :
    Always apply MirrorsRegistry (new config) ops ↔
      Along apply (fun _ manager op => manager.KeepsPooled op) (new config) ops := by
  let I : List ManagerOp → SessionManager → Prop := fun past manager =>
    manager.Coherent ∧ manager.RegistersWithin (ManagerOp.issuedIds past)
  refine always_iff_along (I := I) (along_fresh (new config) hfresh)
    ⟨coherent_new config, registersWithin_new config⟩
    (fun _ _ h => h.1.mirrorsRegistry) ?_ ?_
  · rintro past manager op ⟨hcoherent, hwithin⟩ hnew hkeeps
    refine ⟨hcoherent.apply ?_ hkeeps, hwithin.apply op⟩
    exact hwithin.getSession_eq_none hnew
  · rintro past manager op ⟨hcoherent, _⟩ _ hkeeps
    exact hcoherent.not_mirrorsRegistry_apply hkeeps

/-- Create a session, connect it, and leave it idle. -/
def idleOps : List ManagerOp :=
  [(ManagerTask.createSession "build" {} [] none).atSeconds 0 1,
    (ManagerTask.updateSessionStatus ⟨1⟩ .active).atSeconds 1 2,
    (ManagerTask.updateSessionStatus ⟨1⟩ .idle).atSeconds 2 3]

theorem mirrorsRegistry_iff_keepsPooled_idle :
    Always apply MirrorsRegistry (new {}) idleOps := by
  apply (mirrorsRegistry_iff_keepsPooled {} idleOps (by decide)).mpr
  exact along_cons.mpr ⟨trivial, along_cons.mpr ⟨Or.inl trivial,
    along_cons.mpr ⟨Or.inl trivial, along_nil⟩⟩⟩

/-- The idle session starts to reconnect, or is given the metadata of another connection.
It stays in the pool, and is found for the old connection. -/
theorem mirrorsRegistry_false :
    ¬ Always apply MirrorsRegistry (new {})
        (idleOps ++ [(ManagerTask.updateSessionStatus ⟨1⟩ .reconnecting).atSeconds 3 4]) ∧
      ¬ Always apply MirrorsRegistry (new {})
        (idleOps ++ [(ManagerTask.updateSessionMetadata ⟨1⟩
          ((SessionMetadata.new 0 ⟨1⟩ "build" { transportType := .ssh } [] none).setStatus 0
            .idle)).atSeconds 3 4]) := by
  constructor
  · intro h
    obtain ⟨metadata, hget, hidle, _⟩ := h.last.reusable (Duration.fromSecs 10)
      "local://yuha-remote" ⟨1⟩ (by decide)
    obtain rfl := Option.some.inj hget
    exact absurd hidle (by decide)
  · intro h
    obtain ⟨metadata, hget, _, hkey⟩ := h.last.reusable (Duration.fromSecs 10)
      "local://yuha-remote" ⟨1⟩ (by decide)
    obtain rfl := Option.some.inj hget
    exact absurd hkey (by decide)

end SessionManager

end Yuha
