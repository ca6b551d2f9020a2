import Yuha.Core.Session.Registry
import Yuha.Library.ExactIndex
import Yuha.Library.Execution

/-!
# The indexes of the registry

Run one after another, the operations of the registry keep both indexes exact, so a
lookup through an index answers as a scan of all sessions would.
-/

namespace Yuha

open Library Library.Execution

inductive RegistryOp
  | register (metadata : SessionMetadata)
  | unregister (sessionId : SessionId)
  | update (sessionId : SessionId) (metadata : SessionMetadata)
  | updateStatus (now : SystemTime) (sessionId : SessionId) (status : SessionStatus)
  | markUsed (now : SystemTime) (sessionId : SessionId)
  | clear

namespace SessionRegistry

def apply (registry : SessionRegistry) : RegistryOp → SessionRegistry
  | .register metadata => (registry.register metadata).2
  | .unregister sessionId => (registry.unregister sessionId).2
  | .update sessionId metadata => (registry.update sessionId metadata).2
  | .updateStatus now sessionId status => (registry.updateStatus now sessionId status).2
  | .markUsed now sessionId => (registry.markUsed now sessionId).2
  | .clear => registry.clear

@[simp] theorem apply_config (registry : SessionRegistry) (op : RegistryOp) :
    (registry.apply op).config = registry.config := by
  cases op <;> simp [apply, updateStatus, markUsed]

theorem run_config (registry : SessionRegistry) (ops : List RegistryOp) :
    (run apply registry ops).config = registry.config := by
  induction ops generalizing registry with
  | nil => rfl
  | cons op ops ih => rw [run_cons, ih, apply_config]

/-! ## What each operation does to the indexes -/

section Indexes

variable {registry : SessionRegistry}

theorem indexName_nameIndex (registry : SessionRegistry) (metadata : SessionMetadata) :
    (registry.indexName metadata).nameIndex =
      if registry.config.enableNameIndex then
        registry.nameIndex.push metadata.name metadata.id
      else registry.nameIndex := by
  unfold indexName
  split <;> rfl

theorem unindexName_nameIndex (registry : SessionRegistry) (metadata : SessionMetadata)
    (sessionId : SessionId) :
    (registry.unindexName metadata sessionId).nameIndex =
      if registry.config.enableNameIndex then
        registry.nameIndex.discard metadata.name sessionId
      else registry.nameIndex := by
  unfold unindexName
  split <;> rfl

theorem moveName_nameIndex (registry : SessionRegistry) (sessionId : SessionId)
    (oldMetadata metadata : SessionMetadata) :
    (registry.moveName sessionId oldMetadata metadata).nameIndex =
      if registry.config.enableNameIndex ∧ oldMetadata.name ≠ metadata.name then
        (registry.nameIndex.discard oldMetadata.name sessionId).push metadata.name sessionId
      else registry.nameIndex := by
  unfold moveName
  split <;> rfl

theorem moveConnection_connectionIndex (registry : SessionRegistry) (sessionId : SessionId)
    (oldMetadata metadata : SessionMetadata) :
    (registry.moveConnection sessionId oldMetadata metadata).connectionIndex =
      if oldMetadata.connectionKey ≠ metadata.connectionKey then
        (registry.connectionIndex.discard oldMetadata.connectionKey sessionId).push
          metadata.connectionKey sessionId
      else registry.connectionIndex := by
  unfold moveConnection
  split <;> rfl

theorem register_connectionIndex_of_ok {metadata : SessionMetadata}
    (h : registry.checkRegister metadata = .ok ()) :
    (registry.register metadata).2.connectionIndex =
      registry.connectionIndex.push metadata.connectionKey metadata.id := by
  simp [register, h, indexConnection, insertSession, SessionMetadata.connectionKey]

theorem register_nameIndex_of_ok {metadata : SessionMetadata}
    (h : registry.checkRegister metadata = .ok ()) :
    (registry.register metadata).2.nameIndex =
      if registry.config.enableNameIndex then
        registry.nameIndex.push metadata.name metadata.id
      else registry.nameIndex := by
  simp [register, h, indexConnection, indexName_nameIndex, insertSession]

theorem unregister_connectionIndex_of_some {sessionId : SessionId}
    {metadata : SessionMetadata} (h : registry.get sessionId = some metadata) :
    (registry.unregister sessionId).2.connectionIndex =
      registry.connectionIndex.discard metadata.connectionKey sessionId := by
  unfold get at h
  simp [unregister, h, unindexConnection, removeSession]

theorem unregister_nameIndex_of_some {sessionId : SessionId}
    {metadata : SessionMetadata} (h : registry.get sessionId = some metadata) :
    (registry.unregister sessionId).2.nameIndex =
      if registry.config.enableNameIndex then
        registry.nameIndex.discard metadata.name sessionId
      else registry.nameIndex := by
  unfold get at h
  simp [unregister, h, unindexConnection, unindexName_nameIndex, removeSession]

theorem get_update_of_some {metadata oldMetadata : SessionMetadata}
    (h : registry.get metadata.id = some oldMetadata) (id : SessionId) :
    (registry.update metadata.id metadata).2.get id =
      if id = metadata.id then some metadata else registry.get id := by
  rw [get_update]
  by_cases hid : id = metadata.id
  · subst hid
    simp [h]
  · simp [hid]

@[simp] theorem modify_connectionIndex (sessionId : SessionId)
    (f : SessionMetadata → SessionMetadata) :
    (registry.modify sessionId f).2.connectionIndex = registry.connectionIndex := by
  unfold modify
  split <;> rfl

@[simp] theorem modify_nameIndex (sessionId : SessionId)
    (f : SessionMetadata → SessionMetadata) :
    (registry.modify sessionId f).2.nameIndex = registry.nameIndex := by
  unfold modify
  split <;> rfl

theorem update_connectionIndex_of_some {metadata oldMetadata : SessionMetadata}
    (h : registry.get metadata.id = some oldMetadata) :
    (registry.update metadata.id metadata).2.connectionIndex =
      if oldMetadata.connectionKey ≠ metadata.connectionKey then
        (registry.connectionIndex.discard oldMetadata.connectionKey metadata.id).push
          metadata.connectionKey metadata.id
      else registry.connectionIndex := by
  rw [update_of_some h]
  simp only [insertSession, moveName_connectionIndex, moveConnection]
  split <;> rfl

theorem update_nameIndex_of_some {metadata oldMetadata : SessionMetadata}
    (h : registry.get metadata.id = some oldMetadata) :
    (registry.update metadata.id metadata).2.nameIndex =
      if registry.config.enableNameIndex ∧ oldMetadata.name ≠ metadata.name then
        (registry.nameIndex.discard oldMetadata.name metadata.id).push
          metadata.name metadata.id
      else registry.nameIndex := by
  rw [update_of_some h]
  simp [insertSession, moveName_nameIndex]

end Indexes

/-! ## Exact indexes -/

/-- Both indexes are exact; the one of names is only kept where it is enabled. -/
structure Indexed (registry : SessionRegistry) : Prop where
  id_eq : ∀ id metadata, registry.get id = some metadata → metadata.id = id
  connection : registry.connectionIndex.Indexes fun id =>
    (registry.get id).map (·.connectionKey)
  name : registry.config.enableNameIndex = true →
    registry.nameIndex.Indexes fun id => (registry.get id).map (·.name)

theorem indexed_new (config : SessionRegistryConfig) : (new config).Indexed where
  id_eq id metadata h := by simp at h
  connection := GroupedIndex.indexes_empty fun _ => rfl
  name _ := GroupedIndex.indexes_empty fun _ => rfl

theorem indexed_clear (registry : SessionRegistry) : registry.clear.Indexed where
  id_eq id metadata h := by simp at h
  connection := GroupedIndex.indexes_empty fun _ => rfl
  name _ := GroupedIndex.indexes_empty fun _ => rfl

variable {registry : SessionRegistry}

/-- `register` may take any identifier that is not in use. -/
theorem Indexed.register (h : registry.Indexed) {metadata : SessionMetadata}
    (hfresh : registry.get metadata.id = none) : (registry.register metadata).2.Indexed := by
  cases hcheck : registry.checkRegister metadata with
  | error e => rwa [register_of_error hcheck]
  | ok _ =>
      have hget := get_register_of_ok hcheck
      refine ⟨?_, ?_, fun henabled => ?_⟩
      · intro id metadata' hid
        rw [hget] at hid
        split at hid
        · next heq =>
            obtain rfl := Option.some.inj hid
            rw [heq, SessionMetadata.asRegistered_id]
        · exact h.id_eq id metadata' hid
      · rw [register_connectionIndex_of_ok hcheck]
        refine h.connection.push (by simp [hfresh]) fun id => ?_
        rw [hget]
        split
        · simp [SessionMetadata.connectionKey]
        · rfl
      · rw [register_config] at henabled
        rw [register_nameIndex_of_ok hcheck, if_pos henabled]
        refine (h.name henabled).push (by simp [hfresh]) fun id => ?_
        rw [hget]
        split <;> simp

theorem Indexed.unregister (h : registry.Indexed) (sessionId : SessionId) :
    (registry.unregister sessionId).2.Indexed := by
  cases hsome : registry.get sessionId with
  | none => rwa [unregister_of_none hsome]
  | some metadata =>
      have hget := get_unregister registry sessionId
      refine ⟨?_, ?_, fun henabled => ?_⟩
      · intro id metadata' hid
        rw [hget] at hid
        split at hid
        · cases hid
        · exact h.id_eq id metadata' hid
      · rw [unregister_connectionIndex_of_some hsome]
        refine h.connection.discard (by simp [hsome]) fun id => ?_
        rw [hget]
        split <;> rfl
      · rw [unregister_config] at henabled
        rw [unregister_nameIndex_of_some hsome, if_pos henabled]
        refine (h.name henabled).discard (by simp [hsome]) fun id => ?_
        rw [hget]
        split <;> rfl

/-- A change in place keeps the indexes if it keeps what they are built from. -/
theorem Indexed.modify (h : registry.Indexed) (sessionId : SessionId)
    {f : SessionMetadata → SessionMetadata} (hid : ∀ metadata, (f metadata).id = metadata.id)
    (hname : ∀ metadata, (f metadata).name = metadata.name)
    (hkey : ∀ metadata, (f metadata).connectionKey = metadata.connectionKey) :
    (registry.modify sessionId f).2.Indexed := by
  have hget := get_modify registry sessionId f
  refine ⟨?_, ?_, fun henabled => ?_⟩
  · intro id metadata' hsome
    rw [hget] at hsome
    split at hsome
    · obtain ⟨metadata, hmetadata, rfl⟩ := Option.map_eq_some_iff.mp hsome
      rw [hid]
      exact h.id_eq id metadata hmetadata
    · exact h.id_eq id metadata' hsome
  · rw [modify_connectionIndex]
    refine h.connection.congr fun id => ?_
    rw [hget]
    split
    · simp [Function.comp_def, hkey]
    · rfl
  · rw [modify_config] at henabled
    rw [modify_nameIndex]
    refine (h.name henabled).congr fun id => ?_
    rw [hget]
    split
    · simp [Function.comp_def, hname]
    · rfl

theorem Indexed.update (h : registry.Indexed) (sessionId : SessionId)
    (metadata : SessionMetadata) : (registry.update sessionId metadata).2.Indexed := by
  rcases registry.update_cases sessionId metadata with ⟨hsame, _⟩ | ⟨oldMetadata, rfl, hsome⟩
  · rwa [hsame]
  · have hget := get_update_of_some hsome
    refine ⟨?_, ?_, fun henabled => ?_⟩
    · intro id metadata' hid
      rw [hget] at hid
      split at hid
      · next heq =>
          obtain rfl := Option.some.inj hid
          exact heq.symm
      · exact h.id_eq id metadata' hid
    · rw [update_connectionIndex_of_some hsome]
      refine h.connection.moveTo (by simp [hsome]) fun id => ?_
      rw [hget]
      split <;> rfl
    · rw [update_config] at henabled
      rw [update_nameIndex_of_some hsome]
      simp only [henabled, true_and]
      refine (h.name henabled).moveTo (by simp [hsome]) fun id => ?_
      rw [hget]
      split <;> rfl

/-- `register` is called with an identifier that is not in use, as it is if the
identifier was never registered before. -/
def RegistersFresh (registry : SessionRegistry) : RegistryOp → Prop
  | .register metadata => registry.get metadata.id = none
  | _ => True

theorem Indexed.apply (h : registry.Indexed) {op : RegistryOp}
    (hfresh : registry.RegistersFresh op) : (registry.apply op).Indexed := by
  cases op with
  | register metadata => exact h.register hfresh
  | unregister sessionId => exact h.unregister sessionId
  | update sessionId metadata => exact h.update sessionId metadata
  | updateStatus now sessionId status =>
      exact h.modify sessionId (fun _ => rfl) (fun _ => rfl) fun _ => rfl
  | markUsed now sessionId =>
      exact h.modify sessionId (fun _ => rfl) (fun _ => rfl) fun _ => rfl
  | clear => exact indexed_clear registry

theorem indexed_run {config : SessionRegistryConfig} {ops : List RegistryOp}
    (hfresh : Along apply (fun _ registry op => registry.RegistersFresh op) (new config) ops) :
    (run apply (new config) ops).Indexed :=
  hfresh.invariant (I := fun _ registry => registry.Indexed) (indexed_new config)
    (fun _ _ _ h hop => h.apply hop) ops (List.prefix_refl ops)

theorem listByConnectionKey_eq (registry : SessionRegistry) (key : String) :
    registry.listByConnectionKey key =
      (registry.connectionIndex.group key).filterMap registry.get := by
  unfold listByConnectionKey GroupedIndex.group
  cases registry.connectionIndex.lookup key <;> rfl

theorem listByName_eq (henabled : registry.config.enableNameIndex = true)
    (rank : SessionId → Nat) (name : String) :
    registry.listByName rank name = (registry.nameIndex.group name).filterMap registry.get := by
  unfold listByName GroupedIndex.group
  rw [if_pos henabled]
  cases registry.nameIndex.lookup name <;> rfl

theorem Indexed.listByConnectionKey_perm (h : registry.Indexed) (rank : SessionId → Nat)
    (key : String) :
    (registry.listByConnectionKey key).Perm
      ((registry.listAll rank).filter fun metadata =>
        decide (metadata.connectionKey = key)) := by
  rw [listByConnectionKey_eq]
  exact h.connection.filterMap_perm rank key

theorem Indexed.listByName_perm (h : registry.Indexed) (rank : SessionId → Nat)
    (name : String) :
    (registry.listByName rank name).Perm
      ((registry.listAll rank).filter fun metadata => decide (metadata.name = name)) := by
  by_cases henabled : registry.config.enableNameIndex = true
  · rw [listByName_eq henabled]
    exact (h.name henabled).filterMap_perm rank name
  · unfold listByName
    rw [if_neg henabled]

/-- After any sequence of operations the lookups by connection key and by name answer as
a scan of all sessions would, and the indexes hold nothing else. -/
theorem listings_perm_scan (config : SessionRegistryConfig) (ops : List RegistryOp)
    (hfresh : Along apply (fun _ registry op => registry.RegistersFresh op) (new config) ops)
    (rank : SessionId → Nat) :
    let registry := run apply (new config) ops
    (∀ key, (registry.listByConnectionKey key).Perm
      ((registry.listAll rank).filter fun metadata =>
        decide (metadata.connectionKey = key))) ∧
    (∀ name, (registry.listByName rank name).Perm
      ((registry.listAll rank).filter fun metadata => decide (metadata.name = name))) ∧
    registry.connectionIndex.Indexes (fun id => (registry.get id).map (·.connectionKey)) ∧
    (config.enableNameIndex = true →
      registry.nameIndex.Indexes fun id => (registry.get id).map (·.name)) := by
  have h := indexed_run hfresh
  refine ⟨h.listByConnectionKey_perm rank, h.listByName_perm rank, h.connection, ?_⟩
  intro henabled
  apply h.name
  rw [run_config]
  exact henabled

/-- Two sessions share a name, one of them is renamed, the other one leaves. -/
def renameOps : List RegistryOp :=
  [.register (.new 0 ⟨1⟩ "build" {} [] none), .register (.new 0 ⟨2⟩ "build" {} [] none),
    .update ⟨1⟩ (.new 0 ⟨1⟩ "test" {} [] none), .unregister ⟨2⟩]

theorem listings_perm_scan_rename :
    let registry := run apply (new {}) renameOps
    (∀ key, (registry.listByConnectionKey key).Perm
      ((registry.listAll fun _ => 0).filter fun metadata =>
        decide (metadata.connectionKey = key))) ∧
    (∀ name, (registry.listByName (fun _ => 0) name).Perm
      ((registry.listAll fun _ => 0).filter fun metadata =>
        decide (metadata.name = name))) ∧
    registry.connectionIndex.Indexes (fun id => (registry.get id).map (·.connectionKey)) ∧
    (true = true → registry.nameIndex.Indexes fun id => (registry.get id).map (·.name)) := by
  refine listings_perm_scan {} renameOps ?_ fun _ => 0
  exact along_cons.mpr ⟨rfl, along_cons.mpr ⟨rfl, along_cons.mpr ⟨trivial,
    along_cons.mpr ⟨trivial, along_nil⟩⟩⟩⟩

end SessionRegistry

end Yuha
