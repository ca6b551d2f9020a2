import Yuha.Core.Error
import Yuha.Core.Session.Metadata

/-!
# The session registry

A registry keeps the metadata of the sessions and two indexes of their identifiers.
`register` and `unregister` take their locks one after the other; each stretch under
one lock is a definition of its own.
-/

namespace Yuha

open Library

structure SessionRegistryConfig where
  maxSessions : Nat := 1000
  allowDuplicateNames : Bool := true
  enableNameIndex : Bool := true
  deriving DecidableEq, Repr

structure SessionRegistry where
  config : SessionRegistryConfig
  sessions : HashMap SessionId SessionMetadata := ∅
  nameIndex : GroupedIndex String SessionId := ∅
  connectionIndex : GroupedIndex String SessionId := ∅

/-- The metadata as it is stored: a session that is being created is now connecting. -/
def SessionMetadata.asRegistered (metadata : SessionMetadata) : SessionMetadata :=
  if metadata.status = .creating then { metadata with status := .connecting } else metadata

@[simp] theorem SessionMetadata.asRegistered_id (metadata : SessionMetadata) :
    metadata.asRegistered.id = metadata.id := by
  unfold asRegistered
  split <;> rfl

@[simp] theorem SessionMetadata.asRegistered_name (metadata : SessionMetadata) :
    metadata.asRegistered.name = metadata.name := by
  unfold asRegistered
  split <;> rfl

@[simp] theorem SessionMetadata.asRegistered_transportConfig (metadata : SessionMetadata) :
    metadata.asRegistered.transportConfig = metadata.transportConfig := by
  unfold asRegistered
  split <;> rfl

namespace SessionRegistry

def new (config : SessionRegistryConfig) : SessionRegistry := { config := config }

def get (registry : SessionRegistry) (sessionId : SessionId) : Option SessionMetadata :=
  registry.sessions.lookup sessionId

/-- The checks `register` makes under its read locks. -/
def checkRegister (registry : SessionRegistry) (metadata : SessionMetadata) :
    Except SessionError Unit :=
  if registry.config.maxSessions ≤ registry.sessions.size then
    .error (.maxSessionsReached registry.config.maxSessions)
  else if !registry.config.allowDuplicateNames
      && !(registry.nameIndex.group metadata.name).isEmpty then
    .error (.alreadyExists metadata.name)
  else
    .ok ()

def insertSession (registry : SessionRegistry) (metadata : SessionMetadata) : SessionRegistry :=
  { registry with sessions := AList.insert metadata.id metadata registry.sessions }

def indexName (registry : SessionRegistry) (metadata : SessionMetadata) : SessionRegistry :=
  if registry.config.enableNameIndex then
    { registry with nameIndex := registry.nameIndex.push metadata.name metadata.id }
  else
    registry

def indexConnection (registry : SessionRegistry) (metadata : SessionMetadata) :
    SessionRegistry :=
  { registry with
    connectionIndex := registry.connectionIndex.push metadata.connectionKey metadata.id }

def register (registry : SessionRegistry) (metadata : SessionMetadata) :
    Except SessionError SessionId × SessionRegistry :=
  match registry.checkRegister metadata with
  | .error e => (.error e, registry)
  | .ok () =>
      let metadata := metadata.asRegistered
      (.ok metadata.id,
        ((registry.insertSession metadata).indexName metadata).indexConnection metadata)

def removeSession (registry : SessionRegistry) (sessionId : SessionId) : SessionRegistry :=
  { registry with sessions := AList.erase sessionId registry.sessions }

def unindexName (registry : SessionRegistry) (metadata : SessionMetadata)
    (sessionId : SessionId) : SessionRegistry :=
  if registry.config.enableNameIndex then
    { registry with nameIndex := registry.nameIndex.discard metadata.name sessionId }
  else
    registry

def unindexConnection (registry : SessionRegistry) (metadata : SessionMetadata)
    (sessionId : SessionId) : SessionRegistry :=
  { registry with
    connectionIndex := registry.connectionIndex.discard metadata.connectionKey sessionId }

def unregister (registry : SessionRegistry) (sessionId : SessionId) :
    Option SessionMetadata × SessionRegistry :=
  match registry.sessions.lookup sessionId with
  | none => (none, registry)
  | some metadata =>
      (some metadata, ((registry.removeSession sessionId).unindexName metadata
        sessionId).unindexConnection metadata sessionId)

/-- `get_mut` followed by an update in place. -/
def modify (registry : SessionRegistry) (sessionId : SessionId)
    (f : SessionMetadata → SessionMetadata) : Except SessionError Unit × SessionRegistry :=
  match registry.sessions.lookup sessionId with
  | some metadata =>
      (.ok (), { registry with
        sessions := AList.insert sessionId (f metadata) registry.sessions })
  | none => (.error (.notFound sessionId.toString), registry)

def updateStatus (registry : SessionRegistry) (now : SystemTime) (sessionId : SessionId)
    (status : SessionStatus) : Except SessionError Unit × SessionRegistry :=
  registry.modify sessionId (·.setStatus now status)

def markUsed (registry : SessionRegistry) (now : SystemTime) (sessionId : SessionId) :
    Except SessionError Unit × SessionRegistry :=
  registry.modify sessionId (·.markUsed now)

/-- `update` takes a session out of the group of its old connection key and files it
under the new one. -/
def moveConnection (registry : SessionRegistry) (sessionId : SessionId)
    (oldMetadata metadata : SessionMetadata) : SessionRegistry :=
  if oldMetadata.connectionKey ≠ metadata.connectionKey then
    { registry with
      connectionIndex := (registry.connectionIndex.discard oldMetadata.connectionKey
        sessionId).push metadata.connectionKey sessionId }
  else
    registry

def moveName (registry : SessionRegistry) (sessionId : SessionId)
    (oldMetadata metadata : SessionMetadata) : SessionRegistry :=
  if registry.config.enableNameIndex ∧ oldMetadata.name ≠ metadata.name then
    { registry with
      nameIndex := (registry.nameIndex.discard oldMetadata.name sessionId).push
        metadata.name sessionId }
  else
    registry

def update (registry : SessionRegistry) (sessionId : SessionId) (metadata : SessionMetadata) :
    Except SessionError Unit × SessionRegistry :=
  if metadata.id ≠ sessionId then
    (.error (.invalidState "metadata ID mismatch" "matching session ID"), registry)
  else
    match registry.sessions.lookup sessionId with
    | some oldMetadata =>
        (.ok (), ((registry.moveConnection sessionId oldMetadata metadata).moveName sessionId
          oldMetadata metadata).insertSession metadata)
    | none => (.error (.notFound sessionId.toString), registry)

def clear (registry : SessionRegistry) : SessionRegistry :=
  { registry with sessions := ∅, nameIndex := ∅, connectionIndex := ∅ }

/-- All metadata, in the order the map iterates. -/
def listAll (registry : SessionRegistry) (rank : SessionId → Nat) : List SessionMetadata :=
  (registry.sessions.listing rank).map Sigma.snd

/-- The sessions of a name: through the index, or by a linear search without it. -/
def listByName (registry : SessionRegistry) (rank : SessionId → Nat) (name : String) :
    List SessionMetadata :=
  if registry.config.enableNameIndex then
    match registry.nameIndex.lookup name with
    | some sessionIds => sessionIds.filterMap registry.get
    | none => []
  else
    (registry.listAll rank).filter fun metadata => decide (metadata.name = name)

def listByConnectionKey (registry : SessionRegistry) (connectionKey : String) :
    List SessionMetadata :=
  match registry.connectionIndex.lookup connectionKey with
  | some sessionIds => sessionIds.filterMap registry.get
  | none => []

def count (registry : SessionRegistry) : Nat := registry.sessions.size

def countByStatus (registry : SessionRegistry) (status : SessionStatus) : Nat :=
  registry.sessions.count fun metadata => decide (metadata.status = status)

/-! ## What each operation does to a lookup -/

@[simp] theorem get_new (config : SessionRegistryConfig) (id : SessionId) :
    (new config).get id = none := rfl

@[simp] theorem indexName_sessions (registry : SessionRegistry) (metadata : SessionMetadata) :
    (registry.indexName metadata).sessions = registry.sessions := by
  unfold indexName
  split <;> rfl

@[simp] theorem unindexName_sessions (registry : SessionRegistry)
    (metadata : SessionMetadata) (sessionId : SessionId) :
    (registry.unindexName metadata sessionId).sessions = registry.sessions := by
  unfold unindexName
  split <;> rfl

@[simp] theorem indexName_connectionIndex (registry : SessionRegistry)
    (metadata : SessionMetadata) :
    (registry.indexName metadata).connectionIndex = registry.connectionIndex := by
  unfold indexName
  split <;> rfl

@[simp] theorem unindexName_connectionIndex (registry : SessionRegistry)
    (metadata : SessionMetadata) (sessionId : SessionId) :
    (registry.unindexName metadata sessionId).connectionIndex = registry.connectionIndex := by
  unfold unindexName
  split <;> rfl

@[simp] theorem moveConnection_sessions (registry : SessionRegistry) (sessionId : SessionId)
    (oldMetadata metadata : SessionMetadata) :
    (registry.moveConnection sessionId oldMetadata metadata).sessions = registry.sessions := by
  unfold moveConnection
  split <;> rfl

@[simp] theorem moveConnection_nameIndex (registry : SessionRegistry) (sessionId : SessionId)
    (oldMetadata metadata : SessionMetadata) :
    (registry.moveConnection sessionId oldMetadata metadata).nameIndex =
      registry.nameIndex := by
  unfold moveConnection
  split <;> rfl

@[simp] theorem moveName_sessions (registry : SessionRegistry) (sessionId : SessionId)
    (oldMetadata metadata : SessionMetadata) :
    (registry.moveName sessionId oldMetadata metadata).sessions = registry.sessions := by
  unfold moveName
  split <;> rfl

@[simp] theorem moveName_connectionIndex (registry : SessionRegistry) (sessionId : SessionId)
    (oldMetadata metadata : SessionMetadata) :
    (registry.moveName sessionId oldMetadata metadata).connectionIndex =
      registry.connectionIndex := by
  unfold moveName
  split <;> rfl

theorem get_insertSession (registry : SessionRegistry) (metadata : SessionMetadata)
    (id : SessionId) : (registry.insertSession metadata).get id =
      if id = metadata.id then some metadata else registry.get id := by
  simp [get, insertSession, HashMap.lookup_insert_ite]

theorem get_removeSession (registry : SessionRegistry) (sessionId id : SessionId) :
    (registry.removeSession sessionId).get id =
      if id = sessionId then none else registry.get id := by
  simp [get, removeSession, HashMap.lookup_erase_ite]

@[simp] theorem get_indexName (registry : SessionRegistry) (metadata : SessionMetadata)
    (id : SessionId) : (registry.indexName metadata).get id = registry.get id := by
  simp [get]

@[simp] theorem get_indexConnection (registry : SessionRegistry) (metadata : SessionMetadata)
    (id : SessionId) : (registry.indexConnection metadata).get id = registry.get id := rfl

@[simp] theorem get_unindexName (registry : SessionRegistry) (metadata : SessionMetadata)
    (sessionId id : SessionId) :
    (registry.unindexName metadata sessionId).get id = registry.get id := by
  simp [get]

@[simp] theorem get_unindexConnection (registry : SessionRegistry)
    (metadata : SessionMetadata) (sessionId id : SessionId) :
    (registry.unindexConnection metadata sessionId).get id = registry.get id := rfl

@[simp] theorem get_moveConnection (registry : SessionRegistry) (sessionId : SessionId)
    (oldMetadata metadata : SessionMetadata) (id : SessionId) :
    (registry.moveConnection sessionId oldMetadata metadata).get id = registry.get id := by
  simp [get]

@[simp] theorem get_moveName (registry : SessionRegistry) (sessionId : SessionId)
    (oldMetadata metadata : SessionMetadata) (id : SessionId) :
    (registry.moveName sessionId oldMetadata metadata).get id = registry.get id := by
  simp [get]

/-! No operation changes the configuration. -/

@[simp] theorem new_config (config : SessionRegistryConfig) : (new config).config = config := rfl

@[simp] theorem insertSession_config (registry : SessionRegistry)
    (metadata : SessionMetadata) : (registry.insertSession metadata).config = registry.config :=
  rfl

@[simp] theorem indexName_config (registry : SessionRegistry) (metadata : SessionMetadata) :
    (registry.indexName metadata).config = registry.config := by
  unfold indexName
  split <;> rfl

@[simp] theorem unindexName_config (registry : SessionRegistry) (metadata : SessionMetadata)
    (sessionId : SessionId) :
    (registry.unindexName metadata sessionId).config = registry.config := by
  unfold unindexName
  split <;> rfl

@[simp] theorem moveConnection_config (registry : SessionRegistry) (sessionId : SessionId)
    (oldMetadata metadata : SessionMetadata) :
    (registry.moveConnection sessionId oldMetadata metadata).config = registry.config := by
  unfold moveConnection
  split <;> rfl

@[simp] theorem moveName_config (registry : SessionRegistry) (sessionId : SessionId)
    (oldMetadata metadata : SessionMetadata) :
    (registry.moveName sessionId oldMetadata metadata).config = registry.config := by
  unfold moveName
  split <;> rfl

@[simp] theorem register_config (registry : SessionRegistry) (metadata : SessionMetadata) :
    (registry.register metadata).2.config = registry.config := by
  unfold register
  split
  · rfl
  · simp [indexConnection]

@[simp] theorem unregister_config (registry : SessionRegistry) (sessionId : SessionId) :
    (registry.unregister sessionId).2.config = registry.config := by
  unfold unregister
  split
  · rfl
  · simp [unindexConnection, removeSession]

@[simp] theorem modify_config (registry : SessionRegistry) (sessionId : SessionId)
    (f : SessionMetadata → SessionMetadata) :
    (registry.modify sessionId f).2.config = registry.config := by
  unfold modify
  split <;> rfl

@[simp] theorem update_config (registry : SessionRegistry) (sessionId : SessionId)
    (metadata : SessionMetadata) :
    (registry.update sessionId metadata).2.config = registry.config := by
  unfold update
  split
  · rfl
  split
  · simp
  · rfl

@[simp] theorem clear_config (registry : SessionRegistry) :
    registry.clear.config = registry.config := rfl

theorem checkRegister_eq_ok_iff (registry : SessionRegistry) (metadata : SessionMetadata) :
    registry.checkRegister metadata = .ok () ↔
      registry.sessions.size < registry.config.maxSessions ∧
        (registry.config.allowDuplicateNames = true ∨
          registry.nameIndex.group metadata.name = []) := by
  unfold checkRegister
  by_cases hsize : registry.config.maxSessions ≤ registry.sessions.size
  · simp [hsize]
  · cases hduplicates : registry.config.allowDuplicateNames <;>
      cases hgroup : registry.nameIndex.group metadata.name <;>
      simp [hsize, Nat.lt_of_not_le hsize]

theorem register_of_error {registry : SessionRegistry} {metadata : SessionMetadata}
    {e : SessionError} (h : registry.checkRegister metadata = .error e) :
    registry.register metadata = (.error e, registry) := by
  simp [register, h]

theorem register_fst_of_ok {registry : SessionRegistry} {metadata : SessionMetadata}
    (h : registry.checkRegister metadata = .ok ()) :
    (registry.register metadata).1 = .ok metadata.id := by
  simp [register, h]

theorem get_register_of_ok {registry : SessionRegistry} {metadata : SessionMetadata}
    (h : registry.checkRegister metadata = .ok ()) (id : SessionId) :
    (registry.register metadata).2.get id =
      if id = metadata.id then some metadata.asRegistered else registry.get id := by
  simp [register, h, get, indexConnection, insertSession, HashMap.lookup_insert_ite]

theorem unregister_fst (registry : SessionRegistry) (id : SessionId) :
    (registry.unregister id).1 = registry.get id := by
  unfold unregister get
  cases registry.sessions.lookup id <;> rfl

theorem unregister_of_none {registry : SessionRegistry} {sessionId : SessionId}
    (h : registry.get sessionId = none) : registry.unregister sessionId = (none, registry) := by
  unfold get at h
  simp [unregister, h]

theorem get_unregister (registry : SessionRegistry) (sessionId id : SessionId) :
    (registry.unregister sessionId).2.get id =
      if id = sessionId then none else registry.get id := by
  unfold unregister
  cases h : registry.sessions.lookup sessionId with
  | none =>
      by_cases hid : id = sessionId
      · subst hid
        simpa [get] using h
      · simp [hid]
  | some metadata =>
      simp [get, unindexConnection, removeSession, HashMap.lookup_erase_ite]

theorem modify_fst_of_some {registry : SessionRegistry} {sessionId : SessionId}
    {f : SessionMetadata → SessionMetadata} {metadata : SessionMetadata}
    (h : registry.get sessionId = some metadata) :
    (registry.modify sessionId f).1 = .ok () := by
  unfold get at h
  simp [modify, h]

theorem modify_of_none {registry : SessionRegistry} {sessionId : SessionId}
    {f : SessionMetadata → SessionMetadata} (h : registry.get sessionId = none) :
    registry.modify sessionId f = (.error (.notFound sessionId.toString), registry) := by
  unfold get at h
  simp [modify, h]

theorem get_modify (registry : SessionRegistry) (sessionId : SessionId)
    (f : SessionMetadata → SessionMetadata) (id : SessionId) :
    (registry.modify sessionId f).2.get id =
      if id = sessionId then (registry.get id).map f else registry.get id := by
  unfold modify get
  cases h : registry.sessions.lookup sessionId with
  | none =>
      exact (HashMap.ite_map_of_none (g := registry.get) h f id).symm
  | some metadata =>
      simp only [HashMap.lookup_insert_ite]
      split
      · next hid => rw [hid, h, Option.map_some]
      · rfl

/-- A session after a modification is as it was, or the one that was modified. -/
theorem get_modify_cases {registry : SessionRegistry} {sessionId id : SessionId}
    {f : SessionMetadata → SessionMetadata} {metadata : SessionMetadata}
    (h : (registry.modify sessionId f).2.get id = some metadata) :
    registry.get id = some metadata ∨
      ∃ oldMetadata, id = sessionId ∧ registry.get id = some oldMetadata ∧
        f oldMetadata = metadata := by
  rw [get_modify] at h
  split at h
  · next hid =>
      obtain ⟨oldMetadata, hold, hnew⟩ := Option.map_eq_some_iff.mp h
      exact Or.inr ⟨oldMetadata, hid, hold, hnew⟩
  · exact Or.inl h

theorem update_of_ne {registry : SessionRegistry} {sessionId : SessionId}
    {metadata : SessionMetadata} (h : metadata.id ≠ sessionId) :
    registry.update sessionId metadata =
      (.error (.invalidState "metadata ID mismatch" "matching session ID"), registry) := by
  simp [update, h]

theorem update_of_none {registry : SessionRegistry} {metadata : SessionMetadata}
    (h : registry.get metadata.id = none) :
    registry.update metadata.id metadata =
      (.error (.notFound metadata.id.toString), registry) := by
  unfold get at h
  simp [update, h]

theorem update_of_some {registry : SessionRegistry} {metadata oldMetadata : SessionMetadata}
    (h : registry.get metadata.id = some oldMetadata) :
    registry.update metadata.id metadata =
      (.ok (), ((registry.moveConnection metadata.id oldMetadata metadata).moveName
        metadata.id oldMetadata metadata).insertSession metadata) := by
  unfold get at h
  simp [update, h]

/-- An update that does something finds the session that the metadata is for. -/
theorem update_cases (registry : SessionRegistry) (sessionId : SessionId)
    (metadata : SessionMetadata) :
    (registry.update sessionId metadata).2 = registry ∧
        (metadata.id = sessionId → registry.get sessionId = none) ∨
      ∃ oldMetadata, metadata.id = sessionId ∧ registry.get metadata.id = some oldMetadata := by
  by_cases hne : metadata.id = sessionId
  · subst hne
    cases h : registry.get metadata.id with
    | none => exact Or.inl ⟨by rw [update_of_none h], fun _ => rfl⟩
    | some oldMetadata => exact Or.inr ⟨oldMetadata, rfl, rfl⟩
  · exact Or.inl ⟨by rw [update_of_ne hne], fun heq => absurd heq hne⟩

/-- An update replaces the metadata of a registered session, or does nothing. -/
theorem get_update (registry : SessionRegistry) (sessionId : SessionId)
    (metadata : SessionMetadata) (id : SessionId) :
    (registry.update sessionId metadata).2.get id =
      if metadata.id = sessionId ∧ id = sessionId ∧ (registry.get id).isSome then some metadata
      else registry.get id := by
  rcases registry.update_cases sessionId metadata with ⟨hsame, hnone⟩ | ⟨oldMetadata, rfl, h⟩
  · rw [hsame, if_neg]
    rintro ⟨heq, rfl, hsome⟩
    simp [hnone heq] at hsome
  · rw [update_of_some h]
    by_cases hid : id = metadata.id
    · subst hid
      rw [h]
      simp [get, insertSession]
    · simp [get, insertSession, hid]

@[simp] theorem get_clear (registry : SessionRegistry) (id : SessionId) :
    registry.clear.get id = none := rfl

theorem mem_listAll {registry : SessionRegistry} {rank : SessionId → Nat}
    {metadata : SessionMetadata} :
    metadata ∈ registry.listAll rank ↔ ∃ id, registry.get id = some metadata := by
  simp [listAll, get, HashMap.mem_listing]

end SessionRegistry

end Yuha
