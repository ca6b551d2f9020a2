import Yuha.Core.Session.Indexing
import Yuha.Core.Session.RegistryCalls
import Yuha.Library.LaggingIndex

/-!
# The indexes under concurrent calls

While calls are in progress, the indexes lag behind the map of the sessions. They catch up
when no call is in progress any more, unless a session was taken out of an index before its
own `register` put it there: then `register` puts it where nobody takes it out again.
-/

namespace Yuha

open Library Library.Execution Library.GroupedIndex

namespace RegistryCall

/-- The call is still to file the session under its name. -/
def PushesName (name : String) (id : SessionId) : RegistryCall → Prop
  | .indexingName metadata => name = metadata.name ∧ id = metadata.id
  | _ => False

def PushesConnection (key : String) (id : SessionId) : RegistryCall → Prop
  | .indexingName metadata | .indexingConnection metadata =>
      key = metadata.connectionKey ∧ id = metadata.id
  | _ => False

/-- The call is still to take the session out of the group of its name. -/
def DropsName (name : String) (id : SessionId) : RegistryCall → Prop
  | .unindexingName metadata sessionId => name = metadata.name ∧ id = sessionId
  | _ => False

def DropsConnection (key : String) (id : SessionId) : RegistryCall → Prop
  | .unindexingName metadata sessionId | .unindexingConnection metadata sessionId =>
      key = metadata.connectionKey ∧ id = sessionId
  | _ => False

/-- The metadata by whose name the session is filed already, and which is still to be stored. -/
def renames : RegistryCall → Option SessionMetadata
  | .storing metadata => some metadata
  | _ => none

/-- The same for its connection. -/
def reconnects : RegistryCall → Option SessionMetadata
  | .movingName _ metadata | .storing metadata => some metadata
  | _ => none

end RegistryCall

namespace RegistryCalls

open RegistryCall Interleaved

variable {s : RegistryCalls} {edits : RegistryCall → Option SessionMetadata}

/-- The metadata that the `update` which keeps the guard filed already. -/
def edited (edits : RegistryCall → Option SessionMetadata) (s : RegistryCalls) :
    Option SessionMetadata :=
  (s.shared.writer.bind fun i => s.calls[i]?).bind edits

/-- The metadata a session should be filed by. -/
def filedBy (edits : RegistryCall → Option SessionMetadata) (s : RegistryCalls)
    (id : SessionId) : Option SessionMetadata :=
  match s.edited edits with
  | some metadata => if id = metadata.id then some metadata else s.get id
  | none => s.get id

theorem filedBy_of_free (h : s.shared.writer = none) (id : SessionId) :
    s.filedBy edits id = s.get id := by
  simp [filedBy, edited, h]

theorem filedBy_of_guard {i : Nat} {call : RegistryCall} (h : s.shared.writer = some i)
    (hcall : s.calls[i]? = some call) (id : SessionId) :
    s.filedBy edits id = match edits call with
      | some metadata => if id = metadata.id then some metadata else s.get id
      | none => s.get id := by
  simp [filedBy, edited, h, hcall]

theorem edited_set {i : Nat} {call call' : RegistryCall} {shared : GuardedRegistry}
    (hcall : s.calls[i]? = some call) (hedits : edits call' = edits call)
    (hwriter : shared.writer = s.shared.writer) :
    edited edits { shared := shared, calls := s.calls.set i call' } = s.edited edits := by
  unfold edited
  rw [hwriter]
  cases s.shared.writer with
  | none => rfl
  | some j =>
      by_cases hij : i = j
      · subst hij
        have hlt := (List.getElem?_eq_some_iff.mp hcall).1
        simp only [Option.bind_some, hcall]
        rw [List.getElem?_set_self hlt, Option.bind_some, hedits]
      · simp only [Option.bind_some, List.getElem?_set_ne hij]

theorem edited_append {started : RegistryCall} (hstarted : edits started = none) :
    edited edits { s with calls := s.calls ++ [started] } = s.edited edits := by
  unfold edited
  cases s.shared.writer with
  | none => rfl
  | some j =>
      simp only [Option.bind_some, List.getElem?_append]
      by_cases hj : j < s.calls.length
      · rw [if_pos hj]
      · rw [if_neg hj, List.getElem?_eq_none (Nat.le_of_not_lt hj)]
        cases hlast : [started][j - s.calls.length]? with
        | none => rfl
        | some call =>
            obtain rfl := List.mem_singleton.mp (List.mem_of_getElem? hlast)
            exact hstarted

/-- Outside the guard nothing is filed ahead. -/
theorem filedBy_set {i : Nat} {call call' : RegistryCall} {shared : GuardedRegistry}
    (hcall : s.calls[i]? = some call) (hedits : edits call' = edits call)
    (hwriter : shared.writer = s.shared.writer)
    (hget : ∀ id, shared.registry.get id = s.get id) (id : SessionId) :
    filedBy edits { shared := shared, calls := s.calls.set i call' } id =
      s.filedBy edits id := by
  simp only [filedBy, edited_set hcall hedits hwriter, hget]

theorem filedBy_append {started : RegistryCall} (hstarted : edits started = none)
    (id : SessionId) :
    filedBy edits { s with calls := s.calls ++ [started] } id = s.filedBy edits id := by
  simp only [filedBy, edited_append hstarted, get_mk]

/-- What is not registered is not filed. -/
theorem Guarded.filedBy_eq_none (h : s.Guarded) {id : SessionId} (hget : s.get id = none)
    (hedits : ∀ i call metadata, s.Guards i call → edits call = some metadata →
      (s.get metadata.id).isSome) : s.filedBy edits id = none := by
  unfold filedBy
  split
  · next metadata hbind =>
      obtain ⟨call, hcall, hedit⟩ := Option.bind_eq_some_iff.mp hbind
      obtain ⟨i, _, hi⟩ := Option.bind_eq_some_iff.mp hcall
      have hsome := hedits i call metadata (h i call hi) hedit
      rw [if_neg]
      · exact hget
      · rintro rfl
        simp [hget] at hsome
  · exact hget

theorem isSome_of_renames {i : Nat} {call : RegistryCall} {metadata : SessionMetadata}
    (h : s.Guards i call) (hrenames : renames call = some metadata) :
    (s.get metadata.id).isSome := by
  cases call with
  | storing metadata' =>
      obtain rfl := Option.some.inj hrenames
      exact h.2
  | checking | inserting | indexingName | indexingConnection | removing | unindexingName
    | unindexingConnection | updating | movingConnection | movingName | done => cases hrenames

theorem isSome_of_reconnects {i : Nat} {call : RegistryCall} {metadata : SessionMetadata}
    (h : s.Guards i call) (hreconnects : reconnects call = some metadata) :
    (s.get metadata.id).isSome := by
  cases call with
  | movingName oldMetadata metadata' =>
      obtain rfl := Option.some.inj hreconnects
      simp [h.2]
  | storing metadata' =>
      obtain rfl := Option.some.inj hreconnects
      exact h.2
  | checking | inserting | indexingName | indexingConnection | removing | unindexingName
    | unindexingConnection | updating | movingConnection | done => cases hreconnects

/-! ## What each section does to what should be filed -/

variable {call call' : RegistryCall} {i : Nat}

theorem filedBy_insert {metadata : SessionMetadata} (hfree : s.shared.writer = none)
    (id : SessionId) :
    filedBy edits
        { shared := { s.shared with registry := s.shared.registry.insertSession metadata }
          calls := s.calls.set i call' } id =
      if id = metadata.id then some metadata else s.filedBy edits id := by
  rw [filedBy_of_free hfree, ← SessionRegistry.get_insertSession]
  apply filedBy_of_free
  exact hfree

theorem filedBy_remove {sessionId : SessionId} (hfree : s.shared.writer = none)
    (id : SessionId) :
    filedBy edits
        { shared := { s.shared with registry := s.shared.registry.removeSession sessionId }
          calls := s.calls.set i call' } id =
      if id = sessionId then none else s.filedBy edits id := by
  rw [filedBy_of_free hfree, ← SessionRegistry.get_removeSession]
  apply filedBy_of_free
  exact hfree

theorem filedBy_enter (hcall : s.calls[i]? = some call) (hedits : edits call' = none)
    (hfree : s.shared.writer = none) (id : SessionId) :
    filedBy edits
        { shared := { s.shared with writer := some i }, calls := s.calls.set i call' } id =
      s.filedBy edits id := by
  have hlt := (List.getElem?_eq_some_iff.mp hcall).1
  rw [filedBy_of_free hfree, filedBy_of_guard rfl (List.getElem?_set_self hlt), hedits, get_mk]

/-- The section of `update` on an index files the session by its new metadata. -/
theorem filedBy_edit (hcall : s.calls[i]? = some call) (hwriter : s.shared.writer = some i)
    {metadata : SessionMetadata} (hedits : edits call = none)
    (hedits' : edits call' = some metadata) {registry : SessionRegistry}
    (hget : ∀ id, registry.get id = s.get id) (id : SessionId) :
    filedBy edits
        { shared := { s.shared with registry := registry }, calls := s.calls.set i call' } id =
      if id = metadata.id then some metadata else s.filedBy edits id := by
  have hlt := (List.getElem?_eq_some_iff.mp hcall).1
  rw [filedBy_of_guard hwriter hcall, hedits,
    filedBy_of_guard (s := { shared := { s.shared with registry := registry }
                             calls := s.calls.set i call' }) hwriter
      (List.getElem?_set_self hlt), hedits', get_mk, hget]

theorem filedBy_store (hcall : s.calls[i]? = some call) (hwriter : s.shared.writer = some i)
    {metadata : SessionMetadata} (hedits : edits call = some metadata) (id : SessionId) :
    filedBy edits
        { shared := { registry := s.shared.registry.insertSession metadata, writer := none }
          calls := s.calls.set i call' } id =
      s.filedBy edits id := by
  rw [filedBy_of_guard hwriter hcall, hedits, filedBy_of_free rfl, get_mk,
    SessionRegistry.get_insertSession]

end RegistryCalls

/-! ## How an index lags -/

/-- One of the two indexes, and what the stages of the calls mean for it. -/
structure IndexView where
  index : SessionRegistry → GroupedIndex String SessionId
  key : SessionMetadata → String
  edits : RegistryCall → Option SessionMetadata
  pushes : String → SessionId → RegistryCall → Prop
  drops : String → SessionId → RegistryCall → Prop

namespace IndexView

open RegistryCall Interleaved

def byName : IndexView where
  index := (·.nameIndex)
  key := (·.name)
  edits := renames
  pushes := PushesName
  drops := DropsName

def byConnection : IndexView where
  index := (·.connectionIndex)
  key := (·.connectionKey)
  edits := reconnects
  pushes := PushesConnection
  drops := DropsConnection

/-- The index lags behind the sessions by what the calls are still to do. -/
def Lagging (view : IndexView) (s : RegistryCalls) : Prop :=
  (view.index s.shared.registry).Lags (fun id => (s.filedBy view.edits id).map view.key)
    (fun key id => s.Any (view.pushes key id)) (fun key id => s.Any (view.drops key id))

variable {view : IndexView} {s : RegistryCalls} {i : Nat} {call call' : RegistryCall}
  {shared : GuardedRegistry}

/-- A step that does not concern the index. -/
theorem Lagging.quiet (h : view.Lagging s) (hcall : s.calls[i]? = some call)
    (hindex : view.index shared.registry = view.index s.shared.registry)
    (hfiled : ∀ id, RegistryCalls.filedBy view.edits
      { shared := shared, calls := s.calls.set i call' } id = s.filedBy view.edits id)
    (hpushes : ∀ key id, view.pushes key id call' ↔ view.pushes key id call)
    (hdrops : ∀ key id, view.drops key id call' ↔ view.drops key id call) :
    view.Lagging { shared := shared, calls := s.calls.set i call' } := by
  unfold Lagging
  rw [hindex]
  exact h.congr (fun id => congrArg (Option.map view.key) (hfiled id))
    (fun key id => any_set_congr shared hcall (hpushes key id))
    fun key id => any_set_congr shared hcall (hdrops key id)

/-- A session is put into the map, and is to be filed. -/
theorem Lagging.enter (h : view.Lagging s) (hcall : s.calls[i]? = some call)
    {metadata : SessionMetadata} (hnew : s.filedBy view.edits metadata.id = none)
    (hindex : view.index shared.registry = view.index s.shared.registry)
    (hfiled : ∀ id, RegistryCalls.filedBy view.edits
      { shared := shared, calls := s.calls.set i call' } id =
        if id = metadata.id then some metadata else s.filedBy view.edits id)
    (hpushes : ∀ key id, ¬ view.pushes key id call)
    (hpushes' : ∀ key id, view.pushes key id call' ↔ key = view.key metadata ∧ id = metadata.id)
    (hdrops : ∀ key id, view.drops key id call' ↔ view.drops key id call) :
    view.Lagging { shared := shared, calls := s.calls.set i call' } := by
  have hbefore := h.congr (fun _ => rfl) (fun _ _ => Iff.rfl) fun key id =>
    any_set_congr shared hcall (hdrops key id)
  unfold Lagging
  rw [hindex]
  refine hbefore.enter (k := view.key metadata) (v := metadata.id) (by simp [hnew])
    (fun id => ?_) fun key id => ?_
  · rw [hfiled]
    split <;> rfl
  · rw [any_set hcall, any_iff hcall, hpushes', or_iff_left (hpushes key id)]

/-- A session is filed. -/
theorem Lagging.push (h : view.Lagging s) (hcall : s.calls[i]? = some call)
    {metadata : SessionMetadata}
    (hindex : view.index shared.registry =
      (view.index s.shared.registry).push (view.key metadata) metadata.id)
    (hfiled : ∀ id, RegistryCalls.filedBy view.edits
      { shared := shared, calls := s.calls.set i call' } id = s.filedBy view.edits id)
    (hpushes : ∀ key id, view.pushes key id call ↔ key = view.key metadata ∧ id = metadata.id)
    (hpushes' : ∀ key id, ¬ view.pushes key id call')
    (hdrops : ∀ key id, view.drops key id call' ↔ view.drops key id call) :
    view.Lagging { shared := shared, calls := s.calls.set i call' } := by
  have hbefore := h.congr (fun id => congrArg (Option.map view.key) (hfiled id))
    (fun _ _ => Iff.rfl) fun key id =>
    any_set_congr shared hcall (hdrops key id)
  unfold Lagging
  rw [hindex]
  refine hbefore.push fun key id => ?_
  rw [any_set hcall, any_iff hcall, hpushes, or_iff_left (hpushes' key id)]

/-- A session is taken out of the map, and is to be taken out of the index. -/
theorem Lagging.leave (h : view.Lagging s) (hcall : s.calls[i]? = some call)
    {metadata : SessionMetadata} {sessionId : SessionId}
    (hold : s.filedBy view.edits sessionId = some metadata)
    (hindex : view.index shared.registry = view.index s.shared.registry)
    (hfiled : ∀ id, RegistryCalls.filedBy view.edits
      { shared := shared, calls := s.calls.set i call' } id =
        if id = sessionId then none else s.filedBy view.edits id)
    (hpushes : ∀ key id, view.pushes key id call' ↔ view.pushes key id call)
    (hdrops : ∀ key id, ¬ view.drops key id call)
    (hdrops' : ∀ key id, view.drops key id call' ↔ key = view.key metadata ∧ id = sessionId) :
    view.Lagging { shared := shared, calls := s.calls.set i call' } := by
  have hbefore := h.congr (fun _ => rfl) (fun key id => any_set_congr shared hcall (hpushes key id))
    fun _ _ => Iff.rfl
  unfold Lagging
  rw [hindex]
  refine hbefore.leave (k := view.key metadata) (v := sessionId) (by simp [hold])
    (fun id => ?_) fun key id => ?_
  · rw [hfiled]
    split <;> rfl
  · rw [any_set hcall, any_iff hcall, hdrops', or_iff_left (hdrops key id)]

/-- A session is taken out of the index, and nobody is about to put it back there. -/
theorem Lagging.discard (h : view.Lagging s) (hcall : s.calls[i]? = some call)
    {metadata : SessionMetadata} {sessionId : SessionId}
    (hgone : s.filedBy view.edits sessionId = none)
    (hindex : view.index shared.registry =
      (view.index s.shared.registry).discard (view.key metadata) sessionId)
    (hfiled : ∀ id, RegistryCalls.filedBy view.edits
      { shared := shared, calls := s.calls.set i call' } id = s.filedBy view.edits id)
    (hpushed : ¬ s.Any (view.pushes (view.key metadata) sessionId))
    (hpushes : ∀ key id, view.pushes key id call' ↔ view.pushes key id call)
    (hdrops : ∀ key id, view.drops key id call ↔ key = view.key metadata ∧ id = sessionId)
    (hdrops' : ∀ key id, ¬ view.drops key id call') :
    view.Lagging { shared := shared, calls := s.calls.set i call' } := by
  have hbefore := h.congr (fun id => congrArg (Option.map view.key) (hfiled id))
    (fun key id => any_set_congr shared hcall (hpushes key id)) fun _ _ => Iff.rfl
  unfold Lagging
  rw [hindex]
  refine hbefore.discard (k := view.key metadata) (v := sessionId)
    (by simp [hfiled, hgone]) ?_ fun key id => ?_
  · rw [any_set_congr shared hcall (hpushes _ _)]
    exact hpushed
  · rw [any_set hcall, any_iff hcall, hdrops, or_iff_left (hdrops' key id)]

/-- A session is moved to the group of its new metadata. -/
theorem Lagging.moveTo (h : view.Lagging s) (hcall : s.calls[i]? = some call)
    {oldMetadata metadata : SessionMetadata}
    (hold : s.filedBy view.edits metadata.id = some oldMetadata)
    (hindex : view.index shared.registry =
      if view.key oldMetadata ≠ view.key metadata then
        ((view.index s.shared.registry).discard (view.key oldMetadata) metadata.id).push
          (view.key metadata) metadata.id
      else view.index s.shared.registry)
    (hfiled : ∀ id, RegistryCalls.filedBy view.edits
      { shared := shared, calls := s.calls.set i call' } id =
        if id = metadata.id then some metadata else s.filedBy view.edits id)
    (hpushed : view.key oldMetadata ≠ view.key metadata →
      ¬ s.Any (view.pushes (view.key oldMetadata) metadata.id))
    (hdropped : ∀ key, ¬ s.Any (view.drops key metadata.id))
    (hpushes : ∀ key id, view.pushes key id call' ↔ view.pushes key id call)
    (hdrops : ∀ key id, view.drops key id call' ↔ view.drops key id call) :
    view.Lagging { shared := shared, calls := s.calls.set i call' } := by
  have hbefore := h.congr (fun _ => rfl) (fun key id => any_set_congr shared hcall (hpushes key id))
    fun key id => any_set_congr shared hcall (hdrops key id)
  unfold Lagging
  rw [hindex]
  refine hbefore.moveTo (k := view.key oldMetadata) (v := metadata.id) (by simp [hold])
    (fun id => ?_) (fun key => ?_) fun hne => ?_
  · rw [hfiled]
    split <;> rfl
  · rw [any_set_congr shared hcall (hdrops _ _)]
    exact hdropped key
  · rw [any_set_congr shared hcall (hpushes _ _)]
    exact hpushed hne

theorem Lagging.start (h : view.Lagging s) {started : RegistryCall}
    (hedits : view.edits started = none)
    (hidle : ∀ key id, ¬ view.pushes key id started ∧ ¬ view.drops key id started) :
    view.Lagging { s with calls := s.calls ++ [started] } := by
  refine h.congr (fun id => ?_) (fun key id => ?_) fun key id => ?_
  · rw [RegistryCalls.filedBy_append hedits]
  · rw [any_append, or_iff_left (hidle key id).1]
  · rw [any_append, or_iff_left (hidle key id).2]

end IndexView

namespace RegistryCalls

open RegistryCall Interleaved IndexView

variable {s : RegistryCalls} {i : Nat} {call call' : RegistryCall} {shared : GuardedRegistry}

/-! ## The steps of the calls -/

/-- The call does not take a session out of a group of an index to which the session's own
`register` is still to add it. -/
def AwaitsRegister (s : RegistryCalls) : RegistryCall → Prop
  | .unindexingName metadata sessionId => ¬ s.Any (PushesName metadata.name sessionId)
  | .unindexingConnection metadata sessionId =>
      ¬ s.Any (PushesConnection metadata.connectionKey sessionId)
  | .movingName oldMetadata metadata => oldMetadata.name ≠ metadata.name →
      ¬ s.Any (PushesName oldMetadata.name metadata.id)
  | .movingConnection oldMetadata metadata =>
      oldMetadata.connectionKey ≠ metadata.connectionKey →
        ¬ s.Any (PushesConnection oldMetadata.connectionKey metadata.id)
  | _ => True

/-- A registered session is not being taken out of an index. -/
theorem Steady.not_any_strikes {past : List RegistryEvent} (h : Steady past s)
    {id : SessionId} {metadata : SessionMetadata} (hget : s.get id = some metadata) :
    ¬ s.Any (Strikes id) := by
  rintro ⟨call, hmem, hstrikes⟩
  obtain ⟨i, hi⟩ := List.mem_iff_getElem?.mp hmem
  have hsound := h.calls i call hi
  cases call with
  | unindexingName metadata' sessionId | unindexingConnection metadata' sessionId =>
      obtain rfl := hstrikes
      cases hget.symm.trans hsound.1
  | checking | inserting | indexingName | indexingConnection | removing | updating
    | movingConnection | movingName | storing | done => cases hstrikes

theorem strikes_of_dropsName {name : String} {id : SessionId} (h : call.DropsName name id) :
    call.Strikes id := by
  cases call with
  | unindexingName metadata sessionId => exact h.2.symm
  | checking | inserting | indexingName | indexingConnection | removing | unindexingConnection
    | updating | movingConnection | movingName | storing | done => cases h

theorem strikes_of_dropsConnection {key : String} {id : SessionId}
    (h : call.DropsConnection key id) : call.Strikes id := by
  cases call with
  | unindexingName metadata sessionId | unindexingConnection metadata sessionId => exact h.2.symm
  | checking | inserting | indexingName | indexingConnection | removing | updating
    | movingConnection | movingName | storing | done => cases h

theorem lagging_byName_move {past : List RegistryEvent} (hsteady : Steady past s)
    (h : byName.Lagging s) (henabled : s.shared.registry.config.enableNameIndex = true)
    (hcall : s.calls[i]? = some call) (hmoves : Moves i call s.shared call' shared)
    (hawaits : s.AwaitsRegister call) :
    byName.Lagging { shared := shared, calls := s.calls.set i call' } := by
  have hguards := hsteady.guarded i call hcall
  have hsound := hsteady.calls i call hcall
  cases hmoves with
  | reject | accept | missing | refuse | indexConnection | unindexConnection =>
      exact h.quiet hcall rfl (filedBy_set hcall rfl rfl fun _ => rfl) (fun _ _ => Iff.rfl)
        fun _ _ => Iff.rfl
  | insert hfree =>
      refine h.enter hcall ?_ rfl (filedBy_insert hfree) (fun _ _ => not_false)
        (fun _ _ => Iff.rfl) fun _ _ => Iff.rfl
      rw [filedBy_of_free hfree]
      exact hsound.1
  | indexName =>
      refine h.push hcall ?_ (filedBy_set hcall rfl rfl (by simp)) (fun _ _ => Iff.rfl)
        (fun _ _ => not_false) fun _ _ => Iff.rfl
      exact (SessionRegistry.indexName_nameIndex _ _).trans (if_pos henabled)
  | remove hfree hsome =>
      refine h.leave hcall ?_ rfl (filedBy_remove hfree) (fun _ _ => Iff.rfl)
        (fun _ _ => not_false) fun _ _ => Iff.rfl
      rw [filedBy_of_free hfree]
      exact hsome
  | unindexName =>
      refine h.discard hcall ?_ ?_ (filedBy_set hcall rfl rfl (by simp)) hawaits
        (fun _ _ => Iff.rfl) (fun _ _ => Iff.rfl) fun _ _ => not_false
      · exact hsteady.guarded.filedBy_eq_none hsound.1 fun _ _ _ => isSome_of_renames
      · exact (SessionRegistry.unindexName_nameIndex _ _ _).trans (if_pos henabled)
  | enter hfree hsome =>
      exact h.quiet hcall rfl (filedBy_enter hcall rfl hfree) (fun _ _ => Iff.rfl)
        fun _ _ => Iff.rfl
  | moveConnection =>
      exact h.quiet hcall (SessionRegistry.moveConnection_nameIndex _ _ _ _)
        (filedBy_set hcall rfl rfl (by simp)) (fun _ _ => Iff.rfl) fun _ _ => Iff.rfl
  | moveName =>
      obtain ⟨hwriter, hget⟩ := hguards
      refine h.moveTo hcall ?_ ?_ (filedBy_edit hcall hwriter rfl rfl (by simp)) hawaits ?_
        (fun _ _ => Iff.rfl) fun _ _ => Iff.rfl
      · rw [filedBy_of_guard hwriter hcall]
        exact hget
      · apply (SessionRegistry.moveName_nameIndex _ _ _ _).trans
        simp only [henabled, true_and]
        rfl
      · rintro key ⟨other, hmem, hdrops⟩
        exact hsteady.not_any_strikes hget ⟨other, hmem, strikes_of_dropsName hdrops⟩
  | store =>
      exact h.quiet hcall rfl (filedBy_store hcall hguards.1 rfl) (fun _ _ => Iff.rfl)
        fun _ _ => Iff.rfl

theorem lagging_byConnection_move {past : List RegistryEvent} (hsteady : Steady past s)
    (h : byConnection.Lagging s) (hcall : s.calls[i]? = some call)
    (hmoves : Moves i call s.shared call' shared) (hawaits : s.AwaitsRegister call) :
    byConnection.Lagging { shared := shared, calls := s.calls.set i call' } := by
  have hguards := hsteady.guarded i call hcall
  have hsound := hsteady.calls i call hcall
  cases hmoves with
  | reject | accept | missing | refuse =>
      exact h.quiet hcall rfl (filedBy_set hcall rfl rfl fun _ => rfl) (fun _ _ => Iff.rfl)
        fun _ _ => Iff.rfl
  | insert hfree =>
      refine h.enter hcall ?_ rfl (filedBy_insert hfree) (fun _ _ => not_false)
        (fun _ _ => Iff.rfl) fun _ _ => Iff.rfl
      rw [filedBy_of_free hfree]
      exact hsound.1
  | indexName =>
      exact h.quiet hcall (SessionRegistry.indexName_connectionIndex _ _)
        (filedBy_set hcall rfl rfl (by simp)) (fun _ _ => Iff.rfl) fun _ _ => Iff.rfl
  | indexConnection =>
      exact h.push hcall rfl (filedBy_set hcall rfl rfl fun _ => rfl) (fun _ _ => Iff.rfl)
        (fun _ _ => not_false) fun _ _ => Iff.rfl
  | remove hfree hsome =>
      refine h.leave hcall ?_ rfl (filedBy_remove hfree) (fun _ _ => Iff.rfl)
        (fun _ _ => not_false) fun _ _ => Iff.rfl
      rw [filedBy_of_free hfree]
      exact hsome
  | unindexName =>
      exact h.quiet hcall (SessionRegistry.unindexName_connectionIndex _ _ _)
        (filedBy_set hcall rfl rfl (by simp)) (fun _ _ => Iff.rfl) fun _ _ => Iff.rfl
  | unindexConnection =>
      refine h.discard hcall ?_ rfl (filedBy_set hcall rfl rfl fun _ => rfl) hawaits
        (fun _ _ => Iff.rfl) (fun _ _ => Iff.rfl) fun _ _ => not_false
      exact hsteady.guarded.filedBy_eq_none hsound.1 fun _ _ _ => isSome_of_reconnects
  | enter hfree hsome =>
      exact h.quiet hcall rfl (filedBy_enter hcall rfl hfree) (fun _ _ => Iff.rfl)
        fun _ _ => Iff.rfl
  | moveConnection =>
      obtain ⟨hwriter, hget⟩ := hguards
      refine h.moveTo hcall ?_ ?_ (filedBy_edit hcall hwriter rfl rfl (by simp)) hawaits ?_
        (fun _ _ => Iff.rfl) fun _ _ => Iff.rfl
      · rw [filedBy_of_guard hwriter hcall]
        exact hget
      · exact SessionRegistry.moveConnection_connectionIndex _ _ _ _
      · rintro key ⟨other, hmem, hdrops⟩
        exact hsteady.not_any_strikes hget ⟨other, hmem, strikes_of_dropsConnection hdrops⟩
  | moveName =>
      exact h.quiet hcall (SessionRegistry.moveName_connectionIndex _ _ _ _)
        (filedBy_set hcall rfl rfl (by simp)) (fun _ _ => Iff.rfl) fun _ _ => Iff.rfl
  | store =>
      exact h.quiet hcall rfl (filedBy_store hcall hguards.1 rfl) (fun _ _ => Iff.rfl)
        fun _ _ => Iff.rfl

/-! ## Every run -/

/-- Both indexes list the registered sessions under their names and connections, and
nothing else. -/
def IndexesRegistered (s : RegistryCalls) : Prop :=
  (∀ name id, id ∈ s.shared.registry.nameIndex.group name ↔
    ∃ metadata, s.get id = some metadata ∧ metadata.name = name) ∧
  ∀ key id, id ∈ s.shared.registry.connectionIndex.group key ↔
    ∃ metadata, s.get id = some metadata ∧ metadata.connectionKey = key

/-- The event lets every `register` file its session first. -/
def LetsRegister (s : RegistryCalls) (event : RegistryEvent) : Prop :=
  ∀ i call, event = .advance i → s.calls[i]? = some call → s.AwaitsRegister call

theorem letsRegister_start (s : RegistryCalls) (task : RegistryTask) :
    s.LetsRegister (.start task) :=
  fun _ _ hevent => nomatch hevent

/-- What every event that lets `register` go first keeps. -/
structure Tracked (past : List RegistryEvent) (s : RegistryCalls) : Prop where
  enabled : s.shared.registry.config.enableNameIndex = true
  steady : Steady past s
  name : byName.Lagging s
  connection : byConnection.Lagging s

theorem tracked_new {config : SessionRegistryConfig} (h : config.enableNameIndex = true) :
    Tracked [] (new config) where
  enabled := h
  steady := steady_new config
  name := lags_empty (fun _ => rfl) fun _ _ => by simp [Any, new]
  connection := lags_empty (fun _ => rfl) fun _ _ => by simp [Any, new]

theorem Tracked.step {past : List RegistryEvent} (h : Tracked past s) {event : RegistryEvent}
    (hissues : Issues past event) (hlets : s.LetsRegister event) :
    Tracked (past ++ [event]) (step s event) := by
  have hsteady := h.steady.step hissues
  rcases s.step_cases begins RegistryCall.move event with
    ⟨task, rfl, hstep⟩ | ⟨i, call, call', shared, rfl, hcall, hmove, hstep⟩ | hstep
  · have hstep' : RegistryCalls.step s (.start task) = _ := hstep
    rw [hstep'] at hsteady ⊢
    refine ⟨h.enabled, hsteady, h.name.start ?_ ?_, h.connection.start ?_ ?_⟩
    · cases task <;> rfl
    · cases task <;> exact fun _ _ => ⟨not_false, not_false⟩
    · cases task <;> rfl
    · cases task <;> exact fun _ _ => ⟨not_false, not_false⟩
  · have hstep' : RegistryCalls.step s (.advance i) = _ := hstep
    have hmoves := moves_of_move hmove
    have hawaits := hlets i call rfl hcall
    rw [hstep'] at hsteady ⊢
    exact ⟨by rw [config_of_moves hmoves]; exact h.enabled, hsteady,
      lagging_byName_move h.steady h.name h.enabled hcall hmoves hawaits,
      lagging_byConnection_move h.steady h.connection hcall hmoves hawaits⟩
  · have hstep' : RegistryCalls.step s event = s := hstep
    rw [hstep'] at hsteady ⊢
    exact ⟨h.enabled, hsteady, h.name, h.connection⟩

theorem Quiescent.not_any {P : RegistryCall → Prop} (h : s.Quiescent)
    (hP : ∀ answer, ¬ P (.done answer)) : ¬ s.Any P := by
  rintro ⟨call, hmem, hcall⟩
  obtain ⟨answer, rfl⟩ := h call hmem
  exact hP answer hcall

theorem Quiescent.filedBy_eq {edits : RegistryCall → Option SessionMetadata} (h : s.Quiescent)
    (hedits : ∀ answer, edits (.done answer) = none) (id : SessionId) :
    s.filedBy edits id = s.get id := by
  have hnone : s.edited edits = none := by
    refine Option.bind_eq_none_iff.mpr fun call hcall => ?_
    obtain ⟨i, _, hi⟩ := Option.bind_eq_some_iff.mp hcall
    obtain ⟨answer, rfl⟩ := h call (List.mem_of_getElem? hi)
    exact hedits answer
  simp [filedBy, hnone]

theorem Tracked.indexesRegistered {past : List RegistryEvent} (h : Tracked past s)
    (hquiescent : s.Quiescent) : s.IndexesRegistered := by
  constructor
  · intro name id
    have hmem := h.name.mem_group_iff (fun _ _ => hquiescent.not_any fun _ => not_false)
      (fun _ _ => hquiescent.not_any fun _ => not_false) name id
    have hfiled : s.filedBy byName.edits id = s.get id := hquiescent.filedBy_eq (fun _ => rfl) id
    rw [hfiled] at hmem
    exact hmem.trans Option.map_eq_some_iff
  · intro key id
    have hmem := h.connection.mem_group_iff (fun _ _ => hquiescent.not_any fun _ => not_false)
      (fun _ _ => hquiescent.not_any fun _ => not_false) key id
    have hfiled : s.filedBy byConnection.edits id = s.get id :=
      hquiescent.filedBy_eq (fun _ => rfl) id
    rw [hfiled] at hmem
    exact hmem.trans Option.map_eq_some_iff

/-- Whenever no call is in progress, the indexes are right, if so far every session was
filed by its own `register` before another call took it out of an index. -/
theorem indexesRegistered_of_letsRegister (config : SessionRegistryConfig)
    (henabled : config.enableNameIndex = true) (events : List RegistryEvent)
    (hfresh : (issuedIds events).Nodup)
    (h : Along RegistryCalls.step (fun _ s event => s.LetsRegister event) (new config) events) :
    Always RegistryCalls.step (fun s => s.Quiescent → s.IndexesRegistered) (new config)
      events := by
  intro past hpast
  have htracked := ((along_issues (s := new config) hfresh).and h).invariant (I := Tracked)
    (tracked_new henabled) (fun _ _ _ hs hboth => hs.step hboth.1 hboth.2) past hpast
  exact htracked.indexesRegistered

/-- A session is unregistered as soon as it is filed under its name. -/
def struckLater : List RegistryEvent :=
  [.start (.register (.new 0 ⟨1⟩ "build" {} [] none)), .start (.unregister ⟨1⟩), .advance 0,
    .advance 0, .advance 0, .advance 1, .advance 0, .advance 1, .advance 1]

theorem indexesRegistered_of_letsRegister_struckLater :
    Always RegistryCalls.step (fun s => s.Quiescent → s.IndexesRegistered) (new {})
      struckLater := by
  apply indexesRegistered_of_letsRegister {} rfl struckLater (by decide)
  simp only [struckLater, along_cons]
  refine ⟨letsRegister_start _ _, letsRegister_start _ _, ?_, ?_, ?_, ?_, ?_, ?_, ?_,
    along_nil⟩
  all_goals rintro _ _ ⟨⟩ ⟨⟩
  iterate 5 exact trivial
  -- When `unregister` goes on, `register` has filed the session in that index.
  all_goals
    rintro ⟨call, hmem, hpushes⟩
    cases hmem with
    | head => cases hpushes
    | tail _ hmem => cases List.mem_singleton.mp hmem ▸ hpushes

/-- The session is unregistered before it is filed. -/
def struckEarly : List RegistryEvent :=
  [.start (.register (.new 0 ⟨1⟩ "build" {} [] none)), .start (.unregister ⟨1⟩), .advance 0,
    .advance 0, .advance 1, .advance 1, .advance 1, .advance 0, .advance 0]

/-- Both indexes keep listing a session that is not registered any more. -/
theorem indexesRegistered_false :
    (issuedIds struckEarly).Nodup ∧
      ¬ Always RegistryCalls.step (fun s => s.Quiescent → s.IndexesRegistered) (new {})
        struckEarly := by
  refine ⟨by decide, fun h => ?_⟩
  have hcalls : (run RegistryCalls.step (new {}) struckEarly).calls =
      [.done (.registered (.ok ⟨1⟩)), .done (.unregistered (some
        (SessionMetadata.new 0 ⟨1⟩ "build" {} [] none).asRegistered))] := rfl
  have hquiescent : Quiescent (run RegistryCalls.step (new {}) struckEarly) := by
    intro call hmem
    rw [hcalls] at hmem
    rcases List.mem_pair.mp hmem with rfl | rfl
    · exact ⟨_, rfl⟩
    · exact ⟨_, rfl⟩
  obtain ⟨metadata, hget, _⟩ := ((h.last hquiescent).1 "build" ⟨1⟩).mp (by decide)
  cases hget

end RegistryCalls

end Yuha
