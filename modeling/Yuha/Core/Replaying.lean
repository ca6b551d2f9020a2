import Yuha.Core.ResponseBuffer
import Yuha.Library.Execution

/-!
# Replaying the items of the response buffer

The client sees the items it takes from the buffer, the server the two collections that
the buffer keeps beside them. A client that replays the items rebuilds both collections.
-/

namespace Yuha

open Library

/-- What a reader of the items knows about the connections. -/
structure ConnectionTable where
  openPort : UInt32 → Option UInt16 := fun _ => none
  closed : List UInt32 := []

namespace ConnectionTable

def read (table : ConnectionTable) : ResponseItem → ConnectionTable
  | .newConnection connectionId localPort =>
      { table with openPort := Function.update table.openPort connectionId (some localPort) }
  | .closeConnection connectionId =>
      { openPort := Function.update table.openPort connectionId none
        closed := table.closed ++ [connectionId] }
  | .portForwardData _ _ => table
  | .clipboardContent _ => table

/-- The table after all items, read from the first to the last. -/
def replay (items : List ResponseItem) : ConnectionTable := items.foldl read {}

@[simp] theorem replay_nil : replay [] = {} := rfl

@[simp] theorem replay_append_singleton (items : List ResponseItem) (item : ResponseItem) :
    replay (items ++ [item]) = (replay items).read item := by
  simp [replay]

end ConnectionTable

namespace ResponseItem

def opens (connectionId : UInt32) : ResponseItem → Bool
  | .newConnection opened _ => opened == connectionId
  | _ => false

def closes (connectionId : UInt32) : ResponseItem → Bool
  | .closeConnection closed => closed == connectionId
  | _ => false

def closedConnection : ResponseItem → Option UInt32
  | .closeConnection connectionId => some connectionId
  | _ => none

end ResponseItem

/-- The last `NewConnection` of the id is for this port, and no `CloseConnection` of the id
follows it. -/
def OpenAt (items : List ResponseItem) (connectionId : UInt32) (localPort : UInt16) : Prop :=
  ∃ before after : List ResponseItem,
    items = before ++ .newConnection connectionId localPort :: after ∧
      ∀ item ∈ after, item.opens connectionId = false ∧ item.closes connectionId = false

namespace OpenAt

variable {items : List ResponseItem} {connectionId opened : UInt32} {localPort port : UInt16}

theorem not_nil : ¬ OpenAt [] connectionId localPort := by
  rintro ⟨before, after, heq, -⟩
  simp at heq

/-- The last item opens the connection, or it is about another one. -/
theorem append_singleton_iff {item : ResponseItem} :
    OpenAt (items ++ [item]) connectionId localPort ↔
      item = .newConnection connectionId localPort ∨ OpenAt items connectionId localPort ∧
        item.opens connectionId = false ∧ item.closes connectionId = false := by
  constructor
  · rintro ⟨before, after, heq, hafter⟩
    induction after using List.reverseRecOn with
    | nil =>
        obtain ⟨-, hlast⟩ := List.append_inj' heq rfl
        exact Or.inl (List.singleton_inj.mp hlast)
    | append_singleton after last _ =>
        have hsplit : items ++ [item] =
            (before ++ ResponseItem.newConnection connectionId localPort :: after) ++ [last] := by
          simpa using heq
        obtain ⟨hitems, hlast⟩ := List.append_inj' hsplit rfl
        obtain rfl : item = last := List.singleton_inj.mp hlast
        rw [List.forall_mem_append, List.forall_mem_singleton] at hafter
        exact Or.inr ⟨⟨before, after, hitems, hafter.1⟩, hafter.2⟩
  · rintro (rfl | ⟨⟨before, after, rfl, hafter⟩, hitem⟩)
    · exact ⟨items, [], rfl, by simp⟩
    · refine ⟨before, after ++ [item], by simp, ?_⟩
      rw [List.forall_mem_append, List.forall_mem_singleton]
      exact ⟨hafter, hitem⟩

end OpenAt

namespace ConnectionTable

/-- Replaying finds exactly the connections that are open in the items. -/
theorem openPort_replay_iff (items : List ResponseItem) (connectionId : UInt32)
    (localPort : UInt16) :
    (replay items).openPort connectionId = some localPort ↔
      OpenAt items connectionId localPort := by
  induction items using List.reverseRecOn with
  | nil => simpa using OpenAt.not_nil
  | append_singleton items item ih =>
      rw [replay_append_singleton, OpenAt.append_singleton_iff, ← ih]
      cases item with
      | newConnection opened port =>
          by_cases h : opened = connectionId
          · subst h
            simp [read, ResponseItem.opens]
          · simp [read, h, ResponseItem.opens, ResponseItem.closes,
              Function.update_of_ne (Ne.symm h)]
      | closeConnection closed =>
          by_cases h : closed = connectionId
          · subst h
            simp [read, ResponseItem.closes]
          · simp [read, h, ResponseItem.opens, ResponseItem.closes,
              Function.update_of_ne (Ne.symm h)]
      | portForwardData | clipboardContent => simp [read, ResponseItem.opens, ResponseItem.closes]

/-- Replaying lists the closed connections in the order they were closed. -/
theorem closed_replay (items : List ResponseItem) :
    (replay items).closed = items.filterMap ResponseItem.closedConnection := by
  induction items using List.reverseRecOn with
  | nil => rfl
  | append_singleton items item ih =>
      rw [replay_append_singleton, List.filterMap_append, ← ih]
      cases item <;> simp [read, ResponseItem.closedConnection]

end ConnectionTable

/-! ## The calls on a buffer -/

inductive BufferCall
  | addNewConnection (connectionId : UInt32) (localPort : UInt16)
  | addCloseConnection (connectionId : UInt32)
  | addPortForwardData (connectionId : UInt32) (data : Bytes)
  | addClipboardContent (content : String)
  | takeItems
  | clear

/-- A buffer and the items taken from it since it was cleared. -/
structure WatchedBuffer where
  buffer : ResponseBuffer := {}
  taken : List ResponseItem := []

namespace WatchedBuffer

def call (w : WatchedBuffer) : BufferCall → WatchedBuffer
  | .addNewConnection connectionId localPort =>
      { w with buffer := w.buffer.addNewConnection connectionId localPort }
  | .addCloseConnection connectionId =>
      { w with buffer := w.buffer.addCloseConnection connectionId }
  | .addPortForwardData connectionId data =>
      { w with buffer := w.buffer.addPortForwardData connectionId data }
  | .addClipboardContent content => { w with buffer := w.buffer.addClipboardContent content }
  | .takeItems =>
      let (items, buffer) := w.buffer.takeItems
      { buffer := buffer, taken := w.taken ++ items }
  | .clear => { buffer := w.buffer.clear }

/-- All items added since the buffer was cleared. -/
def added (w : WatchedBuffer) : List ResponseItem := w.taken ++ w.buffer.items

/-- The buffer's own table. -/
def table (w : WatchedBuffer) : ConnectionTable where
  openPort connectionId := w.buffer.pendingConnections.lookup connectionId
  closed := w.buffer.closedConnections

/-- An added item is read into the buffer's own table, and appended to the items. -/
theorem table_add (w : WatchedBuffer) (item : ResponseItem) :
    ({ w with buffer := w.buffer.add item } : WatchedBuffer).table = w.table.read item := by
  cases item with
  | newConnection connectionId localPort =>
      simp only [table, ResponseBuffer.add, ResponseBuffer.addNewConnection,
        ResponseBuffer.addItem, ConnectionTable.read, ConnectionTable.mk.injEq, and_true]
      funext k
      simp [HashMap.lookup_insert_ite, Function.update_apply]
  | closeConnection connectionId =>
      simp only [table, ResponseBuffer.add, ResponseBuffer.addCloseConnection,
        ResponseBuffer.addItem, ConnectionTable.read, ConnectionTable.mk.injEq, and_true]
      funext k
      simp [HashMap.lookup_erase_ite, Function.update_apply]
  | portForwardData => rfl
  | clipboardContent => rfl

theorem added_add (w : WatchedBuffer) (item : ResponseItem) :
    ({ w with buffer := w.buffer.add item } : WatchedBuffer).added = w.added ++ [item] := by
  simp [added]

/-- The buffer's own table is what a replay of the added items gives. -/
def Faithful (w : WatchedBuffer) : Prop := w.table = ConnectionTable.replay w.added

theorem Faithful.add {w : WatchedBuffer} (h : w.Faithful) (item : ResponseItem) :
    ({ w with buffer := w.buffer.add item } : WatchedBuffer).Faithful := by
  unfold Faithful at h ⊢
  rw [table_add, added_add, ConnectionTable.replay_append_singleton, h]

theorem Faithful.call {w : WatchedBuffer} (h : w.Faithful) (c : BufferCall) :
    (w.call c).Faithful := by
  cases c with
  | addNewConnection connectionId localPort => exact h.add (.newConnection connectionId localPort)
  | addCloseConnection connectionId => exact h.add (.closeConnection connectionId)
  | addPortForwardData connectionId data => exact h.add (.portForwardData connectionId data)
  | addClipboardContent content => exact h.add (.clipboardContent content)
  | takeItems =>
      have hadded : (w.call .takeItems).added = w.added := by
        simp [WatchedBuffer.call, added, ResponseBuffer.takeItems]
      calc (w.call .takeItems).table
        _ = w.table := rfl
        _ = ConnectionTable.replay w.added := h
        _ = ConnectionTable.replay (w.call .takeItems).added := by rw [hadded]
  | clear => rfl

theorem faithful_run (calls : List BufferCall) :
    (Execution.run call {} calls).Faithful := by
  induction calls using List.reverseRecOn with
  | nil => rfl
  | append_singleton calls c ih => simpa using ih.call c

/-- After any calls, the items added since the last `clear` tell which connections are
pending and which were closed, and taking them changes neither. -/
theorem replay_reconstructs (calls : List BufferCall) :
    let w := Execution.run call {} calls
    (∀ connectionId localPort,
      w.buffer.pendingConnections.lookup connectionId = some localPort ↔
        OpenAt w.added connectionId localPort) ∧
    w.buffer.closedConnections = w.added.filterMap ResponseItem.closedConnection ∧
    (w.call .takeItems).buffer.pendingConnections = w.buffer.pendingConnections ∧
    (w.call .takeItems).buffer.closedConnections = w.buffer.closedConnections := by
  intro w
  have h : w.table = ConnectionTable.replay w.added := faithful_run calls
  refine ⟨fun connectionId localPort => ?_, ?_, rfl, rfl⟩
  · calc w.buffer.pendingConnections.lookup connectionId = some localPort
      _ ↔ w.table.openPort connectionId = some localPort := Iff.rfl
      _ ↔ (ConnectionTable.replay w.added).openPort connectionId = some localPort := by rw [h]
      _ ↔ OpenAt w.added connectionId localPort :=
        ConnectionTable.openPort_replay_iff w.added connectionId localPort
  · calc w.buffer.closedConnections
      _ = w.table.closed := rfl
      _ = (ConnectionTable.replay w.added).closed := by rw [h]
      _ = w.added.filterMap ResponseItem.closedConnection := ConnectionTable.closed_replay w.added

end WatchedBuffer

end Yuha
