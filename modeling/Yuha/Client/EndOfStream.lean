import Yuha.Client.SshChannel
import Yuha.Core.Delivery

/-!
# The end of the stream of an SSH channel

A poll that comes back ready and has written nothing means the end of the stream. The
adapter also comes back so for an empty packet, and the call of `receive` that reads from it
then fails with `ChannelClosed`, which the other side has not done.

## Implementation notes

`reportedEnd` is not in the code, and `results` are what the calls of `receive` returned.
A poll that comes while no call of `receive` is pending is another reader's.
-/

namespace Yuha

open Library Library.Execution

/-- The room in the buffer of a poll. -/
abbrev Capacity := { n : Nat // 0 < n }

/-- A connection and the `MessageChannel` over its adapter. -/
structure SshReceiver where
  connection : SshConnection
  channel : MessageChannel := ⟨[]⟩
  /-- A call of `receive` waits for its `read_buf`. -/
  receiving : Bool := false
  reportedEnd : Bool := false
  results : List (Outcome Bytes) := []

inductive ReceiverEvent
  | data (channel : ChannelId) (bytes : Bytes)
  /-- The connection ends, and the handler is dropped. -/
  | close
  | receive
  /-- The pending call of `receive` is dropped. -/
  | abandon
  | poll (capacity : Capacity)

namespace SshReceiver

def new (channelId : ChannelId) : SshReceiver where
  connection := .new channelId

/-- The loop of `receive_binary` up to its next read. -/
def advance (r : SshReceiver) : SshReceiver :=
  match completeMessage r.channel.readBuffer with
  | some (payload, readBuffer) =>
      { r with
        channel := ⟨readBuffer⟩
        receiving := false
        results := r.results ++ [.ok payload] }
  | none => { r with receiving := true }

/-- The pending call of `receive` is given the result of a poll. -/
def take (r : SshReceiver) : ReadPoll → SshReceiver
  | .pending => r
  | .ready [] => { r with receiving := false, results := r.results ++ [closed] }
  | .ready bytes => { r with channel := ⟨r.channel.readBuffer ++ bytes⟩ }.advance

def poll (r : SshReceiver) (capacity : Capacity) : SshReceiver :=
  let poll := (r.connection.adapter.pollRead capacity).1
  let polled : SshReceiver := { r with
    connection := r.connection.step (.read capacity)
    reportedEnd := r.reportedEnd || decide (poll = .ready []) }
  if r.receiving then polled.take poll else polled

def step (r : SshReceiver) : ReceiverEvent → SshReceiver
  | .data channel bytes => { r with connection := r.connection.step (.data channel bytes) }
  | .close => { r with connection := r.connection.step .close }
  | .receive => if r.receiving then r else r.advance
  | .abandon => { r with receiving := false }
  | .poll capacity => r.poll capacity

/-- The sender is gone, and everything it sent was handed out. -/
def AtEnd (adapter : SshChannelAdapter) : Prop := adapter.senderDropped ∧ adapter.unread = []

/-- The end was reported, and `ChannelClosed` returned, only at the end. -/
def EndsHonestly (r : SshReceiver) : Prop :=
  (r.reportedEnd → AtEnd r.connection.adapter) ∧
    (closed ∈ r.results → AtEnd r.connection.adapter)

/-- A poll comes to an empty packet only if the sender is gone and left nothing else. -/
def PassesEmpty (r : SshReceiver) : ReceiverEvent → Prop
  | .poll _ => r.connection.adapter.readBuf = [] → r.connection.adapter.readRx.head? = some [] →
      r.connection.adapter.senderDropped ∧
        ∀ packet ∈ r.connection.adapter.readRx, packet = []
  | _ => True

/-! ## The adapter -/

theorem pollRead_eq_ready_nil_iff (adapter : SshChannelAdapter) (capacity : Capacity) :
    (adapter.pollRead capacity).1 = .ready [] ↔
      adapter.readBuf = [] ∧ (adapter.readRx.head? = some [] ∨
        adapter.readRx = [] ∧ adapter.senderDropped) := by
  obtain ⟨channelId, readRx, senderDropped, readBuf⟩ := adapter
  obtain ⟨capacity, hcapacity⟩ := capacity
  have htake : ∀ bytes : Bytes, bytes.take capacity = [] ↔ bytes = [] := by
    intro bytes
    rw [List.take_eq_nil_iff]
    exact or_iff_right (Nat.ne_of_gt hcapacity)
  cases readBuf with
  | cons byte readBuf => simp [SshChannelAdapter.pollRead, htake]
  | nil =>
      cases readRx with
      | cons data readRx => simp [SshChannelAdapter.pollRead, htake]
      | nil => cases senderDropped <;> simp [SshChannelAdapter.pollRead]

theorem unread_eq_nil_iff (adapter : SshChannelAdapter) :
    adapter.unread = [] ↔ adapter.readBuf = [] ∧ ∀ packet ∈ adapter.readRx, packet = [] := by
  rw [SshChannelAdapter.unread, List.append_eq_nil_iff, List.flatten_eq_nil_iff]

/-- The stream stays at its end. -/
theorem AtEnd.step {connection : SshConnection} (h : AtEnd connection.adapter) (e : SshEvent) :
    AtEnd (connection.step e).adapter := by
  obtain ⟨hdropped, hunread⟩ := h
  cases e with
  | data channel bytes =>
      simp only [SshConnection.step, hdropped, if_true]
      exact ⟨hdropped, hunread⟩
  | close => exact ⟨rfl, hunread⟩
  | read remaining =>
      refine ⟨(SshConnection.senderDropped_read connection remaining).trans hdropped, ?_⟩
      have hrest := (SshConnection.pollRead_unread connection.adapter remaining).1
      rw [hunread] at hrest
      exact (List.append_eq_nil_iff.mp hrest).2

/-! ## The calls of `receive` -/

variable {r : SshReceiver}

theorem connection_advance (r : SshReceiver) : r.advance.connection = r.connection := by
  unfold advance
  split <;> rfl

theorem reportedEnd_advance (r : SshReceiver) : r.advance.reportedEnd = r.reportedEnd := by
  unfold advance
  split <;> rfl

theorem closed_mem_advance (r : SshReceiver) :
    closed ∈ r.advance.results ↔ closed ∈ r.results := by
  unfold advance
  split <;> simp [closed]

/-- Only an empty read makes a call of `receive` return `ChannelClosed`. -/
theorem take_frame (r : SshReceiver) (poll : ReadPoll) :
    (r.take poll).connection = r.connection ∧ (r.take poll).reportedEnd = r.reportedEnd ∧
      (closed ∈ (r.take poll).results → closed ∈ r.results ∨ poll = .ready []) := by
  match poll with
  | .pending => exact ⟨rfl, rfl, .inl⟩
  | .ready [] => exact ⟨rfl, rfl, fun _ => .inr rfl⟩
  | .ready (byte :: bytes) =>
      refine ⟨connection_advance _, reportedEnd_advance _, fun h => .inl ?_⟩
      exact (closed_mem_advance { r with
        channel := ⟨r.channel.readBuffer ++ byte :: bytes⟩ }).mp h

theorem poll_frame (r : SshReceiver) (capacity : Capacity) :
    (r.poll capacity).connection = r.connection.step (.read capacity) ∧
      ((r.poll capacity).reportedEnd ↔ r.reportedEnd ∨
        (r.connection.adapter.pollRead capacity).1 = .ready []) ∧
      (closed ∈ (r.poll capacity).results → closed ∈ r.results ∨
        (r.connection.adapter.pollRead capacity).1 = .ready []) := by
  unfold poll
  split
  · obtain ⟨hconnection, hreported, hclosed⟩ := take_frame { r with
      connection := r.connection.step (.read capacity)
      reportedEnd := r.reportedEnd ||
        decide ((r.connection.adapter.pollRead capacity).1 = .ready []) }
      (r.connection.adapter.pollRead capacity).1
    exact ⟨hconnection, by rw [hreported]; simp, hclosed⟩
  · exact ⟨rfl, by simp, .inl⟩

/-- A step that reports nothing new keeps the reports honest. -/
theorem EndsHonestly.of_same {r' : SshReceiver} (h : r.EndsHonestly)
    (hend : AtEnd r.connection.adapter → AtEnd r'.connection.adapter)
    (hreported : r'.reportedEnd → r.reportedEnd)
    (hclosed : closed ∈ r'.results → closed ∈ r.results) : r'.EndsHonestly :=
  ⟨fun hr => hend (h.1 (hreported hr)), fun hr => hend (h.2 (hclosed hr))⟩

theorem EndsHonestly.advance (h : r.EndsHonestly) : r.advance.EndsHonestly := by
  refine h.of_same ?_ ?_ (closed_mem_advance r).mp
  · rw [connection_advance]
    exact id
  · rw [reportedEnd_advance]
    exact id

theorem EndsHonestly.poll (h : r.EndsHonestly) {capacity : Capacity}
    (hpasses : r.PassesEmpty (.poll capacity)) : (r.poll capacity).EndsHonestly := by
  obtain ⟨hconnection, hreported, hclosed⟩ := poll_frame r capacity
  have hready : (r.connection.adapter.pollRead capacity).1 = .ready [] →
      AtEnd r.connection.adapter := by
    rw [pollRead_eq_ready_nil_iff]
    rintro ⟨hbuf, hhead | ⟨hqueue, hdropped⟩⟩
    · obtain ⟨hdropped, hempty⟩ := hpasses hbuf hhead
      exact ⟨hdropped, (unread_eq_nil_iff _).mpr ⟨hbuf, hempty⟩⟩
    · exact ⟨hdropped, by simp [SshChannelAdapter.unread, hbuf, hqueue]⟩
  have hnow : (r.poll capacity).reportedEnd ∨ closed ∈ (r.poll capacity).results →
      AtEnd r.connection.adapter := by
    rintro (hr | hr)
    · exact (hreported.mp hr).elim h.1 hready
    · exact (hclosed hr).elim h.2 hready
  unfold EndsHonestly
  rw [hconnection]
  exact ⟨fun hr => (hnow (.inl hr)).step _, fun hr => (hnow (.inr hr)).step _⟩

theorem EndsHonestly.step (h : r.EndsHonestly) {e : ReceiverEvent} (hpasses : r.PassesEmpty e) :
    (r.step e).EndsHonestly := by
  cases e with
  | data channel bytes => exact h.of_same (fun hend => hend.step _) id id
  | close => exact h.of_same (fun hend => hend.step _) id id
  | receive =>
      simp only [SshReceiver.step]
      split
      · exact h
      · exact h.advance
  | abandon => exact h.of_same id id id
  | poll capacity => exact h.poll hpasses

/-- A poll that comes to an empty packet reports the end whether it is there or not. -/
theorem not_endsHonestly_step {e : ReceiverEvent} (hpasses : ¬ r.PassesEmpty e) :
    ¬ (r.step e).EndsHonestly := by
  cases e with
  | data | close | receive | abandon => exact absurd trivial hpasses
  | poll capacity =>
      simp only [PassesEmpty, Classical.not_imp] at hpasses
      obtain ⟨hbuf, hhead, hmore⟩ := hpasses
      have hready := (pollRead_eq_ready_nil_iff r.connection.adapter capacity).mpr
        ⟨hbuf, .inl hhead⟩
      obtain ⟨hconnection, hreported, -⟩ := poll_frame r capacity
      rintro ⟨hend, -⟩
      have hatEnd : AtEnd (r.poll capacity).connection.adapter := hend (hreported.mpr (.inr hready))
      rw [hconnection] at hatEnd
      obtain ⟨hdropped, hunread⟩ := hatEnd
      rw [SshConnection.senderDropped_read] at hdropped
      -- The poll handed out nothing, so nothing was unread before it either.
      have hrest := (SshConnection.pollRead_unread r.connection.adapter capacity).1
      rw [hready] at hrest
      have hbefore : r.connection.adapter.unread = [] := hrest.symm.trans hunread
      exact hmore ⟨hdropped, ((unread_eq_nil_iff _).mp hbefore).2⟩

/-- The adapter reports the end of the stream, and `receive` fails with `ChannelClosed`, only
at the end, exactly if no poll comes to an empty packet before it. -/
theorem endsHonestly_iff_passesEmpty (channelId : ChannelId) (es : List ReceiverEvent) :
    Always step EndsHonestly (new channelId) es ↔
      Along step (fun _ r e => r.PassesEmpty e) (new channelId) es := by
  refine always_iff_along (A := fun _ _ _ => True) (I := fun _ r => r.EndsHonestly)
    (fun _ _ _ => trivial) ?_ (fun _ _ h => h) ?_ ?_
  · simp [EndsHonestly, new]
  · exact fun _ r e h _ hpasses => h.step hpasses
  · exact fun _ r e _ _ hpasses => not_endsHonestly_step hpasses

/-- While `receive` waits, a packet without data arrives, and the channel is taken for
closed. -/
theorem endsHonestly_emptyPacket_false :
    ¬ ∀ channelId es, Always step EndsHonestly (new channelId) es := by
  intro h
  have hend := (h 0 [.receive, .data 0 [], .poll ⟨64, by decide⟩]).last.2 (by decide)
  exact absurd hend.1 (by decide)

end SshReceiver

end Yuha
