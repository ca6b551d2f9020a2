import Mathlib.Algebra.GroupWithZero.Nat
import Yuha.Core.Protocol
import Yuha.Library.Execution

/-!
# The stream of an SSH channel

`MyHandler` is told of the data of every channel of a connection. It puts all of it into
one queue, from which the adapter of the session's channel reads. So whatever the commands
of an upload print on their own channels comes out of the session's stream.

## Implementation notes

`delivered` and `arrived` are not in the code: they record the bytes that were read and the
packets that arrived. Data that arrives before there is an adapter waits in the queue.
-/

namespace Yuha

open Library Library.Execution

abbrev ChannelId := UInt32

/-- The result of `poll_read`: it filled the buffer with these bytes, or has to wait. -/
inductive ReadPoll
  | ready (bytes : Bytes)
  | pending
  deriving DecidableEq, Repr

structure SshChannelAdapter where
  channelId : ChannelId
  readRx : List Bytes := []
  senderDropped : Bool := false
  readBuf : Bytes := []
  deriving DecidableEq, Repr

/-- `MyHandler::data`, which does not look at the channel. -/
def handlerData (adapter : SshChannelAdapter) (_channel : ChannelId) (data : Bytes) :
    SshChannelAdapter :=
  { adapter with readRx := adapter.readRx ++ [data] }

namespace SshChannelAdapter

def pollRead (adapter : SshChannelAdapter) (remaining : Nat) : ReadPoll × SshChannelAdapter :=
  if !adapter.readBuf.isEmpty then
    (.ready (adapter.readBuf.take remaining),
      { adapter with readBuf := adapter.readBuf.drop remaining })
  else
    match adapter.readRx with
    | data :: readRx =>
        (.ready (data.take remaining),
          { adapter with
            readRx := readRx
            readBuf := adapter.readBuf ++ data.drop remaining })
    | [] => if adapter.senderDropped then (.ready [], adapter) else (.pending, adapter)

/-- What the adapter has yet to hand out. -/
def unread (adapter : SshChannelAdapter) : Bytes := adapter.readBuf ++ adapter.readRx.flatten

end SshChannelAdapter

def ReadPoll.bytes : ReadPoll → Bytes
  | .ready bytes => bytes
  | .pending => []

/-- A connection with the history of what arrived and what was read. -/
structure SshConnection where
  adapter : SshChannelAdapter
  delivered : Bytes := []
  arrived : List (ChannelId × Bytes) := []
  deriving DecidableEq, Repr

inductive SshEvent
  /-- A packet of data arrives on a channel. -/
  | data (channel : ChannelId) (bytes : Bytes)
  /-- The connection ends, and the handler is dropped. -/
  | close
  /-- The stream is polled for so many bytes. -/
  | read (remaining : Nat)

namespace SshConnection

def new (channelId : ChannelId) : SshConnection where
  adapter := { channelId := channelId }

def step (connection : SshConnection) : SshEvent → SshConnection
  | .data channel bytes =>
      if connection.adapter.senderDropped then connection
      else { connection with
        adapter := handlerData connection.adapter channel bytes
        arrived := connection.arrived ++ [(channel, bytes)] }
  | .close => { connection with adapter := { connection.adapter with senderDropped := true } }
  | .read remaining =>
      let (poll, adapter) := connection.adapter.pollRead remaining
      { connection with
        adapter := adapter
        delivered := connection.delivered ++ poll.bytes }

/-- The data among these packets that arrived on one channel. -/
def bytesOn (channelId : ChannelId) (arrived : List (ChannelId × Bytes)) : Bytes :=
  arrived.flatMap fun packet => if packet.1 = channelId then packet.2 else []

/-- The data that arrived on the adapter's own channel. -/
def own (connection : SshConnection) : Bytes :=
  bytesOn connection.adapter.channelId connection.arrived

/-- What was read, followed by what is still to be read, is the data of the own channel. -/
def ReadsOwn (connection : SshConnection) : Prop :=
  connection.delivered ++ connection.adapter.unread = connection.own

/-- Only the own channel brings any bytes. -/
def ForOwn (connection : SshConnection) (event : SshEvent) : Prop :=
  ∀ channel bytes, event = .data channel bytes → connection.adapter.senderDropped = false →
    channel = connection.adapter.channelId ∨ bytes = []

variable {connection : SshConnection}

/-- A poll hands out the front of what is unread. -/
theorem pollRead_unread (adapter : SshChannelAdapter) (remaining : Nat) :
    (adapter.pollRead remaining).1.bytes ++ (adapter.pollRead remaining).2.unread =
        adapter.unread ∧
      (adapter.pollRead remaining).2.channelId = adapter.channelId := by
  obtain ⟨channelId, readRx, senderDropped, readBuf⟩ := adapter
  cases readBuf with
  | cons byte readBuf =>
      refine ⟨?_, rfl⟩
      simp only [SshChannelAdapter.pollRead, List.isEmpty_cons, Bool.not_false, if_true,
        ReadPoll.bytes, SshChannelAdapter.unread]
      rw [← List.append_assoc, List.take_append_drop]
  | nil =>
      cases readRx with
      | cons data readRx =>
          refine ⟨?_, rfl⟩
          simp [SshChannelAdapter.pollRead, ReadPoll.bytes, SshChannelAdapter.unread,
            ← List.append_assoc]
      | nil => cases senderDropped <;> exact ⟨rfl, rfl⟩

theorem channelId_step (connection : SshConnection) (event : SshEvent) :
    (connection.step event).adapter.channelId = connection.adapter.channelId := by
  cases event with
  | data channel bytes =>
      simp only [step]
      split <;> rfl
  | close => rfl
  | read remaining => exact (pollRead_unread connection.adapter remaining).2

theorem senderDropped_read (connection : SshConnection) (remaining : Nat) :
    (connection.step (.read remaining)).adapter.senderDropped =
      connection.adapter.senderDropped := by
  obtain ⟨⟨channelId, readRx, senderDropped, readBuf⟩, delivered, arrived⟩ := connection
  cases readBuf with
  | cons byte readBuf => rfl
  | nil =>
      cases readRx with
      | cons data readRx => rfl
      | nil => cases senderDropped <;> rfl

/-- Polls and the end of the connection change nothing about the bytes, and a packet adds
its bytes whatever its channel. -/
theorem stream_step (connection : SshConnection) (event : SshEvent) :
    (connection.step event).delivered ++ (connection.step event).adapter.unread =
      connection.delivered ++ connection.adapter.unread ++
        match event with
        | .data _ bytes => if connection.adapter.senderDropped then [] else bytes
        | _ => [] := by
  cases event with
  | data channel bytes =>
      simp only [step]
      split
      · simp
      · simp [handlerData, SshChannelAdapter.unread]
  | close => simp [step, SshChannelAdapter.unread]
  | read remaining =>
      simp only [step, List.append_nil, List.append_assoc,
        (pollRead_unread connection.adapter remaining).1]

/-- The packets that are put into the queue, which are those before the connection ends. -/
def packets : List SshEvent → List Bytes
  | [] => []
  | .data _ bytes :: events => bytes :: packets events
  | .close :: _ => []
  | .read _ :: events => packets events

/-- A run adds the packets it puts into the queue to the stream, and nothing else. -/
theorem stream_run (connection : SshConnection) (events : List SshEvent) :
    (run step connection events).delivered ++ (run step connection events).adapter.unread =
      connection.delivered ++ connection.adapter.unread ++
        if connection.adapter.senderDropped then [] else (packets events).flatten := by
  induction events generalizing connection with
  | nil => simp [packets]
  | cons event events ih =>
      rw [run_cons, ih, stream_step]
      cases event with
      | data channel bytes =>
          by_cases hdropped : connection.adapter.senderDropped = true
          · simp [step, hdropped]
          · simp [step, hdropped, handlerData, packets]
      | close => simp [step, packets]
      | read remaining =>
          have hdropped := senderDropped_read connection remaining
          simp [hdropped, packets]

/-- However the packets are cut by the reads, nothing is lost, repeated or moved: what was
read, then the leftover, then the queue, are the packets one after the other. -/
theorem delivered_readBuf_readRx (channelId : ChannelId) (events : List SshEvent) :
    (run step (new channelId) events).delivered ++
        (run step (new channelId) events).adapter.readBuf ++
        (run step (new channelId) events).adapter.readRx.flatten =
      (packets events).flatten := by
  have h := stream_run (new channelId) events
  rw [SshChannelAdapter.unread, ← List.append_assoc] at h
  simpa [new, SshChannelAdapter.unread] using h

theorem own_step (connection : SshConnection) (event : SshEvent) :
    (connection.step event).own =
      connection.own ++
        match event with
        | .data channel bytes =>
            if connection.adapter.senderDropped then []
            else if channel = connection.adapter.channelId then bytes else []
        | _ => [] := by
  unfold own
  rw [channelId_step]
  cases event with
  | data channel bytes =>
      simp only [step]
      split
      · simp
      · simp [bytesOn]
  | close | read remaining => simp [step]

/-- How many polls and bytes there are to come, at most. -/
def backlog (connection : SshConnection) : Nat :=
  connection.adapter.readBuf.length +
    (connection.adapter.readRx.map fun data => data.length + 1).sum

theorem backlog_step_read {remaining : Nat} (hremaining : 0 < remaining)
    (h : connection.adapter.unread ≠ []) :
    (connection.step (.read remaining)).backlog < connection.backlog := by
  obtain ⟨⟨channelId, readRx, senderDropped, readBuf⟩, delivered, arrived⟩ := connection
  cases readBuf with
  | cons byte readBuf =>
      simp only [step, SshChannelAdapter.pollRead, backlog, List.isEmpty_cons, Bool.not_false,
        if_true, List.length_drop, List.length_cons]
      omega
  | nil =>
      cases readRx with
      | nil => simp [SshChannelAdapter.unread] at h
      | cons data readRx =>
          simp only [step, SshChannelAdapter.pollRead, backlog, List.isEmpty_nil, Bool.not_true,
            Bool.false_eq_true, if_false, List.nil_append, List.length_drop, List.length_nil,
            List.map_cons, List.sum_cons]
          omega

/-- Whoever goes on reading comes to the end of what is unread. -/
theorem exists_drained (connection : SshConnection) {remaining : Nat}
    (hremaining : 0 < remaining) :
    ∃ polls, (run step connection (List.replicate polls (.read remaining))).delivered =
      connection.delivered ++ connection.adapter.unread := by
  induction hbacklog : connection.backlog using Nat.strong_induction_on generalizing connection with
  | _ backlog ih =>
      by_cases hunread : connection.adapter.unread = []
      · exact ⟨0, by simp [hunread]⟩
      · have hless := backlog_step_read hremaining hunread
        obtain ⟨polls, hpolls⟩ := ih _ (hbacklog ▸ hless) (connection.step (.read remaining)) rfl
        refine ⟨polls + 1, ?_⟩
        rw [List.replicate_succ, run_cons, hpolls, stream_step]
        simp

theorem readsOwn_step_iff (h : connection.ReadsOwn) (event : SshEvent) :
    (connection.step event).ReadsOwn ↔ connection.ForOwn event := by
  unfold ReadsOwn at h ⊢
  rw [stream_step, own_step, h, List.append_cancel_left_eq]
  cases event with
  | data channel bytes =>
      by_cases hdropped : connection.adapter.senderDropped = true
      · simp [ForOwn, hdropped]
      · by_cases hchannel : channel = connection.adapter.channelId
        · simp [ForOwn, hdropped, hchannel]
        · simp [ForOwn, hdropped, hchannel]
  | close | read remaining => simp [ForOwn]

/-- The stream is the data of the own channel throughout, exactly if no other channel
brings any bytes. -/
theorem readsOwn_iff_forOwn (channelId : ChannelId) (events : List SshEvent) :
    Always step ReadsOwn (new channelId) events ↔
      Along step (fun _ connection event => connection.ForOwn event) (new channelId) events := by
  refine always_iff_along (A := fun _ _ _ => True) (I := fun _ connection => connection.ReadsOwn)
    (fun _ _ _ => trivial) rfl (fun _ _ h => h) ?_ ?_
  · exact fun _ connection event h _ hown => (readsOwn_step_iff h event).mpr hown
  · exact fun _ connection event h _ hforeign hafter =>
      hforeign ((readsOwn_step_iff h event).mp hafter)

/-- What a connection reads to the end, if only the own channel brings any bytes. -/
theorem exists_delivered_eq_own {channelId : ChannelId} {events : List SshEvent}
    (h : Along step (fun _ connection event => connection.ForOwn event) (new channelId) events)
    {remaining : Nat} (hremaining : 0 < remaining) :
    ∃ polls, (run step (new channelId)
        (events ++ List.replicate polls (.read remaining))).delivered =
      (run step (new channelId) events).own := by
  obtain ⟨polls, hpolls⟩ := exists_drained (run step (new channelId) events) hremaining
  have hreads := h.invariant (I := fun _ connection => connection.ReadsOwn) rfl
    (fun _ _ event hreads hown => (readsOwn_step_iff hreads event).mpr hown) events
    (List.prefix_refl events)
  exact ⟨polls, by rw [run_append, hpolls, hreads]⟩

/-- The command that uploaded the binary reports on its own channel. The first two bytes of
the report are read as the header of a frame. -/
theorem readsOwn_report_false :
    ¬ Always step ReadsOwn (new 1) [.data 0 (ascii "Transfer completed\n"), .read 2] ∧
      (run step (new 1) [.data 0 (ascii "Transfer completed\n"), .read 2]).delivered =
        ascii "Tr" ∧
      (run step (new 1) [.data 0 (ascii "Transfer completed\n"), .read 2]).own = [] := by
  refine ⟨fun h => ?_, by decide, by decide⟩
  exact absurd h.last (by unfold ReadsOwn; decide)

end SshConnection

end Yuha
