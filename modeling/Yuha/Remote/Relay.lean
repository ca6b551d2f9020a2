import Yuha.Core.MessageChannel
import Yuha.Library.OrderedMerge

/-!
# The relay of one connection

`RemoteServer::handle_connection` copies between the stream of an accepted client, the
stream of the target and the channel of blocks the client of the remote server sends.
The model follows its `select!` loop from await to await, and then its clean-up.

## Implementation notes

The two ends of the streams are inputs: a `RelayIO` says which branch fires and what the
read or the `write_all` of that branch comes back with. An event that is not possible in
a state leaves the state as it is. `clientReads`, `targetReads` and `received` are not in
the code: they record what the three sources delivered; `clientStream` and `targetStream`
are the bytes written to the two streams.
-/

namespace Yuha

open Library

/-- `[0; 4096]` and what later reads make of it. -/
abbrev RelayBuffer := {bytes : Bytes // bytes.length = 4096}

/-- The bytes one read puts at the front of such a buffer. -/
abbrev ReadChunk := {bytes : Bytes // bytes.length ≤ 4096}

namespace RelayBuffer

def zero : RelayBuffer := ⟨List.replicate 4096 0, List.length_replicate⟩

/-- `read` overwrites the front of the buffer and leaves the rest as it was. -/
def fill (buf : RelayBuffer) (chunk : ReadChunk) : RelayBuffer :=
  ⟨chunk.val ++ buf.val.drop chunk.val.length, by
    have hchunk := chunk.property
    have hbuf := buf.property
    simp only [List.length_append, List.length_drop]
    omega⟩

/-- `&buf[..n]` -/
def upTo (buf : RelayBuffer) (n : Nat) : Bytes := buf.val.take n

@[simp] theorem upTo_fill (buf : RelayBuffer) (chunk : ReadChunk) :
    (buf.fill chunk).upTo chunk.val.length = chunk.val := by
  simp [fill, upTo]

end RelayBuffer

/-- What a `read` comes back with; no bytes are the end of the stream. -/
inductive ReadResult
  | ok (chunk : ReadChunk)
  | error

inductive RelayStage
  /-- At the head of the loop, in `select!`. -/
  | selecting
  /-- In `write_all` to the target, with these bytes. -/
  | writingToTarget (bytes : Bytes)
  /-- In `write_all` to the client, with the first `n` bytes of `target_buf`. -/
  | writingToClient (n : Nat)
  /-- About to lock the response buffer and add the same bytes to it. -/
  | buffering (n : Nat)
  /-- Out of the loop, about to lock the active connections. -/
  | leaving
  /-- About to lock the response buffer for the last time. -/
  | closing
  | ended

namespace RelayStage

/-- The loop has not been left. -/
def inLoop : RelayStage → Bool
  | .selecting | .writingToTarget _ | .writingToClient _ | .buffering _ => true
  | .leaving | .closing | .ended => false

end RelayStage

structure Relay where
  clientBuf : RelayBuffer := .zero
  targetBuf : RelayBuffer := .zero
  stage : RelayStage := .selecting
  dataRx : List Bytes := []
  clientReads : List Bytes := []
  targetReads : List Bytes := []
  received : List Bytes := []
  clientStream : Bytes := []
  targetStream : Bytes := []

inductive RelayIO
  /-- The read of the client stream completes. -/
  | readClient (result : ReadResult)
  /-- The read of the target stream completes. -/
  | readTarget (result : ReadResult)
  /-- `data_rx.recv()` completes. -/
  | recv
  /-- The pending `write_all` completes, or fails after some bytes. -/
  | write (failure : Option Nat)

namespace Relay

/-- `break` -/
def leave (relay : Relay) : Relay := { relay with stage := .leaving }

def readFromClient (relay : Relay) : ReadResult → Relay
  | .error => relay.leave
  | .ok chunk =>
      if chunk.val = [] then relay.leave
      else
        let clientBuf := relay.clientBuf.fill chunk
        { relay with
          clientBuf := clientBuf
          clientReads := relay.clientReads ++ [chunk.val]
          stage := .writingToTarget (clientBuf.upTo chunk.val.length) }

def readFromTarget (relay : Relay) : ReadResult → Relay
  | .error => relay.leave
  | .ok chunk =>
      if chunk.val = [] then relay.leave
      else
        { relay with
          targetBuf := relay.targetBuf.fill chunk
          targetReads := relay.targetReads ++ [chunk.val]
          stage := .writingToClient chunk.val.length }

/-- The `recv` of a channel whose sender is still there, or is dropped: what is queued
comes first, and then a dropped sender shows as `None`. -/
def receive (senderAlive : Bool) (relay : Relay) : Relay :=
  match relay.dataRx with
  | data :: dataRx =>
      { relay with
        dataRx := dataRx
        received := relay.received ++ [data]
        stage := .writingToTarget data }
  | [] => if senderAlive then relay else relay.leave

def writeToTarget (relay : Relay) (bytes : Bytes) : Option Nat → Relay
  | none => { relay with targetStream := relay.targetStream ++ bytes, stage := .selecting }
  | some n => { relay with targetStream := relay.targetStream ++ bytes.take n }.leave

def writeToClient (relay : Relay) (n : Nat) : Option Nat → Relay
  | none =>
      { relay with
        clientStream := relay.clientStream ++ relay.targetBuf.upTo n
        stage := .buffering n }
  | some m =>
      { relay with clientStream := relay.clientStream ++ (relay.targetBuf.upTo n).take m }.leave

/-- One completed await of the loop. -/
def io (senderAlive : Bool) (relay : Relay) (event : RelayIO) : Relay :=
  match relay.stage, event with
  | .selecting, .readClient result => relay.readFromClient result
  | .selecting, .readTarget result => relay.readFromTarget result
  | .selecting, .recv => relay.receive senderAlive
  | .writingToTarget bytes, .write failure => relay.writeToTarget bytes failure
  | .writingToClient n, .write failure => relay.writeToClient n failure
  | _, _ => relay

/-! ## What the sinks have of the sources -/

/-- The block on its way to the target. -/
def toTarget (relay : Relay) : List Bytes :=
  match relay.stage with
  | .writingToTarget bytes => [bytes]
  | _ => []

/-- The target read on its way to the client stream. -/
def toClient (relay : Relay) : List Bytes :=
  match relay.stage with
  | .writingToClient n => [relay.targetBuf.upTo n]
  | _ => []

/-- The target read on its way to the response buffer. -/
def toBuffer (relay : Relay) : List Bytes :=
  match relay.stage with
  | .writingToClient n | .buffering n => [relay.targetBuf.upTo n]
  | _ => []

/-- The sinks have everything the sources delivered, save what is on its way. `data` is
what the connection has added to the response buffer. -/
structure Faithful (relay : Relay) (data : List Bytes) : Prop where
  target : ∃ merged, OrderedMerge relay.clientReads relay.received (merged ++ relay.toTarget) ∧
    relay.targetStream = merged.flatten
  client : relay.clientStream ++ relay.toClient.flatten = relay.targetReads.flatten
  buffer : data ++ relay.toBuffer = relay.targetReads

theorem faithful_new : Faithful {} [] where
  target := ⟨[], .nil, rfl⟩
  client := rfl
  buffer := rfl

variable {relay : Relay} {data : List Bytes}

/-- At the head of the loop nothing is on its way. -/
theorem Faithful.selecting (h : relay.Faithful data) (hstage : relay.stage = .selecting) :
    (∃ merged, OrderedMerge relay.clientReads relay.received merged ∧
      relay.targetStream = merged.flatten) ∧
    relay.clientStream = relay.targetReads.flatten ∧ data = relay.targetReads := by
  have htarget := h.target
  have hclient := h.client
  have hbuffer := h.buffer
  simp only [toTarget, toClient, toBuffer, hstage, List.append_nil, List.flatten_nil] at *
  exact ⟨htarget, hclient, hbuffer⟩

/-- The loop is left from its head, so that nothing is on its way then either. -/
theorem Faithful.leave (h : relay.Faithful data) (hstage : relay.stage = .selecting) :
    relay.leave.Faithful data := by
  obtain ⟨htarget, hclient, hbuffer⟩ := h.selecting hstage
  constructor
  · simpa [Relay.leave, toTarget] using htarget
  · simpa [Relay.leave, toClient] using hclient
  · simpa [Relay.leave, toBuffer] using hbuffer

theorem Faithful.readFromClient (h : relay.Faithful data) (hstage : relay.stage = .selecting)
    (result : ReadResult) : (relay.readFromClient result).Faithful data := by
  cases result with
  | error => exact h.leave hstage
  | ok chunk =>
      simp only [Relay.readFromClient]
      split
      · exact h.leave hstage
      · obtain ⟨⟨merged, hmerge, htarget⟩, hclient, hbuffer⟩ := h.selecting hstage
        constructor
        · refine ⟨merged, ?_, htarget⟩
          simpa [toTarget] using hmerge.fromLeft chunk.val
        · simpa [toClient] using hclient
        · simpa [toBuffer] using hbuffer

theorem Faithful.readFromTarget (h : relay.Faithful data) (hstage : relay.stage = .selecting)
    (result : ReadResult) : (relay.readFromTarget result).Faithful data := by
  cases result with
  | error => exact h.leave hstage
  | ok chunk =>
      simp only [Relay.readFromTarget]
      split
      · exact h.leave hstage
      · obtain ⟨htarget, hclient, hbuffer⟩ := h.selecting hstage
        constructor
        · simpa [toTarget] using htarget
        · simp [toClient, hclient]
        · simp [toBuffer, hbuffer]

theorem Faithful.receive (h : relay.Faithful data) (hstage : relay.stage = .selecting)
    (senderAlive : Bool) : (relay.receive senderAlive).Faithful data := by
  unfold Relay.receive
  split
  · rename_i block dataRx _
    obtain ⟨⟨merged, hmerge, htarget⟩, hclient, hbuffer⟩ := h.selecting hstage
    constructor
    · refine ⟨merged, ?_, htarget⟩
      simpa [toTarget] using hmerge.fromRight block
    · simpa [toClient] using hclient
    · simpa [toBuffer] using hbuffer
  · split
    · exact h
    · exact h.leave hstage

theorem Faithful.writeToTarget (h : relay.Faithful data) {bytes : Bytes}
    (hstage : relay.stage = .writingToTarget bytes) :
    (relay.writeToTarget bytes none).Faithful data := by
  obtain ⟨⟨merged, hmerge, htarget⟩, hclient, hbuffer⟩ := h
  simp only [toTarget, toClient, toBuffer, hstage] at hmerge hclient hbuffer
  constructor
  · refine ⟨merged ++ [bytes], ?_, ?_⟩
    · simpa [Relay.writeToTarget, toTarget] using hmerge
    · simp [Relay.writeToTarget, htarget]
  · simpa [Relay.writeToTarget, toClient] using hclient
  · simpa [Relay.writeToTarget, toBuffer] using hbuffer

theorem Faithful.writeToClient (h : relay.Faithful data) {n : Nat}
    (hstage : relay.stage = .writingToClient n) : (relay.writeToClient n none).Faithful data := by
  obtain ⟨htarget, hclient, hbuffer⟩ := h
  simp only [toTarget, toClient, toBuffer, hstage] at htarget hclient hbuffer
  constructor
  · simpa [Relay.writeToClient, toTarget] using htarget
  · simpa [Relay.writeToClient, toClient] using hclient
  · simpa [Relay.writeToClient, toBuffer] using hbuffer

/-- The read that was written to the client is added to the response buffer. -/
theorem Faithful.buffered (h : relay.Faithful data) {n : Nat}
    (hstage : relay.stage = .buffering n) :
    Faithful { relay with stage := .selecting } (data ++ [relay.targetBuf.upTo n]) := by
  obtain ⟨htarget, hclient, hbuffer⟩ := h
  simp only [toTarget, toClient, toBuffer, hstage] at htarget hclient hbuffer
  exact ⟨htarget, by simpa [toClient] using hclient, by simpa [toBuffer] using hbuffer⟩

/-- No completed await but a failed write loses anything. -/
theorem Faithful.io (h : relay.Faithful data) (senderAlive : Bool) {event : RelayIO}
    (hwrite : ∀ n, event ≠ .write (some n)) : (relay.io senderAlive event).Faithful data := by
  unfold Relay.io
  split
  · exact h.readFromClient ‹_› _
  · exact h.readFromTarget ‹_› _
  · exact h.receive ‹_› senderAlive
  · rename_i bytes failure hstage
    cases failure with
    | none => exact h.writeToTarget hstage
    | some n => exact absurd rfl (hwrite n)
  · rename_i n failure hstage
    cases failure with
    | none => exact h.writeToClient hstage
    | some m => exact absurd rfl (hwrite m)
  · exact h

/-- A failed write leaves the loop, if it does anything. -/
theorem io_write_failed (relay : Relay) (senderAlive : Bool) (n : Nat) :
    relay.io senderAlive (.write (some n)) = relay ∨
      (relay.io senderAlive (.write (some n))).stage = .leaving := by
  cases hstage : relay.stage with
  | writingToTarget bytes =>
      right
      simp [Relay.io, hstage, Relay.writeToTarget, Relay.leave]
  | writingToClient m =>
      right
      simp [Relay.io, hstage, Relay.writeToClient, Relay.leave]
  | _ =>
      left
      simp [Relay.io, hstage]

/-- What a relay in its loop keeps: if the step stays in the loop, it lost nothing. -/
theorem Faithful.io_inLoop (h : relay.Faithful data) (senderAlive : Bool) (event : RelayIO)
    (hloop : (relay.io senderAlive event).stage.inLoop) :
    (relay.io senderAlive event).Faithful data := by
  by_cases hwrite : ∃ n, event = .write (some n)
  · obtain ⟨n, rfl⟩ := hwrite
    rcases io_write_failed relay senderAlive n with hsame | hleft
    · rw [hsame]
      exact h
    · rw [hleft] at hloop
      simp [RelayStage.inLoop] at hloop
  · exact h.io senderAlive fun n heq => hwrite ⟨n, heq⟩

/-- A relay that has left its loop completes no more reads or writes. -/
theorem io_of_not_inLoop (senderAlive : Bool) (event : RelayIO)
    (hstage : relay.stage.inLoop = false) : relay.io senderAlive event = relay := by
  cases hleft : relay.stage with
  | leaving | closing | ended => simp [Relay.io, hleft]
  | _ => simp [hleft, RelayStage.inLoop] at hstage

theorem inLoop_of_io {senderAlive : Bool} {event : RelayIO}
    (hloop : (relay.io senderAlive event).stage.inLoop) : relay.stage.inLoop := by
  by_contra hleft
  rw [Bool.not_eq_true] at hleft
  rw [io_of_not_inLoop senderAlive event hleft, hleft] at hloop
  cases hloop

/-- A relay stays in its loop or is about to leave it. -/
theorem inLoop_io_or_leaving (senderAlive : Bool) (event : RelayIO)
    (hloop : relay.stage.inLoop) : (relay.io senderAlive event).stage.inLoop ∨
      (relay.io senderAlive event).stage = .leaving := by
  unfold Relay.io
  split
  · rename_i result _
    cases result with
    | error => exact .inr rfl
    | ok chunk =>
        simp only [Relay.readFromClient]
        split
        · exact .inr rfl
        · exact .inl rfl
  · rename_i result _
    cases result with
    | error => exact .inr rfl
    | ok chunk =>
        simp only [Relay.readFromTarget]
        split
        · exact .inr rfl
        · exact .inl rfl
  · unfold Relay.receive
    split
    · exact .inl rfl
    · split
      · exact .inl hloop
      · exact .inr rfl
  · rename_i failure _
    cases failure with
    | none => exact .inl rfl
    | some n => exact .inr rfl
  · rename_i failure _
    cases failure with
    | none => exact .inl rfl
    | some n => exact .inr rfl
  · exact .inl hloop

/-- A block is taken from the channel when it is received, and not otherwise. -/
theorem io_blocks (relay : Relay) (senderAlive : Bool) (event : RelayIO) :
    (relay.io senderAlive event).received ++ (relay.io senderAlive event).dataRx =
      relay.received ++ relay.dataRx := by
  unfold Relay.io
  split
  · rename_i result _
    cases result with
    | error => rfl
    | ok chunk =>
        simp only [Relay.readFromClient]
        split <;> rfl
  · rename_i result _
    cases result with
    | error => rfl
    | ok chunk =>
        simp only [Relay.readFromTarget]
        split <;> rfl
  · unfold Relay.receive
    split
    · rename_i block dataRx hrx
      simp [hrx]
    · split <;> rfl
  · rename_i failure _
    cases failure <;> rfl
  · rename_i failure _
    cases failure <;> rfl
  · rfl

/-- Neither a received block nor a write is a read. -/
theorem io_reads (relay : Relay) (senderAlive : Bool) {event : RelayIO}
    (hevent : event = .recv ∨ ∃ failure, event = .write failure) :
    (relay.io senderAlive event).clientReads = relay.clientReads ∧
      (relay.io senderAlive event).targetReads = relay.targetReads := by
  rcases hevent with rfl | ⟨failure, rfl⟩
  · cases hstage : relay.stage with
    | selecting => simp only [Relay.io, hstage, Relay.receive]; split <;> grind [Relay.leave]
    | _ => simp [Relay.io, hstage]
  · cases hstage : relay.stage with
    | writingToTarget bytes =>
        cases failure <;> simp [Relay.io, hstage, Relay.writeToTarget, Relay.leave]
    | writingToClient n =>
        cases failure <;> simp [Relay.io, hstage, Relay.writeToClient, Relay.leave]
    | _ => simp [Relay.io, hstage]

end Relay

end Yuha
