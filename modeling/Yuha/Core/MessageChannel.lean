import Yuha.Core.Error
import Yuha.Library.Framing

/-!
# The message channel

Wire format: two bytes of payload length, big endian, then the payload. `send`
writes the header and the payload in two separate awaits and then flushes;
`receiveBinary` collects reads in `readBuffer` until it holds a complete message.

## Implementation notes

The other end of the stream is an input. An `Interruption` says after how many
bytes a call of `send` is stopped, and a tape of `ReadEvent`s says what each
pending `read_buf` of the receiving side comes back with. A read that is not at
the end of the stream appends at least one byte; the end of the tape is the end of
the stream, where `read_buf` returns 0 however often it is called.
-/

namespace Yuha

abbrev Bytes := List UInt8

/-- `u16::to_be_bytes` of `payload_len as u16`. -/
def u16ToBeBytes (n : Nat) : Bytes := [UInt8.ofNat (n / 256), UInt8.ofNat n]

/-- `u16::from_be_bytes`, widened to `usize`. -/
def u16FromBeBytes (high low : UInt8) : Nat := high.toNat * 256 + low.toNat

@[simp] theorem length_u16ToBeBytes (n : Nat) : (u16ToBeBytes n).length = 2 := rfl

theorem u16FromBeBytes_le (high low : UInt8) : u16FromBeBytes high low ≤ 65535 := by
  have hh := high.toNat_lt
  have hl := low.toNat_lt
  simp only [u16FromBeBytes]
  omega

theorem u16FromBeBytes_ofNat {n : Nat} (h : n ≤ 65535) :
    u16FromBeBytes (UInt8.ofNat (n / 256)) (UInt8.ofNat n) = n := by
  simp only [u16FromBeBytes, UInt8.toNat_ofNat']
  omega

theorem u16ToBeBytes_fromBeBytes (high low : UInt8) :
    u16ToBeBytes (u16FromBeBytes high low) = [high, low] := by
  have hl := low.toNat_lt
  have hhigh : u16FromBeBytes high low / 256 = high.toNat := by
    simp only [u16FromBeBytes]
    omega
  have hlow : UInt8.ofNat (u16FromBeBytes high low) = low := by
    apply UInt8.toNat_inj.mp
    simp only [u16FromBeBytes, UInt8.toNat_ofNat']
    omega
  simp only [u16ToBeBytes, hhigh, hlow, UInt8.ofNat_toNat]

/-- `u16::MAX as usize`. -/
def maxPayload : Nat := 65535

/-- The bytes of one message: header and payload. -/
def frame (payload : Bytes) : Bytes := u16ToBeBytes payload.length ++ payload

@[simp] theorem length_frame (payload : Bytes) : (frame payload).length = 2 + payload.length := by
  simp [frame]

/-! ## Sending -/

/-- Why a `send` did not run to its end: the stream failed, or the caller dropped
the future at an await. -/
inductive Stop
  | failed (message : String)
  | dropped
  deriving DecidableEq, Repr

/-- The stream takes `after` more bytes of this call, then the call stops. -/
structure Interruption where
  after : Nat
  stop : Stop
  deriving DecidableEq, Repr

/-- What the caller of a future sees of it. -/
inductive Outcome (α : Type*)
  | ok (value : α)
  | err (error : YuhaError)
  | dropped
  deriving DecidableEq, Repr

/-- The outcome of a call that is stopped. -/
def Stop.outcome {α : Type*} : Stop → Outcome α
  | .failed message => .err (.io message)
  | .dropped => .dropped

/-- The effect of one `send`: the bytes it put on the stream and its outcome. -/
structure Sent where
  written : Bytes
  outcome : Outcome Unit
  deriving DecidableEq, Repr

/-- `write_all` on a stream with room for `room` more bytes of this call: the bytes
written, and the room left if all of them were. -/
def writeAll (room : Option Nat) (bytes : Bytes) : Bytes × Option (Option Nat) :=
  match room with
  | none => (bytes, some none)
  | some n =>
      if bytes.length ≤ n then (bytes, some (some (n - bytes.length)))
      else (bytes.take n, none)

/-- `MessageChannel::send`. -/
def send (payload : Bytes) (interruption : Option Interruption) : Sent :=
  let stopped : Outcome Unit := interruption.elim (.ok ()) (·.stop.outcome)
  if maxPayload < payload.length then
    ⟨[], .err (.protocol (.bufferOverflow payload.length))⟩
  else
    match writeAll (interruption.map (·.after)) (u16ToBeBytes payload.length) with
    | (header, none) => ⟨header, stopped⟩
    | (header, some room) =>
        match writeAll room payload with
        | (body, none) => ⟨header ++ body, stopped⟩
        -- what stops a call that has written everything stops it in the flush
        | (body, some _) => ⟨header ++ body, stopped⟩

/-- The bytes a `send` leaves on the stream. -/
theorem send_written (payload : Bytes) (interruption : Option Interruption) :
    (send payload interruption).written =
      if maxPayload < payload.length then []
      else match interruption with
        | none => frame payload
        | some i => (frame payload).take i.after := by
  unfold send
  by_cases hlen : maxPayload < payload.length
  · simp [hlen]
  · simp only [hlen, if_false]
    cases interruption with
    | none => simp [writeAll, frame]
    | some i =>
        simp only [Option.map_some, writeAll, length_u16ToBeBytes]
        by_cases hheader : 2 ≤ i.after
        · simp only [hheader, if_true]
          by_cases hbody : payload.length ≤ i.after - 2
          · have hall : (frame payload).length ≤ i.after := by
              rw [length_frame]
              omega
            simp only [hbody, if_true]
            rw [List.take_of_length_le hall, frame]
          · simp only [hbody, if_false, frame]
            rw [List.take_append, length_u16ToBeBytes,
              List.take_of_length_le (l := u16ToBeBytes _) (by simpa using hheader)]
        · simp only [hheader, if_false, frame]
          rw [List.take_append_of_le_length]
          rw [length_u16ToBeBytes]
          omega

theorem send_outcome (payload : Bytes) (interruption : Option Interruption) :
    (send payload interruption).outcome =
      if maxPayload < payload.length then .err (.protocol (.bufferOverflow payload.length))
      else interruption.elim (.ok ()) (·.stop.outcome) := by
  unfold send
  split
  · rfl
  · split
    · rfl
    · split <;> rfl

/-- The calls of `send` on one channel, one after the other, and the bytes they
leave on the stream. -/
def sendAll (calls : List (Bytes × Option Interruption)) : Bytes :=
  calls.flatMap fun call => (send call.1 call.2).written

@[simp] theorem sendAll_nil : sendAll [] = [] := rfl

@[simp] theorem sendAll_cons (call : Bytes × Option Interruption)
    (calls : List (Bytes × Option Interruption)) :
    sendAll (call :: calls) = (send call.1 call.2).written ++ sendAll calls := by
  simp [sendAll]

/-! ## Receiving -/

/-- The receiving side of `MessageChannel`. -/
structure MessageChannel where
  readBuffer : Bytes
  deriving DecidableEq, Repr

/-- `MessageChannel::new_with_stream`. -/
def MessageChannel.new : MessageChannel := ⟨[]⟩

/-- The complete message at the front of a buffer and the bytes after it. -/
def completeMessage (buffer : Bytes) : Option (Bytes × Bytes) :=
  match buffer with
  | high :: low :: body =>
      let payloadLen := u16FromBeBytes high low
      if payloadLen ≤ body.length then some (body.take payloadLen, body.drop payloadLen)
      else none
  | _ => none

/-- What a pending `read_buf` comes back with before the end of the stream. -/
inductive ReadEvent
  | data (bytes : Bytes) (nonempty : bytes ≠ [])
  | failed (message : String)
  | dropped
  deriving DecidableEq, Repr

/-- The bytes a tape delivers. -/
def ReadEvent.bytes : ReadEvent → Bytes
  | .data bytes _ => bytes
  | .failed _ => []
  | .dropped => []

/-- The byte stream that a tape cuts into reads. -/
def stream (tape : List ReadEvent) : Bytes := tape.flatMap ReadEvent.bytes

@[simp] theorem stream_nil : stream [] = [] := rfl

@[simp] theorem stream_cons (event : ReadEvent) (tape : List ReadEvent) :
    stream (event :: tape) = event.bytes ++ stream tape := by
  simp [stream]

/-- What one call of `receive` leaves behind. -/
structure Received where
  outcome : Outcome Bytes
  channel : MessageChannel
  tape : List ReadEvent
  deriving DecidableEq, Repr

/-- `MessageChannel::receive_binary`; the recursion is its loop. -/
def receiveBinary (channel : MessageChannel) (tape : List ReadEvent) : Received :=
  match completeMessage channel.readBuffer with
  | some (payload, readBuffer) => ⟨.ok payload, ⟨readBuffer⟩, tape⟩
  | none =>
      match tape with
      | [] => ⟨.err (.protocol .channelClosed), channel, []⟩
      | .data bytes _ :: tape => receiveBinary ⟨channel.readBuffer ++ bytes⟩ tape
      | .failed message :: tape => ⟨.err (.io message), channel, tape⟩
      | .dropped :: tape => ⟨.dropped, channel, tape⟩

/-- `MessageChannel::receive`. -/
def receive (channel : MessageChannel) (tape : List ReadEvent) : Received :=
  receiveBinary channel tape

/-- What several calls of `receive`, one after the other, leave behind. -/
structure ReceivedMany where
  outcomes : List (Outcome Bytes)
  channel : MessageChannel
  tape : List ReadEvent
  deriving DecidableEq, Repr

/-- `n` calls of `receive`. -/
def receiveMany : Nat → MessageChannel → List ReadEvent → ReceivedMany
  | 0, channel, tape => ⟨[], channel, tape⟩
  | n + 1, channel, tape =>
      let first := receive channel tape
      let more := receiveMany n first.channel first.tape
      { more with outcomes := first.outcome :: more.outcomes }

/-! ## The frame format -/

theorem completeMessage_frame_append (payload rest : Bytes) (h : payload.length ≤ maxPayload) :
    completeMessage (frame payload ++ rest) = some (payload, rest) := by
  have hlen : u16FromBeBytes (UInt8.ofNat (payload.length / 256)) (UInt8.ofNat payload.length) =
      payload.length := u16FromBeBytes_ofNat h
  simp [completeMessage, frame, u16ToBeBytes, hlen]

theorem eq_frame_of_completeMessage (buffer payload rest : Bytes)
    (h : completeMessage buffer = some (payload, rest)) :
    payload.length ≤ maxPayload ∧ buffer = frame payload ++ rest := by
  unfold completeMessage at h
  split at h
  · rename_i high low body
    have hle := u16FromBeBytes_le high low
    by_cases hbody : u16FromBeBytes high low ≤ body.length
    · simp only [hbody, if_true, Option.some.injEq, Prod.mk.injEq] at h
      obtain ⟨rfl, rfl⟩ := h
      have hlen : (body.take (u16FromBeBytes high low)).length = u16FromBeBytes high low := by
        rw [List.length_take]
        omega
      refine ⟨by rw [hlen]; exact hle, ?_⟩
      rw [frame, hlen, u16ToBeBytes_fromBeBytes]
      simp
    · simp [hbody] at h
  · cases h

/-- Messages of at most `maxPayload` bytes, delimited by their header. -/
def framing : Library.Framing UInt8 Bytes where
  Fits payload := payload.length ≤ maxPayload
  encode := frame
  parse := completeMessage
  parse_encode := completeMessage_frame_append
  eq_encode_of_parse := eq_frame_of_completeMessage
  encode_ne_nil := by
    intro payload
    simp [frame, u16ToBeBytes]

@[simp] theorem framing_encode (payload : Bytes) : framing.encode payload = frame payload := rfl

@[simp] theorem framing_parse (buffer : Bytes) :
    framing.parse buffer = completeMessage buffer := rfl

@[simp] theorem framing_fits (payload : Bytes) :
    framing.Fits payload ↔ payload.length ≤ maxPayload := Iff.rfl

end Yuha
