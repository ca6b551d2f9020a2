import Mathlib.Logic.Relation
import Yuha.Core.MessageChannel

/-!
# What `receive` returns

However a stream is cut into reads, and wherever a pending `receive` fails or is
dropped in between, the calls that do return give the frames of the stream in order
and then `ChannelClosed` for ever. The loop keeps nothing but `readBuffer` across an
await, so the frames returned and the buffer together are the bytes read so far.
-/

namespace Yuha

/-- The result of `receive` at the end of the stream. -/
def closed : Outcome Bytes := .err (.protocol .channelClosed)

/-- The call was not stopped by the stream or by its caller. -/
def Outcome.settled {α : Type*} : Outcome α → Bool
  | .err (.io _) => false
  | .dropped => false
  | _ => true

@[simp] theorem Outcome.settled_ok {α : Type*} (value : α) :
    (Outcome.ok value).settled = true := rfl

@[simp] theorem closed_settled : closed.settled = true := rfl

@[simp] theorem Stop.settled_outcome {α : Type*} (stop : Stop) :
    (stop.outcome : Outcome α).settled = false := by
  cases stop <;> rfl

/-- The payload of a call that returned one. -/
def Outcome.payloads {α : Type*} : Outcome α → List α
  | .ok value => [value]
  | _ => []

@[simp] theorem Outcome.payloads_ok {α : Type*} (value : α) :
    (Outcome.ok value).payloads = [value] := rfl

@[simp] theorem closed_payloads : closed.payloads = [] := rfl

@[simp] theorem Stop.payloads_outcome {α : Type*} (stop : Stop) :
    (stop.outcome : Outcome α).payloads = [] := by
  cases stop <;> rfl

/-- The reads of a tape in which the pending call is stopped. -/
def ReadEvent.stops : ReadEvent → Bool
  | .data _ _ => false
  | .failed _ => true
  | .dropped => true

/-- The number of calls a tape stops. -/
def stops (tape : List ReadEvent) : Nat := tape.countP ReadEvent.stops

/-- The bytes that have reached a receiver or will: its buffer and the rest of the
tape. -/
def pending (channel : MessageChannel) (tape : List ReadEvent) : Bytes :=
  channel.readBuffer ++ stream tape

/-- The three ways a call of `receive` ends. -/
inductive Receives (channel : MessageChannel) (tape : List ReadEvent) : Received → Prop
  | frame (payload : Bytes) (channel' : MessageChannel) (tape' : List ReadEvent)
      (fits : payload.length ≤ maxPayload)
      (bytes : pending channel tape = frame payload ++ pending channel' tape')
      (count : stops tape' ≤ stops tape) :
      Receives channel tape ⟨.ok payload, channel', tape'⟩
  | closed (channel' : MessageChannel) (incomplete : completeMessage channel'.readBuffer = none)
      (bytes : pending channel tape = pending channel' [])
      (count : stops [] ≤ stops tape) :
      Receives channel tape ⟨Yuha.closed, channel', []⟩
  | stopped (stop : Stop) (channel' : MessageChannel) (tape' : List ReadEvent)
      (bytes : pending channel tape = pending channel' tape')
      (count : stops tape' + 1 ≤ stops tape) :
      Receives channel tape ⟨stop.outcome, channel', tape'⟩

theorem Receives.of_read {channel : MessageChannel} {tape : List ReadEvent} {bytes : Bytes}
    {nonempty : bytes ≠ []} {received : Received}
    (h : Receives ⟨channel.readBuffer ++ bytes⟩ tape received) :
    Receives channel (.data bytes nonempty :: tape) received := by
  have hpending : pending channel (.data bytes nonempty :: tape) =
      pending ⟨channel.readBuffer ++ bytes⟩ tape := by
    simp [pending, ReadEvent.bytes]
  have hstops : stops (.data bytes nonempty :: tape) = stops tape := by
    simp [stops, ReadEvent.stops]
  cases h with
  | frame payload channel' tape' fits hbytes count =>
      exact .frame payload channel' tape' fits (hpending.trans hbytes) (hstops ▸ count)
  | closed channel' incomplete hbytes count =>
      exact .closed channel' incomplete (hpending.trans hbytes) (hstops ▸ count)
  | stopped stop channel' tape' hbytes count =>
      exact .stopped stop channel' tape' (hpending.trans hbytes) (hstops ▸ count)

/-- A call that finds a complete message reads nothing. -/
theorem receives_of_complete {channel : MessageChannel} {message : Bytes × Bytes}
    (h : completeMessage channel.readBuffer = some message) (tape : List ReadEvent) :
    Receives channel tape (receiveBinary channel tape) := by
  obtain ⟨fits, hbuffer⟩ := eq_frame_of_completeMessage _ _ _ h
  have hreceived : receiveBinary channel tape = ⟨.ok message.1, ⟨message.2⟩, tape⟩ := by
    rw [receiveBinary.eq_def, h]
  rw [hreceived]
  exact .frame _ _ _ fits (by simp [pending, hbuffer]) (Nat.le_refl _)

theorem receives_receiveBinary (channel : MessageChannel) (tape : List ReadEvent) :
    Receives channel tape (receiveBinary channel tape) := by
  induction tape generalizing channel with
  | nil =>
      cases hm : completeMessage channel.readBuffer with
      | some message => exact receives_of_complete hm []
      | none =>
          rw [receiveBinary, hm]
          exact .closed channel hm rfl (Nat.le_refl _)
  | cons event tape ih =>
      cases hm : completeMessage channel.readBuffer with
      | some message => exact receives_of_complete hm (event :: tape)
      | none =>
          rw [receiveBinary.eq_def, hm]
          cases event with
          | data bytes nonempty => exact .of_read (ih ⟨channel.readBuffer ++ bytes⟩)
          | failed message =>
              exact .stopped (.failed message) channel tape
                (by simp [pending, ReadEvent.bytes])
                (by simp [stops, List.countP_cons, ReadEvent.stops])
          | dropped =>
              exact .stopped .dropped channel tape
                (by simp [pending, ReadEvent.bytes])
                (by simp [stops, List.countP_cons, ReadEvent.stops])

theorem receives_receive (channel : MessageChannel) (tape : List ReadEvent) :
    Receives channel tape (receive channel tape) :=
  receives_receiveBinary channel tape

/-- The results that a stream of bytes gives to `n` calls that are not stopped are
the first `n` of these. -/
def results (bytes : Bytes) (n : Nat) : List (Outcome Bytes) :=
  (framing.frames bytes).map .ok ++ List.replicate n closed

theorem results_prefix_succ (bytes : Bytes) (n : Nat) :
    results bytes n <+: results bytes (n + 1) := by
  refine ⟨[closed], ?_⟩
  simp [results, List.replicate_succ', List.append_assoc]

theorem results_frame_append {payload : Bytes} (fits : payload.length ≤ maxPayload)
    (bytes : Bytes) (n : Nat) :
    results (frame payload ++ bytes) n = .ok payload :: results bytes n := by
  have hparse : framing.parse (frame payload ++ bytes) = some (payload, bytes) :=
    completeMessage_frame_append payload bytes fits
  simp [results, framing.frames_of_parse_some hparse]

theorem results_of_incomplete {bytes : Bytes} (h : completeMessage bytes = none) (n : Nat) :
    results bytes n = List.replicate n closed := by
  simp [results, framing.frames_of_parse_none h]

/-- The outcomes of `n` calls, without the stopped ones, are the first results of
the bytes that reach the receiver. -/
theorem receiveMany_settled_isPrefix (n : Nat) (channel : MessageChannel)
    (tape : List ReadEvent) :
    (receiveMany n channel tape).outcomes.filter Outcome.settled <+:
      results (pending channel tape) n := by
  induction n generalizing channel tape with
  | zero => simp [receiveMany]
  | succ n ih =>
      have hr := receives_receive channel tape
      simp only [receiveMany]
      generalize receive channel tape = received at hr
      cases hr with
      | frame payload channel' tape' fits bytes count =>
          rw [bytes, results_frame_append fits]
          simp only [List.filter_cons, Outcome.settled_ok, if_true, List.prefix_cons_inj]
          exact (ih channel' tape').trans (results_prefix_succ _ _)
      | closed channel' incomplete bytes count =>
          have hpending : completeMessage (pending channel' []) = none := by
            simpa [pending] using incomplete
          have htail := ih channel' []
          rw [results_of_incomplete hpending] at htail
          rw [bytes, results_of_incomplete hpending, List.replicate_succ]
          simpa only [List.filter_cons, closed_settled, if_true, List.prefix_cons_inj] using htail
      | stopped stop channel' tape' bytes count =>
          rw [bytes]
          simp only [List.filter_cons, Stop.settled_outcome, Bool.false_eq_true, if_false]
          exact (ih channel' tape').trans (results_prefix_succ _ _)

/-- Only the reads that stop a call take results away. -/
theorem le_length_receiveMany_settled (n : Nat) (channel : MessageChannel)
    (tape : List ReadEvent) :
    n ≤ ((receiveMany n channel tape).outcomes.filter Outcome.settled).length + stops tape := by
  induction n generalizing channel tape with
  | zero => simp
  | succ n ih =>
      have hr := receives_receive channel tape
      simp only [receiveMany]
      generalize receive channel tape = received at hr
      cases hr with
      | frame payload channel' tape' fits bytes count =>
          have := ih channel' tape'
          simp only [List.filter_cons, Outcome.settled_ok, if_true, List.length_cons]
          omega
      | closed channel' incomplete bytes count =>
          have := ih channel' []
          simp only [List.filter_cons, closed_settled, if_true, List.length_cons]
          omega
      | stopped stop channel' tape' bytes count =>
          have := ih channel' tape'
          simp only [List.filter_cons, Stop.settled_outcome, Bool.false_eq_true, if_false]
          omega

/-- The payloads returned by `n` calls. -/
def ReceivedMany.payloads (received : ReceivedMany) : List Bytes :=
  received.outcomes.flatMap Outcome.payloads

theorem payloads_filter_settled (outcomes : List (Outcome Bytes)) :
    (outcomes.filter Outcome.settled).flatMap Outcome.payloads =
      outcomes.flatMap Outcome.payloads := by
  induction outcomes with
  | nil => rfl
  | cons outcome outcomes ih =>
      rcases outcome with payload | (error | error | error) | _ <;>
        simp [List.filter_cons, Outcome.settled, Outcome.payloads, ih]

theorem payloads_results (bytes : Bytes) (n : Nat) :
    (results bytes n).flatMap Outcome.payloads = framing.frames bytes := by
  have hclosed : (List.replicate n closed).flatMap Outcome.payloads = [] := by
    simp [List.flatMap_eq_nil_iff]
  have hframes (payloads : List Bytes) :
      (payloads.map Outcome.ok).flatMap Outcome.payloads = payloads := by
    induction payloads with
    | nil => rfl
    | cons payload payloads ih => simpa using ih
  rw [results, List.flatMap_append, hclosed, hframes, List.append_nil]

/-- Whatever stops calls in between, the payloads returned are frames of the
stream, in order and from the first. -/
theorem receiveMany_payloads_isPrefix (n : Nat) (channel : MessageChannel)
    (tape : List ReadEvent) :
    (receiveMany n channel tape).payloads <+: framing.frames (pending channel tape) := by
  obtain ⟨later, hlater⟩ := receiveMany_settled_isPrefix n channel tape
  have h := congrArg (List.flatMap Outcome.payloads) hlater
  rw [List.flatMap_append, payloads_filter_settled, payloads_results] at h
  exact ⟨_, h⟩

/-! ## Sending and receiving -/

/-- A read that appended something. -/
abbrev Chunk := {bytes : Bytes // bytes ≠ []}

/-- The tape of reads that neither fail nor are dropped. -/
def reads (chunks : List Chunk) : List ReadEvent :=
  chunks.map fun chunk => .data chunk.val chunk.property

theorem stream_reads (chunks : List Chunk) :
    stream (reads chunks) = chunks.flatMap Subtype.val := by
  induction chunks with
  | nil => rfl
  | cons chunk chunks ih =>
      have hcons : reads (chunk :: chunks) = .data chunk.val chunk.property :: reads chunks := rfl
      simp [hcons, ReadEvent.bytes, ih]

theorem stops_reads (chunks : List Chunk) : stops (reads chunks) = 0 := by
  simp [stops, reads, List.countP_map, Function.comp_def, ReadEvent.stops]

theorem length_receiveMany (n : Nat) (channel : MessageChannel) (tape : List ReadEvent) :
    (receiveMany n channel tape).outcomes.length = n := by
  induction n generalizing channel tape with
  | zero => rfl
  | succ n ih => simp [receiveMany, ih]

/-- Plain reads stop no call: the outcomes of `n` calls are the first `n` results. -/
theorem receiveMany_reads (n : Nat) (channel : MessageChannel) (chunks : List Chunk) :
    (receiveMany n channel (reads chunks)).outcomes =
      (results (pending channel (reads chunks)) n).take n := by
  have hlen := length_receiveMany n channel (reads chunks)
  have hle := le_length_receiveMany_settled n channel (reads chunks)
  rw [stops_reads] at hle
  have hall : (receiveMany n channel (reads chunks)).outcomes.filter Outcome.settled =
      (receiveMany n channel (reads chunks)).outcomes := by
    apply List.filter_sublist.eq_of_length_le
    rw [hlen]
    exact hle
  have hfront := receiveMany_settled_isPrefix n channel (reads chunks)
  rw [hall] at hfront
  have htake := List.prefix_iff_eq_take.mp hfront
  rwa [hlen] at htake

theorem send_of_le {payload : Bytes} (h : payload.length ≤ maxPayload) :
    send payload none = ⟨frame payload, .ok ()⟩ := by
  have hnot : ¬ maxPayload < payload.length := Nat.not_lt.mpr h
  have hwritten := send_written payload none
  have houtcome := send_outcome payload none
  rw [if_neg hnot] at hwritten houtcome
  calc send payload none = ⟨(send payload none).written, (send payload none).outcome⟩ := rfl
    _ = ⟨frame payload, .ok ()⟩ := by rw [hwritten, houtcome]; rfl

theorem send_of_lt {payload : Bytes} (h : maxPayload < payload.length)
    (interruption : Option Interruption) :
    send payload interruption = ⟨[], .err (.protocol (.bufferOverflow payload.length))⟩ := by
  have hwritten := send_written payload interruption
  have houtcome := send_outcome payload interruption
  rw [if_pos h] at hwritten houtcome
  calc send payload interruption =
        ⟨(send payload interruption).written, (send payload interruption).outcome⟩ := rfl
    _ = ⟨[], .err (.protocol (.bufferOverflow payload.length))⟩ := by rw [hwritten, houtcome]

/-- Calls that run to their end write the frames of the payloads that fit. -/
theorem sendAll_complete (payloads : List Bytes) :
    sendAll (payloads.map fun payload => (payload, none)) =
      framing.encodeAll (payloads.filter fun payload => payload.length ≤ maxPayload) := by
  induction payloads with
  | nil => rfl
  | cons payload payloads ih =>
      by_cases h : payload.length ≤ maxPayload
      · simp [send_of_le h, h, ih]
      · simp [send_of_lt (Nat.not_le.mp h), h, ih]

theorem send_complete (payload : Bytes) :
    send payload none =
      if payload.length ≤ maxPayload then ⟨frame payload, .ok ()⟩
      else ⟨[], .err (.protocol (.bufferOverflow payload.length))⟩ := by
  by_cases h : payload.length ≤ maxPayload
  · rw [if_pos h, send_of_le h]
  · rw [if_neg h, send_of_lt (Nat.not_le.mp h)]

/-- Whatever the cut, the payloads that fit come out, and then the end of the stream. -/
theorem receiveMany_complete (payloads : List Bytes) (chunks : List Chunk)
    (cut : chunks.flatMap Subtype.val = sendAll (payloads.map fun payload => (payload, none)))
    (n : Nat) :
    (receiveMany n .new (reads chunks)).outcomes =
      ((payloads.filter fun payload : Bytes => payload.length ≤ maxPayload).map Outcome.ok ++
        List.replicate n closed).take n := by
  have hfit : ∀ payload ∈ payloads.filter fun payload => payload.length ≤ maxPayload,
      framing.Fits payload := by
    intro payload hmem
    simpa using (List.mem_filter.mp hmem).2
  have hpending : pending .new (reads chunks) =
      framing.encodeAll (payloads.filter fun payload => payload.length ≤ maxPayload) :=
    calc pending .new (reads chunks) = stream (reads chunks) := rfl
      _ = chunks.flatMap Subtype.val := stream_reads chunks
      _ = sendAll (payloads.map fun payload => (payload, none)) := cut
      _ = _ := sendAll_complete payloads
  rw [receiveMany_reads, hpending, results, framing.frames_encodeAll hfit]

/-- A list of payloads passed to `send` on one end is received on the other end
exactly, without those that are too long: these write nothing and report
`BufferOverflow`. -/
theorem receiveMany_sendAll (payloads : List Bytes) (chunks : List Chunk)
    (cut : chunks.flatMap Subtype.val = sendAll (payloads.map fun payload => (payload, none)))
    (n : Nat) :
    (receiveMany n .new (reads chunks)).outcomes =
        ((payloads.filter fun payload : Bytes => payload.length ≤ maxPayload).map Outcome.ok ++
          List.replicate n closed).take n ∧
      ∀ payload ∈ payloads,
        send payload none =
          if payload.length ≤ maxPayload then ⟨frame payload, .ok ()⟩
          else ⟨[], .err (.protocol (.bufferOverflow payload.length))⟩ :=
  ⟨receiveMany_complete payloads chunks cut n, fun payload _ => send_complete payload⟩

/-- A header split over two reads, an empty payload, and the end of the stream. -/
theorem receiveMany_sendAll_split :
    (receiveMany 3 .new (reads [⟨[0], by decide⟩, ⟨[1, 7, 0], by decide⟩,
        ⟨[0], by decide⟩])).outcomes = [.ok [7], .ok [], closed] ∧
      ∀ payload ∈ [[7], []],
        send payload none =
          if payload.length ≤ maxPayload then ⟨frame payload, .ok ()⟩
          else ⟨[], .err (.protocol (.bufferOverflow payload.length))⟩ :=
  receiveMany_sendAll [[7], []] [⟨[0], by decide⟩, ⟨[1, 7, 0], by decide⟩, ⟨[0], by decide⟩]
    (by decide) 3

/-! ## Every moment of the loop -/

/-- The receiving side at the head of the loop, or between two calls: the payloads
returned so far, the channel, the bytes read so far and the rest of the tape. -/
structure Moment where
  returned : List Bytes
  channel : MessageChannel
  read : Bytes
  tape : List ReadEvent

/-- One turn of the loop. A call that ends is followed by the next one. -/
inductive Moment.Next : Moment → Moment → Prop
  | frame {m : Moment} {payload readBuffer : Bytes}
      (h : completeMessage m.channel.readBuffer = some (payload, readBuffer)) :
      Next m ⟨m.returned ++ [payload], ⟨readBuffer⟩, m.read, m.tape⟩
  | read {m : Moment} {bytes : Bytes} {nonempty : bytes ≠ []} {tape : List ReadEvent}
      (h : completeMessage m.channel.readBuffer = none)
      (htape : m.tape = .data bytes nonempty :: tape) :
      Next m ⟨m.returned, ⟨m.channel.readBuffer ++ bytes⟩, m.read ++ bytes, tape⟩
  | failed {m : Moment} {message : String} {tape : List ReadEvent}
      (h : completeMessage m.channel.readBuffer = none)
      (htape : m.tape = .failed message :: tape) :
      Next m ⟨m.returned, m.channel, m.read, tape⟩
  | dropped {m : Moment} {tape : List ReadEvent}
      (h : completeMessage m.channel.readBuffer = none)
      (htape : m.tape = .dropped :: tape) :
      Next m ⟨m.returned, m.channel, m.read, tape⟩
  | closed {m : Moment} (h : completeMessage m.channel.readBuffer = none)
      (htape : m.tape = []) : Next m m

/-- The moments of a task that keeps calling `receive` on a fresh channel. -/
def Reached (tape : List ReadEvent) (m : Moment) : Prop :=
  Relation.ReflTransGen Moment.Next ⟨[], .new, [], tape⟩ m

/-- Nothing read is lost: it has been returned in a frame or is in the buffer. -/
structure Moment.Balanced (tape : List ReadEvent) (m : Moment) : Prop where
  returned : framing.encodeAll m.returned ++ m.channel.readBuffer = m.read
  read : m.read ++ stream m.tape = stream tape

theorem Moment.Balanced.next {tape : List ReadEvent} {m m' : Moment} (hm : m.Balanced tape)
    (h : Moment.Next m m') : m'.Balanced tape := by
  obtain ⟨hreturned, hread⟩ := hm
  cases h with
  | frame h =>
      obtain ⟨_, hbuffer⟩ := eq_frame_of_completeMessage _ _ _ h
      refine ⟨?_, hread⟩
      rw [← hreturned, hbuffer]
      simp
  | read h htape =>
      rw [htape] at hread
      constructor
      · rw [← hreturned]
        simp
      · rw [← hread]
        simp [ReadEvent.bytes]
  | failed h htape =>
      rw [htape] at hread
      exact ⟨hreturned, by simpa [ReadEvent.bytes] using hread⟩
  | dropped h htape =>
      rw [htape] at hread
      exact ⟨hreturned, by simpa [ReadEvent.bytes] using hread⟩
  | closed h htape => exact ⟨hreturned, hread⟩

theorem Reached.balanced {tape : List ReadEvent} {m : Moment} (h : Reached tape m) :
    m.Balanced tape := by
  induction h with
  | refl => exact ⟨rfl, rfl⟩
  | tail _ hnext ih => exact ih.next hnext

/-- A call of `receiveBinary` runs through moments. -/
theorem Moment.receiveBinary (m : Moment) :
    ∃ read, Relation.ReflTransGen Moment.Next m
      ⟨m.returned ++ (Yuha.receiveBinary m.channel m.tape).outcome.payloads,
        (Yuha.receiveBinary m.channel m.tape).channel, read,
        (Yuha.receiveBinary m.channel m.tape).tape⟩ := by
  obtain ⟨returned, channel, read, tape⟩ := m
  induction tape generalizing channel read with
  | nil =>
      unfold Yuha.receiveBinary
      cases hm : completeMessage channel.readBuffer with
      | some message => exact ⟨read, .single (.frame hm)⟩
      | none => exact ⟨read, by simpa [Outcome.payloads] using Relation.ReflTransGen.refl⟩
  | cons event tape ih =>
      unfold Yuha.receiveBinary
      cases hm : completeMessage channel.readBuffer with
      | some message => exact ⟨read, .single (.frame hm)⟩
      | none =>
          cases event with
          | data bytes nonempty =>
              obtain ⟨read', hread'⟩ := ih ⟨channel.readBuffer ++ bytes⟩ (read ++ bytes)
              exact ⟨read', .head (.read hm rfl) hread'⟩
          | failed message =>
              refine ⟨read, .single ?_⟩
              simpa [Outcome.payloads] using
                Moment.Next.failed (m := ⟨returned, channel, read, _⟩) hm rfl
          | dropped =>
              refine ⟨read, .single ?_⟩
              simpa [Outcome.payloads] using
                Moment.Next.dropped (m := ⟨returned, channel, read, _⟩) hm rfl

/-- So do several calls. -/
theorem Moment.receiveMany (n : Nat) (m : Moment) :
    ∃ read, Relation.ReflTransGen Moment.Next m
      ⟨m.returned ++ (Yuha.receiveMany n m.channel m.tape).payloads,
        (Yuha.receiveMany n m.channel m.tape).channel, read,
        (Yuha.receiveMany n m.channel m.tape).tape⟩ := by
  induction n generalizing m with
  | zero => exact ⟨m.read, by simpa [Yuha.receiveMany, ReceivedMany.payloads] using
      Relation.ReflTransGen.refl⟩
  | succ n ih =>
      obtain ⟨read, hfirst⟩ := m.receiveBinary
      obtain ⟨read', hmore⟩ := ih
        ⟨m.returned ++ (Yuha.receiveBinary m.channel m.tape).outcome.payloads,
          (Yuha.receiveBinary m.channel m.tape).channel, read,
          (Yuha.receiveBinary m.channel m.tape).tape⟩
      refine ⟨read', hfirst.trans ?_⟩
      simpa [Yuha.receiveMany, receive, ReceivedMany.payloads, List.append_assoc] using hmore

/-- For every stream, cut into reads in any way, with pending calls failing or
dropped anywhere: the calls that are not stopped return the complete frames of the
stream and then `ChannelClosed`, only stopped reads cost a call its result, and at
every moment the frames returned and the buffer are the bytes read so far. -/
theorem receive_frames (tape : List ReadEvent) :
    (∀ n, (receiveMany n .new tape).outcomes.filter Outcome.settled <+:
        (framing.frames (stream tape)).map .ok ++ List.replicate n closed ∧
      n ≤ ((receiveMany n .new tape).outcomes.filter Outcome.settled).length + stops tape ∧
      ∃ read, Reached tape ⟨(receiveMany n .new tape).payloads,
        (receiveMany n .new tape).channel, read, (receiveMany n .new tape).tape⟩) ∧
    ∀ m, Reached tape m →
      framing.encodeAll m.returned ++ m.channel.readBuffer = m.read ∧
        m.read ++ stream m.tape = stream tape := by
  constructor
  · intro n
    refine ⟨receiveMany_settled_isPrefix n .new tape,
      le_length_receiveMany_settled n .new tape, ?_⟩
    obtain ⟨read, hread⟩ := Moment.receiveMany n ⟨[], .new, [], tape⟩
    exact ⟨read, by simpa [Reached] using hread⟩
  · intro m hm
    exact ⟨hm.balanced.returned, hm.balanced.read⟩

end Yuha
