import Yuha.Core.Protocol

/-!
# One client connection shared by many callers

`Client::send_request` takes the channel mutex, sends its request and waits for one
response before it lets the mutex go. Requests carry no id. The model follows one
connection through the awaits of the call that holds the mutex: obtaining it, every
partial write, the flush, every read, and the points where the call fails or is
dropped. Callers that wait for the mutex have done nothing yet and are no part of
the state.

## Implementation notes

The server answers every complete frame of the bytes written to it with one frame,
in order; `serve` is what it computes. An event that is not possible in a state
leaves the state as it is. `offset` and `finished` are not in the code: they record
where on the stream a call began to write and what the calls returned.
-/

namespace Yuha

inductive ClientError
  | connection (message : String)
  | channel (message : String)
  | remoteExecution (message : String)
  deriving DecidableEq, Repr

/-- The await at which the holder of the mutex is. -/
inductive Phase
  /-- In `send`, with these bytes of the frame still to write. -/
  | sending (unwritten : Bytes)
  /-- In the `read_buf` of `receive`. -/
  | receiving
  deriving DecidableEq, Repr

/-- The call of `send_request` that holds the mutex. -/
structure Holder where
  call : Nat
  payload : Bytes
  offset : Nat
  phase : Phase
  deriving DecidableEq, Repr

/-- A call of `send_request` that has returned. -/
structure Finished where
  call : Nat
  payload : Bytes
  offset : Nat
  result : Except ClientError ProtocolResponse

structure Connection (σ : Type*) where
  holder : Option Holder
  channel : MessageChannel
  toServer : Bytes
  server : σ
  answered : List Payload
  toClient : Bytes
  serverClosed : Bool
  finished : List Finished

inductive ClientEvent
  /-- A call obtains the mutex and serializes its request. -/
  | lock (call : Nat) (request : ProtocolRequest)
  /-- The stream takes up to `n` more bytes of the frame. -/
  | write (n : Nat)
  /-- The flush completes and `receive_response` starts. -/
  | flushed
  /-- The pending `read_buf` appends up to `n` bytes. -/
  | read (n : Nat)
  /-- The call that holds the mutex fails or is dropped at its await. -/
  | stop (stop : Stop)
  /-- The server answers the next frame. -/
  | serve
  /-- The server closes its end. -/
  | hangUp
  deriving DecidableEq, Repr

namespace Connection

variable {σ : Type*} (codec : ProtocolCodec) (serve : σ → Bytes → σ × Payload)

def new (server : σ) : Connection σ :=
  ⟨none, .new, [], server, [], [], false, []⟩

def sendFailed (error : YuhaError) : ClientError :=
  .channel s!"Failed to send request: {error.toString}"

def receiveFailed (error : YuhaError) : ClientError :=
  .channel s!"Failed to receive response: {error.toString}"

/-- The text of an I/O error at the await of a holder. -/
def Holder.failed (holder : Holder) (message : String) : ClientError :=
  match holder.phase with
  | .sending _ => sendFailed (.io message)
  | .receiving => receiveFailed (.io message)

/-- The holder returns and lets the mutex go. -/
def finish (c : Connection σ) (holder : Holder)
    (result : Except ClientError ProtocolResponse) : Connection σ :=
  { c with
    holder := none
    finished := c.finished ++ [⟨holder.call, holder.payload, holder.offset, result⟩] }

/-- The result of `receive_response` for one payload. -/
def decodeResponse (payload : Bytes) : Except ClientError ProtocolResponse :=
  match codec.responseFromSlice payload with
  | .ok response => .ok response
  | .error e => .error (receiveFailed (.protocol
      (.serialization s!"Response deserialization failed: {e}")))

/-- The loop of `receive_binary` up to its next await. -/
def poll (c : Connection σ) (holder : Holder) : Connection σ :=
  match completeMessage c.channel.readBuffer with
  | some (payload, readBuffer) =>
      { c with channel := ⟨readBuffer⟩ }.finish holder (decodeResponse codec payload)
  | none => { c with holder := some { holder with phase := .receiving } }

/-- `send_request` from the mutex to its first write. -/
def lock (c : Connection σ) (call : Nat) (request : ProtocolRequest) : Connection σ :=
  match codec.requestToVec request with
  | .error e => c.finish ⟨call, [], c.toServer.length, .receiving⟩ (.error (sendFailed
      (.protocol (.serialization s!"Request serialization failed: {e}"))))
  | .ok payload =>
      if maxPayload < payload.length then
        c.finish ⟨call, payload, c.toServer.length, .receiving⟩
          (.error (sendFailed (.protocol (.bufferOverflow payload.length))))
      else
        { c with holder := some ⟨call, payload, c.toServer.length, .sending (frame payload)⟩ }

/-- `read_buf` appends up to `n` of the bytes that have arrived. -/
def readBuf (c : Connection σ) (n : Nat) : Connection σ :=
  { c with
    channel := ⟨c.channel.readBuffer ++ c.toClient.take n⟩
    toClient := c.toClient.drop n }

/-- The pending `read_buf` comes back, with 0 bytes only at the end of the stream. -/
def read (c : Connection σ) (holder : Holder) (n : Nat) : Connection σ :=
  if c.toClient = [] then
    if c.serverClosed then
      c.finish holder (.error (receiveFailed (.protocol .channelClosed)))
    else c
  else if n = 0 then c
  else (c.readBuf n).poll codec holder

/-- The call that holds the mutex ends at its await. -/
def stopHolder (c : Connection σ) (holder : Holder) : Stop → Connection σ
  | .failed message => c.finish holder (.error (Holder.failed holder message))
  | .dropped => { c with holder := none }

/-- The server takes the next complete frame, if there is one, and answers it. -/
def serveNext (c : Connection σ) : Connection σ :=
  if c.serverClosed then c
  else
    match (framing.frames c.toServer)[c.answered.length]? with
    | none => c
    | some request =>
        let (server, reply) := serve c.server request
        { c with
          server := server
          answered := c.answered ++ [reply]
          toClient := c.toClient ++ frame reply.val }

def step (c : Connection σ) : ClientEvent → Connection σ
  | .lock call request =>
      match c.holder with
      | none => c.lock codec call request
      | some _ => c
  | .write n =>
      match c.holder with
      | some ⟨call, payload, offset, .sending unwritten⟩ =>
          { c with
            toServer := c.toServer ++ unwritten.take n
            holder := some ⟨call, payload, offset, .sending (unwritten.drop n)⟩ }
      | _ => c
  | .flushed =>
      match c.holder with
      | some ⟨call, payload, offset, .sending []⟩ =>
          c.poll codec ⟨call, payload, offset, .receiving⟩
      | _ => c
  | .read n =>
      match c.holder with
      | some ⟨call, payload, offset, .receiving⟩ =>
          c.read codec ⟨call, payload, offset, .receiving⟩ n
      | _ => c
  | .stop stop =>
      match c.holder with
      | some holder => c.stopHolder holder stop
      | none => c
  | .serve => c.serveNext serve
  | .hangUp => { c with serverClosed := true }

end Connection

end Yuha
