import Yuha.Core.Delivery
import Yuha.Core.JsonMessages

/-!
# Messages on the channel

`send_request` and `send_response` send the JSON text of a message, `receive_request` and
`receive_response` parse the payload they receive and read the message back.

## Implementation notes

`serde_json` is a parameter: what it parses a text as, and the text of its error.
-/

namespace Yuha

open Library.Json

/-- What `serde_json` parses a text as, and the text of its error. -/
structure SerdeJson where
  parse : Bytes → Option Value
  errorText : Bytes → String

/-- `serde_json::from_slice` for a type with a derived `Deserialize`. -/
def SerdeJson.fromSlice {α : Type} (serde : SerdeJson) (fromJson : Value → Option α)
    (payload : Bytes) : Except String α :=
  match serde.parse payload with
  | some value =>
      match fromJson value with
      | some message => .ok message
      | none => .error (serde.errorText payload)
  | none => .error (serde.errorText payload)

/-- The texts of the messages are parsed as the values that they were written from. -/
structure SerdeJson.ParsesMessages (serde : SerdeJson) : Prop where
  request : ∀ request : ProtocolRequest, serde.parse request.toVec = some request.toJson
  response : ∀ response : ProtocolResponse, serde.parse response.toVec = some response.toJson

namespace SerdeJson

variable {serde : SerdeJson}

theorem fromSlice_of_parse {α : Type} {fromJson : Value → Option α} {payload : Bytes}
    {value : Value} {message : α} (hparse : serde.parse payload = some value)
    (hread : fromJson value = some message) :
    serde.fromSlice fromJson payload = .ok message := by
  simp [fromSlice, hparse, hread]

theorem ParsesMessages.request_read (h : serde.ParsesMessages) (request : ProtocolRequest) :
    serde.fromSlice ProtocolRequest.fromJson request.toVec = .ok request :=
  fromSlice_of_parse (h.request request) request.fromJson_toJson

theorem ParsesMessages.response_read (h : serde.ParsesMessages) (response : ProtocolResponse) :
    serde.fromSlice ProtocolResponse.fromJson response.toVec = .ok response :=
  fromSlice_of_parse (h.response response) response.fromJson_toJson

/-- The parser of the library does. -/
theorem parsesMessages_parse (errorText : Bytes → String) :
    ParsesMessages ⟨Library.Json.parse, errorText⟩ where
  request request := parse_print request.toJson
  response response := by
    rw [response.toVec_eq_print]
    exact parse_print response.toJson

end SerdeJson

/-- What one call that receives a message leaves behind. -/
structure ReceivedMessage (α : Type) where
  outcome : Outcome α
  channel : MessageChannel
  tape : List ReadEvent

/-- The outcome of a call that goes on with the payload it received. -/
def Outcome.andThen {α β : Type} (outcome : Outcome α) (f : α → Outcome β) : Outcome β :=
  match outcome with
  | .ok value => f value
  | .err error => .err error
  | .dropped => .dropped

def decodeWith {α : Type} (what : String) (fromSlice : Bytes → Except String α)
    (payload : Bytes) : Outcome α :=
  match fromSlice payload with
  | .ok message => .ok message
  | .error e => .err (.protocol (.serialization s!"{what} deserialization failed: {e}"))

def receiveMessage {α : Type} (decode : Bytes → Outcome α) (channel : MessageChannel)
    (tape : List ReadEvent) : ReceivedMessage α :=
  let received := receive channel tape
  ⟨received.outcome.andThen decode, received.channel, received.tape⟩

namespace SerdeJson

variable (serde : SerdeJson)

def decodeRequest : Bytes → Outcome ProtocolRequest :=
  decodeWith "Request" (serde.fromSlice ProtocolRequest.fromJson)

def decodeResponse : Bytes → Outcome ProtocolResponse :=
  decodeWith "Response" (serde.fromSlice ProtocolResponse.fromJson)

/-- `MessageChannel::receive_request`. -/
def receiveRequest (channel : MessageChannel) (tape : List ReadEvent) :
    ReceivedMessage ProtocolRequest :=
  receiveMessage serde.decodeRequest channel tape

/-- `MessageChannel::receive_response`. -/
def receiveResponse (channel : MessageChannel) (tape : List ReadEvent) :
    ReceivedMessage ProtocolResponse :=
  receiveMessage serde.decodeResponse channel tape

end SerdeJson

/-- `MessageChannel::send_request`. -/
def sendRequest (request : ProtocolRequest) (interruption : Option Interruption) : Sent :=
  send request.toVec interruption

/-- `MessageChannel::send_response`. -/
def sendResponse (response : ProtocolResponse) (interruption : Option Interruption) : Sent :=
  send response.toVec interruption

/-- The outcomes of `n` calls, one after the other. -/
def outcomesOf {α : Type} (call : MessageChannel → List ReadEvent → ReceivedMessage α) :
    Nat → MessageChannel → List ReadEvent → List (Outcome α)
  | 0, _, _ => []
  | n + 1, channel, tape =>
      let received := call channel tape
      received.outcome :: outcomesOf call n received.channel received.tape

theorem outcomesOf_receiveMessage {α : Type} (decode : Bytes → Outcome α) (n : Nat)
    (channel : MessageChannel) (tape : List ReadEvent) :
    outcomesOf (receiveMessage decode) n channel tape =
      (receiveMany n channel tape).outcomes.map fun outcome => outcome.andThen decode := by
  induction n generalizing channel tape with
  | zero => rfl
  | succ n ih => simp [outcomesOf, receiveMessage, receiveMany, ih]

/-- What a way to send messages of one type and a way to receive them promise together. -/
structure Delivers {α : Type} (toVec : α → Bytes)
    (sendMessage : α → Option Interruption → Sent)
    (receiveMessage : MessageChannel → List ReadEvent → ReceivedMessage α) : Prop where
  /-- However the stream is cut into reads, the messages that fit arrive in order. -/
  arrive : ∀ (messages : List α) (chunks : List Chunk) (n : Nat),
    (chunks.flatMap Subtype.val =
      messages.flatMap fun message => (sendMessage message none).written) →
    outcomesOf receiveMessage n .new (reads chunks) =
      ((messages.filter fun message => (toVec message).length ≤ maxPayload).map Outcome.ok ++
        List.replicate n (Outcome.err (.protocol .channelClosed))).take n
  /-- A message that does not fit is rejected, and puts nothing on the stream. -/
  rejects : ∀ message, sendMessage message none =
    if (toVec message).length ≤ maxPayload then ⟨frame (toVec message), .ok ()⟩
    else ⟨[], .err (.protocol (.bufferOverflow (toVec message).length))⟩
  injective : Function.Injective toVec

theorem delivers_of_decode {α : Type} {toVec : α → Bytes} {decode : Bytes → Outcome α}
    (hdecode : ∀ message, decode (toVec message) = .ok message)
    (hinjective : Function.Injective toVec) :
    Delivers toVec (fun message => send (toVec message)) (receiveMessage decode) := by
  constructor
  case rejects => exact fun message => send_complete (toVec message)
  case injective => exact hinjective
  case arrive =>
    intro messages chunks n cut
    have hcut : chunks.flatMap Subtype.val =
        sendAll ((messages.map toVec).map fun payload => (payload, none)) := by
      rw [cut, sendAll, List.map_map, List.flatMap_map]
      rfl
    rw [outcomesOf_receiveMessage, receiveMany_complete _ chunks hcut n, List.map_take,
      List.map_append, List.map_replicate, List.filter_map, List.map_map, List.map_map]
    congr 2
    apply List.map_congr_left
    intro message _
    exact hdecode message

/-- If `serde_json` parses what it writes for a message as the value that was written,
requests and responses are delivered. -/
theorem delivers_messages (serde : SerdeJson) (hparse : serde.ParsesMessages) :
    Delivers ProtocolRequest.toVec sendRequest serde.receiveRequest ∧
      Delivers ProtocolResponse.toVec sendResponse serde.receiveResponse := by
  constructor
  · refine delivers_of_decode (fun request => ?_) ProtocolRequest.toVec_injective
    simp [SerdeJson.decodeRequest, decodeWith, hparse.request_read]
  · refine delivers_of_decode (fun response => ?_) ProtocolResponse.toVec_injective
    simp [SerdeJson.decodeResponse, decodeWith, hparse.response_read]

/-- With the parser of the library, and the stream in one read. -/
theorem delivers_messages_clipboard :
    outcomesOf (SerdeJson.receiveRequest ⟨parse, fun _ => "expected value"⟩) 3 .new
        (reads [⟨(sendRequest (.setClipboard "\n") none).written ++
          (sendRequest .getClipboard none).written, by decide +kernel⟩]) =
      [.ok (.setClipboard "\n"), .ok .getClipboard, .err (.protocol .channelClosed)] :=
  ((delivers_messages ⟨parse, fun _ => "expected value"⟩
    (SerdeJson.parsesMessages_parse _)).1.arrive
      [.setClipboard "\n", .getClipboard] _ 3 (by simp)).trans (by decide +kernel)

end Yuha
