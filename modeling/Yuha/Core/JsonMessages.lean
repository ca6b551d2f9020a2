import Yuha.Core.ResponseEncoding
import Yuha.Library.JsonValue

/-!
# Requests and responses as JSON

The derived encoding of the messages: a variant without fields is its name, one with fields
an object with the name as its only key, and the bytes of a block are an array of numbers.

## Implementation notes

What the derived `Deserialize` also accepts is left out where the messages never use it, a
string in place of an array of bytes among it.
-/

namespace Yuha

open Library Library.Json

/-! ## Reading a value -/

/-- The value of a field. A field that is missing or given twice is an error. -/
def jsonField (fields : List (String × Value)) (name : String) : Option Value :=
  match fields.filter fun entry => entry.1 = name with
  | [entry] => some entry.2
  | _ => none

/-- The fields of a variant, by name or in order. Other names are ignored. -/
def jsonFields (names : List String) : Value → Option (List Value)
  | .object fields => names.mapM (jsonField fields)
  | .array values => if values.length = names.length then some values else none
  | _ => none

def jsonU8 : Value → Option UInt8
  | .number n => if n < 2 ^ 8 then some (UInt8.ofNat n) else none
  | _ => none

def jsonU16 : Value → Option UInt16
  | .number n => if n < 2 ^ 16 then some (UInt16.ofNat n) else none
  | _ => none

def jsonU32 : Value → Option UInt32
  | .number n => if n < 2 ^ 32 then some (UInt32.ofNat n) else none
  | _ => none

def jsonString : Value → Option String
  | .string text => some text
  | _ => none

/-- The content of a variant without fields. -/
def jsonUnit : Value → Option Unit
  | .null => some ()
  | _ => none

def jsonBytes : Value → Option Bytes
  | .array values => values.mapM jsonU8
  | _ => none

/-- The name of a variant, and its fields if it has any. -/
def jsonVariant : Value → Option (String × Value)
  | .string name => some (name, .null)
  | .object [entry] => some entry
  | _ => none

/-! ## The messages -/

def bytesToJson (data : Bytes) : Value := .array (data.map fun byte => .number byte.toNat)

namespace ProtocolRequest

def toJson : ProtocolRequest → Value
  | .pollData => .string "PollData"
  | .startPortForward localPort remoteHost remotePort =>
      .object [("StartPortForward", .object [
        ("local_port", .number localPort.toNat),
        ("remote_host", .string remoteHost),
        ("remote_port", .number remotePort.toNat)])]
  | .stopPortForward localPort =>
      .object [("StopPortForward", .object [("local_port", .number localPort.toNat)])]
  | .portForwardData connectionId data =>
      .object [("PortForwardData", .object [
        ("connection_id", .number connectionId.toNat),
        ("data", bytesToJson data)])]
  | .getClipboard => .string "GetClipboard"
  | .setClipboard content =>
      .object [("SetClipboard", .object [("content", .string content)])]
  | .openBrowser url => .object [("OpenBrowser", .object [("url", .string url)])]

def fromJson (value : Value) : Option ProtocolRequest := do
  let (name, fields) ← jsonVariant value
  match name with
  | "PollData" => (jsonUnit fields).map fun _ => .pollData
  | "StartPortForward" =>
      match ← jsonFields ["local_port", "remote_host", "remote_port"] fields with
      | [localPort, remoteHost, remotePort] =>
          return .startPortForward (← jsonU16 localPort) (← jsonString remoteHost)
            (← jsonU16 remotePort)
      | _ => none
  | "StopPortForward" =>
      match ← jsonFields ["local_port"] fields with
      | [localPort] => return .stopPortForward (← jsonU16 localPort)
      | _ => none
  | "PortForwardData" =>
      match ← jsonFields ["connection_id", "data"] fields with
      | [connectionId, data] => return .portForwardData (← jsonU32 connectionId) (← jsonBytes data)
      | _ => none
  | "GetClipboard" => (jsonUnit fields).map fun _ => .getClipboard
  | "SetClipboard" =>
      match ← jsonFields ["content"] fields with
      | [content] => return .setClipboard (← jsonString content)
      | _ => none
  | "OpenBrowser" =>
      match ← jsonFields ["url"] fields with
      | [url] => return .openBrowser (← jsonString url)
      | _ => none
  | _ => none

/-- `serde_json::to_vec`. -/
def toVec (request : ProtocolRequest) : Bytes := print request.toJson

end ProtocolRequest

namespace ResponseItem

def toJson : ResponseItem → Value
  | .portForwardData connectionId data =>
      .object [("PortForwardData", .object [
        ("connection_id", .number connectionId.toNat),
        ("data", bytesToJson data)])]
  | .newConnection connectionId localPort =>
      .object [("NewConnection", .object [
        ("connection_id", .number connectionId.toNat),
        ("local_port", .number localPort.toNat)])]
  | .closeConnection connectionId =>
      .object [("CloseConnection", .object [("connection_id", .number connectionId.toNat)])]
  | .clipboardContent content =>
      .object [("ClipboardContent", .object [("content", .string content)])]

def fromJson (value : Value) : Option ResponseItem := do
  let (name, fields) ← jsonVariant value
  match name with
  | "PortForwardData" =>
      match ← jsonFields ["connection_id", "data"] fields with
      | [connectionId, data] => return .portForwardData (← jsonU32 connectionId) (← jsonBytes data)
      | _ => none
  | "NewConnection" =>
      match ← jsonFields ["connection_id", "local_port"] fields with
      | [connectionId, localPort] =>
          return .newConnection (← jsonU32 connectionId) (← jsonU16 localPort)
      | _ => none
  | "CloseConnection" =>
      match ← jsonFields ["connection_id"] fields with
      | [connectionId] => return .closeConnection (← jsonU32 connectionId)
      | _ => none
  | "ClipboardContent" =>
      match ← jsonFields ["content"] fields with
      | [content] => return .clipboardContent (← jsonString content)
      | _ => none
  | _ => none

end ResponseItem

namespace ProtocolResponse

def toJson : ProtocolResponse → Value
  | .data items =>
      .object [("Data", .object [("items", .array (items.map ResponseItem.toJson))])]
  | .success => .string "Success"
  | .error message => .object [("Error", .object [("message", .string message)])]

def fromJson (value : Value) : Option ProtocolResponse := do
  let (name, fields) ← jsonVariant value
  match name with
  | "Data" =>
      match ← jsonFields ["items"] fields with
      | [.array items] => return .data (← items.mapM ResponseItem.fromJson)
      | _ => none
  | "Success" => (jsonUnit fields).map fun _ => .success
  | "Error" =>
      match ← jsonFields ["message"] fields with
      | [message] => return .error (← jsonString message)
      | _ => none
  | _ => none

end ProtocolResponse

/-! ## Reading back what was written -/

theorem jsonU16_toNat (n : UInt16) : jsonU16 (.number n.toNat) = some n := by
  simp [jsonU16, n.toNat_lt]

theorem jsonU32_toNat (n : UInt32) : jsonU32 (.number n.toNat) = some n := by
  simp [jsonU32, n.toNat_lt]

theorem jsonBytes_bytesToJson (data : Bytes) : jsonBytes (bytesToJson data) = some data := by
  have hbyte : ∀ byte : UInt8, jsonU8 (.number byte.toNat) = some byte := by
    intro byte
    simp [jsonU8, byte.toNat_lt]
  induction data with
  | nil => rfl
  | cons byte data ih =>
      simp only [jsonBytes, bytesToJson] at ih
      simp [jsonBytes, bytesToJson, hbyte, ih]

theorem ProtocolRequest.fromJson_toJson (request : ProtocolRequest) :
    fromJson request.toJson = some request := by
  cases request with
  | pollData | getClipboard | setClipboard content | openBrowser url => rfl
  | startPortForward localPort remoteHost remotePort =>
      change (jsonU16 _).bind (fun localPort => (jsonU16 _).bind fun remotePort =>
        some (startPortForward localPort remoteHost remotePort)) = _
      simp only [jsonU16_toNat, Option.bind_some]
  | stopPortForward localPort =>
      change (jsonU16 _).bind (fun localPort => some (stopPortForward localPort)) = _
      rw [jsonU16_toNat, Option.bind_some]
  | portForwardData connectionId data =>
      change (jsonU32 _).bind (fun connectionId => (jsonBytes _).bind fun data =>
        some (portForwardData connectionId data)) = _
      simp only [jsonU32_toNat, jsonBytes_bytesToJson, Option.bind_some]

theorem ResponseItem.fromJson_toJson (item : ResponseItem) :
    fromJson item.toJson = some item := by
  cases item with
  | clipboardContent content => rfl
  | portForwardData connectionId data =>
      change (jsonU32 _).bind (fun connectionId => (jsonBytes _).bind fun data =>
        some (portForwardData connectionId data)) = _
      simp only [jsonU32_toNat, jsonBytes_bytesToJson, Option.bind_some]
  | newConnection connectionId localPort =>
      change (jsonU32 _).bind (fun connectionId => (jsonU16 _).bind fun localPort =>
        some (newConnection connectionId localPort)) = _
      simp only [jsonU32_toNat, jsonU16_toNat, Option.bind_some]
  | closeConnection connectionId =>
      change (jsonU32 _).bind (fun connectionId => some (closeConnection connectionId)) = _
      rw [jsonU32_toNat, Option.bind_some]

theorem ProtocolResponse.fromJson_toJson (response : ProtocolResponse) :
    fromJson response.toJson = some response := by
  cases response with
  | data items =>
      have hitems : (items.map ResponseItem.toJson).mapM ResponseItem.fromJson = some items := by
        induction items with
        | nil => rfl
        | cons item items ih => simp [ResponseItem.fromJson_toJson, ih]
      change ((items.map ResponseItem.toJson).mapM ResponseItem.fromJson).bind
        (fun items => some (data items)) = _
      rw [hitems, Option.bind_some]
  | success | error message => rfl

theorem print_bytesToJson (data : Bytes) :
    print (bytesToJson data) = Json.array (data.map fun byte => Json.number byte.toNat) := by
  simp [bytesToJson, print, printElements_eq_map, Function.comp_def]

theorem ResponseItem.toVec_eq_print (item : ResponseItem) : item.toVec = print item.toJson := by
  cases item <;> simp [toVec, toJson, print, printFields, print_bytesToJson]

/-- What `send_response` sends is the text of the response's value. -/
theorem ProtocolResponse.toVec_eq_print (response : ProtocolResponse) :
    response.toVec = print response.toJson := by
  cases response with
  | data items =>
      have hitems : items.map ResponseItem.toVec = (items.map ResponseItem.toJson).map print := by
        rw [List.map_map]
        exact List.map_congr_left fun item _ => item.toVec_eq_print
      simp [toVec, toJson, print, printFields, printElements_eq_map, hitems]
  | success | error message => simp [toVec, toJson, print, printFields]

/-- No two requests are sent as the same bytes. -/
theorem ProtocolRequest.toVec_injective : Function.Injective ProtocolRequest.toVec := by
  intro request request' h
  have hjson : request.toJson = request'.toJson := print_injective h
  have hread := request.fromJson_toJson
  rw [hjson, request'.fromJson_toJson] at hread
  exact (Option.some.inj hread).symm

theorem ProtocolResponse.toVec_injective : Function.Injective ProtocolResponse.toVec := by
  intro response response' h
  rw [toVec_eq_print, toVec_eq_print] at h
  have hread := response.fromJson_toJson
  rw [print_injective h, response'.fromJson_toJson] at hread
  exact (Option.some.inj hread).symm

end Yuha
