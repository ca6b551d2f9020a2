import Yuha.Core.ResponseBuffer
import Yuha.Library.Json

/-!
# The encoding of a response

`send_response` sends what `serde_json::to_vec` makes of a response: an object with the
variant's name for a variant with fields, the bare name for one without, and the bytes of
a block as an array of decimal numbers.
-/

namespace Yuha

open Library

def ResponseItem.toVec : ResponseItem → Bytes
  | .portForwardData connectionId data =>
      Json.object [("PortForwardData", Json.object [
        ("connection_id", Json.number connectionId.toNat),
        ("data", Json.array (data.map fun byte => Json.number byte.toNat))])]
  | .newConnection connectionId localPort =>
      Json.object [("NewConnection", Json.object [
        ("connection_id", Json.number connectionId.toNat),
        ("local_port", Json.number localPort.toNat)])]
  | .closeConnection connectionId =>
      Json.object [("CloseConnection", Json.object [
        ("connection_id", Json.number connectionId.toNat)])]
  | .clipboardContent content =>
      Json.object [("ClipboardContent", Json.object [("content", Json.string content)])]

def ProtocolResponse.toVec : ProtocolResponse → Bytes
  | .data items => Json.object [("Data", Json.object [
      ("items", Json.array (items.map ResponseItem.toVec))])]
  | .success => Json.string "Success"
  | .error message => Json.object [("Error", Json.object [("message", Json.string message)])]

/-- The size of an encoded item: a fixed part, the digits of the numbers, a byte of data
by its digits and a comma, a text by its escaped characters. -/
def ResponseItem.encodedSize : ResponseItem → Nat
  | .portForwardData connectionId data =>
      48 + Json.numberSize connectionId.toNat +
        Json.separatedSize (data.map fun byte => Json.numberSize byte.toNat)
  | .newConnection connectionId localPort =>
      50 + Json.numberSize connectionId.toNat + Json.numberSize localPort.toNat
  | .closeConnection connectionId => 38 + Json.numberSize connectionId.toNat
  | .clipboardContent content => 33 + Json.stringSize content

def ProtocolResponse.encodedSize : ProtocolResponse → Nat
  | .data items => 21 + Json.separatedSize (items.map fun item => item.encodedSize)
  | .success => 9
  | .error message => 22 + Json.stringSize message

theorem length_field (name : String) (value : Bytes) :
    (Json.object [(name, value)]).length = Json.stringSize name + value.length + 3 := by
  simp only [Json.length_object, Json.separatedSize, List.map_cons, List.map_nil, List.sum_cons,
    List.sum_nil, List.length_cons, List.length_nil]
  omega

theorem length_fields (name name' : String) (value value' : Bytes) :
    (Json.object [(name, value), (name', value')]).length =
      Json.stringSize name + value.length + Json.stringSize name' + value'.length + 5 := by
  simp only [Json.length_object, Json.separatedSize, List.map_cons, List.map_nil, List.sum_cons,
    List.sum_nil, List.length_cons, List.length_nil]
  omega

theorem ResponseItem.length_toVec (item : ResponseItem) :
    item.toVec.length = item.encodedSize := by
  have hid : Json.stringSize "connection_id" = 15 := by decide
  cases item with
  | portForwardData connectionId data =>
      have hname : Json.stringSize "PortForwardData" = 17 := by decide
      have hdata : Json.stringSize "data" = 6 := by decide
      simp only [toVec, encodedSize, length_field, length_fields, Json.length_number,
        Json.length_array, List.map_map, Function.comp_def, hname, hid, hdata]
      omega
  | newConnection connectionId localPort =>
      have hname : Json.stringSize "NewConnection" = 15 := by decide
      have hport : Json.stringSize "local_port" = 12 := by decide
      simp only [toVec, encodedSize, length_field, length_fields, Json.length_number, hname, hid,
        hport]
      omega
  | closeConnection connectionId =>
      have hname : Json.stringSize "CloseConnection" = 17 := by decide
      simp only [toVec, encodedSize, length_field, Json.length_number, hname, hid]
      omega
  | clipboardContent content =>
      have hname : Json.stringSize "ClipboardContent" = 18 := by decide
      have hcontent : Json.stringSize "content" = 9 := by decide
      simp only [toVec, encodedSize, length_field, Json.length_string, hname, hcontent]
      omega

theorem ProtocolResponse.length_toVec (response : ProtocolResponse) :
    response.toVec.length = response.encodedSize := by
  cases response with
  | data items =>
      have hname : Json.stringSize "Data" = 6 := by decide
      have hitems : Json.stringSize "items" = 7 := by decide
      simp only [toVec, encodedSize, length_field, Json.length_array, List.map_map,
        Function.comp_def, ResponseItem.length_toVec, hname, hitems]
      omega
  | success => exact (Json.length_string _).trans (by decide)
  | error message =>
      have hname : Json.stringSize "Error" = 7 := by decide
      have hmessage : Json.stringSize "message" = 9 := by decide
      simp only [toVec, encodedSize, length_field, Json.length_string, hname, hmessage]
      omega

example : (ResponseItem.portForwardData 7 [0, 255]).toVec = ascii
    "\x7b\"PortForwardData\":\x7b\"connection_id\":7,\"data\":[0,255]\x7d\x7d" := by
  decide +kernel

end Yuha
