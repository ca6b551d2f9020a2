import Yuha.Core.MessageChannel

/-!
# The request and response types of the remote protocol
-/

namespace Yuha

inductive ProtocolRequest
  | pollData
  | startPortForward (localPort : UInt16) (remoteHost : String) (remotePort : UInt16)
  | stopPortForward (localPort : UInt16)
  | portForwardData (connectionId : UInt32) (data : Bytes)
  | getClipboard
  | setClipboard (content : String)
  | openBrowser (url : String)
  deriving DecidableEq, Repr

inductive ResponseItem
  | portForwardData (connectionId : UInt32) (data : Bytes)
  | newConnection (connectionId : UInt32) (localPort : UInt16)
  | closeConnection (connectionId : UInt32)
  | clipboardContent (content : String)
  deriving DecidableEq, Repr

inductive ProtocolResponse
  | data (items : List ResponseItem)
  | success
  | error (message : String)
  deriving DecidableEq, Repr

/-- What `serde_json` does for the two ends of a client connection. A failure keeps
the text of the `serde_json` error. -/
structure ProtocolCodec where
  requestToVec : ProtocolRequest → Except String Bytes
  responseFromSlice : Bytes → Except String ProtocolResponse

/-- The bytes of an ASCII text. -/
def ascii (text : String) : Bytes := text.toList.map fun char => UInt8.ofNat char.toNat

/-- A payload that `send` accepts. -/
abbrev Payload := {payload : Bytes // payload.length ≤ maxPayload}

end Yuha
