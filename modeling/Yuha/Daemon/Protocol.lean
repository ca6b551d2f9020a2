import Yuha.Core.MessageChannel
import Yuha.Core.Session.Metadata

/-!
# The protocol between a daemon and its clients
-/

namespace Yuha

inductive DaemonCommand
  | getClipboard
  | setClipboard (content : String)
  | openBrowser (url : String)
  | startPortForward (localPort : UInt16) (remoteHost : String) (remotePort : UInt16)
  | stopPortForward (localPort : UInt16)
  | portForwardData (connectionId : UInt32) (data : Bytes)
  deriving DecidableEq, Repr

inductive DaemonRequest
  | ping
  | createSession (name : String) (transportConfig : TransportConfig) (tags : List String)
      (description : Option String)
  | connectSession (name : String) (transportConfig : TransportConfig)
  | disconnectSession (sessionId : SessionId)
  | listSessions
  | getSessionInfo (sessionId : SessionId)
  | executeCommand (sessionId : SessionId) (command : DaemonCommand)
  | shutdown
  deriving DecidableEq

structure SessionSummary where
  id : SessionId
  name : String
  connectionKey : String
  status : String
  createdAt : String
  lastUsed : String
  useCount : Nat
  deriving DecidableEq, Repr

structure PortForwardInfo where
  localPort : UInt16
  remoteHost : String
  remotePort : UInt16
  activeConnections : UInt32
  deriving DecidableEq, Repr

structure SessionDetails where
  id : SessionId
  name : String
  transportConfig : TransportConfig
  status : String
  createdAt : String
  lastUsed : String
  useCount : Nat
  tags : List String
  description : Option String
  activePortForwards : List PortForwardInfo
  deriving DecidableEq

inductive CommandResult
  | clipboardContent (content : String)
  | clipboardSet
  | browserOpened
  | portForwardStarted
  | portForwardStopped
  | portForwardDataSent
  deriving DecidableEq, Repr

inductive ErrorCode
  | sessionNotFound
  | sessionAlreadyExists
  | connectionFailed
  | commandFailed
  | invalidRequest
  | shuttingDown
  | internalError
  | maxSessionsReached
  | authenticationFailed
  deriving DecidableEq, Repr

inductive DaemonResponse
  | pong
  | sessionCreated (sessionId : SessionId) (reused : Bool)
  | sessionDisconnected
  | sessionList (sessions : List SessionSummary)
  | sessionInfo (session : SessionDetails)
  | commandSuccess (result : CommandResult)
  | shuttingDown
  | error (code : ErrorCode) (message : String)
  deriving DecidableEq

structure DaemonConfig where
  maxClients : UInt32 := 10
  enableSessionPooling : Bool := true
  sessionIdleTimeout : Nat := 300
  deriving DecidableEq, Repr

end Yuha
