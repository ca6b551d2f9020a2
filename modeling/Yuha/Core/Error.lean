/-!
# Errors

The errors of the core, with the texts they display as. An I/O error keeps only the text
the operating system gives it.
-/

namespace Yuha

inductive SshError
  | keyError (reason : String)
  | hostKeyVerification (reason : String)
  | channelCreation (reason : String)
  | commandExecution (reason : String)
  | binaryUpload (reason : String)
  deriving DecidableEq, Repr

def SshError.toString : SshError → String
  | .keyError reason => s!"SSH key error: {reason}"
  | .hostKeyVerification reason => s!"Host key verification failed: {reason}"
  | .channelCreation reason => s!"SSH channel creation failed: {reason}"
  | .commandExecution reason => s!"SSH command execution failed: {reason}"
  | .binaryUpload reason => s!"Binary upload failed: {reason}"

inductive LocalError
  | binaryNotFound (path : String)
  | binaryNotExecutable (path : String)
  | processSpawn (reason : String)
  | processCommunication (reason : String)
  deriving DecidableEq, Repr

def LocalError.toString : LocalError → String
  | .binaryNotFound path => s!"Local binary not found: {path}"
  | .binaryNotExecutable path => s!"Local binary not executable: {path}"
  | .processSpawn reason => s!"Process spawn failed: {reason}"
  | .processCommunication reason => s!"Process communication failed: {reason}"

inductive TcpError
  | connectionTimeout (timeoutMs : UInt64)
  | connectionRefused (address : String)
  | tlsError (reason : String)
  deriving DecidableEq, Repr

def TcpError.toString : TcpError → String
  | .connectionTimeout timeoutMs => s!"TCP connection timeout: {timeoutMs}ms"
  | .connectionRefused address => s!"TCP connection refused: {address}"
  | .tlsError reason => s!"TLS error: {reason}"

inductive WslError
  | notAvailable
  | distributionNotFound (distribution : String)
  | commandExecution (reason : String)
  deriving DecidableEq, Repr

def WslError.toString : WslError → String
  | .notAvailable => "WSL not available on this system"
  | .distributionNotFound distribution => s!"WSL distribution not found: {distribution}"
  | .commandExecution reason => s!"WSL command execution failed: {reason}"

inductive TransportError
  | connectionFailed (reason : String)
  | authenticationFailed (reason : String)
  | notAvailable (transportType reason : String)
  | configurationError (reason : String)
  | ssh (error : SshError)
  | local (error : LocalError)
  | tcp (error : TcpError)
  | wsl (error : WslError)
  deriving DecidableEq, Repr

def TransportError.toString : TransportError → String
  | .connectionFailed reason => s!"Connection failed: {reason}"
  | .authenticationFailed reason => s!"Authentication failed: {reason}"
  | .notAvailable transportType reason => s!"Transport '{transportType}' not available: {reason}"
  | .configurationError reason => s!"Transport configuration error: {reason}"
  | .ssh error => error.toString
  | .local error => error.toString
  | .tcp error => error.toString
  | .wsl error => error.toString

inductive ProtocolError
  | serialization (reason : String)
  | deserialization (reason : String)
  | versionMismatch (expected actual : String)
  | invalidFormat (reason : String)
  | channelClosed
  | timeout (seconds : UInt64)
  | bufferOverflow (size : Nat)
  deriving DecidableEq, Repr

def ProtocolError.toString : ProtocolError → String
  | .serialization reason => s!"Message serialization failed: {reason}"
  | .deserialization reason => s!"Message deserialization failed: {reason}"
  | .versionMismatch expected actual =>
      s!"Protocol version mismatch: expected {expected}, got {actual}"
  | .invalidFormat reason => s!"Invalid message format: {reason}"
  | .channelClosed => "Protocol channel closed unexpectedly"
  | .timeout seconds => s!"Protocol timeout after {seconds} seconds"
  | .bufferOverflow size => s!"Protocol buffer overflow: message too large ({size} bytes)"

inductive SessionError
  | notFound (sessionId : String)
  | alreadyExists (sessionId : String)
  | maxSessionsReached (limit : Nat)
  | invalidState (currentState expectedState : String)
  | expired (sessionId : String)
  | poolingError (reason : String)
  deriving DecidableEq, Repr

def SessionError.toString : SessionError → String
  | .notFound sessionId => s!"Session not found: {sessionId}"
  | .alreadyExists sessionId => s!"Session already exists: {sessionId}"
  | .maxSessionsReached limit => s!"Maximum sessions reached: {limit}"
  | .invalidState currentState expectedState =>
      s!"Session in invalid state: {currentState}, expected: {expectedState}"
  | .expired sessionId => s!"Session expired: {sessionId}"
  | .poolingError reason => s!"Connection pooling error: {reason}"

inductive ConfigError
  | invalidValue (key reason : String)
  | missingRequired (key : String)
  | fileError (reason : String)
  | profileNotFound (profile : String)
  | validationFailed (reason : String)
  deriving DecidableEq, Repr

def ConfigError.toString : ConfigError → String
  | .invalidValue key reason => s!"Invalid configuration value for '{key}': {reason}"
  | .missingRequired key => s!"Missing required configuration: {key}"
  | .fileError reason => s!"Configuration file error: {reason}"
  | .profileNotFound profile => s!"Configuration profile not found: {profile}"
  | .validationFailed reason => s!"Configuration validation failed: {reason}"

inductive ClipboardError
  | readFailed (reason : String)
  | writeFailed (reason : String)
  | accessDenied
  | lockFailed (reason : String)
  | unsupportedFormat (format : String)
  deriving DecidableEq, Repr

def ClipboardError.toString : ClipboardError → String
  | .readFailed reason => s!"Failed to read clipboard: {reason}"
  | .writeFailed reason => s!"Failed to write clipboard: {reason}"
  | .accessDenied => "Clipboard access denied"
  | .lockFailed reason => s!"Failed to acquire clipboard lock: {reason}"
  | .unsupportedFormat format => s!"Unsupported clipboard format: {format}"

inductive BrowserError
  | openFailed (url reason : String)
  | invalidUrl (url : String)
  | noBrowserAvailable
  | executionFailed (reason : String)
  deriving DecidableEq, Repr

def BrowserError.toString : BrowserError → String
  | .openFailed url reason => s!"Failed to open URL '{url}': {reason}"
  | .invalidUrl url => s!"Invalid URL format: {url}"
  | .noBrowserAvailable => "No default browser available"
  | .executionFailed reason => s!"Browser execution failed: {reason}"

inductive AuthError
  | invalidCredentials (reason : String)
  | permissionDenied (operation : String)
  | tokenExpired
  | methodNotSupported (method : String)
  deriving DecidableEq, Repr

def AuthError.toString : AuthError → String
  | .invalidCredentials reason => s!"Invalid credentials: {reason}"
  | .permissionDenied operation => s!"Permission denied: {operation}"
  | .tokenExpired => "Authentication token expired"
  | .methodNotSupported method => s!"Authentication method not supported: {method}"

inductive DaemonError
  | notRunning
  | alreadyRunning (pid : UInt32)
  | socketError (reason : String)
  | clientLimitReached (limit : UInt32)
  | shuttingDown
  deriving DecidableEq, Repr

def DaemonError.toString : DaemonError → String
  | .notRunning => "Daemon not running"
  | .alreadyRunning pid => s!"Daemon already running with PID: {pid}"
  | .socketError reason => s!"Daemon socket error: {reason}"
  | .clientLimitReached limit => s!"Maximum client connections reached: {limit}"
  | .shuttingDown => "Daemon is shutting down"

inductive YuhaError
  | transport (error : TransportError)
  | protocol (error : ProtocolError)
  | session (error : SessionError)
  | config (error : ConfigError)
  | io (message : String)
  | clipboard (error : ClipboardError)
  | browser (error : BrowserError)
  | auth (error : AuthError)
  | daemon (error : DaemonError)
  | internal (message : String)
  deriving DecidableEq, Repr

namespace YuhaError

/-- `#[error(transparent)]` displays the inner error. -/
def toString : YuhaError → String
  | .transport error => error.toString
  | .protocol error => error.toString
  | .session error => error.toString
  | .config error => error.toString
  | .io message => message
  | .clipboard error => error.toString
  | .browser error => error.toString
  | .auth error => error.toString
  | .daemon error => error.toString
  | .internal message => s!"Internal error: {message}"

/-- The errors after which it is worth to try again. -/
def isRetriable : YuhaError → Bool
  | .transport (.connectionFailed _) => true
  | .protocol (.timeout _) => true
  | .protocol .channelClosed => true
  | .io _ => true
  | .daemon (.socketError _) => true
  | _ => false

end YuhaError

end Yuha
