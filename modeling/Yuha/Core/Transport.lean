import Yuha.Library.HashMap

/-!
# Transport configurations

## Implementation notes

A path is kept as the chunks of its bytes: characters, and maximal sequences that are
not UTF-8. `display` replaces the latter, `serde_json` refuses them.
-/

namespace Yuha

open Library

inductive OsUnit
  | char (c : Char)
  | invalid (bytes : List UInt8)
  deriving DecidableEq, Repr

structure PathBuf where
  units : List OsUnit
  deriving DecidableEq, Repr

namespace PathBuf

def fromStr (path : String) : PathBuf := ⟨path.toList.map .char⟩

def display (path : PathBuf) : String :=
  String.ofList (path.units.map fun
    | .char c => c
    | .invalid _ => '\uFFFD')

/-- The path is UTF-8, so it can be written as JSON. -/
def IsUtf8 (path : PathBuf) : Prop :=
  ∀ u ∈ path.units, ∀ bytes, u ≠ .invalid bytes

end PathBuf

inductive TransportType
  | ssh
  | «local»
  | tcp
  | wsl
  deriving DecidableEq, Repr

structure SshConfig where
  host : String
  port : UInt16 := 22
  username : String
  password : Option String := none
  keyPath : Option PathBuf := none
  autoUploadBinary : Bool := false
  timeout : Nat := 30
  keepalive : Nat := 60
  deriving DecidableEq

structure LocalConfig where
  binaryPath : PathBuf := .fromStr "yuha-remote"
  args : List String := ["--stdio"]
  workingDir : Option PathBuf := none
  deriving DecidableEq

structure TlsConfig where
  enabled : Bool := false
  verifyCert : Bool := true
  clientCert : Option PathBuf := none
  clientKey : Option PathBuf := none
  caCert : Option PathBuf := none
  deriving DecidableEq

structure TcpConfig where
  host : String
  port : UInt16
  timeout : Nat := 30
  tls : Option TlsConfig := none
  deriving DecidableEq

structure WslConfig where
  distribution : Option String := none
  user : Option String := none
  binaryPath : Option PathBuf := none
  workingDir : Option PathBuf := none
  deriving DecidableEq

structure GeneralConfig where
  maxRetries : UInt32 := 3
  retryDelay : Nat := 1000
  envVars : HashMap String String := ∅
  remoteBinaryPath : Option PathBuf := none
  deriving DecidableEq

structure TransportConfig where
  transportType : TransportType := .local
  ssh : Option SshConfig := none
  «local» : Option LocalConfig := some {}
  tcp : Option TcpConfig := none
  wsl : Option WslConfig := none
  general : GeneralConfig := {}
  deriving DecidableEq

namespace TransportConfig

/-- The key under which similar connections are grouped. -/
def connectionKey (config : TransportConfig) : String :=
  match config.transportType with
  | .ssh =>
      match config.ssh with
      | some ssh => s!"ssh://{ssh.username}@{ssh.host}:{ssh.port}"
      | none => "ssh://unknown"
  | .local =>
      match config.local with
      | some localConfig => s!"local://{localConfig.binaryPath.display}"
      | none => "local://unknown"
  | .tcp =>
      match config.tcp with
      | some tcp =>
          let scheme := if (tcp.tls.map (·.enabled)).getD false then "tcps" else "tcp"
          s!"{scheme}://{tcp.host}:{tcp.port}"
      | none => "tcp://unknown"
  | .wsl =>
      match config.wsl with
      | some wsl =>
          let user := wsl.user.getD "default"
          let distribution := wsl.distribution.getD "default"
          s!"wsl://{user}@{distribution}"
      | none => "wsl://default"

/-- Every path of the configuration. -/
def paths (config : TransportConfig) : List PathBuf :=
  (config.ssh.map fun ssh => ssh.keyPath.toList).getD []
    ++ (config.local.map fun localConfig =>
      localConfig.binaryPath :: localConfig.workingDir.toList).getD []
    ++ (config.tcp.bind (·.tls) |>.map fun tls =>
      tls.clientCert.toList ++ tls.clientKey.toList ++ tls.caCert.toList).getD []
    ++ (config.wsl.map fun wsl => wsl.binaryPath.toList ++ wsl.workingDir.toList).getD []
    ++ config.general.remoteBinaryPath.toList

def PathsUtf8 (config : TransportConfig) : Prop :=
  ∀ path ∈ config.paths, path.IsUtf8

end TransportConfig

end Yuha
