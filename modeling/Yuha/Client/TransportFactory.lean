import Yuha.Core.Session.Metadata

/-!
# Building transports from configurations

`ClientTransportFactory` copies a transport configuration, field by field, into the
configuration of one of the client's transports. What it does not copy cannot govern the
connection.

## Implementation notes

Two transports are compared as the source would by comparing all their fields, a map of
environment variables as a map. `TransportConfig` is the name of two types of the source:
`ClientTransportConfig` is the client's.
-/

namespace Yuha

open Library

structure ClientTransportConfig where
  remoteBinaryPath : Option PathBuf := none
  autoUploadBinary : Bool := false
  envVars : HashMap String String := ∅
  workingDir : Option PathBuf := none

structure SshTransportConfig where
  host : String
  port : UInt16
  username : String
  password : Option String
  keyPath : Option PathBuf

structure LocalTransportConfig where
  binaryPath : PathBuf
  args : List String

structure TcpTransportConfig where
  host : String
  port : UInt16
  connectionTimeout : Duration
  keepalive : Bool

structure WslTransportConfig where
  distribution : Option String
  user : Option String
  binaryPath : PathBuf
  workingDir : Option PathBuf

inductive AnyTransport
  | local (config : LocalTransportConfig) (transportConfig : ClientTransportConfig)
  | ssh (config : SshTransportConfig) (transportConfig : ClientTransportConfig)
  | tcp (config : TcpTransportConfig) (transportConfig : ClientTransportConfig)
  | wsl (config : WslTransportConfig) (transportConfig : ClientTransportConfig)

/-- Two maps have the same entries. -/
def SameEntries (m m' : HashMap String String) : Prop := ∀ key, m.lookup key = m'.lookup key

structure ClientTransportConfig.Same (a b : ClientTransportConfig) : Prop where
  remoteBinaryPath : a.remoteBinaryPath = b.remoteBinaryPath
  autoUploadBinary : a.autoUploadBinary = b.autoUploadBinary
  envVars : SameEntries a.envVars b.envVars
  workingDir : a.workingDir = b.workingDir

/-- All fields of two transports are equal. -/
def AnyTransport.Same : AnyTransport → AnyTransport → Prop
  | .local config transportConfig, .local config' transportConfig' =>
      config = config' ∧ transportConfig.Same transportConfig'
  | .ssh config transportConfig, .ssh config' transportConfig' =>
      config = config' ∧ transportConfig.Same transportConfig'
  | .tcp config transportConfig, .tcp config' transportConfig' =>
      config = config' ∧ transportConfig.Same transportConfig'
  | .wsl config transportConfig, .wsl config' transportConfig' =>
      config = config' ∧ transportConfig.Same transportConfig'
  | _, _ => False

theorem AnyTransport.same_refl (t : AnyTransport) : t.Same t := by
  cases t <;> exact ⟨rfl, rfl, rfl, fun _ => rfl, rfl⟩

/-! ## The factory -/

section

-- The order in which a map of environment variables is iterated.
variable (order : String → Nat)

/-- `env_vars.iter().map(..).collect()`. -/
def collectEnv (envVars : HashMap String String) : HashMap String String :=
  HashMap.ofEntries (envVars.listing order)

def createLocalTransport (config : TransportConfig) : Except String AnyTransport :=
  match config.local with
  | none => .error "Local transport configuration is required"
  | some localConfig =>
      .ok (.local
        { binaryPath := localConfig.binaryPath
          args := localConfig.args }
        { remoteBinaryPath := config.general.remoteBinaryPath
          autoUploadBinary := false
          envVars := collectEnv order config.general.envVars
          workingDir := localConfig.workingDir })

def createSshTransport (config : TransportConfig) : Except String AnyTransport :=
  match config.ssh with
  | none => .error "SSH transport configuration is required"
  | some sshConfig =>
      .ok (.ssh
        { host := sshConfig.host
          port := sshConfig.port
          username := sshConfig.username
          password := sshConfig.password
          keyPath := sshConfig.keyPath }
        { remoteBinaryPath := config.general.remoteBinaryPath
          autoUploadBinary := sshConfig.autoUploadBinary
          envVars := collectEnv order config.general.envVars
          workingDir := none })

def createTcpTransport (config : TransportConfig) : Except String AnyTransport :=
  match config.tcp with
  | none => .error "TCP transport configuration is required"
  | some tcpConfig =>
      .ok (.tcp
        { host := tcpConfig.host
          port := tcpConfig.port
          connectionTimeout := Duration.fromSecs tcpConfig.timeout
          keepalive := true }
        { remoteBinaryPath := config.general.remoteBinaryPath
          autoUploadBinary := false
          envVars := collectEnv order config.general.envVars
          workingDir := none })

def createWslTransport (config : TransportConfig) : Except String AnyTransport :=
  match config.wsl with
  | none => .error "WSL transport configuration is required"
  | some wslConfig =>
      .ok (.wsl
        { distribution := wslConfig.distribution
          user := wslConfig.user
          binaryPath := wslConfig.binaryPath.getD (.fromStr "yuha-remote")
          workingDir := wslConfig.workingDir }
        { remoteBinaryPath := config.general.remoteBinaryPath
          autoUploadBinary := false
          envVars := collectEnv order config.general.envVars
          workingDir := wslConfig.workingDir })

def createTransport (config : TransportConfig) : Except String AnyTransport :=
  match config.transportType with
  | .local => createLocalTransport order config
  | .ssh => createSshTransport order config
  | .tcp => createTcpTransport order config
  | .wsl => createWslTransport order config

end

theorem sameEntries_collectEnv {order order' : String → Nat} {m m' : HashMap String String} :
    SameEntries (collectEnv order m) (collectEnv order' m') ↔ SameEntries m m' := by
  simp [SameEntries, collectEnv, HashMap.lookup_ofEntries_listing]

/-! ## What equal transports tell -/

attribute [ext] SshConfig LocalConfig TcpConfig WslConfig

namespace TransportConfig

variable {order order' : String → Nat} {a b : TransportConfig} {t t' : AnyTransport}

/-- The sections of the type are equal. -/
def SameSection (a b : TransportConfig) : Prop :=
  match a.transportType with
  | .local => a.local = b.local
  | .ssh => a.ssh = b.ssh
  | .tcp => a.tcp = b.tcp
  | .wsl => a.wsl = b.wsl

/-- The configurations agree on the settings of their type and on the environment. -/
def Agree (a b : TransportConfig) : Prop :=
  a.SameSection b ∧ SameEntries a.general.envVars b.general.envVars

/-- What the factory leaves behind is equal too: the time limits of SSH, the settings of TLS,
and whether WSL names its binary. -/
def SameUncopied (a b : TransportConfig) : Prop :=
  match a.transportType with
  | .local => True
  | .ssh => a.ssh.map (·.timeout) = b.ssh.map (·.timeout) ∧
      a.ssh.map (·.keepalive) = b.ssh.map (·.keepalive)
  | .tcp => a.tcp.map (·.tls) = b.tcp.map (·.tls)
  | .wsl => a.wsl.map (·.binaryPath.isSome) = b.wsl.map (·.binaryPath.isSome)

theorem agree_local (ha : createLocalTransport order a = .ok t)
    (hb : createLocalTransport order' b = .ok t') (hsame : t.Same t') :
    a.local = b.local ∧ SameEntries a.general.envVars b.general.envVars := by
  unfold createLocalTransport at ha hb
  split at ha <;> cases ha
  split at hb <;> cases hb
  rename_i x hx _ y hy
  obtain ⟨hconfig, hrest⟩ := hsame
  obtain ⟨hbinary, hargs⟩ := LocalTransportConfig.mk.inj hconfig
  refine ⟨?_, sameEntries_collectEnv.mp hrest.envVars⟩
  rw [hx, hy, Option.some.injEq, LocalConfig.ext_iff]
  exact ⟨hbinary, hargs, hrest.workingDir⟩

theorem agree_ssh_iff (ha : createSshTransport order a = .ok t)
    (hb : createSshTransport order' b = .ok t') (hsame : t.Same t') :
    a.ssh = b.ssh ∧ SameEntries a.general.envVars b.general.envVars ↔
      a.ssh.map (·.timeout) = b.ssh.map (·.timeout) ∧
        a.ssh.map (·.keepalive) = b.ssh.map (·.keepalive) := by
  unfold createSshTransport at ha hb
  split at ha <;> cases ha
  split at hb <;> cases hb
  rename_i x hx _ y hy
  obtain ⟨hconfig, hrest⟩ := hsame
  obtain ⟨hhost, hport, husername, hpassword, hkeyPath⟩ := SshTransportConfig.mk.inj hconfig
  have hupload : x.autoUploadBinary = y.autoUploadBinary := hrest.autoUploadBinary
  have henv := sameEntries_collectEnv.mp hrest.envVars
  rw [hx, hy, Option.some.injEq, SshConfig.ext_iff]
  simp [hhost, hport, husername, hpassword, hkeyPath, hupload, henv]

theorem agree_tcp_iff (ha : createTcpTransport order a = .ok t)
    (hb : createTcpTransport order' b = .ok t') (hsame : t.Same t') :
    a.tcp = b.tcp ∧ SameEntries a.general.envVars b.general.envVars ↔
      a.tcp.map (·.tls) = b.tcp.map (·.tls) := by
  unfold createTcpTransport at ha hb
  split at ha <;> cases ha
  split at hb <;> cases hb
  rename_i x hx _ y hy
  obtain ⟨hconfig, hrest⟩ := hsame
  obtain ⟨hhost, hport, hseconds, -⟩ := TcpTransportConfig.mk.inj hconfig
  have htimeout : x.timeout = y.timeout := Nat.eq_of_mul_eq_mul_right (by decide) hseconds
  have henv := sameEntries_collectEnv.mp hrest.envVars
  rw [hx, hy, Option.some.injEq, TcpConfig.ext_iff]
  simp [hhost, hport, htimeout, henv]

theorem agree_wsl_iff (ha : createWslTransport order a = .ok t)
    (hb : createWslTransport order' b = .ok t') (hsame : t.Same t') :
    a.wsl = b.wsl ∧ SameEntries a.general.envVars b.general.envVars ↔
      a.wsl.map (·.binaryPath.isSome) = b.wsl.map (·.binaryPath.isSome) := by
  unfold createWslTransport at ha hb
  split at ha <;> cases ha
  split at hb <;> cases hb
  rename_i x hx _ y hy
  obtain ⟨hconfig, hrest⟩ := hsame
  obtain ⟨hdistribution, huser, hbinary, hworkingDir⟩ := WslTransportConfig.mk.inj hconfig
  have henv := sameEntries_collectEnv.mp hrest.envVars
  rw [hx, hy, Option.some.injEq, WslConfig.ext_iff]
  simp only [hdistribution, huser, hworkingDir, henv, true_and, and_true, Option.map_some,
    Option.some.injEq]
  -- A missing path and the path it stands for build the same transport.
  cases hx' : x.binaryPath <;> cases hy' : y.binaryPath <;> simp_all

/-- Equal transports of one type come from configurations that agree exactly if what the
factory does not copy is equal. -/
theorem agree_iff_sameUncopied (htype : a.transportType = b.transportType)
    (ha : createTransport order a = .ok t) (hb : createTransport order' b = .ok t')
    (hsame : t.Same t') : a.Agree b ↔ a.SameUncopied b := by
  simp only [createTransport, ← htype] at ha hb
  unfold Agree SameSection SameUncopied
  cases hkind : a.transportType with
  | «local» =>
      simp only [hkind] at ha hb
      exact iff_of_true (agree_local ha hb hsame) trivial
  | ssh =>
      simp only [hkind] at ha hb
      exact agree_ssh_iff ha hb hsame
  | tcp =>
      simp only [hkind] at ha hb
      exact agree_tcp_iff ha hb hsame
  | wsl =>
      simp only [hkind] at ha hb
      exact agree_wsl_iff ha hb hsame

def tcpTo (tls : Option TlsConfig) : TransportConfig where
  transportType := .tcp
  tcp := some { host := "example.com", port := 9999, tls := tls }

/-- The number of retries is no setting of the connection. -/
theorem agree_tcpTo_maxRetries :
    (tcpTo none).Agree { tcpTo none with general := { maxRetries := 5 } } := by
  have hiff := @agree_iff_sameUncopied String.length String.length (tcpTo none)
    { tcpTo none with general := { maxRetries := 5 } } _ _ rfl rfl rfl (AnyTransport.same_refl _)
  exact hiff.mpr rfl

/-- A configuration with TLS builds the transport of the one without. -/
theorem agree_tcpTo_tls_false : ¬ ∀ (order order' : String → Nat) (a b : TransportConfig)
    (t t' : AnyTransport), a.transportType = b.transportType →
    createTransport order a = .ok t → createTransport order' b = .ok t' → t.Same t' →
    a.Agree b := by
  intro h
  have hagree : (tcpTo (some { enabled := true })).Agree (tcpTo none) :=
    h String.length String.length _ _ _ _ rfl rfl rfl (AnyTransport.same_refl _)
  have htcp : (tcpTo (some { enabled := true })).tcp = (tcpTo none).tcp := hagree.1
  simp [tcpTo] at htcp

end TransportConfig

end Yuha
