import Yuha.Core.ConnectionKeys
import Yuha.Library.Execution

/-!
# Building transport configurations

A builder starts from the defaults of its transport, is given one value after the other and
validates what has become of them. The builders of the four transports take nothing for the
general part but environment variables; the one that takes any general part keeps the default
transport. This decides which of the valid configurations a program can build.

## Implementation notes

The builders of the four transports are one structure, with setters of their own. What is
called on a `TlsBuilder` between `with_tls` and `done` is one setter of the TCP builder.
-/

namespace Yuha

open Library Library.Execution

/-! ## The builders -/

/-- `with_env_var`, of every builder. -/
def GeneralConfig.withEnvVar (general : GeneralConfig) (key value : String) : GeneralConfig :=
  { general with envVars := AList.insert key value general.envVars }

/-- `config.validate()?; Ok(config)`, where every builder ends. -/
def TransportConfig.validated (platform : Platform) (config : TransportConfig) :
    Except YuhaError TransportConfig :=
  match config.validate platform with
  | .error e => .error e
  | .ok () => .ok config

theorem TransportConfig.validated_eq_ok {platform : Platform} {config config' : TransportConfig} :
    config.validated platform = .ok config' ↔
      config.validate platform = .ok () ∧ config = config' := by
  unfold validated
  cases config.validate platform with
  | error e => simp
  | ok _ => simp

/-- The builder that keeps the default transport. -/
structure TransportBuilder where
  config : TransportConfig := {}

inductive TransportSetter
  | withGeneral (general : GeneralConfig)
  | withEnvVar (key value : String)
  | withRetries (maxRetries : UInt32) (retryDelay : Nat)

namespace TransportBuilder

def set (builder : TransportBuilder) : TransportSetter → TransportBuilder
  | .withGeneral general => { config := { builder.config with general := general } }
  | .withEnvVar key value =>
      { config := { builder.config with general := builder.config.general.withEnvVar key value } }
  | .withRetries maxRetries retryDelay =>
      { config := { builder.config with
          general := { builder.config.general with
            maxRetries := maxRetries
            retryDelay := retryDelay } } }

def build (platform : Platform) (builder : TransportBuilder) :
    Except YuhaError TransportConfig :=
  builder.config.validated platform

end TransportBuilder

/-- A builder of one transport: its section, and the general part. -/
structure SectionBuilder (α : Type) where
  config : α
  general : GeneralConfig := {}

/-- A call on a builder of one transport. -/
inductive BuilderCall (κ : Type)
  | set (setter : κ)
  | withEnvVar (key value : String)

def SectionBuilder.call {α κ : Type} (set : α → κ → α) (builder : SectionBuilder α) :
    BuilderCall κ → SectionBuilder α
  | .set setter => { builder with config := set builder.config setter }
  | .withEnvVar key value => { builder with general := builder.general.withEnvVar key value }

inductive SshSetter
  | host (host : String)
  | port (port : UInt16)
  | username (username : String)
  | password (password : String)
  | keyFile (path : PathBuf)
  | autoUploadBinary
  | timeout (seconds : Nat)
  | keepalive (seconds : Nat)

abbrev SshTransportBuilder := SectionBuilder SshConfig

namespace SshTransportBuilder

def new : SshTransportBuilder where
  config :=
    { host := ""
      port := 22
      username := ""
      password := none
      keyPath := none
      autoUploadBinary := false
      timeout := 30
      keepalive := 60 }

def set (config : SshConfig) : SshSetter → SshConfig
  | .host host => { config with host := host }
  | .port port => { config with port := port }
  | .username username => { config with username := username }
  | .password password => { config with password := some password }
  | .keyFile path => { config with keyPath := some path }
  | .autoUploadBinary => { config with autoUploadBinary := true }
  | .timeout seconds => { config with timeout := seconds }
  | .keepalive seconds => { config with keepalive := seconds }

def toConfig (builder : SshTransportBuilder) : TransportConfig where
  transportType := .ssh
  ssh := some builder.config
  «local» := none
  tcp := none
  wsl := none
  general := builder.general

def build (platform : Platform) (builder : SshTransportBuilder) :
    Except YuhaError TransportConfig :=
  (toConfig builder).validated platform

end SshTransportBuilder

inductive LocalSetter
  | binaryPath (path : PathBuf)
  | arg (arg : String)
  | args (args : List String)
  | workingDir (path : PathBuf)

abbrev LocalTransportBuilder := SectionBuilder LocalConfig

namespace LocalTransportBuilder

def new : LocalTransportBuilder where
  config := {}

def set (config : LocalConfig) : LocalSetter → LocalConfig
  | .binaryPath path => { config with binaryPath := path }
  | .arg arg => { config with args := config.args ++ [arg] }
  | .args args => { config with args := args }
  | .workingDir path => { config with workingDir := some path }

def toConfig (builder : LocalTransportBuilder) : TransportConfig where
  transportType := .local
  ssh := none
  «local» := some builder.config
  tcp := none
  wsl := none
  general := builder.general

def build (platform : Platform) (builder : LocalTransportBuilder) :
    Except YuhaError TransportConfig :=
  (toConfig builder).validated platform

end LocalTransportBuilder

inductive TlsSetter
  | insecure
  | clientCert (certPath : PathBuf)
  | clientKey (keyPath : PathBuf)
  | caCert (caPath : PathBuf)

namespace TlsBuilder

def new : TlsConfig where
  enabled := true
  verifyCert := true
  clientCert := none
  clientKey := none
  caCert := none

def set (tlsConfig : TlsConfig) : TlsSetter → TlsConfig
  | .insecure => { tlsConfig with verifyCert := false }
  | .clientCert certPath => { tlsConfig with clientCert := some certPath }
  | .clientKey keyPath => { tlsConfig with clientKey := some keyPath }
  | .caCert caPath => { tlsConfig with caCert := some caPath }

end TlsBuilder

inductive TcpSetter
  | host (host : String)
  | port (port : UInt16)
  | timeout (seconds : Nat)
  /-- `with_tls`, the calls on the `TlsBuilder`, and `done`. -/
  | withTls (setters : List TlsSetter)

abbrev TcpTransportBuilder := SectionBuilder TcpConfig

namespace TcpTransportBuilder

def new : TcpTransportBuilder where
  config :=
    { host := ""
      port := 0
      timeout := 30
      tls := none }

def set (config : TcpConfig) : TcpSetter → TcpConfig
  | .host host => { config with host := host }
  | .port port => { config with port := port }
  | .timeout seconds => { config with timeout := seconds }
  | .withTls setters => { config with tls := some (run TlsBuilder.set TlsBuilder.new setters) }

def toConfig (builder : TcpTransportBuilder) : TransportConfig where
  transportType := .tcp
  ssh := none
  «local» := none
  tcp := some builder.config
  wsl := none
  general := builder.general

def build (platform : Platform) (builder : TcpTransportBuilder) :
    Except YuhaError TransportConfig :=
  (toConfig builder).validated platform

end TcpTransportBuilder

inductive WslSetter
  | distribution (distribution : String)
  | user (user : String)
  | binaryPath (path : PathBuf)
  | workingDir (path : PathBuf)

abbrev WslTransportBuilder := SectionBuilder WslConfig

namespace WslTransportBuilder

def new : WslTransportBuilder where
  config :=
    { distribution := none
      user := none
      binaryPath := none
      workingDir := none }

def set (config : WslConfig) : WslSetter → WslConfig
  | .distribution distribution => { config with distribution := some distribution }
  | .user user => { config with user := some user }
  | .binaryPath path => { config with binaryPath := some path }
  | .workingDir path => { config with workingDir := some path }

def toConfig (builder : WslTransportBuilder) : TransportConfig where
  transportType := .wsl
  ssh := none
  «local» := none
  tcp := none
  wsl := some builder.config
  general := builder.general

def build (platform : Platform) (builder : WslTransportBuilder) :
    Except YuhaError TransportConfig :=
  (toConfig builder).validated platform

end WslTransportBuilder

/-- The calls of a program on one builder, before `build`. -/
inductive BuilderChain
  | transport (setters : List TransportSetter)
  | ssh (calls : List (BuilderCall SshSetter))
  | «local» (calls : List (BuilderCall LocalSetter))
  | tcp (calls : List (BuilderCall TcpSetter))
  | wsl (calls : List (BuilderCall WslSetter))

def BuilderChain.build (platform : Platform) : BuilderChain → Except YuhaError TransportConfig
  | .transport setters => (run TransportBuilder.set {} setters).build platform
  | .ssh calls =>
      SshTransportBuilder.build platform
        (run (SectionBuilder.call SshTransportBuilder.set) SshTransportBuilder.new calls)
  | .local calls =>
      LocalTransportBuilder.build platform
        (run (SectionBuilder.call LocalTransportBuilder.set) LocalTransportBuilder.new calls)
  | .tcp calls =>
      TcpTransportBuilder.build platform
        (run (SectionBuilder.call TcpTransportBuilder.set) TcpTransportBuilder.new calls)
  | .wsl calls =>
      WslTransportBuilder.build platform
        (run (SectionBuilder.call WslTransportBuilder.set) WslTransportBuilder.new calls)

/-! ## What a builder reaches -/

/-- Nothing but the environment variables differs from the defaults. -/
def GeneralConfig.OnlyEnvVars (general : GeneralConfig) : Prop :=
  general = { envVars := general.envVars }

theorem GeneralConfig.OnlyEnvVars.withEnvVar {general : GeneralConfig} (h : general.OnlyEnvVars)
    (key value : String) : (general.withEnvVar key value).OnlyEnvVars := by
  unfold OnlyEnvVars
  unfold GeneralConfig.withEnvVar
  rw [h]

namespace TransportBuilder

/-- Only the general part is ever set. -/
theorem config_run (setters : List TransportSetter) :
    (run set {} setters).config = { general := (run set {} setters).config.general } := by
  induction setters using List.reverseRecOn with
  | nil => rfl
  | append_singleton setters setter ih =>
      rw [run_append, run_cons, run_nil]
      generalize run set {} setters = builder at ih
      cases setter <;> simp only [set] <;> rw [ih]

theorem exists_setters (general : GeneralConfig) :
    ∃ setters, (run set {} setters).config = { general := general } :=
  ⟨[.withGeneral general], rfl⟩

end TransportBuilder

def BuilderCall.setter? {κ : Type} : BuilderCall κ → Option κ
  | .set setter => some setter
  | .withEnvVar _ _ => none

namespace SectionBuilder

variable {α κ : Type} {set : α → κ → α} {start builder : SectionBuilder α}

theorem config_run (set : α → κ → α) (builder : SectionBuilder α)
    (calls : List (BuilderCall κ)) :
    (run (call set) builder calls).config =
      run set builder.config (calls.filterMap BuilderCall.setter?) := by
  induction calls generalizing builder with
  | nil => rfl
  | cons first calls ih =>
      rw [run_cons, ih]
      cases first <;> rfl

/-- Only environment variables get into the general part. -/
theorem onlyEnvVars_run (h : start.general = {}) (calls : List (BuilderCall κ)) :
    (run (call set) start calls).general.OnlyEnvVars := by
  induction calls using List.reverseRecOn with
  | nil =>
      rw [run_nil, h]
      rfl
  | append_singleton calls last ih =>
      rw [run_append]
      cases last with
      | set setter => exact ih
      | withEnvVar key value => exact ih.withEnvVar key value

theorem run_set (setters : List κ) (builder : SectionBuilder α) :
    run (call set) builder (setters.map .set) =
      { builder with config := run set builder.config setters } := by
  induction setters generalizing builder with
  | nil => rfl
  | cons setter setters ih => exact ih _

/-- Any environment variables can be given. -/
theorem exists_withEnvVars (set : α → κ → α) (h : start.general = {})
    (envVars : HashMap String String) :
    ∃ calls, run (call set) start calls = { start with general := { envVars := envVars } } := by
  induction envVars using AList.insertRec with
  | H0 => exact ⟨[], by rw [run_nil, ← h]⟩
  | IH key value envVars _ ih =>
      obtain ⟨calls, hcalls⟩ := ih
      refine ⟨calls ++ [.withEnvVar key value], ?_⟩
      rw [run_append, hcalls]
      rfl

/-- A section that the setters reach is built with any environment variables. -/
theorem exists_calls (toConfig : SectionBuilder α → TransportConfig) {platform : Platform}
    (h : start.general = {}) (hreached : ∃ setters, run set start.config setters = builder.config)
    (hgeneral : builder.general.OnlyEnvVars)
    (hvalid : (toConfig builder).validate platform = .ok ()) :
    ∃ calls, (toConfig (run (call set) start calls)).validated platform =
      .ok (toConfig builder) := by
  obtain ⟨setters, hsetters⟩ := hreached
  obtain ⟨calls, hcalls⟩ := exists_withEnvVars set h builder.general.envVars
  have hbuilder : run (call set) start (calls ++ setters.map .set) = builder := by
    rw [run_append, hcalls, run_set, hsetters, ← hgeneral]
  refine ⟨calls ++ setters.map .set, ?_⟩
  rw [hbuilder]
  exact TransportConfig.validated_eq_ok.mpr ⟨hvalid, rfl⟩

end SectionBuilder

theorem SshTransportBuilder.exists_setters (config : SshConfig) :
    ∃ setters, run set new.config setters = config := by
  refine ⟨[.host config.host, .port config.port, .username config.username,
    .timeout config.timeout, .keepalive config.keepalive] ++
      config.password.toList.map .password ++ config.keyPath.toList.map .keyFile ++
      if config.autoUploadBinary then [.autoUploadBinary] else [], ?_⟩
  obtain ⟨host, port, username, password, keyPath, autoUploadBinary, timeout, keepalive⟩ := config
  cases password <;> cases keyPath <;> cases autoUploadBinary <;> rfl

theorem LocalTransportBuilder.exists_setters (config : LocalConfig) :
    ∃ setters, run set new.config setters = config := by
  refine ⟨[.binaryPath config.binaryPath, .args config.args] ++
    config.workingDir.toList.map .workingDir, ?_⟩
  obtain ⟨binaryPath, args, workingDir⟩ := config
  cases workingDir <;> rfl

theorem WslTransportBuilder.exists_setters (config : WslConfig) :
    ∃ setters, run set new.config setters = config := by
  refine ⟨config.distribution.toList.map .distribution ++ config.user.toList.map .user ++
    config.binaryPath.toList.map .binaryPath ++ config.workingDir.toList.map .workingDir, ?_⟩
  obtain ⟨distribution, user, binaryPath, workingDir⟩ := config
  cases distribution <;> cases user <;> cases binaryPath <;> cases workingDir <;> rfl

namespace TlsBuilder

/-- TLS that is configured is enabled. -/
theorem enabled_run (setters : List TlsSetter) : (run set new setters).enabled = true := by
  induction setters using List.reverseRecOn with
  | nil => rfl
  | append_singleton setters setter ih =>
      rw [run_append]
      cases setter <;> exact ih

theorem exists_setters {tlsConfig : TlsConfig} (h : tlsConfig.enabled = true) :
    ∃ setters, run set new setters = tlsConfig := by
  refine ⟨(if tlsConfig.verifyCert then [] else [.insecure]) ++
    tlsConfig.clientCert.toList.map .clientCert ++ tlsConfig.clientKey.toList.map .clientKey ++
      tlsConfig.caCert.toList.map .caCert, ?_⟩
  obtain ⟨enabled, verifyCert, clientCert, clientKey, caCert⟩ := tlsConfig
  cases h
  cases verifyCert <;> cases clientCert <;> cases clientKey <;> cases caCert <;> rfl

end TlsBuilder

namespace TcpTransportBuilder

theorem reached_iff {config : TcpConfig} : (∃ setters, run set new.config setters = config) ↔
    ∀ tls, config.tls = some tls → tls.enabled = true := by
  constructor
  · rintro ⟨setters, rfl⟩
    induction setters using List.reverseRecOn with
    | nil => exact nofun
    | append_singleton setters setter ih =>
        rw [run_append]
        cases setter with
        | host | port | timeout => exact ih
        | withTls setters =>
            intro tls htls
            obtain rfl := Option.some.inj htls
            exact TlsBuilder.enabled_run setters
  · intro henabled
    obtain ⟨host, port, timeout, tls⟩ := config
    cases tls with
    | none => exact ⟨[.host host, .port port, .timeout timeout], rfl⟩
    | some tls =>
        obtain ⟨setters, rfl⟩ := TlsBuilder.exists_setters (henabled tls rfl)
        exact ⟨[.host host, .port port, .timeout timeout, .withTls setters], rfl⟩

end TcpTransportBuilder

/-! ## What can be built -/

namespace TransportConfig

/-- The section of the transport is there, and no other. -/
def HasOwnSection (config : TransportConfig) : Prop :=
  match config.transportType with
  | .ssh =>
      config.ssh.isSome ∧ config.local = none ∧ config.tcp = none ∧ config.wsl = none
  | .local =>
      config.ssh = none ∧ config.local.isSome ∧ config.tcp = none ∧ config.wsl = none
  | .tcp =>
      config.ssh = none ∧ config.local = none ∧ config.tcp.isSome ∧ config.wsl = none
  | .wsl =>
      config.ssh = none ∧ config.local = none ∧ config.tcp = none ∧ config.wsl.isSome

/-- A valid configuration with no section but its own, in which TLS is enabled where it is
configured, and which is the default in its general part, save the environment variables, or
everywhere else. -/
structure Buildable (platform : Platform) (config : TransportConfig) : Prop where
  valid : config.validate platform = .ok ()
  own : config.HasOwnSection
  tls : ∀ tcp tls, config.tcp = some tcp → tcp.tls = some tls → tls.enabled = true
  general : config.general.OnlyEnvVars ∨ config = { general := config.general }

end TransportConfig

namespace BuilderChain

open TransportConfig

variable {platform : Platform} {config : TransportConfig}

theorem buildable_of_build {chain : BuilderChain} (h : chain.build platform = .ok config) :
    config.Buildable platform := by
  cases chain with
  | transport setters =>
      obtain ⟨hvalid, rfl⟩ := validated_eq_ok.mp h
      have hrun := TransportBuilder.config_run setters
      generalize (run TransportBuilder.set {} setters).config = config at hvalid hrun ⊢
      refine ⟨hvalid, ?_, ?_, .inr hrun⟩
      · rw [hrun]
        exact ⟨rfl, rfl, rfl, rfl⟩
      · rw [hrun]
        exact nofun
  | ssh calls =>
      obtain ⟨hvalid, rfl⟩ := validated_eq_ok.mp h
      have hnew : SshTransportBuilder.new.general = {} := rfl
      exact ⟨hvalid, ⟨rfl, rfl, rfl, rfl⟩, nofun, .inl (SectionBuilder.onlyEnvVars_run hnew calls)⟩
  | «local» calls =>
      obtain ⟨hvalid, rfl⟩ := validated_eq_ok.mp h
      have hnew : LocalTransportBuilder.new.general = {} := rfl
      exact ⟨hvalid, ⟨rfl, rfl, rfl, rfl⟩, nofun, .inl (SectionBuilder.onlyEnvVars_run hnew calls)⟩
  | tcp calls =>
      obtain ⟨hvalid, rfl⟩ := validated_eq_ok.mp h
      have hnew : TcpTransportBuilder.new.general = {} := rfl
      refine ⟨hvalid, ⟨rfl, rfl, rfl, rfl⟩, fun tcp tls htcp htls => ?_,
        .inl (SectionBuilder.onlyEnvVars_run hnew calls)⟩
      obtain rfl := Option.some.inj htcp
      have hsection := SectionBuilder.config_run TcpTransportBuilder.set TcpTransportBuilder.new
        calls
      exact TcpTransportBuilder.reached_iff.mp ⟨_, hsection.symm⟩ tls htls
  | wsl calls =>
      obtain ⟨hvalid, rfl⟩ := validated_eq_ok.mp h
      have hnew : WslTransportBuilder.new.general = {} := rfl
      exact ⟨hvalid, ⟨rfl, rfl, rfl, rfl⟩, nofun, .inl (SectionBuilder.onlyEnvVars_run hnew calls)⟩

theorem exists_chain_of_onlyEnvVars (h : config.Buildable platform)
    (hgeneral : config.general.OnlyEnvVars) :
    ∃ chain : BuilderChain, chain.build platform = .ok config := by
  obtain ⟨hvalid, hown, htls, -⟩ := h
  obtain ⟨transportType, ssh, localConfig, tcp, wsl, general⟩ := config
  cases transportType with
  | ssh =>
      obtain ⟨hssh, rfl, rfl, rfl⟩ := hown
      obtain ⟨ssh, rfl⟩ := Option.isSome_iff_exists.mp hssh
      have hnew : SshTransportBuilder.new.general = {} := rfl
      let builder : SshTransportBuilder := ⟨ssh, general⟩
      have hreached := SshTransportBuilder.exists_setters builder.config
      obtain ⟨calls, hcalls⟩ := SectionBuilder.exists_calls SshTransportBuilder.toConfig hnew
        hreached hgeneral hvalid
      exact ⟨.ssh calls, hcalls⟩
  | «local» =>
      obtain ⟨rfl, hlocal, rfl, rfl⟩ := hown
      obtain ⟨localConfig, rfl⟩ := Option.isSome_iff_exists.mp hlocal
      have hnew : LocalTransportBuilder.new.general = {} := rfl
      let builder : LocalTransportBuilder := ⟨localConfig, general⟩
      have hreached := LocalTransportBuilder.exists_setters builder.config
      obtain ⟨calls, hcalls⟩ := SectionBuilder.exists_calls LocalTransportBuilder.toConfig hnew
        hreached hgeneral hvalid
      exact ⟨.local calls, hcalls⟩
  | tcp =>
      obtain ⟨rfl, rfl, htcp, rfl⟩ := hown
      obtain ⟨tcp, rfl⟩ := Option.isSome_iff_exists.mp htcp
      have hnew : TcpTransportBuilder.new.general = {} := rfl
      let builder : TcpTransportBuilder := ⟨tcp, general⟩
      have henabled : ∀ tls, builder.config.tls = some tls → tls.enabled = true :=
        fun tls => htls tcp tls rfl
      have hreached := TcpTransportBuilder.reached_iff.mpr henabled
      obtain ⟨calls, hcalls⟩ := SectionBuilder.exists_calls TcpTransportBuilder.toConfig hnew
        hreached hgeneral hvalid
      exact ⟨.tcp calls, hcalls⟩
  | wsl =>
      obtain ⟨rfl, rfl, rfl, hwsl⟩ := hown
      obtain ⟨wsl, rfl⟩ := Option.isSome_iff_exists.mp hwsl
      have hnew : WslTransportBuilder.new.general = {} := rfl
      let builder : WslTransportBuilder := ⟨wsl, general⟩
      have hreached := WslTransportBuilder.exists_setters builder.config
      obtain ⟨calls, hcalls⟩ := SectionBuilder.exists_calls WslTransportBuilder.toConfig hnew
        hreached hgeneral hvalid
      exact ⟨.wsl calls, hcalls⟩

/-- What the builders build is exactly what is buildable. -/
theorem exists_build_iff (platform : Platform) (config : TransportConfig) :
    (∃ chain : BuilderChain, chain.build platform = .ok config) ↔ config.Buildable platform := by
  constructor
  · rintro ⟨chain, h⟩
    exact buildable_of_build h
  · intro h
    obtain hgeneral | hdefault := h.general
    · exact exists_chain_of_onlyEnvVars h hgeneral
    · obtain ⟨setters, hsetters⟩ := TransportBuilder.exists_setters config.general
      refine ⟨.transport setters, validated_eq_ok.mpr ?_⟩
      rw [hsetters, ← hdefault]
      exact ⟨h.valid, rfl⟩

end BuilderChain

end Yuha
