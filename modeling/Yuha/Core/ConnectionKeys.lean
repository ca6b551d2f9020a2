import Yuha.Core.Error
import Yuha.Core.Transport
import Yuha.Library.Separator

/-!
# What a connection key tells

Sessions with the same connection key are taken for sessions on the same endpoint. The key
joins the parts of the endpoint with separators that the parts may contain themselves, so
two endpoints can have one key. They do exactly if a separator is in another place in one
of them, if a missing part was given by the word that stands for it in the other, or if a
path is not UTF-8 where the other path is different.
-/

namespace Yuha

open Library

/-- What a validation asks of the platform. -/
structure Platform where
  windows : Bool
  pathExists : PathBuf → Bool

/-- Where the sessions of a configuration run. -/
inductive Endpoint
  | ssh (username host : String) (port : UInt16)
  | local (binaryPath : PathBuf)
  | tcp (scheme host : String) (port : UInt16)
  | wsl (user distribution : Option String)
  deriving DecidableEq

def TcpConfig.scheme (tcp : TcpConfig) : String :=
  if (tcp.tls.map (·.enabled)).getD false then "tcps" else "tcp"

namespace TransportConfig

def validate (platform : Platform) (config : TransportConfig) : Except YuhaError Unit :=
  match config.transportType with
  | .ssh =>
      match config.ssh with
      | none =>
          .error (.transport (.configurationError "SSH transport requires SSH configuration"))
      | some ssh =>
          if ssh.host.isEmpty then
            .error (.transport (.configurationError "SSH host cannot be empty"))
          else if ssh.username.isEmpty then
            .error (.transport (.configurationError "SSH username cannot be empty"))
          else if ssh.password.isNone && ssh.keyPath.isNone then
            .error (.transport (.configurationError
              "SSH transport requires either password or key authentication"))
          else
            .ok ()
  | .local =>
      match config.local with
      | none =>
          .error (.transport (.configurationError
            "Local transport requires local configuration"))
      | some localConfig =>
          if !platform.pathExists localConfig.binaryPath then
            .error (.transport (.configurationError
              s!"Local binary not found: {localConfig.binaryPath.display}"))
          else
            .ok ()
  | .tcp =>
      match config.tcp with
      | none =>
          .error (.transport (.configurationError "TCP transport requires TCP configuration"))
      | some tcp =>
          if tcp.host.isEmpty then
            .error (.transport (.configurationError "TCP host cannot be empty"))
          else if tcp.port == 0 then
            .error (.transport (.configurationError "TCP port cannot be 0"))
          else
            .ok ()
  | .wsl =>
      if !platform.windows then
        .error (.transport (.notAvailable "WSL" "WSL is only available on Windows"))
      else
        .ok ()

def endpoint (config : TransportConfig) : Option Endpoint :=
  match config.transportType with
  | .ssh => config.ssh.map fun ssh => .ssh ssh.username ssh.host ssh.port
  | .local => config.local.map fun localConfig => .local localConfig.binaryPath
  | .tcp => config.tcp.map fun tcp => .tcp tcp.scheme tcp.host tcp.port
  | .wsl => some (.wsl (config.wsl.bind (·.user)) (config.wsl.bind (·.distribution)))

def username (config : TransportConfig) : String := (config.ssh.map (·.username)).getD ""

def binaryUnits (config : TransportConfig) : List OsUnit :=
  (config.local.map (·.binaryPath.units)).getD []

def wslUser (config : TransportConfig) : Option String := config.wsl.bind (·.user)

def wslDistribution (config : TransportConfig) : Option String :=
  config.wsl.bind (·.distribution)

end TransportConfig

def OsUnit.display : OsUnit → Char
  | .char c => c
  | .invalid _ => '\uFFFD'

/-- The bytes that a path is not UTF-8 for. -/
def OsUnit.undecoded : OsUnit → Option (List UInt8)
  | .char _ => none
  | .invalid bytes => some bytes

/-- The number of separators in the first part of a key. -/
def atSigns (part : String) : Nat := part.toList.count '@'

namespace TransportConfig

/-- The parts that the separators and the placeholders of a key leave open are alike. -/
def SameParts (config config' : TransportConfig) : Prop :=
  match config.transportType with
  | .ssh => atSigns config.username = atSigns config'.username
  | .local => config.binaryUnits.map OsUnit.undecoded = config'.binaryUnits.map OsUnit.undecoded
  | .tcp => True
  | .wsl =>
      atSigns (config.wslUser.getD "default") = atSigns (config'.wslUser.getD "default") ∧
        (config.wslUser.isSome ↔ config'.wslUser.isSome) ∧
        (config.wslDistribution.isSome ↔ config'.wslDistribution.isSome)

variable {config config' : TransportConfig} {platform : Platform}

/-! ## What a valid configuration has -/

theorem exists_ssh_of_validate (h : config.validate platform = .ok ())
    (htype : config.transportType = .ssh) : ∃ ssh, config.ssh = some ssh := by
  cases hssh : config.ssh with
  | none => simp [validate, htype, hssh] at h
  | some ssh => exact ⟨ssh, rfl⟩

theorem exists_local_of_validate (h : config.validate platform = .ok ())
    (htype : config.transportType = .local) :
    ∃ localConfig, config.local = some localConfig := by
  cases hlocal : config.local with
  | none => simp [validate, htype, hlocal] at h
  | some localConfig => exact ⟨localConfig, rfl⟩

theorem exists_tcp_of_validate (h : config.validate platform = .ok ())
    (htype : config.transportType = .tcp) : ∃ tcp, config.tcp = some tcp := by
  cases htcp : config.tcp with
  | none => simp [validate, htype, htcp] at h
  | some tcp => exact ⟨tcp, rfl⟩

/-! ## The characters of a key -/

@[simp] theorem toString_text (text : String) : toString text = text := rfl

@[simp] theorem toList_port (port : UInt16) :
    (toString port).toList = Nat.toDigits 10 port.toNat :=
  Nat.toList_repr

theorem toList_connectionKey_ssh {ssh : SshConfig} (htype : config.transportType = .ssh)
    (hssh : config.ssh = some ssh) : config.connectionKey.toList =
      "ssh://".toList ++ (ssh.username.toList ++ '@' :: (ssh.host.toList ++ ':' ::
        Nat.toDigits 10 ssh.port.toNat)) := by
  simp [connectionKey, htype, hssh]

theorem toList_connectionKey_local {localConfig : LocalConfig}
    (htype : config.transportType = .local) (hlocal : config.local = some localConfig) :
    config.connectionKey.toList =
      "local://".toList ++ localConfig.binaryPath.units.map OsUnit.display := by
  simp only [connectionKey, htype, hlocal, PathBuf.display, toString_text, String.toList_append,
    String.toList_ofList]
  exact congrArg _ (List.map_congr_left fun u _ => by cases u <;> rfl)

theorem toList_connectionKey_tcp {tcp : TcpConfig} (htype : config.transportType = .tcp)
    (htcp : config.tcp = some tcp) : config.connectionKey.toList =
      tcp.scheme.toList ++ ("://".toList ++ (tcp.host.toList ++ ':' ::
        Nat.toDigits 10 tcp.port.toNat)) := by
  simp [connectionKey, htype, htcp, TcpConfig.scheme]

theorem toList_connectionKey_wsl {wsl : WslConfig} (htype : config.transportType = .wsl)
    (hwsl : config.wsl = some wsl) : config.connectionKey.toList =
      "wsl://".toList ++ ((wsl.user.getD "default").toList ++ '@' ::
        (wsl.distribution.getD "default").toList) := by
  simp [connectionKey, htype, hwsl]

/-- The first letter of the keys of a type. -/
def initial : TransportType → Char
  | .ssh => 's'
  | .local => 'l'
  | .tcp => 't'
  | .wsl => 'w'

theorem head?_connectionKey (config : TransportConfig) :
    config.connectionKey.toList.head? = some (initial config.transportType) := by
  cases htype : config.transportType with
  | ssh =>
      cases hssh : config.ssh with
      | none => simp [connectionKey, htype, hssh, initial]
      | some ssh => simp [toList_connectionKey_ssh htype hssh, initial]
  | «local» =>
      cases hlocal : config.local with
      | none => simp [connectionKey, htype, hlocal, initial]
      | some localConfig => simp [toList_connectionKey_local htype hlocal, initial]
  | tcp =>
      cases htcp : config.tcp with
      | none => simp [connectionKey, htype, htcp, initial]
      | some tcp =>
          rw [toList_connectionKey_tcp htype htcp, TcpConfig.scheme]
          split <;> simp [initial]
  | wsl =>
      cases hwsl : config.wsl with
      | none => simp [connectionKey, htype, hwsl, initial]
      | some wsl => simp [toList_connectionKey_wsl htype hwsl, initial]

theorem transportType_eq_of_key (h : config.connectionKey = config'.connectionKey) :
    config.transportType = config'.transportType := by
  have hinitial : initial config.transportType = initial config'.transportType := by
    apply Option.some.inj
    rw [← head?_connectionKey, h, head?_connectionKey]
  revert hinitial
  cases config.transportType <;> cases config'.transportType <;> simp [initial]

/-! ## What two configurations with one key share -/

/-- The port ends the key after its last colon. -/
theorem host_port_eq {host host' : List Char} {port port' : UInt16}
    (h : host ++ ':' :: Nat.toDigits 10 port.toNat = host' ++ ':' :: Nat.toDigits 10 port'.toNat) :
    host = host' ∧ port = port' := by
  obtain ⟨hhost, hport⟩ := parts_eq_of_notMem h (notMem_toDigits rfl _) (notMem_toDigits rfl _)
  exact ⟨hhost, UInt16.toNat.inj (toDigits_injective hport)⟩

theorem ssh_endpoint_iff {ssh ssh' : SshConfig} (htype : config.transportType = .ssh)
    (htype' : config'.transportType = .ssh) (hssh : config.ssh = some ssh)
    (hssh' : config'.ssh = some ssh') (hkey : config.connectionKey = config'.connectionKey) :
    config.endpoint = config'.endpoint ↔ config.SameParts config' := by
  simp only [endpoint, htype, htype', hssh, hssh', Option.map_some, Option.some.injEq,
    Endpoint.ssh.injEq, SameParts, username, Option.getD_some, atSigns]
  constructor
  · rintro ⟨husername, _⟩
    rw [husername]
  · intro hcount
    have hlist := congrArg String.toList hkey
    rw [toList_connectionKey_ssh htype hssh, toList_connectionKey_ssh htype' hssh'] at hlist
    obtain ⟨husername, hrest⟩ := parts_eq_of_count (List.append_cancel_left hlist) hcount
    obtain ⟨hhost, hport⟩ := host_port_eq hrest
    exact ⟨String.toList_injective husername, String.toList_injective hhost, hport⟩

theorem local_endpoint_iff {localConfig localConfig' : LocalConfig}
    (htype : config.transportType = .local) (htype' : config'.transportType = .local)
    (hlocal : config.local = some localConfig) (hlocal' : config'.local = some localConfig')
    (hkey : config.connectionKey = config'.connectionKey) :
    config.endpoint = config'.endpoint ↔ config.SameParts config' := by
  simp only [endpoint, htype, htype', hlocal, hlocal', Option.map_some, Option.some.injEq,
    Endpoint.local.injEq, SameParts, binaryUnits, Option.getD_some]
  constructor
  · intro hpath
    rw [hpath]
  · intro hundecoded
    have hlist := congrArg String.toList hkey
    rw [toList_connectionKey_local htype hlocal, toList_connectionKey_local htype' hlocal'] at hlist
    have hunits : localConfig.binaryPath.units = localConfig'.binaryPath.units := by
      refine map_inj_of_pair ?_ (List.append_cancel_left hlist) hundecoded
      intro u u' hdisplay hbytes
      cases u <;> cases u' <;> simp_all [OsUnit.display, OsUnit.undecoded]
    exact congrArg PathBuf.mk hunits

theorem tcp_endpoint_eq {tcp tcp' : TcpConfig} (htype : config.transportType = .tcp)
    (htype' : config'.transportType = .tcp) (htcp : config.tcp = some tcp)
    (htcp' : config'.tcp = some tcp') (hkey : config.connectionKey = config'.connectionKey) :
    config.endpoint = config'.endpoint := by
  have hlist := congrArg String.toList hkey
  rw [toList_connectionKey_tcp htype htcp, toList_connectionKey_tcp htype' htcp'] at hlist
  -- The fourth character is that of the longer scheme or the colon after the shorter one.
  have hscheme : tcp.scheme = tcp'.scheme := by
    have hfourth := congrArg (fun key => key[3]?) hlist
    revert hfourth
    unfold TcpConfig.scheme
    split <;> split <;> simp
  rw [hscheme, List.append_cancel_left_eq, List.append_cancel_left_eq] at hlist
  obtain ⟨hhost, hport⟩ := host_port_eq hlist
  simp only [endpoint, htype, htype', htcp, htcp', Option.map_some, hscheme,
    String.toList_injective hhost, hport]

/-- Only the key of a configuration without a part for WSL has no separator. -/
theorem wsl_eq_none_of_key (htype : config.transportType = .wsl)
    (htype' : config'.transportType = .wsl) (hwsl : config.wsl = none)
    (hkey : config.connectionKey = config'.connectionKey) : config'.wsl = none := by
  cases hwsl' : config'.wsl with
  | none => rfl
  | some wsl' =>
      have hlist := congrArg String.toList hkey
      rw [toList_connectionKey_wsl htype' hwsl'] at hlist
      have hat := congrArg (fun key => decide ('@' ∈ key)) hlist
      simp [connectionKey, htype, hwsl] at hat

theorem option_eq_of_getD {α : Type} {o o' : Option α} {placeholder : α}
    (hgiven : o.isSome ↔ o'.isSome) (h : o.getD placeholder = o'.getD placeholder) : o = o' := by
  cases o <;> cases o' <;> simp_all

theorem wsl_parts_eq {wsl wsl' : WslConfig} (htype : config.transportType = .wsl)
    (htype' : config'.transportType = .wsl) (hwsl : config.wsl = some wsl)
    (hwsl' : config'.wsl = some wsl') (hkey : config.connectionKey = config'.connectionKey)
    (h : config.SameParts config') :
    wsl.user = wsl'.user ∧ wsl.distribution = wsl'.distribution := by
  simp only [SameParts, htype, wslUser, wslDistribution, hwsl, hwsl', Option.bind_some,
    atSigns] at h
  obtain ⟨hcount, huser, hdistribution⟩ := h
  have hlist := congrArg String.toList hkey
  rw [toList_connectionKey_wsl htype hwsl, toList_connectionKey_wsl htype' hwsl'] at hlist
  obtain ⟨hfront, hback⟩ := parts_eq_of_count (List.append_cancel_left hlist) hcount
  exact ⟨option_eq_of_getD huser (String.toList_injective hfront),
    option_eq_of_getD hdistribution (String.toList_injective hback)⟩

theorem wsl_endpoint_iff (htype : config.transportType = .wsl)
    (htype' : config'.transportType = .wsl) (hkey : config.connectionKey = config'.connectionKey) :
    config.endpoint = config'.endpoint ↔ config.SameParts config' := by
  constructor
  · intro hendpoint
    simp only [endpoint, htype, htype', Option.some.injEq, Endpoint.wsl.injEq] at hendpoint
    simp only [SameParts, htype, wslUser, wslDistribution, hendpoint.1, hendpoint.2, and_self]
  · intro hparts
    cases hwsl : config.wsl with
    | none =>
        have hwsl' := wsl_eq_none_of_key htype htype' hwsl hkey
        simp only [endpoint, htype, htype', hwsl, hwsl']
    | some wsl =>
        cases hwsl' : config'.wsl with
        | none =>
            have hnone := wsl_eq_none_of_key htype' htype hwsl' hkey.symm
            exact absurd (hwsl.symm.trans hnone) (by simp)
        | some wsl' =>
            obtain ⟨huser, hdistribution⟩ := wsl_parts_eq htype htype' hwsl hwsl' hkey hparts
            simp only [endpoint, htype, htype', hwsl, hwsl', Option.bind_some, huser,
              hdistribution]

/-- Valid configurations with one key have one type, and they have one endpoint exactly if
the parts that the key leaves open are alike. -/
theorem endpoint_eq_iff_sameParts (h : config.validate platform = .ok ())
    (h' : config'.validate platform = .ok ())
    (hkey : config.connectionKey = config'.connectionKey) :
    config.transportType = config'.transportType ∧ config.endpoint = config'.endpoint ↔
      config.SameParts config' := by
  have htypes := transportType_eq_of_key hkey
  rw [and_iff_right htypes]
  cases htype : config.transportType with
  | ssh =>
      have htype' := htypes.symm.trans htype
      obtain ⟨ssh, hssh⟩ := exists_ssh_of_validate h htype
      obtain ⟨ssh', hssh'⟩ := exists_ssh_of_validate h' htype'
      exact ssh_endpoint_iff htype htype' hssh hssh' hkey
  | «local» =>
      have htype' := htypes.symm.trans htype
      obtain ⟨localConfig, hlocal⟩ := exists_local_of_validate h htype
      obtain ⟨localConfig', hlocal'⟩ := exists_local_of_validate h' htype'
      exact local_endpoint_iff htype htype' hlocal hlocal' hkey
  | tcp =>
      have htype' := htypes.symm.trans htype
      obtain ⟨tcp, htcp⟩ := exists_tcp_of_validate h htype
      obtain ⟨tcp', htcp'⟩ := exists_tcp_of_validate h' htype'
      exact iff_of_true (tcp_endpoint_eq htype htype' htcp htcp' hkey) (by simp [SameParts, htype])
  | wsl => exact wsl_endpoint_iff htype (htypes.symm.trans htype) hkey

def sshTo (username host : String) : TransportConfig :=
  { transportType := .ssh, ssh := some { host, username, password := some "secret" } }

/-- Another way to authenticate, at the same endpoint. -/
theorem endpoint_sshTo_keyPath :
    let config := sshTo "alice@corp" "example.com"
    let config' := { config with ssh := some {
      host := "example.com", username := "alice@corp", keyPath := some (.fromStr "id_rsa") } }
    config.transportType = config'.transportType ∧ config.endpoint = config'.endpoint := by
  intro config config'
  have h : config.validate ⟨false, fun _ => true⟩ = .ok () := rfl
  have h' : config'.validate ⟨false, fun _ => true⟩ = .ok () := rfl
  exact (endpoint_eq_iff_sameParts h h' rfl).mpr rfl

/-- A separator in the user name of one is in the host name of the other. -/
theorem sshTo_confused :
    let config := sshTo "alice@corp" "example.com"
    let config' := sshTo "alice" "corp@example.com"
    let platform : Platform := ⟨false, fun _ => true⟩
    config.validate platform = .ok () ∧ config'.validate platform = .ok () ∧
      config.connectionKey = config'.connectionKey ∧ config.endpoint ≠ config'.endpoint := by
  exact ⟨rfl, rfl, by decide, by decide⟩

end TransportConfig

end Yuha
