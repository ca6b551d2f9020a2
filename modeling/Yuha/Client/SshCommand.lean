import Yuha.Client.TransportFactory
import Yuha.Library.Shell.Ordinary

/-!
# The command that starts the remote program

`SshTransport::connect` writes the environment variables before the path of the program and
sends the text to a shell. `configure_command` hands the same map to a local process.

## Implementation notes

A local process is known by the environment it gets from the one of its parent. A null
character in a value, with which it would not start, is left in that environment.
-/

namespace Yuha

open Library Library.Shell

/-! ## The text -/

/-- An entry as it is written before the program. -/
def envAssignment (key value : String) : String := key ++ "=" ++ value ++ " "

def envPrefix (order : String → Nat) (envVars : HashMap String String) : String :=
  (envVars.listing order).foldl (fun envPrefix entry =>
    envPrefix ++ envAssignment entry.1 entry.2) ""

def remoteTempPath (pid : UInt32) : String := "/tmp/yuha-remote-" ++ toString pid

namespace SshTransport

variable (config : ClientTransportConfig) (pid : UInt32)

def remotePath : String :=
  if config.autoUploadBinary then remoteTempPath pid else "/usr/local/bin/yuha-remote"

def stderrLog : String :=
  if config.autoUploadBinary then "/tmp/remote_stderr_" ++ toString pid ++ ".log"
  else "/tmp/remote_stderr.log"

def command (order : String → Nat) : String :=
  envPrefix order config.envVars ++ remotePath config pid ++ " --stdio 2>" ++
    stderrLog config pid

end SshTransport

/-! ## The sibling -/

structure Command where
  envs : HashMap String String := ∅
  currentDir : Option PathBuf := none

namespace Command

def env (cmd : Command) (key value : String) : Command :=
  { cmd with envs := AList.insert key value cmd.envs }

/-- What the process of a command sees, started in an environment. -/
def environment (cmd : Command) (base : Environment) : Environment := fun name =>
  ((cmd.envs.lookup (String.ofList name)).map String.toList).or (base name)

end Command

def configureCommand (order : String → Nat) (cmd : Command) (envVars : HashMap String String)
    (workingDir : Option PathBuf) : Command :=
  let cmd := (envVars.listing order).foldl (fun cmd entry => cmd.env entry.1 entry.2) cmd
  match workingDir with
  | some workingDir => { cmd with currentDir := some workingDir }
  | none => cmd

theorem envs_configureCommand (order : String → Nat) (envVars : HashMap String String)
    (workingDir : Option PathBuf) : (configureCommand order {} envVars workingDir).envs =
      HashMap.ofEntries (envVars.listing order) := by
  have hfold : ∀ (entries : List (Σ _ : String, String)) (cmd : Command),
      (entries.foldl (fun cmd entry => cmd.env entry.1 entry.2) cmd).envs =
        entries.foldl (fun m entry => AList.insert entry.1 entry.2 m) cmd.envs := by
    intro entries
    induction entries with
    | nil => exact fun _ => rfl
    | cons entry entries ih => exact fun cmd => ih (cmd.env entry.1 entry.2)
  cases workingDir <;> exact hfold _ _

/-- A local process sees the entries of the map. -/
theorem environment_configureCommand (order : String → Nat) (envVars : HashMap String String)
    (workingDir : Option PathBuf) (base : Environment) (name : List Char) :
    (configureCommand order {} envVars workingDir).environment base name =
      ((envVars.lookup (String.ofList name)).map String.toList).or (base name) := by
  rw [Command.environment, envs_configureCommand, HashMap.lookup_ofEntries_listing]

/-! ## What the shell makes of the text -/

/-- The value is assigned as it is written: none of its characters is special to a shell, and
no tilde at its start or after a colon stands for a home directory. -/
def StandsForItself (value : String) : Prop :=
  (∀ c ∈ value.toList, Ordinary c) ∧ hasTilde true value.toList = false

/-- Whatever its expansions come to, the text is one simple command. It runs the program
with the one argument, in the environment that a local process gets. -/
def RunsRemote (extent : Char → List Char → Option Nat) (text remotePath : String)
    (cmd : Command) : Prop :=
  ∀ results, ∃ command, read extent results text.toList = some command ∧
    command.words = [remotePath.toList, "--stdio".toList] ∧
    ∀ base, command.environment base = cmd.environment base

namespace SshTransport

variable {extent : Char → List Char → Option Nat} {order order' : String → Nat}
  {config : ClientTransportConfig} {pid : UInt32}

/-- The entries of a map in the order in which they are written. -/
def assigned (order : String → Nat) (envVars : HashMap String String) :
    List (List Char × List Char) :=
  (envVars.listing order).map fun entry => (entry.1.toList, entry.2.toList)

theorem toList_envPrefix (order : String → Nat) (envVars : HashMap String String) :
    (envPrefix order envVars).toList =
      ((assigned order envVars).map assignmentText).flatMap (· ++ [' ']) := by
  have hfold : ∀ (entries : List (Σ _ : String, String)) (front : String),
      (entries.foldl (fun envPrefix entry =>
        envPrefix ++ envAssignment entry.1 entry.2) front).toList =
        front.toList ++ ((entries.map fun entry =>
          (entry.1.toList, entry.2.toList)).map assignmentText).flatMap (· ++ [' ']) := by
    intro entries
    induction entries with
    | nil => simp
    | cons entry entries ih =>
        intro front
        rw [List.foldl_cons, ih]
        simp [envAssignment, assignmentText]
  exact hfold _ _

theorem toList_command (config : ClientTransportConfig) (pid : UInt32)
    (order : String → Nat) : (command config pid order).toList =
      commandText ((assigned order config.envVars).map assignmentText ++
        [(remotePath config pid).toList, "--stdio".toList]) '2' (stderrLog config pid).toList := by
  simp [command, commandText, toList_envPrefix]

/-! ## The program and its log -/

def isPathPart (c : Char) : Bool := isNamePart c || ['/', '-', '.'].contains c

theorem ne_of_isPathPart {c : Char} (hc : isPathPart c) :
    Ordinary c ∧ c ∉ ['#', '=', '~', '*', '?', '['] := by
  have hnone : ((blanks ++ operators ++ quotes ++ expanders ++ ['\x00']) ++
      ['#', '=', '~', '*', '?', '[']).any isPathPart = false := by decide
  have hnot : c ∉ (blanks ++ operators ++ quotes ++ expanders ++ ['\x00']) ++
      ['#', '=', '~', '*', '?', '['] := fun hmem => List.any_eq_false.mp hnone c hmem hc
  rw [List.mem_append, not_or] at hnot
  exact hnot

theorem verbatim_of_all_isPathPart {word : List Char} (hne : word ≠ [])
    (hall : word.all isPathPart) : Verbatim word := by
  have h := List.all_eq_true.mp hall
  have hhead : ∀ c ∈ ['#', '~'], word.head? ≠ some c := by
    intro c hc hhead
    have hspecial : ∀ d ∈ ['#', '~'], d ∈ ['#', '=', '~', '*', '?', '['] := by simp
    exact (ne_of_isPathPart (h c (List.mem_of_mem_head? hhead))).2 (hspecial c hc)
  exact {
    ne_nil := hne
    ordinary := fun c hc => (ne_of_isPathPart (h c hc)).1
    head := hhead '#' (by decide)
    equals := fun hmem => absurd (ne_of_isPathPart (h _ hmem)).2 (by decide)
    tilde := hhead '~' (by decide)
    pattern := fun c hc hmem =>
      (ne_of_isPathPart (h c hc)).2 (List.mem_append_right ['#', '=', '~'] hmem) }

theorem all_isPathPart_pid (pid : UInt32) : (toString pid).toList.all isPathPart := by
  have htoList : (toString pid).toList = Nat.toDigits 10 pid.toNat := Nat.toList_repr
  rw [htoList, List.all_eq_true]
  intro c hc
  have hdigit := Nat.isDigit_of_mem_toDigits (by decide) (by decide) hc
  simp [isPathPart, isNamePart, Char.isAlphanum, hdigit]

theorem toList_remoteTempPath (pid : UInt32) :
    (remoteTempPath pid).toList = "/tmp/yuha-remote-".toList ++ (toString pid).toList :=
  String.toList_append

theorem verbatim_remotePath (config : ClientTransportConfig) (pid : UInt32) :
    Verbatim (remotePath config pid).toList := by
  unfold remotePath
  split
  · rw [toList_remoteTempPath]
    apply verbatim_of_all_isPathPart
    · exact List.append_ne_nil_of_left_ne_nil (by decide) _
    · rw [List.all_append, all_isPathPart_pid]
      decide
  · exact verbatim_of_all_isPathPart (by decide) (by decide)

theorem bare_stderrLog (config : ClientTransportConfig) (pid : UInt32) :
    Bare (stderrLog config pid).toList := by
  unfold stderrLog
  split
  · apply (verbatim_of_all_isPathPart _ _).toBare
    · simp
    · rw [String.toList_append, String.toList_append, List.all_append, List.all_append,
        all_isPathPart_pid]
      decide
  · exact (verbatim_of_all_isPathPart (by decide) (by decide)).toBare

theorem forall_mem_assigned {envVars : HashMap String String}
    {p : List Char × List Char → Prop} : (∀ assignment ∈ assigned order envVars, p assignment) ↔
      ∀ key value, envVars.lookup key = some value → p (key.toList, value.toList) := by
  simp only [assigned, List.forall_mem_map, Sigma.forall, HashMap.mem_listing]

theorem verbatim_words (config : ClientTransportConfig) (pid : UInt32) :
    ∀ word ∈ [(remotePath config pid).toList, "--stdio".toList], Verbatim word := by
  rw [List.forall_mem_cons, List.forall_mem_singleton]
  exact ⟨verbatim_remotePath config pid, verbatim_of_all_isPathPart (by decide) (by decide)⟩

theorem bare_two : Bare ['2'] :=
  (verbatim_of_all_isPathPart (List.cons_ne_nil _ _) (by decide)).toBare

/-- Values without special characters are read as they are written, but for tildes. -/
theorem read_command (hnames : ∀ assignment ∈ assigned order config.envVars,
    IsName assignment.1) (hvalues : ∀ assignment ∈ assigned order config.envVars,
    ∀ c ∈ assignment.2, Ordinary c) (results : Results) :
    read extent results (command config pid order).toList = some {
      assignments := (assigned order config.envVars).map (asRead results)
      words := [(remotePath config pid).toList, "--stdio".toList] } := by
  rw [toList_command]
  refine read_commandText hnames hvalues ?_ (verbatim_words config pid) (by decide) bare_two
    (bare_stderrLog config pid) results
  have hslash : ∀ text ∈ reserved, '/' ∉ text := by decide
  intro hmem
  apply hslash _ hmem
  unfold remotePath
  split
  · rw [toList_remoteTempPath]
    exact List.mem_append_left _ (by decide)
  · decide

/-! ## The environment -/

theorem nodup_assigned (order : String → Nat) (envVars : HashMap String String) :
    ((assigned order envVars).map Prod.fst).Nodup := by
  have hkeys := HashMap.nodup_keys_listing order envVars
  have hmap : (assigned order envVars).map Prod.fst =
      ((envVars.listing order).map Sigma.fst).map String.toList := by
    simp [assigned, Function.comp_def]
  rw [hmap]
  exact hkeys.map fun _ _ => String.toList_injective

/-- The assignments of all entries make the environment of a local process. -/
theorem environment_assigned (words : List (List Char)) (cmdOrder : String → Nat)
    (envVars : HashMap String String) (workingDir : Option PathBuf) (base : Environment) :
    SimpleCommand.environment ⟨assigned order envVars, words⟩ base =
      (configureCommand cmdOrder {} envVars workingDir).environment base := by
  have hfound : ∀ name text,
      (envVars.lookup (String.ofList name)).map String.toList = some text ↔
        (name, text) ∈ assigned order envVars := by
    intro name text
    simp only [assigned, List.mem_map, Sigma.exists, HashMap.mem_listing, Option.map_eq_some_iff,
      Prod.mk.injEq]
    constructor
    · rintro ⟨value, hlookup, rfl⟩
      exact ⟨_, value, hlookup, String.toList_ofList, rfl⟩
    · rintro ⟨key, value, hlookup, rfl, rfl⟩
      exact ⟨value, by rwa [String.ofList_toList], rfl⟩
  rw [SimpleCommand.environment_of_nodup (nodup_assigned order envVars) hfound base]
  ext1 name
  exact (environment_configureCommand cmdOrder envVars workingDir base name).symm

/-- A text that makes the environment of a local process assigns all entries. -/
theorem assigned_subset {command : SimpleCommand} {cmdOrder : String → Nat}
    {envVars : HashMap String String} {workingDir : Option PathBuf}
    (h : ∀ base, command.environment base =
      (configureCommand cmdOrder {} envVars workingDir).environment base) :
    assigned order envVars ⊆ command.assignments := by
  refine forall_mem_assigned.mpr fun key value hlookup => ?_
  apply SimpleCommand.mem_of_environment
  rw [h, environment_configureCommand, String.ofList_toList, hlookup]
  rfl

theorem asRead_eq_of_mem {results : Results} {assignment : List Char × List Char}
    (hassignment : assignment ∈ assigned order config.envVars)
    (hmem : assignment ∈ (assigned order config.envVars).map (asRead results)) :
    asRead results assignment = assignment := by
  obtain ⟨other, hother, heq⟩ := List.mem_map.mp hmem
  have hname : (asRead results other).1 = assignment.1 := congrArg Prod.fst heq
  obtain rfl : other = assignment :=
    List.inj_on_of_nodup_map (nodup_assigned order config.envVars) hother hassignment hname
  exact heq

/-- The text starts the program in the environment of a local process exactly if every value
stands for itself. -/
theorem runsRemote_iff_standsForItself (extent : Char → List Char → Option Nat)
    (order order' : String → Nat) (config : ClientTransportConfig) (pid : UInt32)
    (workingDir : Option PathBuf)
    (hnames : ∀ key value, config.envVars.lookup key = some value → IsName key.toList) :
    RunsRemote extent (command config pid order) (remotePath config pid)
        (configureCommand order' {} config.envVars workingDir) ↔
      ∀ key value, config.envVars.lookup key = some value → StandsForItself value := by
  have hnames : ∀ assignment ∈ assigned order config.envVars, IsName assignment.1 :=
    forall_mem_assigned.mpr hnames
  have hvalues : (∀ key value, config.envVars.lookup key = some value → StandsForItself value) ↔
      ∀ assignment ∈ assigned order config.envVars,
        (∀ c ∈ assignment.2, Ordinary c) ∧ hasTilde true assignment.2 = false :=
    (forall_mem_assigned (p := fun assignment => (∀ c ∈ assignment.2, Ordinary c) ∧
      hasTilde true assignment.2 = false)).symm
  rw [hvalues]
  constructor
  · intro hruns
    obtain ⟨command, hread, -, henv⟩ := hruns .blank
    have hsubset : assigned order config.envVars ⊆ command.assignments := assigned_subset henv
    have hordinary : ∀ assignment ∈ assigned order config.envVars,
        ∀ c ∈ assignment.2, Ordinary c := by
      rw [toList_command] at hread
      exact ordinary_of_read_commandText hnames (nodup_assigned order config.envVars)
        (fun word hword => (verbatim_words config pid word hword).toBare) bare_two
        (bare_stderrLog config pid) hread hsubset
    rw [read_command hnames hordinary, Option.some.injEq] at hread
    subst hread
    intro assignment hassignment
    exact ⟨hordinary assignment hassignment, hasTilde_eq_false_of_asRead
      (asRead_eq_of_mem hassignment (hsubset hassignment))⟩
  · intro hvalues results
    have hread := @read_command extent order config pid hnames
      (fun assignment h => (hvalues assignment h).1) results
    have hassigned : (assigned order config.envVars).map (asRead results) =
        assigned order config.envVars :=
      calc (assigned order config.envVars).map (asRead results)
        _ = (assigned order config.envVars).map id := List.map_congr_left fun assignment h =>
            asRead_of_hasTilde_eq_false (hvalues assignment h).2
        _ = assigned order config.envVars := List.map_id _
    rw [hassigned] at hread
    exact ⟨_, hread, rfl, environment_assigned _ order' config.envVars workingDir⟩

def withEditor (value : String) : ClientTransportConfig where
  envVars := AList.singleton "EDITOR" value

theorem lookup_withEditor {value key found : String}
    (h : (withEditor value).envVars.lookup key = some found) : key = "EDITOR" ∧ found = value := by
  have hmem := AList.mem_lookup_iff.mp h
  simpa [withEditor] using hmem

theorem runsRemote_withEditor :
    RunsRemote (fun _ _ => none) (command (withEditor "vi") 7 String.length)
      (remotePath (withEditor "vi") 7)
      (configureCommand String.length {} (withEditor "vi").envVars none) := by
  have hiff := runsRemote_iff_standsForItself (fun _ _ => none) String.length String.length
    (withEditor "vi") 7 none fun key value h => by
      rw [(lookup_withEditor h).1]
      decide
  refine hiff.mpr fun key value h => ?_
  rw [(lookup_withEditor h).2]
  exact ⟨(verbatim_of_all_isPathPart (by decide) (by decide)).ordinary, by decide⟩

/-- The second word of a value is run in the place of the program. -/
theorem runsRemote_withEditor_false : ¬ ∀ (extent : Char → List Char → Option Nat)
    (order order' : String → Nat) (config : ClientTransportConfig) (pid : UInt32)
    (workingDir : Option PathBuf),
    (∀ key value, config.envVars.lookup key = some value → IsName key.toList) →
    RunsRemote extent (command config pid order) (remotePath config pid)
      (configureCommand order' {} config.envVars workingDir) := by
  intro h
  have hruns := h (fun _ _ => none) String.length String.length (withEditor "code --wait") 7 none
    fun key value h => by
      rw [(lookup_withEditor h).1]
      decide
  obtain ⟨command, hread, hwords, -⟩ := hruns .blank
  have hlength : (read (fun _ _ => none) .blank
      (SshTransport.command (withEditor "code --wait") 7 String.length).toList).map
        (·.words.length) = some 3 := by
    decide
  rw [hread, Option.map_some, hwords] at hlength
  cases hlength

end SshTransport

end Yuha
