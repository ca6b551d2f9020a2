import Yuha.Core.Protocol
import Yuha.Library.Base64
import Yuha.Library.Execution
import Mathlib.Data.List.Perm.Basic

/-!
# The upload of the remote binary

`transfer_binary_to_remote` sends the binary as shell commands, each on a channel of its
own. `exec` returns when the request is sent, so the server can complete the commands that
are outstanding in any order, and at any time after the upload has returned.

## Implementation notes

The shell, `base64` and `chmod` are modelled by what a command that runs to completion
makes of the file. `completed` is not in the code: it records the commands in the order in
which the server completed them. A run ends where the session command is started.
-/

namespace Yuha

open Library Library.Base64 Library.Execution

def maxCommandSize : Nat := 128 * 1024

def chunkSize : Nat := 64 * 1024

structure RemoteFile where
  content : Bytes
  executable : Bool
  deriving DecidableEq, Repr

/-- The commands of an upload. All are about one path. -/
inductive RemoteCommand
  /-- `echo '{}' | base64 -d > {} && chmod +x {} && echo 'Transfer completed'` -/
  | transfer (encoded : Bytes)
  /-- `echo -n '{}' | base64 -d > {}` -/
  | create (encoded : Bytes)
  /-- `echo -n '{}' | base64 -d >> {}` -/
  | append (encoded : Bytes)
  /-- `chmod +x {}` -/
  | chmod
  deriving DecidableEq, Repr

/-- The file at the path, if there is one. -/
abbrev RemotePath := Option RemoteFile

namespace RemotePath

def content (path : RemotePath) : Bytes := path.elim [] RemoteFile.content

def executable (path : RemotePath) : Bool := path.elim false RemoteFile.executable

end RemotePath

namespace RemoteCommand

/-- What a command makes of the file. A redirection keeps the mode of a file that exists. -/
def runOn (path : RemotePath) : RemoteCommand → RemotePath
  | .transfer encoded =>
      -- `echo` ends the text with a line feed
      match decode (encoded ++ [10]) with
      | some bytes => some { content := bytes, executable := true }
      | none => some { content := [], executable := path.executable }
  | .create encoded =>
      some { content := (decode encoded).getD [], executable := path.executable }
  | .append encoded =>
      some {
        content := path.content ++ (decode encoded).getD []
        executable := path.executable }
  | .chmod => path.map fun file => { file with executable := true }

/-- Whether a command starts the file anew. -/
def creates : RemoteCommand → Bool
  | .transfer _ | .create _ => true
  | .append _ | .chmod => false

/-- The bytes a command writes to the file. -/
def writes : RemoteCommand → Bytes
  | .transfer encoded => (decode (encoded ++ [10])).getD []
  | .create encoded | .append encoded => (decode encoded).getD []
  | .chmod => []

/-- Whether a command makes a file that is there executable. -/
def makesExecutable : RemoteCommand → Bool
  | .transfer encoded => (decode (encoded ++ [10])).isSome
  | .create _ | .append _ => false
  | .chmod => true

variable {command : RemoteCommand}

theorem runOn_of_creates (h : command.creates = true) (path : RemotePath) :
    command.runOn path =
      some ⟨command.writes, path.executable || command.makesExecutable⟩ := by
  cases command with
  | transfer encoded =>
      simp only [runOn, writes, makesExecutable]
      cases decode (encoded ++ [10]) <;> simp
  | create encoded => simp [runOn, writes, makesExecutable]
  | append encoded | chmod => simp [creates] at h

theorem runOn_some (h : command.creates = false) (file : RemoteFile) :
    command.runOn (some file) =
      some ⟨file.content ++ command.writes, file.executable || command.makesExecutable⟩ := by
  cases command with
  | transfer encoded | create encoded => simp [creates] at h
  | append encoded =>
      simp [runOn, writes, makesExecutable, RemotePath.content, RemotePath.executable]
  | chmod => simp [runOn, writes, makesExecutable]

theorem content_runOn (h : command.creates = false) (path : RemotePath) :
    (command.runOn path).content = path.content ++ command.writes := by
  cases path with
  | some file => simp [runOn_some h, RemotePath.content]
  | none =>
      cases command with
      | transfer encoded | create encoded => simp [creates] at h
      | append encoded => simp [runOn, writes, RemotePath.content]
      | chmod => simp [runOn, writes, RemotePath.content]

/-- The file after some commands, run one after the other. -/
def runAll (path : RemotePath) (commands : List RemoteCommand) : RemotePath :=
  commands.foldl runOn path

variable {commands : List RemoteCommand}

theorem runAll_some (h : ∀ command ∈ commands, command.creates = false) (file : RemoteFile) :
    runAll (some file) commands =
      some ⟨file.content ++ commands.flatMap writes,
        file.executable || commands.any makesExecutable⟩ := by
  induction commands generalizing file with
  | nil => simp [runAll]
  | cons command commands ih =>
      obtain ⟨hfirst, hmore⟩ := List.forall_mem_cons.mp h
      have hrest := ih hmore ⟨file.content ++ command.writes,
        file.executable || command.makesExecutable⟩
      rw [runAll, List.foldl_cons, runOn_some hfirst]
      rw [runAll] at hrest
      rw [hrest]
      simp [Bool.or_assoc]

theorem content_runAll (h : ∀ command ∈ commands, command.creates = false)
    (path : RemotePath) :
    (runAll path commands).content = path.content ++ commands.flatMap writes := by
  induction commands generalizing path with
  | nil => simp [runAll]
  | cons command commands ih =>
      obtain ⟨hfirst, hmore⟩ := List.forall_mem_cons.mp h
      calc (runAll (command.runOn path) commands).content
          = (command.runOn path).content ++ commands.flatMap writes := ih hmore _
        _ = path.content ++ (command :: commands).flatMap writes := by
            rw [content_runOn hfirst, List.append_assoc, List.flatMap_cons]

theorem runAll_none_of_chmod (h : ∀ command ∈ commands, command = .chmod) :
    runAll none commands = none := by
  induction commands with
  | nil => rfl
  | cons command commands ih =>
      obtain ⟨rfl, hmore⟩ := List.forall_mem_cons.mp h
      exact ih hmore

theorem runAll_append (path : RemotePath) (commands more : List RemoteCommand) :
    runAll path (commands ++ more) = runAll (runAll path commands) more :=
  List.foldl_append

end RemoteCommand

open RemoteCommand

/-- The commands `transfer_binary_to_remote` sends. -/
def transferCommands (binary : Bytes) : List RemoteCommand :=
  let encoded := encode binary
  if encoded.length ≤ maxCommandSize then
    [.transfer encoded]
  else
    match chunks chunkSize encoded with
    | [] => []
    | first :: more => .create first :: more.map .append ++ [.chmod]

/-- What the commands of an upload have in common, small or large. -/
structure IsUpload (binary : Bytes) (first : RemoteCommand) (more : List RemoteCommand) :
    Prop where
  creates : first.creates = true
  adds : ∀ command ∈ more, command.creates = false ∧ (command.writes = [] → command = .chmod)
  nonempty : more ≠ [] → first.writes ≠ []
  chmod_once : RemoteCommand.chmod ∈ more → more.count .chmod = 1 ∧ first.makesExecutable = false
  executable : (first :: more).any RemoteCommand.makesExecutable = true
  writes : (first :: more).flatMap RemoteCommand.writes = binary

theorem flatMap_writes_append (pieces : List Bytes) :
    ((pieces.map encode).map RemoteCommand.append).flatMap RemoteCommand.writes =
      pieces.flatten := by
  induction pieces with
  | nil => rfl
  | cons piece pieces ih => simpa [RemoteCommand.writes, decode_encode] using ih

theorem exists_isUpload (binary : Bytes) :
    ∃ first more, transferCommands binary = first :: more ∧ IsUpload binary first more := by
  by_cases hsmall : (encode binary).length ≤ maxCommandSize
  · have hdecode : decode (encode binary ++ [10]) = some binary :=
      decode_encode_append (by decide) binary
    refine ⟨.transfer (encode binary), [], by simp [transferCommands, hsmall], ?_⟩
    constructor <;>
      simp [RemoteCommand.creates, RemoteCommand.writes, RemoteCommand.makesExecutable, hdecode]
  · have hchunks : chunks chunkSize (encode binary) =
        (chunks (3 * (16 * 1024)) binary).map encode :=
      chunks_encode (by decide : 0 < 16 * 1024) binary
    have hflatten := flatten_chunks (3 * (16 * 1024)) binary
    cases hpieces : chunks (3 * (16 * 1024)) binary with
    | nil =>
        rw [hpieces, List.flatten_nil] at hflatten
        subst hflatten
        exact absurd (Nat.zero_le _) hsmall
    | cons piece pieces =>
        have hpiece : piece ≠ [] := ne_nil_of_mem_chunks (hpieces ▸ List.mem_cons_self)
        have hmore : ∀ other ∈ pieces, other ≠ [] := fun other hother =>
          ne_nil_of_mem_chunks (hpieces ▸ List.mem_cons_of_mem piece hother)
        refine ⟨.create (encode piece),
          (pieces.map encode).map .append ++ [RemoteCommand.chmod], ?_, ?_⟩
        · simp [transferCommands, hsmall, hchunks, hpieces]
        · constructor
          case creates => rfl
          case adds =>
            intro command hcommand
            rw [List.mem_append, List.map_map, List.mem_map, List.mem_singleton] at hcommand
            cases hcommand with
            | inl happend =>
                obtain ⟨other, hother, rfl⟩ := happend
                simp [RemoteCommand.creates, RemoteCommand.writes, decode_encode,
                  hmore other hother]
            | inr hchmod => exact ⟨hchmod ▸ rfl, fun _ => hchmod⟩
          case nonempty => simp [RemoteCommand.writes, decode_encode, hpiece]
          case chmod_once => simp [RemoteCommand.makesExecutable, List.count_eq_zero]
          case executable => simp [RemoteCommand.makesExecutable]
          case writes =>
            rw [List.flatMap_cons, List.flatMap_append, flatMap_writes_append, ← hflatten, hpieces]
            simp [RemoteCommand.writes, decode_encode]

/-! ## The file after some of the commands -/

/-- The server created the file first, made it executable, and wrote the binary piece by
piece. -/
structure Assembled (binary : Bytes) (completed : List RemoteCommand) : Prop where
  created : completed.head? = (transferCommands binary).head?
  executable : completed.any RemoteCommand.makesExecutable = true
  written : completed.flatMap RemoteCommand.writes = binary

/-- The order in which the commands are sent is a good one. -/
theorem assembled_transferCommands (binary : Bytes) :
    Assembled binary (transferCommands binary) := by
  obtain ⟨first, more, hcommands, hupload⟩ := exists_isUpload binary
  constructor
  · rfl
  · rw [hcommands, hupload.executable]
  · rw [hcommands, hupload.writes]

variable {binary : Bytes} {first : RemoteCommand} {more completed rest : List RemoteCommand}

/-- The bytes of the completed commands and of the others make up the binary. -/
theorem IsUpload.length_writes (h : IsUpload binary first more)
    (hperm : (completed ++ rest).Perm (first :: more)) :
    (completed.flatMap RemoteCommand.writes).length +
      (rest.flatMap RemoteCommand.writes).length = binary.length := by
  have hlength := (hperm.flatMap_right RemoteCommand.writes).length_eq
  rwa [h.writes, List.flatMap_append, List.length_append] at hlength

/-- Without the command that creates it the file is not the binary. -/
theorem IsUpload.first_mem (h : IsUpload binary first more)
    (hperm : (completed ++ rest).Perm (first :: more))
    (hfile : runAll none completed = some ⟨binary, true⟩) : first ∈ completed := by
  by_contra hfirst
  have hmore : ∀ command ∈ completed, command ∈ more := by
    intro command hmem
    have hsent := hperm.mem_iff.mp (List.mem_append_left rest hmem)
    exact (List.mem_cons.mp hsent).resolve_left fun heq => hfirst (heq ▸ hmem)
  have hwritten : completed.flatMap RemoteCommand.writes = binary :=
    calc completed.flatMap RemoteCommand.writes
        = (runAll none completed).content :=
          (content_runAll (fun command hmem => (h.adds command (hmore command hmem)).1) none).symm
      _ = binary := by rw [hfile]; rfl
  have hlength := h.length_writes hperm
  rw [hwritten] at hlength
  have hrest : first ∈ rest :=
    (List.mem_append.mp (hperm.mem_iff.mpr List.mem_cons_self)).resolve_left hfirst
  have hnil : first.writes = [] := by
    apply List.flatMap_eq_nil_iff.mp (List.length_eq_zero_iff.mp _) first hrest
    omega
  have hnone : more = [] := by
    by_contra hne
    exact h.nonempty hne hnil
  have hcompleted : completed = [] := by
    apply List.eq_nil_iff_forall_not_mem.mpr
    intro command hmem
    simpa [hnone] using hmore command hmem
  simp [hcompleted, runAll] at hfile

/-- If the file is the binary, it was created before every other command. -/
theorem IsUpload.eq_first_cons (h : IsUpload binary first more)
    (hperm : (completed ++ rest).Perm (first :: more))
    (hfile : runAll none completed = some ⟨binary, true⟩) :
    ∃ after, completed = first :: after := by
  obtain ⟨before, after, rfl⟩ := List.append_of_mem (h.first_mem hperm hfile)
  have hothers : (before ++ (after ++ rest)).Perm more := by
    apply (List.perm_cons first).mp
    apply List.Perm.trans _ hperm
    simp only [List.append_assoc, List.cons_append]
    exact List.perm_middle.symm
  have hafter : ∀ command ∈ after, command.creates = false := fun command hmem =>
    (h.adds command (hothers.mem_iff.mp (by simp [hmem]))).1
  rw [runAll_append, runAll, List.foldl_cons, runOn_of_creates h.creates, ← runAll,
    runAll_some hafter, Option.some.injEq, RemoteFile.mk.injEq] at hfile
  obtain ⟨hwritten, hexecutable⟩ := hfile
  have hnil : before.flatMap RemoteCommand.writes = [] := by
    have hlength := h.length_writes hperm
    rw [List.flatMap_append, List.flatMap_cons, hwritten, List.length_append] at hlength
    apply List.length_eq_zero_iff.mp
    omega
  have hchmod : ∀ command ∈ before, command = .chmod := fun command hmem =>
    (h.adds command (hothers.mem_iff.mp (by simp [hmem]))).2
      (List.flatMap_eq_nil_iff.mp hnil command hmem)
  cases before with
  | nil => exact ⟨after, rfl⟩
  | cons command before =>
      obtain rfl := hchmod command List.mem_cons_self
      -- the only `chmod` ran before there was a file
      obtain ⟨honce, hplain⟩ := h.chmod_once (hothers.mem_iff.mp List.mem_cons_self)
      rw [← hothers.count_eq, List.cons_append, List.count_cons_self] at honce
      have habsent : RemoteCommand.chmod ∉ after := fun hmem =>
        List.count_eq_zero.mp (Nat.succ_injective honce) (by simp [hmem])
      have hnever : after.any RemoteCommand.makesExecutable = false := by
        apply List.any_eq_false.mpr
        intro other hmem
        have hkept := hafter other hmem
        cases other with
        | transfer encoded => simp [RemoteCommand.creates] at hkept
        | chmod => exact absurd hmem habsent
        | create encoded | append encoded => simp [RemoteCommand.makesExecutable]
      rw [runAll_none_of_chmod hchmod, hplain, hnever] at hexecutable
      simp [RemotePath.executable] at hexecutable

/-- The completed commands of an upload that were put together make the binary of whatever
was at the path. -/
theorem IsUpload.runAll_eq (h : IsUpload binary first more)
    (hperm : (completed ++ rest).Perm (first :: more))
    (hcommands : transferCommands binary = first :: more)
    (hassembled : Assembled binary completed) (path : RemotePath) :
    runAll path completed = some ⟨binary, true⟩ := by
  obtain ⟨hcreated, hexecutable, hwritten⟩ := hassembled
  rw [hcommands, List.head?_cons, List.head?_eq_some_iff] at hcreated
  obtain ⟨after, rfl⟩ := hcreated
  have hafter : ∀ command ∈ after, command.creates = false := by
    intro command hmem
    rw [List.cons_append, List.perm_cons] at hperm
    exact (h.adds command (hperm.mem_iff.mp (List.mem_append_left rest hmem))).1
  calc runAll path (first :: after)
      = runAll (first.runOn path) after := rfl
    _ = some ⟨first.writes ++ after.flatMap RemoteCommand.writes,
          path.executable || first.makesExecutable ||
            after.any RemoteCommand.makesExecutable⟩ := by
        rw [runOn_of_creates h.creates, runAll_some hafter]
    _ = some ⟨binary, true⟩ := by
        rw [Bool.or_assoc, ← List.any_cons, hexecutable, ← List.flatMap_cons, hwritten,
          Bool.or_true]

theorem IsUpload.assembled (h : IsUpload binary first more)
    (hperm : (completed ++ rest).Perm (first :: more))
    (hcommands : transferCommands binary = first :: more)
    (hfile : runAll none completed = some ⟨binary, true⟩) : Assembled binary completed := by
  obtain ⟨after, rfl⟩ := h.eq_first_cons hperm hfile
  have hafter : ∀ command ∈ after, command.creates = false := by
    intro command hmem
    rw [List.cons_append, List.perm_cons] at hperm
    exact (h.adds command (hperm.mem_iff.mp (List.mem_append_left rest hmem))).1
  rw [runAll, List.foldl_cons, runOn_of_creates h.creates, ← runAll, runAll_some hafter,
    Option.some.injEq, RemoteFile.mk.injEq] at hfile
  constructor
  · rw [hcommands, List.head?_cons, List.head?_cons]
  · simpa [RemotePath.executable] using hfile.2
  · exact hfile.1

/-! ## The transfer -/

structure BinaryTransfer where
  unsent : List RemoteCommand
  outstanding : List RemoteCommand := []
  completed : List RemoteCommand := []
  path : RemotePath
  deriving DecidableEq, Repr

inductive TransferEvent
  /-- The client sends its next command. -/
  | exec
  /-- The server runs one of the commands it was sent to completion. -/
  | complete (position : Nat)

namespace BinaryTransfer

def start (path : RemotePath) (binary : Bytes) : BinaryTransfer where
  unsent := transferCommands binary
  path := path

def step (transfer : BinaryTransfer) : TransferEvent → BinaryTransfer
  | .exec =>
      match transfer.unsent with
      | [] => transfer
      | command :: unsent =>
          { transfer with
            unsent := unsent
            outstanding := transfer.outstanding ++ [command] }
  | .complete position =>
      match transfer.outstanding[position]? with
      | none => transfer
      | some command =>
          { transfer with
            outstanding := transfer.outstanding.eraseIdx position
            completed := transfer.completed ++ [command]
            path := command.runOn transfer.path }

/-- `transfer_binary_to_remote` has returned `Ok`. -/
def Returned (transfer : BinaryTransfer) : Prop := transfer.unsent = []

/-- The remote file is exactly the binary, and executable. -/
def HoldsBinary (binary : Bytes) (transfer : BinaryTransfer) : Prop :=
  transfer.path = some ⟨binary, true⟩

/-- The commands are those of the upload, and the file is what the completed ones made. -/
structure Accounted (path : RemotePath) (binary : Bytes) (transfer : BinaryTransfer) :
    Prop where
  commands : (transfer.completed ++ (transfer.outstanding ++ transfer.unsent)).Perm
    (transferCommands binary)
  path : transfer.path = runAll path transfer.completed

variable {path : RemotePath} {transfer : BinaryTransfer}

theorem Accounted.step (h : Accounted path binary transfer) (event : TransferEvent) :
    Accounted path binary (transfer.step event) := by
  cases event with
  | exec =>
      simp only [BinaryTransfer.step]
      split
      · exact h
      · rename_i command unsent hunsent
        have hcommands := h.commands
        rw [hunsent] at hcommands
        exact ⟨by simpa using hcommands, h.path⟩
  | complete position =>
      simp only [BinaryTransfer.step]
      split
      · exact h
      · rename_i command hposition
        obtain ⟨hlt, rfl⟩ := List.getElem?_eq_some_iff.mp hposition
        constructor
        · apply List.Perm.trans _ h.commands
          simp only [List.append_assoc, List.singleton_append]
          apply List.Perm.append_left
          rw [← List.cons_append]
          exact (List.getElem_cons_eraseIdx_perm hlt).append_right _
        · rw [runAll_append, ← h.path]
          rfl

theorem accounted_run (path : RemotePath) (binary : Bytes) (events : List TransferEvent) :
    Accounted path binary (run step (start path binary) events) := by
  have hstart : Accounted path binary (start path binary) := ⟨.refl _, rfl⟩
  generalize start path binary = transfer at hstart ⊢
  induction events generalizing transfer with
  | nil => exact hstart
  | cons event events ih => exact ih (transfer.step event) (hstart.step event)

/-- At a path that was free is the binary, exactly if the commands completed by then put it
together. Then it is there whatever was at the path before. -/
theorem holdsBinary_iff_assembled (path : RemotePath) (binary : Bytes)
    (events : List TransferEvent) :
    (Assembled binary (run step (start path binary) events).completed →
        HoldsBinary binary (run step (start path binary) events)) ∧
      (path = none →
        (HoldsBinary binary (run step (start path binary) events) ↔
          Assembled binary (run step (start path binary) events).completed)) := by
  obtain ⟨first, more, hcommands, hupload⟩ := exists_isUpload binary
  obtain ⟨hperm, hpath⟩ := accounted_run path binary events
  rw [hcommands] at hperm
  unfold HoldsBinary
  rw [hpath]
  constructor
  · exact fun hassembled => hupload.runAll_eq hperm hcommands hassembled path
  · rintro rfl
    constructor
    · exact hupload.assembled hperm hcommands
    · exact fun hassembled => hupload.runAll_eq hperm hcommands hassembled none

/-- A piece of an upload, of zeros. -/
def zeros : Bytes := List.replicate (3 * (16 * 1024)) 0

/-- A binary of several such pieces. -/
def zeroPieces (k : Nat) : Bytes := List.replicate (3 * (16 * 1024) * k) 0

theorem zeroPieces_three : zeroPieces 3 = zeros ++ (zeros ++ zeros) := by
  simp only [zeroPieces, zeros, ← List.replicate_add]

theorem transferCommands_zeroPieces : transferCommands (zeroPieces 3) =
    [.create (encode zeros), .append (encode zeros), .append (encode zeros), .chmod] := by
  have hlarge : ¬ (encode (zeroPieces 3)).length ≤ maxCommandSize := by
    rw [length_encode, zeroPieces, List.length_replicate]
    decide
  have hchunks : chunks chunkSize (encode (zeroPieces 3)) =
      [encode zeros, encode zeros, encode zeros] := by
    have hcut : chunks chunkSize (encode (zeroPieces 3)) =
        (chunks (3 * (16 * 1024)) (zeroPieces 3)).map encode :=
      chunks_encode (by decide : 0 < 16 * 1024) (zeroPieces 3)
    have hpieces : chunks (3 * (16 * 1024)) (zeroPieces 3) = List.replicate 3 zeros :=
      chunks_replicate (by decide) 0 3
    rw [hcut, hpieces]
    rfl
  simp only [transferCommands, hlarge, if_false, hchunks]
  rfl

/-- The server makes the file executable before the last piece is there. -/
theorem holdsBinary_iff_assembled_pieces : HoldsBinary (zeroPieces 3)
    (run step (start none (zeroPieces 3))
      [.exec, .complete 0, .exec, .exec, .exec, .complete 1, .complete 1, .complete 0]) := by
  apply ((holdsBinary_iff_assembled none (zeroPieces 3) _).2 rfl).mpr
  have hcompleted : (run step (start none (zeroPieces 3))
      [.exec, .complete 0, .exec, .exec, .exec, .complete 1, .complete 1, .complete 0]).completed =
      [.create (encode zeros), .append (encode zeros), .chmod, .append (encode zeros)] := by
    simp only [run, List.foldl_cons, List.foldl_nil, start, transferCommands_zeroPieces]
    rfl
  rw [hcompleted]
  constructor
  · rw [transferCommands_zeroPieces]
    rfl
  · rfl
  · simp only [List.flatMap_cons, List.flatMap_nil, RemoteCommand.writes, decode_encode,
      Option.getD_some, List.nil_append, List.append_nil, zeroPieces_three]

/-- A small binary, of which the one command has yet to run when the upload returns. -/
theorem holdsBinary_outstanding_false :
    (run step (start none [127]) [.exec]).Returned ∧
      ¬ HoldsBinary [127] (run step (start none [127]) [.exec]) := by
  unfold Returned HoldsBinary
  decide

end BinaryTransfer

/-! ## The commands in the order in which they are sent -/

/-- The text that a command pipes through `base64 -d`. -/
def RemoteCommand.text : RemoteCommand → Option Bytes
  | .transfer encoded | .create encoded | .append encoded => some encoded
  | .chmod => none

/-- The texts of an upload in order. -/
def sentTexts (binary : Bytes) : List Bytes := (transferCommands binary).filterMap (·.text)

theorem sentTexts_eq (binary : Bytes) :
    sentTexts binary =
      if (encode binary).length ≤ maxCommandSize then [encode binary]
      else chunks chunkSize (encode binary) := by
  unfold sentTexts transferCommands
  by_cases hsmall : (encode binary).length ≤ maxCommandSize
  · simp [hsmall, RemoteCommand.text]
  · cases hchunks : chunks chunkSize (encode binary) with
    | nil => simp [hsmall, hchunks]
    | cons first more =>
        simp [hsmall, hchunks, RemoteCommand.text]

/-- The texts are those of the pieces of the binary, cut where a group of three bytes ends. -/
theorem exists_pieces (binary : Bytes) : ∃ pieces : List Bytes,
    sentTexts binary = pieces.map encode ∧ pieces.flatten = binary ∧
      ∀ front last, pieces = front ++ [last] → ∀ piece ∈ front, 3 ∣ piece.length := by
  rw [sentTexts_eq]
  split
  · refine ⟨[binary], rfl, by simp, fun front last heq piece hpiece => ?_⟩
    obtain rfl : front = [] := by
      have hlength := congrArg List.length heq
      rw [List.length_append, List.length_singleton, List.length_singleton] at hlength
      exact List.length_eq_zero_iff.mp (by omega)
    cases hpiece
  · refine ⟨chunks (3 * (16 * 1024)) binary, chunks_encode (by decide : 0 < 16 * 1024) binary,
      flatten_chunks _ _, fun front last heq piece hpiece => ?_⟩
    rw [length_of_mem_front (by decide) heq hpiece]
    exact Nat.dvd_mul_right 3 _

/-- Run to completion in the order in which they are sent, the commands make the binary of
whatever was at the path. Each text decodes by itself, the parts it decodes to make up the
binary, and only the last text is padded. -/
theorem transferCommands_upload (path : RemotePath) (binary : Bytes) :
    runAll path (transferCommands binary) = some ⟨binary, true⟩ ∧
    (∃ parts : List Bytes, (sentTexts binary).map decode = parts.map some ∧
      parts.flatten = binary) ∧
    ∀ front last, sentTexts binary = front ++ [last] → ∀ text ∈ front, pad ∉ text := by
  obtain ⟨first, more, hcommands, hupload⟩ := exists_isUpload binary
  obtain ⟨pieces, htexts, hflatten, hgroups⟩ := exists_pieces binary
  refine ⟨?_, ⟨pieces, ?_, hflatten⟩, fun front last heq text htext => ?_⟩
  · have hperm : (transferCommands binary ++ []).Perm (first :: more) := by
      rw [List.append_nil, hcommands]
    exact hupload.runAll_eq hperm hcommands (assembled_transferCommands binary) path
  · rw [htexts, List.map_map]
    exact List.map_congr_left fun piece _ => decode_encode piece
  · rw [htexts, List.map_eq_append_iff] at heq
    obtain ⟨front, ending, rfl, rfl, hending⟩ := heq
    obtain ⟨last, rfl⟩ : ∃ last, ending = [last] := by
      apply List.length_eq_one_iff.mp
      simpa using congrArg List.length hending
    obtain ⟨piece, hpiece, rfl⟩ := List.mem_map.mp htext
    exact pad_notMem_encode (hgroups front last rfl piece hpiece)

end Yuha
