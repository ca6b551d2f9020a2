import Yuha.Client.SshCommand
import Yuha.Client.SshTransfer

/-!
# The size of the commands of an upload

`transfer_binary_to_remote` tests the encoded binary against `MAX_COMMAND_SIZE` and puts the
text of the command around it afterwards. A binary that nearly fills the limit goes in one
command, and that command is longer than the limit.

## Implementation notes

An upload that fails sends the first of the commands and leaves the others out.
-/

namespace Yuha

open Library Library.Base64

/-- What `exec` sends for a command. -/
def RemoteCommand.line (path : String) : RemoteCommand → Bytes
  | .transfer encoded =>
      ascii "echo '" ++ encoded ++ ascii "' | base64 -d > " ++ ascii path ++
        ascii " && chmod +x " ++ ascii path ++ ascii " && echo 'Transfer completed'"
  | .create encoded =>
      ascii "echo -n '" ++ encoded ++ ascii "' | base64 -d > " ++ ascii path
  | .append encoded =>
      ascii "echo -n '" ++ encoded ++ ascii "' | base64 -d >> " ++ ascii path
  | .chmod => ascii "chmod +x " ++ ascii path

theorem length_ascii (text : String) : (ascii text).length = text.toList.length :=
  List.length_map ..

namespace RemoteCommand

variable (path : String) (encoded : Bytes)

theorem length_line_transfer : (line path (.transfer encoded)).length =
    64 + 2 * path.toList.length + encoded.length := by
  have htexts : (ascii "echo '").length + (ascii "' | base64 -d > ").length +
      (ascii " && chmod +x ").length + (ascii " && echo 'Transfer completed'").length = 64 := by
    decide
  simp only [line, List.length_append, length_ascii path]
  omega

theorem length_line_create : (line path (.create encoded)).length =
    25 + path.toList.length + encoded.length := by
  have htexts : (ascii "echo -n '").length + (ascii "' | base64 -d > ").length = 25 := by decide
  simp only [line, List.length_append, length_ascii path]
  omega

theorem length_line_append : (line path (.append encoded)).length =
    26 + path.toList.length + encoded.length := by
  have htexts : (ascii "echo -n '").length + (ascii "' | base64 -d >> ").length = 26 := by decide
  simp only [line, List.length_append, length_ascii path]
  omega

theorem length_line_chmod : (line path .chmod).length = 9 + path.toList.length := by
  have htext : (ascii "chmod +x ").length = 9 := by decide
  rw [line, List.length_append, length_ascii path, htext]

end RemoteCommand

/-! ## The path -/

section Path

variable (pid : UInt32)

theorem length_toList_remoteTempPath :
    (remoteTempPath pid).toList.length = 17 + (toString pid).toList.length := by
  have hname : "/tmp/yuha-remote-".toList.length = 17 := by decide
  rw [SshTransport.toList_remoteTempPath, List.length_append, hname]

theorem length_toList_pid_le : (toString pid).toList.length ≤ 10 := by
  have htoList : (toString pid).toList = Nat.toDigits 10 pid.toNat := Nat.toList_repr
  have hpid : pid.toNat < 2 ^ 32 := pid.toNat_lt
  rw [htoList, Nat.length_toDigits_le_iff (by decide) (by decide)]
  omega

end Path

/-! ## The commands of an upload -/

section Commands

variable {binary : Bytes} (pid : UInt32)

/-- A binary that is cut into pieces goes in commands that are far below the limit. -/
theorem length_line_le_of_large (hlarge : maxCommandSize < (encode binary).length) :
    ∀ command ∈ transferCommands binary,
      (command.line (remoteTempPath pid)).length ≤ maxCommandSize := by
  have hpath := length_toList_remoteTempPath pid
  have hpid := length_toList_pid_le pid
  have hpiece : ∀ piece ∈ chunks chunkSize (encode binary), piece.length ≤ chunkSize :=
    fun piece => length_le_of_mem_chunks (by decide)
  have hsizes : maxCommandSize = chunkSize + chunkSize ∧ 100 < chunkSize := by decide
  intro command hcommand
  rw [transferCommands, if_neg (by omega)] at hcommand
  cases hchunks : chunks chunkSize (encode binary) with
  | nil => simp [hchunks] at hcommand
  | cons first more =>
      rw [hchunks, List.forall_mem_cons] at hpiece
      simp only [hchunks, List.cons_append, List.mem_cons, List.mem_append, List.mem_map,
        List.not_mem_nil, or_false] at hcommand
      rcases hcommand with rfl | ⟨piece, hmem, rfl⟩ | rfl
      · have hfirst := hpiece.1
        rw [RemoteCommand.length_line_create]
        omega
      · have happended := hpiece.2 piece hmem
        rw [RemoteCommand.length_line_append]
        omega
      · rw [RemoteCommand.length_line_chmod]
        omega

/-- A binary that goes in one command keeps to the limit if it leaves room for the text around
it. -/
theorem length_line_le_iff_of_small (hsmall : (encode binary).length ≤ maxCommandSize) :
    (∀ command ∈ transferCommands binary,
      (command.line (remoteTempPath pid)).length ≤ maxCommandSize) ↔
      (encode binary).length ≤ maxCommandSize - (98 + 2 * (toString pid).toList.length) := by
  have hpath := length_toList_remoteTempPath pid
  have hpid := length_toList_pid_le pid
  have hroom : 118 ≤ maxCommandSize := by decide
  rw [transferCommands, if_pos hsmall, List.forall_mem_singleton,
    RemoteCommand.length_line_transfer]
  omega

/-- The commands of an upload keep to the limit exactly if the encoded binary and the text
around it fit together, or if the encoded binary alone does not fit. -/
theorem forall_length_line_le_iff (binary : Bytes) (pid : UInt32) :
    (∀ command ∈ transferCommands binary,
      (command.line (remoteTempPath pid)).length ≤ maxCommandSize) ↔
      binary.length ≤ 3 * ((maxCommandSize - (98 + 2 * (toString pid).toList.length)) / 4) ∨
        3 * (maxCommandSize / 4) < binary.length := by
  rw [← length_encode_le_iff, ← not_le, ← length_encode_le_iff]
  by_cases hsmall : (encode binary).length ≤ maxCommandSize
  · rw [length_line_le_iff_of_small pid hsmall]
    simp only [hsmall, not_true_eq_false, or_false]
  · simp only [hsmall, not_false_eq_true, or_true, iff_true]
    exact length_line_le_of_large pid (by omega)

/-- A binary of 96 KiB goes in one command, whose data alone is as long as the limit. -/
theorem forall_length_line_le_false : ¬ ∀ command ∈ transferCommands (List.replicate 98304 0),
    (command.line (remoteTempPath 1)).length ≤ maxCommandSize := by
  have hencode : ∀ n, (encode (List.replicate n 0)).length = 4 * ((n + 2) / 3) := by
    intro n
    rw [length_encode, List.length_replicate]
  have hfull : (encode (List.replicate 98304 0)).length = maxCommandSize := hencode 98304
  have hroom : 98 ≤ maxCommandSize := by decide
  intro hall
  rw [length_line_le_iff_of_small 1 hfull.le, hfull] at hall
  omega

end Commands

end Yuha
