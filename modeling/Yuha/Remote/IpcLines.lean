import Mathlib.Data.List.DropRight
import Yuha.Core.MessageDelivery
import Yuha.Library.Lines
import Yuha.Library.Utf8
import Yuha.Remote.Ipc

/-!
# The lines of an IPC connection

Commands and responses go over the socket as JSON texts, one on each line. A text has no
newline in it, whatever its strings contain, so every line that is sent is one line for the
server, and each gets one line in response.

## Implementation notes

`serde_json` and what the commands do are parameters. The stream comes in the reads of a
tape, and takes as many bytes as there is room for.
-/

namespace Yuha

open Library Library.Json

namespace IpcCommand

def toJson : IpcCommand → Value
  | .getClipboard => .string "GetClipboard"
  | .setClipboard content => .object [("SetClipboard", .object [("content", .string content)])]
  | .openBrowser url => .object [("OpenBrowser", .object [("url", .string url)])]
  | .sendToClient message => .object [("SendToClient", .object [("message", .string message)])]
  | .status => .string "Status"
  | .ping => .string "Ping"

def fromJson (value : Value) : Option IpcCommand := do
  let (name, fields) ← jsonVariant value
  match name with
  | "GetClipboard" => (jsonUnit fields).map fun _ => .getClipboard
  | "SetClipboard" =>
      match ← jsonFields ["content"] fields with
      | [content] => return .setClipboard (← jsonString content)
      | _ => none
  | "OpenBrowser" =>
      match ← jsonFields ["url"] fields with
      | [url] => return .openBrowser (← jsonString url)
      | _ => none
  | "SendToClient" =>
      match ← jsonFields ["message"] fields with
      | [message] => return .sendToClient (← jsonString message)
      | _ => none
  | "Status" => (jsonUnit fields).map fun _ => .status
  | "Ping" => (jsonUnit fields).map fun _ => .ping
  | _ => none

/-- `serde_json::to_string`, as the bytes of the string. -/
def toBytes (command : IpcCommand) : Bytes := print command.toJson

theorem fromJson_toJson (command : IpcCommand) : fromJson command.toJson = some command := by
  cases command <;> rfl

end IpcCommand

namespace IpcResponse

def toJson : IpcResponse → Value
  | .success data =>
      .object [("Success", .object [("data", (data.map Value.string).getD .null)])]
  | .error message => .object [("Error", .object [("message", .string message)])]
  | .status uptime connectedClients activePortForwards =>
      .object [("Status", .object [
        ("uptime", .number uptime),
        ("connected_clients", .number connectedClients.toNat),
        ("active_port_forwards", .number activePortForwards.toNat)])]
  | .pong => .string "Pong"

def toBytes (response : IpcResponse) : Bytes := print response.toJson

end IpcResponse

/-! ## Reading a line -/

def newline : UInt8 := 0x0A

/-- `char::is_whitespace`. -/
def isWhitespace (c : Char) : Bool :=
  let n := c.toNat
  (0x09 ≤ n && n ≤ 0x0D) || n = 0x20 || n = 0x85 || n = 0xA0 || n = 0x1680 ||
    (0x2000 ≤ n && n ≤ 0x200A) || n = 0x2028 || n = 0x2029 || n = 0x202F || n = 0x205F ||
    n = 0x3000

/-- `str::trim`. -/
def trim (text : List Char) : List Char := (text.dropWhile isWhitespace).rdropWhile isWhitespace

theorem isWhitespace_of_mem_utf8EncodeChar {c : Char} {b : UInt8} (h : b ∈ String.utf8EncodeChar c)
    (hb : 0x20 < b ∧ b < 0x80) : isWhitespace c = false := by
  have heq := toNat_eq_of_mem_utf8EncodeChar h hb.2
  have hlow : 0x20 < c.toNat := heq ▸ UInt8.lt_iff_toNat_lt.mp hb.1
  have hhigh : c.toNat < 0x80 := heq ▸ UInt8.lt_iff_toNat_lt.mp hb.2
  simp only [isWhitespace, Bool.or_eq_false_iff, Bool.and_eq_false_iff, decide_eq_false_iff_not]
  omega

/-- The newline that ends a line is trimmed. -/
theorem trim_newline (text : List Char) : trim (text ++ ['\n']) = trim text := by
  unfold trim
  rw [List.dropWhile_append]
  split
  · next h =>
      rw [List.isEmpty_iff.mp h]
      rfl
  · exact List.rdropWhile_concat_pos _ _ _ rfl

/-- A text that starts and ends with a visible byte is not changed. -/
theorem trim_eq_self {text : List Char} (hhead : ∀ b ∈ (utf8 text).head?, 0x20 < b ∧ b < 0x80)
    (hlast : ∀ b ∈ (utf8 text).getLast?, 0x20 < b ∧ b < 0x80) : trim text = text := by
  have hdrop : text.dropWhile isWhitespace = text := by
    cases text with
    | nil => rfl
    | cons c text =>
        obtain ⟨b, hb, hfirst⟩ := exists_head?_utf8 c text
        rw [List.dropWhile_cons_of_neg]
        simp [isWhitespace_of_mem_utf8EncodeChar hb (hhead b hfirst)]
  rw [trim, hdrop]
  cases text using List.reverseRecOn with
  | nil => rfl
  | append_singleton text c =>
      obtain ⟨b, hb, hend⟩ := exists_getLast?_utf8 text c
      rw [List.rdropWhile_concat_neg]
      simp [isWhitespace_of_mem_utf8EncodeChar hb (hlast b hend)]

theorem newline_notMem_utf8 {text : List Char} (h : '\n' ∉ text) : newline ∉ utf8 text := by
  intro hmem
  obtain ⟨c, hc, hb⟩ := List.mem_flatMap.mp hmem
  have heq : c.toNat = '\n'.toNat := toNat_eq_of_mem_utf8EncodeChar hb (by decide)
  exact h (Char.toNat_inj.mp heq ▸ hc)

theorem newline_notMem_print (value : Value) : newline ∉ print value :=
  fun h => absurd (le_of_mem_print h) (by decide)

/-- `BufReader` with what it has read ahead, and the reads to come. -/
structure LineReader where
  buffer : Bytes
  tape : List ReadEvent

namespace LineReader

/-- What is still to be read. -/
def unread (reader : LineReader) : Bytes := reader.buffer ++ stream reader.tape

/-- The loop of `read_until`, which appends to a line. -/
def readUntil (line buffer : Bytes) (tape : List ReadEvent) : Option (Bytes × LineReader) :=
  match cutLine newline buffer with
  | some (front, rest) => some (line ++ front, ⟨rest, tape⟩)
  | none =>
      match tape with
      | [] => some (line ++ buffer, ⟨[], []⟩)
      | .data bytes _ :: tape => readUntil (line ++ buffer) bytes tape
      | .failed _ :: _ | .dropped :: _ => none

/-- `read_line` on a cleared line. An error of the stream ends it, as do bytes that are not
UTF-8. The line is empty at the end of the stream. -/
def readLine (reader : LineReader) : Option (List Char × LineReader) :=
  match readUntil [] reader.buffer reader.tape with
  | some (line, rest) => (decodeUtf8 line).map fun text => (text, rest)
  | none => none

/-- A line and what is left after it are what there was. -/
theorem readUntil_append {line buffer line' : Bytes} {tape : List ReadEvent} {rest : LineReader}
    (h : readUntil line buffer tape = some (line', rest)) :
    line' ++ rest.unread = line ++ (buffer ++ stream tape) := by
  induction tape generalizing line buffer with
  | nil =>
      rw [readUntil] at h
      split at h
      · next front rest' hcut =>
          cases h
          simp [unread, ← append_of_cutLine hcut]
      · cases h
        simp [unread]
  | cons event tape ih =>
      rw [readUntil.eq_def] at h
      split at h
      · next front rest' hcut =>
          cases h
          simp [unread, ← append_of_cutLine hcut]
      · cases event with
        | data bytes hne => simpa [ReadEvent.bytes] using ih h
        | failed message => cases h
        | dropped => cases h

theorem length_unread_lt {reader rest : LineReader} {text : List Char}
    (h : reader.readLine = some (text, rest)) (hempty : text ≠ []) :
    rest.unread.length < reader.unread.length := by
  unfold readLine at h
  split at h
  · next line rest' hread =>
      obtain ⟨text', hdecode, heq⟩ := Option.map_eq_some_iff.mp h
      cases heq
      have hline : line ≠ [] := by
        rintro rfl
        have hnil : decodeUtf8 [] = some [] := decodeUtf8_utf8 []
        exact hempty (Option.some.inj (hdecode.symm.trans hnil))
      have hlength := congrArg List.length (readUntil_append hread)
      have hpos := List.length_pos_iff.mpr hline
      simp only [List.length_append, List.nil_append] at hlength
      simp only [unread, List.length_append] at hlength ⊢
      omega
  · cases h

/-- However the stream is cut into reads, the next line is what comes up to a newline. -/
theorem readUntil_line (chunks : List Chunk) (line : Bytes) {buffer front back : Bytes}
    (hcut : buffer ++ chunks.flatMap Subtype.val = front ++ newline :: back)
    (hfront : newline ∉ front) :
    ∃ (buffer' : Bytes) (chunks' : List Chunk),
      readUntil line buffer (reads chunks) =
        some (line ++ (front ++ [newline]), ⟨buffer', reads chunks'⟩) ∧
      buffer' ++ chunks'.flatMap Subtype.val = back := by
  induction chunks generalizing line buffer front with
  | nil =>
      rw [List.flatMap_nil, List.append_nil] at hcut
      subst hcut
      exact ⟨back, [], by rw [readUntil.eq_def, cutLine_append_cons hfront], List.append_nil back⟩
  | cons chunk chunks ih =>
      rw [readUntil.eq_def]
      rcases append_eq_append_cons hcut with ⟨more, rfl, hback⟩ | ⟨more, rfl, hmore⟩
      · rw [cutLine_append_cons hfront]
        exact ⟨more, chunk :: chunks, rfl, hback⟩
      · -- The newline is in a later read.
        obtain ⟨hbuffer, hmore'⟩ := not_or.mp (mt List.mem_append.mpr hfront)
        obtain ⟨buffer', chunks', hread, hback⟩ := ih (line ++ buffer) hmore hmore'
        refine ⟨buffer', chunks', ?_, hback⟩
        rw [List.append_assoc] at hread
        rw [cutLine_eq_none hbuffer, List.append_assoc buffer]
        exact hread

/-- After the last newline, it is what is left. -/
theorem readUntil_last (chunks : List Chunk) (line : Bytes) {buffer : Bytes}
    (h : newline ∉ buffer ++ chunks.flatMap Subtype.val) :
    readUntil line buffer (reads chunks) =
      some (line ++ (buffer ++ chunks.flatMap Subtype.val), ⟨[], []⟩) := by
  induction chunks generalizing line buffer with
  | nil =>
      rw [List.flatMap_nil, List.append_nil] at h ⊢
      rw [readUntil.eq_def, cutLine_eq_none h]
      rfl
  | cons chunk chunks ih =>
      obtain ⟨hbuffer, hmore⟩ := not_or.mp (mt List.mem_append.mpr h)
      rw [readUntil.eq_def, cutLine_eq_none hbuffer]
      have hread := ih (line ++ buffer) hmore
      rw [List.append_assoc] at hread
      exact hread

/-- `read_line` returns the next line with its newline. -/
theorem readLine_line (chunks : List Chunk) {buffer back : Bytes} {text : List Char}
    (htext : '\n' ∉ text)
    (hcut : buffer ++ chunks.flatMap Subtype.val = utf8 text ++ newline :: back) :
    ∃ (buffer' : Bytes) (chunks' : List Chunk),
      readLine ⟨buffer, reads chunks⟩ = some (text ++ ['\n'], ⟨buffer', reads chunks'⟩) ∧
      buffer' ++ chunks'.flatMap Subtype.val = back := by
  obtain ⟨buffer', chunks', hread, hback⟩ :=
    readUntil_line chunks [] hcut (newline_notMem_utf8 htext)
  refine ⟨buffer', chunks', ?_, hback⟩
  have hbytes : utf8 text ++ [newline] = utf8 (text ++ ['\n']) := (utf8_append text ['\n']).symm
  rw [List.nil_append, hbytes] at hread
  rw [readLine, hread]
  exact congrArg (Option.map fun read => (read, _)) (decodeUtf8_utf8 (text ++ ['\n']))

/-- At the end of the stream, it returns what is left. -/
theorem readLine_last (chunks : List Chunk) {buffer : Bytes} {text : List Char}
    (htext : '\n' ∉ text) (hcut : buffer ++ chunks.flatMap Subtype.val = utf8 text) :
    readLine ⟨buffer, reads chunks⟩ = some (text, ⟨[], []⟩) := by
  have hread := readUntil_last chunks [] (hcut ▸ newline_notMem_utf8 htext)
  rw [List.nil_append, hcut] at hread
  simp [readLine, hread, decodeUtf8_utf8]

end LineReader

/-! ## The connection -/

/-- `serde_json::from_str(line.trim())`. -/
def readCommand (serde : SerdeJson) (line : List Char) : Except String IpcCommand :=
  serde.fromSlice IpcCommand.fromJson (utf8 (trim line))

/-- What the two ends do with a text and a stream with room for so many more bytes: what is
written, and the room left if that was all. -/
def writeLine (room : Option Nat) (text : Bytes) : Bytes × Option (Option Nat) :=
  match writeAll room text with
  | (written, none) => (written, none)
  | (written, some room) =>
      let (ended, left) := writeAll room [newline]
      (written ++ ended, left)

/-- `IpcServer::send_response`. -/
def sendIpcResponse (room : Option Nat) (response : IpcResponse) : Bytes × Option (Option Nat) :=
  writeLine room response.toBytes

/-- `IpcClient::send_command`, up to the flush. -/
def sendCommand (room : Option Nat) (command : IpcCommand) : Bytes × Option (Option Nat) :=
  writeLine room command.toBytes

section

variable {σ : Type*} (serde : SerdeJson) (serve : σ → IpcCommand → IpcResponse × σ)

/-- The response to a line. -/
def answerLine (state : σ) (line : List Char) : IpcResponse × σ :=
  match readCommand serde line with
  | .ok command => serve state command
  | .error e => (.error s!"Invalid command format: {e}", state)

/-- `IpcServer::handle_connection`: what it writes. -/
def handleConnection (room : Option Nat) (state : σ) (reader : LineReader) : Bytes :=
  match _h : reader.readLine with
  | none => []
  | some (line, rest) =>
      if _hend : line = [] then []
      else
        let (response, state) := answerLine serde serve state line
        match sendIpcResponse room response with
        | (written, none) => written
        | (written, some room) => written ++ handleConnection room state rest
termination_by reader.unread.length
decreasing_by exact LineReader.length_unread_lt _h _hend

/-- On a stream that takes everything, a line is answered, and then the next. -/
theorem handleConnection_line (state : σ) {reader rest : LineReader} {line : List Char}
    (h : reader.readLine = some (line, rest)) (hline : line ≠ []) :
    handleConnection serde serve none state reader =
      (answerLine serde serve state line).1.toBytes ++ [newline] ++
        handleConnection serde serve none (answerLine serde serve state line).2 rest := by
  rw [handleConnection]
  split
  · next hnone => cases hnone.symm.trans h
  · next line' rest' hsome =>
      cases hsome.symm.trans h
      rw [dif_neg hline]
      simp [sendIpcResponse, writeLine, writeAll]

theorem handleConnection_eof (state : σ) {reader rest : LineReader}
    (h : reader.readLine = some ([], rest)) :
    handleConnection serde serve none state reader = [] := by
  rw [handleConnection]
  split
  · rfl
  · next line' rest' hsome =>
      cases hsome.symm.trans h
      rfl

/-- A line before its newline: what `send_command` sends, or some other text. -/
inductive SentLine
  | ofCommand (command : IpcCommand)
  | other (text : List Char) (unbroken : '\n' ∉ text)

namespace SentLine

def bytes : SentLine → Bytes
  | .ofCommand command => command.toBytes
  | .other text _ => utf8 text

/-- The response to the line: a command is served, and a text that is none is an error. -/
def respond (state : σ) : SentLine → IpcResponse × σ
  | .ofCommand command => serve state command
  | .other text _ =>
      match readCommand serde text with
      | .ok command => serve state command
      | .error e => (.error s!"Invalid command format: {e}", state)

end SentLine

/-- The responses to these lines, in order. -/
def responses (state : σ) : List SentLine → List IpcResponse
  | [] => []
  | line :: more =>
      let (response, state) := line.respond serde serve state
      response :: responses state more

variable {serde}

theorem readCommand_newline (text : List Char) :
    readCommand serde (text ++ ['\n']) = readCommand serde text := by
  rw [readCommand, trim_newline, readCommand]

/-- The text of a command reads as the command. -/
theorem readCommand_toBytes
    (hparse : ∀ command : IpcCommand, serde.parse command.toBytes = some command.toJson)
    {command : IpcCommand} {text : List Char} (h : command.toBytes = utf8 text) :
    readCommand serde text = .ok command := by
  have hends := visible_ends command.toJson
  rw [← IpcCommand.toBytes, h] at hends
  rw [readCommand, trim_eq_self hends.1 hends.2, ← h, SerdeJson.fromSlice, hparse]
  simp [IpcCommand.fromJson_toJson]

theorem IpcCommand.exists_text (command : IpcCommand) :
    ∃ text : List Char, command.toBytes = utf8 text ∧ '\n' ∉ text := by
  obtain ⟨text, htext⟩ := isUtf8_print command.toJson
  refine ⟨text, htext, fun hmem => newline_notMem_print command.toJson ?_⟩
  rw [htext]
  exact List.mem_flatMap.mpr ⟨'\n', hmem, List.mem_singleton_self newline⟩

/-- A line is a text without newlines, and with or without the newline after it the server
responds to it as it should. -/
theorem SentLine.exists_text
    (hparse : ∀ command : IpcCommand, serde.parse command.toBytes = some command.toJson)
    (line : SentLine) :
    ∃ text : List Char, line.bytes = utf8 text ∧ '\n' ∉ text ∧
      ∀ state, answerLine serde serve state text = line.respond serde serve state ∧
        answerLine serde serve state (text ++ ['\n']) = line.respond serde serve state := by
  cases line with
  | ofCommand command =>
      obtain ⟨text, htext, hunbroken⟩ := command.exists_text
      refine ⟨text, htext, hunbroken, fun state => ?_⟩
      have hread := readCommand_toBytes hparse htext
      constructor
      · rw [answerLine, hread]
        rfl
      · rw [answerLine, readCommand_newline, hread]
        rfl
  | other text unbroken =>
      refine ⟨text, rfl, unbroken, fun state => ⟨rfl, ?_⟩⟩
      rw [answerLine, readCommand_newline]
      rfl

/-- With these bytes left, the handler writes the responses to these lines. -/
theorem handleConnection_eq
    (hparse : ∀ command : IpcCommand, serde.parse command.toBytes = some command.toJson)
    (sent : List SentLine) (last : Option SentLine) (hlast : ∀ line ∈ last, line.bytes ≠ [])
    (state : σ) (buffer : Bytes) (chunks : List Chunk)
    (hcut : buffer ++ chunks.flatMap Subtype.val =
      (sent.flatMap fun line => line.bytes ++ [newline]) ++ last.elim [] SentLine.bytes) :
    handleConnection serde serve none state ⟨buffer, reads chunks⟩ =
      (responses serde serve state (sent ++ last.toList)).flatMap fun response =>
        response.toBytes ++ [newline] := by
  induction sent generalizing state buffer chunks with
  | nil =>
      cases last with
      | none =>
          exact handleConnection_eof _ _ _ (LineReader.readLine_last chunks List.not_mem_nil hcut)
      | some line =>
          obtain ⟨text, hbytes, htext, hrespond⟩ := line.exists_text serve hparse
          have hread := LineReader.readLine_last chunks htext (hcut.trans hbytes)
          have hne : text ≠ [] := by
            rintro rfl
            exact hlast line rfl hbytes
          rw [handleConnection_line _ _ state hread hne, (hrespond state).1]
          have heof : (LineReader.mk [] []).readLine = some ([], ⟨[], []⟩) :=
            LineReader.readLine_last [] List.not_mem_nil rfl
          rw [handleConnection_eof _ _ _ heof]
          simp [responses]
  | cons line sent ih =>
      obtain ⟨text, hbytes, htext, hrespond⟩ := line.exists_text serve hparse
      rw [List.flatMap_cons, hbytes, List.append_assoc, List.append_assoc,
        List.singleton_append] at hcut
      obtain ⟨buffer', chunks', hread, hback⟩ := LineReader.readLine_line chunks htext hcut
      rw [handleConnection_line _ _ state hread (by simp), (hrespond state).2,
        ih _ buffer' chunks' hback]
      simp [responses]

end

/-! ## The process -/

/-- What `read_line` returned, as the process sees it. -/
def ipcLine (serde : SerdeJson) : Option (List Char × LineReader) → IpcLine
  | none => .failed
  | some (line, _) =>
      if line = [] then .eof
      else
        match readCommand serde line with
        | .ok command => .command command
        | .error e => .malformed e

namespace RemoteProcess

def serve (surroundings : Surroundings) (uptime : Nat) (s : RemoteProcess)
    (command : IpcCommand) : IpcResponse × RemoteProcess :=
  let (s, response, _) := s.handleCommand surroundings uptime command
  (response, s)

/-- A step of the process that reads a line comes to the response that the handler writes. -/
theorem readLine_ipcLine (s : RemoteProcess) (i : Nat) (surroundings : Surroundings)
    (uptime : Nat) (serde : SerdeJson) {line : List Char} (hline : line ≠ [])
    (rest : LineReader) :
    ∃ place : Option Nat, s.readLine i surroundings uptime (ipcLine serde (some (line, rest))) =
      (answerLine serde (serve surroundings uptime) s line).2.setConnection i
        (.answering (answerLine serde (serve surroundings uptime) s line).1 place) := by
  rw [ipcLine, if_neg hline, answerLine]
  cases readCommand serde line with
  | error e => exact ⟨none, rfl⟩
  | ok command => exact ⟨(s.handleCommand surroundings uptime command).2.2, rfl⟩

end RemoteProcess

/-! ## Every line is answered -/

/-- What the lines of a connection promise. -/
structure AnswersLines {σ : Type*} (serde : SerdeJson)
    (serve : σ → IpcCommand → IpcResponse × σ) : Prop where
  /-- A command goes out as one line, which reads as the command. -/
  decode : ∀ command, ∃ text : List Char,
    (sendCommand none command).1 = utf8 (text ++ ['\n']) ∧ '\n' ∉ text ∧
      readCommand serde (text ++ ['\n']) = .ok command
  /-- However the lines that are sent are cut into reads, and whether or not a newline ends
  the last one, the lines that are written are their responses, one for each and in order. -/
  answer : ∀ (state : σ) (sent : List SentLine) (last : Option SentLine) (chunks : List Chunk),
    (∀ line ∈ last, line.bytes ≠ []) →
    (chunks.flatMap Subtype.val =
      (sent.flatMap fun line => line.bytes ++ [newline]) ++ last.elim [] SentLine.bytes) →
    lines newline (handleConnection serde serve none state ⟨[], reads chunks⟩) =
      (responses serde serve state (sent ++ last.toList)).map fun response =>
        response.toBytes ++ [newline]

/-- If `serde_json` parses what it prints for a command as it was, every line is answered. -/
theorem answersLines {σ : Type*} (serde : SerdeJson)
    (hparse : ∀ command : IpcCommand, serde.parse command.toBytes = some command.toJson)
    (serve : σ → IpcCommand → IpcResponse × σ) : AnswersLines serde serve := by
  constructor
  · intro command
    obtain ⟨text, htext, hunbroken⟩ := command.exists_text
    refine ⟨text, ?_, hunbroken, ?_⟩
    · rw [utf8_append, ← htext]
      rfl
    · rw [readCommand_newline]
      exact readCommand_toBytes hparse htext
  · intro state sent last chunks hlast hcut
    rw [handleConnection_eq serve hparse sent last hlast state [] chunks hcut]
    exact lines_flatMap _ fun response _ => newline_notMem_print response.toJson

/-- With the parser of the library: a message of two lines, a line that is no command, and a
command whose newline is missing, in one read. -/
theorem answersLines_threeLines :
    lines newline (handleConnection ⟨parse, fun _ => "expected value"⟩
        (RemoteProcess.serve {} 0) none {} ⟨[], reads [⟨(sendCommand none
          (.sendToClient "a\n\"b\"")).1 ++ utf8 "hello\n".toList ++ IpcCommand.ping.toBytes,
            by decide +kernel⟩]⟩) =
      ([.success none, .error "Invalid command format: expected value", .pong] :
        List IpcResponse).map fun response => response.toBytes ++ [newline] :=
  ((answersLines ⟨parse, fun _ => "expected value"⟩ (fun command => parse_print command.toJson)
      (RemoteProcess.serve {} 0)).answer {}
    [.ofCommand (.sendToClient "a\n\"b\""), .other "hello".toList (by decide +kernel)]
    (some (.ofCommand .ping)) _ (by rintro _ ⟨⟩; decide +kernel) (by decide +kernel)).trans
      (by decide +kernel)

end Yuha
