import Mathlib.Data.Nat.Digits.Defs
import Yuha.Library.Json

/-!
# JSON values

Values, the compact text they are printed as, and a parser of compact texts. Printing a
value and parsing the text gives the value back, so that a value has a text of its own.

## Implementation notes

Numbers are natural numbers, and the fields of an object are a list. The parser is for
texts without spaces. Its fuel is the length of the text.
-/

namespace Library

namespace Json

inductive Value
  | null
  | bool (b : Bool)
  | number (n : Nat)
  | string (text : String)
  | array (elements : List Value)
  | object (fields : List (String × Value))
  deriving Repr

mutual

def print : Value → List UInt8
  | .null => [0x6E, 0x75, 0x6C, 0x6C]
  | .bool true => [0x74, 0x72, 0x75, 0x65]
  | .bool false => [0x66, 0x61, 0x6C, 0x73, 0x65]
  | .number n => number n
  | .string text => string text
  | .array elements => array (printElements elements)
  | .object fields => object (printFields fields)

def printElements : List Value → List (List UInt8)
  | [] => []
  | value :: values => print value :: printElements values

def printFields : List (String × Value) → List (String × List UInt8)
  | [] => []
  | (name, value) :: fields => (name, print value) :: printFields fields

end

theorem printElements_eq_map (values : List Value) : printElements values = values.map print := by
  induction values with
  | nil => rfl
  | cons value values ih => rw [printElements, ih, List.map_cons]

/-! ## Parsing a string -/

def hexValue (b : UInt8) : Option Nat :=
  let n := b.toNat
  if 0x30 ≤ n ∧ n ≤ 0x39 then some (n - 0x30)
  else if 0x41 ≤ n ∧ n ≤ 0x46 then some (n - 0x37)
  else if 0x61 ≤ n ∧ n ≤ 0x66 then some (n - 0x57)
  else none

/-- Four hexadecimal digits. -/
def parseHex : List UInt8 → Option (Char × List UInt8)
  | a :: b :: c :: d :: rest => do
      let n := (((← hexValue a) * 16 + (← hexValue b)) * 16 + (← hexValue c)) * 16 + (← hexValue d)
      if n.isValidChar then return (Char.ofNat n, rest) else none
  | _ => none

/-- What comes after a backslash. -/
def parseEscape : List UInt8 → Option (Char × List UInt8)
  | [] => none
  | b :: rest =>
      if b = 0x75 then parseHex rest
      else if b = 0x22 then some ('\x22', rest)
      else if b = 0x5C then some ('\x5C', rest)
      else if b = 0x2F then some ('\x2F', rest)
      else if b = 0x62 then some ('\x08', rest)
      else if b = 0x74 then some ('\x09', rest)
      else if b = 0x6E then some ('\x0A', rest)
      else if b = 0x66 then some ('\x0C', rest)
      else if b = 0x72 then some ('\x0D', rest)
      else none

/-- One character inside a string. -/
def parseChar : List UInt8 → Option (Char × List UInt8)
  | [] => none
  | b :: rest =>
      if b = 0x5C then parseEscape rest
      else if b < 0x20 then none
      else do
        let c ← (b :: rest).toByteArray.utf8DecodeChar? 0
        return (c, (b :: rest).drop c.utf8Size)

/-- The characters up to the closing quote, and what follows it. -/
def parseChars : Nat → List UInt8 → Option (List Char × List UInt8)
  | 0, _ => none
  | fuel + 1, bytes =>
      if bytes.head? = some 0x22 then some ([], bytes.tail)
      else do
        let (c, rest) ← parseChar bytes
        let (chars, rest) ← parseChars fuel rest
        return (c :: chars, rest)

/-- The first byte of a character that is printed as it is. -/
theorem exists_utf8EncodeChar_eq_cons {c : Char} (h : 0x20 ≤ c.toNat) (hquote : c.toNat ≠ 0x22)
    (hbackslash : c.toNat ≠ 0x5C) :
    ∃ b bytes, String.utf8EncodeChar c = b :: bytes ∧ b ≠ 0x22 ∧ b ≠ 0x5C ∧ ¬ b < 0x20 := by
  have hbyte : ∀ n : Nat, 0x20 ≤ n % 256 → n % 256 ≠ 0x22 → n % 256 ≠ 0x5C →
      UInt8.ofNat n ≠ 0x22 ∧ UInt8.ofNat n ≠ 0x5C ∧ ¬ UInt8.ofNat n < 0x20 := by
    intro n hlow hq hb
    rw [ne_eq, ne_eq, ← UInt8.toNat_inj, ← UInt8.toNat_inj, UInt8.lt_iff_toNat_lt,
      UInt8.toNat_ofNat']
    exact ⟨hq, hb, Nat.not_lt.mpr hlow⟩
  change 0x20 ≤ c.val.toNat at h
  change c.val.toNat ≠ 0x22 at hquote
  change c.val.toNat ≠ 0x5C at hbackslash
  unfold String.utf8EncodeChar
  generalize c.val.toNat = n at *
  dsimp only
  by_cases hone : n ≤ 0x7F
  · rw [if_pos hone]
    exact ⟨_, _, rfl, hbyte n (by omega) (by omega) (by omega)⟩
  rw [if_neg hone]
  by_cases htwo : n ≤ 0x7FF
  · rw [if_pos htwo]
    exact ⟨_, _, rfl, hbyte _ (by omega) (by omega) (by omega)⟩
  rw [if_neg htwo]
  by_cases hthree : n ≤ 0xFFFF
  · rw [if_pos hthree]
    exact ⟨_, _, rfl, hbyte _ (by omega) (by omega) (by omega)⟩
  · rw [if_neg hthree]
    exact ⟨_, _, rfl, hbyte _ (by omega) (by omega) (by omega)⟩

theorem drop_utf8Size_utf8EncodeChar (c : Char) (rest : List UInt8) :
    (String.utf8EncodeChar c ++ rest).drop c.utf8Size = rest :=
  List.drop_left' (String.length_utf8EncodeChar c)

theorem hexValue_hexDigit {n : Nat} (h : n < 16) : hexValue (hexDigit n) = some n := by
  have hall : ∀ i : Fin 16, hexValue (hexDigit i.val) = some i.val := by decide
  exact hall ⟨n, h⟩

theorem parseHex_control {c : Char} (h : c.toNat < 0x20) (rest : List UInt8) :
    parseHex (0x30 :: 0x30 :: hexDigit (c.toNat / 16) :: hexDigit (c.toNat % 16) :: rest) =
      some (c, rest) := by
  have hzero : hexValue 0x30 = some 0 := by decide
  have hvalue : ((0 * 16 + 0) * 16 + c.toNat / 16) * 16 + c.toNat % 16 = c.toNat := by omega
  simp only [parseHex, hzero, hexValue_hexDigit (by omega : c.toNat / 16 < 16),
    hexValue_hexDigit (by omega : c.toNat % 16 < 16), Option.bind_eq_bind, Option.bind_some,
    hvalue]
  have hvalid : c.toNat.isValidChar := c.valid
  rw [if_pos hvalid, Char.ofNat_toNat, Option.pure_def]

/-- An escaped character is read back, and does not begin with the closing quote. -/
theorem parseChar_escape (c : Char) (rest : List UInt8) :
    parseChar (escape c ++ rest) = some (c, rest) ∧ (escape c ++ rest).head? ≠ some 0x22 := by
  have hchar : ∀ n, c.toNat = n → c = Char.ofNat n := fun n hn => by rw [← hn, Char.ofNat_toNat]
  unfold escape
  split
  case h_8 =>
    rename_i hquote hbackslash _ _ _ _ _
    by_cases hcontrol : c.toNat < 0x20
    · rw [if_pos hcontrol]
      exact ⟨parseHex_control hcontrol rest, by simp⟩
    · rw [if_neg hcontrol]
      obtain ⟨b, bytes, hbytes, hb, hb', hb''⟩ :=
        exists_utf8EncodeChar_eq_cons (Nat.not_lt.mp hcontrol) hquote hbackslash
      have hdecode : (String.utf8EncodeChar c ++ rest).toByteArray.utf8DecodeChar? 0 = some c := by
        rw [List.toByteArray_append, ByteArray.utf8DecodeChar?_utf8EncodeChar_append]
      have hdrop := drop_utf8Size_utf8EncodeChar c rest
      rw [hbytes, List.cons_append] at hdecode hdrop ⊢
      constructor
      · simp only [parseChar, if_neg hb', if_neg hb'', hdecode, Option.bind_eq_bind,
          Option.bind_some, hdrop, Option.pure_def]
      · simpa using hb
  all_goals
    rename_i hc
    rw [hchar _ hc]
    exact ⟨rfl, by simp⟩

theorem parseChars_flatMap_escape (chars : List Char) (rest : List UInt8) {fuel : Nat}
    (hfuel : (chars.flatMap escape).length < fuel) :
    parseChars fuel (chars.flatMap escape ++ 0x22 :: rest) = some (chars, rest) := by
  induction chars generalizing fuel with
  | nil =>
      cases fuel with
      | zero => simp at hfuel
      | succ fuel => simp [parseChars]
  | cons c chars ih =>
      cases fuel with
      | zero => simp at hfuel
      | succ fuel =>
          obtain ⟨hchar, hhead⟩ := parseChar_escape c (chars.flatMap escape ++ 0x22 :: rest)
          have hpos : 0 < (escape c).length := by
            cases hescape : escape c with
            | nil =>
                have := (parseChar_escape c []).1
                simp [hescape, parseChar] at this
            | cons b bytes => simp
          have hmore : (chars.flatMap escape).length < fuel := by
            rw [List.flatMap_cons, List.length_append] at hfuel
            omega
          rw [List.flatMap_cons, List.append_assoc, parseChars, if_neg hhead, hchar]
          simp only [Option.bind_eq_bind, Option.bind_some, ih hmore, Option.pure_def]

theorem parseChars_string (text : String) (rest : List UInt8) :
    parseChars (string text ++ rest).length (string text ++ rest).tail =
      some (text.toList, rest) := by
  have hfuel : (text.toList.flatMap escape).length < (string text ++ rest).length := by
    simp only [string, List.cons_append, List.length_cons, List.length_append]
    omega
  have htail : (string text ++ rest).tail = text.toList.flatMap escape ++ 0x22 :: rest := by
    simp [string]
  rw [htail, parseChars_flatMap_escape text.toList rest hfuel]

/-! ## Parsing a value -/

def isDigit (b : UInt8) : Bool := 0x30 ≤ b && b ≤ 0x39

def digitsValue (digits : List UInt8) : Nat :=
  Nat.ofDigits 10 (digits.reverse.map fun b => b.toNat - 0x30)

def parseNumber (bytes : List UInt8) : Option (Value × List UInt8) :=
  if bytes.head?.any isDigit then
    some (.number (digitsValue (bytes.takeWhile isDigit)), bytes.dropWhile isDigit)
  else none

def parseLiteral (literal : List UInt8) (value : Value) (bytes : List UInt8) :
    Option (Value × List UInt8) :=
  if literal.isPrefixOf bytes then some (value, bytes.drop literal.length) else none

mutual

/-- The value at the front of a text, and what follows it. -/
def parseValue : Nat → List UInt8 → Option (Value × List UInt8)
  | 0, _ => none
  | fuel + 1, bytes =>
      if bytes.head? = some 0x22 then do
        let (chars, rest) ← parseChars bytes.length bytes.tail
        return (.string (String.ofList chars), rest)
      else if bytes.head? = some 0x5B then
        if bytes.tail.head? = some 0x5D then some (.array [], bytes.tail.tail)
        else do
          let (elements, rest) ← parseElements fuel bytes.tail
          return (.array elements, rest)
      else if bytes.head? = some 0x7B then
        if bytes.tail.head? = some 0x7D then some (.object [], bytes.tail.tail)
        else do
          let (fields, rest) ← parseFields fuel bytes.tail
          return (.object fields, rest)
      else if bytes.head? = some 0x6E then parseLiteral (print .null) .null bytes
      else if bytes.head? = some 0x74 then parseLiteral (print (.bool true)) (.bool true) bytes
      else if bytes.head? = some 0x66 then parseLiteral (print (.bool false)) (.bool false) bytes
      else parseNumber bytes

/-- The elements up to the closing bracket. -/
def parseElements : Nat → List UInt8 → Option (List Value × List UInt8)
  | 0, _ => none
  | fuel + 1, bytes => do
      let (value, rest) ← parseValue fuel bytes
      if rest.head? = some 0x2C then
        let (values, rest) ← parseElements fuel rest.tail
        return (value :: values, rest)
      else if rest.head? = some 0x5D then return ([value], rest.tail)
      else none

/-- The fields up to the closing brace. -/
def parseFields : Nat → List UInt8 → Option (List (String × Value) × List UInt8)
  | 0, _ => none
  | fuel + 1, bytes =>
      if bytes.head? = some 0x22 then do
        let (name, rest) ← parseChars bytes.length bytes.tail
        if rest.head? = some 0x3A then
          let (value, rest) ← parseValue fuel rest.tail
          if rest.head? = some 0x2C then
            let (fields, rest) ← parseFields fuel rest.tail
            return ((String.ofList name, value) :: fields, rest)
          else if rest.head? = some 0x7D then return ([(String.ofList name, value)], rest.tail)
          else none
        else none
      else none

end

/-- A text that is one value. -/
def parse (bytes : List UInt8) : Option Value :=
  match parseValue bytes.length bytes with
  | some (value, []) => some value
  | _ => none

/-- What can follow a number. -/
def Ends (rest : List UInt8) : Prop := ∀ b ∈ rest.head?, isDigit b = false

theorem ends_cons {b : UInt8} (h : isDigit b = false) (rest : List UInt8) : Ends (b :: rest) := by
  intro b' hb'
  rw [List.head?_cons, Option.mem_some_iff] at hb'
  rwa [← hb']

theorem isDigit_of_mem_number {n : Nat} {b : UInt8} (h : b ∈ number n) : isDigit b = true := by
  have hall : ∀ i : Fin 10, isDigit (UInt8.ofNat (0x30 + i.val)) = true := by decide
  unfold number at h
  split at h
  · rw [List.mem_singleton.mp h]
    decide
  · obtain ⟨digit, hdigit, rfl⟩ := List.mem_map.mp h
    exact hall ⟨digit, Nat.digits_lt_base (by decide) (List.mem_reverse.mp hdigit)⟩

theorem digitsValue_number (n : Nat) : digitsValue (number n) = n := by
  have hall : ∀ i : Fin 10, (UInt8.ofNat (0x30 + i.val)).toNat - 0x30 = i.val := by decide
  by_cases hn : n = 0
  · subst hn
    decide
  · have hdigits : (Nat.digits 10 n).map
        (fun digit => (UInt8.ofNat (0x30 + digit)).toNat - 0x30) = Nat.digits 10 n := by
      calc (Nat.digits 10 n).map (fun digit => (UInt8.ofNat (0x30 + digit)).toNat - 0x30)
          = (Nat.digits 10 n).map id := by
            apply List.map_congr_left
            exact fun digit hdigit => hall ⟨digit, Nat.digits_lt_base (by decide) hdigit⟩
        _ = Nat.digits 10 n := List.map_id _
    calc digitsValue (number n)
        = Nat.ofDigits 10 ((Nat.digits 10 n).map
            fun digit => (UInt8.ofNat (0x30 + digit)).toNat - 0x30) := by
          simp only [digitsValue, number, if_neg hn, ← List.map_reverse, List.reverse_reverse,
            List.map_map, Function.comp_def]
      _ = n := by rw [hdigits, Nat.ofDigits_digits]

theorem number_ne_nil (n : Nat) : number n ≠ [] := by
  apply List.ne_nil_of_length_pos
  rw [length_number]
  exact Nat.succ_pos _

theorem takeWhile_number (n : Nat) {rest : List UInt8} (h : Ends rest) :
    (number n ++ rest).takeWhile isDigit = number n ∧
      (number n ++ rest).dropWhile isDigit = rest := by
  have hdigits : ∀ b ∈ number n, isDigit b = true := fun _ => isDigit_of_mem_number
  constructor
  · rw [List.takeWhile_append_of_pos hdigits]
    cases rest with
    | nil => simp
    | cons b rest => simp [h b (by simp)]
  · rw [List.dropWhile_append_of_pos hdigits]
    cases rest with
    | nil => rfl
    | cons b rest => simp [h b (by simp)]

theorem parseValue_number (n : Nat) {rest : List UInt8} (h : Ends rest) (fuel : Nat) :
    parseValue (fuel + 1) (number n ++ rest) = some (.number n, rest) := by
  obtain ⟨htake, hdrop⟩ := takeWhile_number n h
  obtain ⟨b, bytes, hbytes⟩ := List.exists_cons_of_ne_nil (number_ne_nil n)
  have hb : isDigit b = true := isDigit_of_mem_number (n := n) (by simp [hbytes])
  have hother : ∀ c : UInt8, isDigit c = false → (number n ++ rest).head? ≠ some c := by
    intro c hc hhead
    rw [hbytes, List.cons_append, List.head?_cons, Option.some.injEq] at hhead
    rw [← hhead, hb] at hc
    cases hc
  rw [parseValue, if_neg (hother _ (by decide)), if_neg (hother _ (by decide)),
    if_neg (hother _ (by decide)), if_neg (hother _ (by decide)), if_neg (hother _ (by decide)),
    if_neg (hother _ (by decide)), parseNumber, htake, hdrop, digitsValue_number, if_pos]
  rw [hbytes]
  exact hb

theorem parseValue_string (text : String) (rest : List UInt8) (fuel : Nat) :
    parseValue (fuel + 1) (string text ++ rest) = some (.string text, rest) := by
  have hhead : (string text ++ rest).head? = some 0x22 := rfl
  rw [parseValue, if_pos hhead, parseChars_string]
  simp

theorem separated_cons_cons (part next : List UInt8) (parts : List (List UInt8)) :
    separated (part :: next :: parts) = part ++ 0x2C :: separated (next :: parts) := by
  simp [separated]

theorem separated_cons (part : List UInt8) (parts : List (List UInt8)) :
    ∃ more, separated (part :: parts) = part ++ more := by
  cases parts with
  | nil => exact ⟨[], by simp [separated]⟩
  | cons next parts => exact ⟨_, separated_cons_cons part next parts⟩

/-- No value is printed with a closing bracket in front. -/
theorem head?_print (value : Value) (rest : List UInt8) :
    ∃ b, (print value ++ rest).head? = some b ∧ b ≠ 0x5D := by
  cases value with
  | number n =>
      obtain ⟨b, bytes, hbytes⟩ := List.exists_cons_of_ne_nil (number_ne_nil n)
      have hb : isDigit b = true := isDigit_of_mem_number (n := n) (by simp [hbytes])
      refine ⟨b, by simp [print, hbytes], ?_⟩
      rintro rfl
      exact absurd hb (by decide)
  | bool b => cases b <;> exact ⟨_, rfl, by decide⟩
  | null | string text | array elements | object fields => exact ⟨_, rfl, by decide⟩

theorem length_print_pos (value : Value) : 0 < (print value).length := by
  obtain ⟨b, hb, _⟩ := head?_print value []
  rw [List.append_nil] at hb
  exact List.length_pos_iff.mpr fun hnil => by simp [hnil] at hb

/-- The texts between the braces of an object. -/
def fieldTexts (fields : List (String × Value)) : List (List UInt8) :=
  (printFields fields).map fun field => string field.1 ++ 0x3A :: field.2

theorem fieldTexts_cons (name : String) (value : Value) (fields : List (String × Value)) :
    fieldTexts ((name, value) :: fields) =
      (string name ++ 0x3A :: print value) :: fieldTexts fields := rfl

theorem print_object (fields : List (String × Value)) :
    print (.object fields) = 0x7B :: (separated (fieldTexts fields) ++ [0x7D]) := rfl

theorem print_array (elements : List Value) :
    print (.array elements) = 0x5B :: (separated (printElements elements) ++ [0x5D]) := rfl

theorem head?_string (text : String) (rest : List UInt8) :
    (string text ++ rest).head? = some 0x22 := rfl

/-- The text of a value is read back, whatever follows it. -/
def Reads (value : Value) : Prop :=
  ∀ rest fuel, Ends rest → (print value).length ≤ fuel →
    parseValue fuel (print value ++ rest) = some (value, rest)

theorem parseElements_print {value : Value} {values : List Value}
    (h : ∀ element ∈ value :: values, Reads element) (rest : List UInt8) (fuel : Nat)
    (hfuel : (separated (printElements (value :: values))).length < fuel) :
    parseElements fuel (separated (printElements (value :: values)) ++ 0x5D :: rest) =
      some (value :: values, rest) := by
  induction values generalizing value fuel with
  | nil =>
      obtain ⟨fuel, rfl⟩ : ∃ n, fuel = n + 1 := ⟨fuel - 1, by omega⟩
      have htext : separated (printElements [value]) = print value := by
        simp [printElements, separated]
      rw [htext] at hfuel ⊢
      have hvalue := h value List.mem_cons_self (0x5D :: rest) fuel (ends_cons (by decide) rest)
        (by omega)
      simp [parseElements, hvalue]
  | cons next values ih =>
      obtain ⟨fuel, rfl⟩ : ∃ n, fuel = n + 1 := ⟨fuel - 1, by omega⟩
      obtain ⟨hfirst, hmore⟩ := List.forall_mem_cons.mp h
      have htext : separated (printElements (value :: next :: values)) =
          print value ++ 0x2C :: separated (printElements (next :: values)) :=
        separated_cons_cons _ _ _
      rw [htext] at hfuel ⊢
      rw [List.length_append, List.length_cons] at hfuel
      have hvalue := hfirst (0x2C :: (separated (printElements (next :: values)) ++ 0x5D :: rest))
        fuel (ends_cons (by decide) _) (by omega)
      have hvalues := ih hmore fuel (by omega)
      rw [List.append_assoc, List.cons_append]
      simp [parseElements, hvalue, hvalues]

theorem parseFields_print {field : String × Value} {fields : List (String × Value)}
    (h : ∀ entry ∈ field :: fields, Reads entry.2) (rest : List UInt8) (fuel : Nat)
    (hfuel : (separated (fieldTexts (field :: fields))).length < fuel) :
    parseFields fuel (separated (fieldTexts (field :: fields)) ++ 0x7D :: rest) =
      some (field :: fields, rest) := by
  induction fields generalizing field fuel with
  | nil =>
      obtain ⟨fuel, rfl⟩ : ∃ n, fuel = n + 1 := ⟨fuel - 1, by omega⟩
      obtain ⟨name, value⟩ := field
      have htext : separated (fieldTexts [(name, value)]) =
          string name ++ 0x3A :: print value := by
        simp [fieldTexts, printFields, separated]
      rw [htext] at hfuel ⊢
      rw [List.length_append, List.length_cons] at hfuel
      have hlength : (print value).length ≤ fuel := by omega
      have hvalue : parseValue fuel (print value ++ 0x7D :: rest) = some (value, 0x7D :: rest) :=
        h (name, value) List.mem_cons_self _ fuel (ends_cons (by decide) rest) hlength
      rw [List.append_assoc, List.cons_append, parseFields, if_pos (head?_string name _),
        parseChars_string]
      simp [hvalue]
  | cons next fields ih =>
      obtain ⟨fuel, rfl⟩ : ∃ n, fuel = n + 1 := ⟨fuel - 1, by omega⟩
      obtain ⟨name, value⟩ := field
      obtain ⟨hfirst, hmore⟩ := List.forall_mem_cons.mp h
      have htext : separated (fieldTexts ((name, value) :: next :: fields)) =
          string name ++ 0x3A :: print value ++ 0x2C :: separated (fieldTexts (next :: fields)) :=
        separated_cons_cons _ _ _
      rw [htext] at hfuel ⊢
      rw [List.length_append, List.length_append, List.length_cons, List.length_cons] at hfuel
      have hlength : (print value).length ≤ fuel := by omega
      have hvalue : parseValue fuel
          (print value ++ 0x2C :: (separated (fieldTexts (next :: fields)) ++ 0x7D :: rest)) =
            some (value, 0x2C :: (separated (fieldTexts (next :: fields)) ++ 0x7D :: rest)) :=
        hfirst _ fuel (ends_cons (by decide) _) hlength
      have hfields := ih hmore fuel (by omega)
      simp only [List.append_assoc, List.cons_append]
      rw [parseFields, if_pos (head?_string name _), parseChars_string]
      simp [hvalue, hfields]

theorem reads_array {elements : List Value} (h : ∀ element ∈ elements, Reads element) :
    Reads (.array elements) := by
  intro rest fuel _ hfuel
  have hpos := length_print_pos (.array elements)
  obtain ⟨fuel, rfl⟩ : ∃ n, fuel = n + 1 := ⟨fuel - 1, by omega⟩
  cases elements with
  | nil => rfl
  | cons value values =>
      have hparse := parseElements_print h rest fuel (by
        rw [print_array, List.length_cons, List.length_append, List.length_singleton] at hfuel
        omega)
      have hbytes : print (.array (value :: values)) ++ rest =
          0x5B :: (separated (printElements (value :: values)) ++ 0x5D :: rest) := by
        simp [print_array]
      have hhead : (separated (printElements (value :: values)) ++ 0x5D :: rest).head? ≠
          some 0x5D := by
        obtain ⟨more, hmore⟩ := separated_cons (print value) (printElements values)
        obtain ⟨b, hb, hne⟩ := head?_print value (more ++ 0x5D :: rest)
        rw [printElements, hmore, List.append_assoc, hb]
        simpa using hne
      rw [hbytes, parseValue, List.head?_cons, List.tail_cons, if_neg (by decide), if_pos rfl,
        if_neg hhead, hparse]
      rfl

theorem reads_object {fields : List (String × Value)} (h : ∀ entry ∈ fields, Reads entry.2) :
    Reads (.object fields) := by
  intro rest fuel _ hfuel
  have hpos := length_print_pos (.object fields)
  obtain ⟨fuel, rfl⟩ : ∃ n, fuel = n + 1 := ⟨fuel - 1, by omega⟩
  cases fields with
  | nil => rfl
  | cons field fields =>
      have hparse := parseFields_print h rest fuel (by
        rw [print_object, List.length_cons, List.length_append, List.length_singleton] at hfuel
        omega)
      have hbytes : print (.object (field :: fields)) ++ rest =
          0x7B :: (separated (fieldTexts (field :: fields)) ++ 0x7D :: rest) := by
        simp [print_object]
      have hhead : (separated (fieldTexts (field :: fields)) ++ 0x7D :: rest).head? ≠
          some 0x7D := by
        obtain ⟨more, hmore⟩ := separated_cons (string field.1 ++ 0x3A :: print field.2)
          (fieldTexts fields)
        rw [fieldTexts_cons, hmore, List.append_assoc, List.append_assoc, head?_string]
        decide
      rw [hbytes, parseValue, List.head?_cons, List.tail_cons, if_neg (by decide),
        if_neg (by decide), if_pos rfl, if_neg hhead, hparse]
      rfl

theorem reads_leaf {value : Value}
    (h : ∀ rest fuel, Ends rest →
      parseValue (fuel + 1) (print value ++ rest) = some (value, rest)) :
    Reads value := by
  intro rest fuel hrest hfuel
  have hpos := length_print_pos value
  obtain ⟨fuel, rfl⟩ : ∃ n, fuel = n + 1 := ⟨fuel - 1, by omega⟩
  exact h rest fuel hrest

/-- What holds of an array or an object if it holds of its parts, and of all other values,
holds of every value. -/
@[elab_as_elim, induction_eliminator]
theorem Value.induction {motive : Value → Prop} (null : motive .null)
    (bool : ∀ b, motive (.bool b)) (number : ∀ n, motive (.number n))
    (string : ∀ text, motive (.string text))
    (array : ∀ elements, (∀ element ∈ elements, motive element) → motive (.array elements))
    (object : ∀ fields : List (String × Value), (∀ field ∈ fields, motive field.2) →
      motive (.object fields)) (value : Value) : motive value := by
  cases value with
  | null => exact null
  | bool b => exact bool b
  | number n => exact number n
  | string text => exact string text
  | array elements =>
      exact array elements fun element _ =>
        Value.induction null bool number string array object element
  | object fields =>
      exact object fields fun field _ =>
        Value.induction null bool number string array object field.2
termination_by sizeOf value
decreasing_by
  · have hless := List.sizeOf_lt_of_mem ‹element ∈ elements›
    simp only [Value.array.sizeOf_spec]
    omega
  · have hless := List.sizeOf_lt_of_mem ‹field ∈ fields›
    have hfield : sizeOf field = 1 + sizeOf field.1 + sizeOf field.2 := rfl
    simp only [Value.object.sizeOf_spec]
    omega

theorem reads (value : Value) : Reads value := by
  induction value with
  | null => exact reads_leaf fun _ _ _ => rfl
  | bool b => cases b <;> exact reads_leaf fun _ _ _ => rfl
  | number n => exact reads_leaf fun _ fuel hrest => parseValue_number n hrest fuel
  | string text => exact reads_leaf fun rest fuel _ => parseValue_string text rest fuel
  | array elements ih => exact reads_array ih
  | object fields ih => exact reads_object ih

/-- Printing a value and parsing the text gives the value back. -/
theorem parse_print (value : Value) : parse (print value) = some value := by
  have hvalue := reads value [] (print value).length (fun b hb => by simp at hb) (Nat.le_refl _)
  rw [List.append_nil] at hvalue
  rw [parse, hvalue]

/-- Different values have different texts. -/
theorem print_injective : Function.Injective print := by
  intro value value' h
  have hparse := parse_print value
  rw [h, parse_print] at hparse
  exact (Option.some.inj hparse).symm

end Json

end Library
