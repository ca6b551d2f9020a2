import Mathlib.Data.List.Basic
import Yuha.Library.JsonValue

/-!
# Texts in UTF-8

A byte below `0x80` stands for itself and is no part of any other character, so a text can
be cut at such a byte. The compact text of a JSON value is UTF-8 without control characters,
whatever the strings in it contain.
-/

namespace Library

def utf8 (text : List Char) : List UInt8 := text.flatMap String.utf8EncodeChar

/-- The text of these bytes, if they are UTF-8. -/
def decodeUtf8 (bytes : List UInt8) : Option (List Char) :=
  bytes.toByteArray.utf8Decode?.map Array.toList

theorem decodeUtf8_utf8 (text : List Char) : decodeUtf8 (utf8 text) = some text := by
  have h : (utf8 text).toByteArray.utf8Decode? = some text.toArray := List.utf8Decode?_utf8Encode
  rw [decodeUtf8, h, Option.map_some]

@[simp] theorem utf8_append (text text' : List Char) :
    utf8 (text ++ text') = utf8 text ++ utf8 text' := by
  simp [utf8]

/-- A byte below `0x80` is the character of its number. -/
theorem toNat_eq_of_mem_utf8EncodeChar {c : Char} {b : UInt8} (h : b ∈ String.utf8EncodeChar c)
    (hb : b < 0x80) : c.toNat = b.toNat := by
  have hlarge : ∀ n : Nat, 0x80 ≤ n → n < 0x100 → ¬ UInt8.ofNat n < 0x80 := by
    intro n hlow hhigh
    rw [UInt8.lt_iff_toNat_lt, UInt8.toNat_ofNat', Nat.mod_eq_of_lt hhigh]
    exact Nat.not_lt.mpr hlow
  change c.val.toNat = b.toNat
  unfold String.utf8EncodeChar at h
  generalize c.val.toNat = n at *
  dsimp only at h
  by_cases hone : n ≤ 0x7F
  · rw [if_pos hone] at h
    rw [List.mem_singleton.mp h, UInt8.toNat_ofNat']
    omega
  -- All bytes of a longer character are above.
  exfalso
  rw [if_neg hone] at h
  by_cases htwo : n ≤ 0x7FF
  · rw [if_pos htwo] at h
    simp only [List.mem_cons, List.not_mem_nil, or_false] at h
    rcases h with rfl | rfl <;> exact hlarge _ (by omega) (by omega) hb
  rw [if_neg htwo] at h
  by_cases hthree : n ≤ 0xFFFF
  · rw [if_pos hthree] at h
    simp only [List.mem_cons, List.not_mem_nil, or_false] at h
    rcases h with rfl | rfl | rfl <;> exact hlarge _ (by omega) (by omega) hb
  · rw [if_neg hthree] at h
    simp only [List.mem_cons, List.not_mem_nil, or_false] at h
    rcases h with rfl | rfl | rfl | rfl <;> exact hlarge _ (by omega) (by omega) hb

theorem exists_head?_utf8 (c : Char) (text : List Char) :
    ∃ b ∈ String.utf8EncodeChar c, (utf8 (c :: text)).head? = some b := by
  obtain ⟨b, bytes, h⟩ := List.exists_cons_of_ne_nil (String.utf8EncodeChar_ne_nil (c := c))
  exact ⟨b, by rw [h]; exact List.mem_cons_self, by rw [utf8, List.flatMap_cons, h]; rfl⟩

theorem exists_getLast?_utf8 (text : List Char) (c : Char) :
    ∃ b ∈ String.utf8EncodeChar c, (utf8 (text ++ [c])).getLast? = some b := by
  have hne := String.utf8EncodeChar_ne_nil (c := c)
  refine ⟨(String.utf8EncodeChar c).getLast hne, List.getLast_mem hne, ?_⟩
  have hlast : utf8 [c] = String.utf8EncodeChar c := List.flatMap_singleton _ c
  rw [utf8_append, hlast, List.getLast?_append_of_ne_nil _ hne, List.getLast?_eq_some_getLast hne]

/-! ## Bytes that are UTF-8 -/

def IsUtf8 (bytes : List UInt8) : Prop := ∃ text, bytes = utf8 text

theorem isUtf8_nil : IsUtf8 [] := ⟨[], rfl⟩

theorem IsUtf8.append {bytes bytes' : List UInt8} (h : IsUtf8 bytes) (h' : IsUtf8 bytes') :
    IsUtf8 (bytes ++ bytes') := by
  obtain ⟨text, rfl⟩ := h
  obtain ⟨text', rfl⟩ := h'
  exact ⟨text ++ text', (utf8_append text text').symm⟩

theorem isUtf8_singleton {b : UInt8} (h : b < 0x80) : IsUtf8 [b] := by
  have hall : ∀ i : Fin 0x80, String.utf8EncodeChar (Char.ofNat i) = [UInt8.ofNat i] := by decide
  refine ⟨[Char.ofNat b.toNat], ?_⟩
  have hb := hall ⟨b.toNat, UInt8.lt_iff_toNat_lt.mp h⟩
  simp only [UInt8.ofNat_toNat] at hb
  simp [utf8, hb]

theorem isUtf8_of_forall {bytes : List UInt8} (h : ∀ b ∈ bytes, b < 0x80) : IsUtf8 bytes := by
  induction bytes with
  | nil => exact isUtf8_nil
  | cons b bytes ih =>
      obtain ⟨hb, hbytes⟩ := List.forall_mem_cons.mp h
      exact (isUtf8_singleton hb).append (ih hbytes)

/-! ## The text of a JSON value -/

namespace Json

def isPrintable (b : UInt8) : Bool := 0x20 ≤ b && b < 0x80

theorem isPrintable_iff {b : UInt8} : isPrintable b = true ↔ 0x20 ≤ b ∧ b < 0x80 := by
  simp [isPrintable]

/-- What holds of printable ASCII and of escaped characters, and of texts whose parts it holds
of, holds of the text of every value. -/
structure Printed (P : List UInt8 → Prop) : Prop where
  nil : P []
  append : ∀ bytes bytes', P bytes → P bytes' → P (bytes ++ bytes')
  ascii : ∀ b, isPrintable b = true → P [b]
  escape : ∀ c, P (escape c)

variable {P : List UInt8 → Prop}

theorem Printed.cons (h : Printed P) {b : UInt8} (hb : isPrintable b = true)
    {bytes : List UInt8} (hbytes : P bytes) : P (b :: bytes) :=
  h.append [b] bytes (h.ascii b hb) hbytes

theorem Printed.of_all (h : Printed P) {bytes : List UInt8}
    (hbytes : bytes.all isPrintable = true) : P bytes := by
  induction bytes with
  | nil => exact h.nil
  | cons b bytes ih =>
      obtain ⟨hb, hmore⟩ := Bool.and_eq_true_iff.mp hbytes
      exact h.cons hb (ih hmore)

theorem Printed.enclosed (h : Printed P) {b b' : UInt8} (hb : isPrintable b = true)
    (hb' : isPrintable b' = true) {bytes : List UInt8} (hbytes : P bytes) :
    P (b :: (bytes ++ [b'])) :=
  h.cons hb (h.append _ _ hbytes (h.ascii b' hb'))

theorem Printed.string (h : Printed P) (text : String) : P (string text) := by
  apply h.enclosed (by decide) (by decide)
  induction text.toList with
  | nil => exact h.nil
  | cons c chars ih => exact h.append _ _ (h.escape c) ih

theorem visible_of_mem_number {n : Nat} {b : UInt8} (h : b ∈ number n) :
    0x20 < b ∧ b < 0x80 := by
  have hdigit := isDigit_of_mem_number h
  simp only [isDigit, Bool.and_eq_true, decide_eq_true_eq, UInt8.le_iff_toNat_le] at hdigit
  rw [UInt8.lt_iff_toNat_lt, UInt8.lt_iff_toNat_lt]
  exact ⟨lt_of_lt_of_le (by decide) hdigit.1, lt_of_le_of_lt hdigit.2 (by decide)⟩

theorem Printed.number (h : Printed P) (n : Nat) : P (number n) := by
  refine h.of_all (List.all_eq_true.mpr fun b hb => isPrintable_iff.mpr ?_)
  have hvisible := visible_of_mem_number hb
  exact ⟨UInt8.le_of_lt hvisible.1, hvisible.2⟩

theorem Printed.separated (h : Printed P) {parts : List (List UInt8)}
    (hparts : ∀ part ∈ parts, P part) : P (separated parts) := by
  induction parts with
  | nil => exact h.nil
  | cons part parts ih =>
      obtain ⟨hpart, hmore⟩ := List.forall_mem_cons.mp hparts
      cases parts with
      | nil => simpa [Json.separated] using hpart
      | cons next parts =>
          rw [separated_cons_cons]
          exact h.append _ _ hpart (h.cons (by decide) (ih hmore))

theorem fieldTexts_eq_map (fields : List (String × Value)) :
    fieldTexts fields = fields.map fun field => string field.1 ++ 0x3A :: print field.2 := by
  induction fields with
  | nil => rfl
  | cons field fields ih => rw [fieldTexts_cons, ih, List.map_cons]

theorem Printed.print (h : Printed P) (value : Value) : P (print value) := by
  induction value with
  | null => exact h.of_all (by decide)
  | bool b => cases b <;> exact h.of_all (by decide)
  | number n => exact h.number n
  | string text => exact h.string text
  | array elements ih =>
      rw [print_array, printElements_eq_map]
      apply h.enclosed (by decide) (by decide)
      apply h.separated
      simp only [List.forall_mem_map]
      exact ih
  | object fields ih =>
      rw [print_object, fieldTexts_eq_map]
      apply h.enclosed (by decide) (by decide)
      apply h.separated
      simp only [List.forall_mem_map]
      intro field hmem
      exact h.append _ _ (h.string field.1) (h.cons (by decide) (ih field hmem))

/-- A character is escaped by printable ASCII, or it stands for itself. -/
theorem escape_cases (c : Char) :
    (escape c).all isPrintable = true ∨
      escape c = String.utf8EncodeChar c ∧ 0x20 ≤ c.toNat := by
  have hhex : ∀ i : Fin 16, isPrintable (hexDigit i) = true := by decide
  unfold escape
  split
  case h_8 =>
    by_cases hcontrol : c.toNat < 0x20
    · rw [if_pos hcontrol]
      have hhigh := hhex ⟨c.toNat / 16, by omega⟩
      have hlow := hhex ⟨c.toNat % 16, by omega⟩
      simp only [List.all_cons, List.all_nil, hhigh, hlow]
      exact Or.inl (by decide)
    · rw [if_neg hcontrol]
      exact Or.inr ⟨rfl, Nat.not_lt.mp hcontrol⟩
  all_goals exact Or.inl (by decide)

/-- The text of a value is UTF-8. -/
theorem isUtf8_print (value : Value) : IsUtf8 (print value) := by
  refine Printed.print ⟨isUtf8_nil, fun _ _ => IsUtf8.append, ?_, ?_⟩ value
  · exact fun b hb => isUtf8_singleton (isPrintable_iff.mp hb).2
  · intro c
    rcases escape_cases c with hascii | ⟨hself, _⟩
    · exact isUtf8_of_forall fun b hb => (isPrintable_iff.mp (List.all_eq_true.mp hascii b hb)).2
    · exact ⟨[c], by simp [utf8, hself]⟩

/-- The text of a value has no control characters, whatever the strings in it contain. -/
theorem le_of_mem_print {value : Value} {b : UInt8} (h : b ∈ print value) : 0x20 ≤ b := by
  refine Printed.print (P := fun bytes => ∀ b ∈ bytes, 0x20 ≤ b) ⟨by simp, ?_, ?_, ?_⟩ value b h
  · intro bytes bytes' hbytes hbytes' b hb
    exact (List.mem_append.mp hb).elim (hbytes b) (hbytes' b)
  · intro b hprintable b' hb'
    exact List.mem_singleton.mp hb' ▸ (isPrintable_iff.mp hprintable).1
  · intro c b hb
    rcases escape_cases c with hascii | ⟨hself, hlow⟩
    · exact (isPrintable_iff.mp (List.all_eq_true.mp hascii b hb)).1
    · by_contra hcontrol
      have hsmall : b < 0x20 := UInt8.not_le.mp hcontrol
      rw [hself] at hb
      have heq := toNat_eq_of_mem_utf8EncodeChar hb (UInt8.lt_trans hsmall (by decide))
      rw [UInt8.lt_iff_toNat_lt, ← heq] at hsmall
      exact absurd hlow (Nat.not_le.mpr hsmall)

/-- Between two visible bytes, a text starts and ends with these. -/
theorem visible_enclosed {a b : UInt8} (ha : 0x20 < a ∧ a < 0x80) (hb : 0x20 < b ∧ b < 0x80)
    (bytes : List UInt8) :
    (∀ c ∈ (a :: (bytes ++ [b])).head?, 0x20 < c ∧ c < 0x80) ∧
      ∀ c ∈ (a :: (bytes ++ [b])).getLast?, 0x20 < c ∧ c < 0x80 := by
  rw [← List.cons_append, List.getLast?_concat]
  exact ⟨fun c hc => Option.some.inj hc ▸ ha, fun c hc => Option.some.inj hc ▸ hb⟩

/-- No text of a value starts or ends with a space. -/
theorem visible_ends (value : Value) :
    (∀ b ∈ (print value).head?, 0x20 < b ∧ b < 0x80) ∧
      ∀ b ∈ (print value).getLast?, 0x20 < b ∧ b < 0x80 := by
  cases value with
  | null => exact visible_enclosed (by decide) (by decide) [0x75, 0x6C]
  | bool b =>
      cases b with
      | true => exact visible_enclosed (by decide) (by decide) [0x72, 0x75]
      | false => exact visible_enclosed (by decide) (by decide) [0x61, 0x6C, 0x73]
  | number n =>
      exact ⟨fun b hb => visible_of_mem_number (List.mem_of_mem_head? hb),
        fun b hb => visible_of_mem_number (List.mem_of_mem_getLast? hb)⟩
  | string text => exact visible_enclosed (by decide) (by decide) _
  | array elements => exact visible_enclosed (by decide) (by decide) _
  | object fields => exact visible_enclosed (by decide) (by decide) _

end Json

end Library
