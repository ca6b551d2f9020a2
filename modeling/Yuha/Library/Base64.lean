import Mathlib.Data.List.Basic

/-!
# Base64

The standard alphabet with padding. Three bytes become four characters, so a text that is
cut after a multiple of four characters decodes piece by piece.
-/

namespace Library

namespace Base64

/-- The character for six bits. -/
def digit (n : Nat) : UInt8 :=
  if n < 26 then UInt8.ofNat (65 + n)
  else if n < 52 then UInt8.ofNat (71 + n)
  else if n < 62 then UInt8.ofNat (n - 4)
  else if n = 62 then 43
  else 47

/-- The six bits a character stands for. -/
def value (c : UInt8) : Option Nat :=
  let n := c.toNat
  if 65 ≤ n ∧ n ≤ 90 then some (n - 65)
  else if 97 ≤ n ∧ n ≤ 122 then some (n - 71)
  else if 48 ≤ n ∧ n ≤ 57 then some (n + 4)
  else if n = 43 then some 62
  else if n = 47 then some 63
  else none

/-- The padding character. -/
abbrev pad : UInt8 := 61

def encode : List UInt8 → List UInt8
  | [] => []
  | [a] => [digit (a.toNat / 4), digit (a.toNat % 4 * 16), pad, pad]
  | [a, b] =>
      [digit (a.toNat / 4), digit (a.toNat % 4 * 16 + b.toNat / 16), digit (b.toNat % 16 * 4), pad]
  | a :: b :: c :: rest =>
      digit (a.toNat / 4) :: digit (a.toNat % 4 * 16 + b.toNat / 16) ::
        digit (b.toNat % 16 * 4 + c.toNat / 64) :: digit (c.toNat % 64) :: encode rest

/-- The bytes of one group of four characters. -/
def decodeGroup (w x y z : UInt8) : Option (List UInt8) := do
  let w ← value w
  let x ← value x
  let first := UInt8.ofNat (w * 4 + x / 16)
  if y = pad then
    if z = pad then return [first] else none
  else
    let y ← value y
    let second := UInt8.ofNat (x % 16 * 16 + y / 4)
    if z = pad then return [first, second]
    else
      let z ← value z
      return [first, second, UInt8.ofNat (y % 4 * 64 + z)]

/-- Decode group by group. A line feed at the end is ignored. -/
def decode : List UInt8 → Option (List UInt8)
  | [] => some []
  | [c] => if c = 10 then some [] else none
  | w :: x :: y :: z :: rest => do
      let group ← decodeGroup w x y z
      let bytes ← decode rest
      return group ++ bytes
  | _ => none

theorem value_digit {n : Nat} (h : n < 64) : value (digit n) = some n := by
  have hall : ∀ i : Fin 64, value (digit i.val) = some i.val := by decide
  exact hall ⟨n, h⟩

theorem digit_ne_pad {n : Nat} (h : n < 64) : digit n ≠ pad := by
  have hall : ∀ i : Fin 64, digit i.val ≠ pad := by decide
  exact hall ⟨n, h⟩

/-! ## Decoding what was encoded -/

theorem decodeGroup_three (a b c : UInt8) :
    decodeGroup (digit (a.toNat / 4)) (digit (a.toNat % 4 * 16 + b.toNat / 16))
      (digit (b.toNat % 16 * 4 + c.toNat / 64)) (digit (c.toNat % 64)) = some [a, b, c] := by
  have ha := a.toNat_lt
  have hb := b.toNat_lt
  have hc := c.toNat_lt
  have hw : a.toNat / 4 < 64 := by omega
  have hx : a.toNat % 4 * 16 + b.toNat / 16 < 64 := by omega
  have hy : b.toNat % 16 * 4 + c.toNat / 64 < 64 := by omega
  have hz : c.toNat % 64 < 64 := by omega
  have hfirst : a.toNat / 4 * 4 + (a.toNat % 4 * 16 + b.toNat / 16) / 16 = a.toNat := by omega
  have hsecond : (a.toNat % 4 * 16 + b.toNat / 16) % 16 * 16 +
      (b.toNat % 16 * 4 + c.toNat / 64) / 4 = b.toNat := by omega
  have hthird : (b.toNat % 16 * 4 + c.toNat / 64) % 4 * 64 + c.toNat % 64 = c.toNat := by omega
  simp only [decodeGroup, value_digit hw, value_digit hx, value_digit hy, value_digit hz,
    digit_ne_pad hy, digit_ne_pad hz, Option.bind_eq_bind, Option.bind_some, if_false, hfirst,
    hsecond, hthird, UInt8.ofNat_toNat, Option.pure_def]

theorem decodeGroup_two (a b : UInt8) :
    decodeGroup (digit (a.toNat / 4)) (digit (a.toNat % 4 * 16 + b.toNat / 16))
      (digit (b.toNat % 16 * 4)) pad = some [a, b] := by
  have ha := a.toNat_lt
  have hb := b.toNat_lt
  have hw : a.toNat / 4 < 64 := by omega
  have hx : a.toNat % 4 * 16 + b.toNat / 16 < 64 := by omega
  have hy : b.toNat % 16 * 4 < 64 := by omega
  have hfirst : a.toNat / 4 * 4 + (a.toNat % 4 * 16 + b.toNat / 16) / 16 = a.toNat := by omega
  have hsecond : (a.toNat % 4 * 16 + b.toNat / 16) % 16 * 16 + b.toNat % 16 * 4 / 4 =
      b.toNat := by omega
  simp only [decodeGroup, value_digit hw, value_digit hx, value_digit hy, digit_ne_pad hy,
    Option.bind_eq_bind, Option.bind_some, if_false, if_true, hfirst, hsecond,
    UInt8.ofNat_toNat, Option.pure_def]

theorem decodeGroup_one (a : UInt8) :
    decodeGroup (digit (a.toNat / 4)) (digit (a.toNat % 4 * 16)) pad pad = some [a] := by
  have ha := a.toNat_lt
  have hw : a.toNat / 4 < 64 := by omega
  have hx : a.toNat % 4 * 16 < 64 := by omega
  have hfirst : a.toNat / 4 * 4 + a.toNat % 4 * 16 / 16 = a.toNat := by omega
  simp only [decodeGroup, value_digit hw, value_digit hx, Option.bind_eq_bind,
    Option.bind_some, if_true, hfirst, UInt8.ofNat_toNat, Option.pure_def]

/-- A text decodes to the bytes it encodes, also with a line feed after it. -/
theorem decode_encode_append {ending : List UInt8} (h : decode ending = some [])
    (bytes : List UInt8) : decode (encode bytes ++ ending) = some bytes := by
  induction bytes using encode.induct with
  | case1 => exact h
  | case2 a => simp [encode, decode, decodeGroup_one, h]
  | case3 a b => simp [encode, decode, decodeGroup_two, h]
  | case4 a b c rest ih => simp [encode, decode, decodeGroup_three, ih]

theorem decode_encode (bytes : List UInt8) : decode (encode bytes) = some bytes := by
  have h := decode_encode_append (rfl : decode [] = some []) bytes
  rwa [List.append_nil] at h

/-! ## The length of a text -/

theorem length_encode (bytes : List UInt8) :
    (encode bytes).length = 4 * ((bytes.length + 2) / 3) := by
  induction bytes using encode.induct with
  | case1 => rfl
  | case2 a | case3 a b => simp [encode]
  | case4 a b c rest ih =>
      simp only [encode, List.length_cons, ih]
      omega

/-- How many bytes have a text of at most a given length. -/
theorem length_encode_le_iff {n : Nat} (bytes : List UInt8) :
    (encode bytes).length ≤ n ↔ bytes.length ≤ 3 * (n / 4) := by
  rw [length_encode]
  omega

/-! ## Cutting a text -/

theorem take_encode (n : Nat) (bytes : List UInt8) :
    (encode bytes).take (4 * n) = encode (bytes.take (3 * n)) := by
  induction n generalizing bytes with
  | zero => simp [encode]
  | succ n ih =>
      rw [Nat.mul_succ, Nat.mul_succ]
      match bytes with
      | [] => simp [encode]
      | [a] => simp [encode]
      | [a, b] => simp [encode]
      | a :: b :: c :: rest => simp [encode, ih]

theorem drop_encode (n : Nat) (bytes : List UInt8) :
    (encode bytes).drop (4 * n) = encode (bytes.drop (3 * n)) := by
  induction n generalizing bytes with
  | zero => simp
  | succ n ih =>
      rw [Nat.mul_succ, Nat.mul_succ]
      match bytes with
      | [] => simp [encode]
      | [a] => simp [encode]
      | [a, b] => simp [encode]
      | a :: b :: c :: rest => simp [encode, ih]

theorem encode_ne_nil {bytes : List UInt8} (h : bytes ≠ []) : encode bytes ≠ [] := by
  match bytes with
  | [] => exact absurd rfl h
  | [a] => simp [encode]
  | [a, b] => simp [encode]
  | a :: b :: c :: rest => simp [encode]

/-- Pieces of one size, of which the last can be shorter. -/
def chunks {α : Type*} (size : Nat) : List α → List (List α)
  | [] => []
  | x :: rest => (x :: rest.take (size - 1)) :: chunks size (rest.drop (size - 1))
termination_by l => l.length
decreasing_by
  simp only [List.length_drop, List.length_cons]
  omega

section Chunks

variable {α : Type*} {size : Nat} {l : List α}

theorem chunks_of_ne_nil (hsize : 0 < size) (h : l ≠ []) :
    chunks size l = l.take size :: chunks size (l.drop size) := by
  obtain ⟨m, rfl⟩ : ∃ m, size = m + 1 := ⟨size - 1, by omega⟩
  cases l with
  | nil => exact absurd rfl h
  | cons x rest => simp [chunks]

theorem chunks_replicate (hsize : 0 < size) (a : α) (k : Nat) :
    chunks size (List.replicate (size * k) a) = List.replicate k (List.replicate size a) := by
  induction k with
  | zero => simp [chunks]
  | succ k ih =>
      have hne : List.replicate (size * (k + 1)) a ≠ [] := by
        rw [← List.length_pos_iff, List.length_replicate]
        exact Nat.mul_pos hsize (Nat.succ_pos k)
      rw [chunks_of_ne_nil hsize hne, List.take_replicate, List.drop_replicate, List.replicate_succ,
        Nat.mul_succ, Nat.add_sub_cancel, Nat.min_eq_left (Nat.le_add_left _ _), ih]

theorem flatten_chunks (size : Nat) (l : List α) : (chunks size l).flatten = l := by
  induction l using chunks.induct size with
  | case1 => simp [chunks]
  | case2 x rest ih => rw [chunks, List.flatten_cons, ih, List.cons_append, List.take_append_drop]

/-- What a piece was cut from. -/
theorem exists_of_mem_chunks {piece : List α} (h : piece ∈ chunks size l) :
    ∃ x rest, piece = x :: List.take (size - 1) rest := by
  induction l using chunks.induct size with
  | case1 => simp [chunks] at h
  | case2 x rest ih =>
      rw [chunks, List.mem_cons] at h
      cases h with
      | inl hfirst => exact ⟨x, rest, hfirst⟩
      | inr hmore => exact ih hmore

theorem ne_nil_of_mem_chunks {piece : List α} (h : piece ∈ chunks size l) : piece ≠ [] := by
  obtain ⟨x, rest, rfl⟩ := exists_of_mem_chunks h
  exact List.cons_ne_nil x _

theorem length_le_of_mem_chunks (hsize : 0 < size) {piece : List α}
    (h : piece ∈ chunks size l) : piece.length ≤ size := by
  obtain ⟨x, rest, rfl⟩ := exists_of_mem_chunks h
  calc (x :: rest.take (size - 1)).length
      ≤ size - 1 + 1 := Nat.succ_le_succ (List.length_take_le _ _)
    _ = size := Nat.sub_add_cancel hsize

/-- Every piece but the last is full. -/
theorem length_of_mem_front (hsize : 0 < size) {front : List (List α)} {last piece : List α}
    (h : chunks size l = front ++ [last]) (hpiece : piece ∈ front) : piece.length = size := by
  induction l using chunks.induct size generalizing front with
  | case1 => simp [chunks] at h
  | case2 x rest ih =>
      cases front with
      | nil => cases hpiece
      | cons first front =>
          rw [chunks, List.cons_append, List.cons.injEq] at h
          obtain ⟨hfirst, hrest⟩ := h
          rcases List.mem_cons.mp hpiece with rfl | hpiece
          · -- A full piece was cut off, since something is left.
            have hleft : rest.drop (size - 1) ≠ [] := by
              intro hnil
              simp [hnil, chunks] at hrest
            have hlength := List.drop_eq_nil_iff.not.mp hleft
            rw [← hfirst, List.length_cons, List.length_take]
            omega
          · exact ih hrest hpiece

end Chunks

/-- Whole groups of three bytes need no padding. -/
theorem pad_notMem_encode {bytes : List UInt8} (h : 3 ∣ bytes.length) : pad ∉ encode bytes := by
  induction bytes using encode.induct with
  | case1 => simp [encode]
  | case2 a => simp at h
  | case3 a b => simp at h
  | case4 a b c rest ih =>
      have hrest : 3 ∣ rest.length := by
        simp only [List.length_cons] at h
        omega
      have ha := a.toNat_lt
      have hb := b.toNat_lt
      have hc := c.toNat_lt
      simp only [encode, List.mem_cons, not_or]
      exact ⟨(digit_ne_pad (by omega)).symm, (digit_ne_pad (by omega)).symm,
        (digit_ne_pad (by omega)).symm, (digit_ne_pad (by omega)).symm, ih hrest⟩

/-- Cut after a multiple of four characters, the pieces of a text are the texts of the
pieces of the bytes. -/
theorem chunks_encode {n : Nat} (hn : 0 < n) (bytes : List UInt8) :
    chunks (4 * n) (encode bytes) = (chunks (3 * n) bytes).map encode := by
  induction hlength : bytes.length using Nat.strongRecOn generalizing bytes with
  | ind length ih =>
      by_cases hbytes : bytes = []
      · simp [hbytes, encode, chunks]
      · have hshorter : (bytes.drop (3 * n)).length < length := by
          have hpos := List.length_pos_iff.mpr hbytes
          rw [List.length_drop]
          omega
        rw [chunks_of_ne_nil (by omega) (encode_ne_nil hbytes),
          chunks_of_ne_nil (by omega) hbytes, take_encode, drop_encode,
          ih _ hshorter _ rfl, List.map_cons]

end Base64

end Library
