import Mathlib.Data.Nat.Digits.Lemmas
import Mathlib.Algebra.BigOperators.Group.List.Basic

/-!
# Compact JSON

What a JSON writer without spaces puts out for numbers, strings, arrays and objects, and
how many bytes that is.
-/

namespace Library

namespace Json

/-- The decimal digits of a number, in ASCII. -/
def number (n : Nat) : List UInt8 :=
  if n = 0 then [0x30] else (Nat.digits 10 n).reverse.map fun digit => UInt8.ofNat (0x30 + digit)

def hexDigit (n : Nat) : UInt8 := UInt8.ofNat (if n < 10 then 0x30 + n else 0x57 + n)

/-- One character inside a string. A quote, a backslash and the control characters are
escaped, every other character stands for itself in UTF-8. -/
def escape (c : Char) : List UInt8 :=
  match c.toNat with
  | 0x22 => [0x5C, 0x22]
  | 0x5C => [0x5C, 0x5C]
  | 0x08 => [0x5C, 0x62]
  | 0x09 => [0x5C, 0x74]
  | 0x0A => [0x5C, 0x6E]
  | 0x0C => [0x5C, 0x66]
  | 0x0D => [0x5C, 0x72]
  | n =>
      if n < 0x20 then [0x5C, 0x75, 0x30, 0x30, hexDigit (n / 16), hexDigit (n % 16)]
      else String.utf8EncodeChar c

def string (text : String) : List UInt8 := 0x22 :: (text.toList.flatMap escape ++ [0x22])

/-- Parts with commas in between. -/
def separated (parts : List (List UInt8)) : List UInt8 := List.intercalate [0x2C] parts

def array (elements : List (List UInt8)) : List UInt8 := 0x5B :: (separated elements ++ [0x5D])

def object (fields : List (String × List UInt8)) : List UInt8 :=
  0x7B :: (separated (fields.map fun field => string field.1 ++ 0x3A :: field.2) ++ [0x7D])

/-! ## Sizes -/

def numberSize (n : Nat) : Nat := Nat.log 10 n + 1

def escapeSize (c : Char) : Nat :=
  match c.toNat with
  | 0x22 | 0x5C | 0x08 | 0x09 | 0x0A | 0x0C | 0x0D => 2
  | n => if n < 0x20 then 6 else c.utf8Size

def stringSize (text : String) : Nat := (text.toList.map escapeSize).sum + 2

/-- Parts of these sizes with commas in between. -/
def separatedSize (sizes : List Nat) : Nat := sizes.sum + (sizes.length - 1)

theorem length_number (n : Nat) : (number n).length = numberSize n := by
  by_cases h : n = 0
  · simp [number, numberSize, h]
  · simp [number, numberSize, h, Nat.length_digits]

theorem length_escape (c : Char) : (escape c).length = escapeSize c := by
  simp only [escape, escapeSize]
  split <;> try rfl
  split
  · rfl
  · exact String.length_utf8EncodeChar c

theorem length_string (text : String) : (string text).length = stringSize text := by
  simp [string, stringSize, List.length_flatMap, length_escape]

theorem stringSize_replicate (n : Nat) (c : Char) :
    stringSize (String.ofList (List.replicate n c)) = n * escapeSize c + 2 := by
  simp [stringSize]

theorem length_separated (parts : List (List UInt8)) :
    (separated parts).length = separatedSize (parts.map List.length) := by
  induction parts with
  | nil => rfl
  | cons part parts ih =>
      cases parts with
      | nil => simp [separated, separatedSize]
      | cons next parts =>
          simp only [separated, separatedSize, List.intercalate_cons_cons, List.length_append,
            List.map_cons, List.sum_cons, List.length_cons, List.length_map,
            List.length_nil] at ih ⊢
          omega

theorem separatedSize_perm {sizes sizes' : List Nat} (h : sizes.Perm sizes') :
    separatedSize sizes = separatedSize sizes' := by
  rw [separatedSize, separatedSize, h.sum_eq, h.length_eq]

theorem length_array (elements : List (List UInt8)) :
    (array elements).length = separatedSize (elements.map List.length) + 2 := by
  simp [array, length_separated]

theorem length_object (fields : List (String × List UInt8)) :
    (object fields).length =
      separatedSize (fields.map fun field => stringSize field.1 + 1 + field.2.length) + 2 := by
  have hfields : (fields.map fun field => string field.1 ++ 0x3A :: field.2).map List.length =
      fields.map fun field => stringSize field.1 + 1 + field.2.length := by
    rw [List.map_map]
    refine List.map_congr_left fun field _ => ?_
    simp only [Function.comp_apply, List.length_append, length_string, List.length_cons]
    omega
  simp [object, length_separated, hfields]

end Json

end Library
