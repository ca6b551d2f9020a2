import Mathlib.Data.List.Flatten

/-!
# Self-delimiting frames on a stream

A framing writes every value as a nonempty block of symbols and reads the first
complete block off a stream. The two reading laws say that a written block is
recognised whatever follows it, and that nothing but a written block is ever
recognised. From them alone every stream has exactly one reading: its complete
blocks in order and a rest that holds no complete block.
-/

namespace Library

/-- A block format for the values that satisfy `Fits`. -/
structure Framing (β α : Type*) where
  Fits : α → Prop
  encode : α → List β
  parse : List β → Option (α × List β)
  parse_encode : ∀ a rest, Fits a → parse (encode a ++ rest) = some (a, rest)
  eq_encode_of_parse : ∀ bs a rest, parse bs = some (a, rest) → Fits a ∧ bs = encode a ++ rest
  encode_ne_nil : ∀ a, encode a ≠ []

namespace Framing

variable {β α : Type*} (F : Framing β α)

/-- The blocks of a list of values, one after the other. -/
def encodeAll (as : List α) : List β := as.flatMap F.encode

@[simp] theorem encodeAll_nil : F.encodeAll [] = [] := rfl

@[simp] theorem encodeAll_cons (a : α) (as : List α) :
    F.encodeAll (a :: as) = F.encode a ++ F.encodeAll as := by
  simp [encodeAll]

@[simp] theorem encodeAll_append (as bs : List α) :
    F.encodeAll (as ++ bs) = F.encodeAll as ++ F.encodeAll bs := by
  simp [encodeAll]

/-- Read at most `n` blocks. -/
def decodeUpTo : Nat → List β → List α × List β
  | 0, bs => ([], bs)
  | n + 1, bs =>
      match F.parse bs with
      | none => ([], bs)
      | some (a, rest) => (a :: (decodeUpTo n rest).1, (decodeUpTo n rest).2)

/-- All complete blocks at the front of a stream, and the rest. A block has at
least one symbol, so the length of the stream bounds their number. -/
def decodeAll (bs : List β) : List α × List β := F.decodeUpTo bs.length bs

/-- The complete blocks at the front of a stream. -/
def frames (bs : List β) : List α := (F.decodeAll bs).1

/-- What follows the complete blocks. -/
def rest (bs : List β) : List β := (F.decodeAll bs).2

/-- `bs` reads as the values `as` followed by a tail without a complete block. -/
structure Reads (bs : List β) (as : List α) (tail : List β) : Prop where
  fits : ∀ a ∈ as, F.Fits a
  eq : bs = F.encodeAll as ++ tail
  parse_tail : F.parse tail = none

theorem parse_append {bs : List β} {a : α} {rest : List β}
    (h : F.parse bs = some (a, rest)) (more : List β) :
    F.parse (bs ++ more) = some (a, rest ++ more) := by
  obtain ⟨hfit, rfl⟩ := F.eq_encode_of_parse _ _ _ h
  rw [List.append_assoc]
  exact F.parse_encode a (rest ++ more) hfit

theorem length_rest_lt {bs : List β} {a : α} {rest : List β}
    (h : F.parse bs = some (a, rest)) : rest.length < bs.length := by
  obtain ⟨_, rfl⟩ := F.eq_encode_of_parse _ _ _ h
  have := List.length_pos_iff.mpr (F.encode_ne_nil a)
  simp only [List.length_append]
  omega

@[simp] theorem parse_nil : F.parse [] = none := by
  cases h : F.parse [] with
  | none => rfl
  | some p =>
      have hlt : p.2.length < ([] : List β).length := F.length_rest_lt h
      simp at hlt

/-- A block that is not yet complete is not taken for another one. -/
theorem parse_eq_none_of_append_eq_encode {x y : List β} {a : α} (hfit : F.Fits a)
    (hxy : x ++ y = F.encode a) (hy : y ≠ []) : F.parse x = none := by
  cases h : F.parse x with
  | none => rfl
  | some p =>
      have hx : F.parse (F.encode a) = some (p.1, p.2 ++ y) := hxy ▸ F.parse_append h y
      have ha : F.parse (F.encode a) = some (a, []) := by
        simpa using F.parse_encode a [] hfit
      rw [ha, Option.some.injEq, Prod.mk.injEq] at hx
      exact absurd (List.append_eq_nil_iff.mp hx.2.symm).2 hy

theorem Reads.nil {tail : List β} (h : F.parse tail = none) : F.Reads tail [] tail :=
  ⟨by simp, by simp, h⟩

theorem Reads.cons {bs tail : List β} {a : α} {as : List α} {rest : List β}
    (h : F.parse bs = some (a, rest)) (hr : F.Reads rest as tail) :
    F.Reads bs (a :: as) tail := by
  obtain ⟨hfit, rfl⟩ := F.eq_encode_of_parse _ _ _ h
  refine ⟨?_, ?_, hr.parse_tail⟩
  · intro b hb
    rcases List.mem_cons.mp hb with rfl | hb
    · exact hfit
    · exact hr.fits b hb
  · rw [encodeAll_cons, List.append_assoc, ← hr.eq]

theorem reads_decodeUpTo (n : Nat) (bs : List β) (h : bs.length ≤ n) :
    F.Reads bs (F.decodeUpTo n bs).1 (F.decodeUpTo n bs).2 := by
  induction n generalizing bs with
  | zero =>
      have hbs : bs = [] := List.length_eq_zero_iff.mp (by omega)
      subst hbs
      exact Reads.nil F F.parse_nil
  | succ n ih =>
      cases hp : F.parse bs with
      | none =>
          simp only [decodeUpTo, hp]
          exact Reads.nil F hp
      | some p =>
          obtain ⟨a, rest⟩ := p
          have hlt := F.length_rest_lt hp
          simp only [decodeUpTo, hp]
          exact Reads.cons F hp (ih rest (by omega))

/-- Every stream reads as its frames and its rest. -/
theorem reads_frames (bs : List β) : F.Reads bs (F.frames bs) (F.rest bs) :=
  F.reads_decodeUpTo bs.length bs (Nat.le_refl _)

/-- A stream has only one reading. -/
theorem Reads.unique {bs tail tail' : List β} {as as' : List α}
    (h : F.Reads bs as tail) (h' : F.Reads bs as' tail') : as = as' ∧ tail = tail' := by
  induction as generalizing bs as' with
  | nil =>
      have hbs : bs = tail := by simpa using h.eq
      subst hbs
      cases as' with
      | nil => exact ⟨rfl, by simpa using h'.eq⟩
      | cons a' as' =>
          have hp := F.parse_encode a' (F.encodeAll as' ++ tail') (h'.fits a' (by simp))
          rw [← List.append_assoc, ← encodeAll_cons, ← h'.eq, h.parse_tail] at hp
          cases hp
  | cons a as ih =>
      have hp := F.parse_encode a (F.encodeAll as ++ tail) (h.fits a (by simp))
      rw [← List.append_assoc, ← encodeAll_cons, ← h.eq] at hp
      cases as' with
      | nil =>
          have hbs : bs = tail' := by simpa using h'.eq
          rw [hbs, h'.parse_tail] at hp
          cases hp
      | cons a' as' =>
          have hp' := F.parse_encode a' (F.encodeAll as' ++ tail') (h'.fits a' (by simp))
          rw [← List.append_assoc, ← encodeAll_cons, ← h'.eq, hp] at hp'
          simp only [Option.some.injEq, Prod.mk.injEq] at hp'
          obtain ⟨rfl, hrest⟩ := hp'
          have hr : F.Reads (F.encodeAll as ++ tail) as tail :=
            ⟨fun b hb => h.fits b (by simp [hb]), rfl, h.parse_tail⟩
          have hr' : F.Reads (F.encodeAll as ++ tail) as' tail' :=
            ⟨fun b hb => h'.fits b (by simp [hb]), hrest, h'.parse_tail⟩
          obtain ⟨rfl, rfl⟩ := ih hr hr'
          exact ⟨rfl, rfl⟩

theorem Reads.frames_eq {bs tail : List β} {as : List α} (h : F.Reads bs as tail) :
    F.frames bs = as :=
  (Reads.unique F (F.reads_frames bs) h).1

theorem frames_of_parse_none {bs : List β} (h : F.parse bs = none) : F.frames bs = [] :=
  Reads.frames_eq F (Reads.nil F h)

theorem frames_of_parse_some {bs : List β} {a : α} {rest : List β}
    (h : F.parse bs = some (a, rest)) : F.frames bs = a :: F.frames rest :=
  Reads.frames_eq F (Reads.cons F h (F.reads_frames rest))

/-- Written values are read back exactly, up to an incomplete tail. -/
theorem frames_encodeAll_append {as : List α} (hfit : ∀ a ∈ as, F.Fits a)
    {tail : List β} (h : F.parse tail = none) : F.frames (F.encodeAll as ++ tail) = as :=
  Reads.frames_eq F ⟨hfit, rfl, h⟩

theorem frames_encodeAll {as : List α} (hfit : ∀ a ∈ as, F.Fits a) :
    F.frames (F.encodeAll as) = as := by
  simpa using F.frames_encodeAll_append hfit F.parse_nil

theorem Reads.append {x y u v : List β} {as bs : List α} (hx : F.Reads x as u)
    (hy : F.Reads (u ++ y) bs v) : F.Reads (x ++ y) (as ++ bs) v := by
  refine ⟨?_, ?_, hy.parse_tail⟩
  · intro a ha
    rcases List.mem_append.mp ha with ha | ha
    · exact hx.fits a ha
    · exact hy.fits a ha
  · calc x ++ y = F.encodeAll as ++ (u ++ y) := by rw [hx.eq, List.append_assoc]
      _ = F.encodeAll as ++ (F.encodeAll bs ++ v) := by rw [hy.eq]
      _ = F.encodeAll (as ++ bs) ++ v := by rw [encodeAll_append, List.append_assoc]

/-- More symbols only add frames: those already complete stay as they are. -/
theorem frames_append (x y : List β) :
    F.frames (x ++ y) = F.frames x ++ F.frames (F.rest x ++ y) :=
  Reads.frames_eq F (Reads.append F (F.reads_frames x) (F.reads_frames (F.rest x ++ y)))

theorem frames_append_left (x y : List β) : F.frames x <+: F.frames (x ++ y) :=
  ⟨_, (F.frames_append x y).symm⟩

theorem frames_mono {x y : List β} (h : x <+: y) : F.frames x <+: F.frames y := by
  obtain ⟨z, rfl⟩ := h
  exact F.frames_append_left x z

end Framing

end Library
