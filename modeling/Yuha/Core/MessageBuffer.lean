import Yuha.Library.Window

/-!
# The generic message buffer

A buffer with a capacity evicts its oldest item before it adds another. What it holds is a
window over the items added since it was last emptied. With capacity zero there is no oldest
item, and the first `add_item` panics.

## Implementation notes

A call that panics has no result. That memory can run out is left out.
-/

namespace Yuha

open Library Library.Window

/-- `Vec::remove`. It panics where there is no such element. -/
def removeAt {T : Type*} (items : List T) (index : Nat) : Option (List T) :=
  if index < items.length then some (items.eraseIdx index) else none

structure MessageBuffer (T : Type*) where
  items : List T := []
  maxCapacity : Option Nat := none
  deriving DecidableEq, Repr

inductive MessageBufferCall (T : Type*)
  | addItem (item : T)
  | takeItems
  | clear
  deriving DecidableEq, Repr

namespace MessageBuffer

variable {T : Type*}

def new : MessageBuffer T := {}

def withCapacity (capacity : Nat) : MessageBuffer T := { maxCapacity := some capacity }

def addItem (buffer : MessageBuffer T) (item : T) : Option (MessageBuffer T) := do
  let items ← match buffer.maxCapacity with
    | some maxCap =>
        -- the oldest item goes if the buffer is at capacity
        if maxCap ≤ buffer.items.length then removeAt buffer.items 0 else some buffer.items
    | none => some buffer.items
  return { buffer with items := items ++ [item] }

def takeItems (buffer : MessageBuffer T) : List T × MessageBuffer T :=
  (buffer.items, { buffer with items := [] })

def clear (buffer : MessageBuffer T) : MessageBuffer T := { buffer with items := [] }

def call (buffer : MessageBuffer T) : MessageBufferCall T → Option (MessageBuffer T)
  | .addItem item => buffer.addItem item
  | .takeItems => some buffer.takeItems.2
  | .clear => some buffer.clear

/-- The buffer after some calls, none of which panics. -/
def callAll (buffer : MessageBuffer T) (calls : List (MessageBufferCall T)) :
    Option (MessageBuffer T) :=
  calls.foldlM call buffer

theorem callAll_concat (buffer : MessageBuffer T) (calls : List (MessageBufferCall T))
    (last : MessageBufferCall T) :
    buffer.callAll (calls ++ [last]) = (buffer.callAll calls).bind fun b => b.call last := by
  simp [callAll, List.foldlM_append]

end MessageBuffer

namespace MessageBufferCall

variable {T : Type*}

def adds : MessageBufferCall T → Bool
  | .addItem _ => true
  | .takeItems | .clear => false

/-- The items added, as of a call. -/
def track (added : List T) : MessageBufferCall T → List T
  | .addItem item => added ++ [item]
  | .takeItems | .clear => []

/-- The items added since the buffer was last emptied, in the order they were added. -/
def addedSince (calls : List (MessageBufferCall T)) : List T := calls.foldl track []

theorem addedSince_concat (calls : List (MessageBufferCall T)) (last : MessageBufferCall T) :
    addedSince (calls ++ [last]) = track (addedSince calls) last :=
  List.foldl_concat ..

end MessageBufferCall

open MessageBufferCall

namespace MessageBuffer

variable {T : Type*}

/-! ## The window -/

/-- What a buffer keeps of the items added to it. -/
def kept (maxCapacity : Option Nat) (added : List T) : List T :=
  maxCapacity.elim added added.rtake

/-- Evicting before an item is added is sliding, as long as there is something to evict. -/
theorem addItem_of_pos {capacity : Nat} (hcapacity : 0 < capacity) (items : List T) (item : T) :
    addItem ⟨items, some capacity⟩ item = some ⟨slide capacity items item, some capacity⟩ := by
  by_cases hfull : capacity ≤ items.length
  · cases items with
    | nil => exact absurd hfull (Nat.not_le.mpr hcapacity)
    | cons oldest items =>
        have hfull : capacity ≤ items.length + 1 := hfull
        have hslide : capacity < items.length + 1 + 1 := Nat.lt_succ_of_le hfull
        simp [addItem, slide, removeAt, hfull, hslide]
  · have hslide : ¬ capacity < items.length + 1 := by omega
    simp only [addItem, hfull, if_false, slide, List.length_append, List.length_singleton, hslide]
    rfl

theorem addItem_kept {maxCapacity : Option Nat} (hcapacity : maxCapacity ≠ some 0)
    (added : List T) (item : T) :
    addItem ⟨kept maxCapacity added, maxCapacity⟩ item =
      some ⟨kept maxCapacity (added ++ [item]), maxCapacity⟩ := by
  cases maxCapacity with
  | none => rfl
  | some capacity =>
      have hpos : 0 < capacity := Nat.pos_of_ne_zero fun hzero => hcapacity (hzero ▸ rfl)
      calc addItem ⟨added.rtake capacity, some capacity⟩ item
          = some ⟨slide capacity (added.rtake capacity) item, some capacity⟩ :=
            addItem_of_pos hpos _ item
        _ = some ⟨(added ++ [item]).rtake capacity, some capacity⟩ := by rw [slide_rtake]

/-- A call keeps the window, if it adds nothing or the capacity is not zero. -/
theorem call_kept {maxCapacity : Option Nat} (added : List T) (next : MessageBufferCall T)
    (h : maxCapacity ≠ some 0 ∨ next.adds = false) :
    call ⟨kept maxCapacity added, maxCapacity⟩ next =
      some ⟨kept maxCapacity (track added next), maxCapacity⟩ := by
  have hempty : kept maxCapacity ([] : List T) = [] := by
    cases maxCapacity with
    | none => rfl
    | some capacity => exact List.rtake_nil capacity
  cases next with
  | addItem item => exact addItem_kept (h.resolve_right Bool.noConfusion) added item
  | takeItems | clear => simp [call, takeItems, clear, track, hempty]

theorem callAll_eq {maxCapacity : Option Nat} {calls : List (MessageBufferCall T)}
    (h : maxCapacity ≠ some 0 ∨ ∀ call ∈ calls, call.adds = false) :
    callAll { maxCapacity := maxCapacity } calls =
      some ⟨kept maxCapacity (addedSince calls), maxCapacity⟩ := by
  induction calls using List.reverseRecOn with
  | nil =>
      cases maxCapacity with
      | none => rfl
      | some capacity => simp [callAll, kept, addedSince]
  | append_singleton calls last ih =>
      rw [List.forall_mem_append, List.forall_mem_singleton] at h
      rw [callAll_concat, ih (h.imp_right And.left), Option.bind_some,
        call_kept _ last (h.imp_right And.right), addedSince_concat]

/-- Without a capacity the buffer holds everything that was added since it was emptied. -/
theorem callAll_new (calls : List (MessageBufferCall T)) :
    callAll new calls = some { items := addedSince calls } :=
  have hcapacity : (none : Option Nat) ≠ some 0 := (Option.some_ne_none 0).symm
  callAll_eq (Or.inl hcapacity)

/-! ## Buffers with a capacity -/

/-- With capacity zero a run that does not panic adds nothing. -/
theorem adds_eq_false_of_callAll {calls : List (MessageBufferCall T)} {buffer : MessageBuffer T}
    (h : callAll (withCapacity 0) calls = some buffer) : ∀ call ∈ calls, call.adds = false := by
  induction calls with
  | nil => simp
  | cons first calls ih =>
      cases first with
      | addItem item => cases h
      | takeItems | clear => exact List.forall_mem_cons.mpr ⟨rfl, ih h⟩

/-- No call panics and the buffer always holds the newest items that its capacity allows,
exactly if the capacity is not zero or nothing is added. -/
theorem forall_callAll_iff (capacity : Nat) (calls : List (MessageBufferCall T)) :
    (∀ past, past <+: calls → ∃ buffer : MessageBuffer T,
      callAll (withCapacity capacity) past = some buffer ∧
        buffer.items =
          (addedSince past).rtake (min (addedSince past).length capacity)) ↔
      0 < capacity ∨ ∀ call ∈ calls, call.adds = false := by
  constructor
  · intro h
    obtain ⟨buffer, hrun, -⟩ := h calls (List.prefix_refl calls)
    rcases Nat.eq_zero_or_pos capacity with rfl | hpos
    · exact Or.inr (adds_eq_false_of_callAll hrun)
    · exact Or.inl hpos
  · intro h past hpast
    have hcondition : some capacity ≠ some 0 ∨ ∀ call ∈ past, call.adds = false := by
      refine h.imp (fun hpos hzero => ?_) fun hnone call hmem => hnone call (hpast.subset hmem)
      exact hpos.ne' (Option.some.inj hzero)
    refine ⟨_, callAll_eq hcondition, ?_⟩
    rw [rtake_min_length]
    rfl

/-- The first item panics. -/
theorem forall_callAll_false :
    ¬ ∀ past, past <+: [MessageBufferCall.addItem true] → ∃ buffer : MessageBuffer Bool,
      callAll (withCapacity 0) past = some buffer ∧
        buffer.items = (addedSince past).rtake (min (addedSince past).length 0) := by
  intro h
  obtain ⟨buffer, hrun, -⟩ := h _ (List.prefix_refl _)
  cases hrun

end MessageBuffer

end Yuha
