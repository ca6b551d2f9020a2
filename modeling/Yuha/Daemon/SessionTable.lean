import Mathlib.Data.Set.Insert
import Mathlib.Logic.Function.Basic
import Yuha.Core.Session.Metadata

/-!
# The purpose of the session state

The daemon lends sessions. A session is described once, when it is created, and has a
status; while it is lent out, a client connection stands behind it. The table keeps no
more than that, and an event of the daemon is one of five moves on it.
-/

namespace Yuha

/-- Sessions over any identifiers, with any description. -/
@[ext] structure SessionTable (ι δ : Type*) where
  entry : ι → Option (δ × SessionStatus)
  connected : Set ι

inductive SessionMove (ι δ : Type*)
  | stay
  | create (id : ι) (description : δ)
  | reuse (id : ι)
  | release (id : ι)
  | expire (ids : Set ι)

namespace SessionTable

variable {ι δ : Type*}

def Registered (table : SessionTable ι δ) (id : ι) : Prop := ∃ e, table.entry id = some e

/-- Every active session is backed by a connection. -/
def Backed (table : SessionTable ι δ) : Prop :=
  ∀ id description, table.entry id = some (description, .active) → id ∈ table.connected

/-- No idle session holds a connection. -/
def Parked (table : SessionTable ι δ) : Prop :=
  ∀ id description, table.entry id = some (description, .idle) → id ∉ table.connected

/-- Every connection belongs to a registered session. -/
def Anchored (table : SessionTable ι δ) : Prop :=
  ∀ id ∈ table.connected, table.Registered id

end SessionTable

namespace SessionMove

open scoped Classical in
/-- Give a session another status. -/
noncomputable def setStatus {ι δ : Type*} (id : ι) (status : SessionStatus)
    (entry : ι → Option (δ × SessionStatus)) : ι → Option (δ × SessionStatus) :=
  Function.update entry id ((entry id).map fun e => (e.1, status))

open scoped Classical in
/-- What a move does to the table. -/
noncomputable def apply {ι δ : Type*} :
    SessionMove ι δ → SessionTable ι δ → SessionTable ι δ
  | .stay, table => table
  | .create id description, table =>
      { entry := Function.update table.entry id (some (description, .active))
        connected := insert id table.connected }
  | .reuse id, table => { table with entry := setStatus id .active table.entry }
  | .release id, table =>
      { entry := setStatus id .idle table.entry
        connected := table.connected \ {id} }
  | .expire ids, table =>
      { table with entry := fun id => if id ∈ ids then none else table.entry id }

variable {ι δ : Type*} {table : SessionTable ι δ}

theorem setStatus_eq_some {id i : ι} {status : SessionStatus}
    {entry : ι → Option (δ × SessionStatus)} {e : δ × SessionStatus} :
    setStatus id status entry i = some e ↔
      (i = id ∧ e.2 = status ∧ ∃ old, entry i = some (e.1, old)) ∨
        (i ≠ id ∧ entry i = some e) := by
  obtain ⟨description, status'⟩ := e
  by_cases hi : i = id
  · subst hi
    simp [setStatus, eq_comm, and_comm]
  · simp [setStatus, hi]

/-- A session is disconnected by its release only, and connected by its creation only. -/
theorem mem_connected_apply (move : SessionMove ι δ) (i : ι) :
    i ∈ (move.apply table).connected ↔
      (i ∈ table.connected ∧ move ≠ .release i) ∨ ∃ description, move = .create i description := by
  cases move with
  | stay => simp [apply]
  | create id description =>
      simp only [apply, Set.mem_insert_iff, ne_eq, reduceCtorEq, not_false_eq_true, and_true,
        create.injEq]
      constructor
      · rintro (rfl | hi)
        · exact Or.inr ⟨description, rfl, rfl⟩
        · exact Or.inl hi
      · rintro (hi | ⟨_, rfl, _⟩)
        · exact Or.inr hi
        · exact Or.inl rfl
  | reuse id => simp [apply]
  | release id => simp [apply, eq_comm]
  | expire ids => simp [apply]

/-- Every move but the reuse of a session keeps active sessions backed. -/
theorem backed_apply (h : table.Backed) {move : SessionMove ι δ}
    (hmove : ∀ id, move ≠ .reuse id) : (move.apply table).Backed := by
  intro i description hi
  cases move with
  | stay => exact h i description hi
  | create id description' =>
      by_cases heq : i = id
      · exact Or.inl heq
      · exact Or.inr (h i description (by simpa [apply, heq] using hi))
  | reuse id => exact absurd rfl (hmove id)
  | release id =>
      rcases setStatus_eq_some.mp hi with ⟨_, hstatus, _⟩ | ⟨hne, hold⟩
      · cases hstatus
      · exact ⟨h i description hold, hne⟩
  | expire ids =>
      simp only [apply] at hi
      split at hi
      · cases hi
      · exact h i description hi

/-- The reuse of a session without connection leaves it active and unbacked. -/
theorem not_backed_apply_reuse {id : ι} (hentry : table.Registered id)
    (hconnected : id ∉ table.connected) : ¬ ((reuse id).apply table).Backed := by
  obtain ⟨⟨description, old⟩, hold⟩ := hentry
  intro hbacked
  exact hconnected (hbacked id description
    (setStatus_eq_some.mpr (Or.inl ⟨rfl, rfl, old, hold⟩)))

theorem parked_apply (h : table.Parked) (move : SessionMove ι δ) :
    (move.apply table).Parked := by
  intro i description hi hmem
  cases move with
  | stay => exact h i description hi hmem
  | create id description' =>
      by_cases heq : i = id
      · simp [apply, heq] at hi
      · exact h i description (by simpa [apply, heq] using hi) (hmem.resolve_left heq)
  | reuse id =>
      rcases setStatus_eq_some.mp hi with ⟨_, hstatus, _⟩ | ⟨_, hold⟩
      · cases hstatus
      · exact h i description hold hmem
  | release id =>
      rcases setStatus_eq_some.mp hi with ⟨rfl, _⟩ | ⟨_, hold⟩
      · exact hmem.2 rfl
      · exact h i description hold hmem.1
  | expire ids =>
      simp only [apply] at hi
      split at hi
      · cases hi
      · exact h i description hi hmem

theorem registered_apply {move : SessionMove ι δ} {i : ι} :
    (move.apply table).Registered i ↔
      (table.Registered i ∧ ∀ ids, move = .expire ids → i ∉ ids) ∨
        ∃ description, move = .create i description := by
  cases move with
  | stay => simp [apply]
  | create id description =>
      by_cases heq : i = id
      · subst heq
        simp [apply, SessionTable.Registered]
      · simp [apply, SessionTable.Registered, heq, Ne.symm heq]
  | reuse id =>
      by_cases heq : i = id <;> simp [apply, SessionTable.Registered, setStatus, heq]
  | release id =>
      by_cases heq : i = id <;> simp [apply, SessionTable.Registered, setStatus, heq]
  | expire ids =>
      by_cases hmem : i ∈ ids <;> simp [apply, SessionTable.Registered, hmem]

/-- Connections stay anchored exactly if no connected session expires. -/
theorem anchored_apply (h : table.Anchored) (move : SessionMove ι δ) :
    (move.apply table).Anchored ↔
      ∀ ids, move = .expire ids → ∀ i ∈ table.connected, i ∉ ids := by
  constructor
  · rintro hafter ids rfl i hi
    rcases registered_apply.mp (hafter i hi) with ⟨_, hkept⟩ | ⟨_, hcreate⟩
    · exact hkept ids rfl
    · cases hcreate
  · intro hexpire i hi
    rw [registered_apply]
    rcases (mem_connected_apply move i).mp hi with ⟨hold, _⟩ | hcreate
    · exact Or.inl ⟨h i hold, fun ids hids => hexpire ids hids i hold⟩
    · exact Or.inr hcreate

end SessionMove

end Yuha
