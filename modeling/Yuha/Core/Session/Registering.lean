import Yuha.Core.Session.Census

/-!
# What one registration does

`register` refuses a session when there is no room for it or its name is taken. It does
not look whether the identifier is registered already: then it replaces the session, and
files the identifier in the indexes once more.
-/

namespace Yuha

open Library

namespace SessionRegistry

/-- One call of `register` fails and changes nothing, or it adds one session and leaves
the others as they are. -/
def RegistersOne (registry : SessionRegistry) (metadata : SessionMetadata) : Prop :=
  (∃ e, registry.register metadata = (.error e, registry)) ∨
    (registry.register metadata).1 = .ok metadata.id ∧
      (registry.register metadata).2.count = registry.count + 1 ∧
      (registry.register metadata).2.get metadata.id = some metadata.asRegistered ∧
      ∀ id session, registry.get id = some session →
        (registry.register metadata).2.get id = some session

/-- There is no room for another session, or the name is taken and has to be unique. -/
def Refuses (registry : SessionRegistry) (metadata : SessionMetadata) : Prop :=
  registry.config.maxSessions ≤ registry.count ∨
    registry.config.allowDuplicateNames = false ∧
      registry.nameIndex.group metadata.name ≠ []

variable {registry : SessionRegistry} {metadata : SessionMetadata}

theorem checkRegister_eq_ok_iff_not_refuses :
    registry.checkRegister metadata = .ok () ↔ ¬ registry.Refuses metadata := by
  rw [checkRegister_eq_ok_iff, Refuses, not_or, Nat.not_le]
  apply and_congr Iff.rfl
  rw [not_and, not_not]
  cases registry.config.allowDuplicateNames <;> simp

theorem Refuses.register_eq (h : registry.Refuses metadata) :
    ∃ e, registry.register metadata = (.error e, registry) := by
  cases hcheck : registry.checkRegister metadata with
  | error e => exact ⟨e, register_of_error hcheck⟩
  | ok _ => exact absurd h (checkRegister_eq_ok_iff_not_refuses.mp hcheck)

/-- A session that is registered in the place of another leaves their number as it is. -/
theorem count_register_of_isSome (h : registry.checkRegister metadata = .ok ())
    (hsome : (registry.get metadata.id).isSome) :
    (registry.register metadata).2.count = registry.count := by
  obtain ⟨session, hsession⟩ := Option.isSome_iff_exists.mp hsome
  unfold get at hsession
  simp [count, register_sessions_of_ok h, HashMap.size_insert, hsession]

/-- A registration adds one session exactly if it is refused or its identifier is new. -/
theorem registersOne_iff (registry : SessionRegistry) (metadata : SessionMetadata) :
    registry.RegistersOne metadata ↔
      registry.Refuses metadata ∨ registry.get metadata.id = none := by
  by_cases hrefuses : registry.Refuses metadata
  · exact iff_of_true (Or.inl hrefuses.register_eq) (Or.inl hrefuses)
  have hcheck := checkRegister_eq_ok_iff_not_refuses.mpr hrefuses
  have hok := register_fst_of_ok hcheck
  constructor
  · rintro (⟨e, herror⟩ | ⟨_, hcount, _⟩)
    · rw [herror] at hok
      cases hok
    · apply Or.inr
      by_contra hsome
      have hsame := count_register_of_isSome hcheck (Option.isSome_iff_ne_none.mpr hsome)
      omega
  · intro h
    have hfresh := h.resolve_left hrefuses
    apply Or.inr
    refine ⟨hok, count_register hcheck hfresh, ?_, fun id session hsession => ?_⟩
    · rw [get_register_of_ok hcheck, if_pos rfl]
    · rw [get_register_of_ok hcheck, if_neg, hsession]
      rintro rfl
      exact absurd (hfresh.symm.trans hsession) (by simp)

/-- A second session comes with the identifier of the first. -/
theorem registersOne_false :
    ¬ ((new {}).register (.new 0 ⟨1⟩ "build" {} [] none)).2.RegistersOne
      (.new 1 ⟨1⟩ "deploy" {} [] none) := by
  rintro (⟨e, herror⟩ | ⟨_, hcount, _⟩)
  · have hfst := congrArg Prod.fst herror
    rw [register_fst_of_ok rfl] at hfst
    cases hfst
  · exact absurd hcount (by decide)

end SessionRegistry

end Yuha
