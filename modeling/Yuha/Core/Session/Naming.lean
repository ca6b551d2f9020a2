import Yuha.Core.Session.Indexing

/-!
# Unique names

A registry that allows no duplicate names refuses them in `register` only, and it looks
for them in the index of names only. So an operation keeps the names unique exactly if
it is not one of the two that get past this check with a name in use: an update, and a
`register` without that index.
-/

namespace Yuha

open Library Library.Execution

namespace SessionRegistry

variable {registry : SessionRegistry}

/-- No two registered sessions have the same name. -/
def NamesUnique (registry : SessionRegistry) : Prop :=
  ∀ id id' metadata metadata', registry.get id = some metadata →
    registry.get id' = some metadata' → metadata.name = metadata'.name → id = id'

/-- A session other than this one has the name. -/
def NameTaken (registry : SessionRegistry) (sessionId : SessionId) (name : String) : Prop :=
  ∃ id metadata, registry.get id = some metadata ∧ metadata.name = name ∧ id ≠ sessionId

theorem nameTaken_iff {sessionId : SessionId} {name : String} :
    registry.NameTaken sessionId name ↔
      ∃ entry ∈ registry.sessions.entries, entry.2.name = name ∧ entry.1 ≠ sessionId := by
  constructor
  · rintro ⟨id, metadata, hid, hname, hother⟩
    exact ⟨⟨id, metadata⟩, AList.mem_lookup_iff.mp hid, hname, hother⟩
  · rintro ⟨⟨id, metadata⟩, hmem, hname, hother⟩
    exact ⟨id, metadata, AList.mem_lookup_iff.mpr hmem, hname, hother⟩

instance (sessionId : SessionId) (name : String) :
    Decidable (registry.NameTaken sessionId name) :=
  decidable_of_iff _ nameTaken_iff.symm

/-- The operation gives no session the name of another one: no update of a registered
session does, and no `register` within the limit does when there is no index of names. -/
def SparesNames (registry : SessionRegistry) : RegistryOp → Prop
  | .register metadata =>
      registry.config.enableNameIndex = false →
        registry.sessions.size < registry.config.maxSessions →
          ¬ registry.NameTaken metadata.id metadata.name
  | .update sessionId metadata =>
      metadata.id = sessionId → (registry.get sessionId).isSome →
        ¬ registry.NameTaken sessionId metadata.name
  | _ => True

/-- What the index of names knows: where it is enabled every registered session is filed
under its name, and otherwise it is empty. -/
structure NamesFiled (registry : SessionRegistry) : Prop where
  filed : registry.config.enableNameIndex = true → ∀ id metadata,
    registry.get id = some metadata → id ∈ registry.nameIndex.group metadata.name
  unfiled : registry.config.enableNameIndex = false → registry.nameIndex = ∅

theorem namesFiled_new (config : SessionRegistryConfig) : (new config).NamesFiled where
  filed _ id metadata h := by simp at h
  unfiled _ := rfl

section NamesFiled

variable {metadata : SessionMetadata}

/-- A registered session is given metadata, and filed under its name if that is new. -/
theorem NamesFiled.of_get {registry' : SessionRegistry} (h : registry.NamesFiled)
    (hconfig : registry'.config = registry.config)
    (hget : ∀ id, registry'.get id = if id = metadata.id then some metadata else registry.get id)
    (hself : registry.config.enableNameIndex = true →
      metadata.id ∈ registry'.nameIndex.group metadata.name)
    (hothers : registry.config.enableNameIndex = true → ∀ id name, id ≠ metadata.id →
      id ∈ registry.nameIndex.group name → id ∈ registry'.nameIndex.group name)
    (hempty : registry.config.enableNameIndex = false →
      registry'.nameIndex = registry.nameIndex) : registry'.NamesFiled where
  filed henabled id metadata' hid := by
    rw [hconfig] at henabled
    rw [hget] at hid
    split at hid
    · next heq =>
        obtain rfl := Option.some.inj hid
        exact heq ▸ hself henabled
    · next hne => exact hothers henabled id _ hne (h.filed henabled id metadata' hid)
  unfiled hdisabled := by
    rw [hconfig] at hdisabled
    rw [hempty hdisabled, h.unfiled hdisabled]

theorem NamesFiled.register (h : registry.NamesFiled) (metadata : SessionMetadata) :
    (registry.register metadata).2.NamesFiled := by
  cases hcheck : registry.checkRegister metadata with
  | error e => rwa [register_of_error hcheck]
  | ok _ =>
      have hindex := register_nameIndex_of_ok hcheck
      have hget : ∀ id, (registry.register metadata).2.get id =
          if id = metadata.asRegistered.id then some metadata.asRegistered
          else registry.get id := by
        simpa using get_register_of_ok hcheck
      apply h.of_get (register_config _ _) hget
      · intro henabled
        rw [hindex, if_pos henabled, GroupedIndex.mem_group_push]
        exact Or.inr (by simp)
      · intro henabled id name _ hmem
        rw [hindex, if_pos henabled, GroupedIndex.mem_group_push]
        exact Or.inl hmem
      · intro hdisabled
        rw [hindex, hdisabled]
        rfl

theorem NamesFiled.unregister (h : registry.NamesFiled) (sessionId : SessionId) :
    (registry.unregister sessionId).2.NamesFiled := by
  cases hsome : registry.get sessionId with
  | none => rwa [unregister_of_none hsome]
  | some metadata =>
      have hindex := unregister_nameIndex_of_some hsome
      constructor
      · intro henabled id metadata' hid
        rw [unregister_config] at henabled
        rw [get_unregister] at hid
        split at hid
        · cases hid
        · next hne =>
            rw [hindex, if_pos henabled, GroupedIndex.mem_group_discard]
            exact ⟨h.filed henabled id metadata' hid, fun hboth => hne hboth.2⟩
      · intro hdisabled
        rw [unregister_config] at hdisabled
        rw [hindex, hdisabled]
        exact h.unfiled hdisabled

theorem NamesFiled.modify (h : registry.NamesFiled) (sessionId : SessionId)
    {f : SessionMetadata → SessionMetadata}
    (hname : ∀ metadata, (f metadata).name = metadata.name) :
    (registry.modify sessionId f).2.NamesFiled := by
  constructor
  · intro henabled id metadata' hid
    rw [modify_config] at henabled
    rw [modify_nameIndex]
    obtain hold | ⟨metadata, _, hold, rfl⟩ := get_modify_cases hid
    · exact h.filed henabled id metadata' hold
    · rw [hname]
      exact h.filed henabled id metadata hold
  · intro hdisabled
    rw [modify_config] at hdisabled
    rw [modify_nameIndex, h.unfiled hdisabled]

theorem NamesFiled.update (h : registry.NamesFiled) (sessionId : SessionId)
    (metadata : SessionMetadata) : (registry.update sessionId metadata).2.NamesFiled := by
  rcases registry.update_cases sessionId metadata with ⟨hsame, _⟩ | ⟨oldMetadata, rfl, hsome⟩
  · rwa [hsame]
  · have hindex := update_nameIndex_of_some hsome
    apply h.of_get (update_config _ _ _) (get_update_of_some hsome)
    · intro henabled
      rw [hindex]
      split
      · rw [GroupedIndex.mem_group_push]
        exact Or.inr ⟨rfl, rfl⟩
      · next hsame =>
          have hname : oldMetadata.name = metadata.name := by
            by_contra hname
            exact hsame ⟨henabled, hname⟩
          exact hname ▸ h.filed henabled _ _ hsome
    · intro henabled id name hid hmem
      rw [hindex]
      split
      · rw [GroupedIndex.mem_group_push, GroupedIndex.mem_group_discard]
        exact Or.inl ⟨hmem, fun hboth => hid hboth.2⟩
      · exact hmem
    · intro hdisabled
      rw [hindex, if_neg (by simp [hdisabled])]

theorem NamesFiled.apply (h : registry.NamesFiled) (op : RegistryOp) :
    (registry.apply op).NamesFiled := by
  cases op with
  | register metadata => exact h.register metadata
  | unregister sessionId => exact h.unregister sessionId
  | update sessionId metadata => exact h.update sessionId metadata
  | updateStatus now sessionId status => exact h.modify sessionId fun _ => rfl
  | markUsed now sessionId => exact h.modify sessionId fun _ => rfl
  | clear => exact ⟨fun _ id metadata hid => by simp [SessionRegistry.apply] at hid, fun _ => rfl⟩

end NamesFiled

/-- A session that is given a name spoils uniqueness exactly if the name is taken. -/
theorem NamesUnique.of_get_iff {registry' : SessionRegistry} {sessionId : SessionId}
    {metadata : SessionMetadata} (h : registry.NamesUnique)
    (hget : ∀ id, registry'.get id =
      if id = sessionId then some metadata else registry.get id) :
    registry'.NamesUnique ↔ ¬ registry.NameTaken sessionId metadata.name := by
  have hself : registry'.get sessionId = some metadata := by rw [hget, if_pos rfl]
  constructor
  · rintro hunique ⟨id, metadata', hid, hname, hne⟩
    have hid' : registry'.get id = some metadata' := by rw [hget, if_neg hne, hid]
    exact hne (hunique id sessionId metadata' metadata hid' hself hname)
  · intro hfree id id' a b ha hb hname
    rw [hget] at ha hb
    split at ha <;> split at hb
    · next heq heq' => rw [heq, heq']
    · next heq hne =>
        obtain rfl := Option.some.inj ha
        exact absurd ⟨id', b, hb, hname.symm, hne⟩ hfree
    · next hne heq =>
        obtain rfl := Option.some.inj hb
        exact absurd ⟨id, a, ha, hname, hne⟩ hfree
    · exact h id id' a b ha hb hname

theorem NamesUnique.modify (h : registry.NamesUnique) (sessionId : SessionId)
    {f : SessionMetadata → SessionMetadata}
    (hname : ∀ metadata, (f metadata).name = metadata.name) :
    (registry.modify sessionId f).2.NamesUnique := by
  have hkept : ∀ id metadata', (registry.modify sessionId f).2.get id = some metadata' →
      ∃ metadata, registry.get id = some metadata ∧ metadata'.name = metadata.name := by
    intro id metadata' hid
    obtain hold | ⟨metadata, _, hold, rfl⟩ := get_modify_cases hid
    · exact ⟨metadata', hold, rfl⟩
    · exact ⟨metadata, hold, hname metadata⟩
  intro id id' a b ha hb heq
  obtain ⟨a', ha', hname_a⟩ := hkept id a ha
  obtain ⟨b', hb', hname_b⟩ := hkept id' b hb
  exact h id id' a' b' ha' hb' (hname_a.symm.trans (heq.trans hname_b))

/-- One operation keeps the names unique exactly if it spares the names in use. -/
theorem namesUnique_apply_iff (hconfig : registry.config.allowDuplicateNames = false)
    (hfiled : registry.NamesFiled) (h : registry.NamesUnique) (op : RegistryOp) :
    (registry.apply op).NamesUnique ↔ registry.SparesNames op := by
  cases op with
  | register metadata =>
      have hcheck := registry.checkRegister_eq_ok_iff metadata
      simp only [hconfig, Bool.false_eq_true, false_or] at hcheck
      cases hresult : registry.checkRegister metadata with
      | error e =>
          simp only [hresult, reduceCtorEq, false_iff, not_and] at hcheck
          refine iff_of_true ?_ fun hdisabled hsize => ?_
          · simpa only [SessionRegistry.apply, register_of_error hresult] using h
          · rw [hfiled.unfiled hdisabled] at hcheck
            exact absurd (GroupedIndex.group_empty _) (hcheck hsize)
      | ok _ =>
          obtain ⟨hsize, hgroup⟩ := hcheck.mp hresult
          have hiff := h.of_get_iff (get_register_of_ok hresult)
          rw [SessionMetadata.asRegistered_name] at hiff
          refine hiff.trans ⟨fun hfree _ _ => hfree, fun hspares => ?_⟩
          cases henabled : registry.config.enableNameIndex with
          | false => exact hspares henabled hsize
          | true =>
              rintro ⟨id, metadata', hid, hname, _⟩
              have hmem := hfiled.filed henabled id metadata' hid
              rw [hname, hgroup] at hmem
              cases hmem
  | unregister sessionId =>
      refine iff_of_true (fun id id' a b ha hb => ?_) trivial
      simp only [SessionRegistry.apply, get_unregister] at ha hb
      split at ha
      · cases ha
      split at hb
      · cases hb
      exact h id id' a b ha hb
  | update sessionId metadata =>
      rcases registry.update_cases sessionId metadata with
        ⟨hsame, hnone⟩ | ⟨oldMetadata, rfl, hsome⟩
      · refine iff_of_true ?_ fun heq hregistered => ?_
        · simpa only [SessionRegistry.apply, hsame] using h
        · simp [hnone heq] at hregistered
      · apply (h.of_get_iff (get_update_of_some hsome)).trans
        simp [SparesNames, hsome]
  | updateStatus now sessionId status => exact iff_of_true (h.modify sessionId fun _ => rfl) trivial
  | markUsed now sessionId => exact iff_of_true (h.modify sessionId fun _ => rfl) trivial
  | clear => exact iff_of_true (fun id _ _ _ hid => by simp [SessionRegistry.apply] at hid) trivial

/-- Where duplicate names are not allowed, names stay unique through a run exactly if none
of its operations gives a session a name in use by the two ways around the check. -/
theorem namesUnique_iff_sparesNames (config : SessionRegistryConfig)
    (hconfig : config.allowDuplicateNames = false) (ops : List RegistryOp) :
    Always apply NamesUnique (new config) ops ↔
      Along apply (fun _ registry op => registry.SparesNames op) (new config) ops := by
  let I : List RegistryOp → SessionRegistry → Prop := fun _ registry =>
    registry.config.allowDuplicateNames = false ∧ registry.NamesFiled ∧ registry.NamesUnique
  have hstart : I [] (new config) :=
    ⟨hconfig, namesFiled_new config, fun id _ _ _ hid => by simp at hid⟩
  have hknown : Along apply (fun _ _ _ => True) (new config) ops := fun _ _ _ => trivial
  apply always_iff_along hknown hstart (fun _ _ h => h.2.2)
  · rintro past registry op ⟨hduplicates, hfiled, hunique⟩ _ hspares
    refine ⟨by rwa [apply_config], hfiled.apply op, ?_⟩
    exact (namesUnique_apply_iff hduplicates hfiled hunique op).mpr hspares
  · rintro past registry op ⟨hduplicates, hfiled, hunique⟩ _ hspares hafter
    exact hspares ((namesUnique_apply_iff hduplicates hfiled hunique op).mp hafter)

/-- A registry that should keep names unique and has no index of names. -/
def unindexedConfig : SessionRegistryConfig :=
  { allowDuplicateNames := false, enableNameIndex := false }

/-- Two sessions are registered, and the second one is renamed. -/
theorem namesUnique_iff_sparesNames_two :
    Always apply NamesUnique (new unindexedConfig)
      [.register (.new 0 ⟨1⟩ "build" {} [] none), .register (.new 0 ⟨2⟩ "test" {} [] none),
        .update ⟨2⟩ (.new 0 ⟨2⟩ "lint" {} [] none)] := by
  apply (namesUnique_iff_sparesNames unindexedConfig rfl _).mpr
  simp only [along_cons, along_nil, and_true, SparesNames]
  decide +kernel

/-- A rename to a name in use is accepted with the index, and without the index
registering the same name twice is accepted as well. -/
theorem namesUnique_false :
    ¬ Always apply NamesUnique (new { allowDuplicateNames := false })
        [.register (.new 0 ⟨1⟩ "build" {} [] none), .register (.new 0 ⟨2⟩ "test" {} [] none),
          .update ⟨2⟩ (.new 0 ⟨2⟩ "build" {} [] none)] ∧
      ¬ Always apply NamesUnique (new unindexedConfig)
        [.register (.new 0 ⟨1⟩ "build" {} [] none),
          .register (.new 0 ⟨2⟩ "build" {} [] none)] := by
  constructor
  · intro h
    exact absurd (h.last ⟨1⟩ ⟨2⟩ _ _ rfl rfl rfl) (by decide)
  · intro h
    exact absurd (h.last ⟨1⟩ ⟨2⟩ _ _ rfl rfl rfl) (by decide)

end SessionRegistry

end Yuha
