import MeltemVentilation.RegisterMap

/-!
# A dumped model is reproduced

A map is loaded device by device, the gateway first and the units by their addresses. How far it
has been loaded is told by `MockGatewayModel.LoadedTo`: the units that have been loaded are as
they have been dumped, and the others are new. Pairing and unpairing a unit that has not been
loaded keep it, and loading the unit's registers brings it one unit further
(`MockGatewayModel.LoadedTo.applyUnit`).

So loading the map of a model into a new model reproduces the model (`registerMap_reproduces`),
but not in every respect (`registerMap_reproduces_refuted`). The gateway lists the units that the
loaded model has paired, in the order in which they are loaded, and not what the map says. And
the refusal of a set register is dumped but not loaded.
-/

namespace MeltemVentilation

/-! ### The node list -/

namespace MockGatewayModel

variable {s t : MockGatewayModel} {done : List ℕ} {address : ℕ} {device : MockDevice}

theorem keys_nodeList (paired : List ℕ) : (nodeList paired).map Prod.fst = nodeRegisters := rfl

theorem listed_syncNodeList (h : gatewayAddress ∈ s.devices) : s.syncNodeList.Listed := by
  obtain ⟨gateway, hgateway⟩ := Finmap.mem_iff.mp h
  intro entry hentry
  unfold syncNodeList at hentry ⊢
  rw [paired_updateGateway] at hentry
  have hnodup : ((nodeList s.paired).map Prod.fst).Nodup := by
    rw [keys_nodeList]
    exact List.nodup_range'
  unfold holds
  rw [lookup_updateGateway hgateway]
  exact Dict.lookup_update_of_mem hnodup hentry _

/-! ### Loading units -/

/-- How far a dumped model has been loaded: the units `done` are as they have been dumped, and
the others are new. -/
structure LoadedTo (s : MockGatewayModel) (done : List ℕ) (t : MockGatewayModel) : Prop where
  gateway : ∃ device loaded, s.devices.lookup gatewayAddress = some device ∧
    t.devices.lookup gatewayAddress = some loaded ∧ Mirrors nodeRegisters device loaded
  loaded : ∀ address ∈ done, address ≠ gatewayAddress ∧
    (address ∈ t.paired ↔ address ∈ s.paired) ∧
    ∃ device loaded, s.devices.lookup address = some device ∧
      t.devices.lookup address = some loaded ∧ Mirrors [] device loaded
  new : ∀ address ∉ done, address ≠ gatewayAddress → ∀ device,
    t.devices.lookup address = some device →
      address ∈ s.devices ∧ ∃ profile, device = newMockUnit address profile
  paired : ∀ address ∈ t.paired, address ≠ gatewayAddress ∧ address ∈ s.devices
  nodup : t.paired.Nodup
  listed : t.Listed

/-- A unit that has not been loaded is replaced by a new one. -/
theorem LoadedTo.setNew (h : LoadedTo s done t) (hnew : address ∉ done)
    (hgateway : address ≠ gatewayAddress) (hmem : address ∈ s.devices) (profile : Profile) :
    LoadedTo s done (t.setDevice address (newMockUnit address profile)) where
  gateway := by
    rw [lookup_setDevice_of_ne hgateway.symm]
    exact h.gateway
  loaded other hother := by
    have hne : other ≠ address := fun heq => hnew (heq ▸ hother)
    rw [lookup_setDevice_of_ne hne]
    exact h.loaded other hother
  new other hother hother' device hlookup := by
    by_cases heq : other = address
    · subst heq
      rw [lookup_setDevice, Option.some.injEq] at hlookup
      exact ⟨hmem, profile, hlookup.symm⟩
    · rw [lookup_setDevice_of_ne heq] at hlookup
      exact h.new other hother hother' device hlookup
  paired := h.paired
  nodup := h.nodup
  listed := by
    intro entry hentry
    unfold holds
    rw [lookup_setDevice_of_ne hgateway.symm]
    exact h.listed entry hentry

/-- The units that have not been loaded are paired or unpaired, and the gateway lists them. -/
theorem LoadedTo.listPaired (h : LoadedTo s done t) {paired : List ℕ} (hnodup : paired.Nodup)
    (hpaired : ∀ address ∈ paired, address ≠ gatewayAddress ∧ address ∈ s.devices)
    (hdone : ∀ address ∈ done, address ∈ paired ↔ address ∈ t.paired) :
    LoadedTo s done { t with paired := paired }.syncNodeList := by
  obtain ⟨device, loaded, hdevice, hloaded, hmirrors⟩ := h.gateway
  have hgateway := lookup_updateGateway (s := { t with paired := paired }) hloaded (nodeList paired)
  constructor
  · refine ⟨device, _, hdevice, hgateway, hmirrors.update fun register hregister => ?_⟩
    rwa [keys_nodeList] at hregister
  · intro address haddress
    obtain ⟨hne, hlisted, hunit⟩ := h.loaded address haddress
    unfold syncNodeList
    rw [paired_updateGateway, lookup_updateGateway_of_ne hne]
    exact ⟨hne, (hdone address haddress).trans hlisted, hunit⟩
  · intro address haddress hne device hlookup
    unfold syncNodeList at hlookup
    rw [lookup_updateGateway_of_ne hne] at hlookup
    exact h.new address haddress hne device hlookup
  · rwa [syncNodeList, paired_updateGateway]
  · rwa [syncNodeList, paired_updateGateway]
  · exact listed_syncNodeList (Finmap.mem_of_lookup_eq_some hloaded)

/-- A unit is loaded. -/
theorem LoadedTo.setLoaded (h : LoadedTo s done t) (hgateway : address ≠ gatewayAddress)
    (hlisted : address ∈ t.paired ↔ address ∈ s.paired) {loaded : MockDevice}
    (hdevice : s.devices.lookup address = some device) (hmirrors : Mirrors [] device loaded) :
    LoadedTo s (address :: done) (t.setDevice address loaded) where
  gateway := by
    rw [lookup_setDevice_of_ne hgateway.symm]
    exact h.gateway
  loaded other hother := by
    by_cases heq : other = address
    · subst heq
      exact ⟨hgateway, hlisted, device, loaded, hdevice, lookup_setDevice _ _ _, hmirrors⟩
    · rw [lookup_setDevice_of_ne heq]
      exact h.loaded other ((List.mem_cons.mp hother).resolve_left heq)
  new other hother hother' device hlookup := by
    rw [List.mem_cons, not_or] at hother
    rw [lookup_setDevice_of_ne hother.1] at hlookup
    exact h.new other hother.2 hother' device hlookup
  paired := h.paired
  nodup := h.nodup
  listed := by
    intro entry hentry
    unfold holds
    rw [lookup_setDevice_of_ne hgateway.symm]
    exact h.listed entry hentry

/-- A unit that has not been loaded is new, whether the loaded model knows it or not. -/
theorem LoadedTo.addUnit (h : LoadedTo s done t) (hnew : address ∉ done)
    (hgateway : address ≠ gatewayAddress) (hmem : address ∈ s.devices) (profile : Profile) :
    LoadedTo s done (t.addUnit address profile) ∧
      (t.addUnit address profile).devices.lookup address = some (newMockUnit address profile) := by
  unfold MockGatewayModel.addUnit
  split
  · rename_i hknown
    obtain ⟨device, hdevice, hprofile⟩ := (Option.any_eq_true _ _).mp hknown
    obtain ⟨-, profile', rfl⟩ := h.new address hnew hgateway device hdevice
    obtain rfl : profile' = profile := by simpa [newMockUnit] using hprofile
    exact ⟨h, hdevice⟩
  · exact ⟨h.setNew hnew hgateway hmem profile, lookup_setDevice _ _ _⟩

/-- **A unit that has not been loaded is paired.** -/
theorem LoadedTo.pairUnit (h : LoadedTo s done t) (hnew : address ∉ done)
    (hgateway : address ≠ gatewayAddress) (hmem : address ∈ s.devices) (profile : Profile) :
    LoadedTo s done (t.pairUnit address profile) ∧
      (t.pairUnit address profile).devices.lookup address = some (newMockUnit address profile) ∧
      address ∈ (t.pairUnit address profile).paired := by
  obtain ⟨hadded, hdevice⟩ := h.addUnit hnew hgateway hmem profile
  unfold MockGatewayModel.pairUnit MockGatewayModel.listUnit
  set u := t.addUnit address profile
  -- Pairing lists the unit at once, unless it is listed already.
  split
  · rename_i hlisted
    refine ⟨hadded.listPaired hadded.nodup hadded.paired fun _ _ => Iff.rfl, ?_, ?_⟩
    · rwa [syncNodeList, lookup_updateGateway_of_ne hgateway]
    · rwa [syncNodeList, paired_updateGateway]
  · rename_i hlisted
    have hnodup : (u.paired ++ [address]).Nodup := by
      rw [List.nodup_append]
      refine ⟨hadded.nodup, List.nodup_singleton _, fun a ha b hb hab => ?_⟩
      rw [hab, List.mem_singleton.mp hb] at ha
      exact hlisted ha
    refine ⟨hadded.listPaired hnodup ?_ ?_, ?_, ?_⟩
    · intro other hother
      rcases List.mem_append.mp hother with hother | hother
      · exact hadded.paired other hother
      · rw [List.mem_singleton.mp hother]
        exact ⟨hgateway, hmem⟩
    · intro other hother
      have hne : other ≠ address := fun heq => hnew (heq ▸ hother)
      simp [hne]
    · rwa [syncNodeList, lookup_updateGateway_of_ne hgateway]
    · rw [syncNodeList, paired_updateGateway]
      simp

/-- **A unit that has not been loaded is unpaired again.** -/
theorem LoadedTo.unpair (h : LoadedTo s done t) (hnew : address ∉ done)
    (hgateway : address ≠ gatewayAddress) {profile : Profile}
    (hdevice : t.devices.lookup address = some (newMockUnit address profile)) :
    ∃ u, t.unpair address = .ok u ∧ LoadedTo s done u ∧
      u.devices.lookup address = some (newMockUnit address profile) ∧ address ∉ u.paired := by
  have hunit : t.unit address = .ok (newMockUnit address profile, profile) :=
    unit_eq_ok.mpr ⟨hdevice, rfl⟩
  refine ⟨{ t with paired := t.paired.erase address }.syncNodeList, ?_,
    h.listPaired (h.nodup.erase address) ?_ ?_, ?_, ?_⟩
  · unfold MockGatewayModel.unpair
    rw [hunit]
    rfl
  · exact fun other hother => h.paired other (List.mem_of_mem_erase hother)
  · intro other hother
    have hne : other ≠ address := fun heq => hnew (heq ▸ hother)
    exact List.mem_erase_of_ne hne
  · rwa [syncNodeList, lookup_updateGateway_of_ne hgateway]
  · rw [syncNodeList, paired_updateGateway]
    exact h.nodup.not_mem_erase

theorem pair_text (s : MockGatewayModel) (haddress : 2 ≤ address ∧ address ≤ 16)
    (profile : Profile) : s.pair address profile.text = .ok (s.pairUnit address profile) := by
  have hprofile : validateProfile profile.text = .ok profile := by cases profile <;> rfl
  have hvalid : validateUnitAddress (address : ℤ) = .ok address := by
    rw [validateUnitAddress, if_pos (by omega), Int.toNat_natCast]
  rw [MockGatewayModel.pair, hvalid, hprofile]
  rfl

/-- The registers of a unit are loaded. -/
theorem applyValues_unit (hgateway : address ≠ gatewayAddress) {new loaded : MockDevice}
    (hdevice : t.devices.lookup address = some new) {values : List (String × Json)}
    (hfold : values.foldlM applyRegister new = .ok loaded) :
    t.applyValues address (.obj values) = .ok (t.setDevice address loaded) := by
  rw [applyValues, device_eq_ok.mpr hdevice]
  simp only [Except.mapError, bind, Except.bind, hfold, pure, Except.pure]
  rw [if_neg hgateway]

/-- The address and the profile of a dumped unit are read back. -/
theorem pairEntry_unitEntry (haddress : 2 ≤ address ∧ address ≤ 16) (profile : Profile)
    (paired : Bool) (registers : Json) :
    t.pairEntry (toString address)
      [("profile", .str profile.text), ("paired", .bool paired), ("registers", registers)] =
      .ok (address, t.pairUnit address profile) := by
  have hvalid : validateUnitAddress (address : ℤ) = .ok address := by
    rw [validateUnitAddress, if_pos (by omega), Int.toNat_natCast]
  rw [pairEntry, parseInt_toString]
  dsimp only
  rw [hvalid]
  simp only [Except.mapError, bind, Except.bind, field, List.lookup_cons, beq_self_eq_true,
    Option.getD_some, pair_text t haddress profile, pure, Except.pure]

/-- **A unit is loaded as it has been dumped.** -/
theorem LoadedTo.applyUnit (h : LoadedTo s done t) (hs : s.Sound) (hnew : address ∉ done)
    {profile : Profile} (hdevice : s.devices.lookup address = some device)
    (hprofile : device.profile = some profile) :
    ∃ u, t.applyUnit (s.unitEntry address device profile) = .ok u ∧
      LoadedTo s (address :: done) u := by
  have hsound := hs.devices address device hdevice
  have haddress := hsound.unit (by rw [hprofile]; rfl)
  have hgateway : address ≠ gatewayAddress := by
    unfold gatewayAddress
    omega
  obtain ⟨hpaired, hunit, hlisted⟩ :=
    h.pairUnit hnew hgateway (Finmap.mem_of_lookup_eq_some hdevice) profile
  have hprofile' : (newMockUnit address profile).profile = device.profile := hprofile.symm
  have hregisters : ∀ register ∈ (newMockUnit address profile).registers,
      register ∈ device.registers := by
    intro register hregister
    refine hsound.generated register ?_
    rw [hprofile]
    exact hregister
  obtain ⟨loaded, hfold, hmirrors⟩ := mirrors_of_load hsound hprofile' rfl hregisters
  unfold MockGatewayModel.applyUnit unitEntry
  dsimp only
  rw [pairEntry_unitEntry haddress]
  -- A unit that was not paired is unpaired again before its registers are loaded.
  by_cases hs' : address ∈ s.paired
  · refine ⟨_, ?_, hpaired.setLoaded hgateway (iff_of_true hlisted hs') hdevice hmirrors⟩
    simpa [field, List.lookup_cons, Json.truthy, hs', Except.mapError, bind, Except.bind, pure,
      Except.pure] using applyValues_unit hgateway hunit hfold
  · obtain ⟨u, hunpair, hunpaired, hunit', hlisted'⟩ := hpaired.unpair hnew hgateway hunit
    refine ⟨_, ?_, hunpaired.setLoaded hgateway (iff_of_false hlisted' hs') hdevice hmirrors⟩
    simpa [field, List.lookup_cons, Json.truthy, hs', hunpair, Except.mapError, bind, Except.bind,
      pure, Except.pure] using applyValues_unit hgateway hunit' hfold

/-- **All units are loaded**, one after the other. -/
theorem LoadedTo.foldlM (h : LoadedTo s done t) (hs : s.Sound)
    {items : List (ℕ × MockDevice)} (hnodup : (items.map Prod.fst).Nodup)
    (hitems : ∀ item ∈ items, s.devices.lookup item.1 = some item.2 ∧ item.1 ∉ done) :
    ∃ u done', (items.filterMap fun (address, device) =>
        device.profile.map fun profile => s.unitEntry address device profile).foldlM
          MockGatewayModel.applyUnit t = .ok u ∧ LoadedTo s done' u ∧
      (∀ address ∈ done, address ∈ done') ∧
      ∀ item ∈ items, item.2.profile.isSome → item.1 ∈ done' := by
  -- A device without a profile is no unit and left out; each unit loaded is new to the list.
  induction items generalizing done t with
  | nil => exact ⟨t, done, rfl, h, fun _ haddress => haddress, by simp⟩
  | cons item items ih =>
    obtain ⟨address, device⟩ := item
    obtain ⟨hfirst, hnodup⟩ := List.nodup_cons.mp hnodup
    obtain ⟨⟨hdevice, hnew⟩, hitems⟩ := List.forall_mem_cons.mp hitems
    cases hprofile : device.profile with
    | none =>
      obtain ⟨u, done', hfold, hloaded, hkept, hunits⟩ := ih h hnodup hitems
      refine ⟨u, done', ?_, hloaded, hkept, List.forall_mem_cons.mpr ⟨?_, hunits⟩⟩
      · rwa [List.filterMap_cons_none (by simp [hprofile])]
      · intro hunit
        rw [hprofile] at hunit
        cases hunit
    | some profile =>
      obtain ⟨next, hnext, hloaded⟩ := h.applyUnit hs hnew hdevice hprofile
      have hrest : ∀ item ∈ items,
          s.devices.lookup item.1 = some item.2 ∧ item.1 ∉ address :: done := by
        intro item hitem
        obtain ⟨hlookup, hnew'⟩ := hitems item hitem
        refine ⟨hlookup, fun hmem => ?_⟩
        rcases List.mem_cons.mp hmem with heq | hmem
        · have hmem := List.mem_map_of_mem (f := Prod.fst) hitem
          rw [heq] at hmem
          exact hfirst hmem
        · exact hnew' hmem
      obtain ⟨u, done', hfold, hloaded', hkept, hunits⟩ := ih hloaded hnodup hrest
      refine ⟨u, done', ?_, hloaded', fun other hother => hkept _ (List.mem_cons_of_mem _ hother),
        List.forall_mem_cons.mpr ⟨fun _ => hkept _ List.mem_cons_self, hunits⟩⟩
      rw [List.filterMap_cons_some (by simp [hprofile]; rfl), List.foldlM_cons, hnext]
      exact hfold

/-- The node list is among the registers of a new gateway. -/
theorem mem_gatewayRegisters {register : ℕ} (h : register ∈ nodeRegisters) :
    register ∈ gatewayRegisters := by
  have hzeros : ∀ register ∈ nodeRegisters,
      register ∈ (zeroRegisters gatewayReadableRanges).map Prod.fst := by decide
  unfold gatewayRegisters
  exact Dict.mem_update_of_mem (Dict.mem_update.mpr (.inr (hzeros register h))) _

/-- What is there before a map is loaded: nothing is refused, and there are only the registers
that the devices begin with. -/
structure Unloaded (t : MockGatewayModel) : Prop where
  gateway : ∃ new, t.devices.lookup gatewayAddress = some new ∧ new.profile = none ∧
    new.refused = ∅ ∧ ∀ register ∈ new.registers, register ∈ gatewayRegisters
  units : ∀ address ≠ gatewayAddress, ∀ device, t.devices.lookup address = some device →
    ∃ profile, device = newMockUnit address profile
  paired : ∀ address ∈ t.paired, address ≠ gatewayAddress ∧ address ∈ t.devices
  nodup : t.paired.Nodup

theorem Constructed.unloaded (h : t.Constructed) : t.Unloaded := by
  have hsound := h.sound
  obtain ⟨t, rfl, hnew, -, -⟩ := h.eq
  refine ⟨⟨_, lookup_updateGateway hnew.gateway _, rfl, rfl, ?_⟩, ?_, ?_, hsound.nodup⟩
  · intro register hregister
    rcases Dict.mem_update.mp hregister with hregister | hregister
    · exact hregister
    · exact mem_gatewayRegisters hregister
  · intro address hne device hlookup
    rw [syncNodeList, lookup_updateGateway_of_ne hne] at hlookup
    exact (hnew.units address device hlookup hne).2
  · intro address haddress
    obtain ⟨hlow, -, hmem⟩ := hsound.paired address haddress
    refine ⟨?_, hmem⟩
    unfold gatewayAddress
    omega

/-- The registers of the gateway are loaded. -/
theorem applyValues_gateway {new loaded : MockDevice}
    (hdevice : t.devices.lookup gatewayAddress = some new) {values : List (String × Json)}
    (hfold : values.foldlM applyRegister new = .ok loaded) :
    t.applyValues gatewayAddress (.obj values) =
      .ok (t.setDevice gatewayAddress loaded).syncNodeList := by
  rw [applyValues, device_eq_ok.mpr hdevice]
  simp only [Except.mapError, bind, Except.bind, hfold, pure, Except.pure, if_true]

/-- **The gateway is loaded first**, into a new model. -/
theorem Unloaded.loadedTo (h : t.Unloaded) (hs : s.Sound)
    (hunits : ∀ address ∈ t.devices, address ∈ s.devices)
    (hgateway : s.devices.lookup gatewayAddress = some device) :
    ∃ u, t.applyValues gatewayAddress (.obj (registerValues device)) = .ok u ∧
      LoadedTo s [] u := by
  obtain ⟨new, hlookup, hnew, hrefused, hregisters⟩ := h.gateway
  have hsound := hs.devices _ _ hgateway
  -- Units are at addresses from 2 on, so the gateway is none.
  have hprofile : device.profile = none := by
    by_contra hunit
    have := hsound.unit (Option.isSome_iff_ne_none.mpr hunit)
    unfold gatewayAddress at this
    omega
  have hgenerated := hsound.generated
  rw [hprofile] at hgenerated
  obtain ⟨loaded, hfold, hmirrors⟩ := mirrors_of_load hsound (hnew.trans hprofile.symm) hrefused
    fun register hregister => hgenerated register (hregisters register hregister)
  refine ⟨_, applyValues_gateway hlookup hfold, ?_⟩
  have hset := lookup_setDevice t gatewayAddress loaded
  have hother {address : ℕ} (hne : address ≠ gatewayAddress) :
      (t.setDevice gatewayAddress loaded).syncNodeList.devices.lookup address =
        t.devices.lookup address :=
    (lookup_updateGateway_of_ne hne _ _).trans (lookup_setDevice_of_ne hne t loaded)
  have hlisted : (t.setDevice gatewayAddress loaded).syncNodeList.paired = t.paired :=
    paired_updateGateway _ _
  constructor
  · refine ⟨device, _, hgateway, lookup_updateGateway hset _, ?_⟩
    have hapart : Mirrors nodeRegisters device loaded :=
      { hmirrors with
        value := fun register hregister _ => hmirrors.value register hregister List.not_mem_nil }
    exact hapart.update fun register hregister => hregister
  · intro address haddress
    cases haddress
  · intro address _ hne device hdevice
    rw [hother hne] at hdevice
    have hmem := hunits address (Finmap.mem_of_lookup_eq_some hdevice)
    exact ⟨hmem, h.units address hne device hdevice⟩
  · intro address haddress
    rw [hlisted] at haddress
    exact ⟨(h.paired address haddress).1, hunits address (h.paired address haddress).2⟩
  · rw [hlisted]
    exact h.nodup
  · exact listed_syncNodeList (Finmap.mem_of_lookup_eq_some hset)

/-! ### The whole map -/

/-- **A model whose units have all been loaded** mirrors the dumped one, device by device. -/
theorem LoadedTo.mirrored (h : LoadedTo s done t) (hs : s.Sound)
    (hdone : ∀ address device, s.devices.lookup address = some device → device.profile.isSome →
      address ∈ done) (address : ℕ) :
    (s.devices.lookup address = none ∧ t.devices.lookup address = none) ∨
      ∃ device loaded own, s.devices.lookup address = some device ∧
        t.devices.lookup address = some loaded ∧ Mirrors own device loaded ∧
        ∀ register ∈ own, address = gatewayAddress ∧ register ∈ nodeRegisters := by
  by_cases hgateway : address = gatewayAddress
  · subst hgateway
    obtain ⟨device, loaded, hdevice, hloaded, hmirrors⟩ := h.gateway
    exact .inr ⟨device, loaded, _, hdevice, hloaded, hmirrors, fun register hregister =>
      ⟨rfl, hregister⟩⟩
  · -- Every other device of the dump is a unit and was loaded; none was made up.
    cases hdevice : s.devices.lookup address with
    | none =>
      refine .inl ⟨rfl, ?_⟩
      have hnew : address ∉ done := by
        intro hmem
        obtain ⟨-, -, device, -, hdevice', -⟩ := h.loaded address hmem
        rw [hdevice] at hdevice'
        cases hdevice'
      cases hloaded : t.devices.lookup address with
      | none => rfl
      | some loaded =>
        have hmem := (h.new address hnew hgateway loaded hloaded).1
        exact absurd hmem (Finmap.lookup_eq_none.mp hdevice)
    | some device =>
      have hunit : device.profile.isSome := by
        rw [Option.isSome_iff_ne_none]
        exact fun hnone => hgateway ((hs.devices _ _ hdevice).gateway hnone)
      obtain ⟨-, -, device', loaded, hdevice', hloaded, hmirrors⟩ :=
        h.loaded address (hdone address device hdevice hunit)
      rw [hdevice, Option.some.injEq] at hdevice'
      subst hdevice'
      exact .inr ⟨device, loaded, [], rfl, hloaded, hmirrors, fun register hregister => by
        cases hregister⟩

/-- A loaded model reproduces the dumped one, except for the node list. -/
theorem LoadedTo.reproduces (h : LoadedTo s done t) (hs : s.Sound)
    (hdone : ∀ address device, s.devices.lookup address = some device → device.profile.isSome →
      address ∈ done) : s.Reproduces unrefusable nodeRegisters t where
  paired address := by
    have hlisted (haddress : address ≠ gatewayAddress) (hmem : address ∈ s.devices) :
        address ∈ t.paired ↔ address ∈ s.paired := by
      obtain ⟨device, hdevice⟩ := Finmap.mem_iff.mp hmem
      refine (h.loaded address (hdone address device hdevice ?_)).2.1
      rw [Option.isSome_iff_ne_none]
      exact fun hnone => haddress ((hs.devices _ _ hdevice).gateway hnone)
    constructor
    · intro hpaired
      obtain ⟨hne, hmem⟩ := h.paired address hpaired
      exact (hlisted hne hmem).mp hpaired
    · intro hpaired
      obtain ⟨hlow, -, hmem⟩ := hs.paired address hpaired
      refine (hlisted ?_ hmem).mpr hpaired
      unfold gatewayAddress
      omega
  refused address register hregister := by
    unfold Refuses
    rcases h.mirrored hs hdone address with ⟨hs', ht⟩ | ⟨device, loaded, own, hs', ht, hmirrors, -⟩
    · rw [hs', ht]
    · rw [hs', ht]
      simpa [hregister] using hmirrors.refused register
  values address register hregister hown := by
    unfold holds
    rcases h.mirrored hs hdone address with
      ⟨hs', ht⟩ | ⟨device, loaded, own, hs', ht, hmirrors, hapart⟩
    · rw [hs', ht]
    · rw [hs', ht]
      exact hmirrors.value register (fun hmem => hregister ⟨device, hs', hmem⟩)
        fun hmem => hown (hapart register hmem)

/-! #### The clock -/

variable {now : Monotonic} {wallSeconds : ℤ} {entries : List (ℕ × ℕ)}

theorem refuses_updateGateway (s : MockGatewayModel) (entries : List (ℕ × ℕ))
    (address register : ℕ) :
    (s.updateGateway entries).Refuses address register ↔ s.Refuses address register := by
  unfold Refuses
  rw [lookup_updateGateway_map]
  cases s.devices.lookup address with
  | none => rfl
  | some device =>
    simp only [Option.map_some, Option.some.injEq, exists_eq_left']
    split <;> rfl

theorem holds_updateGateway {address register : ℕ} (s : MockGatewayModel)
    (h : ¬(address = gatewayAddress ∧ register ∈ entries.map Prod.fst)) :
    (s.updateGateway entries).holds address register = s.holds address register := by
  unfold holds
  rw [lookup_updateGateway_map]
  cases s.devices.lookup address with
  | none => rfl
  | some device =>
    simp only [Option.map_some, Option.bind_some]
    split
    · rename_i hgateway
      exact Dict.lookup_update_of_notMem (fun hmem => h ⟨hgateway, hmem⟩) _
    · rfl

/-- A model is reproduced as it was before the clock was refreshed, but for the clock. -/
theorem Reproduces.of_refresh {unrefusable own : List ℕ}
    (h : (s.refreshGatewayClock now wallSeconds).Reproduces unrefusable own t) :
    s.Reproduces unrefusable (clockRegisters ++ own) t where
  paired address := by
    rw [h.paired, refreshGatewayClock, paired_updateGateway]
  refused address register hregister :=
    (h.refused address register hregister).trans (refuses_updateGateway _ _ _ _)
  values address register hregister hown := by
    have hclock : ¬(address = gatewayAddress ∧ register ∈ clockRegisters) := fun hmem =>
      hown ⟨hmem.1, List.mem_append_left _ hmem.2⟩
    rw [h.values address register
      (fun hrefused => hregister ((refuses_updateGateway _ _ _ _).mp hrefused))
      fun hmem => hown ⟨hmem.1, List.mem_append_right _ hmem.2⟩]
    exact holds_updateGateway s hclock

theorem Sound.refreshGatewayClock (h : s.Sound) (now : Monotonic) (wallSeconds : ℤ) :
    (s.refreshGatewayClock now wallSeconds).Sound :=
  h.updateGateway (List.forall_mem_append.mpr
    ⟨isWord_wordSwappedU32 (by decide) _, isWord_wordSwappedU32 (by decide) _⟩)

theorem Idle.updateGateway (h : s.Idle) (entries : List (ℕ × ℕ)) :
    (s.updateGateway entries).Idle := by
  intro address device hlookup
  rw [lookup_updateGateway_map, Option.map_eq_some_iff] at hlookup
  obtain ⟨device', hdevice, rfl⟩ := hlookup
  split
  · exact h address device' hdevice
  · exact h address device' hdevice

theorem settle_of_idle (h : device.pending = none) (now : Monotonic) :
    device.settle now = device := by
  rw [MockDevice.settle, h]

/-- **Nothing settles** while an idle model is dumped. -/
theorem Idle.toRegisterMap (h : s.Idle)
    (hgateway : (s.refreshGatewayClock now wallSeconds).devices.lookup gatewayAddress =
      some device) :
    s.toRegisterMap now wallSeconds =
      [("format", .int 1), ("gateway", .obj [("registers", .obj (registerValues device))]),
        ("units", .obj ((s.refreshGatewayClock now wallSeconds).devices.items.filterMap
          fun (address, device) => device.profile.map fun profile =>
            (s.refreshGatewayClock now wallSeconds).unitEntry address device profile))] := by
  have hidle : (s.refreshGatewayClock now wallSeconds).Idle := h.updateGateway _
  have hunits : (s.refreshGatewayClock now wallSeconds).devices.items.filterMap
        (fun (address, device) => device.profile.map fun profile =>
          (s.refreshGatewayClock now wallSeconds).unitEntry address (device.settle now) profile) =
      (s.refreshGatewayClock now wallSeconds).devices.items.filterMap
        fun (address, device) => device.profile.map fun profile =>
          (s.refreshGatewayClock now wallSeconds).unitEntry address device profile := by
    refine List.filterMap_congr fun ⟨address, device⟩ hitem => ?_
    dsimp only
    rw [settle_of_idle (hidle address device (Dict.mem_items.mp hitem))]
  unfold MockGatewayModel.toRegisterMap
  dsimp only at hunits ⊢
  rw [hgateway, hunits]
  dsimp only
  rw [settle_of_idle (hidle _ _ hgateway)]

end MockGatewayModel

/-- **The map of an idle model is loaded** into a new model without other units, which then
mirrors it in every device. -/
theorem MockGatewayModel.Idle.applyRegisterMap {s fresh : MockGatewayModel} (hidle : s.Idle)
    (hs : s.Reached) (hfresh : fresh.Constructed)
    (hunits : ∀ address ∈ fresh.devices, address ∈ s.devices) (now : Monotonic)
    (wallSeconds : ℤ) :
    ∃ t done, fresh.applyRegisterMap (s.toRegisterMap now wallSeconds) = .ok t ∧
      LoadedTo (s.refreshGatewayClock now wallSeconds) done t ∧
      ∀ address device, (s.refreshGatewayClock now wallSeconds).devices.lookup address =
        some device → device.profile.isSome → address ∈ done := by
  have hsound := hs.sound.refreshGatewayClock now wallSeconds
  obtain ⟨gateway, hgateway⟩ := Finmap.mem_iff.mp hsound.gateway
  have hknown : ∀ address ∈ fresh.devices,
      address ∈ (s.refreshGatewayClock now wallSeconds).devices := by
    intro address haddress
    obtain ⟨device, hdevice⟩ := Finmap.mem_iff.mp (hunits address haddress)
    have hlookup := lookup_updateGateway_map s (s.clockEntries now wallSeconds) address
    rw [hdevice] at hlookup
    exact Finmap.mem_of_lookup_eq_some hlookup
  obtain ⟨t₀, hfirst, hloaded₀⟩ := hfresh.unloaded.loadedTo hsound hknown hgateway
  obtain ⟨t, done, hfold, hloaded, -, hdone⟩ := hloaded₀.foldlM hsound (Dict.nodup_items _)
    fun item hitem => ⟨Dict.mem_items.mp hitem, List.not_mem_nil⟩
  refine ⟨t, done, ?_, hloaded, fun address device hdevice hunit =>
    hdone (address, device) (Dict.mem_items.mpr hdevice) hunit⟩
  rw [hidle.toRegisterMap hgateway, MockGatewayModel.applyRegisterMap]
  simp [field, List.lookup_cons, isRegisterMapFormat, hfirst, hfold, bind, Except.bind]

/-! ### A model without units -/

namespace MockGatewayModel

variable {s : MockGatewayModel} {address : ℕ} {device : MockDevice}

/-- A new model without units, whose writes take effect at once. -/
def blank : MockGatewayModel :=
  syncNodeList
    { settleSeconds := 0, devices := Finmap.singleton gatewayAddress newGateway, paired := [],
      boot := 0 }

theorem constructed_blank : blank.Constructed := by
  refine ⟨∅, false, 0, 0, ?_⟩
  have hitems : (∅ : Dict ℤ String).items = [] := by simp [Dict.items]
  rw [new, hitems]
  rfl

theorem Idle.setDevice (h : s.Idle) (hdevice : device.pending = none) :
    (s.setDevice address device).Idle := by
  intro other device' hlookup
  by_cases heq : other = address
  · subst heq
    rw [lookup_setDevice, Option.some.injEq] at hlookup
    exact hlookup ▸ hdevice
  · rw [lookup_setDevice_of_ne heq] at hlookup
    exact h other device' hlookup

theorem idle_blank : blank.Idle := by
  refine Idle.updateGateway (fun address device hlookup => ?_) _
  have hgateway := Finmap.mem_of_lookup_eq_some hlookup
  obtain rfl := (Finmap.mem_singleton _ _ _).mp hgateway
  obtain rfl := Option.some.inj (Finmap.lookup_singleton_eq.symm.trans hlookup)
  rfl

/-- What several calls at their times leave. -/
def performAll (s : MockGatewayModel) (calls : List (Monotonic × MockCall)) : MockGatewayModel :=
  calls.foldl (fun s call => s.perform call.1 call.2) s

/-- Several calls are a run. -/
theorem Reached.performAll (h : s.Reached) (calls : List (Monotonic × MockCall)) :
    (s.performAll calls).Reached := by
  induction calls generalizing s with
  | nil => exact h
  | cons call calls ih => exact ih (h.next trivial (l := call) rfl)

/-- It has the gateway only, which every model has. -/
theorem mem_of_mem_blank (hs : s.Reached) : ∀ address ∈ blank.devices, address ∈ s.devices := by
  intro address hmem
  obtain ⟨device, hdevice⟩ := Finmap.mem_iff.mp hmem
  rw [blank, syncNodeList, lookup_updateGateway_map, Option.map_eq_some_iff] at hdevice
  obtain ⟨device', hdevice', -⟩ := hdevice
  obtain rfl := (Finmap.mem_singleton _ _ _).mp (Finmap.mem_of_lookup_eq_some hdevice')
  exact hs.sound.gateway

theorem Idle.pairUnit (h : s.Idle) (address : ℕ) (profile : Profile) :
    (s.pairUnit address profile).Idle := by
  refine Idle.updateGateway ?_ _
  have hadded : (s.addUnit address profile).Idle := by
    unfold MockGatewayModel.addUnit
    split
    · exact h
    · exact h.setDevice rfl
  unfold MockGatewayModel.listUnit
  split
  · exact hadded
  · exact hadded

theorem Idle.setRegister (h : s.Idle) {now : Monotonic} {register value : ℤ}
    (hset : s.setRegister now address register value = .ok t) : t.Idle := by
  obtain ⟨device, hdevice, -, rfl⟩ := setRegister_eq_ok hset
  have hpending := h _ _ hdevice
  exact h.setDevice (by rw [settle_of_idle hpending]; exact hpending)

theorem Idle.refuse (h : s.Idle) {first last : ℕ} {refused : Bool}
    (hrefuse : s.refuse address first last refused = .ok t) : t.Idle := by
  unfold MockGatewayModel.refuse at hrefuse
  cases hdevice : s.device address with
  | error error => simp [hdevice, bind, Except.bind] at hrefuse
  | ok device =>
    simp only [hdevice, bind, Except.bind, pure, Except.pure, Except.ok.injEq] at hrefuse
    subst hrefuse
    have hpending : device.pending = none := h _ _ (device_eq_ok.mp hdevice)
    exact h.setDevice hpending

theorem Idle.unpair (h : s.Idle) (hunpair : s.unpair address = .ok t) : t.Idle := by
  unfold MockGatewayModel.unpair at hunpair
  cases hunit : s.unit address with
  | error error => simp [hunit, bind, Except.bind] at hunpair
  | ok unit =>
    simp only [hunit, bind, Except.bind, pure, Except.pure, Except.ok.injEq] at hunpair
    subst hunpair
    have hidle : Idle { s with paired := s.paired.erase address } := h
    exact hidle.updateGateway _

theorem Idle.appChange (h : s.Idle) (supply : String) (extract : Option String) :
    (s.appChange address supply extract).2.Idle := by
  unfold MockGatewayModel.appChange
  split
  · exact h
  · dsimp only
    split
    · exact h.setDevice rfl
    · exact h.setDevice rfl

/-- **Only a write leaves something that settles.** -/
theorem Idle.perform (h : s.Idle) (now : Monotonic) {call : MockCall}
    (hcall : ∀ address register value, call ≠ .write address register value) :
    (s.perform now call).Idle := by
  cases call with
  | write address register value => exact absurd rfl (hcall address register value)
  | setRegister address register value => exact getD_of_ok h fun t => h.setRegister
  | refuse address first last refused => exact getD_of_ok h fun t => h.refuse
  | pair address profile =>
    refine getD_of_ok h fun t hpair => ?_
    obtain ⟨unit, found, -, rfl⟩ := pair_eq_ok hpair
    exact h.pairUnit unit found
  | unpair address => exact getD_of_ok h fun t => h.unpair
  | appChange address supply extract => exact h.appChange supply extract

theorem Idle.performAll (h : s.Idle) {calls : List (Monotonic × MockCall)}
    (hcalls : ∀ call ∈ calls, ∀ address register value, call.2 ≠ .write address register value) :
    (s.performAll calls).Idle := by
  induction calls generalizing s with
  | nil => exact h
  | cons call calls ih =>
    obtain ⟨hfirst, hrest⟩ := List.forall_mem_cons.mp hcalls
    exact ih (h.perform call.1 hfirst) hrest

end MockGatewayModel

/-- **A dumped model is reproduced** by loading its map into a new model without other units,
whatever has been called before, if no write is settling: the same units are paired, the same
registers are refused, except for the set registers, and the others hold the same values, except
for the clock of the gateway and its list of the units, which shows those of the loaded model. -/
theorem registerMap_reproduces {s fresh : MockGatewayModel} (hs : s.Reached) (hidle : s.Idle)
    (hfresh : fresh.Constructed) (hunits : ∀ address ∈ fresh.devices, address ∈ s.devices)
    (now : Monotonic) (wallSeconds : ℤ) :
    ∃ t, fresh.applyRegisterMap (s.toRegisterMap now wallSeconds) = .ok t ∧
      s.Reproduces unrefusable (clockRegisters ++ nodeRegisters) t ∧ t.Listed := by
  obtain ⟨t, done, hload, hloaded, hdone⟩ :=
    hidle.applyRegisterMap hs hfresh hunits now wallSeconds
  have hsound := hs.sound.refreshGatewayClock now wallSeconds
  exact ⟨t, hload, (hloaded.reproduces hsound hdone).of_refresh, hloaded.listed⟩

/-- Two units are paired, registers of the first one are refused and set, and the second one is
unpaired again. -/
def pairedCalls : List (Monotonic × MockCall) :=
  [(0, .pair 2 "ii_plain"), (1, .pair 3 "ii_fc"), (2, .refuse 2 41016 41018 true),
    (3, .setRegister 2 41027 90), (4, .unpair 3)]

open MockGatewayModel in
theorem registerMap_reproduces_paired :
    ∃ t, blank.applyRegisterMap ((blank.performAll pairedCalls).toRegisterMap 5 7) = .ok t ∧
      (blank.performAll pairedCalls).Reproduces unrefusable (clockRegisters ++ nodeRegisters) t ∧
      t.Listed := by
  have hidle : (blank.performAll pairedCalls).Idle := by
    refine idle_blank.performAll fun call hcall address register value hwrite => ?_
    simp only [pairedCalls, List.mem_cons, List.not_mem_nil, or_false] at hcall
    rcases hcall with rfl | rfl | rfl | rfl | rfl <;> cases hwrite
  have hreached : (blank.performAll pairedCalls).Reached :=
    Reached.performAll (.start constructed_blank) pairedCalls
  exact registerMap_reproduces hreached hidle constructed_blank (mem_of_mem_blank hreached) 5 7

namespace MockGatewayModel

/-- A model without units, whose gateway has been told to list a unit. -/
def listing : MockGatewayModel := blank.perform 0 (.setRegister gatewayAddress 43903 9)

/-- A model without units that refuses a set register. -/
def refusing : MockGatewayModel := blank.perform 0 (.refuse gatewayAddress 41120 41120 true)

/-- What the two are, where `device` is the gateway. -/
theorem blank_perform : ∃ device : MockDevice, device.pending = none ∧ device.refused = ∅ ∧
    listing = blank.setDevice gatewayAddress (device.setValue 43903 9) ∧
    refusing = blank.setDevice gatewayAddress { device with refused := {41120} } := by
  obtain ⟨device, hdevice, -, hrefused, -⟩ := constructed_blank.unloaded.gateway
  have hfound := device_eq_ok.mpr hdevice
  have hpending := idle_blank _ _ hdevice
  refine ⟨device, hpending, hrefused, ?_, ?_⟩
  · rw [listing, perform, MockGatewayModel.setRegister, hfound]
    exact congrArg (fun device => blank.setDevice gatewayAddress (device.setValue 43903 9))
      (settle_of_idle hpending 0)
  · rw [refusing, perform, MockGatewayModel.refuse, hfound]
    simp [bind, Except.bind, pure, Except.pure, Except.toOption, hrefused]

end MockGatewayModel

open MockGatewayModel in
/-- **Not everything is reproduced**: the gateway lists its own units after the map has been
loaded, and a set register is not refused any more. -/
theorem registerMap_reproduces_refuted : blank.Constructed ∧ ∀ s ∈ [listing, refusing],
    s.Reached ∧ s.Idle ∧ ∃ t, blank.applyRegisterMap (s.toRegisterMap 0 0) = .ok t ∧
      ¬s.Reproduces [] clockRegisters t := by
  obtain ⟨device, hpending, hrefused, hlisting, hrefusing⟩ := blank_perform
  have hlist : listing.Reached := .next (.start constructed_blank) trivial (l := (0, _)) rfl
  have hrefuse : refusing.Reached := .next (.start constructed_blank) trivial (l := (0, _)) rfl
  have hlistIdle : listing.Idle := by
    rw [hlisting]
    exact idle_blank.setDevice hpending
  have hrefuseIdle : refusing.Idle := by
    rw [hrefusing]
    exact idle_blank.setDevice hpending
  refine ⟨constructed_blank, List.forall_mem_cons.mpr ⟨⟨hlist, hlistIdle, ?_⟩,
    List.forall_mem_singleton.mpr ⟨hrefuse, hrefuseIdle, ?_⟩⟩⟩
  · obtain ⟨t, done, hload, hloaded, hdone⟩ :=
      hlistIdle.applyRegisterMap hlist constructed_blank (mem_of_mem_blank hlist) 0 0
    refine ⟨t, hload, fun hsame => ?_⟩
    have hpaired : t.paired = [] := by
      refine List.eq_nil_iff_forall_not_mem.mpr fun address haddress => ?_
      have := (hsame.paired address).mp haddress
      rw [hlisting] at this
      cases this
    have hnone : ¬listing.Refuses gatewayAddress 43903 := by
      rintro ⟨device', hdevice', hmem⟩
      rw [hlisting, lookup_setDevice, Option.some.injEq] at hdevice'
      subst hdevice'
      exact Finset.notMem_empty _ (hrefused ▸ hmem)
    -- The register holds 9 in the dump, but the load lists the paired units there: none.
    have hshown : t.holds gatewayAddress 43903 = some 0 :=
      hloaded.listed (43903, 0) (by rw [hpaired]; decide)
    have hvalue : listing.holds gatewayAddress 43903 = some 9 := by
      rw [holds, hlisting, lookup_setDevice]
      exact Finmap.lookup_insert _
    rw [hsame.values gatewayAddress 43903 hnone (by decide), hvalue] at hshown
    cases hshown
  · obtain ⟨t, done, hload, hloaded, hdone⟩ :=
      hrefuseIdle.applyRegisterMap hrefuse constructed_blank (mem_of_mem_blank hrefuse) 0 0
    refine ⟨t, hload, fun hsame => ?_⟩
    have hdumped : refusing.Refuses gatewayAddress 41120 := by
      rw [hrefusing]
      exact ⟨_, lookup_setDevice _ _ _, Finset.mem_singleton_self 41120⟩
    -- The dump refuses a set register, which the load leaves readable.
    obtain ⟨loaded, hlookup, hmem⟩ :=
      (hsame.refused gatewayAddress 41120 List.not_mem_nil).mpr hdumped
    obtain ⟨_, loaded', -, hlookup', hmirrors⟩ := hloaded.gateway
    rw [hlookup', Option.some.injEq] at hlookup
    subst hlookup
    exact ((hmirrors.refused 41120).mp hmem).2 (by decide)

end MeltemVentilation
