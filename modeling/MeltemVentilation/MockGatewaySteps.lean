import MeltemVentilation.MockGateway
import MeltemVentilation.SimulatedUnit

/-!
# What the registers of the simulated gateway hold

Whatever is called, and in whatever order, the registers and the values of a device are words,
and none of the registers that it began with is taken away (`MockDevice.Sound`). The gateway
keeps its address, the units have theirs above it, and each paired unit is listed once
(`MockGatewayModel.Sound`). A call changes one device and the list of the units, so that what
is to be shown is that the new device is sound (`MockGatewayModel.Sound.setDevice`).
-/

namespace MeltemVentilation

/-! ### Words -/

/-- A register and its value are words. -/
def IsWord (entry : ℕ × ℕ) : Prop := entry.1 ≤ 0xFFFF ∧ entry.2 ≤ 0xFFFF

instance (entry : ℕ × ℕ) : Decidable (IsWord entry) := inferInstanceAs (Decidable (_ ∧ _))

theorem isWord_zeroRegisters {ranges : List (ℕ × ℕ)} (h : ∀ range ∈ ranges, range.2 ≤ 0xFFFF) :
    ∀ entry ∈ zeroRegisters ranges, IsWord entry := by
  intro entry hentry
  obtain ⟨range, hrange, hentry⟩ := List.mem_flatMap.mp hentry
  obtain ⟨register, hregister, rfl⟩ := List.mem_map.mp hentry
  have hlast := h range hrange
  have hbounds := List.mem_range'_1.mp hregister
  exact ⟨by omega, by omega⟩

theorem isWord_wordSwappedU32 {address : ℕ} (h : address + 1 ≤ 0xFFFF) (value : ℕ) :
    ∀ entry ∈ wordSwappedU32 address value, IsWord entry := by
  intro entry hentry
  simp only [wordSwappedU32, List.mem_cons, List.not_mem_nil, or_false] at hentry
  rcases hentry with rfl | rfl <;> exact ⟨by dsimp only; omega, by dsimp only; omega⟩

theorem isWord_unitValues (profile : Profile) {code : ℕ} (h : code ≤ 0xFFFF) :
    ∀ entry ∈ unitValues profile code, IsWord entry := by
  have hcode : IsWord (40000, code) := ⟨by omega, h⟩
  cases profile <;>
    simp only [unitValues, List.forall_mem_append, List.forall_mem_cons, hcode,
      List.not_mem_nil, false_imp_iff, implies_true, and_true, true_and] <;> decide

/-- The list of the units holds words: there are at most sixteen. -/
theorem isWord_nodeList {paired : List ℕ} (hnodup : paired.Nodup)
    (h : ∀ address ∈ paired, address ≤ 16) : ∀ entry ∈ nodeList paired, IsWord entry := by
  have hcount : paired.length ≤ 17 := by
    have hsub : paired.toFinset ⊆ Finset.range 17 := by
      intro address haddress
      have := h address (List.mem_toFinset.mp haddress)
      exact Finset.mem_range.mpr (by omega)
    have hcard := Finset.card_le_card hsub
    rwa [List.toFinset_card_of_nodup hnodup, Finset.card_range] at hcard
  intro entry hentry
  rcases List.mem_cons.mp hentry with rfl | hentry
  · exact ⟨by simp [registerNumberOfNodes], by dsimp only; omega⟩
  · obtain ⟨index, hindex, rfl⟩ := List.mem_map.mp hentry
    have hindex := List.mem_range.mp hindex
    refine ⟨by simp only [registerNodeAddress1]; omega, ?_⟩
    rw [List.getD_eq_getElem?_getD]
    cases hnode : paired[index]? with
    | none => simp
    | some address =>
      have := h address (List.mem_of_getElem? hnode)
      rw [Option.getD_some]
      omega

/-! ### Devices -/

/-- The registers that a device begins with. -/
def generatedRegisters (profile : Option Profile) (address : ℕ) : Registers :=
  match profile with
  | none => gatewayRegisters
  | some profile => unitRegisters profile (0xA000 + address)

/-- A device as the calls leave it: its registers, and those that a settling write will change,
are words, and none that it began with is missing. -/
structure MockDevice.Sound (address : ℕ) (device : MockDevice) : Prop where
  word : ∀ register value, device.registers.lookup register = some value →
    IsWord (register, value)
  refused : ∀ register ∈ device.refused, register ≤ 0xFFFF
  pending : ∀ due updates, device.pending = some (due, updates) → ∀ entry ∈ updates, IsWord entry
  generated : ∀ register ∈ generatedRegisters device.profile address, register ∈ device.registers
  gateway : device.profile = none → address = gatewayAddress
  unit : device.profile.isSome → 2 ≤ address ∧ address ≤ 16

namespace MockDevice.Sound

variable {address : ℕ} {device : MockDevice}

/-- Registers are updated by words. -/
theorem update (h : device.Sound address) {entries : List (ℕ × ℕ)}
    (hentries : ∀ entry ∈ entries, IsWord entry) :
    { device with registers := Dict.update device.registers entries }.Sound address where
  word := Dict.forall_lookup_update h.word hentries
  refused := h.refused
  pending := h.pending
  generated register hregister := Dict.mem_update_of_mem (h.generated register hregister) _
  gateway := h.gateway
  unit := h.unit

/-- A word is set. -/
theorem insert (h : device.Sound address) {register value : ℕ} (hword : IsWord (register, value)) :
    { device with registers := device.registers.insert register value }.Sound address :=
  h.update (List.forall_mem_singleton.mpr hword)

/-- Nothing is settling any more. -/
theorem drop (h : device.Sound address) : { device with pending := none }.Sound address :=
  { h with pending := fun _ _ hpending => by cases hpending }

/-- A write is settling. -/
theorem wait (h : device.Sound address) {due : Monotonic} {updates : List (ℕ × ℕ)}
    (hupdates : ∀ entry ∈ updates, IsWord entry) :
    { device with pending := some (due, updates) }.Sound address :=
  { h with pending := fun _ _ hpending => by cases hpending; exact hupdates }

/-- A write that was settling has settled. -/
theorem settle (h : device.Sound address) (now : Monotonic) :
    (device.settle now).Sound address := by
  unfold MockDevice.settle
  cases hpending : device.pending with
  | none => exact h
  | some pending =>
    dsimp only
    split
    · exact (h.update (h.pending _ _ hpending)).drop
    · exact h

/-- A set register can be read, which is not told by its soundness. -/
theorem setValue (h : device.Sound address) {register value : ℕ}
    (hword : IsWord (register, value)) : (device.setValue register value).Sound address :=
  { h.insert hword with }

/-- Which registers have been written is not told either. -/
theorem written (h : device.Sound address) (written : Finset ℕ) :
    { device with written := written }.Sound address := { h with }

/-- The registers of a sound device have words. -/
theorem value_le (h : device.Sound address) {default : ℕ} (hdefault : default ≤ 0xFFFF)
    (register : ℕ) : device.value register default ≤ 0xFFFF := by
  unfold MockDevice.value
  cases hvalue : device.registers.lookup register with
  | none => exact hdefault
  | some value => exact (h.word register value hvalue).2

end MockDevice.Sound

/-- The status registers of words and of an airflow that the unit can have. -/
theorem isWord_statusUpdates {status : ModeRead} {airflow : Option (ℤ × ℤ)}
    (hmode : status.mode ≤ 0xFFFF) (hsupply : status.currentLevel ≤ 0xFFFF)
    (hextract : status.extractTargetLevel ≤ 0xFFFF)
    (hairflow : ∀ flows, airflow = some flows → flows.1 ≤ 0xFFFF ∧ flows.2 ≤ 0xFFFF) :
    ∀ entry ∈ statusUpdates status airflow, IsWord entry := by
  unfold statusUpdates
  rw [List.forall_mem_append]
  refine ⟨by simp [IsWord, *], ?_⟩
  cases airflow with
  | none => simp
  | some flows =>
    obtain ⟨hflow, hflow'⟩ := hairflow flows rfl
    simp only [List.forall_mem_cons, IsWord]
    exact ⟨⟨by omega, by omega⟩, ⟨by omega, by omega⟩, by simp⟩

theorem isWord_statusUpdates_some {status : ModeRead} {extract supply : ℤ}
    (hmode : status.mode ≤ 0xFFFF) (hlevel : status.currentLevel ≤ 0xFFFF)
    (htarget : status.extractTargetLevel ≤ 0xFFFF) (hextract : extract ≤ 0xFFFF)
    (hsupply : supply ≤ 0xFFFF) :
    ∀ entry ∈ statusUpdates status (some (extract, supply)), IsWord entry :=
  isWord_statusUpdates hmode hlevel htarget fun flows hflows => by
    cases hflows
    exact ⟨hextract, hsupply⟩

/-- An airflow in the range of a profile is a word. -/
theorem LevelInRange.toWord {room : RoomConfig} {level : ℤ} (h : LevelInRange room level) :
    level ≤ 0xFFFF := by
  have := profileMaxAirflow_le room.profile
  have := h.2
  omega

/-- The status of a unit whose set registers are words. -/
theorem MockUnit.status_le {unit : MockUnit} (h : ∀ register, unit.set register ≤ 0xFFFF) :
    unit.modeUpdates.1.mode ≤ 0xFFFF ∧ unit.modeUpdates.1.currentLevel ≤ 0xFFFF ∧
      unit.modeUpdates.1.extractTargetLevel ≤ 0xFFFF := by
  have hmode := h .mode
  have hlevel := h .currentLevel
  have hextract := h .extractTargetLevel
  have hsensor : unit.set .currentLevel ||| 0x20 ≤ 0xFFFF :=
    Nat.le_of_lt_succ (Nat.or_lt_two_pow (n := 16) (by omega) (by omega))
  unfold MockUnit.modeUpdates
  dsimp only
  split
  · simp [modeManual, presetModeCodeIntensive]
  split
  · exact ⟨hmode, hsensor, hsensor⟩
  split
  · exact ⟨hmode, hlevel, hlevel⟩
  split
  · exact ⟨hmode, hlevel, hextract⟩
  · exact ⟨hmode, hlevel, hlevel⟩

/-- **What a unit shows after a write are words.** -/
theorem MockDevice.Sound.modeUpdates {address : ℕ} {device : MockDevice}
    (h : device.Sound address) (profile : Profile) :
    ∀ entry ∈ device.modeUpdates profile, IsWord entry := by
  have hset : ∀ register, (device.modeUnit profile).set register ≤ 0xFFFF := by
    intro register
    cases register with
    | mode => exact h.value_le (by decide) _
    | extractTargetLevel => exact h.value_le (h.value_le (Nat.zero_le _) _) _
    | _ => exact h.value_le (Nat.zero_le _) _
  obtain ⟨hmode, hsupply, hextract⟩ := MockUnit.status_le hset
  refine isWord_statusUpdates hmode hsupply hextract fun flows hflows => ?_
  let room : RoomConfig := ⟨"", "", profile, 0⟩
  have hrange : LevelInRange room flows.1 ∧ LevelInRange room flows.2 :=
    MockUnit.levelInRange_modeUpdates rfl hflows
  exact ⟨hrange.1.toWord, hrange.2.toWord⟩

/-- A write takes effect, at once or later. -/
theorem MockDevice.Sound.commit {address : ℕ} {device : MockDevice} (h : device.Sound address)
    (settleSeconds now : Monotonic) : (device.commit settleSeconds now).Sound address := by
  unfold MockDevice.commit
  split
  · exact h
  · rename_i profile _
    have hupdates := h.modeUpdates profile
    split
    · exact (h.update hupdates).drop
    · exact h.wait hupdates

/-- An airflow that is asked for in the app is in range. -/
theorem levelInRange_parseAirflow {room : RoomConfig} {text : String} {airflow : ℤ}
    (h : MockGatewayModel.parseAirflow text (profileMaxAirflow room.profile) = .ok airflow) :
    LevelInRange room airflow := by
  unfold MockGatewayModel.parseAirflow at h
  split at h
  · cases h
  · split at h
    · rename_i hrange
      obtain rfl := Except.ok.inj h
      exact hrange
    · cases h

/-- The raw target of an airflow in range is a word. -/
theorem LevelInRange.raw_le {room : RoomConfig} {level : ℤ} (h : LevelInRange room level) :
    (HalfEven.round (level * 200) (profileMaxAirflow room.profile)).toNat ≤ 0xFFFF := by
  have hround : HalfEven.round (level * 200) (profileMaxAirflow room.profile) ≤ 200 :=
    HalfEven.round_le (profileMaxAirflow_pos _) (mul_le_mul_of_nonneg_right h.2 (by norm_num))
  omega

/-- **What the app shows are words.** -/
theorem isWord_appUpdates {profile : Profile} {supply : String} {extract : Option String}
    {updates : List (ℕ × ℕ)}
    (h : MockGatewayModel.appUpdates profile supply extract = .ok updates) :
    ∀ entry ∈ updates, IsWord entry := by
  let room : RoomConfig := ⟨"", "", profile, 0⟩
  have hquick (code : ℕ) : airflowOfRaw code (profileMaxAirflow profile) true ≤ 0xFFFF :=
    (levelInRange_airflowOfRaw room code true).toWord
  unfold MockGatewayModel.appUpdates at h
  dsimp only at h
  split at h
  · cases h
    exact isWord_statusUpdates_some (by decide) (by decide) (by decide) (by decide) (by decide)
  split at h
  · cases h
    exact isWord_statusUpdates_some (by decide) (by decide) (by decide) (hquick _) (hquick _)
  split at h
  · rename_i code hcode
    have hcode : code ≤ 0xFFFF := by
      have hcodes : ∀ entry ∈ MockGatewayModel.quickModeCodes, entry.2 ≤ 0xFFFF := by decide
      obtain ⟨before, after, hentry, -⟩ := List.lookup_eq_some_iff.mp hcode
      exact hcodes (supply, code) (by simp [hentry])
    cases h
    exact isWord_statusUpdates_some (by simp [modeManual]) hcode hcode (hquick _) (hquick _)
  · cases hsupply : MockGatewayModel.parseAirflow supply (profileMaxAirflow profile) with
    | error error => simp [hsupply, bind, Except.bind] at h
    | ok supplyAirflow =>
      have hrange : LevelInRange room supplyAirflow := levelInRange_parseAirflow hsupply
      -- The extract airflow is the supply airflow or read like it.
      have hboth (airflow : ℤ) (hairflow : LevelInRange room airflow) (mode : ℕ)
          (hmode : mode = modeManual ∨ mode = modeUnbalanced) :
          ∀ entry ∈ statusUpdates
            ⟨mode, (HalfEven.round (supplyAirflow * 200) (profileMaxAirflow profile)).toNat,
              (HalfEven.round (airflow * 200) (profileMaxAirflow profile)).toNat⟩
            (some (airflow, supplyAirflow)), IsWord entry := by
        have hword : mode ≤ 0xFFFF := by
          rcases hmode with rfl | rfl <;> simp [modeManual, modeUnbalanced]
        exact isWord_statusUpdates_some hword hrange.raw_le hairflow.raw_le hairflow.toWord
          hrange.toWord
      cases extract with
      | none =>
        simp only [hsupply, bind, Except.bind, pure, Except.pure, Except.ok.injEq] at h
        subst h
        exact hboth supplyAirflow hrange _ (ite_eq_or_eq _ _ _)
      | some text =>
        cases hextract : MockGatewayModel.parseAirflow text (profileMaxAirflow profile) with
        | error error => simp [hsupply, hextract, bind, Except.bind] at h
        | ok extractAirflow =>
          simp only [hsupply, hextract, bind, Except.bind, pure, Except.pure,
            Except.ok.injEq] at h
          subst h
          exact hboth extractAirflow (levelInRange_parseAirflow hextract) _ (ite_eq_or_eq _ _ _)

/-- Zeros that are overwritten with words are words. -/
theorem word_generated {ranges values : List (ℕ × ℕ)} (hranges : ∀ range ∈ ranges, range.2 ≤ 0xFFFF)
    (hvalues : ∀ entry ∈ values, IsWord entry) (register value : ℕ)
    (h : (Dict.update (Dict.update ∅ (zeroRegisters ranges)) values).lookup register = some value) :
    IsWord (register, value) := by
  have hempty : ∀ register value, (∅ : Registers).lookup register = some value →
      IsWord (register, value) := by
    intro register value hvalue
    rw [Finmap.lookup_empty] at hvalue
    cases hvalue
  exact Dict.forall_lookup_update
    (Dict.forall_lookup_update hempty (isWord_zeroRegisters hranges)) hvalues register value h

/-! ### New devices -/

theorem word_unitRegisters {profile : Profile} {code : ℕ} (hcode : code ≤ 0xFFFF)
    {register value : ℕ} (h : (unitRegisters profile code).lookup register = some value) :
    IsWord (register, value) := by
  unfold unitRegisters at h
  exact word_generated (by decide) (isWord_unitValues profile hcode) register value h

theorem word_gatewayRegisters {register value : ℕ}
    (h : gatewayRegisters.lookup register = some value) : IsWord (register, value) := by
  unfold gatewayRegisters at h
  exact word_generated (by decide) (by decide) register value h

/-- A new unit. -/
theorem sound_newMockUnit {address : ℕ} (h : 2 ≤ address ∧ address ≤ 16) (profile : Profile) :
    (newMockUnit address profile).Sound address where
  word register value hvalue := word_unitRegisters (by omega) hvalue
  refused register hregister := absurd hregister (Finset.notMem_empty _)
  pending due updates hpending := by cases hpending
  generated register hregister := hregister
  gateway hprofile := by cases hprofile
  unit _ := h

/-- The gateway of a new model. -/
theorem sound_newGateway : MockGatewayModel.newGateway.Sound gatewayAddress where
  word register value hvalue := word_gatewayRegisters hvalue
  refused register hregister := absurd hregister (Finset.notMem_empty _)
  pending due updates hpending := by cases hpending
  generated register hregister := hregister
  gateway _ := rfl
  unit hprofile := by cases hprofile

/-! ### The model -/

/-- A model as the calls leave it. -/
structure MockGatewayModel.Sound (s : MockGatewayModel) : Prop where
  devices : ∀ address device, s.devices.lookup address = some device → device.Sound address
  gateway : gatewayAddress ∈ s.devices
  nodup : s.paired.Nodup
  paired : ∀ address ∈ s.paired, 2 ≤ address ∧ address ≤ 16 ∧ address ∈ s.devices

namespace MockGatewayModel

variable {s t : MockGatewayModel} {address : ℕ} {device : MockDevice} {now : Monotonic}

/-! #### Looking up -/

@[simp] theorem lookup_setDevice (s : MockGatewayModel) (address : ℕ) (device : MockDevice) :
    (s.setDevice address device).devices.lookup address = some device :=
  Finmap.lookup_insert _

theorem lookup_setDevice_of_ne {other : ℕ} (h : other ≠ address) (s : MockGatewayModel)
    (device : MockDevice) :
    (s.setDevice address device).devices.lookup other = s.devices.lookup other :=
  Finmap.lookup_insert_of_ne _ h

theorem lookup_updateGateway_of_ne {other : ℕ} (h : other ≠ gatewayAddress)
    (s : MockGatewayModel) (entries : List (ℕ × ℕ)) :
    (s.updateGateway entries).devices.lookup other = s.devices.lookup other := by
  unfold MockGatewayModel.updateGateway
  split
  · exact lookup_setDevice_of_ne h s _
  · rfl

theorem lookup_updateGateway (h : s.devices.lookup gatewayAddress = some device)
    (entries : List (ℕ × ℕ)) :
    (s.updateGateway entries).devices.lookup gatewayAddress =
      some { device with registers := Dict.update device.registers entries } := by
  unfold MockGatewayModel.updateGateway
  rw [h]
  exact lookup_setDevice s _ _

/-- **Every device but the gateway** is as before, and the gateway has other registers. -/
theorem lookup_updateGateway_map (s : MockGatewayModel) (entries : List (ℕ × ℕ)) (address : ℕ) :
    (s.updateGateway entries).devices.lookup address = (s.devices.lookup address).map fun device =>
      if address = gatewayAddress then
        { device with registers := Dict.update device.registers entries }
      else device := by
  by_cases hgateway : address = gatewayAddress
  · subst hgateway
    cases hdevice : s.devices.lookup gatewayAddress with
    | none =>
      unfold MockGatewayModel.updateGateway
      rw [hdevice]
      exact hdevice
    | some device => simpa using lookup_updateGateway hdevice entries
  · rw [lookup_updateGateway_of_ne hgateway]
    simp [hgateway]

@[simp] theorem paired_updateGateway (s : MockGatewayModel) (entries : List (ℕ × ℕ)) :
    (s.updateGateway entries).paired = s.paired := by
  unfold MockGatewayModel.updateGateway
  split <;> rfl

theorem device_eq_ok : s.device address = .ok device ↔ s.devices.lookup address = some device := by
  unfold MockGatewayModel.device
  cases s.devices.lookup address <;> simp

/-- A unit that is found. -/
theorem unit_eq_ok {profile : Profile} : s.unit address = .ok (device, profile) ↔
    s.devices.lookup address = some device ∧ device.profile = some profile := by
  unfold MockGatewayModel.unit MockGatewayModel.device
  cases s.devices.lookup address with
  | none => simp [bind, Except.bind]
  | some found =>
    simp only [bind, Except.bind, Option.some.injEq]
    constructor
    · intro h
      split at h
      · rename_i hprofile
        simp only [pure, Except.pure, Except.ok.injEq, Prod.mk.injEq] at h
        obtain ⟨rfl, rfl⟩ := h
        exact ⟨rfl, hprofile⟩
      · cases h
    · rintro ⟨rfl, hprofile⟩
      rw [hprofile]
      rfl

/-! #### One device -/

/-- **A device is replaced by a sound one.** -/
theorem Sound.setDevice (h : s.Sound) (hdevice : device.Sound address) :
    (s.setDevice address device).Sound where
  devices other device' hlookup := by
    by_cases hother : other = address
    · subst hother
      rw [lookup_setDevice, Option.some.injEq] at hlookup
      subst hlookup
      exact hdevice
    · rw [lookup_setDevice_of_ne hother] at hlookup
      exact h.devices other device' hlookup
  gateway := Finmap.mem_insert.mpr (.inr h.gateway)
  nodup := h.nodup
  paired other hother := by
    obtain ⟨hlow, hhigh, hmem⟩ := h.paired other hother
    exact ⟨hlow, hhigh, Finmap.mem_insert.mpr (.inr hmem)⟩

theorem Sound.updateGateway (h : s.Sound) {entries : List (ℕ × ℕ)}
    (hentries : ∀ entry ∈ entries, IsWord entry) : (s.updateGateway entries).Sound := by
  unfold MockGatewayModel.updateGateway
  split
  · rename_i gateway hgateway
    exact h.setDevice ((h.devices _ _ hgateway).update hentries)
  · exact h

/-- The gateway lists the units. -/
theorem Sound.syncNodeList (h : s.Sound) : s.syncNodeList.Sound :=
  h.updateGateway (isWord_nodeList h.nodup fun address haddress => (h.paired address haddress).2.1)

/-- The paired units are others. -/
theorem Sound.withPaired (h : s.Sound) {paired : List ℕ} (hnodup : paired.Nodup)
    (hpaired : ∀ address ∈ paired, 2 ≤ address ∧ address ≤ 16 ∧ address ∈ s.devices) :
    { s with paired := paired }.Sound :=
  { h with nodup := hnodup, paired := hpaired }

/-! #### The calls -/

theorem Sound.addUnit (h : s.Sound) (haddress : 2 ≤ address ∧ address ≤ 16)
    (profile : Profile) : (s.addUnit address profile).Sound := by
  unfold MockGatewayModel.addUnit
  split
  · exact h
  · exact h.setDevice (sound_newMockUnit haddress profile)

theorem mem_addUnit (s : MockGatewayModel) (address : ℕ) (profile : Profile) :
    address ∈ (s.addUnit address profile).devices := by
  unfold MockGatewayModel.addUnit
  split
  · rename_i hknown
    obtain ⟨device, hdevice, -⟩ := (Option.any_eq_true _ _).mp hknown
    exact Finmap.mem_of_lookup_eq_some hdevice
  · exact Finmap.mem_insert.mpr (.inl rfl)

theorem Sound.listUnit (h : s.Sound) (haddress : 2 ≤ address ∧ address ≤ 16)
    (hmem : address ∈ s.devices) : (s.listUnit address).Sound := by
  unfold MockGatewayModel.listUnit
  split
  · exact h
  · rename_i hnew
    have hnodup : (s.paired ++ [address]).Nodup := by
      rw [List.nodup_append]
      refine ⟨h.nodup, List.nodup_singleton _, fun a ha b hb hab => ?_⟩
      rw [hab, List.mem_singleton.mp hb] at ha
      exact hnew ha
    refine h.withPaired hnodup fun other hother => ?_
    rcases List.mem_append.mp hother with hother | hother
    · exact h.paired other hother
    · obtain rfl := List.mem_singleton.mp hother
      exact ⟨haddress.1, haddress.2, hmem⟩

theorem Sound.pairUnit (h : s.Sound) (haddress : 2 ≤ address ∧ address ≤ 16)
    (profile : Profile) : (s.pairUnit address profile).Sound :=
  ((h.addUnit haddress profile).listUnit haddress (mem_addUnit s address profile)).syncNodeList

/-- **A unit is paired** if the address and the profile are valid. -/
theorem pair_eq_ok {address : ℤ} {profile : String} (h : s.pair address profile = .ok t) :
    ∃ (unit : ℕ) (found : Profile), (2 ≤ unit ∧ unit ≤ 16) ∧ t = s.pairUnit unit found := by
  unfold MockGatewayModel.pair validateUnitAddress at h
  split at h
  · cases hprofile : validateProfile profile with
    | error error => simp [hprofile, bind, Except.bind] at h
    | ok found =>
      simp only [hprofile, bind, Except.bind, pure, Except.pure, Except.ok.injEq] at h
      exact ⟨address.toNat, found, by omega, h.symm⟩
  · cases h

theorem Sound.pair (h : s.Sound) {address : ℤ} {profile : String}
    (hpair : s.pair address profile = .ok t) : t.Sound := by
  obtain ⟨unit, found, haddress, rfl⟩ := pair_eq_ok hpair
  exact h.pairUnit haddress found

theorem Sound.unpair (h : s.Sound) (hunpair : s.unpair address = .ok t) : t.Sound := by
  unfold MockGatewayModel.unpair at hunpair
  cases hunit : s.unit address with
  | error error => simp [hunit, bind, Except.bind] at hunpair
  | ok unit =>
    simp only [hunit, bind, Except.bind, pure, Except.pure, Except.ok.injEq] at hunpair
    subst hunpair
    exact (h.withPaired (h.nodup.erase address) fun other hother =>
      h.paired other (List.mem_of_mem_erase hother)).syncNodeList

/-- **A register is set** to a word. -/
theorem setRegister_eq_ok {register value : ℤ}
    (h : s.setRegister now address register value = .ok t) :
    ∃ device, s.devices.lookup address = some device ∧ IsWord (register.toNat, value.toNat) ∧
      t = s.setDevice address ((device.settle now).setValue register.toNat value.toNat) := by
  unfold MockGatewayModel.setRegister at h
  split at h
  · cases h
  · rename_i hrange
    cases hdevice : s.device address with
    | error error => simp [hdevice, bind, Except.bind] at h
    | ok device =>
      simp only [hdevice, bind, Except.bind, pure, Except.pure, Except.ok.injEq] at h
      exact ⟨device, device_eq_ok.mp hdevice, ⟨by dsimp only; omega, by dsimp only; omega⟩, h.symm⟩

theorem Sound.setRegister (h : s.Sound) {register value : ℤ}
    (hset : s.setRegister now address register value = .ok t) : t.Sound := by
  obtain ⟨device, hdevice, hword, rfl⟩ := setRegister_eq_ok hset
  exact h.setDevice (((h.devices _ _ hdevice).settle now).setValue hword)

theorem Sound.refuse (h : s.Sound) {first last : ℕ} (hlast : last ≤ 0xFFFF) {refused : Bool}
    (hrefuse : s.refuse address first last refused = .ok t) : t.Sound := by
  unfold MockGatewayModel.refuse at hrefuse
  cases hdevice : s.device address with
  | error error => simp [hdevice, bind, Except.bind] at hrefuse
  | ok device =>
    simp only [hdevice, bind, Except.bind, pure, Except.pure, Except.ok.injEq] at hrefuse
    subst hrefuse
    have hsound := h.devices _ _ (device_eq_ok.mp hdevice)
    refine h.setDevice { hsound with refused := fun register hregister => ?_ }
    split at hregister
    · rcases Finset.mem_union.mp hregister with hregister | hregister
      · exact hsound.refused register hregister
      · exact (Finset.mem_Icc.mp hregister).2.trans hlast
    · exact hsound.refused register (Finset.mem_sdiff.mp hregister).1

theorem Sound.write (h : s.Sound) {register value : ℕ} (hword : IsWord (register, value))
    {reply : Option ℕ} (hwrite : s.write now address register value = .ok (reply, t)) :
    t.Sound := by
  unfold MockGatewayModel.write at hwrite
  cases hdevice : s.device address with
  | error error => simp [hdevice, bind, Except.bind] at hwrite
  | ok device =>
    simp only [hdevice, bind, Except.bind, pure, Except.pure] at hwrite
    split at hwrite
    · cases hwrite
      exact h
    · cases hwrite
      have hwritten := (((h.devices _ _ (device_eq_ok.mp hdevice)).settle now).insert hword).written
        (if register ∈ setRegisters then
          insert register (device.settle now).written else (device.settle now).written)
      refine h.setDevice ?_
      split
      · exact hwritten.commit _ _
      · exact hwritten

/-- A change by the app, also one that raises, leaves the model sound. -/
theorem Sound.appChange (h : s.Sound) (supply : String) (extract : Option String) :
    (s.appChange address supply extract).2.Sound := by
  unfold MockGatewayModel.appChange
  split
  · exact h
  · rename_i device profile hunit
    have hdevice := (h.devices _ _ (unit_eq_ok.mp hunit).1).drop
    dsimp only
    split
    · exact h.setDevice hdevice
    · rename_i updates hupdates
      exact h.setDevice (hdevice.update (isWord_appUpdates hupdates))

/-- What a call that returns keeps, the model is left with. -/
theorem getD_of_ok {P : MockGatewayModel → Prop} {called : Except MockError MockGatewayModel}
    (h : P s) (hcalled : ∀ t, called = .ok t → P t) : P (called.toOption.getD s) := by
  cases called with
  | error error => exact h
  | ok t => exact hcalled t rfl

/-- **Every call keeps the model sound.** -/
theorem Sound.perform (h : s.Sound) (now : Monotonic) (call : MockCall) :
    (s.perform now call).Sound := by
  cases call with
  | write address register value =>
    have hregister := register.toNat_lt
    have hvalue := value.toNat_lt
    cases hwrite : s.write now address register.toNat value.toNat with
    | error error =>
      rw [MockGatewayModel.perform, hwrite]
      exact h
    | ok replied =>
      rw [MockGatewayModel.perform, hwrite]
      exact h.write ⟨by dsimp only; omega, by dsimp only; omega⟩ hwrite
  | setRegister address register value => exact getD_of_ok h fun t => h.setRegister
  | refuse address first last refused =>
    exact getD_of_ok h fun t => h.refuse (Nat.le_of_lt_succ last.toNat_lt)
  | pair address profile => exact getD_of_ok h fun t => h.pair
  | unpair address => exact getD_of_ok h fun t => h.unpair
  | appChange address supply extract => exact h.appChange supply extract

/-! #### New models -/

/-- The devices of a model that is constructed, before the gateway lists them: nothing is
refused, and nothing but the generated registers is there. -/
structure New (devices : Dict ℕ MockDevice) : Prop where
  gateway : devices.lookup gatewayAddress = some newGateway
  units : ∀ address device, devices.lookup address = some device → address ≠ gatewayAddress →
    (2 ≤ address ∧ address ≤ 16) ∧ ∃ profile, device = newMockUnit address profile

/-- A unit is constructed. -/
theorem newDevice_eq_ok {devices found : Dict ℕ MockDevice} {unit : ℤ × String}
    (h : newDevice devices unit = .ok found) : (2 ≤ unit.1 ∧ unit.1 ≤ 16) ∧
      ∃ profile, found = devices.insert unit.1.toNat (newMockUnit unit.1.toNat profile) := by
  unfold newDevice validateUnitAddress at h
  cases hprofile : validateProfile unit.2 with
  | error error => simp [hprofile, bind, Except.bind] at h
  | ok profile =>
    simp only [hprofile, bind, Except.bind, pure, Except.pure] at h
    split at h
    · cases h
    · rename_i haddress
      split at haddress
      · rename_i hrange
        cases haddress
        cases h
        exact ⟨hrange, profile, rfl⟩
      · cases haddress

theorem New.newDevice {devices found : Dict ℕ MockDevice} (h : New devices) {unit : ℤ × String}
    (hfound : newDevice devices unit = .ok found) : New found := by
  obtain ⟨hrange, profile, rfl⟩ := newDevice_eq_ok hfound
  have hne : gatewayAddress ≠ unit.1.toNat := by
    unfold gatewayAddress
    omega
  constructor
  · rw [Finmap.lookup_insert_of_ne _ hne]
    exact h.gateway
  · intro address device hlookup hgateway
    by_cases haddress : address = unit.1.toNat
    · subst haddress
      rw [Finmap.lookup_insert, Option.some.injEq] at hlookup
      exact ⟨by omega, profile, hlookup.symm⟩
    · rw [Finmap.lookup_insert_of_ne _ haddress] at hlookup
      exact h.units address device hlookup hgateway

/-- **The devices of a new model**, and that all the given units are among them. -/
theorem New.foldlM {units : List (ℤ × String)} {devices found : Dict ℕ MockDevice}
    (h : New devices) (hfound : units.foldlM MockGatewayModel.newDevice devices = .ok found) :
    New found ∧ (∀ address ∈ devices, address ∈ found) ∧
      ∀ unit ∈ units, (2 ≤ unit.1 ∧ unit.1 ≤ 16) ∧ unit.1.toNat ∈ found := by
  induction units generalizing devices with
  | nil =>
    cases hfound
    exact ⟨h, fun _ haddress => haddress, by simp⟩
  | cons unit units ih =>
    rw [List.foldlM_cons] at hfound
    cases hunit : MockGatewayModel.newDevice devices unit with
    | error error => simp [hunit, bind, Except.bind] at hfound
    | ok next =>
      rw [hunit] at hfound
      obtain ⟨hnew, hkept, hunits⟩ := ih (h.newDevice hunit) hfound
      obtain ⟨hrange, profile, rfl⟩ := newDevice_eq_ok hunit
      refine ⟨hnew, fun address haddress => hkept _ (Finmap.mem_insert.mpr (.inr haddress)), ?_⟩
      rw [List.forall_mem_cons]
      exact ⟨⟨hrange, hkept _ (Finmap.mem_insert.mpr (.inl rfl))⟩, hunits⟩

theorem new_singleton : New (Finmap.singleton gatewayAddress newGateway) where
  gateway := Finmap.lookup_singleton_eq
  units _ _ hlookup hne :=
    absurd ((Finmap.mem_singleton _ _ _).mp (Finmap.mem_of_lookup_eq_some hlookup)) hne

/-- **A new model** lists what is paired of the units it was given. -/
theorem Constructed.eq (h : s.Constructed) : ∃ t : MockGatewayModel, s = t.syncNodeList ∧
    New t.devices ∧ t.paired.Nodup ∧
      ∀ address ∈ t.paired, (2 ≤ address ∧ address ≤ 16) ∧ address ∈ t.devices := by
  obtain ⟨units, noUnits, settleSeconds, boot, h⟩ := h
  unfold MockGatewayModel.new at h
  cases hdevices : units.items.foldlM MockGatewayModel.newDevice
      (Finmap.singleton gatewayAddress newGateway) with
  | error error => simp [hdevices, bind, Except.bind] at h
  | ok devices =>
    simp only [hdevices, bind, Except.bind, pure, Except.pure, Except.ok.injEq] at h
    obtain ⟨hnew, -, hunits⟩ := new_singleton.foldlM hdevices
    refine ⟨_, h.symm, hnew, ?_, ?_⟩
    · split
      · exact List.nodup_nil
      · -- The addresses differ, and none of them is negative.
        have hmap : (units.items.map fun unit => unit.1.toNat) =
            (units.items.map Prod.fst).map Int.toNat := by
          rw [List.map_map]
          rfl
        dsimp only
        rw [hmap]
        refine (Dict.nodup_items units).map_on fun address haddress other hother heq => ?_
        obtain ⟨unit, hunit, rfl⟩ := List.mem_map.mp haddress
        obtain ⟨unit', hunit', rfl⟩ := List.mem_map.mp hother
        have := (hunits unit hunit).1
        have := (hunits unit' hunit').1
        omega
    · intro address haddress
      dsimp only at haddress
      split at haddress
      · cases haddress
      · obtain ⟨unit, hunit, rfl⟩ := List.mem_map.mp haddress
        obtain ⟨hrange, hmem⟩ := hunits unit hunit
        exact ⟨by omega, hmem⟩

theorem Constructed.sound (h : s.Constructed) : s.Sound := by
  obtain ⟨t, rfl, hnew, hnodup, hpaired⟩ := h.eq
  refine Sound.syncNodeList ⟨fun address device hlookup => ?_, ?_, hnodup, fun address haddress =>
    ⟨(hpaired address haddress).1.1, (hpaired address haddress).1.2, (hpaired address haddress).2⟩⟩
  · by_cases hgateway : address = gatewayAddress
    · subst hgateway
      rw [hnew.gateway, Option.some.injEq] at hlookup
      subst hlookup
      exact sound_newGateway
    · obtain ⟨hrange, profile, rfl⟩ := hnew.units address device hlookup hgateway
      exact sound_newMockUnit hrange profile
  · exact Finmap.mem_of_lookup_eq_some hnew.gateway

/-- **Whatever has been called**, the model is sound. -/
theorem Reached.sound (h : s.Reached) : s.Sound :=
  h.invariant (fun _ hs => hs.sound) fun s call t hs _ hstep => by
    cases hstep
    exact hs.perform call.1 call.2

end MockGatewayModel

end MeltemVentilation
