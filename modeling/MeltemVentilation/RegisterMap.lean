import MeltemVentilation.CumulativeDiagnostics
import MeltemVentilation.MockGatewaySteps

/-!
# Register maps

`to_register_map` and `apply_register_map` of `tools/_mock_model.py`: the registers of the
simulated gateway and its units as JSON, and a model that is loaded with them. A refused register
is dumped as `null`, whatever it holds; `null` is taken for a refusal when it is loaded, but not
with the set registers, where it stands for a register that a capture could not read.

What is dumped of one device is loaded into another one that has no other registers
(`mirrors_of_load`): the loader takes the registers one after the other, each of them once, and
each changes nothing but its own place (`Loaded.cons`).

Where a map is not accepted, what has been loaded before is not modelled: the model is given up.
-/

namespace MeltemVentilation

/-! ### JSON objects -/

/-- `get` with a default. -/
def field (entries : List (String × Json)) (key : String) (default : Json) : Json :=
  (entries.lookup key).getD default

/-- `bool`: nothing that is zero or empty is true. -/
def Json.truthy : Json → Bool
  | .null => false
  | .bool value => value
  | .int value => value ≠ 0
  | .float text => text ≠ "0.0" ∧ text ≠ "-0.0"
  | .str value => value ≠ ""
  | .arr items => !items.isEmpty
  | .obj entries => !entries.isEmpty

/-- Equality with `REGISTER_MAP_FORMAT`, which is 1: so are `true` and `1.0`. -/
def isRegisterMapFormat : Json → Bool
  | .int value => value = 1
  | .bool value => value
  | .float text => text = "1.0"
  | _ => false

/-! ### Dumping -/

/-- A value, or `null`. -/
def registerJson : Option ℕ → Json
  | some value => .int value
  | none => .null

/-- A register and its value, or `null`. -/
def registerEntry (entry : ℕ × Option ℕ) : String × Json :=
  (toString entry.1, registerJson entry.2)

/-- `values`: the registers in their order, with `null` for those that are refused. -/
def registerValues (device : MockDevice) : List (String × Json) :=
  (device.refused.sort (· ≤ ·)).foldl
    (fun result register => Tally.change (toString register) .null (fun _ => .null) result)
    (device.registers.items.map fun (register, value) => (toString register, .int value))

namespace MockGatewayModel

/-- A unit in the map. -/
def unitEntry (s : MockGatewayModel) (address : ℕ) (device : MockDevice) (profile : Profile) :
    String × Json :=
  (toString address, .obj [("profile", .str profile.text), ("paired", .bool (address ∈ s.paired)),
    ("registers", .obj (registerValues device))])

/-- **`to_register_map`**, which also refreshes the clock and lets what is due settle. -/
def toRegisterMap (s : MockGatewayModel) (now : Monotonic) (wallSeconds : ℤ) :
    List (String × Json) :=
  let s := s.refreshGatewayClock now wallSeconds
  let gateway := match s.devices.lookup gatewayAddress with
    | some gateway => registerValues (gateway.settle now)
    | none => []
  let units := s.devices.items.filterMap fun (address, device) =>
    device.profile.map fun profile => s.unitEntry address (device.settle now) profile
  [("format", .int 1), ("gateway", .obj [("registers", .obj gateway)]), ("units", .obj units)]

end MockGatewayModel

/-! ### Loading -/

/-- What `apply_register_map` raises. -/
inductive RegisterMapError where
  /-- `the capture is for unit …; add that unit with --units first`. -/
  | captureUnit (slave : Json)
  /-- `unknown register map format …; expected 1 or a capture_setting_family capture`. -/
  | format (format : Json)
  /-- `'gateway' must be an object`. -/
  | gateway
  /-- `'units' must be an object`. -/
  | units
  /-- `unit … must be an object`. -/
  | unitObject (key : String)
  /-- `the registers of address … must be an object`. -/
  | registers (address : ℕ)
  /-- `invalid register …`. -/
  | register (key : String)
  /-- `register … needs a value between 0 and 65535`. -/
  | value (key : String)
  /-- `unit … needs a profile`. -/
  | profile (key : String)
  /-- `unknown profile …; choose from …`, of what is not a text. -/
  | unknownProfile (profile : Json)
  /-- `invalid literal for int() with base 10: …`. -/
  | notAnInt (key : String)
  /-- What a call raises. -/
  | call (error : MockError)
  /-- `unit …: …`. -/
  | unit (key : String) (cause : RegisterMapError)

/-- A valid register of `_apply_values`, and its value unless it is `null`. -/
def MockDevice.load (device : MockDevice) (register : ℕ) : Option ℕ → MockDevice
  | none =>
    -- A set register that a capture could not read had not been written.
    if register ∈ setRegisters ∨ register = registerApply then device
    else { device with refused := insert register device.refused }
  | some value =>
    { device with refused := device.refused.erase register }.setValue register value

/-- One register of `_apply_values`. -/
def applyRegister (device : MockDevice) (entry : String × Json) :
    Except RegisterMapError MockDevice :=
  match parseInt entry.1 with
  | none => .error (.register entry.1)
  | some register =>
    if ¬(0 ≤ register ∧ register ≤ 0xFFFF) then .error (.register entry.1)
    else
      match entry.2 with
      | .null => .ok (device.load register.toNat none)
      | .int value =>
        if 0 ≤ value ∧ value ≤ 0xFFFF then .ok (device.load register.toNat (some value.toNat))
        else .error (.value entry.1)
      | _ => .error (.value entry.1)

namespace MockGatewayModel

variable (s : MockGatewayModel)

/-- `_apply_values`. -/
def applyValues (address : ℕ) : Json → Except RegisterMapError MockGatewayModel
  | .obj values => do
    let device ← (s.device address).mapError .call
    let device ← values.foldlM applyRegister device
    let s := s.setDevice address device
    -- The node list follows the paired units, not the map.
    return if address = gatewayAddress then s.syncNodeList else s
  | _ => .error (.registers address)

/-- The address of a unit in a map, which is paired with its profile. -/
def pairEntry (key : String) (fields : List (String × Json)) :
    Except RegisterMapError (ℕ × MockGatewayModel) := do
  let address ← match parseInt key with
    | some address => (validateUnitAddress address).mapError .call
    | none => throw (.notAnInt key)
  let known := (s.devices.lookup address).bind (·.profile)
  match field fields "profile" (known.elim .null fun profile => .str profile.text) with
  | .null => throw (.profile key)
  | .str profile => do
    let s ← (s.pair address profile).mapError .call
    return (address, s)
  | profile => throw (.unknownProfile profile)

/-- One unit of a map. -/
def applyUnit (entry : String × Json) : Except RegisterMapError MockGatewayModel :=
  match entry.2 with
  | .obj fields => do
    let (address, s) ← (s.pairEntry entry.1 fields).mapError (.unit entry.1)
    let s ← if (field fields "paired" (.bool true)).truthy then pure s
      else (s.unpair address).mapError .call
    s.applyValues address (field fields "registers" (.obj []))
  | _ => .error (.unitObject entry.1)

/-- **`apply_register_map`**, of a register map or of a capture for one unit. -/
def applyRegisterMap (data : List (String × Json)) : Except RegisterMapError MockGatewayModel :=
  if (data.lookup "metadata").isSome ∧ (data.lookup "values").isSome then
    match (field data "metadata" .null).get "slave" with
    | .int slave =>
      if 0 ≤ slave ∧ (s.devices.lookup slave.toNat).any (·.profile.isSome) then
        s.applyValues slave.toNat (field data "values" .null)
      else .error (.captureUnit (.int slave))
    | slave => .error (.captureUnit slave)
  else if !isRegisterMapFormat (field data "format" .null) then
    .error (.format (field data "format" .null))
  else
    match field data "gateway" (.obj []) with
    | .obj gateway => do
      let s ← s.applyValues gatewayAddress (field gateway "registers" (.obj []))
      match field data "units" (.obj []) with
      | .obj units => units.foldlM applyUnit s
      | _ => throw .units
    | _ => .error .gateway

end MockGatewayModel

/-! ### What is reproduced -/

/-- `_refresh_gateway_clock` changes them. -/
def clockRegisters : List ℕ :=
  [registerUptime, registerUptime + 1, registerUtcClock, registerUtcClock + 1]

/-- `_sync_node_list` changes them. -/
def nodeRegisters : List ℕ := List.range' registerNumberOfNodes 17

/-- The registers whose refusal is not loaded. -/
def unrefusable : List ℕ := registerApply :: setRegisters

namespace MockGatewayModel

/-- The value of a register. -/
def holds (s : MockGatewayModel) (address register : ℕ) : Option ℕ :=
  (s.devices.lookup address).bind (·.registers.lookup register)

/-- A register is refused. -/
def Refuses (s : MockGatewayModel) (address register : ℕ) : Prop :=
  ∃ device, s.devices.lookup address = some device ∧ register ∈ device.refused

/-- **A model is reproduced by another**: the same units are paired, the same registers are
refused, except for the registers `unrefusable`, and those that are not refused hold the same
values, except for the registers `own` of the gateway. -/
structure Reproduces (unrefusable own : List ℕ) (s t : MockGatewayModel) : Prop where
  paired : ∀ address, address ∈ t.paired ↔ address ∈ s.paired
  refused : ∀ address, ∀ register ∉ unrefusable,
    t.Refuses address register ↔ s.Refuses address register
  values : ∀ address register, ¬s.Refuses address register →
    ¬(address = gatewayAddress ∧ register ∈ own) →
    t.holds address register = s.holds address register

/-- The gateway lists the paired units. -/
def Listed (s : MockGatewayModel) : Prop :=
  ∀ entry ∈ nodeList s.paired, s.holds gatewayAddress entry.1 = some entry.2

end MockGatewayModel

/-! ### The registers of one device -/

/-- A register and its value, if any, are words. -/
def IsWordEntry (entry : ℕ × Option ℕ) : Prop :=
  entry.1 ≤ 0xFFFF ∧ ∀ value, entry.2 = some value → value ≤ 0xFFFF

/-- **What is dumped is loaded.** -/
theorem applyRegister_registerEntry {entry : ℕ × Option ℕ} (h : IsWordEntry entry)
    (device : MockDevice) :
    applyRegister device (registerEntry entry) = .ok (device.load entry.1 entry.2) := by
  obtain ⟨register, value⟩ := entry
  have hregister : register ≤ 0xFFFF := h.1
  unfold applyRegister registerEntry
  dsimp only
  rw [parseInt_toString]
  dsimp only
  rw [if_neg (not_not_intro ⟨by omega, by omega⟩)]
  cases value with
  | none => rfl
  | some value =>
    have : value ≤ 0xFFFF := h.2 value rfl
    dsimp only [registerJson]
    rw [if_pos ⟨by omega, by omega⟩]
    rfl

/-- What loading registers makes of a device. -/
structure Loaded (entries : List (ℕ × Option ℕ)) (before after : MockDevice) : Prop where
  profile : after.profile = before.profile
  value : ∀ register value, (register, some value) ∈ entries →
    after.registers.lookup register = some value ∧ register ∉ after.refused
  null : ∀ register, (register, none) ∈ entries →
    after.registers.lookup register = before.registers.lookup register ∧
      (register ∈ after.refused ↔ register ∈ before.refused ∨ register ∉ unrefusable)
  other : ∀ register ∉ entries.map Prod.fst,
    after.registers.lookup register = before.registers.lookup register ∧
      (register ∈ after.refused ↔ register ∈ before.refused)

/-- Nothing is loaded. -/
theorem loaded_nil (device : MockDevice) : Loaded [] device device where
  profile := rfl
  value _ _ h := by cases h
  null _ h := by cases h
  other _ _ := ⟨rfl, Iff.rfl⟩

@[simp] theorem MockDevice.load_profile (device : MockDevice) (register : ℕ) (value : Option ℕ) :
    (device.load register value).profile = device.profile := by
  cases value with
  | none =>
    unfold MockDevice.load
    dsimp only
    split <;> rfl
  | some value => rfl

/-- A register that is loaded with `null` keeps its value, and is refused if it may be. -/
theorem MockDevice.load_none (device : MockDevice) (register : ℕ) :
    (device.load register none).registers = device.registers ∧
      (register ∈ (device.load register none).refused ↔
        register ∈ device.refused ∨ register ∉ unrefusable) := by
  have hspecial : register ∈ unrefusable ↔ register ∈ setRegisters ∨ register = registerApply :=
    List.mem_cons.trans or_comm
  unfold MockDevice.load
  dsimp only
  split
  · rename_i h
    exact ⟨rfl, (or_iff_left (not_not_intro (hspecial.mpr h))).symm⟩
  · rename_i h
    exact ⟨rfl, iff_of_true (Finset.mem_insert_self _ _) (.inr fun hmem => h (hspecial.mp hmem))⟩

/-- A register changes only its own place. -/
theorem MockDevice.load_other {register other : ℕ} (h : other ≠ register) (device : MockDevice)
    (value : Option ℕ) :
    (device.load register value).registers.lookup other = device.registers.lookup other ∧
      (other ∈ (device.load register value).refused ↔ other ∈ device.refused) := by
  cases value with
  | none =>
    unfold MockDevice.load
    dsimp only
    split
    · exact ⟨rfl, Iff.rfl⟩
    · exact ⟨rfl, by simp [h]⟩
  | some value => exact ⟨Finmap.lookup_insert_of_ne _ h, by simp [load, setValue, h]⟩

/-- **One register is loaded after the other**, each of them once. -/
theorem Loaded.cons {entry : ℕ × Option ℕ} {entries : List (ℕ × Option ℕ)}
    {before after : MockDevice} (hnew : entry.1 ∉ entries.map Prod.fst)
    (h : Loaded entries (before.load entry.1 entry.2) after) :
    Loaded (entry :: entries) before after := by
  obtain ⟨hlookup, hrefused⟩ := h.other entry.1 hnew
  have hrest {register : ℕ} {value : Option ℕ} (hmem : (register, value) ∈ entries) :
      register ≠ entry.1 := fun heq => hnew (heq ▸ List.mem_map_of_mem (f := Prod.fst) hmem)
  constructor
  · rw [h.profile, MockDevice.load_profile]
  · intro register value hmem
    rcases List.mem_cons.mp hmem with rfl | hmem
    · rw [hlookup, hrefused]
      exact ⟨Finmap.lookup_insert _, by simp [MockDevice.load, MockDevice.setValue]⟩
    · exact h.value register value hmem
  · intro register hmem
    rcases List.mem_cons.mp hmem with rfl | hmem
    · rw [hlookup, hrefused]
      obtain ⟨hregisters, hnull⟩ := before.load_none register
      exact ⟨congrArg _ hregisters, hnull⟩
    · obtain ⟨hother, hother'⟩ := MockDevice.load_other (hrest hmem) before entry.2
      rw [← hother, ← hother']
      exact h.null register hmem
  · intro register hregister
    rw [List.map_cons, List.mem_cons, not_or] at hregister
    obtain ⟨hother, hother'⟩ := MockDevice.load_other hregister.1 before entry.2
    rw [← hother, ← hother']
    exact h.other register hregister.2

/-- **The registers of a device are loaded.** -/
theorem foldlM_applyRegister {entries : List (ℕ × Option ℕ)}
    (hnodup : (entries.map Prod.fst).Nodup) (hwords : ∀ entry ∈ entries, IsWordEntry entry)
    (device : MockDevice) :
    ∃ loaded, (entries.map registerEntry).foldlM applyRegister device = .ok loaded ∧
      Loaded entries device loaded := by
  induction entries generalizing device with
  | nil => exact ⟨device, rfl, loaded_nil device⟩
  | cons entry entries ih =>
    obtain ⟨hnew, hnodup⟩ := List.nodup_cons.mp hnodup
    obtain ⟨hword, hwords⟩ := List.forall_mem_cons.mp hwords
    obtain ⟨loaded, hfold, hloaded⟩ := ih hnodup hwords (device.load entry.1 entry.2)
    refine ⟨loaded, ?_, hloaded.cons hnew⟩
    rw [List.map_cons, List.foldlM_cons, applyRegister_registerEntry hword]
    exact hfold

/-- What is dumped of a device: its registers, without the values of those that are refused. -/
def shownRegisters (device : MockDevice) : List (ℕ × Option ℕ) :=
  (device.refused.sort (· ≤ ·)).foldl
    (fun result register => Tally.change register none (fun _ => none) result)
    (device.registers.items.map fun (register, value) => (register, some value))

theorem toString_injective : Function.Injective (toString : ℕ → String) := by
  intro m n h
  have hparsed := congrArg parseInt h
  rw [parseInt_toString, parseInt_toString] at hparsed
  exact Int.ofNat_inj.mp (Option.some.inj hparsed)

theorem registerValues_eq (device : MockDevice) :
    registerValues device = (shownRegisters device).map registerEntry := by
  have hfold : ∀ (refused : List ℕ) (shown : List (ℕ × Option ℕ)),
      refused.foldl
          (fun result register => Tally.change (toString register) .null (fun _ => .null) result)
          (shown.map registerEntry) =
        (refused.foldl
          (fun result register => Tally.change register none (fun _ => none) result)
          shown).map registerEntry := by
    intro refused
    induction refused with
    | nil => exact fun _ => rfl
    | cons register refused ih =>
      intro shown
      have hchange : (Tally.change register none (fun _ => none) shown).map registerEntry =
          Tally.change (toString register) .null (fun _ => .null) (shown.map registerEntry) :=
        Tally.map_change (h := registerJson) toString_injective (fun _ => rfl) shown
      rw [List.foldl_cons, List.foldl_cons, ← ih, hchange]
  unfold registerValues shownRegisters
  rw [← hfold, List.map_map]
  rfl

/-- **What is dumped of a device**: `null` for what is refused, and the other values. -/
theorem mem_shownRegisters (device : MockDevice) :
    ((shownRegisters device).map Prod.fst).Nodup ∧
      ∀ entry, entry ∈ shownRegisters device ↔
        if entry.1 ∈ device.refused then entry.2 = none
        else ∃ value, entry.2 = some value ∧
          device.registers.lookup entry.1 = some value := by
  -- The refused registers are laid over the values, one by one.
  have hfold : ∀ (refused : List ℕ) (shown : List (ℕ × Option ℕ)), (shown.map Prod.fst).Nodup →
      ((refused.foldl (fun result register => Tally.change register none (fun _ => none) result)
          shown).map Prod.fst).Nodup ∧
        ∀ entry, entry ∈ refused.foldl
            (fun result register => Tally.change register none (fun _ => none) result) shown ↔
          if entry.1 ∈ refused then entry.2 = none else entry ∈ shown := by
    intro refused
    induction refused with
    | nil => exact fun shown hshown => ⟨hshown, fun entry => by simp⟩
    | cons register refused ih =>
      intro shown hshown
      rw [List.foldl_cons]
      obtain ⟨hnodup, hmem⟩ := ih _ (Tally.nodup_change hshown)
      refine ⟨hnodup, fun entry => (hmem entry).trans ?_⟩
      rw [Tally.mem_change_const hshown]
      by_cases hrefused : entry.1 ∈ refused
      · simp [hrefused]
      · by_cases hregister : entry.1 = register <;> simp [hrefused, hregister]
  have hitems : ((device.registers.items.map fun (register, value) =>
      (register, some value)).map Prod.fst).Nodup := by
    rw [List.map_map]
    exact Dict.nodup_items device.registers
  obtain ⟨hnodup, hmem⟩ := hfold (device.refused.sort (· ≤ ·)) _ hitems
  refine ⟨hnodup, fun entry => (hmem entry).trans ?_⟩
  by_cases hregister : entry.1 ∈ device.refused
  · rw [if_pos ((Finset.mem_sort _).mpr hregister), if_pos hregister]
  · rw [if_neg fun hsorted => hregister ((Finset.mem_sort _).mp hsorted), if_neg hregister,
      List.mem_map]
    obtain ⟨register, value⟩ := entry
    simp only [Prod.mk.injEq]
    constructor
    · rintro ⟨⟨register', value'⟩, hitem, rfl, rfl⟩
      exact ⟨value', rfl, Dict.mem_items.mp hitem⟩
    · rintro ⟨value', rfl, hlookup⟩
      exact ⟨(register, value'), Dict.mem_items.mpr hlookup, rfl, rfl⟩

/-- A device is mirrored by another one, which refuses the same registers, but for those whose
refusal is not loaded, and holds the same values in what is not refused. Registers that have
values of their own are set apart. -/
structure Mirrors (own : List ℕ) (device loaded : MockDevice) : Prop where
  profile : loaded.profile = device.profile
  refused : ∀ register,
    register ∈ loaded.refused ↔ register ∈ device.refused ∧ register ∉ unrefusable
  value : ∀ register ∉ device.refused, register ∉ own →
    loaded.registers.lookup register = device.registers.lookup register

/-- What is set apart may be updated. -/
theorem Mirrors.update {own : List ℕ} {device loaded : MockDevice} (h : Mirrors own device loaded)
    {entries : List (ℕ × ℕ)} (hentries : ∀ register ∈ entries.map Prod.fst, register ∈ own) :
    Mirrors own device
      { loaded with registers := Dict.update loaded.registers entries } where
  profile := h.profile
  refused := h.refused
  value register hregister hown :=
    (Dict.lookup_update_of_notMem (fun hmem => hown (hentries register hmem)) _).trans
      (h.value register hregister hown)

/-- **A device is loaded with what has been dumped of another one**, which has its registers. -/
theorem mirrors_of_load {address : ℕ} {device new : MockDevice} (h : device.Sound address)
    (hprofile : new.profile = device.profile) (hrefused : new.refused = ∅)
    (hregisters : ∀ register ∈ new.registers, register ∈ device.registers) :
    ∃ loaded, (registerValues device).foldlM applyRegister new = .ok loaded ∧
      Mirrors [] device loaded := by
  obtain ⟨hnodup, hmem⟩ := mem_shownRegisters device
  -- What the dump shows is a refused register or a word, and so an entry the loader takes.
  have hwords : ∀ entry ∈ shownRegisters device, IsWordEntry entry := by
    intro entry hentry
    have hshown := (hmem entry).mp hentry
    split at hshown
    · rename_i hregister
      exact ⟨h.refused _ hregister, fun value hvalue => by rw [hshown] at hvalue; cases hvalue⟩
    · obtain ⟨value, hvalue, hlookup⟩ := hshown
      obtain ⟨hregister, hword⟩ := h.word _ _ hlookup
      refine ⟨hregister, fun value' hvalue' => ?_⟩
      rw [hvalue, Option.some.injEq] at hvalue'
      exact hvalue' ▸ hword
  obtain ⟨loaded, hfold, hloaded⟩ := foldlM_applyRegister hnodup hwords new
  refine ⟨loaded, by rw [registerValues_eq]; exact hfold, hloaded.profile.trans hprofile, ?_, ?_⟩
  · intro register
    have hnone : register ∉ new.refused := by
      rw [hrefused]
      exact Finset.notMem_empty _
    -- Nothing was refused before the load, so what is refused after it was shown as null.
    by_cases hdevice : register ∈ device.refused
    · have hshown : (register, none) ∈ shownRegisters device := by
        rw [hmem, if_pos hdevice]
      rw [(hloaded.null register hshown).2, or_iff_right hnone, and_iff_right hdevice]
    · refine iff_of_false (fun hmem' => ?_) fun hmem' => hdevice hmem'.1
      by_cases hshown : register ∈ (shownRegisters device).map Prod.fst
      · obtain ⟨⟨register, value⟩, hentry, rfl⟩ := List.mem_map.mp hshown
        have hvalue := (hmem _).mp hentry
        rw [if_neg hdevice] at hvalue
        obtain ⟨value', rfl, -⟩ := hvalue
        exact (hloaded.value _ _ hentry).2 hmem'
      · exact hnone ((hloaded.other register hshown).2.mp hmem')
  · intro register hregister _
    cases hlookup : device.registers.lookup register with
    | some value =>
      refine (hloaded.value register value ((hmem _).mpr ?_)).1
      rw [if_neg hregister]
      exact ⟨value, rfl, hlookup⟩
    | none =>
      have hshown : register ∉ (shownRegisters device).map Prod.fst := by
        intro hshown
        obtain ⟨entry, hentry, rfl⟩ := List.mem_map.mp hshown
        have hvalue := (hmem _).mp hentry
        rw [if_neg hregister, hlookup] at hvalue
        obtain ⟨value, -, hvalue⟩ := hvalue
        cases hvalue
      rw [(hloaded.other register hshown).1, Finmap.lookup_eq_none]
      exact fun hnew => Finmap.lookup_eq_none.mp hlookup (hregisters register hnew)

end MeltemVentilation
