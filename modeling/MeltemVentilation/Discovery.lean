import MeltemVentilation.MockGateway.Server
import MeltemVentilation.RepairIssues

/-!
# Finding the units of the gateway

`discover_gateway_nodes` of `modbus_helpers.py` asks the gateway for its units in two reads: how
many there are, and that many of their addresses in one block. Between the two reads the gateway
goes on: a unit may be paired or unpaired, and others read and write. So the two answers may
belong to different lists, and nothing compares them.

It is proved here against the simulated gateway what is found then
(`discoverGatewayNodes_snapshot`): the first units of the list as it is at the second read, as many
as there were at the first one. So there is never a unit among them that is not paired at the
second read, and none is missing if the list has not grown in between. The gateway fills the block
with zeros behind the last unit, which are passed over, and a new unit is appended to the list;
on both of these the result rests. It needs that nobody sets or refuses the registers of the list
on the gateway itself (`LeavesList`), which only the console of the simulated gateway can do.

The repair issue for new units is raised from what a strict discovery finds. A read that fails is
an error then, and not an empty list, since an empty list would take the issue away together with
the user's choice to ignore it; so a check that ends in an error leaves the issue as it is, and
after any other one it shows what is new on the gateway (`check_shown`).
-/

namespace MeltemVentilation

/-! ### The discovery -/

/-- The errors of a read, as `_discovery_failed` tells them apart. -/
inductive LinkError where
  /-- `ModbusConnectionError`. -/
  | connection (text : String)
  /-- `ModbusTimeoutError`, and whether the unit is connected when it is raised. -/
  | timeout (connected : Bool) (text : String)
  | other (text : String)
deriving DecidableEq, Repr

/-- The text of an error. -/
def LinkError.text : LinkError → String
  | .connection text | .timeout _ text | .other text => text

/-- The link is down. -/
def LinkError.isLinkDown : LinkError → Bool
  | .connection _ => true
  | .timeout connected _ => !connected
  | .other _ => false

/-- The answer to a read of some registers from a first one on. -/
abbrev RegisterRead := ℕ → ℕ → Except LinkError (List ℕ)

/-- `async_read_node_count`. -/
def readNodeCount (read : RegisterRead) : Except LinkError ℕ := do
  let values ← read registerNumberOfNodes 1
  return values.headD 0

/-- `async_read_node_addresses`: one block. -/
def readNodeAddresses (read : RegisterRead) (count : ℕ) : Except LinkError (List ℕ) :=
  read registerNodeAddress1 count

/-- `_MAX_NODE_ADDRESSES`. -/
def maxNodeAddresses : ℕ := 32

/-- `DEFAULT_SCAN_SLAVE_START`. -/
def defaultScanSlaveStart : ℕ := 2

/-- `DEFAULT_SCAN_SLAVE_END`. -/
def defaultScanSlaveEnd : ℕ := 16

/-- `_discovery_failed`. -/
def discoveryFailed (port what : String) (strict : Bool) (error : LinkError) :
    Except GatewayError (List ℕ) :=
  if error.isLinkDown then
    .error ⟨true, s!"Could not open connection on {port}: {error.text}"⟩
  else if strict then
    .error ⟨false, s!"Could not read the {what} of the gateway: {error.text}"⟩
  else .ok []

/-- One round of the loop over the addresses. -/
def discoverAddress (start finish : ℕ) (discovered : List ℕ) (address : ℕ) : List ℕ :=
  if address = 0 ∨ address ∈ discovered then discovered
  else if start ≤ address ∧ address ≤ finish then discovered ++ [address]
  else discovered

/-- **`discover_gateway_nodes`**, with what the gateway answers at the first read and at the
second one. -/
def discoverGatewayNodes (first second : RegisterRead) (port : String) (start finish : ℕ)
    (strict : Bool) : Except GatewayError (List ℕ) :=
  match readNodeCount first with
  | .error error => discoveryFailed port "node count" strict error
  | .ok nodeCount =>
    if nodeCount = 0 then .ok []
    else
      match readNodeAddresses second (min maxNodeAddresses nodeCount) with
      | .error error => discoveryFailed port "node address list" strict error
      | .ok addresses => .ok (addresses.foldl (discoverAddress start finish) [])

/-- Addresses that are all different and in range are all found, in their order; zeros are passed
over. -/
theorem foldl_discoverAddress {start finish : ℕ} (hstart : 0 < start)
    (addresses discovered : List ℕ) (zeros : ℕ) (hnodup : (discovered ++ addresses).Nodup)
    (hrange : ∀ address ∈ addresses, start ≤ address ∧ address ≤ finish) :
    (addresses ++ List.replicate zeros 0).foldl (discoverAddress start finish) discovered =
      discovered ++ addresses := by
  induction addresses generalizing discovered with
  | nil =>
    rw [List.nil_append, List.append_nil]
    induction zeros with
    | zero => rfl
    | succ zeros ih =>
      rw [List.replicate_succ, List.foldl_cons, discoverAddress, if_pos (.inl rfl)]
      exact ih
  | cons address addresses ih =>
    obtain ⟨⟨hlow, hhigh⟩, hrest⟩ := List.forall_mem_cons.mp hrange
    have hnew : address ∉ discovered := fun hmem =>
      (List.nodup_append.mp hnodup).2.2 address hmem address List.mem_cons_self rfl
    have hstep : discoverAddress start finish discovered address = discovered ++ [address] := by
      rw [discoverAddress, if_neg (by rintro (h | h); exacts [by omega, hnew h]),
        if_pos ⟨hlow, hhigh⟩]
    rw [List.cons_append, List.foldl_cons, hstep,
      ih (discovered ++ [address]) (by simpa using hnodup) hrest, List.append_assoc,
      List.singleton_append]

/-! ### The gateway while it is used -/

/-- Somebody uses the simulated gateway. -/
inductive GatewayUse where
  | call (now : Monotonic) (call : MockCall)
  | read (warmingUp : Bool) (moment : Moment) (address register count : ℕ)

/-- The use leaves the list of the units on the gateway alone: it neither sets nor refuses its
registers. -/
def LeavesList : GatewayUse → Prop
  | .call _ (.setRegister address register _) =>
    ¬(address = gatewayAddress ∧ register.toNat ∈ nodeRegisters)
  | .call _ (.refuse address first last refused) =>
    ¬(address = gatewayAddress ∧ refused = true ∧
      ∃ register ∈ nodeRegisters, first.toNat ≤ register ∧ register ≤ last.toNat)
  | _ => True

/-- **The gateway shows a list of units**: the registers of the list hold it, they are not
refused, and no write is settling. -/
structure MockDevice.ShowsUnits (units : List ℕ) (gateway : MockDevice) : Prop where
  profile : gateway.profile = none
  ranges : gateway.readableRanges = gatewayReadableRanges
  pending : gateway.pending = none
  refused : ∀ register ∈ nodeRegisters, register ∉ gateway.refused
  lists : ∀ entry ∈ nodeList units, gateway.registers.lookup entry.1 = some entry.2

namespace MockGatewayModel

variable {s t : MockGatewayModel} {address : ℕ} {device gateway : MockDevice}

/-- What a use leaves, also where it raises. -/
def use (s : MockGatewayModel) : GatewayUse → MockGatewayModel
  | .call now call => s.perform now call
  | .read warmingUp moment address register count =>
    ((s.read warmingUp moment address register count).toOption.map (·.2)).getD s

/-- One use, as a step. -/
def useStep (s : MockGatewayModel) (use : GatewayUse) : Option MockGatewayModel :=
  some (s.use use)

/-- The answer of the gateway to a read, as its client takes it. -/
def answer (s : MockGatewayModel) (warmingUp : Bool) (moment : Moment) : RegisterRead :=
  fun register count =>
    match s.read warmingUp moment gatewayAddress register count with
    | .ok (.ok values, _) => .ok values
    | .ok (.error code, _) => .error (.other s!"Modbus exception {code}")
    | .error _ => .error (.timeout true "no response")

/-- The gateway shows the paired units. -/
structure ShowsPaired (s : MockGatewayModel) : Prop where
  sound : s.Sound
  gateway : ∃ gateway, s.devices.lookup gatewayAddress = some gateway ∧
    gateway.ShowsUnits s.paired

end MockGatewayModel

namespace MockDevice.ShowsUnits

variable {units : List ℕ} {gateway : MockDevice}

/-- Nothing settles on the gateway. -/
theorem settle_eq (h : gateway.ShowsUnits units) (now : Monotonic) :
    gateway.settle now = gateway := by
  rw [MockDevice.settle, h.pending]

/-- **Other registers change.** -/
theorem update (h : gateway.ShowsUnits units) {entries : List (ℕ × ℕ)}
    (hentries : ∀ entry ∈ entries, entry.1 ∉ nodeRegisters) :
    { gateway with registers := Dict.update gateway.registers entries }.ShowsUnits units where
  profile := h.profile
  ranges := h.ranges
  pending := h.pending
  refused := h.refused
  lists entry hentry := by
    have hmem : entry.1 ∈ nodeRegisters :=
      MockGatewayModel.keys_nodeList units ▸ List.mem_map_of_mem hentry
    rw [← h.lists entry hentry]
    refine Dict.lookup_update_of_notMem (fun hother => ?_) _
    obtain ⟨other, hother, heq⟩ := List.mem_map.mp hother
    exact hentries other hother (heq ▸ hmem)

/-- **The list is written again**, for other units. -/
theorem relist (h : gateway.ShowsUnits units) (units' : List ℕ) :
    { gateway with registers := Dict.update gateway.registers (nodeList units') }.ShowsUnits
      units' where
  profile := h.profile
  ranges := h.ranges
  pending := h.pending
  refused := h.refused
  lists entry hentry := by
    refine Dict.lookup_update_of_mem ?_ hentry _
    rw [MockGatewayModel.keys_nodeList]
    exact List.nodup_range'

/-- A register of the list can be read. -/
theorem readValues_eq (h : gateway.ShowsUnits units) (warmingUp : Bool) {registers : List ℕ}
    (hregisters : ∀ register ∈ registers, register ∈ nodeRegisters) :
    MockGatewayModel.readValues gateway warmingUp registers =
      .ok (registers.map fun register => gateway.value register 0) := by
  have hreadable : ∀ register ∈ nodeRegisters, inRanges register gatewayReadableRanges = true := by
    decide
  have hallowed : ¬(registers.any fun item =>
      item ∈ gateway.refused ∨ ¬gateway.readable item) = true := by
    rw [List.any_eq_true]
    rintro ⟨register, hregister, hbad⟩
    have hmem := hregisters register hregister
    rcases of_decide_eq_true hbad with hbad | hbad
    · exact h.refused register hmem hbad
    · exact hbad (by simp [MockDevice.readable, h.ranges, hreadable register hmem])
  unfold MockGatewayModel.readValues
  rw [if_neg hallowed, if_neg (by simp [h.profile]), if_neg (by simp [h.profile])]

/-- The count. -/
theorem value_count (h : gateway.ShowsUnits units) :
    gateway.value registerNumberOfNodes 0 = units.length := by
  rw [MockDevice.value, h.lists (registerNumberOfNodes, units.length) List.mem_cons_self]
  rfl

/-- One of the addresses. -/
theorem value_address (h : gateway.ShowsUnits units) {index : ℕ} (hindex : index < 16) :
    gateway.value (registerNodeAddress1 + index) 0 = units.getD index 0 := by
  rw [MockDevice.value, h.lists (registerNodeAddress1 + index, units.getD index 0)]
  · rfl
  · exact List.mem_cons_of_mem _ (List.mem_map.mpr ⟨index, List.mem_range.mpr hindex, rfl⟩)

end MockDevice.ShowsUnits

namespace MockGatewayModel

variable {s t : MockGatewayModel} {address : ℕ} {device gateway : MockDevice}

/-! #### What keeps the list -/

/-- **Another device is replaced.** -/
theorem ShowsPaired.setOther (h : s.ShowsPaired) (hother : address ≠ gatewayAddress)
    (hsound : (s.setDevice address device).Sound) : (s.setDevice address device).ShowsPaired := by
  obtain ⟨gateway, hgateway, hshows⟩ := h.gateway
  exact ⟨hsound, gateway, (lookup_setDevice_of_ne hother.symm s device).trans hgateway, hshows⟩

/-- The gateway is replaced by one that shows the same units. -/
theorem ShowsPaired.setGateway (h : s.ShowsPaired) (hdevice : device.Sound gatewayAddress)
    (hshows : device.ShowsUnits s.paired) : (s.setDevice gatewayAddress device).ShowsPaired :=
  ⟨h.sound.setDevice hdevice, device, lookup_setDevice s _ _, hshows⟩

/-- A known device that has a profile is not the gateway. -/
theorem ShowsPaired.ne_gateway (h : s.ShowsPaired)
    (hdevice : s.devices.lookup address = some device) (hprofile : device.profile.isSome) :
    address ≠ gatewayAddress := by
  rintro rfl
  obtain ⟨hlow, -⟩ := (h.sound.devices _ _ hdevice).unit hprofile
  exact absurd hlow (by decide)

/-- The clock of the gateway is refreshed. -/
theorem ShowsPaired.refreshGatewayClock (h : s.ShowsPaired) (now : Monotonic) (wallSeconds : ℤ) :
    (s.refreshGatewayClock now wallSeconds).ShowsPaired := by
  obtain ⟨gateway, hgateway, hshows⟩ := h.gateway
  have hclock : ∀ entry ∈ s.clockEntries now wallSeconds, entry.1 ∉ nodeRegisters := by
    have hapart : ∀ register ∈ clockRegisters, register ∉ nodeRegisters := by decide
    intro entry hentry
    exact hapart entry.1 (List.mem_map_of_mem (f := Prod.fst) hentry)
  refine ⟨h.sound.refreshGatewayClock now wallSeconds, _, lookup_updateGateway hgateway _, ?_⟩
  rw [MockGatewayModel.refreshGatewayClock, paired_updateGateway]
  exact hshows.update hclock

/-- **The list is synchronized** after the paired units have changed. -/
theorem ShowsPaired.sync (hsound : t.Sound)
    (hgateway : t.devices.lookup gatewayAddress = some gateway) {units : List ℕ}
    (hshows : gateway.ShowsUnits units) : t.syncNodeList.ShowsPaired := by
  refine ⟨hsound.syncNodeList, _, lookup_updateGateway hgateway _, ?_⟩
  rw [syncNodeList, paired_updateGateway]
  exact hshows.relist t.paired

theorem ShowsPaired.pairUnit (h : s.ShowsPaired) (haddress : 2 ≤ address ∧ address ≤ 16)
    (profile : Profile) : (s.pairUnit address profile).ShowsPaired := by
  obtain ⟨gateway, hgateway, hshows⟩ := h.gateway
  have hother : gatewayAddress ≠ address := by
    rintro rfl
    exact absurd haddress.1 (by decide)
  have hadded : (s.addUnit address profile).devices.lookup gatewayAddress = some gateway := by
    unfold MockGatewayModel.addUnit
    split
    · exact hgateway
    · rw [lookup_setDevice_of_ne hother]
      exact hgateway
  have hlisted : ((s.addUnit address profile).listUnit address).devices.lookup gatewayAddress =
      some gateway := by
    unfold MockGatewayModel.listUnit
    split <;> exact hadded
  exact .sync ((h.sound.addUnit haddress profile).listUnit haddress
    (mem_addUnit s address profile)) hlisted hshows

theorem ShowsPaired.unpair (h : s.ShowsPaired) (hunpair : s.unpair address = .ok t) :
    t.ShowsPaired := by
  obtain ⟨gateway, hgateway, hshows⟩ := h.gateway
  unfold MockGatewayModel.unpair at hunpair
  cases hunit : s.unit address with
  | error error => simp [hunit, bind, Except.bind] at hunpair
  | ok unit =>
    simp only [hunit, bind, Except.bind, pure, Except.pure, Except.ok.injEq] at hunpair
    subst hunpair
    have hsound := h.sound.withPaired (h.sound.nodup.erase address) fun other hother =>
      h.sound.paired other (List.mem_of_mem_erase hother)
    exact .sync hsound hgateway hshows

/-- A register is set, but none of the list. -/
theorem ShowsPaired.setRegister (h : s.ShowsPaired) {now : Monotonic} {register value : ℤ}
    (hleaves : ¬(address = gatewayAddress ∧ register.toNat ∈ nodeRegisters))
    (hset : s.setRegister now address register value = .ok t) : t.ShowsPaired := by
  have hsound := h.sound.setRegister hset
  obtain ⟨device, hdevice, hword, rfl⟩ := setRegister_eq_ok hset
  by_cases hgateway : address = gatewayAddress
  · subst hgateway
    obtain ⟨gateway, hfound, hshows⟩ := h.gateway
    obtain rfl := Option.some.inj (hdevice.symm.trans hfound)
    rw [hshows.settle_eq] at hsound ⊢
    have hapart : ∀ entry ∈ [(register.toNat, value.toNat)], entry.1 ∉ nodeRegisters :=
      List.forall_mem_singleton.mpr fun hmem => hleaves ⟨rfl, hmem⟩
    have hset' := hshows.update hapart
    exact h.setGateway (hsound.devices _ _ (lookup_setDevice s _ _)) { hset' with }
  · exact h.setOther hgateway hsound

/-- Registers are refused, but none of the list. -/
theorem ShowsPaired.refuse (h : s.ShowsPaired) {first last : ℕ} {refused : Bool}
    (hlast : last ≤ 0xFFFF)
    (hleaves : ¬(address = gatewayAddress ∧ refused = true ∧
      ∃ register ∈ nodeRegisters, first ≤ register ∧ register ≤ last))
    (hrefuse : s.refuse address first last refused = .ok t) : t.ShowsPaired := by
  have hsound := h.sound.refuse hlast hrefuse
  unfold MockGatewayModel.refuse at hrefuse
  cases hdevice : s.device address with
  | error error => simp [hdevice, bind, Except.bind] at hrefuse
  | ok device =>
    simp only [hdevice, bind, Except.bind, pure, Except.pure, Except.ok.injEq] at hrefuse
    subst hrefuse
    by_cases hgateway : address = gatewayAddress
    · subst hgateway
      obtain ⟨gateway, hfound, hshows⟩ := h.gateway
      obtain rfl := Option.some.inj ((device_eq_ok.mp hdevice).symm.trans hfound)
      refine h.setGateway (hsound.devices _ _ (lookup_setDevice s _ _))
        { hshows with refused := fun register hmem hrefused => ?_ }
      split at hrefused
      · rename_i htrue
        rcases Finset.mem_union.mp hrefused with hbefore | hnew
        · exact hshows.refused register hmem hbefore
        · exact hleaves ⟨rfl, htrue, register, hmem, Finset.mem_Icc.mp hnew⟩
      · exact hshows.refused register hmem (Finset.mem_sdiff.mp hrefused).1
    · exact h.setOther hgateway hsound

/-- The gateway itself takes no writes. -/
theorem ShowsPaired.write (h : s.ShowsPaired) {now : Monotonic} {register value : ℕ}
    (hword : IsWord (register, value)) {reply : Option ℕ}
    (hwrite : s.write now address register value = .ok (reply, t)) : t.ShowsPaired := by
  have hsound := h.sound.write hword hwrite
  unfold MockGatewayModel.write at hwrite
  cases hdevice : s.device address with
  | error error => simp [hdevice, bind, Except.bind] at hwrite
  | ok device =>
    simp only [hdevice, bind, Except.bind, pure, Except.pure] at hwrite
    split at hwrite
    · cases hwrite
      exact h
    · rename_i hallowed
      cases hwrite
      refine h.setOther (h.ne_gateway (device_eq_ok.mp hdevice) ?_) hsound
      cases hprofile : device.profile with
      | none => exact absurd (.inl (by simp [hprofile])) hallowed
      | some profile => rfl

theorem ShowsPaired.appChange (h : s.ShowsPaired) (supply : String) (extract : Option String) :
    (s.appChange address supply extract).2.ShowsPaired := by
  unfold MockGatewayModel.appChange
  split
  · exact h
  · rename_i device profile hunit
    obtain ⟨hlookup, hprofile⟩ := unit_eq_ok.mp hunit
    have hother := h.ne_gateway hlookup (by simp [hprofile])
    have hdevice := (h.sound.devices _ _ hlookup).drop
    dsimp only
    split
    · exact h.setOther hother (h.sound.setDevice hdevice)
    · rename_i updates hupdates
      exact h.setOther hother (h.sound.setDevice (hdevice.update (isWord_appUpdates hupdates)))

/-- **A read of any device**: the list is as before. -/
theorem ShowsPaired.read (h : s.ShowsPaired) {warmingUp : Bool} {moment : Moment}
    {register count : ℕ} {result : Except ℕ (List ℕ)}
    (hread : s.read warmingUp moment address register count = .ok (result, t)) :
    t.ShowsPaired := by
  unfold MockGatewayModel.read at hread
  split at hread
  · cases hread
    exact h
  cases hdevice : s.device address with
  | error error => simp [hdevice, bind, Except.bind] at hread
  | ok device =>
    simp only [hdevice, bind, Except.bind, pure, Except.pure] at hread
    set shown := if device.profile.isNone then
      s.refreshGatewayClock moment.now moment.wallSeconds else s with hshown
    have hkept : shown.ShowsPaired := by
      rw [hshown]
      split
      · exact h.refreshGatewayClock _ _
      · exact h
    cases hdevice' : shown.device address with
    | error error => simp [hdevice'] at hread
    | ok device' =>
      simp only [hdevice', Except.ok.injEq, Prod.mk.injEq] at hread
      obtain ⟨-, rfl⟩ := hread
      have hfound := device_eq_ok.mp hdevice'
      have hsettled := (hkept.sound.devices _ _ hfound).settle moment.now
      by_cases hgateway : address = gatewayAddress
      · subst hgateway
        obtain ⟨gateway, hlookup, hshows⟩ := hkept.gateway
        obtain rfl := Option.some.inj (hfound.symm.trans hlookup)
        rw [hshows.settle_eq] at hsettled ⊢
        exact hkept.setGateway hsettled hshows
      · exact hkept.setOther hgateway (hkept.sound.setDevice hsettled)

/-- **Every use that leaves the list alone** leaves the gateway showing the paired units. -/
theorem ShowsPaired.use (h : s.ShowsPaired) {use : GatewayUse} (hleaves : LeavesList use) :
    (s.use use).ShowsPaired := by
  cases use with
  | read warmingUp moment address register count =>
    unfold MockGatewayModel.use
    dsimp only
    cases hread : s.read warmingUp moment address register count with
    | error error => exact h
    | ok replied => exact h.read hread
  | call now call =>
    unfold MockGatewayModel.use MockGatewayModel.perform
    cases call with
    | write address register value =>
      have hregister := register.toNat_lt
      have hvalue := value.toNat_lt
      dsimp only
      cases hwrite : s.write now address register.toNat value.toNat with
      | error error => exact h
      | ok replied => exact h.write ⟨by dsimp only; omega, by dsimp only; omega⟩ hwrite
    | setRegister address register value =>
      exact getD_of_ok h fun t => h.setRegister hleaves
    | refuse address first last refused =>
      exact getD_of_ok h fun t =>
        h.refuse (Nat.le_of_lt_succ last.toNat_lt) hleaves
    | pair address profile =>
      refine getD_of_ok h fun t hpair => ?_
      obtain ⟨unit, found, haddress, rfl⟩ := pair_eq_ok hpair
      exact h.pairUnit haddress found
    | unpair address => exact getD_of_ok h fun t => h.unpair
    | appChange address supply extract => exact h.appChange supply extract

/-- **A new gateway shows its units.** -/
theorem Constructed.showsPaired (h : s.Constructed) : s.ShowsPaired := by
  have hsound := h.sound
  obtain ⟨t, rfl, hnew, -, -⟩ := h.eq
  refine ⟨hsound, _, lookup_updateGateway hnew.gateway _, ?_⟩
  rw [syncNodeList, paired_updateGateway]
  constructor
  · rfl
  · rfl
  · rfl
  · intro register _ hrefused
    cases hrefused
  · intro entry hentry
    refine Dict.lookup_update_of_mem ?_ hentry _
    rw [keys_nodeList]
    exact List.nodup_range'

/-! ### What is found -/

/-- There are few units. -/
theorem Sound.length_paired (h : s.Sound) : s.paired.length ≤ 15 := by
  have hsub : s.paired ⊆ List.range' 2 15 := by
    intro address haddress
    obtain ⟨hlow, hhigh, -⟩ := h.paired address haddress
    exact List.mem_range'_1.mpr ⟨hlow, by omega⟩
  exact (h.nodup.subperm hsub).length_le

/-- The answer to a read in the list. -/
theorem ShowsPaired.answer_eq (h : s.ShowsPaired) (warmingUp : Bool) (moment : Moment)
    (register count : ℕ) (hcount : 1 ≤ count ∧ count ≤ 125)
    (hregisters : ∀ item ∈ List.range' register count, item ∈ nodeRegisters) :
    ∃ gateway : MockDevice, gateway.ShowsUnits s.paired ∧
      s.answer warmingUp moment register count =
        .ok ((List.range' register count).map fun item => gateway.value item 0) := by
  obtain ⟨before, hbefore, hshows⟩ := h.gateway
  have hrange : ¬(¬(1 ≤ count ∧ count ≤ 125) ∨ register + count > 0x10000) := by
    have hlast := hregisters (register + (count - 1)) (List.mem_range'_1.mpr (by omega))
    rw [nodeRegisters, List.mem_range'_1] at hlast
    simp only [registerNumberOfNodes] at hlast
    omega
  obtain ⟨gateway, hgateway, hnow⟩ := (h.refreshGatewayClock moment.now moment.wallSeconds).gateway
  have hunits : (s.refreshGatewayClock moment.now moment.wallSeconds).paired = s.paired :=
    paired_updateGateway s _
  rw [hunits] at hnow
  refine ⟨gateway, hnow, ?_⟩
  have hread : s.read warmingUp moment gatewayAddress register count =
      .ok (readValues gateway warmingUp (List.range' register count),
        (s.refreshGatewayClock moment.now moment.wallSeconds).setDevice gatewayAddress
          gateway) := by
    unfold MockGatewayModel.read
    rw [if_neg hrange]
    simp only [device_eq_ok.mpr hbefore, bind, Except.bind, pure, Except.pure, hshows.profile,
      Option.isNone_none, if_true, device_eq_ok.mpr hgateway, hnow.settle_eq]
  rw [answer, hread, hnow.readValues_eq warmingUp hregisters]

/-- **The count is that of the paired units.** -/
theorem ShowsPaired.readNodeCount_eq (h : s.ShowsPaired) (warmingUp : Bool) (moment : Moment) :
    readNodeCount (s.answer warmingUp moment) = .ok s.paired.length := by
  obtain ⟨gateway, hshows, hanswer⟩ := h.answer_eq warmingUp moment registerNumberOfNodes 1
    (by omega) (by decide)
  rw [readNodeCount, hanswer]
  exact congrArg Except.ok hshows.value_count

/-- The first entries of a list, and zeros behind it. -/
theorem map_getD_range (units : List ℕ) (count : ℕ) :
    (List.range count).map (fun index => units.getD index 0) =
      units.take count ++ List.replicate (count - units.length) 0 := by
  induction count generalizing units with
  | zero => simp
  | succ count ih =>
    rw [List.range_succ_eq_map, List.map_cons, List.map_map]
    cases units with
    | nil =>
      have hrest := ih []
      simp only [List.take_nil, List.nil_append, List.length_nil, Nat.sub_zero] at hrest ⊢
      rw [List.replicate_succ, ← hrest]
      rfl
    | cons unit units =>
      have hrest := ih units
      rw [List.take_succ_cons, List.length_cons, Nat.add_sub_add_right, List.cons_append, ← hrest]
      rfl

/-- **The addresses are those of the first units**, and zeros. -/
theorem ShowsPaired.readNodeAddresses_eq (h : s.ShowsPaired) (warmingUp : Bool) (moment : Moment)
    {count : ℕ} (hcount : 1 ≤ count ∧ count ≤ 16) :
    readNodeAddresses (s.answer warmingUp moment) count =
      .ok (s.paired.take count ++ List.replicate (count - s.paired.length) 0) := by
  obtain ⟨gateway, hshows, hanswer⟩ := h.answer_eq warmingUp moment registerNodeAddress1 count
    (by omega) (by
      intro item hitem
      rw [List.mem_range'_1] at hitem
      rw [nodeRegisters, List.mem_range'_1]
      simp only [registerNodeAddress1, registerNumberOfNodes] at hitem ⊢
      omega)
  rw [readNodeAddresses, hanswer, ← map_getD_range, List.range'_eq_map_range, List.map_map]
  refine congrArg Except.ok (List.map_congr_left fun index hindex => ?_)
  exact hshows.value_address (lt_of_lt_of_le (List.mem_range.mp hindex) hcount.2)

/-- A read whose answer may be lost. -/
def disturbed (lost : Option LinkError) (read : RegisterRead) : RegisterRead :=
  match lost with
  | some error => fun _ _ => .error error
  | none => read

/-- The two reads of a discovery at two moments of the gateway, both of them shown. -/
theorem ShowsPaired.discover (hs : s.ShowsPaired) (ht : t.ShowsPaired)
    (warmingUp warmingUp' : Bool) (moment moment' : Moment) (port : String) (strict : Bool) :
    discoverGatewayNodes (s.answer warmingUp moment) (t.answer warmingUp' moment') port
      defaultScanSlaveStart defaultScanSlaveEnd strict = .ok (t.paired.take s.paired.length) := by
  unfold discoverGatewayNodes
  rw [hs.readNodeCount_eq]
  dsimp only
  split
  · rename_i hzero
    rw [hzero, List.take_zero]
  rename_i hcount
  have hfew := hs.sound.length_paired
  have hmin : min maxNodeAddresses s.paired.length = s.paired.length :=
    min_eq_right (hfew.trans (by decide))
  rw [hmin, ht.readNodeAddresses_eq warmingUp' moment' ⟨Nat.pos_of_ne_zero hcount, by omega⟩]
  dsimp only
  rw [foldl_discoverAddress (by decide)]
  · rfl
  · exact (List.take_sublist _ _).nodup ht.sound.nodup
  · intro address haddress
    obtain ⟨hlow, hhigh, -⟩ := ht.sound.paired address (List.mem_of_mem_take haddress)
    exact ⟨hlow, hhigh⟩

open Transition

/-- The models that uses of another one reach, in any order and at any times, which leave the list
of the units alone. -/
abbrev Used (init : MockGatewayModel → Prop) (s : MockGatewayModel) : Prop :=
  Reach useStep (fun _ use => LeavesList use) init s

theorem Used.showsPaired {init : MockGatewayModel → Prop} (hinit : ∀ s, init s → s.ShowsPaired)
    (h : Used init s) : s.ShowsPaired :=
  h.invariant hinit fun s use t hs hleaves hstep => by
    cases hstep
    exact hs.use hleaves

/-- A unit is paired that has not been paired. -/
theorem paired_perform_pair (s : MockGatewayModel) (now : Monotonic)
    (haddress : 2 ≤ address ∧ address ≤ 16) (profile : Profile) (hnew : address ∉ s.paired) :
    (s.perform now (.pair address profile.text)).paired = s.paired ++ [address] := by
  have hadded : (s.addUnit address profile).paired = s.paired := by
    unfold MockGatewayModel.addUnit
    split <;> rfl
  have hlisted : ((s.addUnit address profile).listUnit address).paired = s.paired ++ [address] := by
    rw [listUnit, hadded, if_neg hnew]
  rw [perform, pair_text s haddress profile]
  exact (paired_updateGateway _ _).trans hlisted

end MockGatewayModel

section Snapshot

open MockGatewayModel

variable {s t : MockGatewayModel}

/-- **A discovery finds units of one moment.** Whatever is done to the gateway before it and between
its two reads, as long as the registers of the list are left alone, the units that are found are
the first ones of those that are paired at the second read, as many as at the first read and in
their order. -/
theorem discoverGatewayNodes_snapshot (hs : Used Constructed s) (hst : Used (· = s) t)
    (warmingUp warmingUp' : Bool) (moment moment' : Moment) (port : String) (strict : Bool) :
    discoverGatewayNodes (s.answer warmingUp moment) (t.answer warmingUp' moment') port
      defaultScanSlaveStart defaultScanSlaveEnd strict = .ok (t.paired.take s.paired.length) := by
  have hbefore : s.ShowsPaired := hs.showsPaired fun _ h => h.showsPaired
  have hafter : t.ShowsPaired := hst.showsPaired fun u hu => by
    rw [hu]
    exact hbefore
  exact hbefore.discover hafter warmingUp warmingUp' moment moment' port strict

/-- A unit is paired before the first read, and another one between the reads. -/
theorem used_pair : ∃ s t : MockGatewayModel, Used Constructed s ∧ Used (· = s) t ∧
    s.paired = [4] ∧ t.paired = [4, 9] := by
  have hs : Used Constructed (blank.perform 0 (.pair 4 "ii_plain")) :=
    .next (.start constructed_blank) trivial (l := .call 0 (.pair 4 "ii_plain")) rfl
  have hpaired : (blank.perform 0 (.pair 4 "ii_plain")).paired = [4] :=
    paired_perform_pair blank 0 (by decide : 2 ≤ 4 ∧ 4 ≤ 16) .iiPlain List.not_mem_nil
  refine ⟨_, _, hs, .next (.start rfl) trivial (l := .call 0 (.pair 9 "ii_fc")) rfl, hpaired, ?_⟩
  have hnext := paired_perform_pair (blank.perform 0 (.pair 4 "ii_plain")) 0
    (by decide : 2 ≤ 9 ∧ 9 ≤ 16) .iiFc (by rw [hpaired]; decide)
  rw [hpaired] at hnext
  exact hnext

/-- Only the first one of them is found. -/
theorem discoverGatewayNodes_snapshot_pair : ∃ s t : MockGatewayModel, t.paired = [4, 9] ∧
    discoverGatewayNodes (s.answer false ⟨0, 0, false, false⟩) (t.answer false ⟨1, 0, false, false⟩)
      "COM1" defaultScanSlaveStart defaultScanSlaveEnd true = .ok [4] := by
  obtain ⟨s, t, hs, hst, hpaired, hpaired'⟩ := used_pair
  refine ⟨s, t, hpaired', ?_⟩
  rw [discoverGatewayNodes_snapshot hs hst, hpaired, hpaired']
  rfl

/-- What a strict discovery finds although answers may be lost. -/
theorem discoverGatewayNodes_disturbed (hs : s.ShowsPaired) (ht : t.ShowsPaired)
    {warmingUp warmingUp' : Bool} {moment moment' : Moment} {port : String}
    {lost lost' : Option LinkError} {units : List ℕ}
    (h : discoverGatewayNodes (disturbed lost (s.answer warmingUp moment))
      (disturbed lost' (t.answer warmingUp' moment')) port defaultScanSlaveStart
        defaultScanSlaveEnd true = .ok units) :
    units = t.paired.take s.paired.length := by
  have hdiscover := hs.discover ht warmingUp warmingUp' moment moment' port true
  have hfailed : ∀ what error, discoveryFailed port what true error ≠ .ok units := by
    intro what error
    unfold discoveryFailed
    split
    · simp
    · simp
  cases lost with
  | some error => exact absurd h (hfailed "node count" error)
  | none =>
    cases lost' with
    | none => exact Except.ok.inj (h.symm.trans hdiscover)
    | some error =>
      have hcount : readNodeCount (disturbed none (s.answer warmingUp moment)) =
          .ok s.paired.length := hs.readNodeCount_eq warmingUp moment
      unfold discoverGatewayNodes at h
      rw [hcount] at h
      dsimp only at h
      split at h
      · rename_i hzero
        rw [hzero, List.take_zero]
        exact (Except.ok.inj h).symm
      · exact absurd h (hfailed "node address list" error)

/-! ### The issue for new units -/

variable {Store : Type} {api : IssueApi Store} {entryId : String}

/-- `_gateway_units`: what a check finds updates the issue, and an error is only logged. -/
def RepairIssues.checkNewUnits (api : IssueApi Store) (entryId : String) (w : RepairIssues Store)
    (found : Except GatewayError (List ℕ)) : RepairIssues Store :=
  match found with
  | .ok units =>
    let (newUnits, r) := w.newUnits.update api entryId w.registry units (w.rooms.map (·.slave))
    { w with newUnits := newUnits, registry := r }
  | .error _ => w

/-- **After a check the issue shows what is new on the gateway, or is as before.** Whatever has
happened to the issues and to the gateway, before the check or during it, as long as the registers
of the list are left alone, and whichever of its answers are lost: a check that loses none does
not fail; one that ends in an error leaves the issues as they are, and after any other one the
issue is shown for exactly those units that are not configured, of the first ones that are paired
at its second read, as many as at its first one. -/
theorem check_shown (hapi : api.Documented) {w : RepairIssues Store × RepairRecord}
    (hw : RepairReach api entryId w) (hs : Used Constructed s) (hst : Used (· = s) t)
    (warmingUp warmingUp' : Bool) (moment moment' : Moment) (port : String)
    (lost lost' : Option LinkError) :
    let found := discoverGatewayNodes (disturbed lost (s.answer warmingUp moment))
      (disturbed lost' (t.answer warmingUp' moment')) port defaultScanSlaveStart
        defaultScanSlaveEnd true
    let after := w.1.checkNewUnits api entryId found
    (lost = none → lost' = none → found.isOk = true) ∧
      (found.isOk = false ∧ after = w.1 ∨
        shown (api.issue after.registry (newUnitsId entryId)) =
          newUnitsListing ((t.paired.take s.paired.length).toFinset \
            (w.1.rooms.map (·.slave)).toFinset)) := by
  intro found after
  have hbefore : s.ShowsPaired := hs.showsPaired fun _ h => h.showsPaired
  have hafter : t.ShowsPaired := hst.showsPaired fun u hu => by
    rw [hu]
    exact hbefore
  refine ⟨?_, ?_⟩
  · rintro rfl rfl
    simp only [found, disturbed]
    rw [hbefore.discover hafter]
    rfl
  · cases hfound : found with
    | error error => exact .inl ⟨rfl, by simp only [after, hfound, RepairIssues.checkNewUnits]⟩
    | ok units =>
      obtain rfl := discoverGatewayNodes_disturbed hbefore hafter hfound
      have hstep : RepairIssues.step api entryId w.1
          (.check (t.paired.take s.paired.length)) = some after := by
        simp only [after, hfound]
        rfl
      have hfollow := (issuesFollow_of_reach hapi hw).step hapi hstep
      exact .inr hfollow.lists.shown

/-- One of two units is found, and the issue, which was there for another one, is for it. -/
theorem check_shown_pair : ∃ w found, RepairReach dictIssues "entry" w ∧ w.2.units = {9} ∧
    found.isOk = true ∧
    shown (dictIssues.issue (w.1.checkNewUnits dictIssues "entry" found).registry
      (newUnitsId "entry")) = newUnitsListing {4} := by
  obtain ⟨s, t, hs, hst, hpaired, hpaired'⟩ := used_pair
  obtain ⟨w, hreach, hunits, hrooms⟩ : ∃ w, RepairReach dictIssues "entry" w ∧
      w.2.units = {9} ∧ w.1.rooms = [] :=
    ⟨_, .next (.start ⟨∅, [], fun _ => rfl, rfl⟩) trivial (l := .check [9]) rfl, rfl, rfl⟩
  obtain ⟨hanswered, hshown⟩ := check_shown documented_dictIssues hreach hs hst false false
    ⟨0, 0, false, false⟩ ⟨1, 0, false, false⟩ "COM1" none none
  have hok := hanswered rfl rfl
  refine ⟨w, _, hreach, hunits, hok, ?_⟩
  rcases hshown with ⟨hfailed, -⟩ | hshown
  · rw [hok] at hfailed
    cases hfailed
  · rw [hpaired, hpaired', hrooms] at hshown
    exact hshown

end Snapshot

end MeltemVentilation
