import MeltemVentilation.RegisterMapRoundTrip
import MeltemVentilation.MockGateway.Frames

/-!
# The server of the simulated gateway

`RtuTcpMockGateway` of `tools/mock_gateway.py` as its clients see it: a stream of bytes comes
in, a stream of bytes goes out. `handleClient` reads requests of eight bytes as they come, has
the simulated gateway carry them out (`respond`) and writes what the scripted faults leave of
the replies (`distort`). A reply with the fault `late` is held back and sent just before the next
one.

Two things are proved about the stream. **The server refines the simulated gateway**
(`rtuServer_refines`): whatever requests are sent one after the other, they are all carried out,
each once and in order, and what has been written, followed by what is still held back, is the
replies in that order; none is lost, doubled or overtaken. And **a disturbed request is not
carried out** (`rtuServer_discards`): a request of which at most sixteen bits in a row, or an odd
number of bits, have changed ends the connection, and neither it nor what comes after it is seen
by the simulated gateway.

Of the source are left out the delays of the replies, the limit to one client and what is
printed. What a random number or a clock says when a request arrives is a `Moment`.
-/

namespace MeltemVentilation

/-! ### Reading registers -/

/-- What the clocks and the random numbers say when a request is carried out. -/
structure Moment where
  now : Monotonic
  wallSeconds : ℤ
  /-- The random number is below the drop rate. -/
  dropped : Bool := false
  /-- The random number is below the corrupt rate. -/
  corrupted : Bool := false

/-- `WARMUP_ACKNOWLEDGE_RANGES`. -/
def warmupAcknowledgeRanges : List (ℕ × ℕ) := [(41000, 41006), (41009, 41011), (41016, 41021)]

/-- `ILLEGAL_DATA_ADDRESS`. -/
def illegalDataAddress : ℕ := 2

/-- `ILLEGAL_DATA_VALUE`. -/
def illegalDataValue : ℕ := 3

/-- `ACKNOWLEDGE`. -/
def acknowledge : ℕ := 5

namespace MockGatewayModel

/-- What a device answers to a read: the values, or the code of the exception. -/
def readValues (device : MockDevice) (warmingUp : Bool) (registers : List ℕ) :
    Except ℕ (List ℕ) :=
  if registers.any fun item => item ∈ device.refused ∨ ¬device.readable item then
    .error illegalDataAddress
  else if device.profile.isSome ∧
      registers.any fun item => item ∈ setRegisters ∧ item ∉ device.written then
    .error acknowledge
  else if device.profile.isSome ∧ warmingUp ∧
      registers.any fun item => inRanges item warmupAcknowledgeRanges then
    .error acknowledge
  else .ok (registers.map fun item => device.value item 0)

/-- `read`. The gateway shows its clock, and a write of the device may settle. -/
def read (s : MockGatewayModel) (warmingUp : Bool) (moment : Moment)
    (address register count : ℕ) :
    Except MockError (Except ℕ (List ℕ) × MockGatewayModel) := do
  if ¬(1 ≤ count ∧ count ≤ 125) ∨ register + count > 0x10000 then
    return (.error illegalDataValue, s)
  let device ← s.device address
  let s := if device.profile.isNone then s.refreshGatewayClock moment.now moment.wallSeconds else s
  let device ← s.device address
  let device := device.settle moment.now
  return (readValues device warmingUp (List.range' register count), s.setDevice address device)

end MockGatewayModel

/-! ### Faults -/

/-- `FAULT_ACTIONS`. -/
inductive FaultAction where
  | timeout
  | lostReply
  | illegalAddress
  | ack
  | busy
  | gatewayPath
  | gatewayTarget
  | badCrc
  | short
  | wrongUnit
  | wrongFunction
  | wrongLength
  | wrongAddress
  | wrongValue
  | fragmented
  | late
  deriving DecidableEq, Repr

/-- `EXCEPTION_FAULTS`. -/
def FaultAction.exceptionCode : FaultAction → Option UInt8
  | .illegalAddress => some 0x02
  | .ack => some 0x05
  | .busy => some 0x06
  | .gatewayPath => some 0x0A
  | .gatewayTarget => some 0x0B
  | _ => none

/-- `_Fault`: the next replies of an address, or of any, are broken. -/
structure Fault where
  address : Option ℕ
  action : FaultAction
  remaining : ℕ

/-- The first fault for an address, and the faults that are left. -/
def takeScripted (address : ℕ) : List Fault → Option (FaultAction × List Fault)
  | [] => none
  | fault :: faults =>
    if fault.address = none ∨ fault.address = some address then
      some (fault.action,
        if fault.remaining - 1 = 0 then faults
        else { fault with remaining := fault.remaining - 1 } :: faults)
    else (takeScripted address faults).map fun (action, faults) => (action, fault :: faults)

/-! ### Requests and replies -/

/-- A request of eight bytes that the server carries out. -/
structure RtuRequest where
  unit : UInt8
  function : UInt8
  address : UInt16
  value : UInt16
  served : function = 3 ∨ function = 6

namespace RtuRequest

/-- The bytes before the check. -/
def payload (r : RtuRequest) : List UInt8 :=
  [r.unit, r.function] ++ requestEcho r.address r.value

/-- The bytes that are sent. -/
def frame (r : RtuRequest) : List UInt8 := rtuFrame r.payload

theorem frame_eq (r : RtuRequest) : r.frame =
    [r.unit, r.function, UInt8.ofNat (r.address.toNat / 256), UInt8.ofNat r.address.toNat,
      UInt8.ofNat (r.value.toNat / 256), UInt8.ofNat r.value.toNat,
      UInt8.ofNat (crcOf r.payload).toNat, UInt8.ofNat ((crcOf r.payload).toNat / 256)] := rfl

end RtuRequest

/-- `_exception_frame`. -/
def exceptionFrame (unit function code : UInt8) : List UInt8 :=
  rtuFrame [unit, function ||| 0x80, code]

/-- `_distort`: a response as broken by a frame fault. -/
def distort (action : Option FaultAction) (response : List UInt8) (address value : UInt16) :
    List UInt8 :=
  let unit := response.getD 0 0
  let function := response.getD 1 0
  match action with
  | some .badCrc => response.dropLast ++ [response.getLastD 0 ^^^ 0xFF]
  | some .short => withoutCheck response
  | some .wrongUnit => rtuFrame ((unit % 247 + 1) :: (withoutCheck response).drop 1)
  | some .wrongFunction => rtuFrame (unit :: 4 :: (withoutCheck response).drop 2)
  | some .wrongLength =>
    if function = 3 then
      rtuFrame ([unit, function, response.getD 2 0 + 2] ++ (withoutCheck response).drop 3 ++ [0, 0])
    else response
  | some .wrongAddress =>
    if function = 6 then rtuFrame ([unit, function] ++ requestEcho (address + 1) value)
    else response
  | some .wrongValue =>
    if function = 6 then rtuFrame ([unit, function] ++ requestEcho address (value + 1))
    else response
  | _ => response

/-- What a client gets of a reply. -/
inductive Delivery where
  /-- The request is dropped, or its reply is lost. -/
  | silent
  /-- The reply is sent, in one piece or in two. -/
  | prompt (response : List UInt8)
  /-- The reply is held back. -/
  | late (response : List UInt8)

/-- The reply that is delivered, sooner or later. -/
def Delivery.reply : Delivery → Option (List UInt8)
  | .silent => none
  | .prompt response | .late response => some response

/-! ### The server -/

/-- `RtuTcpMockGateway`, with the silent units and the end of the warm-up of its model. -/
structure RtuTcpMockGateway where
  model : MockGatewayModel
  silent : Finset ℕ := ∅
  warmupUntil : Monotonic := 0
  faults : List Fault := []
  requests : ℕ := 0

namespace RtuTcpMockGateway

variable (g : RtuTcpMockGateway)

/-- `answers`. -/
def answers (address : ℕ) : Bool :=
  address = gatewayAddress ∨ address ∈ g.model.paired ∧ address ∉ g.silent

/-- `_take_fault`. -/
def takeFault (moment : Moment) (address : ℕ) : Option FaultAction × RtuTcpMockGateway :=
  match takeScripted address g.faults with
  | some (action, faults) => (some action, { g with faults := faults })
  | none =>
    if moment.dropped then (some .timeout, g)
    else if moment.corrupted then (some .badCrc, g)
    else (none, g)

/-- `_respond`. -/
def respond (moment : Moment) (r : RtuRequest) :
    Except MockError (List UInt8 × RtuTcpMockGateway) := do
  if r.function = 3 then
    let (result, model) ← g.model.read (moment.now < g.warmupUntil) moment
      r.unit.toNat r.address.toNat r.value.toNat
    match result with
    | .error code =>
      return (exceptionFrame r.unit r.function (UInt8.ofNat code), { g with model := model })
    | .ok values =>
      return (rtuFrame ([r.unit, r.function, UInt8.ofNat (r.value.toNat * 2)] ++
        values.flatMap fun value => bigEndian (UInt16.ofNat value)), { g with model := model })
  else
    let (error, model) ← g.model.write moment.now r.unit.toNat r.address.toNat r.value.toNat
    match error with
    | some code =>
      return (exceptionFrame r.unit r.function (UInt8.ofNat code), { g with model := model })
    | none =>
      return (rtuFrame ([r.unit, r.function] ++ requestEcho r.address r.value),
        { g with model := model })

/-- What is done with a request whose check is right. -/
def serve (moment : Moment) (r : RtuRequest) : Except MockError (Delivery × RtuTcpMockGateway) := do
  let g := { g with requests := g.requests + 1 }
  if ¬g.answers r.unit.toNat then return (.silent, g)
  let (fault, g) := g.takeFault moment r.unit.toNat
  if fault = some .timeout then return (.silent, g)
  match fault.bind FaultAction.exceptionCode with
  | some code => return (.prompt (exceptionFrame r.unit r.function code), g)
  | none =>
    let (response, g) ← g.respond moment r
    if fault = some .lostReply then return (.silent, g)
    let response := distort fault response r.address r.value
    return (if fault = some .late then .late response else .prompt response, g)

end RtuTcpMockGateway

/-- What a connection has written, and the reply that it holds back. -/
structure Outbox where
  held : Option (List UInt8) := none
  written : List UInt8 := []

/-- A reply is written after the one that is held back, or is held back itself. -/
def Outbox.deliver (o : Outbox) : Delivery → Outbox
  | .silent => o
  | .prompt response => { held := none, written := o.written ++ o.held.getD [] ++ response }
  | .late response => { held := some response, written := o.written ++ o.held.getD [] }

/-- One client of the server. -/
structure RtuConnection where
  gateway : RtuTcpMockGateway
  outbox : Outbox := {}
  isOpen : Bool := true

namespace RtuConnection

variable (c : RtuConnection)

/-- A request is carried out at its moment. An exception that no one catches ends the
connection. -/
def request (moments : ℕ → Moment) (r : RtuRequest) : RtuConnection :=
  match c.gateway.serve (moments c.gateway.requests) r with
  | .ok (delivery, gateway) => { c with gateway := gateway, outbox := c.outbox.deliver delivery }
  | .error _ => { c with isOpen := false }

/-- The connection ends. -/
def close : RtuConnection := { c with isOpen := false }

end RtuConnection

/-- The function codes that `_handle_client` supports. -/
def supportedFunction (function : UInt8) : Option (PLift (function = 3 ∨ function = 6)) :=
  if h : function = 3 ∨ function = 6 then some ⟨h⟩ else none

/-- `_handle_client`: the bytes of a client are read until none is left or the connection
ends. -/
def handleClient (moments : ℕ → Moment) : List UInt8 → RtuConnection → RtuConnection
  | unit :: function :: a₁ :: a₀ :: v₁ :: v₀ :: crc₀ :: crc₁ :: rest, c =>
    if ¬c.isOpen then c
    else match supportedFunction function with
      | none => c.close
      | some served =>
        if Intact [unit, function, a₁, a₀, v₁, v₀, crc₀, crc₁] then
          handleClient moments rest (c.request moments
            ⟨unit, function, fromBigEndian a₁ a₀, fromBigEndian v₁ v₀, served.down⟩)
        else c.close
  | _ :: function :: _, c =>
    -- Six more bytes are awaited, unless the function is not supported.
    if (supportedFunction function).isNone then c.close else c
  | _, c => c

/-! ### Every request is carried out -/

namespace MockGatewayModel

variable {s t : MockGatewayModel} {address : ℕ}

/-- The values of a read are words, one for each register. -/
theorem readValues_le {device : MockDevice} (h : device.Sound address) {warmingUp : Bool}
    {registers values : List ℕ} (hread : readValues device warmingUp registers = .ok values) :
    values.length = registers.length ∧ ∀ value ∈ values, value ≤ 0xFFFF := by
  unfold readValues at hread
  split at hread
  · cases hread
  split at hread
  · cases hread
  split at hread
  · cases hread
  cases hread
  refine ⟨List.length_map _, fun value hvalue => ?_⟩
  obtain ⟨register, -, rfl⟩ := List.mem_map.mp hvalue
  exact h.value_le (by decide) register

/-- **A known device answers a read**, and the model stays sound. -/
theorem Sound.read_ok (h : s.Sound) (hmem : address ∈ s.devices) (warmingUp : Bool)
    (moment : Moment) (register count : ℕ) :
    ∃ result t, s.read warmingUp moment address register count = .ok (result, t) ∧ t.Sound ∧
      ∀ values, result = .ok values → values.length = count ∧ ∀ value ∈ values, value ≤ 0xFFFF := by
  unfold MockGatewayModel.read
  split
  · exact ⟨_, _, rfl, h, fun values hvalues => by cases hvalues⟩
  obtain ⟨device, hdevice⟩ := Finmap.mem_iff.mp hmem
  set shown := if device.profile.isNone then
    s.refreshGatewayClock moment.now moment.wallSeconds else s with hshown
  have hsound : shown.Sound := by
    rw [hshown]
    split
    · exact h.refreshGatewayClock _ _
    · exact h
  have hmem' : address ∈ shown.devices := by
    rw [hshown, Finmap.mem_iff]
    split
    · exact ⟨_, by
        rw [MockGatewayModel.refreshGatewayClock, lookup_updateGateway_map, hdevice]
        rfl⟩
    · exact ⟨device, hdevice⟩
  obtain ⟨device', hdevice'⟩ := Finmap.mem_iff.mp hmem'
  have hsettled := (hsound.devices _ _ hdevice').settle moment.now
  simp only [device_eq_ok.mpr hdevice, bind, Except.bind, pure, Except.pure, ← hshown,
    device_eq_ok.mpr hdevice']
  refine ⟨_, _, rfl, hsound.setDevice hsettled, fun values hvalues => ?_⟩
  obtain ⟨hlength, hvalue⟩ := readValues_le hsettled hvalues
  exact ⟨by rw [hlength, List.length_range'], hvalue⟩

/-- **A known device answers a write**, and the model stays sound. -/
theorem Sound.write_ok (h : s.Sound) (hmem : address ∈ s.devices) (now : Monotonic)
    {register value : ℕ} (hword : IsWord (register, value)) :
    ∃ reply t, s.write now address register value = .ok (reply, t) ∧ t.Sound := by
  obtain ⟨device, hdevice⟩ := Finmap.mem_iff.mp hmem
  have hok : ∃ result, s.write now address register value = .ok result := by
    unfold MockGatewayModel.write
    simp only [device_eq_ok.mpr hdevice, bind, Except.bind, pure, Except.pure]
    split <;> exact ⟨_, rfl⟩
  obtain ⟨⟨reply, t⟩, hwrite⟩ := hok
  exact ⟨reply, t, hwrite, h.write hword hwrite⟩

end MockGatewayModel

namespace RtuTcpMockGateway

variable {g : RtuTcpMockGateway}

/-- Only known devices answer. -/
theorem mem_of_answers (h : g.model.Sound) {address : ℕ} (hanswers : g.answers address = true) :
    address ∈ g.model.devices := by
  rcases of_decide_eq_true hanswers with rfl | ⟨hpaired, -⟩
  · exact h.gateway
  · exact (h.paired address hpaired).2.2

/-- **A request to a known device gets a response**, and only the model changes. -/
theorem respond_ok (h : g.model.Sound) (moment : Moment) (r : RtuRequest)
    (hmem : r.unit.toNat ∈ g.model.devices) :
    ∃ response model, g.respond moment r = .ok (response, { g with model := model }) ∧
      model.Sound := by
  unfold respond
  split
  · obtain ⟨result, t, hread, ht, -⟩ := h.read_ok hmem (moment.now < g.warmupUntil) moment
      r.address.toNat r.value.toNat
    simp only [hread, bind, Except.bind, pure, Except.pure]
    cases result with
    | error code => exact ⟨_, t, rfl, ht⟩
    | ok values => exact ⟨_, t, rfl, ht⟩
  · have hword : IsWord (r.address.toNat, r.value.toNat) :=
      ⟨Nat.le_of_lt_succ r.address.toNat_lt, Nat.le_of_lt_succ r.value.toNat_lt⟩
    obtain ⟨reply, t, hwrite, ht⟩ := h.write_ok hmem moment.now hword
    simp only [hwrite, bind, Except.bind, pure, Except.pure]
    cases reply with
    | some code => exact ⟨_, t, rfl, ht⟩
    | none => exact ⟨_, t, rfl, ht⟩

/-- The faults are all that taking one changes. -/
theorem takeFault_snd (g : RtuTcpMockGateway) (moment : Moment) (address : ℕ) :
    ∃ faults, (g.takeFault moment address).2 = { g with faults := faults } := by
  unfold takeFault
  split
  · exact ⟨_, rfl⟩
  · split
    · exact ⟨_, rfl⟩
    · split <;> exact ⟨_, rfl⟩

/-- **Every request is carried out**, at its own moment. -/
theorem serve_ok (h : g.model.Sound) (moment : Moment) (r : RtuRequest) :
    ∃ delivery g', g.serve moment r = .ok (delivery, g') ∧ g'.model.Sound ∧
      g'.requests = g.requests + 1 := by
  unfold serve
  dsimp only
  split
  · exact ⟨_, _, rfl, h, rfl⟩
  rename_i hanswers
  obtain ⟨faults, hfaults⟩ :=
    takeFault_snd { g with requests := g.requests + 1 } moment r.unit.toNat
  rw [hfaults]
  split
  · exact ⟨_, _, rfl, h, rfl⟩
  split
  · exact ⟨_, _, rfl, h, rfl⟩
  have hmem : r.unit.toNat ∈ g.model.devices :=
    mem_of_answers h (Decidable.not_not.mp hanswers)
  obtain ⟨response, model, hrespond, hmodel⟩ := respond_ok
    (g := { g with requests := g.requests + 1, faults := faults }) h moment r hmem
  simp only [hrespond, bind, Except.bind, pure, Except.pure]
  split
  · exact ⟨_, _, rfl, hmodel, rfl⟩
  · exact ⟨_, _, rfl, hmodel, rfl⟩

end RtuTcpMockGateway

/-! ### The stream -/

/-- The simulated gateway carries out requests one after the other: the gateway after them, and
the replies that a client gets, sooner or later. -/
def serveAll (moments : ℕ → Moment) :
    List RtuRequest → RtuTcpMockGateway → RtuTcpMockGateway × List (List UInt8)
  | [], g => (g, [])
  | r :: rs, g =>
    match g.serve (moments g.requests) r with
    | .ok (delivery, g') =>
      ((serveAll moments rs g').1, delivery.reply.toList ++ (serveAll moments rs g').2)
    | .error _ => (g, [])

/-- **What a client has got**: the replies have been written in their order, except that the
last one may still be held back. -/
def Outbox.Got (o : Outbox) (replies : List (List UInt8)) : Prop :=
  ∃ sent, replies = sent ++ o.held.toList ∧ o.written = sent.flatten

/-- Nothing has been written to a new client. -/
theorem Outbox.got_nil : Outbox.Got {} [] := ⟨[], rfl, rfl⟩

/-- **A delivery adds its reply.** -/
theorem Outbox.Got.deliver {o : Outbox} {replies : List (List UInt8)} (h : o.Got replies)
    (delivery : Delivery) : (o.deliver delivery).Got (replies ++ delivery.reply.toList) := by
  obtain ⟨sent, hreplies, hwritten⟩ := h
  have hheld : o.held.getD [] = o.held.toList.flatten := by
    cases o.held with
    | none => rfl
    | some held => simp
  cases delivery with
  | silent => exact ⟨sent, by rw [hreplies]; simp [Delivery.reply, Outbox.deliver], hwritten⟩
  | prompt response =>
    refine ⟨replies ++ [response], by simp [Delivery.reply, Outbox.deliver], ?_⟩
    rw [Outbox.deliver, hwritten, hheld, hreplies]
    simp
  | late response =>
    refine ⟨replies, rfl, ?_⟩
    rw [Outbox.deliver, hwritten, hheld, hreplies, List.flatten_append]

/-- A request of a sound gateway leaves the connection open. -/
theorem RtuConnection.request_eq {c : RtuConnection} {moments : ℕ → Moment}
    {g : RtuTcpMockGateway} {delivery : Delivery} {r : RtuRequest}
    (h : c.gateway.serve (moments c.gateway.requests) r = .ok (delivery, g)) :
    c.request moments r = { c with gateway := g, outbox := c.outbox.deliver delivery } := by
  rw [request, h]

theorem supportedFunction_served (r : RtuRequest) :
    supportedFunction r.function = some ⟨r.served⟩ := dif_pos r.served

/-- **The server reads the request that was sent.** -/
theorem handleClient_frame {moments : ℕ → Moment} {c : RtuConnection} (hopen : c.isOpen = true)
    (r : RtuRequest) (rest : List UInt8) :
    handleClient moments (r.frame ++ rest) c = handleClient moments rest (c.request moments r) := by
  have hintact : Intact r.frame := intact_rtuFrame r.payload
  rw [r.frame_eq] at hintact ⊢
  simp only [List.cons_append, List.nil_append]
  rw [handleClient, if_neg (by simp [hopen]), supportedFunction_served]
  dsimp only
  rw [if_pos hintact, fromBigEndian_bigEndian, fromBigEndian_bigEndian]

/-- **The server refines the simulated gateway.** Whatever requests a client sends one after the
other, the connection stays open, the gateway is as if it had carried them out itself, each once
and in this order, and the client has got their replies, each once and in this order, except
that the last one may still be held back. -/
theorem rtuServer_refines (moments : ℕ → Moment) (requests : List RtuRequest)
    {c : RtuConnection} (hopen : c.isOpen = true) (hsound : c.gateway.model.Sound)
    {replies : List (List UInt8)} (hgot : c.outbox.Got replies) :
    let after := handleClient moments (requests.flatMap RtuRequest.frame) c
    after.isOpen = true ∧ after.gateway = (serveAll moments requests c.gateway).1 ∧
      after.outbox.Got (replies ++ (serveAll moments requests c.gateway).2) := by
  induction requests generalizing c replies with
  | nil => exact ⟨hopen, rfl, by rwa [serveAll, List.append_nil]⟩
  | cons r rs ih =>
    obtain ⟨delivery, g, hserve, hg, -⟩ :=
      RtuTcpMockGateway.serve_ok hsound (moments c.gateway.requests) r
    rw [List.flatMap_cons, handleClient_frame hopen, RtuConnection.request_eq hserve, serveAll,
      hserve]
    rw [← List.append_assoc]
    exact ih (c := { c with gateway := g, outbox := c.outbox.deliver delivery }) hopen hg
      (hgot.deliver delivery)

/-- A gateway without devices is asked three times for a register of its own: the first reply is
late, the second is lost, and the third is sent behind the first. -/
theorem rtuServer_refines_blank :
    let moments := fun _ : ℕ => ({ now := 0, wallSeconds := 0 } : Moment)
    let g : RtuTcpMockGateway :=
      { model := MockGatewayModel.blank, faults := [⟨none, .late, 1⟩, ⟨some 1, .lostReply, 1⟩] }
    let requests : List RtuRequest :=
      [⟨1, 3, 41000, 1, .inl rfl⟩, ⟨1, 6, 41000, 7, .inr rfl⟩, ⟨1, 3, 41000, 2, .inl rfl⟩]
    let after := handleClient moments (requests.flatMap RtuRequest.frame) { gateway := g }
    after.isOpen = true ∧ after.gateway = (serveAll moments requests g).1 ∧
      after.outbox.Got (serveAll moments requests g).2 :=
  rtuServer_refines (fun _ => { now := 0, wallSeconds := 0 })
    [⟨1, 3, 41000, 1, .inl rfl⟩, ⟨1, 6, 41000, 7, .inr rfl⟩, ⟨1, 3, 41000, 2, .inl rfl⟩]
    (c := { gateway := { model := MockGatewayModel.blank,
                         faults := [⟨none, .late, 1⟩, ⟨some 1, .lostReply, 1⟩] } }) rfl
    MockGatewayModel.constructed_blank.sound Outbox.got_nil

/-- **A disturbed request is not carried out.** After any requests, a request of which at most
sixteen bits in a row or an odd number of bits have changed ends the connection: nothing more is
carried out or written, whatever comes after it. -/
theorem rtuServer_discards (moments : ℕ → Moment) (requests : List RtuRequest) {c : RtuConnection}
    (hopen : c.isOpen = true) (hsound : c.gateway.model.Sound) {r : RtuRequest}
    {disturbed : List UInt8} (h : Corrupted r.frame disturbed) (rest : List UInt8) :
    handleClient moments (requests.flatMap RtuRequest.frame ++ disturbed ++ rest) c =
      (handleClient moments (requests.flatMap RtuRequest.frame) c).close := by
  induction requests generalizing c with
  | nil =>
    have hlong : 2 ≤ r.frame.length := by simp [RtuRequest.frame_eq]
    have hbroken := h.not_intact hlong (intact_rtuFrame r.payload)
    obtain ⟨unit, function, a₁, a₀, v₁, v₀, crc₀, crc₁, rfl⟩ :
        ∃ unit function a₁ a₀ v₁ v₀ crc₀ crc₁,
          disturbed = [unit, function, a₁, a₀, v₁, v₀, crc₀, crc₁] := by
      have hlength : disturbed.length = 8 := h.length_eq.symm
      match disturbed, hlength with
      | [unit, function, a₁, a₀, v₁, v₀, crc₀, crc₁], _ => exact ⟨_, _, _, _, _, _, _, _, rfl⟩
    simp only [List.flatMap_nil, List.nil_append, List.cons_append]
    rw [handleClient, if_neg (by simp [hopen])]
    cases supportedFunction function with
    | none => rfl
    | some served => exact if_neg hbroken
  | cons request requests ih =>
    obtain ⟨delivery, g, hserve, hg, -⟩ :=
      RtuTcpMockGateway.serve_ok hsound (moments c.gateway.requests) request
    rw [List.flatMap_cons, List.append_assoc, List.append_assoc, handleClient_frame hopen,
      handleClient_frame hopen, RtuConnection.request_eq hserve, ← List.append_assoc]
    exact ih (c := { c with gateway := g, outbox := c.outbox.deliver delivery }) hopen hg

/-- Between two requests, one of which the first byte has changed: only the request before it is
carried out. -/
theorem rtuServer_discards_blank :
    let moments := fun _ : ℕ => ({ now := 0, wallSeconds := 0 } : Moment)
    let c : RtuConnection := { gateway := { model := MockGatewayModel.blank } }
    let before : RtuRequest := ⟨1, 6, 41000, 7, .inr rfl⟩
    handleClient moments ([before].flatMap RtuRequest.frame ++
        5 :: (RtuRequest.frame ⟨1, 3, 41000, 1, .inl rfl⟩).tail ++ before.frame) c =
      (handleClient moments ([before].flatMap RtuRequest.frame) c).close := by
  have hcorrupted : Corrupted (RtuRequest.frame ⟨1, 3, 41000, 1, .inl rfl⟩)
      (5 :: (RtuRequest.frame ⟨1, 3, 41000, 1, .inl rfl⟩).tail) :=
    .burst [] (byteBits 1) (byteBits 5) _ rfl rfl (by decide) rfl (by decide)
  exact rtuServer_discards (fun _ => { now := 0, wallSeconds := 0 }) [⟨1, 6, 41000, 7, .inr rfl⟩]
    (c := { gateway := { model := MockGatewayModel.blank } }) rfl
    MockGatewayModel.constructed_blank.sound hcorrupted _

end MeltemVentilation
