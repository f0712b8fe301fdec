import MeltemVentilation.MockGateway.Answers

/-!
# The bridge of the simulated gateway

`MbapRtuTcpMockBridge` of `tools/mock_gateway.py`: requests of Modbus TCP come in, each with the
number of its transaction, and are passed on to the server of the simulated gateway, each over a
connection of its own (`bridgeExchange`). A response goes back under the number of its request.
Without one, the bridge says nothing or ends the connection; with `bridge_exceptions` it answers
with an exception of its own (`reaction`).

Two protocols in byte streams lie between a client and the simulated gateway. **The bridge
refines the simulated gateway** (`mbapBridge_refines`): what a client gets through both is what
the gateway answers to its requests itself (`RtuTcpMockGateway.exchange`), each carried out once
and in order, put under the number of the request. Of the frame faults that the server is told to
make, only those get through to the client that leave a well-formed response for its unit and
function (`handOn`). With exceptions of its own the bridge answers every request exactly once
(`mbapBridge_answers`).

Left out are the limit to one client and the time that a reply takes: a reply that the server sends
is there before the bridge gives up, so that one that comes later than `backend_timeout` is left
out.
-/

namespace MeltemVentilation

/-! ### One exchange -/

/-- What an exchange of the bridge comes to. -/
inductive BridgeResult where
  | exchanged (exchange : Exchange)
  /-- The request is not one of five bytes with the function 3 or 6, a `ValueError`. -/
  | unsupported
  /-- The server cannot be reached, an `OSError`. -/
  | unreachable

/-- `MbapRtuTcpMockBridge`. -/
structure MbapRtuTcpMockBridge where
  bridgeExceptions : Bool
  /-- Whether the server can be reached, by the number of the request. -/
  reachable : ℕ → Bool

/-- `_exchange`, limited to the time that the bridge waits for a response. -/
def bridgeExchange (moments : ℕ → Moment) (reachable : Bool) (g : RtuTcpMockGateway)
    (unit : UInt8) (pdu : List UInt8) : BridgeResult × RtuTcpMockGateway :=
  let function := pdu.getD 0 0
  if pdu.length ≠ 5 ∨ (supportedFunction function).isNone then (.unsupported, g)
  else if ¬reachable then (.unreachable, g)
  else
    let c := handleClient moments (rtuFrame (unit :: pdu)) { gateway := g }
    match readRtuResponse c.outbox.written unit function with
    -- At the end of the stream, the bytes that are awaited do not come any more.
    | .awaited => (.exchanged (if c.isOpen then .timeout else .failed), c.gateway)
    | reading => (.exchanged reading.exchange, c.gateway)

/-- What the bridge does about the result of an exchange. -/
inductive Reaction where
  | answer (pdu : List UInt8)
  | silence
  | close

/-- `_exception_pdu`, in which code and function stand for an answer of the bridge. -/
def bridgeException (b : MbapRtuTcpMockBridge) (function code : UInt8) (otherwise : Reaction) :
    Reaction :=
  if b.bridgeExceptions then .answer [function ||| 0x80, code] else otherwise

/-- The bridge answers, says nothing, or ends the connection. -/
def reaction (b : MbapRtuTcpMockBridge) (function : UInt8) : BridgeResult → Reaction
  | .exchanged (.pdu pdu) => .answer pdu
  | .exchanged .timeout => bridgeException b function 0x0B .silence
  | .exchanged .failed => bridgeException b function 0x0B .close
  | .unreachable => bridgeException b function 0x0A .close
  | .unsupported => .close

/-! ### The stream -/

/-- A response under the number of its request. -/
def mbapFrame (transaction : List UInt8) (unit : UInt8) (pdu : List UInt8) : List UInt8 :=
  transaction ++ [0, 0] ++ bigEndian (UInt16.ofNat (pdu.length + 1)) ++ [unit] ++ pdu

/-- One client of the bridge. -/
structure MbapConnection where
  gateway : RtuTcpMockGateway
  /-- The requests of the client so far. -/
  requests : ℕ := 0
  /-- `_late_replies`: as many responses are held back. -/
  lateReplies : ℕ := 0
  outbox : Outbox := {}
  isOpen : Bool := true

namespace MbapConnection

variable (c : MbapConnection)

/-- A response is sent, or held back. -/
def send (response : List UInt8) : MbapConnection :=
  if c.lateReplies > 0 then
    { c with lateReplies := c.lateReplies - 1, outbox := c.outbox.deliver (.late response) }
  else { c with outbox := c.outbox.deliver (.prompt response) }

/-- The connection ends. -/
def close : MbapConnection := { c with isOpen := false }

/-- The bridge reacts to the result of an exchange. -/
def react (transaction : List UInt8) (unit : UInt8) : Reaction → MbapConnection
  | .answer pdu => c.send (mbapFrame transaction unit pdu)
  | .silence => c
  | .close => c.close

/-- A request is passed on. -/
def request (b : MbapRtuTcpMockBridge) (moments : ℕ → Moment) (transaction : List UInt8)
    (unit : UInt8) (pdu : List UInt8) : MbapConnection :=
  let (result, gateway) := bridgeExchange moments (b.reachable c.requests) c.gateway unit pdu
  { c with gateway := gateway, requests := c.requests + 1 }.react transaction unit
    (reaction b (pdu.getD 0 0) result)

end MbapConnection

/-- `_handle_client` of the bridge. -/
def handleMbapClient (b : MbapRtuTcpMockBridge) (moments : ℕ → Moment) (stream : List UInt8)
    (c : MbapConnection) : MbapConnection :=
  match stream with
  | t₁ :: t₀ :: p₁ :: p₀ :: l₁ :: l₀ :: unit :: rest =>
    if ¬c.isOpen then c
    else
      let length := (fromBigEndian l₁ l₀).toNat
      if fromBigEndian p₁ p₀ ≠ 0 ∨ ¬(2 ≤ length ∧ length ≤ 254) then c.close
      -- The other bytes are awaited.
      else if rest.length < length - 1 then c
      else handleMbapClient b moments (rest.drop (length - 1))
        (c.request b moments [t₁, t₀] unit (rest.take (length - 1)))
  | _ => c
termination_by stream.length
decreasing_by simp only [List.length_drop, List.length_cons]; omega

/-- A request of a client of the bridge. -/
structure MbapRequest where
  transaction : UInt16
  request : RtuRequest

namespace MbapRequest

variable (r : MbapRequest)

/-- The request without its unit and its check. -/
def pdu : List UInt8 := r.request.function :: requestEcho r.request.address r.request.value

/-- The bytes that are sent. -/
def frame : List UInt8 := mbapFrame (bigEndian r.transaction) r.request.unit r.pdu

/-- The response with an answer. -/
def response (pdu : List UInt8) : List UInt8 :=
  mbapFrame (bigEndian r.transaction) r.request.unit pdu

end MbapRequest

/-! ### What the bridge is for -/

/-- What the simulated gateway answers to a request, without any bytes: a fault takes the answer
away, replaces it or breaks it. -/
def RtuTcpMockGateway.exchange (g : RtuTcpMockGateway) (moment : Moment) (r : RtuRequest) :
    Except MockError (Exchange × RtuTcpMockGateway) := do
  let g := { g with requests := g.requests + 1 }
  if ¬g.answers r.unit.toNat then return (.timeout, g)
  let (fault, g) := g.takeFault moment r.unit.toNat
  if fault = some .timeout then return (.timeout, g)
  match fault.bind FaultAction.exceptionCode with
  | some code => return (.pdu [r.function ||| 0x80, code], g)
  | none =>
    let (answer, g) ← g.answer moment r
    return (if fault = some .lostReply ∨ fault = some .late then .timeout
      else handOn fault answer r, g)

/-- A client of a gateway that is asked directly. -/
structure DirectRun where
  gateway : RtuTcpMockGateway
  requests : ℕ := 0
  replies : List (List UInt8) := []
  isOpen : Bool := true

/-- What asking the gateway directly comes to. -/
def directExchange (moment : Moment) (reachable : Bool) (g : RtuTcpMockGateway)
    (r : RtuRequest) : BridgeResult × RtuTcpMockGateway :=
  if ¬reachable then (.unreachable, g)
  else
    match g.exchange moment r with
    | .ok (exchange, g) => (.exchanged exchange, g)
    | .error _ => (.exchanged .failed, g)

namespace DirectRun

/-- An answer is got under the number of its request. -/
def react (d : DirectRun) (r : MbapRequest) : Reaction → DirectRun
  | .answer pdu => { d with replies := d.replies ++ [r.response pdu] }
  | .silence => d
  | .close => { d with isOpen := false }

/-- The gateway is asked. -/
def request (b : MbapRtuTcpMockBridge) (moments : ℕ → Moment) (d : DirectRun) (r : MbapRequest) :
    DirectRun :=
  if ¬d.isOpen then d
  else
    let (result, gateway) := directExchange (moments d.gateway.requests) (b.reachable d.requests)
      d.gateway r.request
    { d with gateway := gateway, requests := d.requests + 1 }.react r
      (reaction b r.request.function result)

end DirectRun

/-! ### One exchange -/

/-- What the bridge makes of a delivery over a connection of its own: a reply that is held back
does not come any more. -/
def Delivery.exchange (r : RtuRequest) : Delivery → Exchange
  | .silent | .late _ => .timeout
  | .prompt response => (readRtuResponse response r.unit r.function).exchange

namespace RtuTcpMockGateway

variable {g : RtuTcpMockGateway}

/-- **The server and the gateway do the same**, and the reply is read as the answer. -/
theorem serve_exchange (h : g.model.Sound) (moment : Moment) (r : RtuRequest) :
    ∃ delivery g', g.serve moment r = .ok (delivery, g') ∧ g'.model.Sound ∧
      g.exchange moment r = .ok (delivery.exchange r, g') := by
  unfold serve exchange
  dsimp only
  split
  · exact ⟨_, _, rfl, h, rfl⟩
  rename_i hanswers
  obtain ⟨faults, hfaults⟩ :=
    takeFault_snd { g with requests := g.requests + 1 } moment r.unit.toNat
  rw [hfaults]
  set fault := ({ g with requests := g.requests + 1 }.takeFault moment r.unit.toNat).1 with hfault
  split
  · exact ⟨_, _, rfl, h, rfl⟩
  cases hcode : fault.bind FaultAction.exceptionCode with
  | some code =>
    refine ⟨_, _, rfl, h, ?_⟩
    have hread := @exchange_frame r (.exception code.toNat) trivial
    rw [Answer.frame, Answer.pdu, UInt8.ofNat_toNat] at hread
    rw [Delivery.exchange, exceptionFrame, hread]
    rfl
  | none =>
    have hmem : r.unit.toNat ∈ g.model.devices :=
      mem_of_answers h (Decidable.not_not.mp hanswers)
    obtain ⟨answer, model, hanswer, hrespond, hfits, hmodel⟩ := respond_eq_answer
      (g := { g with requests := g.requests + 1, faults := faults }) h moment r hmem
    simp only [hrespond, hanswer, bind, Except.bind, pure, Except.pure]
    by_cases hlost : fault = some .lostReply
    · rw [if_pos hlost, if_pos (.inl hlost)]
      exact ⟨_, _, rfl, hmodel, rfl⟩
    by_cases hlate : fault = some .late
    · rw [if_neg hlost, if_pos hlate, if_pos (.inr hlate)]
      exact ⟨_, _, rfl, hmodel, rfl⟩
    · rw [if_neg hlost, if_neg hlate, if_neg (not_or.mpr ⟨hlost, hlate⟩)]
      refine ⟨_, _, rfl, hmodel, ?_⟩
      rw [Delivery.exchange, readRtuResponse_distort hfits]

end RtuTcpMockGateway

/-- What the server has written over a connection of its own is read as the delivery. -/
theorem exchange_deliver (r : RtuRequest) (delivery : Delivery) :
    (readRtuResponse (({} : Outbox).deliver delivery).written r.unit r.function).exchange =
      delivery.exchange r := by
  cases delivery with
  | silent => rfl
  | prompt response => rfl
  | late response => rfl

/-- **One exchange of the bridge** is what asking the gateway directly comes to. -/
theorem bridgeExchange_eq {g : RtuTcpMockGateway} (h : g.model.Sound) (moments : ℕ → Moment)
    (reachable : Bool) (r : MbapRequest) :
    bridgeExchange moments reachable g r.request.unit r.pdu =
        directExchange (moments g.requests) reachable g r.request ∧
      (directExchange (moments g.requests) reachable g r.request).2.model.Sound := by
  have hfunction : r.pdu.getD 0 0 = r.request.function := rfl
  have hserved : ¬(r.pdu.length ≠ 5 ∨ (supportedFunction r.request.function).isNone = true) := by
    rw [supportedFunction_served]
    simp [MbapRequest.pdu, requestEcho, bigEndian]
  unfold bridgeExchange directExchange
  dsimp only
  rw [hfunction, if_neg hserved]
  cases reachable with
  | false => exact ⟨rfl, h⟩
  | true =>
    obtain ⟨delivery, g', hserve, hg', hexchange⟩ :=
      RtuTcpMockGateway.serve_exchange h (moments g.requests) r.request
    have hclient : handleClient moments (rtuFrame (r.request.unit :: r.pdu)) { gateway := g } =
        { gateway := g', outbox := ({} : Outbox).deliver delivery } := by
      have hframe :=
        @handleClient_frame moments { gateway := g } rfl r.request []
      rw [List.append_nil, RtuConnection.request_eq hserve] at hframe
      exact hframe
    rw [hclient, hexchange, ← exchange_deliver r.request delivery]
    refine ⟨?_, hg'⟩
    simp only [not_true_eq_false, if_false]
    cases readRtuResponse (({} : Outbox).deliver delivery).written r.request.unit
      r.request.function <;> rfl

/-! ### A run -/

/-- A run of the bridge and one of the gateway that is asked directly. -/
structure Bridges (c : MbapConnection) (d : DirectRun) : Prop where
  gateway : c.gateway = d.gateway
  requests : c.requests = d.requests
  isOpen : c.isOpen = d.isOpen
  got : c.outbox.Got d.replies

/-- A request that arrives is passed on. -/
theorem handleMbapClient_frame {b : MbapRtuTcpMockBridge} {moments : ℕ → Moment}
    {c : MbapConnection} (hopen : c.isOpen = true) (r : MbapRequest) (rest : List UInt8) :
    handleMbapClient b moments (r.frame ++ rest) c = handleMbapClient b moments rest
      (c.request b moments (bigEndian r.transaction) r.request.unit r.pdu) := by
  have hlength : r.pdu.length = 5 := rfl
  have hcount : (fromBigEndian 0 6).toNat = 6 := rfl
  have hframe : r.frame ++ rest = UInt8.ofNat (r.transaction.toNat / 256) ::
      UInt8.ofNat r.transaction.toNat :: 0 :: 0 :: 0 :: 6 :: r.request.unit :: (r.pdu ++ rest) := by
    rw [MbapRequest.frame, mbapFrame, hlength]
    rfl
  rw [hframe, handleMbapClient.eq_def]
  dsimp only
  rw [if_neg (by simp [hopen]), hcount, if_neg (by decide),
    if_neg (by rw [List.length_append, hlength]; omega), show 6 - 1 = r.pdu.length from rfl,
    List.drop_left, List.take_left]
  rfl

/-- A connection that has ended reads no more. -/
theorem handleMbapClient_closed {c : MbapConnection} (hclosed : c.isOpen = false)
    (b : MbapRtuTcpMockBridge) (moments : ℕ → Moment) (stream : List UInt8) :
    handleMbapClient b moments stream c = c := by
  rw [handleMbapClient.eq_def]
  split
  · rw [if_pos (by simp [hclosed])]
  · rfl

/-- Both get the same answer. -/
theorem Bridges.react {c : MbapConnection} {d : DirectRun} (h : Bridges c d) (r : MbapRequest)
    (reaction : Reaction) :
    Bridges (c.react (bigEndian r.transaction) r.request.unit reaction) (d.react r reaction) := by
  cases reaction with
  | answer pdu =>
    rw [MbapConnection.react, MbapConnection.send]
    by_cases hlate : c.lateReplies > 0
    · rw [if_pos hlate]
      exact ⟨h.gateway, h.requests, h.isOpen, h.got.deliver (.late _)⟩
    · rw [if_neg hlate]
      exact ⟨h.gateway, h.requests, h.isOpen, h.got.deliver (.prompt _)⟩
  | silence => exact h
  | close => exact ⟨h.gateway, h.requests, rfl, h.got⟩

@[simp] theorem MbapConnection.gateway_react (c : MbapConnection) (transaction : List UInt8)
    (unit : UInt8) (reaction : Reaction) :
    (c.react transaction unit reaction).gateway = c.gateway := by
  cases reaction with
  | answer pdu =>
    rw [MbapConnection.react, MbapConnection.send]
    split <;> rfl
  | silence => rfl
  | close => rfl

/-- **A request to the bridge is one to the gateway.** -/
theorem Bridges.request {c : MbapConnection} {d : DirectRun} (h : Bridges c d)
    (hopen : c.isOpen = true) (hsound : c.gateway.model.Sound) (b : MbapRtuTcpMockBridge)
    (moments : ℕ → Moment) (r : MbapRequest) :
    Bridges (c.request b moments (bigEndian r.transaction) r.request.unit r.pdu)
        (d.request b moments r) ∧
      (c.request b moments (bigEndian r.transaction) r.request.unit r.pdu).gateway.model.Sound := by
  obtain ⟨hbridge, hafter⟩ := bridgeExchange_eq hsound moments (b.reachable c.requests) r
  have hopen' : ¬¬d.isOpen = true := by simp [← h.isOpen, hopen]
  rw [DirectRun.request, if_neg hopen', MbapConnection.request, ← h.requests, ← h.gateway, hbridge]
  generalize directExchange (moments c.gateway.requests) (b.reachable c.requests) c.gateway
    r.request = after at hafter ⊢
  obtain ⟨result, gateway⟩ := after
  refine ⟨Bridges.react (c := { c with gateway := gateway, requests := c.requests + 1 })
    (d := { d with gateway := gateway, requests := c.requests + 1 })
    ⟨rfl, rfl, h.isOpen, h.got⟩ r _, ?_⟩
  dsimp only
  rw [MbapConnection.gateway_react]
  exact hafter

/-- Any number of requests to the bridge are as many to the gateway. -/
theorem Bridges.run {c : MbapConnection} {d : DirectRun} (h : Bridges c d)
    (hsound : c.gateway.model.Sound) (b : MbapRtuTcpMockBridge) (moments : ℕ → Moment)
    (requests : List MbapRequest) :
    Bridges (handleMbapClient b moments (requests.flatMap MbapRequest.frame) c)
      (requests.foldl (DirectRun.request b moments) d) := by
  induction requests generalizing c d with
  | nil =>
    rw [List.flatMap_nil, handleMbapClient.eq_def]
    exact h
  | cons r rs ih =>
    cases hopen : c.isOpen with
    | true =>
      obtain ⟨hstep, hstill⟩ := h.request hopen hsound b moments r
      rw [List.flatMap_cons, handleMbapClient_frame hopen, List.foldl_cons]
      exact ih hstep hstill
    | false =>
      have hd : d.request b moments r = d := if_pos (by simp [← h.isOpen, hopen])
      have hclosed := handleMbapClient_closed hopen b moments
      rw [hclosed, List.foldl_cons, hd, ← hclosed (rs.flatMap MbapRequest.frame)]
      exact ih h hsound

/-- **The bridge refines the simulated gateway.** Whatever requests a client sends one after the
other, the gateway is as if it had been asked directly, and the client has got its answers under
the numbers of the requests, in this order, except that the last one may still be held back. The
bridge keeps the connection open exactly as long as it can go on. -/
theorem mbapBridge_refines (b : MbapRtuTcpMockBridge) (moments : ℕ → Moment)
    (requests : List MbapRequest) {c : MbapConnection} (hsound : c.gateway.model.Sound)
    {replies : List (List UInt8)} (hgot : c.outbox.Got replies) :
    let after := handleMbapClient b moments (requests.flatMap MbapRequest.frame) c
    let direct := requests.foldl (DirectRun.request b moments)
      { gateway := c.gateway, requests := c.requests, replies := replies, isOpen := c.isOpen }
    after.gateway = direct.gateway ∧ after.isOpen = direct.isOpen ∧
      after.outbox.Got direct.replies := by
  have hstart : Bridges c
      { gateway := c.gateway, requests := c.requests, replies := replies, isOpen := c.isOpen } :=
    ⟨rfl, rfl, rfl, hgot⟩
  have hend := hstart.run hsound b moments requests
  exact ⟨hend.gateway, hend.isOpen, hend.got⟩

/-- The reply to the first request is broken, the second is answered by the gateway, the third is
for a unit that it does not have, and the fourth finds it out of reach. The client has yet to get
the last answer. -/
theorem mbapBridge_refines_blank :
    let b : MbapRtuTcpMockBridge := { bridgeExceptions := true, reachable := fun n => n ≠ 3 }
    let moments := fun _ : ℕ => ({ now := 0, wallSeconds := 0 } : Moment)
    let g : RtuTcpMockGateway :=
      { model := MockGatewayModel.blank, faults := [⟨some 1, .badCrc, 1⟩] }
    let requests : List MbapRequest :=
      [⟨7, ⟨1, 3, 41000, 2, .inl rfl⟩⟩, ⟨8, ⟨1, 6, 41000, 5, .inr rfl⟩⟩,
        ⟨9, ⟨3, 3, 41000, 2, .inl rfl⟩⟩, ⟨10, ⟨1, 3, 41000, 1, .inl rfl⟩⟩]
    let direct := requests.foldl (DirectRun.request b moments) { gateway := g }
    let after := handleMbapClient b moments (requests.flatMap MbapRequest.frame)
      { gateway := g, lateReplies := 4 }
    after.gateway = direct.gateway ∧ after.isOpen = direct.isOpen ∧
      after.outbox.Got direct.replies :=
  mbapBridge_refines { bridgeExceptions := true, reachable := fun n => n ≠ 3 }
    (fun _ => { now := 0, wallSeconds := 0 })
    [⟨7, ⟨1, 3, 41000, 2, .inl rfl⟩⟩, ⟨8, ⟨1, 6, 41000, 5, .inr rfl⟩⟩,
      ⟨9, ⟨3, 3, 41000, 2, .inl rfl⟩⟩, ⟨10, ⟨1, 3, 41000, 1, .inl rfl⟩⟩]
    (c := { gateway := { model := MockGatewayModel.blank, faults := [⟨some 1, .badCrc, 1⟩] },
            lateReplies := 4 })
    MockGatewayModel.constructed_blank.sound Outbox.got_nil

/-- With exceptions of its own, a bridge answers whatever asking the gateway comes to. -/
theorem exists_answer {b : MbapRtuTcpMockBridge} (hb : b.bridgeExceptions = true)
    (moment : Moment) (reachable : Bool) (g : RtuTcpMockGateway) (r : RtuRequest) :
    ∃ pdu, reaction b r.function (directExchange moment reachable g r).1 = .answer pdu := by
  have hexception : ∀ code otherwise, bridgeException b r.function code otherwise =
      .answer [r.function ||| 0x80, code] := fun code otherwise => if_pos hb
  unfold directExchange
  split
  · exact ⟨_, hexception _ _⟩
  split
  · rename_i exchange g' _
    cases exchange with
    | pdu pdu => exact ⟨pdu, rfl⟩
    | timeout => exact ⟨_, hexception _ _⟩
    | failed => exact ⟨_, hexception _ _⟩
  · exact ⟨_, hexception _ _⟩

/-- A response with the number and the unit of its request. -/
def Answers (r : MbapRequest) (reply : List UInt8) : Prop := ∃ pdu, reply = r.response pdu

theorem DirectRun.foldl_request {b : MbapRtuTcpMockBridge} (hb : b.bridgeExceptions = true)
    (moments : ℕ → Moment) (requests : List MbapRequest) {d : DirectRun} (hopen : d.isOpen = true) :
    (requests.foldl (DirectRun.request b moments) d).isOpen = true ∧
      ∃ answers, List.Forall₂ Answers requests answers ∧
        (requests.foldl (DirectRun.request b moments) d).replies = d.replies ++ answers := by
  induction requests generalizing d with
  | nil => exact ⟨hopen, [], .nil, (List.append_nil _).symm⟩
  | cons r rs ih =>
    obtain ⟨pdu, hpdu⟩ := exists_answer hb (moments d.gateway.requests) (b.reachable d.requests)
      d.gateway r.request
    have hstep : ∃ d', d.request b moments r = d' ∧ d'.isOpen = true ∧
        d'.replies = d.replies ++ [r.response pdu] := by
      refine ⟨_, rfl, ?_⟩
      rw [DirectRun.request, if_neg (by simp [hopen])]
      dsimp only
      rw [hpdu]
      exact ⟨hopen, rfl⟩
    obtain ⟨d', hd', hopen', hreplies⟩ := hstep
    obtain ⟨hend, answers, hanswers, hrest⟩ := ih hopen'
    rw [List.foldl_cons, hd']
    refine ⟨hend, r.response pdu :: answers, .cons ⟨pdu, rfl⟩ hanswers, ?_⟩
    rw [hrest, hreplies, List.append_assoc]
    rfl

/-- **Every request is answered exactly once.** A bridge with exceptions of its own keeps the
connection open, and its client gets one response to each request, under its number and from its
unit, in the order of the requests; the last one may still be held back. -/
theorem mbapBridge_answers {b : MbapRtuTcpMockBridge} (hb : b.bridgeExceptions = true)
    (moments : ℕ → Moment) (requests : List MbapRequest) {c : MbapConnection}
    (hopen : c.isOpen = true) (hsound : c.gateway.model.Sound) {replies : List (List UInt8)}
    (hgot : c.outbox.Got replies) :
    let after := handleMbapClient b moments (requests.flatMap MbapRequest.frame) c
    after.isOpen = true ∧ ∃ answers, List.Forall₂ Answers requests answers ∧
      after.outbox.Got (replies ++ answers) := by
  have hstart : Bridges c
      { gateway := c.gateway, requests := c.requests, replies := replies, isOpen := true } :=
    ⟨rfl, rfl, hopen, hgot⟩
  have hbridges := hstart.run hsound b moments requests
  obtain ⟨hend, answers, hanswers, hreplies⟩ := DirectRun.foldl_request hb moments requests
    (d := { gateway := c.gateway, requests := c.requests, replies := replies, isOpen := true }) rfl
  exact ⟨hbridges.isOpen.trans hend, answers, hanswers, hreplies ▸ hbridges.got⟩

/-- A broken reply, an answer of the gateway and a gateway out of reach: all three requests are
answered, the first of them late. -/
theorem mbapBridge_answers_blank :
    let b : MbapRtuTcpMockBridge := { bridgeExceptions := true, reachable := fun n => n ≠ 2 }
    let moments := fun _ : ℕ => ({ now := 0, wallSeconds := 0 } : Moment)
    let requests : List MbapRequest := [⟨7, ⟨1, 3, 41000, 2, .inl rfl⟩⟩,
      ⟨8, ⟨1, 6, 41000, 5, .inr rfl⟩⟩, ⟨9, ⟨1, 3, 41000, 1, .inl rfl⟩⟩]
    let after := handleMbapClient b moments (requests.flatMap MbapRequest.frame)
      { gateway := { model := MockGatewayModel.blank, faults := [⟨some 1, .badCrc, 1⟩] },
        lateReplies := 1 }
    after.isOpen = true ∧
      ∃ answers, List.Forall₂ Answers requests answers ∧ after.outbox.Got ([] ++ answers) :=
  mbapBridge_answers (b := { bridgeExceptions := true, reachable := fun n => n ≠ 2 }) rfl
    (fun _ => { now := 0, wallSeconds := 0 })
    [⟨7, ⟨1, 3, 41000, 2, .inl rfl⟩⟩, ⟨8, ⟨1, 6, 41000, 5, .inr rfl⟩⟩,
      ⟨9, ⟨1, 3, 41000, 1, .inl rfl⟩⟩]
    (c := { gateway := { model := MockGatewayModel.blank, faults := [⟨some 1, .badCrc, 1⟩] },
            lateReplies := 1 }) rfl
    MockGatewayModel.constructed_blank.sound Outbox.got_nil

end MeltemVentilation
