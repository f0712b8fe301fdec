import MeltemVentilation.MockGateway.Server

/-!
# Answers and their responses

What the simulated gateway answers to a request (`Answer`), and how the response with it is read
on the other side, by `_read_rtu_response` of the bridge in `tools/mock_gateway.py`. The reader
knows from the second byte, and for the values of registers from the third one, how many bytes
belong to the response; it waits for them, and then looks at the check.

**What is read is what was answered** (`readRtuResponse_frame`). Of the frame faults, four are
noticed (`readRtuResponse_distort`): the reader waits for the rest of a short response, and
refuses one with a wrong check, unit or function. The other three give a well-formed response
with another content, and it is read as such. More generally, **a disturbed response is not
taken for an answer** (`readRtuResponse_corrupted`), as long as the three bytes that say how
long it is have arrived as they were sent.
-/

namespace MeltemVentilation

/-! ### Answers -/

/-- What the simulated gateway answers to a request. -/
inductive Answer where
  | registers (values : List ℕ)
  | written
  | exception (code : ℕ)

namespace Answer

variable (r : RtuRequest)

/-- The answer without the unit and the check. -/
def pdu : Answer → List UInt8
  | .registers values => [r.function, UInt8.ofNat (values.length * 2)] ++
      values.flatMap fun value => bigEndian (UInt16.ofNat value)
  | .written => r.function :: requestEcho r.address r.value
  | .exception code => [r.function ||| 0x80, UInt8.ofNat code]

/-- The response with the answer. -/
def frame (answer : Answer) : List UInt8 := rtuFrame (r.unit :: answer.pdu r)

/-- An answer to a request that gives at most so many values. -/
def Fits (limit : ℕ) : Answer → Prop
  | .registers values => r.function = 3 ∧ values.length ≤ limit
  | .written => r.function = 6
  | .exception _ => True

/-- The count of bytes in a response is a byte. -/
def maxValues : ℕ := 127

end Answer

namespace RtuTcpMockGateway

/-- What is answered to a request, and the gateway after it. -/
def answer (g : RtuTcpMockGateway) (moment : Moment) (r : RtuRequest) :
    Except MockError (Answer × RtuTcpMockGateway) :=
  if r.function = 3 then
    (g.model.read (moment.now < g.warmupUntil) moment r.unit.toNat r.address.toNat
      r.value.toNat).map fun (result, model) =>
        (match result with
          | .error code => .exception code
          | .ok values => .registers values, { g with model := model })
  else
    (g.model.write moment.now r.unit.toNat r.address.toNat r.value.toNat).map
      fun (error, model) =>
        (match error with
          | some code => .exception code
          | none => .written, { g with model := model })

variable {g : RtuTcpMockGateway}

/-- As many values are read as have been asked for, at most 125. -/
theorem length_values {s t : MockGatewayModel} {warmingUp : Bool} {moment : Moment}
    {address register count : ℕ} {values : List ℕ}
    (h : s.read warmingUp moment address register count = .ok (.ok values, t)) :
    values.length = count ∧ count ≤ 125 := by
  unfold MockGatewayModel.read at h
  split at h
  · cases h
  rename_i hcount
  simp only [bind, Except.bind, pure, Except.pure] at h
  split at h
  · cases h
  split at h
  · cases h
  simp only [Except.ok.injEq, Prod.mk.injEq] at h
  obtain ⟨hvalues, -⟩ := h
  unfold MockGatewayModel.readValues at hvalues
  split at hvalues
  · cases hvalues
  split at hvalues
  · cases hvalues
  split at hvalues
  · cases hvalues
  cases hvalues
  refine ⟨by rw [List.length_map, List.length_range'], ?_⟩
  by_contra hbig
  exact hcount (.inl fun hboth => hbig hboth.2)

/-- **The response is the frame with the answer**, and the answer fits to the request. -/
theorem respond_eq_answer (h : g.model.Sound) (moment : Moment) (r : RtuRequest)
    (hmem : r.unit.toNat ∈ g.model.devices) :
    ∃ answer model, g.answer moment r = .ok (answer, { g with model := model }) ∧
      g.respond moment r = .ok (answer.frame r, { g with model := model }) ∧
      answer.Fits r 125 ∧ model.Sound := by
  unfold respond answer
  by_cases hread : r.function = 3
  · obtain ⟨result, t, ht, hsound, -⟩ := h.read_ok hmem (moment.now < g.warmupUntil) moment
      r.address.toNat r.value.toNat
    simp only [if_pos hread, ht, bind, Except.bind, pure, Except.pure, Except.map]
    cases result with
    | error code => exact ⟨_, t, rfl, rfl, trivial, hsound⟩
    | ok values =>
      obtain ⟨hlength, hcount⟩ := length_values ht
      refine ⟨_, t, rfl, ?_, ⟨hread, hlength ▸ hcount⟩, hsound⟩
      rw [Answer.frame, Answer.pdu, hlength]
      rfl
  · have hword : IsWord (r.address.toNat, r.value.toNat) :=
      ⟨Nat.le_of_lt_succ r.address.toNat_lt, Nat.le_of_lt_succ r.value.toNat_lt⟩
    obtain ⟨reply, t, ht, hsound⟩ := h.write_ok hmem moment.now hword
    simp only [if_neg hread, ht, bind, Except.bind, pure, Except.pure, Except.map]
    cases reply with
    | some code => exact ⟨_, t, rfl, rfl, trivial, hsound⟩
    | none => exact ⟨_, t, rfl, rfl, r.served.resolve_left hread, hsound⟩

end RtuTcpMockGateway

/-! ### Reading a response -/

/-- What the bytes that have arrived come to. -/
inductive RtuReading where
  | response (frame : List UInt8)
  /-- More bytes are awaited. -/
  | awaited
  /-- A `ConnectionError`. -/
  | refused

/-- A response whose check is looked at. -/
def checked (response : List UInt8) : RtuReading :=
  if Intact response then .response response else .refused

/-- `readexactly`, after which a response is complete. -/
def readRest (start : List UInt8) (count : ℕ) (stream : List UInt8) : RtuReading :=
  if count ≤ stream.length then checked (start ++ stream.take count) else .awaited

/-- A response that says itself how many bytes it has. -/
def readCounted (start : List UInt8) : List UInt8 → RtuReading
  | count :: stream => readRest (start ++ [count]) (count.toNat + 2) stream
  | [] => .awaited

/-- `_read_rtu_response`. -/
def readRtuResponse (stream : List UInt8) (unit requestFunction : UInt8) : RtuReading :=
  match stream with
  | responseUnit :: responseFunction :: rest =>
    if responseUnit ≠ unit then .refused
    else if responseFunction = requestFunction ||| 0x80 then
      readRest [responseUnit, responseFunction] 3 rest
    else if responseFunction ≠ requestFunction then .refused
    else if responseFunction = 3 then readCounted [responseUnit, responseFunction] rest
    else readRest [responseUnit, responseFunction] 6 rest
  | _ => .awaited

/-! ### What is read -/

/-- A response of which all bytes have arrived is looked at. -/
theorem readRest_length {start stream : List UInt8} {count : ℕ} (h : stream.length = count) :
    readRest start count stream = checked (start ++ stream) := by
  rw [readRest, if_pos h.ge, List.take_of_length_le h.le]

/-- A response of which the end is missing is awaited. -/
theorem readRest_short {start stream : List UInt8} {count : ℕ} (h : stream.length < count) :
    readRest start count stream = .awaited := by
  rw [readRest, if_neg h.not_ge]

theorem length_flatMap_bigEndian (words : List ℕ) :
    (words.flatMap fun word => bigEndian (UInt16.ofNat word)).length = words.length * 2 := by
  induction words with
  | nil => rfl
  | cons word words ih =>
    rw [List.flatMap_cons, List.length_append, ih, List.length_cons]
    simp only [bigEndian, List.length_cons, List.length_nil]
    omega

/-- The count of bytes that a response gives. -/
theorem toNat_count {values : List ℕ} (h : values.length ≤ Answer.maxValues) :
    (UInt8.ofNat (values.length * 2)).toNat = values.length * 2 := by
  rw [Answer.maxValues] at h
  rw [UInt8.toNat_ofNat']
  omega

section Reading

variable {r : RtuRequest} {answer : Answer}

/-- The length of a response. -/
theorem length_frame (answer : Answer) (r : RtuRequest) :
    (answer.frame r).length = (answer.pdu r).length + 3 := by
  rw [Answer.frame, length_rtuFrame, List.length_cons]

/-- An exception is told by its function code. -/
theorem exception_function (r : RtuRequest) :
    r.function ≠ r.function ||| 0x80 ∧ r.function ||| 0x80 ≠ 3 ∧ r.function ||| 0x80 ≠ 6 := by
  rcases r.served with hfunction | hfunction <;> rw [hfunction] <;> decide

/-- **How long a response is, its first three bytes say.** Bytes that begin like a response
and are as many are read to the end, whatever the others are. -/
theorem readRtuResponse_of_shape (h : answer.Fits r Answer.maxValues) {bytes : List UInt8}
    (hlength : bytes.length = (answer.frame r).length)
    (hhead : bytes.take 3 = (answer.frame r).take 3) :
    readRtuResponse bytes r.unit r.function = checked bytes := by
  rw [length_frame] at hlength
  have hexception := (exception_function r).1
  obtain ⟨rest, rfl⟩ : ∃ rest, bytes = (answer.frame r).take 3 ++ rest :=
    ⟨bytes.drop 3, by rw [← hhead, List.take_append_drop]⟩
  cases answer with
  | registers values =>
    obtain ⟨hread, hcount⟩ := h
    have hrest : rest.length = (UInt8.ofNat (values.length * 2)).toNat + 2 := by
      rw [toNat_count hcount]
      simp only [Answer.frame, Answer.pdu, rtuFrame, List.cons_append, List.take_succ_cons,
        List.take_zero, List.length_cons, List.length_nil, List.length_append,
        length_flatMap_bigEndian] at hlength
      omega
    simp only [Answer.frame, Answer.pdu, rtuFrame, List.cons_append, List.nil_append,
      List.take_succ_cons, List.take_zero]
    rw [readRtuResponse, if_neg (by simp), if_neg hexception, if_neg (by simp), if_pos hread]
    exact readRest_length hrest
  | written =>
    have hwrite : r.function ≠ 3 := by
      rw [show r.function = 6 from h]
      decide
    simp only [Answer.frame, Answer.pdu, requestEcho, bigEndian, rtuFrame, List.cons_append,
      List.nil_append, List.take_succ_cons, List.take_zero, List.length_cons, List.length_nil]
      at hlength ⊢
    rw [readRtuResponse, if_neg (by simp), if_neg hexception, if_neg (by simp), if_neg hwrite]
    exact readRest_length (by simp only [List.length_cons]; omega)
  | exception code =>
    simp only [Answer.frame, Answer.pdu, rtuFrame, List.cons_append, List.nil_append,
      List.take_succ_cons, List.take_zero, List.length_cons, List.length_nil] at hlength ⊢
    rw [readRtuResponse, if_neg (by simp), if_pos rfl]
    exact readRest_length (by simp only [List.length_cons]; omega)

/-- **What is read is what was answered.** -/
theorem readRtuResponse_frame (h : answer.Fits r Answer.maxValues) :
    readRtuResponse (answer.frame r) r.unit r.function = .response (answer.frame r) := by
  rw [readRtuResponse_of_shape h rfl rfl, checked, if_pos]
  exact intact_rtuFrame _

/-- A corrupted response is not intact. -/
theorem Answer.not_intact {bytes : List UInt8} (h : Corrupted (answer.frame r) bytes) :
    ¬Intact bytes := by
  have hlong : 2 ≤ (answer.frame r).length := by
    rw [length_frame]
    omega
  exact h.not_intact hlong (intact_rtuFrame _)

/-- **A disturbed response is not taken for an answer**, if its first three bytes have arrived
as they were sent. -/
theorem readRtuResponse_corrupted (h : answer.Fits r Answer.maxValues) {bytes : List UInt8}
    (hcorrupted : Corrupted (answer.frame r) bytes)
    (hhead : bytes.take 3 = (answer.frame r).take 3) :
    readRtuResponse bytes r.unit r.function = .refused := by
  rw [readRtuResponse_of_shape h hcorrupted.length_eq.symm hhead, checked,
    if_neg (Answer.not_intact hcorrupted)]

/-- The low byte of a value has changed on the line. -/
theorem readRtuResponse_corrupted_value :
    readRtuResponse [1, 3, 2, 0, 8, 120, 66] 1 3 = .refused := by
  have hframe : (Answer.registers [9]).frame ⟨1, 3, 41000, 1, .inl rfl⟩ =
      [1, 3, 2, 0, 9, 120, 66] := by decide
  have hcorrupted : Corrupted ((Answer.registers [9]).frame ⟨1, 3, 41000, 1, .inl rfl⟩)
      [1, 3, 2, 0, 8, 120, 66] :=
    .burst (wireBits [1, 3, 2, 0]) (byteBits 9) (byteBits 8) (wireBits [120, 66])
      (by rw [hframe]; rfl) rfl (by decide) rfl (by decide)
  have hfits : (Answer.registers [9]).Fits ⟨1, 3, 41000, 1, .inl rfl⟩ Answer.maxValues :=
    ⟨rfl, by decide⟩
  exact readRtuResponse_corrupted hfits hcorrupted (by rw [hframe]; rfl)

/-! ### What the faults leave of an answer -/

/-- What comes out of an exchange with the server. -/
inductive Exchange where
  | pdu (pdu : List UInt8)
  /-- No response, or not all of it, has come in time. -/
  | timeout
  /-- The response has been refused, or the connection has ended before it. -/
  | failed

/-- What a reading comes to, while the server keeps the connection open: `response[1:-2]`. -/
def RtuReading.exchange : RtuReading → Exchange
  | .response frame => .pdu ((withoutCheck frame).drop 1)
  | .awaited => .timeout
  | .refused => .failed

/-- **What a frame fault leaves of an answer**: the values of one more register, or another
address or value, are all that is not noticed. -/
def handOn (fault : Option FaultAction) (answer : Answer) (r : RtuRequest) : Exchange :=
  match fault, answer with
  | some .short, _ => .timeout
  | some .badCrc, _ | some .wrongUnit, _ | some .wrongFunction, _ => .failed
  | some .wrongLength, .registers values => .pdu ((Answer.registers (values ++ [0])).pdu r)
  | some .wrongAddress, .written => .pdu (r.function :: requestEcho (r.address + 1) r.value)
  | some .wrongValue, .written => .pdu (r.function :: requestEcho r.address (r.value + 1))
  | _, answer => .pdu (answer.pdu r)

/-- An answer of at most so many values is one of at most more. -/
theorem Answer.Fits.mono {limit limit' : ℕ} (h : answer.Fits r limit) (hle : limit ≤ limit') :
    answer.Fits r limit' := by
  cases answer with
  | registers values => exact ⟨h.1, h.2.trans hle⟩
  | written => exact h
  | exception code => trivial

theorem exchange_frame (h : answer.Fits r Answer.maxValues) :
    (readRtuResponse (answer.frame r) r.unit r.function).exchange = .pdu (answer.pdu r) := by
  rw [readRtuResponse_frame h, RtuReading.exchange, Answer.frame, withoutCheck_rtuFrame]
  rfl

/-- A frame that is not for the unit is refused. -/
theorem readRtuResponse_unit {unit unit' : UInt8} (h : unit' ≠ unit) (payload : List UInt8)
    (function : UInt8) (hpayload : payload ≠ []) :
    readRtuResponse (rtuFrame (unit' :: payload)) unit function = .refused := by
  obtain ⟨byte, payload, rfl⟩ := List.exists_cons_of_ne_nil hpayload
  simp only [rtuFrame, List.cons_append]
  rw [readRtuResponse, if_pos h]

/-- A frame with the function code 4 is refused. -/
theorem readRtuResponse_function (r : RtuRequest) (unit : UInt8) (payload : List UInt8) :
    readRtuResponse (rtuFrame (unit :: 4 :: payload)) r.unit r.function = .refused := by
  have hfour : (4 : UInt8) ≠ r.function ||| 0x80 ∧ 4 ≠ r.function := by
    rcases r.served with hfunction | hfunction <;> rw [hfunction] <;> decide
  simp only [rtuFrame, List.cons_append]
  rw [readRtuResponse, if_neg hfour.1, if_pos hfour.2, ite_self]

/-- A response without its check is awaited. -/
theorem readRtuResponse_short (h : answer.Fits r 125) :
    readRtuResponse (withoutCheck (answer.frame r)) r.unit r.function = .awaited := by
  have hexception := (exception_function r).1
  rw [Answer.frame, withoutCheck_rtuFrame]
  cases answer with
  | registers values =>
    rw [Answer.pdu, List.cons_append, List.cons_append, readRtuResponse, if_neg (by simp),
      if_neg hexception, if_neg (by simp), if_pos h.1]
    refine readRest_short ?_
    rw [toNat_count (h.2.trans (by decide)), List.nil_append, length_flatMap_bigEndian]
    omega
  | written =>
    have hwrite : r.function ≠ 3 := by
      rw [show r.function = 6 from h]
      decide
    rw [Answer.pdu, readRtuResponse, if_neg (by simp), if_neg hexception, if_neg (by simp),
      if_neg hwrite]
    exact readRest_short (by simp [requestEcho, bigEndian])
  | exception code =>
    rw [Answer.pdu, readRtuResponse, if_neg (by simp), if_pos rfl]
    exact readRest_short (by simp)

theorem wrongUnit_ne (unit : UInt8) : unit % 247 + 1 ≠ unit := by
  intro h
  have hnat := congrArg UInt8.toNat h
  rw [UInt8.toNat_add, UInt8.toNat_mod, show (247 : UInt8).toNat = 247 from rfl,
    show (1 : UInt8).toNat = 1 from rfl] at hnat
  have hlt := unit.toNat_lt
  omega

/-- A response whose last byte is another one is refused. -/
theorem readRtuResponse_badCrc (h : answer.Fits r 125) :
    readRtuResponse (distort (some .badCrc) (answer.frame r) r.address r.value) r.unit r.function =
      .refused := by
  have hlong : 3 ≤ (answer.frame r).dropLast.length := by
    rw [List.length_dropLast, length_frame]
    cases answer <;> simp [Answer.pdu, requestEcho, bigEndian]
  obtain ⟨start, last, hframe⟩ : ∃ start last, answer.frame r = start ++ [last] := by
    refine ⟨_, _, (List.dropLast_append_getLast (l := answer.frame r) ?_).symm⟩
    rintro hnil
    simp [hnil] at hlong
  have hstart : 3 ≤ start.length := by simpa [hframe] using hlong
  have hdistort : distort (some .badCrc) (answer.frame r) r.address r.value =
      start ++ [last ^^^ 0xFF] := by
    rw [hframe]
    simp [distort]
  have hlast : last ≠ last ^^^ 0xFF := by
    intro hsame
    have hzero : (0 : UInt8) = 0xFF := UInt8.xor_right_inj _ |>.mp ((UInt8.xor_zero).trans hsame)
    exact absurd hzero (by decide)
  have hcorrupted : Corrupted (answer.frame r) (start ++ [last ^^^ 0xFF]) := by
    refine .burst (wireBits start) (byteBits last) (byteBits (last ^^^ 0xFF)) [] ?_ ?_
      (fun hbits => hlast (byteBits_injective hbits)) (by simp) (by simp)
    · rw [hframe, wireBits_append, wireBits_cons, wireBits_nil, List.append_assoc]
    · rw [wireBits_append, wireBits_cons, wireBits_nil, List.append_assoc]
  have hhead : (start ++ [last ^^^ 0xFF]).take 3 = (answer.frame r).take 3 := by
    rw [hframe, List.take_append_of_le_length hstart, List.take_append_of_le_length hstart]
  rw [hdistort, readRtuResponse_of_shape (h.mono (by decide)) hcorrupted.length_eq.symm hhead,
    checked, if_neg (Answer.not_intact hcorrupted)]

/-- A frame fault that concerns responses with another function code changes nothing. -/
theorem distort_eq_self {fault : FaultAction} {response : List UInt8} {address value : UInt16}
    (hlength : fault = .wrongLength → response.getD 1 0 ≠ 3)
    (hecho : fault = .wrongAddress ∨ fault = .wrongValue → response.getD 1 0 ≠ 6)
    (hfault : fault = .wrongLength ∨ fault = .wrongAddress ∨ fault = .wrongValue) :
    distort (some fault) response address value = response := by
  rcases hfault with rfl | rfl | rfl
  · exact if_neg (hlength rfl)
  · exact if_neg (hecho (.inl rfl))
  · exact if_neg (hecho (.inr rfl))

/-- The function code of a response. -/
theorem getD_frame (answer : Answer) (r : RtuRequest) :
    (answer.frame r).getD 1 0 = (answer.pdu r).getD 0 0 := by
  cases answer <;> rfl

theorem getD_frame_registers (h : r.function = 3) (values : List ℕ) :
    ((Answer.registers values).frame r).getD 1 0 = 3 := by
  rw [getD_frame, ← h]
  rfl

/-- A response with a wrong length is that with one more value. -/
theorem distort_wrongLength {values : List ℕ} (h : r.function = 3) (address value : UInt16) :
    distort (some .wrongLength) ((Answer.registers values).frame r) address value =
      (Answer.registers (values ++ [0])).frame r := by
  have hcount : UInt8.ofNat ((values ++ [0]).length * 2) = UInt8.ofNat (values.length * 2) + 2 := by
    rw [List.length_append, Nat.add_mul, UInt8.ofNat_add]
    rfl
  rw [distort, if_pos (by rw [getD_frame]; exact h), Answer.frame, withoutCheck_rtuFrame,
    Answer.frame, Answer.pdu, Answer.pdu, hcount, List.flatMap_append]
  simp only [List.append_assoc]
  rfl

/-- **What is read of a broken response.** -/
theorem readRtuResponse_distort (h : answer.Fits r 125) (fault : Option FaultAction) :
    (readRtuResponse (distort fault (answer.frame r) r.address r.value) r.unit r.function).exchange
      = handOn fault answer r := by
  have hsame := exchange_frame (h.mono (show 125 ≤ Answer.maxValues by decide))
  cases fault with
  | none => exact hsame
  | some action =>
    cases action with
    | badCrc =>
      rw [readRtuResponse_badCrc h]
      cases answer <;> rfl
    | short =>
      rw [show distort (some .short) (answer.frame r) r.address r.value =
        withoutCheck (answer.frame r) from rfl, readRtuResponse_short h]
      cases answer <;> rfl
    | wrongUnit =>
      have hdistort : distort (some .wrongUnit) (answer.frame r) r.address r.value =
          rtuFrame ((r.unit % 247 + 1) :: answer.pdu r) := by
        rw [distort, Answer.frame, withoutCheck_rtuFrame]
        rfl
      rw [hdistort, readRtuResponse_unit (wrongUnit_ne r.unit)]
      · cases answer <;> rfl
      · cases answer <;> simp [Answer.pdu]
    | wrongFunction =>
      have hdistort : distort (some .wrongFunction) (answer.frame r) r.address r.value =
          rtuFrame (r.unit :: 4 :: (answer.pdu r).drop 1) := by
        rw [distort, Answer.frame, withoutCheck_rtuFrame]
        rfl
      rw [hdistort, readRtuResponse_function]
      cases answer <;> rfl
    | wrongLength =>
      cases answer with
      | registers values =>
        rw [distort_wrongLength h.1]
        refine exchange_frame ⟨h.1, ?_⟩
        have hcount := h.2
        rw [List.length_append, List.length_singleton, Answer.maxValues]
        omega
      | written =>
        rwa [distort_eq_self (fun _ => ?_) (by simp) (by simp)]
        rw [getD_frame, show (Answer.written.pdu r).getD 0 0 = r.function from rfl,
          show r.function = 6 from h]
        decide
      | exception code =>
        rwa [distort_eq_self (fun _ => ?_) (by simp) (by simp)]
        rw [getD_frame]
        exact (exception_function r).2.1
    | wrongAddress =>
      cases answer with
      | registers values =>
        rwa [distort_eq_self (by simp) (fun _ => ?_) (by simp)]
        rw [getD_frame_registers h.1]
        decide
      | written =>
        rw [distort, if_pos (by rw [getD_frame]; exact h)]
        exact @exchange_frame { r with address := r.address + 1 } .written h
      | exception code =>
        rwa [distort_eq_self (by simp) (fun _ => ?_) (by simp)]
        rw [getD_frame]
        exact (exception_function r).2.2
    | wrongValue =>
      cases answer with
      | registers values =>
        rwa [distort_eq_self (by simp) (fun _ => ?_) (by simp)]
        rw [getD_frame_registers h.1]
        decide
      | written =>
        rw [distort, if_pos (by rw [getD_frame]; exact h)]
        exact @exchange_frame { r with value := r.value + 1 } .written h
      | exception code =>
        rwa [distort_eq_self (by simp) (fun _ => ?_) (by simp)]
        rw [getD_frame]
        exact (exception_function r).2.2
    | _ => exact hsame

end Reading

end MeltemVentilation
