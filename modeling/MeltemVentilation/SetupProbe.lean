import MeltemVentilation.Device.Transport
import MeltemVentilation.FlowHelpers
import MeltemVentilation.ModbusClient.RoomRead

/-!
# The setup probe of a unit

`detect_slave_details` of `modbus_helpers.py` reads the registers of a unit that tell which
sensors it has, one after the other, through the policy of the link. It has the link for itself,
so that a call of `run` is one function here (`ProbeLink.run`), made of the same parts as the
steps of `Transport`. The unit has fixed registers; which replies are lost, and how long
everything takes, is the `ProbeSchedule`.

A lost or garbled reply must not make a sensor unit look like a plain one. The policy pauses the
reads of the unit and does not send the request again, since its reply may still arrive. The
probe waits for the end of the pause and reads once more, if the unit has answered before. The
theorem `detectSlaveDetails_eq` says that this is enough as long as no reply is lost twice in a
row: an answer ends the count of timeouts, which therefore never gets as far as to recycle the
link (`Ready`, `Paused`).
-/

namespace MeltemVentilation

/-! ### What is read -/

/-- The reads of the probe, each of one block of registers. -/
inductive ProbeRead where
  | productId
  | humidityExtractAir
  | humiditySupplyAir
  | co2ExtractAir
  | vocSupplyAir
  | appSetupCode
deriving DecidableEq, Repr

/-- `_PROBE_COMPONENTS`. -/
def probeComponents : List ProbeRead :=
  [.productId, .humidityExtractAir, .humiditySupplyAir, .co2ExtractAir, .vocSupplyAir]

/-- The words of a block, the low one first; a single register has no second one. -/
abbrev ProbeWords := ℕ × ℕ

/-- The value of a component: the product identifier has two words. -/
def ProbeRead.value (read : ProbeRead) (words : ProbeWords) : ℕ :=
  if read = .productId then words.1 + words.2 * 65536 else words.1

/-- `_format_app_setup_code`: an `R` and six hexadecimal digits. -/
def formatAppSetupCode (lowWord highWord : ℕ) : Option String :=
  if 0xFF < highWord then none
  else
    let code := highWord * 65536 + lowWord
    if code = 0 then none
    else
      let digits := (Nat.toDigits 16 code).map Char.toUpper
      some (String.ofList ('R' :: List.replicate (6 - digits.length) '0' ++ digits))

/-- The sensor of a read, which the polls read as well. -/
def ProbeRead.sensor : ProbeRead → Option RoomField
  | .humidityExtractAir => some .humidityExtractAir
  | .humiditySupplyAir => some .humiditySupplyAir
  | .co2ExtractAir => some .co2ExtractAir
  | .vocSupplyAir => some .vocSupplyAir
  | .productId | .appSetupCode => none

/-- `is_plausible`. -/
def isPlausible (read : ProbeRead) (value : Option ℕ) : Bool :=
  match read.sensor.bind plausibleRange, value with
  | some (low, high), some value => low ≤ value ∧ value ≤ high
  | _, _ => false

/-- `_SUFFIXES`: the suffix, its preview and the sensors of which one is enough. -/
def probeSuffixes : List (String × String × List ProbeRead) :=
  [("fc_voc", "VOC", [.vocSupplyAir]),
    ("fc", "CO2", [.co2ExtractAir]),
    ("f", "humidity", [.humidityExtractAir, .humiditySupplyAir])]

/-- `product_metadata`, as it is shown: series and model. -/
def productMetadata (productId : ℕ) : Option (String × String) :=
  [(116819, "M-WRG", "VMD-22RES22"), (116852, "M-WRG-II", "VMD-22RPS44")].lookup productId

/-- `UnitProbeResult`, with the profile that is proposed. -/
structure SlaveDetails extends UnitProbeResult where
  profile : String
deriving DecidableEq, Repr

/-- The end of `detect_slave_details`: what the values and the setup code say. -/
def slaveDetails (values : List (ProbeRead × ℕ)) (appSetupCode : Option String) : SlaveDetails :=
  let detected := probeComponents.filter fun read => isPlausible read (values.lookup read)
  let (suffix, capability) :=
    match probeSuffixes.find? fun (_, _, reads) => reads.any (· ∈ detected) with
    | some (suffix, preview, _) => (suffix, preview)
    | none => ("plain", "basic")
  let productId := values.lookup .productId
  let parts :=
    (appSetupCode.map fun code => "R-Code " ++ code).toList ++
      (match productId with
      | none => []
      | some productId =>
        ("ID " ++ toString productId) ::
          ((productMetadata productId).map fun (series, model) =>
            "App: " ++ series ++ " (" ++ model ++ ")").toList) ++
      [capability]
  { profile := suffix
    preview := some (" | ".intercalate parts)
    productId := productId.map Int.ofNat
    appSetupCode := appSetupCode }

/-! ### The link -/

/-- What happens to the requests of the probe: whether the reply to each attempt of a read is
lost, and how long everything takes. -/
structure ProbeSchedule where
  /-- The error in place of the reply; `none` if the unit is heard. -/
  lost : ProbeRead → ℕ → Option RequestError
  requestTime : ProbeRead → ℕ → Monotonic
  /-- How much later than asked for a sleep before an attempt ends. -/
  oversleep : ProbeRead → ℕ → Monotonic
  disconnectTime : Monotonic

/-- The link while a unit is probed. -/
structure ProbeLink where
  transport : Transport
  /-- `unit.connected`. -/
  connected : Bool
  /-- How many requests have been sent for each read. -/
  requests : ProbeRead → ℕ

/-- What the probe is about: a unit and its registers, `none` where they are refused, and what
happens on the link. -/
structure ProbedUnit where
  unitId : ℕ
  registers : ProbeRead → Option ProbeWords
  schedule : ProbeSchedule

namespace ProbeLink

/-- A time passes. -/
def sleep (s : ProbeLink) (duration : Monotonic) : ProbeLink :=
  { s with transport := { s.transport with now := s.transport.now + duration } }

/-- `_wait_for_read_slot`. -/
def waitForReadSlot (s : ProbeLink) (oversleep : Monotonic) : ProbeLink :=
  if s.transport.slotReached then s
  else
    s.sleep ((s.transport.lastReadFinished.getD 0 + s.transport.readInterval - s.transport.now) +
      oversleep)

/-- `_count_timeout`. -/
def countTimeout (s : ProbeLink) (disconnectTime : Monotonic) : ProbeLink :=
  if s.transport.recyclesLink then
    { s with
      transport := { s.transport with
        consecutiveTimeouts := 0
        quietSince := s.transport.now
        linkRecycles := s.transport.linkRecycles + 1
        now := s.transport.now + disconnectTime }
      connected := false }
  else
    { s with
      transport := { s.transport with
        consecutiveTimeouts := s.transport.consecutiveTimeouts + 1 } }

variable (unit : ProbedUnit) (read : ProbeRead)

/-- The reply to an attempt. -/
def reply (attempt : ℕ) : Except RequestError ProbeWords :=
  match unit.schedule.lost read attempt with
  | some error => .error error
  | none =>
    match unit.registers read with
    | none => .error .refused
    | some words => .ok words

/-- A request is sent, on a link that is opened if it has been dropped. -/
def request (s : ProbeLink) : ProbeLink :=
  { s.sleep (unit.schedule.requestTime read (s.requests read)) with
    connected := true
    requests := Function.update s.requests read (s.requests read + 1) }

/-- **`_attempt`.** -/
def attempt (s : ProbeLink) : Except RequestError ProbeWords × ProbeLink :=
  let s := s.waitForReadSlot (unit.schedule.oversleep read (s.requests read))
  if s.transport.closed then (.error .clientClosed, s)
  else
    let result := reply unit read (s.requests read)
    let s := s.request unit read
    let request : Request := { unitId := unit.unitId, isRead := true }
    match result with
    | .ok words =>
      (.ok words, { s with transport := (s.transport.recordReply request .answered).linkAnswered })
    | .error error =>
      let s := { s with transport := s.transport.recordReply request (.raised error) }
      if error.isException then
        (.error error, { s with transport := s.transport.linkAnswered })
      else if error.isNoAnswer then (.error error, s.countTimeout unit.schedule.disconnectTime)
      else (.error error, s)

/-- What a read that has been answered leaves. -/
def answeredRead : Except RequestError ProbeWords × ProbeLink →
    Except RequestError ProbeWords × ProbeLink
  | (.ok words, s) =>
    (.ok words, { s with transport := s.transport.withQuarantine unit.unitId none })
  | (.error error, s) => (.error error, s)

/-- **`run`**, for a read that nothing else gets in the way of. The refusal of a read during the
recovery pause, `ReadQuarantinedError`, is a protocol error. -/
def run (s : ProbeLink) : Except RequestError ProbeWords × ProbeLink :=
  if s.transport.closed then (.error .clientClosed, s)
  else if s.transport.readDelayed unit.unitId then (.error .protocolError, s)
  else
    match s.attempt unit read with
    | (.ok words, t) => answeredRead unit (.ok words, t)
    | (.error error, t) =>
      if !error.retried || t.transport.readDelayed unit.unitId then (.error error, t)
      else if error = .connectionLost then
        answeredRead unit ((t.sleep (t.transport.connectionRetryDelay +
          unit.schedule.oversleep read (t.requests read))).attempt unit read)
      else answeredRead unit (t.attempt unit read)

end ProbeLink

/-! ### The probe -/

/-- `_ProbeOutcome`, with the value. -/
inductive ProbeOutcome where
  | value (words : ProbeWords)
  /-- The unit has answered with an exception response. -/
  | absent
  | silent
deriving DecidableEq, Repr

/-- The errors of the probe. -/
inductive ProbeError where
  /-- `MeltemConnectionError`. -/
  | connection
  /-- An error that is not expected of the link. -/
  | unexpected
deriving DecidableEq, Repr

section Probe

variable (unit : ProbedUnit)

/-- **`_probe_read`**, with the number of times that the read may still be repeated. -/
def probeRead (read : ProbeRead) (answered : Bool) :
    ℕ → ProbeLink → Except ProbeError ProbeOutcome × ProbeLink
  | repeats, s =>
    match s.run unit read with
    | (.ok words, s) => (.ok (.value words), s)
    | (.error .connectionLost, s) | (.error .clientClosed, s) => (.error .connection, s)
    | (.error .timeout, s) =>
      -- A timeout without an open link is a failure to connect.
      if !s.connected then (.error .connection, s)
      else
        match repeats with
        | 0 => (.ok .silent, s)
        | repeats + 1 =>
          if answered then
            probeRead read answered repeats (s.sleep (seconds transportReadRecoverySeconds +
              unit.schedule.oversleep read (s.requests read)))
          else (.ok .silent, s)
    | (.error .protocolError, s) =>
      match repeats with
      | 0 => (.ok .silent, s)
      | repeats + 1 =>
        probeRead read answered repeats (s.sleep (seconds transportReadRecoverySeconds +
          unit.schedule.oversleep read (s.requests read)))
    | (.error .refused, s) | (.error .gatewayTarget, s) => (.ok .absent, s)
    | (.error .other, s) => (.error .unexpected, s)

/-- The loop over the components: the values, and whether the unit has fallen silent and has
answered. -/
def probeAll : List ProbeRead → List (ProbeRead × ℕ) → Bool → ProbeLink →
    Except ProbeError (List (ProbeRead × ℕ) × Bool × Bool) × ProbeLink
  | [], values, answered, s => (.ok (values, false, answered), s)
  | read :: reads, values, answered, s =>
    match probeRead unit read answered 1 s with
    | (.error error, s) => (.error error, s)
    | (.ok .silent, s) => (.ok (values, true, answered), s)
    | (.ok .absent, s) => probeAll reads values true s
    | (.ok (.value words), s) => probeAll reads (values ++ [(read, read.value words)]) true s

/-- **`detect_slave_details`.** -/
def detectSlaveDetails (s : ProbeLink) : Except ProbeError SlaveDetails × ProbeLink :=
  match probeAll unit probeComponents [] false s with
  | (.error error, s) => (.error error, s)
  | (.ok (values, true, _), s) => (.ok (slaveDetails values none), s)
  | (.ok (values, false, answered), s) =>
    match probeRead unit .appSetupCode answered 1 s with
    | (.error error, s) => (.error error, s)
    | (.ok (.value words), s) => (.ok (slaveDetails values (formatAppSetupCode words.1 words.2)), s)
    | (.ok _, s) => (.ok (slaveDetails values none), s)

end Probe

/-! ### What a unit has -/

/-- How a read ends that is heard. -/
def probedOutcome (unit : ProbedUnit) (read : ProbeRead) : ProbeOutcome :=
  match unit.registers read with
  | none => .absent
  | some words => .value words

/-- What the registers of a unit say about it. -/
def probedDetails (unit : ProbedUnit) : SlaveDetails :=
  slaveDetails
    (probeComponents.filterMap fun read =>
      (unit.registers read).map fun words => (read, read.value words))
    ((unit.registers .appSetupCode).bind fun words => formatAppSetupCode words.1 words.2)

/-! ### The link between two reads -/

namespace ProbeLink

/-- **The link before a read**: it is open, and the unit may be read. The policy waits for more
than one timeout before it recycles the link. -/
structure Ready (unitId : ℕ) (s : ProbeLink) : Prop where
  closed : s.transport.closed = false
  connected : s.connected = true
  threshold : 2 ≤ s.transport.disconnectAfterTimeouts
  delayed : s.transport.readDelayed unitId = false

/-- The unit has been heard last. -/
def Heard (s : ProbeLink) : Prop := s.transport.consecutiveTimeouts = 0

/-- **The link after a lost reply**: it is still open, and the unit may be read again when its
pause is over. -/
structure Paused (unitId : ℕ) (s : ProbeLink) : Prop where
  closed : s.transport.closed = false
  connected : s.connected = true
  threshold : 2 ≤ s.transport.disconnectAfterTimeouts
  pause : s.transport.unansweredReads unitId =
    some (s.transport.now + seconds transportReadRecoverySeconds)

section Attempt

variable {unit : ProbedUnit} {read other : ProbeRead} {s : ProbeLink} {error : RequestError}
  {oversleep duration : Monotonic}

/-- A sleep through the recovery pause ends it. -/
theorem Paused.sleep {unitId : ℕ} (h : Paused unitId s) (oversleep : Monotonic) :
    Ready unitId (s.sleep (seconds transportReadRecoverySeconds + oversleep)) where
  closed := h.closed
  connected := h.connected
  threshold := h.threshold
  delayed := by
    simp only [Transport.readDelayed, ProbeLink.sleep, h.pause, Option.getD_some,
      decide_eq_false_iff_not, not_lt, ← Nat.add_assoc]
    exact Nat.le_add_right _ _

theorem Ready.sleep {unitId : ℕ} (h : Ready unitId s) (duration : Monotonic) :
    Ready unitId (s.sleep duration) where
  closed := h.closed
  connected := h.connected
  threshold := h.threshold
  delayed := by
    have hdelayed := of_decide_eq_false h.delayed
    exact decide_eq_false (Nat.not_lt.mpr (Nat.le_add_right_of_le (Nat.not_lt.mp hdelayed)))

/-- The link when the request of an attempt has been sent. -/
def sent (unit : ProbedUnit) (read : ProbeRead) (s : ProbeLink) : ProbeLink :=
  (s.waitForReadSlot (unit.schedule.oversleep read (s.requests read))).request unit read

/-- What an attempt does before the reply comes. -/
theorem sent_cases (unit : ProbedUnit) (read : ProbeRead) (s : ProbeLink) : ∃ duration,
    s.sent unit read = { s.sleep duration with
      connected := true
      requests := Function.update s.requests read (s.requests read + 1) } := by
  unfold sent waitForReadSlot
  split
  · exact ⟨_, rfl⟩
  · exact ⟨_ + _, by simp only [request, ProbeLink.sleep, Nat.add_assoc]; rfl⟩

theorem Ready.sent (h : Ready unit.unitId s) (read : ProbeRead) :
    Ready unit.unitId (s.sent unit read) := by
  obtain ⟨duration, hsent⟩ := sent_cases unit read s
  rw [hsent]
  exact { h.sleep duration with connected := rfl }

theorem requests_sent : (s.sent unit read).requests =
    Function.update s.requests read (s.requests read + 1) := by
  obtain ⟨duration, hsent⟩ := sent_cases unit read s
  rw [hsent]

/-- The request of a read. -/
def readRequest (unit : ProbedUnit) : Request := { unitId := unit.unitId, isRead := true }

/-- What the reply to an attempt does. -/
theorem attempt_eq (h : s.transport.closed = false) : s.attempt unit read =
    match reply unit read (s.requests read) with
    | .ok words => (.ok words, { s.sent unit read with
        transport := ((s.sent unit read).transport.recordReply (readRequest unit)
          .answered).linkAnswered })
    | .error error =>
      let t := { s.sent unit read with
        transport := (s.sent unit read).transport.recordReply (readRequest unit)
          (.raised error) }
      if error.isException then (.error error, { t with transport := t.transport.linkAnswered })
      else if error.isNoAnswer then (.error error, t.countTimeout unit.schedule.disconnectTime)
      else (.error error, t) := by
  have hslot : ∀ oversleep, (s.waitForReadSlot oversleep).transport.closed = false ∧
      (s.waitForReadSlot oversleep).requests = s.requests := by
    intro oversleep
    unfold waitForReadSlot
    split
    · exact ⟨h, rfl⟩
    · exact ⟨h, rfl⟩
  unfold attempt
  simp only [(hslot _).1, (hslot _).2, Bool.false_eq_true, if_false]
  rfl

/-- **A reply that is heard**: what the registers say, on a link without timeouts. -/
theorem attempt_of_heard (h : Ready unit.unitId s)
    (hlost : unit.schedule.lost read (s.requests read) = none) :
    ∃ t, s.attempt unit read = (match unit.registers read with
        | none => .error .refused
        | some words => .ok words, t) ∧
      Ready unit.unitId t ∧ Heard t ∧
        t.requests = Function.update s.requests read (s.requests read + 1) := by
  have hsent := h.sent read
  rw [attempt_eq h.closed]
  cases hregisters : unit.registers read with
  | none =>
    refine ⟨{ s.sent unit read with
      transport := ((s.sent unit read).transport.recordReply (readRequest unit)
        (.raised .refused)).linkAnswered }, ?_, ?_, rfl, requests_sent⟩
    · simp only [reply, hlost, hregisters]
      rfl
    · exact ⟨hsent.closed, hsent.connected, hsent.threshold, hsent.delayed⟩
  | some words =>
    refine ⟨{ s.sent unit read with
      transport := ((s.sent unit read).transport.recordReply (readRequest unit)
        .answered).linkAnswered }, ?_, ?_, rfl, requests_sent⟩
    · simp only [reply, hlost, hregisters]
    · exact ⟨hsent.closed, hsent.connected, hsent.threshold, hsent.delayed⟩

/-- **A reply that is lost** pauses the unit. It is the first one since the unit has been heard,
so that the link is not recycled. -/
theorem attempt_of_lost (h : Ready unit.unitId s) (hheard : Heard s)
    (hlost : unit.schedule.lost read (s.requests read) = some error)
    (herror : error = .timeout ∨ error = .protocolError) :
    ∃ t, s.attempt unit read = (.error error, t) ∧ Paused unit.unitId t ∧
      t.requests = Function.update s.requests read (s.requests read + 1) := by
  have hsent := h.sent read
  have hcount : (s.sent unit read).transport.consecutiveTimeouts = 0 := by
    obtain ⟨duration, hduration⟩ := sent_cases unit read s
    rw [hduration]
    exact hheard
  set t : ProbeLink := { s.sent unit read with
    transport := (s.sent unit read).transport.recordReply (readRequest unit) (.raised error) }
    with ht
  have hunanswered : (Reply.raised error).isUnanswered = true := by
    rcases herror with rfl | rfl <;> rfl
  -- It is the first timeout in a row, below the threshold at which the link is recycled.
  have hrecycles : t.transport.recyclesLink = false := by
    have hthreshold := hsent.threshold
    simp only [ht, Transport.recyclesLink, Transport.recordReply, readRequest, hunanswered,
      if_true, Transport.withQuarantine, hcount]
    rw [decide_eq_false (by omega), Bool.false_and]
  have hattempt : s.attempt unit read =
      (.error error, t.countTimeout unit.schedule.disconnectTime) := by
    rw [attempt_eq h.closed]
    simp only [reply, hlost, ← ht]
    rcases herror with rfl | rfl <;> rfl
  refine ⟨_, hattempt, ?_, ?_⟩
  · rw [countTimeout, hrecycles, if_neg Bool.false_ne_true]
    refine ⟨?_, hsent.connected, ?_, ?_⟩
    all_goals
      simp only [ht, Transport.recordReply, readRequest, hunanswered, if_true,
        Transport.withQuarantine]
    · exact hsent.closed
    · exact hsent.threshold
    · exact Function.update_self ..
  · rw [countTimeout, hrecycles, if_neg Bool.false_ne_true]
    exact requests_sent

/-- **A call of `run` that is heard.** -/
theorem run_of_heard (h : Ready unit.unitId s)
    (hlost : unit.schedule.lost read (s.requests read) = none) :
    ∃ t, s.run unit read = (match unit.registers read with
        | none => .error .refused
        | some words => .ok words, t) ∧
      Ready unit.unitId t ∧ Heard t ∧
        t.requests = Function.update s.requests read (s.requests read + 1) := by
  obtain ⟨t, hattempt, hready, hheard, hrequests⟩ := attempt_of_heard h hlost
  rw [run, h.closed, if_neg Bool.false_ne_true, h.delayed, if_neg Bool.false_ne_true, hattempt]
  cases hregisters : unit.registers read with
  | none => exact ⟨t, rfl, hready, hheard, hrequests⟩
  | some words =>
    refine ⟨{ t with transport := t.transport.withQuarantine unit.unitId none }, rfl, ?_, hheard,
      hrequests⟩
    refine ⟨hready.closed, hready.connected, hready.threshold, ?_⟩
    simp [Transport.readDelayed, Transport.withQuarantine]

/-- **A call of `run` whose reply is lost** makes no second attempt. -/
theorem run_of_lost (h : Ready unit.unitId s) (hheard : Heard s)
    (hlost : unit.schedule.lost read (s.requests read) = some error)
    (herror : error = .timeout ∨ error = .protocolError) :
    ∃ t, s.run unit read = (.error error, t) ∧ Paused unit.unitId t ∧
      t.requests = Function.update s.requests read (s.requests read + 1) := by
  obtain ⟨t, hattempt, hpaused, hrequests⟩ := attempt_of_lost h hheard hlost herror
  have hdelayed : t.transport.readDelayed unit.unitId = true := by
    simp only [Transport.readDelayed, hpaused.pause, Option.getD_some, decide_eq_true_eq]
    exact Nat.lt_add_of_pos_right (by decide)
  refine ⟨t, ?_, hpaused, hrequests⟩
  rw [run, h.closed, if_neg Bool.false_ne_true, h.delayed, if_neg Bool.false_ne_true, hattempt]
  simp only [hdelayed, Bool.or_true, if_true]

end Attempt

end ProbeLink

/-! ### One read of the probe -/

section Reads

open ProbeLink

variable {unit : ProbedUnit} {read : ProbeRead} {s : ProbeLink} {answered : Bool}

/-- What a read of the probe leaves: the unit has been heard, and no other read has been sent. -/
structure ReadDone (unit : ProbedUnit) (read : ProbeRead) (s t : ProbeLink) : Prop where
  ready : Ready unit.unitId t
  heard : Heard t
  requests : ∀ other, other ≠ read → t.requests other = s.requests other

/-- **A read that is heard**, at the first attempt or at the second one. -/
theorem probeRead_of_heard (answered : Bool) (repeats : ℕ) (h : Ready unit.unitId s)
    (hlost : unit.schedule.lost read (s.requests read) = none) :
    ∃ t, probeRead unit read answered repeats s = (.ok (probedOutcome unit read), t) ∧
      ReadDone unit read s t := by
  obtain ⟨t, hrun, hready, hheard, hrequests⟩ := run_of_heard h hlost
  refine ⟨t, ?_, hready, hheard, fun other hne => ?_⟩
  · rw [probeRead.eq_def]
    dsimp only
    rw [hrun]
    cases hregisters : unit.registers read with
    | none => simp only [probedOutcome, hregisters]
    | some words => simp only [probedOutcome, hregisters]
  · rw [hrequests, Function.update_of_ne hne]

/-- **A read whose first reply is lost**: the unit has answered before, so that it is read again
after the pause. -/
theorem probeRead_of_lost (h : Ready unit.unitId s) (hheard : Heard s) {error : RequestError}
    (hlost : unit.schedule.lost read (s.requests read) = some error)
    (herror : error = .timeout ∨ error = .protocolError)
    (hagain : unit.schedule.lost read (s.requests read + 1) = none) :
    ∃ t, probeRead unit read true 1 s = (.ok (probedOutcome unit read), t) ∧
      ReadDone unit read s t := by
  obtain ⟨u, hrun, hpaused, hrequests⟩ := run_of_lost h hheard hlost herror
  have hsent : u.requests read = s.requests read + 1 := by
    rw [hrequests, Function.update_self]
  have hready := hpaused.sleep (unit.schedule.oversleep read (u.requests read))
  have hsecond : unit.schedule.lost read ((u.sleep (seconds transportReadRecoverySeconds +
      unit.schedule.oversleep read (u.requests read))).requests read) = none := by
    change unit.schedule.lost read (u.requests read) = none
    rw [hsent]
    exact hagain
  obtain ⟨t, hread, hdone⟩ := probeRead_of_heard true 0 hready hsecond
  refine ⟨t, ?_, hdone.ready, hdone.heard, fun other hne => ?_⟩
  · rw [probeRead.eq_def]
    dsimp only
    rw [hrun]
    rcases herror with rfl | rfl
    · simp only [hpaused.connected, Bool.not_true, Bool.false_eq_true, if_false, if_true]
      exact hread
    · exact hread
  · rw [hdone.requests other hne]
    change u.requests other = s.requests other
    rw [hrequests, Function.update_of_ne hne]

/-! ### The whole probe -/

/-- **No reply is lost twice in a row**, and only by a timeout or garbled. -/
structure LosesSingleReplies (schedule : ProbeSchedule) : Prop where
  kinds : ∀ read attempt error, schedule.lost read attempt = some error →
    error = .timeout ∨ error = .protocolError
  single : ∀ read attempt, schedule.lost read attempt ≠ none →
    schedule.lost read (attempt + 1) = none

/-- A read of a unit that has answered gives what its registers say. -/
theorem exists_probeRead (read : ProbeRead) (hschedule : LosesSingleReplies unit.schedule)
    (h : Ready unit.unitId s) (hheard : Heard s) :
    ∃ t, probeRead unit read true 1 s = (.ok (probedOutcome unit read), t) ∧
      ReadDone unit read s t := by
  cases hlost : unit.schedule.lost read (s.requests read) with
  | none => exact probeRead_of_heard true 1 h hlost
  | some error =>
    refine probeRead_of_lost h hheard hlost (hschedule.kinds _ _ _ hlost) ?_
    exact hschedule.single _ _ (by rw [hlost]; exact Option.some_ne_none _)

/-- The values that the loop over the components collects. -/
def probedValues (unit : ProbedUnit) (reads : List ProbeRead) : List (ProbeRead × ℕ) :=
  reads.filterMap fun read => (unit.registers read).map fun words => (read, read.value words)

/-- The loop goes on after a read that has been heard. -/
theorem probeAll_cons {reads : List ProbeRead} {values : List (ProbeRead × ℕ)} {t : ProbeLink}
    (h : probeRead unit read answered 1 s = (.ok (probedOutcome unit read), t)) :
    probeAll unit (read :: reads) values answered s =
      probeAll unit reads (values ++ probedValues unit [read]) true t := by
  rw [probeAll, h]
  cases hregisters : unit.registers read with
  | none => simp [probedOutcome, probedValues, hregisters]
  | some words => simp [probedOutcome, probedValues, hregisters]

/-- **The loop over the components**, once the unit has answered. -/
theorem exists_probeAll (hschedule : LosesSingleReplies unit.schedule) (reads : List ProbeRead)
    (values : List (ProbeRead × ℕ)) (h : Ready unit.unitId s) (hheard : Heard s) :
    ∃ t, probeAll unit reads values true s =
        (.ok (values ++ probedValues unit reads, false, true), t) ∧
      Ready unit.unitId t ∧ Heard t := by
  induction reads generalizing s values with
  | nil => exact ⟨s, by simp [probeAll, probedValues], h, hheard⟩
  | cons read reads ih =>
    obtain ⟨u, hread, hdone⟩ := exists_probeRead read hschedule h hheard
    obtain ⟨t, hall, hready, hheardEnd⟩ :=
      ih (values ++ probedValues unit [read]) hdone.ready hdone.heard
    refine ⟨t, ?_, hready, hheardEnd⟩
    rw [probeAll_cons hread, hall, List.append_assoc]
    simp only [probedValues, ← List.filterMap_append, List.singleton_append]

/-- **The probe tells what the registers say**, whatever is lost of it. -/
theorem detectSlaveDetails_of_loses (hschedule : LosesSingleReplies unit.schedule)
    (h : Ready unit.unitId s)
    (hfirst : unit.schedule.lost .productId (s.requests .productId) = none) :
    (detectSlaveDetails unit s).1 = .ok (probedDetails unit) := by
  obtain ⟨u, hread, hdone⟩ := probeRead_of_heard false 1 h hfirst
  obtain ⟨t, hall, hready, hheard⟩ := exists_probeAll hschedule
    [.humidityExtractAir, .humiditySupplyAir, .co2ExtractAir, .vocSupplyAir]
    ([] ++ probedValues unit [.productId]) hdone.ready hdone.heard
  obtain ⟨v, hcode, -⟩ := exists_probeRead .appSetupCode hschedule hready hheard
  have hvalues : [] ++ probedValues unit [.productId] ++ probedValues unit
      [.humidityExtractAir, .humiditySupplyAir, .co2ExtractAir, .vocSupplyAir] =
        probedValues unit probeComponents := by
    simp only [probedValues, List.nil_append, ← List.filterMap_append, probeComponents,
      List.singleton_append]
  rw [hvalues] at hall
  rw [detectSlaveDetails, probeComponents, probeAll_cons hread, hall]
  dsimp only
  rw [hcode]
  cases hregisters : unit.registers .appSetupCode with
  | none => simp only [probedOutcome, hregisters, probedDetails, Option.bind_none]; rfl
  | some words => simp only [probedOutcome, hregisters, probedDetails, Option.bind_some]; rfl

/-- **The setup probe tolerates single lost replies.** Its first read is answered at once, and no
reply is lost twice in a row: then it returns what it returns without any loss. -/
theorem detectSlaveDetails_eq (hschedule : LosesSingleReplies unit.schedule)
    (h : Ready unit.unitId s)
    (hfirst : unit.schedule.lost .productId (s.requests .productId) = none)
    {calm : ProbeSchedule} (hcalm : ∀ read attempt, calm.lost read attempt = none)
    {s' : ProbeLink} (h' : Ready unit.unitId s') : ∃ details,
      (detectSlaveDetails unit s).1 = .ok details ∧
        (detectSlaveDetails { unit with schedule := calm } s').1 = .ok details := by
  refine ⟨probedDetails unit, detectSlaveDetails_of_loses hschedule h hfirst, ?_⟩
  have hnone : LosesSingleReplies calm := by
    refine ⟨fun read attempt error hlost => ?_, fun read attempt hlost => ?_⟩
    · rw [hcalm] at hlost
      cases hlost
    · exact absurd (hcalm read attempt) hlost
  have hcalmProbe : (detectSlaveDetails { unit with schedule := calm } s').1 =
      .ok (probedDetails { unit with schedule := calm }) :=
    detectSlaveDetails_of_loses hnone h' (hcalm _ _)
  exact hcalmProbe

end Reads

/-! ### A probe with two losses -/

/-- A unit with a humidity and a CO2 sensor. -/
def sensorUnit (lost : ProbeRead → ℕ → Option RequestError) : ProbedUnit where
  unitId := 2
  registers
    | .productId => some (51316, 1)
    | .humidityExtractAir => some (45, 0)
    | .humiditySupplyAir => none
    | .co2ExtractAir => some (640, 0)
    | .vocSupplyAir => none
    | .appSetupCode => some (43981, 1)
  schedule := {
    lost := lost
    requestTime := fun _ _ => 0
    oversleep := fun _ _ => 0
    disconnectTime := 0 }

/-- The reply to one read is lost, and the one to another is garbled. -/
def twoLosses : ProbeRead → ℕ → Option RequestError
  | .humidityExtractAir, 0 => some .timeout
  | .co2ExtractAir, 0 => some .protocolError
  | _, _ => none

/-- A new policy, on an open link. -/
def newLink : ProbeLink where
  transport := {
    disconnectAfterTimeouts := 3
    linkQuietSeconds := seconds 10
    connectionRetryDelay := seconds 5
    now := 0 }
  connected := true
  requests _ := 0

/-- The sensors are found although two replies are lost. -/
theorem detectSlaveDetails_eq_twoLosses : ∃ details,
    (detectSlaveDetails (sensorUnit twoLosses) newLink).1 = .ok details ∧
      (detectSlaveDetails (sensorUnit fun _ _ => none) newLink).1 = .ok details ∧
        details.profile = "fc" := by
  have hready : ProbeLink.Ready 2 newLink := ⟨rfl, rfl, by decide, rfl⟩
  have hlosses : LosesSingleReplies (sensorUnit twoLosses).schedule := by
    refine ⟨fun read attempt error hlost => ?_, fun read attempt hlost => ?_⟩
    · change twoLosses read attempt = some error at hlost
      unfold twoLosses at hlost
      split at hlost
      · exact .inl (Option.some.inj hlost).symm
      · exact .inr (Option.some.inj hlost).symm
      · cases hlost
    · change twoLosses read (attempt + 1) = none
      unfold twoLosses
      split
      · contradiction
      · contradiction
      · rfl
  have hnone : ∀ read attempt,
      (sensorUnit fun _ _ => none).schedule.lost read attempt = none := fun _ _ => rfl
  obtain ⟨details, hdetails, hcalm⟩ :=
    detectSlaveDetails_eq hlosses hready rfl hnone hready
  refine ⟨details, hdetails, hcalm, ?_⟩
  have hprofile : ((detectSlaveDetails (sensorUnit twoLosses) newLink).1.toOption.map
      (·.profile)) = some "fc" := by decide +kernel
  rw [hdetails] at hprofile
  exact Option.some.inj hprofile

end MeltemVentilation
