import MeltemVentilation.Const

/-!
# The transport policy of a gateway link

The class `TransportPolicy` of `device/transport.py`, as a transition system. Every register
request of every unit goes through its method `run`, which may be called by any number of
tasks at once. A call holds the operation lock from the check of the quarantine to its end,
and the request lock while one attempt is made; a failed attempt may be repeated once.

What happens between two awaits is one step. A call that waits is at a `Point`, and the label
of a step names the call that goes on (`resume`), whose request is answered or not (`reply`),
whose link has been dropped (`disconnected`) or that is cancelled; a call never gets an older
number. Locks are handed on in any order here, and a call may be resumed at any time after it
could be, so that the runs of the system include every schedule of the event loop.

Of the request statistics only the counters are kept that decide when the link is recycled,
and the number of answers that the client asks for.
-/

namespace MeltemVentilation

/-! ### Errors of a request -/

/-- How a request can fail, by the classes that the policy distinguishes. -/
inductive RequestError where
  /-- An exception response of the unit, `ModbusExceptionError`. -/
  | refused
  /-- `_GATEWAY_TARGET_ERRORS`: exception responses of the gateway for a silent unit. -/
  | gatewayTarget
  | timeout
  | protocolError
  /-- `ModbusConnectionError`: the link was lost. -/
  | connectionLost
  | clientClosed
  | other
deriving DecidableEq, Repr

namespace RequestError

/-- Whether the error is a `ModbusExceptionError`; those of the gateway are. -/
def isException : RequestError → Bool
  | .refused | .gatewayTarget => true
  | _ => false

/-- `NO_ANSWER_ERRORS`. -/
def isNoAnswer : RequestError → Bool
  | .timeout | .protocolError => true
  | _ => false

/-- The errors after which the response to a read may still arrive. -/
def isUnanswered (error : RequestError) : Bool := error.isNoAnswer || error = .connectionLost

/-- The errors after which `run` makes a second attempt. -/
def retried (error : RequestError) : Bool :=
  error = .gatewayTarget || error.isNoAnswer || error = .connectionLost

end RequestError

/-- How an attempt on the link ends. -/
inductive Reply where
  | answered
  | raised (error : RequestError)
  | cancelled
deriving DecidableEq, Repr

/-- Whether the response to an attempt may still arrive. -/
def Reply.isUnanswered : Reply → Bool
  | .answered => false
  | .raised error => error.isUnanswered
  | .cancelled => true

/-! ### Calls -/

/-- What a call of `run` asks for. -/
structure Request where
  unitId : ℕ
  isRead : Bool
  /-- Whether the register is one of `BRIDGE_RF_REGISTERS`, which the bridge itself answers. -/
  bridgeLocal : Bool := false
deriving DecidableEq, Repr

/-- Where a call of `run` is, by the await it is suspended at. `retry` is the second
attempt. -/
inductive Point where
  | waitOperation
  | waitRequest (retry : Bool)
  | waitSlot (retry : Bool)
  | onLink (retry : Bool)
  | disconnecting (retry : Bool) (error : RequestError)
  | retryDelay (wakeAt : Monotonic)
  | ended
deriving DecidableEq, Repr

/-- A call of `run`. -/
structure Call where
  request : Request
  point : Point := .waitOperation
deriving DecidableEq, Repr

/-! ### The policy -/

/-- `TransportPolicy`, with the calls of its method `run`. -/
structure Transport where
  disconnectAfterTimeouts : ℕ
  linkQuietSeconds : Monotonic
  connectionRetryDelay : Monotonic
  now : Monotonic
  closed : Bool := false
  readInterval : Monotonic := 0
  lastReadFinished : Option Monotonic := none
  /-- Until when no read of a unit is sent. -/
  unansweredReads : ℕ → Option Monotonic := fun _ => none
  consecutiveTimeouts : ℕ := 0
  quietSince : Monotonic := now
  answeredRequests : ℕ := 0
  linkRecycles : ℕ := 0
  operationLock : Option ℕ := none
  requestLock : Option ℕ := none
  calls : ℕ → Option Call := fun _ => none

namespace Transport

/-- `read_delayed`: whether the recovery pause of a unit is still active. -/
def readDelayed (s : Transport) (unitId : ℕ) : Bool :=
  decide (s.now < (s.unansweredReads unitId).getD 0)

/-- Whether `_wait_for_read_slot` lets a read go on. -/
def slotReached (s : Transport) : Bool :=
  s.closed || s.lastReadFinished.all fun finished => finished + s.readInterval ≤ s.now

/-- A call goes on to another point. -/
def moveTo (s : Transport) (id : ℕ) (call : Call) (point : Point) : Transport :=
  { s with calls := Function.update s.calls id (some { call with point := point }) }

/-- The end of a call: it gives back the locks it holds. -/
def endCall (s : Transport) (id : ℕ) (call : Call) : Transport :=
  { s.moveTo id call .ended with
    operationLock := if s.operationLock = some id then none else s.operationLock
    requestLock := if s.requestLock = some id then none else s.requestLock }

/-- The entry of a unit in the quarantine table. -/
def withQuarantine (s : Transport) (unitId : ℕ) (deadline : Option Monotonic) : Transport :=
  { s with unansweredReads := Function.update s.unansweredReads unitId deadline }

/-- `_link_answered`. -/
def linkAnswered (s : Transport) : Transport :=
  { s with
    answeredRequests := s.answeredRequests + 1
    consecutiveTimeouts := 0
    quietSince := s.now }

/-- Whether `_count_timeout` recycles the link after one more timeout. -/
def recyclesLink (s : Transport) : Bool :=
  decide (s.disconnectAfterTimeouts ≤ s.consecutiveTimeouts + 1) &&
    decide (s.linkQuietSeconds ≤ s.now - s.quietSince)

/-! ### The steps of a call -/

/-- The error handlers of `run`: the second attempt, or the end of the call. -/
def handleError (s : Transport) (id : ℕ) (call : Call) (retry : Bool) (error : RequestError) :
    Transport :=
  if !error.retried || retry || (call.request.isRead && s.readDelayed call.request.unitId) then
    s.endCall id call
  else if error = .connectionLost then
    s.moveTo id call (.retryDelay (s.now + s.connectionRetryDelay))
  else s.moveTo id call (.waitRequest true)

/-- What an attempt leaves when its request is over: the quarantine of an unanswered read
and the time of the last read. -/
def recordReply (s : Transport) (request : Request) (reply : Reply) : Transport :=
  if request.isRead then
    let s := { s with lastReadFinished := some s.now }
    if reply.isUnanswered then
      s.withQuarantine request.unitId (some (s.now + seconds transportReadRecoverySeconds))
    else s
  else s

/-- **The end of an attempt**: `_attempt` after `await operation`, and what `run` does then. -/
def replied (s : Transport) (id : ℕ) (call : Call) (retry : Bool) (reply : Reply) : Transport :=
  let s := s.recordReply call.request reply
  match reply with
  | .cancelled => s.endCall id call
  | .answered =>
    let s := s.linkAnswered
    let s := if call.request.isRead && !call.request.bridgeLocal then
      s.withQuarantine call.request.unitId none else s
    s.endCall id call
  | .raised error =>
    let s := { s with requestLock := none }
    if error.isException then s.linkAnswered.handleError id call retry error
    else if error.isNoAnswer then
      if s.recyclesLink then
        { s with
          consecutiveTimeouts := 0
          quietSince := s.now
          linkRecycles := s.linkRecycles + 1 }.moveTo id call (.disconnecting retry error)
      else
        { s with consecutiveTimeouts := s.consecutiveTimeouts + 1 }.handleError id call retry error
    else s.handleError id call retry error

/-- **A call goes on**, if what it waits for has come. -/
def resume (s : Transport) (id : ℕ) (call : Call) : Option Transport :=
  match call.point with
  | .waitOperation =>
    if s.operationLock ≠ none then none
    else if call.request.isRead && (s.closed || s.readDelayed call.request.unitId) then
      some (s.endCall id call)
    else some ({ s with operationLock := some id }.moveTo id call (.waitRequest false))
  | .waitRequest retry =>
    if s.requestLock ≠ none then none
    else some ({ s with requestLock := some id }.moveTo id call (.waitSlot retry))
  | .waitSlot retry =>
    if call.request.isRead && !s.slotReached then none
    else if s.closed then some (s.endCall id call)
    else some (s.moveTo id call (.onLink retry))
  | .retryDelay wakeAt =>
    if wakeAt ≤ s.now then some (s.moveTo id call (.waitRequest true)) else none
  | .onLink _ | .disconnecting _ _ | .ended => none

end Transport

/-! ### Steps -/

/-- What can happen next. -/
inductive TransportLabel where
  | elapse (now : Monotonic)
  /-- `update_request_rate`, with the new interval between two reads. -/
  | updateRequestRate (readInterval : Monotonic)
  | shutdown
  /-- A task calls `run`. -/
  | call (id : ℕ) (request : Request)
  | resume (id : ℕ)
  | reply (id : ℕ) (reply : Reply)
  /-- `unit.disconnect()` has returned, or raised something it does not document. -/
  | disconnected (id : ℕ) (raised : Bool)
  /-- A call is cancelled while nothing of it is on the link. -/
  | cancel (id : ℕ)
deriving DecidableEq, Repr

namespace Transport

/-- **One step of the link**, `none` where the label is not possible. -/
def step (s : Transport) : TransportLabel → Option Transport
  | .elapse now => if s.now ≤ now then some { s with now := now } else none
  | .updateRequestRate readInterval =>
    if 0 < readInterval then some { s with readInterval := readInterval } else none
  | .shutdown => some { s with closed := true }
  | .call id request =>
    match s.calls id with
    | some _ => none
    | none => some { s with calls := Function.update s.calls id (some { request := request }) }
  | .resume id => (s.calls id).bind (s.resume id)
  | .reply id reply =>
    match s.calls id with
    | some call =>
      match call.point with
      | .onLink retry => some (s.replied id call retry reply)
      | _ => none
    | none => none
  | .disconnected id raised =>
    match s.calls id with
    | some call =>
      match call.point with
      | .disconnecting retry error =>
        some (if raised then s.endCall id call else s.handleError id call retry error)
      | _ => none
    | none => none
  | .cancel id =>
    match s.calls id with
    | some call =>
      match call.point with
      | .onLink _ | .ended => none
      | _ => some (s.endCall id call)
    | none => none

/-- A policy that has just been created. -/
def Started (s : Transport) : Prop :=
  ∃ disconnectAfterTimeouts linkQuietSeconds connectionRetryDelay now,
    s = {
      disconnectAfterTimeouts := disconnectAfterTimeouts
      linkQuietSeconds := linkQuietSeconds
      connectionRetryDelay := connectionRetryDelay
      now := now }

end Transport

end MeltemVentilation
