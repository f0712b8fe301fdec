import MeltemVentilation.Device.Transport

/-!
# What a step of the link can do

The inversion lemmas of `Transport.step`. A step of the clock, of the settings or of a new
call touches neither the locks nor the quarantine table. A step of a call moves this call to
another point (`Transport.Moved`) and keeps the others where they are; `Transport.StepOf` says
from which point to which, and when a request is handed to the link or leaves it.
-/

namespace MeltemVentilation

/-! ### Points -/

namespace Point

/-- A call at this point holds the operation lock. -/
def inside : Point → Bool
  | .waitOperation | .ended => false
  | _ => true

/-- How often the request of a call at this point has been handed to the link, at most. -/
def attempts : Point → ℕ
  | .waitOperation => 0
  | .waitRequest retry | .waitSlot retry => retry.toNat
  | .onLink retry | .disconnecting retry _ => retry.toNat + 1
  | .retryDelay _ => 1
  | .ended => 2

theorem attempts_le (point : Point) : point.attempts ≤ 2 := by
  cases point with
  | waitRequest retry | waitSlot retry | onLink retry | disconnecting retry _ =>
    cases retry <;> simp [attempts]
  | waitOperation | retryDelay _ | ended => simp [attempts]

/-- A point from which the second attempt is made. -/
def second : Point → Bool
  | .waitRequest true | .retryDelay _ => true
  | _ => false

/-- A call at this point is dropping the link. -/
def isDisconnecting : Point → Bool
  | .disconnecting _ _ => true
  | _ => false

end Point

/-- What an attempt says about the link: it has answered, it has not, or neither. -/
def Reply.answers : Reply → Option Bool
  | .answered => some true
  | .raised error =>
    if error.isException then some true else if error.isNoAnswer then some false else none
  | .cancelled => none

namespace Transport

variable {s t : Transport} {id : ℕ} {call : Call} {point : Point} {retry raised : Bool}
  {error : RequestError} {reply : Reply} {label : TransportLabel}

/-- One call moves to another point, and gives its lock back at the end; time stands
still. -/
structure Moved (s : Transport) (id : ℕ) (call : Call) (point : Point) (t : Transport) :
    Prop where
  calls : t.calls = Function.update s.calls id (some { call with point := point })
  lock : point.inside = true → t.operationLock = s.operationLock
  now : t.now = s.now

theorem moved_moveTo (s : Transport) (id : ℕ) (call : Call) (point : Point) :
    s.Moved id call point (s.moveTo id call point) :=
  ⟨rfl, fun _ => rfl, rfl⟩

theorem moved_endCall (s : Transport) (id : ℕ) (call : Call) :
    s.Moved id call .ended (s.endCall id call) :=
  ⟨rfl, nofun, rfl⟩

/-! ### The error handlers -/

/-- Where a call is after an attempt has failed: at its end, or before the second attempt,
which a read makes only if its unit is not quarantined. -/
def AfterError (s : Transport) (call : Call) (retry : Bool) (point : Point) : Prop :=
  point = .ended ∨ (retry = false ∧ point.second = true ∧
    (call.request.isRead = true → s.readDelayed call.request.unitId = false))

theorem AfterError.attempts (h : s.AfterError call retry point) :
    retry.toNat + 1 ≤ point.attempts := by
  rcases h with rfl | ⟨rfl, hsecond, -⟩
  · cases retry <;> decide
  · cases point with
    | waitRequest second =>
      cases second
      · cases hsecond
      · decide
    | retryDelay _ => simp [Point.attempts]
    | _ => cases hsecond

theorem handleError_cases (s : Transport) (id : ℕ) (call : Call) (retry : Bool)
    (error : RequestError) :
    ∃ point, s.AfterError call retry point ∧
      s.Moved id call point (s.handleError id call retry error) ∧
      (s.handleError id call retry error).unansweredReads = s.unansweredReads := by
  unfold handleError
  split
  · exact ⟨.ended, .inl rfl, moved_endCall s id call, rfl⟩
  · rename_i h
    simp only [Bool.or_eq_true, Bool.not_eq_true', Bool.and_eq_true, not_or, not_and,
      Bool.not_eq_true] at h
    obtain ⟨⟨-, hretry⟩, hread⟩ := h
    split
    · exact ⟨_, .inr ⟨hretry, rfl, hread⟩, moved_moveTo s id call _, rfl⟩
    · exact ⟨_, .inr ⟨hretry, rfl, hread⟩, moved_moveTo s id call _, rfl⟩

/-! ### The end of an attempt -/

/-- The quarantine table after a reply: an unanswered read starts the pause of its unit, and
an answered one ends it, if the unit itself has answered. -/
def tableAfter (s : Transport) (request : Request) (reply : Reply) : ℕ → Option Monotonic :=
  if request.isRead then
    if reply.isUnanswered then
      Function.update s.unansweredReads request.unitId
        (some (s.now + seconds transportReadRecoverySeconds))
    else if reply = .answered ∧ request.bridgeLocal = false then
      Function.update s.unansweredReads request.unitId none
    else s.unansweredReads
  else s.unansweredReads

theorem recordReply_frame (s : Transport) (request : Request) (reply : Reply) :
    (s.recordReply request reply).calls = s.calls ∧
      (s.recordReply request reply).operationLock = s.operationLock ∧
      (s.recordReply request reply).now = s.now ∧
      (reply ≠ .answered →
        (s.recordReply request reply).unansweredReads = s.tableAfter request reply) ∧
      (reply = .answered →
        (s.recordReply request reply).unansweredReads = s.unansweredReads) := by
  unfold recordReply tableAfter
  split
  · dsimp only
    split
    · refine ⟨rfl, rfl, rfl, fun _ => rfl, ?_⟩
      rintro rfl
      rename_i h
      cases h
    · exact ⟨rfl, rfl, rfl, fun hne => by simp [hne], fun _ => rfl⟩
  · exact ⟨rfl, rfl, rfl, fun _ => rfl, fun _ => rfl⟩

/-- **What the end of an attempt does**: it changes the quarantine table as the reply says,
and ends the call, or recycles the link, or leads to the second attempt. -/
theorem replied_cases (s : Transport) (id : ℕ) (call : Call) (retry : Bool) (reply : Reply) :
    ∃ point, s.Moved id call point (s.replied id call retry reply) ∧
      (s.replied id call retry reply).unansweredReads = s.tableAfter call.request reply ∧
      ((∃ error, point = .disconnecting retry error) ∨
        (s.replied id call retry reply).AfterError call retry point) := by
  obtain ⟨hcalls, hlock, hnow, htable, hkept⟩ := s.recordReply_frame call.request reply
  unfold replied
  dsimp only
  generalize s.recordReply call.request reply = u at *
  -- Recording the reply moves no call, so the move after it is one from the state before.
  have hmoved : ∀ {v t : Transport} {point : Point}, v.Moved id call point t →
      v.calls = u.calls → v.operationLock = u.operationLock → v.now = u.now →
      s.Moved id call point t := by
    intro v t point h hc hl hn
    exact ⟨by rw [h.calls, hc, hcalls], fun hin => (h.lock hin).trans (hl.trans hlock),
      h.now.trans (hn.trans hnow)⟩
  have herror : ∀ {v : Transport} {error : RequestError}, reply ≠ .answered →
      v.calls = u.calls → v.operationLock = u.operationLock → v.now = u.now →
      v.unansweredReads = u.unansweredReads →
      ∃ point, s.Moved id call point (v.handleError id call retry error) ∧
        (v.handleError id call retry error).unansweredReads = s.tableAfter call.request reply ∧
        ((∃ error, point = .disconnecting retry error) ∨
          (v.handleError id call retry error).AfterError call retry point) := by
    intro v error hne hc hl hn ht
    obtain ⟨point, hafter, hm, hsame⟩ := v.handleError_cases id call retry error
    refine ⟨point, hmoved hm hc hl hn, hsame.trans (ht.trans (htable hne)), .inr ?_⟩
    rcases hafter with hended | ⟨hretry, hsecond, hread⟩
    · exact .inl hended
    · refine .inr ⟨hretry, hsecond, fun his => ?_⟩
      simpa only [readDelayed, hsame, hm.now] using hread his
  cases reply with
  | cancelled => exact ⟨.ended, hmoved (moved_endCall u id call) rfl rfl rfl, htable nofun,
      .inr (.inl rfl)⟩
  | answered =>
    dsimp only
    split
    · rename_i hread
      obtain ⟨his, hbridge⟩ := Bool.and_eq_true_iff.mp hread
      refine ⟨.ended, hmoved (moved_endCall _ id call) rfl rfl rfl, ?_, .inr (.inl rfl)⟩
      simp only [Bool.not_eq_true'] at hbridge
      simp only [tableAfter, his, if_true, Reply.isUnanswered, hbridge, and_self]
      rw [← hkept rfl]
      rfl
    · rename_i hread
      refine ⟨.ended, hmoved (moved_endCall _ id call) rfl rfl rfl, (hkept rfl).trans ?_,
        .inr (.inl rfl)⟩
      simp only [Bool.and_eq_true, Bool.not_eq_true', not_and, Bool.not_eq_false] at hread
      unfold tableAfter
      split
      · rename_i his
        simp [Reply.isUnanswered, hread his]
      · rfl
  | raised error =>
    dsimp only
    split
    · exact herror nofun rfl rfl rfl rfl
    · split
      · split
        · refine ⟨_, hmoved (moved_moveTo _ id call _) rfl rfl rfl, htable nofun,
            .inl ⟨error, rfl⟩⟩
        · exact herror nofun rfl rfl rfl rfl
      · exact herror nofun rfl rfl rfl rfl

/-! ### Steps of a call -/

/-- The call and request that a step hands to the link. -/
def handsOver (s : Transport) : TransportLabel → Option (ℕ × Request)
  | .resume id =>
    match s.calls id with
    | some call =>
      match call.point with
      | .waitSlot _ => if s.closed then none else some (id, call.request)
      | _ => none
    | none => none
  | _ => none

/-- The unit whose read a step leaves unanswered. -/
def leavesUnanswered (s : Transport) : TransportLabel → Option ℕ
  | .reply id reply =>
    match s.calls id with
    | some call =>
      if call.request.isRead && reply.isUnanswered then some call.request.unitId else none
    | none => none
  | _ => none

/-- **The steps of a call**, by the point it leaves. -/
inductive StepOf (s : Transport) (id : ℕ) (call : Call) (t : Transport) : TransportLabel → Prop
  /-- The call is over: it was not allowed, closed down or cancelled. -/
  | left {label : TransportLabel} : call.point ≠ .ended → s.Moved id call .ended t →
      t.unansweredReads = s.unansweredReads →
      (∀ other, other ≠ id → s.operationLock = some other → t.operationLock = some other) →
      s.handsOver label = none → s.leavesUnanswered label = none → StepOf s id call t label
  /-- The call gets the operation lock. -/
  | admitted : call.point = .waitOperation → s.operationLock = none →
      (call.request.isRead = true → s.readDelayed call.request.unitId = false) →
      t = { s with operationLock := some id }.moveTo id call (.waitRequest false) →
      StepOf s id call t (.resume id)
  /-- The call comes one await further on its way to the link. -/
  | prepared (point : Point) : call.point.inside = true →
      (∃ retry, call.point = .waitRequest retry ∧ point = .waitSlot retry) ∨
        (∃ wakeAt, call.point = .retryDelay wakeAt ∧ point = .waitRequest true) →
      s.Moved id call point t → t.unansweredReads = s.unansweredReads →
      s.handsOver (.resume id) = none → StepOf s id call t (.resume id)
  /-- The request is handed to the link. -/
  | handed (retry : Bool) : call.point = .waitSlot retry → s.Moved id call (.onLink retry) t →
      t.unansweredReads = s.unansweredReads →
      s.handsOver (.resume id) = some (id, call.request) → StepOf s id call t (.resume id)
  /-- The request leaves the link. -/
  | replied (retry : Bool) (reply : Reply) (point : Point) : call.point = .onLink retry →
      s.Moved id call point t → t.unansweredReads = s.tableAfter call.request reply →
      ((∃ error, point = .disconnecting retry error) ∨ t.AfterError call retry point) →
      StepOf s id call t (.reply id reply)
  /-- The link has been recycled. -/
  | disconnected (retry raised : Bool) (error : RequestError) (point : Point) :
      call.point = .disconnecting retry error → s.Moved id call point t →
      t.unansweredReads = s.unansweredReads → t.AfterError call retry point →
      StepOf s id call t (.disconnected id raised)

theorem Moved.calls_of_ne {other : ℕ} (h : s.Moved id call point t) (hne : other ≠ id) :
    t.calls other = s.calls other := by
  rw [h.calls, Function.update_of_ne hne]

/-- **A step of a call keeps the other calls.** -/
theorem StepOf.calls_of_ne {other : ℕ} (h : s.StepOf id call t label) (hne : other ≠ id) :
    t.calls other = s.calls other := by
  cases h with
  | left _ hmoved => exact hmoved.calls_of_ne hne
  | admitted _ _ _ ht =>
    rw [ht]
    exact Function.update_of_ne hne _ _
  | prepared _ _ _ hmoved => exact hmoved.calls_of_ne hne
  | handed _ _ hmoved => exact hmoved.calls_of_ne hne
  | replied _ _ _ _ hmoved => exact hmoved.calls_of_ne hne
  | disconnected _ _ _ _ _ hmoved => exact hmoved.calls_of_ne hne

theorem endCall_lock {other : ℕ} (hne : other ≠ id) (h : s.operationLock = some other) :
    (s.endCall id call).operationLock = some other := by
  simp [endCall, h, hne]

/-- What a step outside the calls leaves alone. -/
structure Outside (s t : Transport) : Prop where
  calls : t.calls = s.calls
  lock : t.operationLock = s.operationLock
  table : t.unansweredReads = s.unansweredReads
  now : s.now ≤ t.now

/-- **The inversion of a step of the link.** -/
theorem step_cases (h : s.step label = some t) :
    (s.Outside t ∧ s.handsOver label = none ∧ s.leavesUnanswered label = none) ∨
      (∃ id request, label = .call id request ∧ s.calls id = none ∧
        t = { s with calls := Function.update s.calls id (some { request := request }) }) ∨
      ∃ id call, s.calls id = some call ∧ s.StepOf id call t label := by
  cases label with
  | elapse now =>
    obtain ⟨hle, h⟩ := Option.ite_none_right_eq_some.mp h
    cases h
    exact .inl ⟨⟨rfl, rfl, rfl, hle⟩, rfl, rfl⟩
  | updateRequestRate readInterval =>
    obtain ⟨-, h⟩ := Option.ite_none_right_eq_some.mp h
    cases h
    exact .inl ⟨⟨rfl, rfl, rfl, le_refl _⟩, rfl, rfl⟩
  | shutdown =>
    cases h
    exact .inl ⟨⟨rfl, rfl, rfl, le_refl _⟩, rfl, rfl⟩
  | call id request =>
    rcases hcall : s.calls id with _ | call
    · simp only [step, hcall] at h
      cases h
      exact .inr (.inl ⟨id, request, rfl, hcall, rfl⟩)
    · simp only [step, hcall] at h
      cases h
  | resume id =>
    obtain ⟨call, hcall, h⟩ := Option.bind_eq_some_iff.mp h
    refine .inr (.inr ⟨id, call, hcall, ?_⟩)
    unfold resume at h
    split at h
    · rename_i hpoint
      obtain ⟨hlock, h⟩ := Option.ite_none_left_eq_some.mp h
      have hhands : s.handsOver (.resume id) = none := by simp [handsOver, hcall, hpoint]
      split at h
      · cases h
        exact .left (by simp [hpoint]) (moved_endCall s id call) rfl
          (fun other hne hother => endCall_lock hne hother) hhands rfl
      · rename_i hdelayed
        cases h
        refine .admitted hpoint (not_not.mp hlock) (fun his => ?_) rfl
        simp only [his, Bool.true_and, Bool.or_eq_true, not_or, Bool.not_eq_true] at hdelayed
        exact hdelayed.2
    · rename_i retry hpoint
      obtain ⟨-, h⟩ := Option.ite_none_left_eq_some.mp h
      cases h
      exact .prepared _ (by simp [hpoint, Point.inside]) (.inl ⟨retry, hpoint, rfl⟩)
        ⟨rfl, fun _ => rfl, rfl⟩ rfl (by simp [handsOver, hcall, hpoint])
    · rename_i retry hpoint
      obtain ⟨-, h⟩ := Option.ite_none_left_eq_some.mp h
      split at h
      · rename_i hclosed
        cases h
        exact .left (by simp [hpoint]) (moved_endCall s id call) rfl
          (fun other hne hother => endCall_lock hne hother)
          (by simp [handsOver, hcall, hpoint, hclosed]) rfl
      · rename_i hopen
        cases h
        exact .handed retry hpoint (moved_moveTo s id call _) rfl
          (by simp [handsOver, hcall, hpoint, hopen])
    · rename_i wakeAt hpoint
      obtain ⟨-, h⟩ := Option.ite_none_right_eq_some.mp h
      cases h
      exact .prepared _ (by simp [hpoint, Point.inside]) (.inr ⟨wakeAt, hpoint, rfl⟩)
        (moved_moveTo s id call _) rfl (by simp [handsOver, hcall, hpoint])
    all_goals cases h
  | reply id reply =>
    rcases hcall : s.calls id with _ | call
    · simp only [step, hcall] at h
      cases h
    · simp only [step, hcall] at h
      split at h
      · rename_i retry hpoint
        cases h
        obtain ⟨point, hmoved, htable, hafter⟩ := s.replied_cases id call retry reply
        exact .inr (.inr ⟨id, call, hcall, .replied retry reply point hpoint hmoved htable hafter⟩)
      · cases h
  | disconnected id raised =>
    rcases hcall : s.calls id with _ | call
    · simp only [step, hcall] at h
      cases h
    · simp only [step, hcall] at h
      split at h
      · rename_i retry error hpoint
        cases h
        refine .inr (.inr ⟨id, call, hcall, ?_⟩)
        cases raised with
        | true =>
          exact .disconnected retry true error .ended hpoint (moved_endCall s id call) rfl
            (.inl rfl)
        | false =>
          obtain ⟨point, hafter, hmoved, htable⟩ := s.handleError_cases id call retry error
          refine .disconnected retry false error point hpoint hmoved htable ?_
          rcases hafter with hended | ⟨hretry, hsecond, hread⟩
          · exact .inl hended
          · refine .inr ⟨hretry, hsecond, fun his => ?_⟩
            simpa only [readDelayed, Bool.false_eq_true, if_false, htable, hmoved.now] using
              hread his
      · cases h
  | cancel id =>
    rcases hcall : s.calls id with _ | call
    · simp only [step, hcall] at h
      cases h
    · simp only [step, hcall] at h
      split at h
      · cases h
      · cases h
      · rename_i hended
        cases h
        exact .inr (.inr ⟨id, call, hcall, .left hended (moved_endCall s id call) rfl
          (fun other hne hother => endCall_lock hne hother) rfl rfl⟩)

/-! ### What a step does to the health of the link -/

/-- The attempt that a step ends: its request and its reply. -/
def endedAttempt (s : Transport) : TransportLabel → Option (Request × Reply)
  | .reply id reply =>
    match s.calls id with
    | some call =>
      match call.point with
      | .onLink _ => some (call.request, reply)
      | _ => none
    | none => none
  | _ => none

/-- The settings of the link are the same. -/
structure SameSettings (s t : Transport) : Prop where
  disconnectAfterTimeouts : t.disconnectAfterTimeouts = s.disconnectAfterTimeouts
  linkQuietSeconds : t.linkQuietSeconds = s.linkQuietSeconds
  closed : t.closed = s.closed

/-- The settings and the health of the link are the same. -/
structure SameHealth (s t : Transport) : Prop extends s.SameSettings t where
  lastReadFinished : t.lastReadFinished = s.lastReadFinished
  consecutiveTimeouts : t.consecutiveTimeouts = s.consecutiveTimeouts
  quietSince : t.quietSince = s.quietSince
  linkRecycles : t.linkRecycles = s.linkRecycles
  now : t.now = s.now

theorem SameSettings.trans {u : Transport} (h : s.SameSettings t) (h' : t.SameSettings u) :
    s.SameSettings u :=
  ⟨h'.disconnectAfterTimeouts.trans h.disconnectAfterTimeouts,
    h'.linkQuietSeconds.trans h.linkQuietSeconds, h'.closed.trans h.closed⟩

theorem sameHealth_moveTo (s : Transport) (id : ℕ) (call : Call) (point : Point) :
    s.SameHealth (s.moveTo id call point) := ⟨⟨rfl, rfl, rfl⟩, rfl, rfl, rfl, rfl, rfl⟩

theorem sameHealth_endCall (s : Transport) (id : ℕ) (call : Call) :
    s.SameHealth (s.endCall id call) := ⟨⟨rfl, rfl, rfl⟩, rfl, rfl, rfl, rfl, rfl⟩

theorem sameHealth_handleError (s : Transport) (id : ℕ) (call : Call) (retry : Bool)
    (error : RequestError) : s.SameHealth (s.handleError id call retry error) := by
  unfold handleError
  split
  · exact sameHealth_endCall s id call
  · split <;> exact sameHealth_moveTo s id call _

theorem sameHealth_resume (h : s.resume id call = some t) : s.SameHealth t := by
  unfold resume at h
  split at h
  · obtain ⟨-, h⟩ := Option.ite_none_left_eq_some.mp h
    split at h <;> cases h
    · exact sameHealth_endCall s id call
    · exact ⟨⟨rfl, rfl, rfl⟩, rfl, rfl, rfl, rfl, rfl⟩
  · obtain ⟨-, h⟩ := Option.ite_none_left_eq_some.mp h
    cases h
    exact ⟨⟨rfl, rfl, rfl⟩, rfl, rfl, rfl, rfl, rfl⟩
  · obtain ⟨-, h⟩ := Option.ite_none_left_eq_some.mp h
    split at h <;> cases h
    · exact sameHealth_endCall s id call
    · exact sameHealth_moveTo s id call _
  · obtain ⟨-, h⟩ := Option.ite_none_right_eq_some.mp h
    cases h
    exact sameHealth_moveTo s id call _
  all_goals cases h

/-- What the end of an attempt does to the counters of the link, by what the attempt says
about the link and whether the link is then dropped. -/
inductive Counted (s t : Transport) : Option Bool → Bool → Prop
  | answered : t.consecutiveTimeouts = 0 → t.quietSince = s.now →
    t.linkRecycles = s.linkRecycles → Counted s t (some true) false
  | unanswered : t.consecutiveTimeouts = s.consecutiveTimeouts + 1 →
    t.quietSince = s.quietSince → t.linkRecycles = s.linkRecycles → Counted s t (some false) false
  | recycled : s.recyclesLink = true → t.consecutiveTimeouts = 0 → t.quietSince = s.now →
    t.linkRecycles = s.linkRecycles + 1 → Counted s t (some false) true
  | neither : t.consecutiveTimeouts = s.consecutiveTimeouts → t.quietSince = s.quietSince →
    t.linkRecycles = s.linkRecycles → Counted s t none false

/-- The error handlers do not drop the link. -/
theorem not_isDisconnecting_handleError (s : Transport) (id : ℕ) (call : Call) (retry : Bool)
    (error : RequestError) :
    ((s.handleError id call retry error).calls id).any (·.point.isDisconnecting) = false := by
  obtain ⟨point, hafter, hmoved, -⟩ := s.handleError_cases id call retry error
  rw [hmoved.calls, Function.update_self]
  rcases hafter with rfl | ⟨-, hsecond, -⟩
  · rfl
  · cases point <;> first | rfl | cases hsecond

/-- An attempt that neither drops the link nor ends the call goes to the error handlers,
which leave the health of the link as it is. -/
theorem Counted.handleError {u : Transport} {answers : Option Bool}
    (h : s.Counted u answers false) (error : RequestError) :
    s.Counted (u.handleError id call retry error) answers
      (((u.handleError id call retry error).calls id).any (·.point.isDisconnecting)) := by
  have hsame := sameHealth_handleError u id call retry error
  rw [not_isDisconnecting_handleError]
  cases h with
  | answered htimeouts hquiet hrecycles =>
    exact .answered (hsame.consecutiveTimeouts.trans htimeouts) (hsame.quietSince.trans hquiet)
      (hsame.linkRecycles.trans hrecycles)
  | unanswered htimeouts hquiet hrecycles =>
    exact .unanswered (hsame.consecutiveTimeouts.trans htimeouts) (hsame.quietSince.trans hquiet)
      (hsame.linkRecycles.trans hrecycles)
  | neither htimeouts hquiet hrecycles =>
    exact .neither (hsame.consecutiveTimeouts.trans htimeouts) (hsame.quietSince.trans hquiet)
      (hsame.linkRecycles.trans hrecycles)

/-- What an attempt leaves when its request is over is its time, apart from the quarantine. -/
theorem recordReply_health (s : Transport) (request : Request) (reply : Reply) :
    s.SameHealth { s.recordReply request reply with lastReadFinished := s.lastReadFinished } ∧
      (s.recordReply request reply).lastReadFinished =
        (if request.isRead then some s.now else s.lastReadFinished) := by
  unfold recordReply
  split
  · dsimp only
    split <;> exact ⟨⟨⟨rfl, rfl, rfl⟩, rfl, rfl, rfl, rfl, rfl⟩, rfl⟩
  · exact ⟨⟨⟨rfl, rfl, rfl⟩, rfl, rfl, rfl, rfl, rfl⟩, rfl⟩

/-- **What the end of an attempt does to the health of the link.** -/
theorem replied_health (s : Transport) (id : ℕ) (call : Call) (retry : Bool) (reply : Reply) :
    s.SameSettings (s.replied id call retry reply) ∧
      (s.replied id call retry reply).now = s.now ∧
      (s.replied id call retry reply).lastReadFinished =
        (if call.request.isRead then some s.now else s.lastReadFinished) ∧
      s.Counted (s.replied id call retry reply) reply.answers
        (((s.replied id call retry reply).calls id).any (·.point.isDisconnecting)) := by
  obtain ⟨hhealth, hread⟩ := s.recordReply_health call.request reply
  unfold replied
  dsimp only
  generalize s.recordReply call.request reply = u at *
  have hsettings : s.SameSettings u := ⟨hhealth.1.1, hhealth.1.2, hhealth.1.3⟩
  have htimeouts : u.consecutiveTimeouts = s.consecutiveTimeouts := hhealth.consecutiveTimeouts
  have hquiet : u.quietSince = s.quietSince := hhealth.quietSince
  have hrecycles : u.linkRecycles = s.linkRecycles := hhealth.linkRecycles
  have hnow : u.now = s.now := hhealth.now
  -- A failed attempt first changes the counters, and then goes to the error handlers.
  have hfailed : ∀ {v : Transport} {error : RequestError} {answers : Option Bool},
      u.SameSettings v → v.now = u.now → v.lastReadFinished = u.lastReadFinished →
      s.Counted v answers false →
      s.SameSettings (v.handleError id call retry error) ∧
        (v.handleError id call retry error).now = s.now ∧
        (v.handleError id call retry error).lastReadFinished =
          (if call.request.isRead then some s.now else s.lastReadFinished) ∧
        s.Counted (v.handleError id call retry error) answers
          (((v.handleError id call retry error).calls id).any (·.point.isDisconnecting)) := by
    intro v error answers hv hvnow hlast hcounted
    have hsame := sameHealth_handleError v id call retry error
    exact ⟨hsettings.trans (hv.trans hsame.toSameSettings), hsame.now.trans (hvnow.trans hnow),
      hsame.lastReadFinished.trans (hlast.trans hread), hcounted.handleError error⟩
  cases reply with
  | cancelled =>
    refine ⟨⟨hsettings.1, hsettings.2, hsettings.3⟩, hnow, hread, ?_⟩
    simp only [endCall, moveTo, Function.update_self, Option.any_some]
    exact .neither htimeouts hquiet hrecycles
  | answered =>
    dsimp only
    split
    all_goals
      refine ⟨⟨hsettings.1, hsettings.2, hsettings.3⟩, hnow, hread, ?_⟩
      simp only [endCall, moveTo, Function.update_self, Option.any_some]
      exact .answered rfl hnow hrecycles
  | raised error =>
    dsimp only [Reply.answers]
    split
    · exact hfailed ⟨rfl, rfl, rfl⟩ rfl rfl (.answered rfl hnow hrecycles)
    · split
      · split
        · rename_i hrecycle
          have hrecycles' : s.recyclesLink = true := by
            rw [← hrecycle]
            simp only [recyclesLink, hsettings.disconnectAfterTimeouts, htimeouts,
              hsettings.linkQuietSeconds, hnow, hquiet]
          refine ⟨⟨hsettings.1, hsettings.2, hsettings.3⟩, hnow, hread, ?_⟩
          simp only [moveTo, Function.update_self, Option.any_some]
          exact .recycled hrecycles' rfl hnow (congrArg (· + 1) hrecycles)
        · exact hfailed ⟨rfl, rfl, rfl⟩ rfl rfl
            (.unanswered (congrArg (· + 1) htimeouts) hquiet hrecycles)
      · exact hfailed ⟨rfl, rfl, rfl⟩ rfl rfl (.neither htimeouts hquiet hrecycles)

/-- What a step makes of the health of the link: it is the same, or the step has ended an
attempt and the health is what the attempt says; only a shutdown closes the policy. -/
structure HealthAfter (s : Transport) (label : TransportLabel) (t : Transport) : Prop where
  disconnectAfterTimeouts : t.disconnectAfterTimeouts = s.disconnectAfterTimeouts
  linkQuietSeconds : t.linkQuietSeconds = s.linkQuietSeconds
  closed : t.closed = (s.closed || label = .shutdown)
  now : s.now ≤ t.now
  health : (s.endedAttempt label = none ∧ t.lastReadFinished = s.lastReadFinished ∧
      t.consecutiveTimeouts = s.consecutiveTimeouts ∧ t.quietSince = s.quietSince ∧
      t.linkRecycles = s.linkRecycles) ∨
    ∃ id call retry reply, label = .reply id reply ∧ s.calls id = some call ∧
      call.point = .onLink retry ∧ s.endedAttempt label = some (call.request, reply) ∧
      t.lastReadFinished = (if call.request.isRead then some s.now else s.lastReadFinished) ∧
      s.Counted t reply.answers ((t.calls id).any (·.point.isDisconnecting))

theorem SameHealth.after (h : s.SameHealth t) (hne : label ≠ .shutdown)
    (hnone : s.endedAttempt label = none) : s.HealthAfter label t :=
  ⟨h.disconnectAfterTimeouts, h.linkQuietSeconds, by simp [hne, h.closed], h.now.ge,
    .inl ⟨hnone, h.lastReadFinished, h.consecutiveTimeouts, h.quietSince, h.linkRecycles⟩⟩

theorem step_health (h : s.step label = some t) : s.HealthAfter label t := by
  cases label with
  | elapse now =>
    obtain ⟨hle, h⟩ := Option.ite_none_right_eq_some.mp h
    cases h
    exact ⟨rfl, rfl, by simp, hle, .inl ⟨rfl, rfl, rfl, rfl, rfl⟩⟩
  | updateRequestRate readInterval =>
    obtain ⟨-, h⟩ := Option.ite_none_right_eq_some.mp h
    cases h
    exact ⟨rfl, rfl, by simp, le_refl _, .inl ⟨rfl, rfl, rfl, rfl, rfl⟩⟩
  | shutdown =>
    cases h
    exact ⟨rfl, rfl, by simp, le_refl _, .inl ⟨rfl, rfl, rfl, rfl, rfl⟩⟩
  | call id request =>
    simp only [step] at h
    split at h
    · cases h
    · cases h
      exact ⟨rfl, rfl, by simp, le_refl _, .inl ⟨rfl, rfl, rfl, rfl, rfl⟩⟩
  | resume id =>
    obtain ⟨call, -, h⟩ := Option.bind_eq_some_iff.mp h
    exact (sameHealth_resume h).after nofun rfl
  | reply id reply =>
    simp only [step] at h
    split at h
    · rename_i call hcall
      split at h
      · rename_i retry hpoint
        cases h
        obtain ⟨hsettings, hnow, hread, hcounted⟩ := s.replied_health id call retry reply
        exact ⟨hsettings.disconnectAfterTimeouts, hsettings.linkQuietSeconds,
          by simp [hsettings.closed], hnow.ge, .inr ⟨id, call, retry, reply, rfl, hcall, hpoint,
            by simp [endedAttempt, hcall, hpoint], hread, hcounted⟩⟩
      · cases h
    · cases h
  | disconnected id raised =>
    simp only [step] at h
    split at h
    · rename_i call hcall
      split at h
      · cases h
        split
        · exact (sameHealth_endCall s id call).after nofun rfl
        · exact (sameHealth_handleError s id call _ _).after nofun rfl
      · cases h
    · cases h
  | cancel id =>
    simp only [step] at h
    split at h
    · rename_i call hcall
      split at h <;> cases h
      exact (sameHealth_endCall s id call).after nofun rfl
    · cases h

end Transport

end MeltemVentilation
