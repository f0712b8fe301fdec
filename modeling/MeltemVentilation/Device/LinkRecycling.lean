import MeltemVentilation.Device.ReadQuarantine

/-!
# Recycling of the link

A link on which nothing has answered for a while is dropped, so that it is set up again. The
counter of timeouts and the start of the quiet window are shared by all units: any answer, and
an exception response is one, resets both, whatever unit it comes from. So a silent unit does
not cost its neighbours the link.

`linkRecycling_of_reach` states this over the whole history of a policy. The history
(`HealthEvent`) keeps what each attempt said about the link and when the link was dropped; the
counter is the number of silent attempts at its front, and the quiet window starts at or after
everything else in it (`RecyclingInvariant`).
-/

namespace MeltemVentilation

open Transition

/-! ### The record of a run -/

/-- What a run keeps on record of the health of the link. -/
inductive HealthEvent where
  | created (time : Monotonic)
  /-- An attempt ended with a valid answer, which an exception response is too. -/
  | answered (time : Monotonic)
  /-- An attempt ended with a timeout or a protocol error. -/
  | unanswered (time : Monotonic)
  /-- The policy called `disconnect`. -/
  | recycled (time : Monotonic)
deriving DecidableEq, Repr

namespace HealthEvent

def time : HealthEvent → Monotonic
  | .created time | .answered time | .unanswered time | .recycled time => time

def isUnanswered : HealthEvent → Bool
  | .unanswered _ => true
  | _ => false

def isRecycled : HealthEvent → Bool
  | .recycled _ => true
  | _ => false

end HealthEvent

/-- The call that a step moves on. -/
def TransportLabel.callId : TransportLabel → Option ℕ
  | .call id _ | .resume id | .reply id _ | .disconnected id _ | .cancel id => some id
  | .elapse _ | .updateRequestRate _ | .shutdown => none

/-- Whether a call is dropping the link. -/
def Transport.disconnecting (s : Transport) (id : ℕ) : Bool :=
  (s.calls id).any (·.point.isDisconnecting)

/-- Whether a step calls `disconnect`: a call comes to wait for it. -/
def Transport.callsDisconnect (s : Transport) (label : TransportLabel) : Bool :=
  label.callId.any fun id => !s.disconnecting id && (s.step label).any (·.disconnecting id)

/-- The record after a step, the latest event first. -/
def recordHealth (s : Transport) (label : TransportLabel) (log : List HealthEvent) :
    List HealthEvent :=
  let log :=
    match (s.endedAttempt label).bind (·.2.answers) with
    | some true => .answered s.now :: log
    | some false => .unanswered s.now :: log
    | none => log
  if s.callsDisconnect label then .recycled s.now :: log else log

/-- The link with its record. -/
abbrev RecyclingStep := recorded Transport.step recordHealth

/-- A run starts with a new policy, and the record with its creation. -/
def RecyclingStart (s : Transport × List HealthEvent) : Prop :=
  s.1.Started ∧ s.2 = [.created s.1.now]

/-- **What the policy promises about recycling.** Whenever the link was dropped, at least
`disconnect_after_timeouts` attempts had ended without an answer since the last answer or
recycle, and the creation of the policy, every answer and every recycle were at least
`link_quiet_seconds` ago; and `link_recycles` counts these calls. -/
structure LinkRecycling (s : Transport × List HealthEvent) : Prop where
  silent : ∀ time earlier, .recycled time :: earlier <:+ s.2 →
    s.1.disconnectAfterTimeouts ≤ (earlier.takeWhile (·.isUnanswered)).length
  quiet : ∀ time earlier, .recycled time :: earlier <:+ s.2 → ∀ event ∈ earlier,
    event.isUnanswered = false → event.time + s.1.linkQuietSeconds ≤ time
  counted : s.1.linkRecycles = s.2.countP (·.isRecycled)

/-! ### The invariant -/

/-- The policy knows what is on record: how many attempts in a row were silent, and a time
not before anything else. -/
structure RecyclingInvariant (s : Transport) (log : List HealthEvent) : Prop
    extends LinkRecycling (s, log) where
  timeouts : s.consecutiveTimeouts = (log.takeWhile (·.isUnanswered)).length
  quietSince : ∀ event ∈ log, event.isUnanswered = false → event.time ≤ s.quietSince
  past : s.quietSince ≤ s.now

section Steps

variable {s t : Transport} {log : List HealthEvent} {label : TransportLabel}

/-- A step that ends no attempt does not drop the link. -/
theorem Transport.callsDisconnect_eq_false (h : s.step label = some t)
    (hnone : s.endedAttempt label = none) : s.callsDisconnect label = false := by
  by_contra hcalls
  simp only [Transport.callsDisconnect, h, Option.any_some, Bool.not_eq_false,
    Option.any_eq_true, Bool.and_eq_true, Bool.not_eq_true'] at hcalls
  obtain ⟨id, hid, hbefore, hafter⟩ := hcalls
  have hmoved : ∀ {call : Call} {point : Point}, t.calls = Function.update s.calls id
      (some { call with point := point }) → point.isDisconnecting = false → False := by
    intro call point hcalls hpoint
    simp [Transport.disconnecting, hcalls, hpoint] at hafter
  have hsecond : ∀ {call : Call} {retry : Bool} {point : Point},
      t.AfterError call retry point → point.isDisconnecting = false := by
    rintro call retry point (rfl | ⟨-, hsecond, -⟩)
    · rfl
    · cases point <;> first | rfl | cases hsecond
  rcases Transport.step_cases h with ⟨hout, -, -⟩ | ⟨other, request, rfl, -, rfl⟩ |
    ⟨other, call, hcall, hstep⟩
  · rw [Transport.disconnecting, hout.calls] at hafter
    rw [Transport.disconnecting, hafter] at hbefore
    cases hbefore
  · obtain rfl : other = id := Option.some.inj hid
    simp [Transport.disconnecting, Point.isDisconnecting] at hafter
  · -- A call comes to disconnecting by its own reply only, and that ends an attempt.
    by_cases hother : id = other
    · subst hother
      cases hstep with
      | left _ hm => exact hmoved hm.calls rfl
      | admitted _ _ _ ht => exact hmoved (congrArg Transport.calls ht) rfl
      | prepared point _ hpoints hm =>
        refine hmoved hm.calls ?_
        rcases hpoints with ⟨_, -, rfl⟩ | ⟨_, -, rfl⟩ <;> rfl
      | handed _ _ hm => exact hmoved hm.calls rfl
      | replied retry reply point hpoint =>
        simp [Transport.endedAttempt, hcall, hpoint] at hnone
      | disconnected _ _ _ point _ hm _ hafter' => exact hmoved hm.calls (hsecond hafter')
    · rw [Transport.disconnecting, hstep.calls_of_ne hother] at hafter
      rw [Transport.disconnecting, hafter] at hbefore
      cases hbefore

/-- The end of an attempt calls `disconnect` exactly if its call drops the link then. -/
theorem Transport.callsDisconnect_reply {id : ℕ} {reply : Reply} {call : Call} {retry : Bool}
    (h : s.step (.reply id reply) = some t) (hcall : s.calls id = some call)
    (hpoint : call.point = .onLink retry) :
    s.callsDisconnect (.reply id reply) = t.disconnecting id := by
  simp [Transport.callsDisconnect, TransportLabel.callId, h, Transport.disconnecting, hcall,
    hpoint, Point.isDisconnecting]

/-- A record that only grows by an event that is no recycle keeps its promises. -/
theorem LinkRecycling.cons {event : HealthEvent} (h : LinkRecycling (s, log))
    (hevent : event.isRecycled = false) : LinkRecycling (s, event :: log) := by
  have hsuffix : ∀ time earlier, HealthEvent.recycled time :: earlier <:+ event :: log →
      .recycled time :: earlier <:+ log := by
    intro time earlier hsuffix
    rcases List.suffix_cons_iff.mp hsuffix with heq | hsuffix
    · obtain ⟨rfl, -⟩ := List.cons.inj heq
      cases hevent
    · exact hsuffix
  exact ⟨fun time earlier hs => h.silent time earlier (hsuffix time earlier hs),
    fun time earlier hs => h.quiet time earlier (hsuffix time earlier hs),
    by rw [List.countP_cons_of_neg (by simp [hevent])]; exact h.counted⟩

/-- The promises about the record do not depend on the rest of the policy. -/
theorem LinkRecycling.congr (h : LinkRecycling (s, log))
    (hafter : t.disconnectAfterTimeouts = s.disconnectAfterTimeouts)
    (hquiet : t.linkQuietSeconds = s.linkQuietSeconds)
    (hrecycles : t.linkRecycles = s.linkRecycles) :
    LinkRecycling (t, log) :=
  ⟨by rw [hafter]; exact h.silent, by rw [hquiet]; exact h.quiet, hrecycles.trans h.counted⟩

/-- **Every step keeps the invariant.** -/
theorem RecyclingInvariant.step (h : RecyclingInvariant s log) (hstep : s.step label = some t) :
    RecyclingInvariant t (recordHealth s label log) := by
  obtain ⟨hafter, hquiet, -, hnow, hhealth⟩ := Transport.step_health hstep
  rcases hhealth with ⟨hnone, -, htimeouts, hsince, hrecycles⟩ |
    ⟨id, call, retry, reply, rfl, hcall, hpoint, hended, -, hcounted⟩
  · have hlog : recordHealth s label log = log := by
      simp [recordHealth, hnone, Transport.callsDisconnect_eq_false hstep hnone]
    rw [hlog]
    exact ⟨h.toLinkRecycling.congr hafter hquiet hrecycles, htimeouts.trans h.timeouts,
      hsince ▸ h.quietSince, hsince ▸ h.past.trans hnow⟩
  · have hlog : recordHealth s (.reply id reply) log =
        (let log := match reply.answers with
          | some true => .answered s.now :: log
          | some false => .unanswered s.now :: log
          | none => log
        if t.disconnecting id then .recycled s.now :: log else log) := by
      simp [recordHealth, hended, Transport.callsDisconnect_reply hstep hcall hpoint]
    have hbefore : ∀ event ∈ log, event.isUnanswered = false → event.time ≤ s.now :=
      fun event hmem hevent => (h.quietSince event hmem hevent).trans h.past
    rw [hlog]
    change s.Counted t reply.answers (t.disconnecting id) at hcounted
    generalize reply.answers = answers at hcounted ⊢
    generalize t.disconnecting id = dropped at hcounted ⊢
    have hkept := h.toLinkRecycling.congr (t := t) hafter hquiet
    cases hcounted with
    | answered htimeouts hsince hrecycles =>
      refine ⟨(hkept hrecycles).cons rfl, htimeouts, fun event hmem hevent => ?_,
        hsince ▸ hnow⟩
      rw [hsince]
      rcases List.mem_cons.mp hmem with rfl | hmem
      · exact le_refl _
      · exact hbefore event hmem hevent
    | unanswered htimeouts hsince hrecycles =>
      refine ⟨(hkept hrecycles).cons rfl, ?_, fun event hmem hevent => ?_,
        hsince ▸ h.past.trans hnow⟩
      · rw [htimeouts, h.timeouts]
        rfl
      · rcases List.mem_cons.mp hmem with rfl | hmem
        · cases hevent
        · rw [hsince]
          exact h.quietSince event hmem hevent
    | neither htimeouts hsince hrecycles =>
      exact ⟨hkept hrecycles, htimeouts.trans h.timeouts, hsince ▸ h.quietSince,
        hsince ▸ h.past.trans hnow⟩
    | recycled hrecycle htimeouts hsince hrecycles =>
      simp only [Transport.recyclesLink, Bool.and_eq_true, decide_eq_true_iff] at hrecycle
      obtain ⟨hmany, hlong⟩ := hrecycle
      have hsilent : (List.takeWhile (·.isUnanswered)
          (HealthEvent.unanswered s.now :: log)).length = s.consecutiveTimeouts + 1 := by
        rw [h.timeouts]
        rfl
      -- Without the recycle, the record is that of an unanswered attempt.
      have hattempt : LinkRecycling (s, .unanswered s.now :: log) := h.toLinkRecycling.cons rfl
      refine ⟨⟨fun time earlier hsuffix => ?_,
        fun time earlier hsuffix event hmem hevent => ?_, ?_⟩,
        htimeouts, fun event hmem hevent => ?_, hsince ▸ hnow⟩
      · rcases List.suffix_cons_iff.mp hsuffix with heq | hsuffix
        · obtain ⟨-, rfl⟩ := List.cons.inj heq
          show t.disconnectAfterTimeouts ≤ _
          rw [hafter, hsilent]
          exact hmany
        · show t.disconnectAfterTimeouts ≤ _
          rw [hafter]
          exact hattempt.silent time earlier hsuffix
      · rcases List.suffix_cons_iff.mp hsuffix with heq | hsuffix
        · obtain ⟨htime, rfl⟩ := List.cons.inj heq
          cases htime
          rcases List.mem_cons.mp hmem with rfl | hmem
          · cases hevent
          · have hle := h.quietSince event hmem hevent
            have hpast := h.past
            show event.time + t.linkQuietSeconds ≤ s.now
            rw [hquiet]
            exact (Nat.add_le_add_right hle _).trans
              ((Nat.add_le_add_left hlong _).trans (Nat.add_sub_cancel' hpast).le)
        · show event.time + t.linkQuietSeconds ≤ time
          rw [hquiet]
          exact hattempt.quiet time earlier hsuffix event hmem hevent
      · show t.linkRecycles = List.countP (·.isRecycled)
          (HealthEvent.recycled s.now :: HealthEvent.unanswered s.now :: log)
        rw [hrecycles, List.countP_cons_of_pos (by rfl)]
        exact congrArg (· + 1) hattempt.counted
      · rw [hsince]
        rcases List.mem_cons.mp hmem with rfl | hmem
        · exact le_refl _
        · rcases List.mem_cons.mp hmem with rfl | hmem
          · cases hevent
          · exact hbefore event hmem hevent

end Steps

/-! ### Runs -/

/-- **A link its neighbours still answer on is never recycled**, in every run of requests with
any outcomes and times. -/
theorem linkRecycling_of_reach {s : Transport × List HealthEvent}
    (h : Reach RecyclingStep (fun _ _ => True) RecyclingStart s) : LinkRecycling s := by
  refine RecyclingInvariant.toLinkRecycling
    (h.invariant (P := fun s => RecyclingInvariant s.1 s.2) ?_ ?_)
  · rintro ⟨_, log⟩ ⟨⟨after, quiet, delay, now, rfl⟩, hlog⟩
    obtain rfl : log = [.created now] := hlog
    have hnot : ∀ time earlier,
        ¬ HealthEvent.recycled time :: earlier <:+ [HealthEvent.created now] := by
      intro time earlier hsuffix
      rcases List.suffix_cons_iff.mp hsuffix with heq | hsuffix
      · cases heq
      · cases List.suffix_nil.mp hsuffix
    refine ⟨⟨fun time earlier hs => absurd hs (hnot time earlier),
      fun time earlier hs => absurd hs (hnot time earlier), rfl⟩, rfl, fun event hmem _ => ?_,
      le_refl _⟩
    obtain rfl := List.mem_singleton.mp hmem
    exact le_refl _
  · intro s label t hinv _ hstep
    obtain ⟨hs, hrecord⟩ := recorded_eq_some.mp hstep
    rw [hrecord]
    exact hinv.step hs

/-- Two writes to a silent unit: the first one is tried twice, the second one follows after the
quiet window. -/
def silentWrites : List TransportLabel :=
  [.call 0 ⟨2, false, false⟩, .resume 0, .resume 0, .resume 0, .reply 0 (.raised .timeout),
    .resume 0, .resume 0, .reply 0 (.raised .timeout), .elapse (seconds 10),
    .call 1 ⟨2, false, false⟩, .resume 1, .resume 1, .resume 1, .reply 1 (.raised .timeout)]

theorem linkRecycling_of_reach_silentWrites :
    ∃ s, run RecyclingStep silentWrites (sampleTransport, [.created 0]) = some s ∧
      s.2 = [.recycled (seconds 10), .unanswered (seconds 10), .unanswered 0, .unanswered 0,
        .created 0] ∧ LinkRecycling s := by
  have hstart : Reach RecyclingStep (fun _ _ => True) RecyclingStart
      (sampleTransport, [.created 0]) := .start ⟨⟨_, _, _, _, rfl⟩, rfl⟩
  obtain ⟨s, hrun, hreach, hs⟩ := hstart.exists_of_run silentWrites
    (fun s => s.2 = [.recycled (seconds 10), .unanswered (seconds 10), .unanswered 0,
      .unanswered 0, .created 0]) (by decide +kernel) (by decide +kernel)
  exact ⟨s, hrun, of_decide_eq_true hs, linkRecycling_of_reach hreach⟩

end MeltemVentilation
