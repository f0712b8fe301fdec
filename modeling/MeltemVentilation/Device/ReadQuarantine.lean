import MeltemVentilation.Device.TransportSteps
import MeltemVentilation.Lib.Transition

/-!
# The quarantine of unanswered reads

After a register read that ended without an answer, the late response to it could be taken
for the answer to the next read of the same unit. The policy therefore sends no read of that
unit for a recovery pause.

The pause is checked where a call gets the operation lock, and again before a second attempt,
while the request goes out later, after the wait for a read slot. That this is enough
is a matter of the lock: between the check and the request no other call can make the pause
begin, and time only runs towards its end (`LinkInvariant.cleared`). The record of a run
(`recordLink`) keeps what was handed to the link and which reads were left unanswered, and
`readQuarantine_of_reach` speaks about that record.
-/

namespace MeltemVentilation

open Transition

/-! ### The record of a run -/

/-- What a run keeps on record of the link. -/
inductive LinkEvent where
  /-- The request of a call was handed to the link. -/
  | handed (id : ℕ) (request : Request) (time : Monotonic)
  /-- A read of a unit ended, and its response may still arrive. -/
  | unanswered (unitId : ℕ) (time : Monotonic)
deriving DecidableEq, Repr

/-- Whether a request of this call was handed to the link. -/
def LinkEvent.handedBy (id : ℕ) : LinkEvent → Bool
  | .handed other _ _ => other = id
  | .unanswered _ _ => false

/-- The record after a step, the latest event first. -/
def recordLink (s : Transport) (label : TransportLabel) (log : List LinkEvent) :
    List LinkEvent :=
  match s.handsOver label, s.leavesUnanswered label with
  | some (id, request), _ => .handed id request s.now :: log
  | none, some unitId => .unanswered unitId s.now :: log
  | none, none => log

/-- The link with its record. -/
abbrev LinkStep := recorded Transport.step recordLink

/-- A run starts with a new policy and an empty record. -/
def LinkStart (s : Transport × List LinkEvent) : Prop := s.1.Started ∧ s.2 = []

/-- The recovery pause is over at `time`, if a read of the unit was left unanswered before. -/
def Recovered (log : List LinkEvent) (unitId : ℕ) (time : Monotonic) : Prop :=
  ∀ earlier, .unanswered unitId earlier ∈ log →
    earlier + seconds transportReadRecoverySeconds ≤ time

/-- Every read on record was handed to the link after the recovery pauses of its unit. -/
def Paused (log : List LinkEvent) : Prop :=
  log.Pairwise fun later earlier => ∀ id request time, later = .handed id request time →
    request.isRead = true → ∀ time', earlier = .unanswered request.unitId time' →
      time' + seconds transportReadRecoverySeconds ≤ time

/-- A step of a read of this unit. -/
def Transport.ReadOf (s : Transport) (unitId : ℕ) : TransportLabel → Prop
  | .resume id | .reply id _ | .disconnected id _ | .cancel id =>
    ∃ call, s.calls id = some call ∧ call.request.isRead = true ∧ call.request.unitId = unitId
  | .elapse _ | .updateRequestRate _ | .shutdown | .call _ _ => False

/-- **What the quarantine promises.** A read is handed to the link only after the recovery
pauses of its unit; the entry of a unit in the quarantine table changes nothing in any step
but those of reads of that unit; and no call hands its request over more than twice. -/
structure ReadQuarantine (s : Transport × List LinkEvent) : Prop where
  paused : Paused s.2
  unblocked : ∀ unitId deadline label, ¬ s.1.ReadOf unitId label →
    (s.1.withQuarantine unitId deadline).step label =
      (s.1.step label).map fun t => t.withQuarantine unitId deadline
  twice : ∀ id, s.2.countP (·.handedBy id) ≤ 2

/-! ### The entry of a unit does not block the others -/

namespace Transport

section Unblocked

variable {s : Transport} {call : Call} {unitId : ℕ} {deadline : Option Monotonic}

theorem withQuarantine_calls : (s.withQuarantine unitId deadline).calls = s.calls := rfl

theorem readDelayed_withQuarantine {other : ℕ} (hne : other ≠ unitId) :
    (s.withQuarantine unitId deadline).readDelayed other = s.readDelayed other := by
  simp [readDelayed, withQuarantine, hne]

/-- What a call that is no read of the unit asks of the quarantine table. -/
theorem blocks_withQuarantine
    (h : ¬ (call.request.isRead = true ∧ call.request.unitId = unitId)) :
    (call.request.isRead &&
        (s.withQuarantine unitId deadline).readDelayed call.request.unitId) =
      (call.request.isRead && s.readDelayed call.request.unitId) := by
  by_cases hread : call.request.isRead = true
  · rw [readDelayed_withQuarantine fun hunit => h ⟨hread, hunit⟩]
  · simp [hread]

theorem handleError_withQuarantine {id : ℕ} {retry : Bool} {error : RequestError}
    (h : ¬ (call.request.isRead = true ∧ call.request.unitId = unitId)) :
    (s.withQuarantine unitId deadline).handleError id call retry error =
      (s.handleError id call retry error).withQuarantine unitId deadline := by
  unfold handleError
  rw [blocks_withQuarantine h]
  split
  · rfl
  · split <;> rfl

theorem withQuarantine_comm {other : ℕ} {deadline' : Option Monotonic} (hne : other ≠ unitId) :
    (s.withQuarantine unitId deadline).withQuarantine other deadline' =
      (s.withQuarantine other deadline').withQuarantine unitId deadline := by
  simp only [withQuarantine, Function.update_comm hne]

theorem recordReply_withQuarantine {reply : Reply}
    (h : ¬ (call.request.isRead = true ∧ call.request.unitId = unitId)) :
    (s.withQuarantine unitId deadline).recordReply call.request reply =
      (s.recordReply call.request reply).withQuarantine unitId deadline := by
  unfold recordReply
  split
  · rename_i hread
    dsimp only
    split
    · exact withQuarantine_comm (s := { s with lastReadFinished := some s.now })
        fun hunit => h ⟨hread, hunit⟩
    · rfl
  · rfl

theorem replied_withQuarantine {id : ℕ} {retry : Bool} {reply : Reply}
    (h : ¬ (call.request.isRead = true ∧ call.request.unitId = unitId)) :
    (s.withQuarantine unitId deadline).replied id call retry reply =
      (s.replied id call retry reply).withQuarantine unitId deadline := by
  unfold replied
  rw [recordReply_withQuarantine h]
  generalize s.recordReply call.request reply = u
  cases reply with
  | cancelled => rfl
  | answered =>
    dsimp only
    split
    · rename_i hread
      exact congrArg (endCall · id call)
        (withQuarantine_comm (s := u.linkAnswered) fun hunit =>
          h ⟨(Bool.and_eq_true_iff.mp hread).1, hunit⟩)
    · rfl
  | raised error =>
    dsimp only
    split
    · exact handleError_withQuarantine (s := { u with requestLock := none }.linkAnswered) h
    · split
      · have hsame : ({ u.withQuarantine unitId deadline with requestLock := none } :
            Transport).recyclesLink = ({ u with requestLock := none } : Transport).recyclesLink :=
          rfl
        rw [hsame]
        split
        · rfl
        · exact handleError_withQuarantine (s := { u with
            requestLock := none
            consecutiveTimeouts := u.consecutiveTimeouts + 1 }) h
      · exact handleError_withQuarantine (s := { u with requestLock := none }) h

theorem resume_withQuarantine {id : ℕ}
    (h : ¬ (call.request.isRead = true ∧ call.request.unitId = unitId)) :
    (s.withQuarantine unitId deadline).resume id call =
      (s.resume id call).map fun t => t.withQuarantine unitId deadline := by
  have hblocks : (call.request.isRead && ((s.withQuarantine unitId deadline).closed ||
      (s.withQuarantine unitId deadline).readDelayed call.request.unitId)) =
        (call.request.isRead && (s.closed || s.readDelayed call.request.unitId)) := by
    rw [Bool.and_or_distrib_left, blocks_withQuarantine h, Bool.and_or_distrib_left]
    rfl
  have hslot : (s.withQuarantine unitId deadline).slotReached = s.slotReached := rfl
  unfold resume
  rw [hblocks, hslot]
  cases call.point <;>
    simp only [apply_ite (Option.map _), Option.map_some, Option.map_none] <;> rfl

/-- **A quarantined unit blocks nothing but its own reads.** -/
theorem step_withQuarantine {label : TransportLabel} (h : ¬ s.ReadOf unitId label) :
    (s.withQuarantine unitId deadline).step label =
      (s.step label).map fun t => t.withQuarantine unitId deadline := by
  have hcall : ∀ {id : ℕ} {call : Call}, s.calls id = some call →
      (¬ ∃ call, s.calls id = some call ∧ call.request.isRead = true ∧
        call.request.unitId = unitId) →
      ¬ (call.request.isRead = true ∧ call.request.unitId = unitId) :=
    fun hid hno hread => hno ⟨_, hid, hread⟩
  -- Only a read of the unit looks at its quarantine, so every other label commutes with it.
  cases label with
  | elapse now =>
    simp only [step, apply_ite (Option.map _), Option.map_some, Option.map_none]
    rfl
  | updateRequestRate readInterval =>
    simp only [step]
    split_ifs <;> rfl
  | shutdown => rfl
  | call id request =>
    simp only [step, withQuarantine_calls]
    split <;> rfl
  | resume id =>
    simp only [step, withQuarantine_calls]
    rcases hid : s.calls id with _ | call
    · rfl
    · exact resume_withQuarantine (hcall hid h)
  | reply id reply =>
    simp only [step, withQuarantine_calls]
    rcases hid : s.calls id with _ | call
    · rfl
    · dsimp only
      split
      · exact congrArg some (replied_withQuarantine (hcall hid h))
      · rfl
  | disconnected id raised =>
    simp only [step, withQuarantine_calls]
    rcases hid : s.calls id with _ | call
    · rfl
    · dsimp only
      split
      · cases raised with
        | true => rfl
        | false => exact congrArg some (handleError_withQuarantine (hcall hid h))
      · rfl
  | cancel id =>
    simp only [step, withQuarantine_calls]
    split
    · split <;> rfl
    · rfl

end Unblocked

end Transport

/-! ### The invariant -/

/-- A call at this point has passed the check of the quarantine. -/
def Point.cleared : Point → Bool
  | .waitRequest _ | .waitSlot _ | .onLink _ | .retryDelay _ => true
  | .waitOperation | .disconnecting _ _ | .ended => false

/-- **The invariant.** The recovery pauses on record are over or in the quarantine table
(`table`), and a read that has passed the check has them behind it (`cleared`). -/
structure LinkInvariant (s : Transport) (log : List LinkEvent) : Prop where
  lock : ∀ id call, s.calls id = some call → call.point.inside = true →
    s.operationLock = some id
  past : ∀ unitId time, .unanswered unitId time ∈ log → time ≤ s.now
  table : ∀ unitId time, .unanswered unitId time ∈ log →
    time + seconds transportReadRecoverySeconds ≤ s.now ∨
      ∃ deadline ∈ s.unansweredReads unitId,
        time + seconds transportReadRecoverySeconds ≤ deadline
  cleared : ∀ id call, s.calls id = some call → call.point.cleared = true →
    call.request.isRead = true → Recovered log call.request.unitId s.now
  paused : Paused log
  attempts : ∀ id, log.countP (·.handedBy id) ≤
    ((s.calls id).map fun call => call.point.attempts).getD 0

section Steps

variable {s t : Transport} {log log' : List LinkEvent} {label : TransportLabel} {id : ℕ}
  {call : Call} {point : Point}

theorem Recovered.mono {unitId : ℕ} {time later : Monotonic} (h : Recovered log unitId time)
    (hle : time ≤ later) : Recovered log unitId later :=
  fun earlier hmem => (h earlier hmem).trans hle

/-- A unit that is not quarantined has recovered. -/
theorem LinkInvariant.recovered (h : LinkInvariant s log) {unitId : ℕ}
    (hdelayed : s.readDelayed unitId = false) : Recovered log unitId s.now := by
  intro earlier hmem
  rcases h.table unitId earlier hmem with hover | ⟨deadline, hdeadline, hle⟩
  · exact hover
  · have hnow : deadline ≤ s.now := by
      simpa [Transport.readDelayed, Option.mem_def.mp hdeadline] using hdelayed
    exact hle.trans hnow

/-- **A step of the call that holds the lock** keeps the invariant, if the new point and the
new record fit together. -/
theorem LinkInvariant.move (h : LinkInvariant s log) (hcall : s.calls id = some call)
    (hinside : call.point.inside = true) (hmoved : s.Moved id call point t)
    (hpast : ∀ unitId time, .unanswered unitId time ∈ log' → time ≤ s.now)
    (htable : ∀ unitId time, .unanswered unitId time ∈ log' →
      time + seconds transportReadRecoverySeconds ≤ s.now ∨
        ∃ deadline ∈ t.unansweredReads unitId,
          time + seconds transportReadRecoverySeconds ≤ deadline)
    (hcleared : point.cleared = true → call.request.isRead = true →
      Recovered log' call.request.unitId s.now)
    (hpaused : Paused log')
    (hattempts : ∀ other, log'.countP (·.handedBy other) ≤
      if other = id then point.attempts
      else ((s.calls other).map fun call => call.point.attempts).getD 0) :
    LinkInvariant t log' := by
  have hlock := h.lock id call hcall hinside
  -- The call moved holds the lock, so no other call is inside.
  have hcalls : ∀ other later, t.calls other = some later →
      (other = id ∧ later = { call with point := point }) ∨
        (other ≠ id ∧ later.point.inside = false) := by
    intro other later hlater
    rw [hmoved.calls] at hlater
    by_cases hid : other = id
    · subst hid
      rw [Function.update_self] at hlater
      cases hlater
      exact .inl ⟨rfl, rfl⟩
    · rw [Function.update_of_ne hid] at hlater
      refine .inr ⟨hid, Bool.eq_false_iff.mpr fun hin => hid ?_⟩
      have := h.lock other later hlater hin
      rw [hlock] at this
      exact (Option.some.inj this).symm
  refine ⟨?_, ?_, ?_, ?_, hpaused, ?_⟩
  · intro other later hlater hin
    rcases hcalls other later hlater with ⟨rfl, rfl⟩ | ⟨-, hout⟩
    · rw [hmoved.lock hin, hlock]
    · rw [hout] at hin
      cases hin
  · rw [hmoved.now]
    exact hpast
  · rw [hmoved.now]
    exact htable
  · intro other later hlater hclear hread
    rw [hmoved.now]
    rcases hcalls other later hlater with ⟨rfl, rfl⟩ | ⟨-, hout⟩
    · exact hcleared hclear hread
    · cases hpoint : later.point <;> simp [hpoint, Point.inside, Point.cleared] at hout hclear
  · intro other
    refine (hattempts other).trans (le_of_eq ?_)
    rw [hmoved.calls]
    by_cases hid : other = id
    · subst hid
      simp
    · simp [hid]

/-- A step that hands nothing over and leaves nothing unanswered is not on record. -/
theorem recordLink_none (hhands : s.handsOver label = none)
    (hleaves : s.leavesUnanswered label = none) : recordLink s label log = log := by
  simp only [recordLink, hhands, hleaves]

theorem LinkInvariant.outside (h : LinkInvariant s log) (hout : s.Outside t) :
    LinkInvariant t log := by
  refine ⟨?_, ?_, ?_, ?_, h.paused, ?_⟩
  · rw [hout.calls, hout.lock]
    exact h.lock
  · exact fun unitId time hmem => (h.past unitId time hmem).trans hout.now
  · intro unitId time hmem
    rw [hout.table]
    exact (h.table unitId time hmem).imp (fun hle => hle.trans hout.now) id
  · intro id call hcall hclear hread
    exact (h.cleared id call (hout.calls ▸ hcall) hclear hread).mono hout.now
  · rw [hout.calls]
    exact h.attempts

/-- The calls after the step of one of them: this call, or one that was there before. -/
theorem calls_update {call' later : Call} {other : ℕ}
    (hlater : Function.update s.calls id (some call') other = some later) :
    (other = id ∧ later = call') ∨ (other ≠ id ∧ s.calls other = some later) := by
  by_cases hid : other = id
  · subst hid
    rw [Function.update_self] at hlater
    exact .inl ⟨rfl, (Option.some.inj hlater).symm⟩
  · rw [Function.update_of_ne hid] at hlater
    exact .inr ⟨hid, hlater⟩

/-- **A call that begins, waits for admission or is over** keeps the invariant. -/
theorem LinkInvariant.update {call' : Call} (h : LinkInvariant s log)
    (hcalls : t.calls = Function.update s.calls id (some call'))
    (hlock : ∀ other, other ≠ id → s.operationLock = some other → t.operationLock = some other)
    (hself : call'.point.inside = true → t.operationLock = some id)
    (htable : t.unansweredReads = s.unansweredReads) (hnow : t.now = s.now)
    (hcleared : call'.point.cleared = true → call'.request.isRead = true →
      Recovered log call'.request.unitId s.now)
    (hattempts : ((s.calls id).map fun call => call.point.attempts).getD 0 ≤
      call'.point.attempts) : LinkInvariant t log := by
  -- Only the call itself moved: its clauses are given, the others hold as before.
  refine ⟨?_, hnow ▸ h.past, ?_, ?_, h.paused, ?_⟩
  · intro other later hlater hin
    rw [hcalls] at hlater
    rcases calls_update hlater with ⟨rfl, rfl⟩ | ⟨hne, hbefore⟩
    · exact hself hin
    · exact hlock other hne (h.lock other later hbefore hin)
  · rw [htable, hnow]
    exact h.table
  · intro other later hlater hclear hread
    rw [hcalls] at hlater
    rw [hnow]
    rcases calls_update hlater with ⟨rfl, rfl⟩ | ⟨-, hbefore⟩
    · exact hcleared hclear hread
    · exact h.cleared other later hbefore hclear hread
  · intro other
    refine (h.attempts other).trans ?_
    rw [hcalls]
    by_cases hid : other = id
    · subst hid
      simpa using hattempts
    · simp [hid]

/-- **The end of an attempt** keeps the invariant. -/
theorem LinkInvariant.replied {reply : Reply} {retry : Bool} (h : LinkInvariant s log)
    (hcall : s.calls id = some call) (hpoint : call.point = .onLink retry)
    (hmoved : s.Moved id call point t)
    (htable : t.unansweredReads = s.tableAfter call.request reply)
    (hafter : (∃ error, point = .disconnecting retry error) ∨ t.AfterError call retry point) :
    LinkInvariant t (recordLink s (.reply id reply) log) := by
  have hinside : call.point.inside = true := by rw [hpoint]; rfl
  have hclear := h.cleared id call hcall (by rw [hpoint]; rfl)
  have hcount : ∀ other, log.countP (·.handedBy other) ≤
      if other = id then point.attempts
      else ((s.calls other).map fun call => call.point.attempts).getD 0 := by
    intro other
    refine (h.attempts other).trans ?_
    by_cases hid : other = id
    · subst hid
      have hmore : retry.toNat + 1 ≤ point.attempts := by
        rcases hafter with ⟨error, rfl⟩ | hafter
        · exact le_refl _
        · exact hafter.attempts
      simpa [hcall, hpoint, Point.attempts] using hmore
    · simp [hid]
  by_cases hunanswered : call.request.isRead = true ∧ reply.isUnanswered = true
  · obtain ⟨his, hreply⟩ := hunanswered
    have hrecord : recordLink s (.reply id reply) log =
        .unanswered call.request.unitId s.now :: log := by
      simp [recordLink, Transport.handsOver, Transport.leavesUnanswered, hcall, his, hreply]
    have hdeadline : t.unansweredReads = Function.update s.unansweredReads call.request.unitId
        (some (s.now + seconds transportReadRecoverySeconds)) := by
      simp [htable, Transport.tableAfter, his, hreply]
    have hpast : ∀ unitId time, .unanswered unitId time ∈
        LinkEvent.unanswered call.request.unitId s.now :: log → time ≤ s.now := by
      intro unitId time hmem
      rcases List.mem_cons.mp hmem with heq | hmem
      · cases heq
        exact le_refl _
      · exact h.past unitId time hmem
    rw [hrecord]
    refine h.move hcall hinside hmoved hpast (fun unitId time hmem => ?_) (fun hclear _ => ?_)
      (List.pairwise_cons.mpr ⟨by rintro _ _ _ _ _ ⟨⟩, h.paused⟩) fun other => ?_
    · rw [hdeadline]
      by_cases hunit : unitId = call.request.unitId
      · subst hunit
        exact .inr ⟨_, by rw [Function.update_self]; rfl,
          Nat.add_le_add_right (hpast _ time hmem) _⟩
      · rw [Function.update_of_ne hunit]
        refine h.table unitId time ?_
        rcases List.mem_cons.mp hmem with heq | hmem
        · cases heq
          exact absurd rfl hunit
        · exact hmem
    · -- The pause has just begun, so the call is at its end or recycles the link.
      exfalso
      rcases hafter with ⟨error, rfl⟩ | rfl | ⟨-, -, hread⟩
      · cases hclear
      · cases hclear
      · have hnot := hread his
        rw [Transport.readDelayed, hdeadline, Function.update_self, hmoved.now] at hnot
        simp [seconds, transportReadRecoverySeconds] at hnot
    · simpa [LinkEvent.handedBy] using hcount other
  · have hrecord : recordLink s (.reply id reply) log = log := by
      refine recordLink_none rfl ?_
      simpa [Transport.leavesUnanswered, hcall] using hunanswered
    rw [hrecord]
    refine h.move hcall hinside hmoved h.past (fun unitId time hmem => ?_) (fun _ => hclear)
      h.paused hcount
    -- An answered read clears its own unit at most, and that pause was over when it was sent.
    have htables : t.unansweredReads = s.unansweredReads ∨ (call.request.isRead = true ∧
        t.unansweredReads = Function.update s.unansweredReads call.request.unitId none) := by
      rw [htable, Transport.tableAfter]
      split
      · rename_i his
        split
        · rename_i hreply
          exact absurd ⟨his, hreply⟩ hunanswered
        · split
          · exact .inr ⟨his, rfl⟩
          · exact .inl rfl
      · exact .inl rfl
    rcases htables with hsame | ⟨his, hpopped⟩
    · rw [hsame]
      exact h.table unitId time hmem
    · rw [hpopped]
      by_cases hunit : unitId = call.request.unitId
      · subst hunit
        exact .inl (hclear his time hmem)
      · rw [Function.update_of_ne hunit]
        exact h.table unitId time hmem

/-- **Every step of the link keeps the invariant.** -/
theorem LinkInvariant.step (h : LinkInvariant s log) (hstep : s.step label = some t) :
    LinkInvariant t (recordLink s label log) := by
  rcases s.step_cases hstep with ⟨hout, hhands, hleaves⟩ | ⟨id, request, rfl, hnone, rfl⟩ |
    ⟨id, call, hcall, hstepOf⟩
  · rw [recordLink_none hhands hleaves]
    exact h.outside hout
  · exact h.update rfl (fun _ _ hlock => hlock) nofun rfl rfl nofun (by simp [hnone])
  · have hattempts : ((s.calls id).map fun call => call.point.attempts).getD 0 =
        call.point.attempts := by simp [hcall]
    cases hstepOf with
    | left hpoint hmoved htable hlock hhands hleaves =>
      rw [recordLink_none hhands hleaves]
      refine h.update hmoved.calls hlock nofun htable hmoved.now nofun ?_
      rw [hattempts]
      exact call.point.attempts_le
    | admitted hpoint hlock hread ht =>
      subst ht
      rw [recordLink_none (by simp [Transport.handsOver, hcall, hpoint]) rfl]
      refine h.update rfl (fun other _ hother => ?_) (fun _ => rfl) rfl rfl
        (fun _ his => h.recovered (hread his)) ?_
      · rw [hlock] at hother
        cases hother
      · rw [hattempts, hpoint]
        exact Nat.zero_le _
    | prepared point hinside hpoints hmoved htable hhands =>
      rw [recordLink_none hhands rfl]
      refine h.move hcall hinside hmoved h.past (htable ▸ h.table) (fun _ => ?_) h.paused
        fun other => ?_
      · refine h.cleared id call hcall ?_
        rcases hpoints with ⟨retry, hpoint, -⟩ | ⟨wakeAt, hpoint, -⟩ <;> rw [hpoint] <;> rfl
      · refine (h.attempts other).trans ?_
        split
        · rename_i hid
          subst hid
          rw [hattempts]
          rcases hpoints with ⟨retry, hpoint, rfl⟩ | ⟨wakeAt, hpoint, rfl⟩ <;> rw [hpoint] <;>
            exact le_refl _
        · exact le_refl _
    | handed retry hpoint hmoved htable hhands =>
      have hinside : call.point.inside = true := by rw [hpoint]; rfl
      -- The call is past the quarantine check, so its unit has recovered by now.
      have hclear := h.cleared id call hcall (by rw [hpoint]; rfl)
      have hrecord : recordLink s (.resume id) log =
          .handed id call.request s.now :: log := by simp only [recordLink, hhands]
      rw [hrecord]
      refine h.move hcall hinside hmoved (fun unitId time hmem => h.past unitId time ?_)
        (fun unitId time hmem => htable ▸ h.table unitId time ?_) (fun _ his earlier hmem => ?_)
        (List.pairwise_cons.mpr ⟨?_, h.paused⟩) fun other => ?_
      · simpa using hmem
      · simpa using hmem
      · exact hclear his earlier (by simpa using hmem)
      · rintro earlier hmem _ _ _ ⟨⟩ his time' rfl
        exact hclear his time' hmem
      · rw [List.countP_cons]
        have hbefore := h.attempts other
        by_cases hid : other = id
        · subst hid
          rw [hattempts, hpoint] at hbefore
          simpa [LinkEvent.handedBy, Point.attempts] using hbefore
        · simpa [LinkEvent.handedBy, hid, Ne.symm hid] using hbefore
    | replied retry reply point hpoint hmoved htable hafter =>
      exact h.replied hcall hpoint hmoved htable hafter
    | disconnected retry raised error point hpoint hmoved htable hafter =>
      rw [recordLink_none rfl rfl]
      refine h.move hcall (by rw [hpoint]; rfl) hmoved h.past (htable ▸ h.table)
        (fun hclear his => ?_) h.paused fun other => ?_
      · rcases hafter with rfl | ⟨-, -, hread⟩
        · cases hclear
        · have hnot := hread his
          rw [Transport.readDelayed, htable, hmoved.now] at hnot
          exact h.recovered hnot
      · refine (h.attempts other).trans ?_
        by_cases hid : other = id
        · subst hid
          rw [hattempts, hpoint, if_pos rfl]
          exact hafter.attempts
        · rw [if_neg hid]

end Steps

/-! ### Runs -/

theorem LinkInvariant.of_started {s : Transport} (h : s.Started) : LinkInvariant s [] := by
  obtain ⟨timeouts, quiet, delay, now, rfl⟩ := h
  exact ⟨nofun, nofun, nofun, nofun, .nil, fun _ => le_refl _⟩

theorem linkInvariant_of_reach {s : Transport × List LinkEvent}
    (h : Reach LinkStep (fun _ _ => True) LinkStart s) : LinkInvariant s.1 s.2 := by
  refine h.invariant (P := fun s => LinkInvariant s.1 s.2) ?_ ?_
  · rintro ⟨s, _⟩ ⟨hstarted, rfl⟩
    exact .of_started hstarted
  · intro s label t hinv _ hstep
    obtain ⟨hs, hrecord⟩ := recorded_eq_some.mp hstep
    rw [hrecord]
    exact hinv.step hs

/-- **Read quarantine**, in every run of the link: whatever calls are made by however many
tasks, however their requests end, and wherever they are cancelled. -/
theorem readQuarantine_of_reach {s : Transport × List LinkEvent}
    (h : Reach LinkStep (fun _ _ => True) LinkStart s) : ReadQuarantine s := by
  have hinvariant := linkInvariant_of_reach h
  refine ⟨hinvariant.paused, fun unitId deadline label => Transport.step_withQuarantine,
    fun id => (hinvariant.attempts id).trans ?_⟩
  rcases s.1.calls id with _ | call
  · exact Nat.zero_le _
  · exact call.point.attempts_le

/-- The policy of a test run. -/
def sampleTransport : Transport where
  disconnectAfterTimeouts := 3
  linkQuietSeconds := seconds 10
  connectionRetryDelay := seconds 5
  now := 0

/-- A read of unit 2 is lost, unit 3 is read meanwhile, and unit 2 after the pause. -/
def lostReadRepeated : List TransportLabel :=
  [.call 0 ⟨2, true, false⟩, .resume 0, .resume 0, .resume 0, .reply 0 (.raised .timeout),
    .call 1 ⟨3, true, false⟩, .resume 1, .resume 1, .resume 1, .reply 1 .answered,
    .elapse (seconds 5), .call 2 ⟨2, true, false⟩, .resume 2, .resume 2, .resume 2]

theorem readQuarantine_of_reach_lostRead :
    ∃ s, run LinkStep lostReadRepeated (sampleTransport, []) = some s ∧
      s.2 = [.handed 2 ⟨2, true, false⟩ (seconds 5), .handed 1 ⟨3, true, false⟩ 0,
        .unanswered 2 0, .handed 0 ⟨2, true, false⟩ 0] ∧ ReadQuarantine s := by
  have hstart : Reach LinkStep (fun _ _ => True) LinkStart (sampleTransport, []) :=
    .start ⟨⟨_, _, _, _, rfl⟩, rfl⟩
  obtain ⟨s, hrun, hreach, hs⟩ := hstart.exists_of_run lostReadRepeated
    (fun s => s.2 = [.handed 2 ⟨2, true, false⟩ (seconds 5), .handed 1 ⟨3, true, false⟩ 0,
      .unanswered 2 0, .handed 0 ⟨2, true, false⟩ 0]) (by decide +kernel) (by decide +kernel)
  exact ⟨s, hrun, of_decide_eq_true hs, readQuarantine_of_reach hreach⟩

end MeltemVentilation
