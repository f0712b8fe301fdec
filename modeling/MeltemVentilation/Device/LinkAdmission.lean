import MeltemVentilation.Device.ReadQuarantine

/-!
# Admission to the link

Two locks and a loop decide when the request of a call goes out. The operation lock admits
one call after the other, the request lock one attempt after the other, and a read waits in
a loop until the read interval has passed since the last read ended – by whatever rate is in
force when the loop looks. `linkAdmission_of_reach` says what comes of it, over every
interleaving of calls, rate changes, a shutdown and cancellations: one request at a time, none
after the shutdown, and the reads of all units spaced by the interval in force.

The spacing is measured on the record of the run (`AdmissionLog`), which keeps the end of
every read attempt, whether it was answered, failed or was cancelled. The policy itself
remembers only the last one; that this is the latest of them is the part of
`AdmissionInvariant` that needs time to run forwards.
-/

namespace MeltemVentilation

open Transition

/-! ### The record of a run -/

/-- What a run keeps on record: whether the policy was shut down, and when the attempts to
read ended. -/
structure AdmissionLog where
  shutDown : Bool := false
  readEnds : List Monotonic := []

/-- The record after a step. -/
def recordAdmission (s : Transport) (label : TransportLabel) (log : AdmissionLog) :
    AdmissionLog where
  shutDown := log.shutDown || label = .shutdown
  readEnds :=
    match s.endedAttempt label with
    | some (request, _) => if request.isRead then s.now :: log.readEnds else log.readEnds
    | none => log.readEnds

/-- The link with its record. -/
abbrev AdmissionStep := recorded Transport.step recordAdmission

/-- A run starts with a new policy and an empty record. -/
def AdmissionStart (s : Transport × AdmissionLog) : Prop := s.1.Started ∧ s.2 = {}

/-- The request of a call is on the link. -/
def Transport.OnLink (s : Transport) (id : ℕ) (request : Request) : Prop :=
  ∃ call retry, s.calls id = some call ∧ call.point = .onLink retry ∧ call.request = request

/-- **What the policy promises about the link**: at most one request is on it, and a step puts
a request on it only before the shutdown, and a read only when the read interval in force has
passed since the end of every earlier attempt to read, of whatever unit. -/
structure LinkAdmission (s : Transport × AdmissionLog) : Prop where
  exclusive : ∀ id id' request request', s.1.OnLink id request → s.1.OnLink id' request' →
    id = id'
  admitted : ∀ label t id request, s.1.step label = some t → ¬ s.1.OnLink id request →
    t.OnLink id request → s.2.shutDown = false ∧ (request.isRead = true →
      ∀ finished ∈ s.2.readEnds, finished + s.1.readInterval ≤ s.1.now)

section Steps

variable {s t : Transport} {log : AdmissionLog} {id : ℕ} {request : Request} {call : Call}
  {point : Point} {retry : Bool} {label : TransportLabel}

/-! ### How a request gets on the link -/

/-- After a failed attempt the request is not on the link. -/
theorem Transport.AfterError.ne_onLink {second : Bool} (h : s.AfterError call retry point) :
    point ≠ .onLink second := by
  rintro rfl
  rcases h with h | ⟨-, h, -⟩ <;> cases h

/-- **A step puts a request on the link** only from the wait for a slot, when the policy is
open and, for a read, the slot is reached. -/
theorem Transport.admitted_of_step (h : s.step label = some t) (hnot : ¬ s.OnLink id request)
    (hon : t.OnLink id request) :
    s.closed = false ∧ (request.isRead = true → s.slotReached = true) := by
  obtain ⟨after, second, hafter, hpoint, rfl⟩ := hon
  -- The call is on the link only after the step, so the step is one of its own.
  have hmoves : t.calls id ≠ s.calls id := by
    intro hsame
    exact hnot ⟨after, second, hsame ▸ hafter, hpoint, rfl⟩
  have hself : ∀ {other : ℕ} {later : Call},
      t.calls = Function.update s.calls other (some later) → id = other ∧ after = later := by
    intro other later hcalls
    by_cases hid : id = other
    · refine ⟨hid, ?_⟩
      rw [hcalls, hid, Function.update_self] at hafter
      exact (Option.some.inj hafter).symm
    · exact absurd (by rw [hcalls, Function.update_of_ne hid]) hmoves
  rcases Transport.step_cases h with ⟨hout, -, -⟩ | ⟨other, request, rfl, -, rfl⟩ |
    ⟨other, call, hcall, hstep⟩
  · exact absurd (by rw [hout.calls]) hmoves
  · obtain ⟨-, rfl⟩ := hself rfl
    cases hpoint
  · cases hstep with
    | left _ hmoved =>
      obtain ⟨-, rfl⟩ := hself hmoved.calls
      cases hpoint
    | admitted _ _ _ ht =>
      obtain ⟨-, rfl⟩ := hself (congrArg Transport.calls ht)
      cases hpoint
    | prepared point _ hpoints hmoved =>
      obtain ⟨-, rfl⟩ := hself hmoved.calls
      rcases hpoints with ⟨_, -, rfl⟩ | ⟨_, -, rfl⟩ <;> cases hpoint
    | handed retry hslot hmoved _ hhands =>
      obtain ⟨rfl, rfl⟩ := hself hmoved.calls
      have hresume : s.resume id call = some t := by
        simpa [Transport.step, hcall] using h
      -- Being handed over is the one way onto the link, and it is open to no closed transport.
      have hopen : s.closed = false := by
        by_contra hclosed
        simp [Transport.handsOver, hcall, hslot, hclosed] at hhands
      refine ⟨hopen, fun hread => ?_⟩
      by_contra hwait
      have hread' : call.request.isRead = true := hread
      simp [Transport.resume, hslot, hread', hwait] at hresume
    | replied retry reply point _ hmoved _ hafter' =>
      obtain ⟨-, rfl⟩ := hself hmoved.calls
      rcases hafter' with ⟨error, rfl⟩ | hafter'
      · cases hpoint
      · exact absurd hpoint hafter'.ne_onLink
    | disconnected retry raised error point _ hmoved _ hafter' =>
      obtain ⟨-, rfl⟩ := hself hmoved.calls
      exact absurd hpoint hafter'.ne_onLink

/-! ### The invariant -/

/-- The policy knows what is on record: that it was shut down, and an end of a read that is
not before any other. -/
structure AdmissionInvariant (s : Transport) (log : AdmissionLog) : Prop where
  closed : log.shutDown = true → s.closed = true
  past : ∀ finished ∈ log.readEnds, finished ≤ s.now
  latest : ∀ finished ∈ log.readEnds, ∃ last ∈ s.lastReadFinished, finished ≤ last

theorem AdmissionInvariant.step (h : AdmissionInvariant s log) (hstep : s.step label = some t) :
    AdmissionInvariant t (recordAdmission s label log) := by
  obtain ⟨-, -, hclosed, hnow, hhealth⟩ := Transport.step_health hstep
  have hshut : (recordAdmission s label log).shutDown = true → t.closed = true := by
    intro hshut
    rw [hclosed]
    rcases Bool.or_eq_true_iff.mp hshut with hshut | hlabel
    · rw [h.closed hshut, Bool.true_or]
    · rw [hlabel, Bool.or_true]
  have hpast : ∀ finished ∈ log.readEnds, finished ≤ t.now :=
    fun finished hmem => (h.past finished hmem).trans hnow
  -- Either no attempt ends in this step, or one does and stamps the end of its read.
  rcases hhealth with ⟨hnone, hlast, -⟩ | ⟨-, call, -, reply, -, -, -, hended, hlast, -⟩
  · have hends : (recordAdmission s label log).readEnds = log.readEnds := by
      simp only [recordAdmission, hnone]
    exact ⟨hshut, hends ▸ hpast, by rw [hends, hlast]; exact h.latest⟩
  · have hends : (recordAdmission s label log).readEnds =
        if call.request.isRead then s.now :: log.readEnds else log.readEnds := by
      simp only [recordAdmission, hended]
    by_cases hread : call.request.isRead = true
    · rw [if_pos hread] at hends hlast
      refine ⟨hshut, fun finished hmem => ?_, fun finished hmem => ⟨s.now, hlast, ?_⟩⟩
      all_goals
        rw [hends] at hmem
        rcases List.mem_cons.mp hmem with rfl | hmem
      · exact hnow
      · exact hpast finished hmem
      · exact le_refl _
      · exact h.past finished hmem
    · rw [if_neg hread] at hends hlast
      exact ⟨hshut, hends ▸ hpast, by rw [hends, hlast]; exact h.latest⟩

end Steps

/-! ### Runs -/

/-- In every run the operation lock belongs to the call that is past its admission. -/
theorem Transport.inside_unique {s : Transport}
    (h : Reach Transport.step (fun _ _ => True) Transport.Started s) {id id' : ℕ}
    {call call' : Call} (hcall : s.calls id = some call) (hcall' : s.calls id' = some call')
    (hin : call.point.inside = true) (hin' : call'.point.inside = true) : id = id' := by
  obtain ⟨log, hlog⟩ := Reach.exists_recorded recordLink [] h
  have hinv : LinkInvariant s log := linkInvariant_of_reach hlog
  have hlock := hinv.lock id call hcall hin
  rw [hinv.lock id' call' hcall' hin'] at hlock
  exact (Option.some.inj hlock).symm

/-- **Admission to the link**, in every run of calls, rate changes, shutdown and
cancellations. -/
theorem linkAdmission_of_reach {s : Transport × AdmissionLog}
    (h : Reach AdmissionStep (fun _ _ => True) AdmissionStart s) : LinkAdmission s := by
  have hreach : Reach Transport.step (fun _ _ => True) Transport.Started s.1 :=
    h.of_recorded (fun _ hstart => hstart.1) fun _ _ _ => trivial
  have hinv : AdmissionInvariant s.1 s.2 := by
    refine h.invariant (P := fun s => AdmissionInvariant s.1 s.2) ?_ ?_
    · rintro ⟨_, _⟩ ⟨-, rfl⟩
      exact ⟨nofun, nofun, nofun⟩
    · intro s label t hinv _ hstep
      obtain ⟨hs, hrecord⟩ := recorded_eq_some.mp hstep
      rw [hrecord]
      exact hinv.step hs
  refine ⟨?_, fun label t id request hstep hnot hon => ?_⟩
  · rintro id id' request request' ⟨call, retry, hcall, hpoint, -⟩
      ⟨call', retry', hcall', hpoint', -⟩
    exact Transport.inside_unique hreach hcall hcall' (by rw [hpoint]; rfl) (by rw [hpoint']; rfl)
  · obtain ⟨hopen, hslot⟩ := Transport.admitted_of_step hstep hnot hon
    refine ⟨?_, fun hread finished hmem => ?_⟩
    · by_contra hshut
      rw [hinv.closed (by simpa using hshut)] at hopen
      cases hopen
    · obtain ⟨last, hlast, hle⟩ := hinv.latest finished hmem
      have hreached := hslot hread
      rw [Transport.slotReached, hopen, Bool.false_or, Option.mem_def.mp hlast,
        Option.all_some, decide_eq_true_iff] at hreached
      exact (Nat.add_le_add_right hle _).trans hreached

/-- Two units are read at no more than one request a second; the first read is slow and then
fails, and the policy is shut down while the second one is on the link. -/
def spacedReads : List TransportLabel :=
  [.updateRequestRate (seconds 1), .call 0 ⟨2, true, false⟩, .call 1 ⟨3, true, false⟩, .resume 0,
    .resume 0, .resume 0, .elapse (seconds 3), .reply 0 (.raised .refused), .resume 1, .resume 1,
    .elapse (seconds 4), .resume 1, .shutdown]

theorem linkAdmission_of_reach_spacedReads :
    ∃ s, run AdmissionStep spacedReads (sampleTransport, {}) = some s ∧
      s.2.shutDown = true ∧ s.2.readEnds = [seconds 3] ∧ LinkAdmission s := by
  have hstart : Reach AdmissionStep (fun _ _ => True) AdmissionStart (sampleTransport, {}) :=
    .start ⟨⟨_, _, _, _, rfl⟩, rfl⟩
  obtain ⟨s, hrun, hreach, hs⟩ := hstart.exists_of_run spacedReads
    (fun s => s.2.shutDown = true ∧ s.2.readEnds = [seconds 3]) (by decide +kernel)
    (by decide +kernel)
  obtain ⟨hshut, hends⟩ := of_decide_eq_true hs
  exact ⟨s, hrun, hshut, hends, linkAdmission_of_reach hreach⟩

end MeltemVentilation
