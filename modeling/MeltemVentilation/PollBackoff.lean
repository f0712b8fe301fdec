import MeltemVentilation.Poller

/-!
# The gateway backoff follows the unanswered streak

A job that has been read ends in one of three ways (`JobEnd`): nothing was requested, the
link gave an answer, or it gave none. The streak counts the ends of the third kind since the
last of the second; `recordStreak` keeps it beside the poll loop, from the replies alone. The
coordinator keeps three flags for each job and counts in two places, behind a tick that
returned and behind one that raised. `backoff_follows_streak` says that it counts the same
streak, whatever happens in between: the pause is the one of the streak, and while there is
a pause it is also the delay until the next tick.
-/

namespace MeltemVentilation

/-! ### How a job ends -/

/-- How a job ends, as far as the link is concerned. -/
inductive JobEnd where
  | notAttempted
  /-- With values or with exception responses. -/
  | answered
  /-- `read_room` raised, or requests were sent and none of them got a valid answer. -/
  | linkFailure
deriving DecidableEq, Repr

/-- How a job ends with a reply. -/
def JobEnd.ofReply (job : PollJob) : Except GatewayError RoomRead → JobEnd
  | .error _ => .linkFailure
  | .ok read =>
    if ∃ group ∈ job.groups, group ∈ read.outcome.attemptedGroups then
      if read.outcome.answered then .answered else .linkFailure
    else .notAttempted

theorem JobEnd.ofReply_ok {job : PollJob} {read : RoomRead} : JobEnd.ofReply job (.ok read) =
    if ∃ group ∈ job.groups, group ∈ read.outcome.attemptedGroups then
      if read.outcome.answered then .answered else .linkFailure
    else .notAttempted := rfl

/-- The end of the job under way, once it is known, and the failures of the link since the
last answer. -/
structure Streak where
  current : Option JobEnd := none
  length : ℕ := 0
deriving DecidableEq, Repr

/-- A job has come to its end. -/
def Streak.close (streak : Streak) : Streak where
  length :=
    match streak.current with
    | some .linkFailure => streak.length + 1
    | some .answered => 0
    | some .notAttempted | none => streak.length

namespace Poller

/-- The record of a run. A tick that is cut short, by a cancellation or by an error that is
none of the client's, brings no job to its end. -/
def recordStreak (s : Poller) (label : PollerLabel) (streak : Streak) : Streak :=
  match label with
  | .reply _ reply =>
    match s.tick with
    | .reading job _ => { streak with current := some (.ofReply job reply) }
    | _ => streak
  | .finishTick .. => streak.close
  | .abortTick => { streak with current := none }
  | _ => streak

/-! ### What each function does to the pause -/

/-- The failures are counted, the pause is that of the count, and it is the delay until the
next tick. -/
structure Paced (s : Poller) (n : ℕ) : Prop where
  failures : s.consecutiveTransportFailures = n
  backoff : s.backoff = backoffSeconds n
  delay : ∀ seconds, s.backoff = some seconds → s.chain.nextPollDelay = seconds

section Paced

variable {s t : Poller} {n : ℕ} {now later : Seconds} {optionalDue : List Seconds}
  {label : PollerLabel} {streak : Streak}

theorem backoffSeconds_eq_none : backoffSeconds n = none ↔ n < 3 := by
  rw [backoffSeconds_eq]
  split <;> simp_all

theorem schedulePoll_nextPollDelay {chain : PollChain} {delay : Seconds} :
    (chain.schedulePoll delay).nextPollDelay = chain.nextPollDelay := by
  have hcancel : chain.cancelTimer.nextPollDelay = chain.nextPollDelay := by
    unfold PollChain.cancelTimer
    split <;> rfl
  unfold PollChain.schedulePoll
  dsimp only
  split <;> exact hcancel

theorem setNextPollDelay_nextPollDelay {chain : PollChain} {delay : Seconds} :
    (chain.setNextPollDelay delay).nextPollDelay = delay := by
  unfold PollChain.setNextPollDelay
  dsimp only
  split
  · exact schedulePoll_nextPollDelay
  · rfl

/-- The events of the chain leave the planned delay alone. -/
theorem handle_nextPollDelay {chain chain' : PollChain} {event : PollChain.Event}
    (h : chain.handle event = some chain') : chain'.nextPollDelay = chain.nextPollDelay := by
  have hcancel : ∀ chain : PollChain, chain.cancelTimer.nextPollDelay = chain.nextPollDelay := by
    intro chain
    unfold PollChain.cancelTimer
    split <;> rfl
  have hbegin : ∀ chain : PollChain, chain.beginPoll.nextPollDelay = chain.nextPollDelay := by
    intro chain
    unfold PollChain.beginPoll
    split
    · rfl
    · exact hcancel chain
  cases event with
  | poll =>
    cases h
    exact hbegin chain
  | fire number =>
    obtain ⟨-, heq⟩ := Option.ite_none_right_eq_some.mp h
    cases heq
    rfl
  | startTick =>
    obtain ⟨-, heq⟩ := Option.ite_none_right_eq_some.mp h
    cases heq
    exact hbegin _
  | endRefresh =>
    obtain ⟨-, heq⟩ := Option.ite_none_right_eq_some.mp h
    cases heq
    exact schedulePoll_nextPollDelay
  | shutdown =>
    cases h
    exact hcancel _

/-- A new delay is planned only while there is no pause. -/
theorem paced_scheduleNextTick (now : Seconds) (optionalDue : List Seconds) (h : Paced s n) :
    Paced (s.scheduleNextTick now optionalDue) n := by
  unfold scheduleNextTick
  split
  · exact h
  · rename_i hnone
    refine ⟨h.failures, h.backoff, fun seconds hsome => ?_⟩
    rw [show s.backoff = some seconds from hsome] at hnone
    exact (hnone rfl).elim

/-- A failure of the link lengthens the streak. -/
theorem paced_onTransportFailure (h : Paced s n) : Paced s.onTransportFailure (n + 1) := by
  unfold onTransportFailure applyTransportBackoff
  dsimp only
  rw [h.failures]
  split
  · rename_i hnone
    have hbefore : backoffSeconds n = none :=
      backoffSeconds_eq_none.mpr (by have := backoffSeconds_eq_none.mp hnone; omega)
    exact ⟨rfl, by rw [hnone, h.backoff, hbefore], h.delay⟩
  · rename_i seconds hsome
    split
    · rename_i hsame
      exact ⟨rfl, by rw [hsome]; exact hsame, h.delay⟩
    · refine ⟨rfl, hsome.symm, fun seconds' hseconds => ?_⟩
      cases hseconds
      exact setNextPollDelay_nextPollDelay

/-- An answer ends it. -/
theorem paced_onTransportSuccess : Paced (s.onTransportSuccess now optionalDue) 0 := by
  unfold onTransportSuccess
  dsimp only
  split
  · rename_i hnone
    refine ⟨rfl, hnone, fun seconds hsome => ?_⟩
    rw [show s.backoff = some seconds from hsome] at hnone
    cases hnone
  · exact paced_scheduleNextTick now optionalDue ⟨rfl, rfl, fun seconds hsome => by cases hsome⟩

/-- The flags say how the job has ended. -/
def Flagged (s : Poller) (jobEnd : JobEnd) : Prop :=
  s.lastJobLinkFailure = decide (jobEnd = .linkFailure) ∧
    s.lastJobAttempted = decide (jobEnd ≠ .notAttempted)

/-- **A job is counted by its end**, and by its end only. -/
theorem paced_judgeJob (now : Seconds) (optionalDue : List Seconds) {jobEnd : JobEnd}
    (h : Paced s n) (hflags : Flagged s jobEnd) :
    Paced (s.judgeJob now optionalDue) (Streak.close ⟨some jobEnd, n⟩).length := by
  obtain ⟨hfailure, hattempted⟩ := hflags
  unfold judgeJob
  rw [hfailure, hattempted]
  cases jobEnd with
  | notAttempted => exact h
  | answered => exact paced_onTransportSuccess
  | linkFailure => exact paced_onTransportFailure h

/-- Both ends of a tick count the job once. -/
theorem paced_finishTick (now later : Seconds) (optionalDue : List Seconds) (job : PollJob)
    (startup : Bool) (updated : States) (silentFor : Option Seconds) {jobEnd : JobEnd}
    (h : Paced s n) (hflags : Flagged s jobEnd) :
    Paced (s.finishTick job startup updated now later silentFor optionalDue)
      (Streak.close ⟨some jobEnd, n⟩).length := by
  have hreplan : Paced ({ s with tick := .none, clock := later }.replanJob job startup updated now
        later silentFor) n ∧
      Flagged ({ s with tick := .none, clock := later }.replanJob job startup updated now later
        silentFor) jobEnd := by
    unfold replanJob
    dsimp only
    split <;> exact ⟨⟨h.failures, h.backoff, h.delay⟩, hflags⟩
  obtain ⟨hpaced, hflagged⟩ := hreplan
  -- Both branches judge the job first; only with values the next tick is planned after that.
  unfold finishTick concludeTick
  split
  · have hjudged := paced_scheduleNextTick later optionalDue
      (paced_judgeJob later optionalDue
        (s := { Poller.replanJob { s with tick := .none, clock := later } job startup updated now
          later silentFor with startupStates := fun _ => none })
        ⟨hpaced.failures, hpaced.backoff, hpaced.delay⟩ hflagged)
    exact ⟨hjudged.failures, hjudged.backoff, hjudged.delay⟩
  · have hjudged := paced_judgeJob later optionalDue
      (s := { Poller.replanJob { s with tick := .none, clock := later } job startup updated now
        later silentFor with startupStates := updated })
      ⟨hpaced.failures, hpaced.backoff, hpaced.delay⟩ hflagged
    dsimp only
    split
    · rename_i hnone
      refine ⟨hjudged.failures, hjudged.backoff, fun seconds hsome => ?_⟩
      rw [show _ = some seconds from hsome] at hnone
      cases hnone
    · exact hjudged

/-- The flags that a reply sets say how the job has ended. -/
theorem flagged_readOneJob (s : Poller) (job : PollJob) (startup : Bool) (wall : WallTime)
    (reply : Except GatewayError RoomRead) :
    Flagged (s.readOneJob job startup wall reply) (.ofReply job reply) := by
  cases reply with
  | error error => exact ⟨rfl, rfl⟩
  | ok read =>
    have hattempted : jobReadAttempted job.room read.outcome job.group.refreshPlan = true ↔
        ∃ group ∈ job.groups, group ∈ read.outcome.attemptedGroups := by
      simp only [jobReadAttempted, List.any_eq_true, PollJob.groups, List.mem_filter,
        Bool.and_eq_true, decide_eq_true_eq]
      constructor
      · rintro ⟨group, hgroup, hmem, hsupports⟩
        exact ⟨group, ⟨hgroup, hsupports⟩, hmem⟩
      · rintro ⟨group, ⟨hgroup, hsupports⟩, hmem⟩
        exact ⟨group, hgroup, hmem, hsupports⟩
    show jobReadUnanswered _ _ _ = _ ∧ jobReadAttempted _ _ _ = _
    rw [jobReadUnanswered, JobEnd.ofReply_ok]
    by_cases hsent : ∃ group ∈ job.groups, group ∈ read.outcome.attemptedGroups
    · rw [hattempted.mpr hsent, if_pos hsent]
      cases read.outcome.answered <;> decide
    · have hnone : jobReadAttempted job.room read.outcome job.group.refreshPlan = false := by
        rw [Bool.eq_false_iff]
        exact fun h => hsent (hattempted.mp h)
      rw [hnone, if_neg hsent]
      exact ⟨rfl, rfl⟩

/-! ### The streak of a run -/

/-- What holds of the streak between any two steps. -/
structure Tracked (s : Poller) (streak : Streak) : Prop where
  paced : Paced s streak.length
  judging : ∀ job startup updated, s.tick = .judging job startup updated →
    ∃ jobEnd, streak.current = some jobEnd ∧ Flagged s jobEnd

/-- A step that touches neither the count nor the tick. -/
theorem tracked_of_paced (h : Tracked s streak) (hpaced : Paced t streak.length)
    (htick : t.tick = s.tick ∨ t.tick = .none)
    (hflags : t.lastJobLinkFailure = s.lastJobLinkFailure ∧
      t.lastJobAttempted = s.lastJobAttempted) : Tracked t streak := by
  refine ⟨hpaced, fun job startup updated hjudging => ?_⟩
  rcases htick with htick | htick
  · obtain ⟨jobEnd, hcurrent, hflagged⟩ := h.judging job startup updated (htick ▸ hjudging)
    exact ⟨jobEnd, hcurrent, by rw [hflags.1]; exact hflagged.1, by rw [hflags.2]; exact hflagged.2⟩
  · rw [htick] at hjudging
    cases hjudging

theorem tracked_scheduleNextTick {tick : Tick} {tickSeconds : Seconds} (h : Tracked s streak)
    (htick : tick = s.tick ∨ tick = .none) :
    Tracked ({ s with tick, tickSeconds, clock := now }.scheduleNextTick now optionalDue)
      streak := by
  have hpaced : Paced { s with tick, tickSeconds, clock := now } streak.length :=
    ⟨h.paced.failures, h.paced.backoff, h.paced.delay⟩
  obtain ⟨delays, hplan⟩ := scheduleNextTick_eq
    { s with tick, tickSeconds, clock := now } now optionalDue
  have hplanned := paced_scheduleNextTick now optionalDue hpaced
  rw [hplan] at hplanned ⊢
  exact tracked_of_paced h hplanned htick ⟨rfl, rfl⟩

/-- The start of a tick reads nothing yet. -/
theorem tracked_beginTick {silentFor : Option Seconds} (h : Tracked s streak) :
    Tracked (s.beginTick now later silentFor) streak := by
  obtain ⟨startupJobs, turn, hpass⟩ := selectPollJob_eq s now
  unfold beginTick
  rcases hselect : s.selectPollJob now with ⟨s', - | ⟨job, startup⟩⟩
  all_goals
    rw [hselect] at hpass
    rw [show s' = _ from hpass]
    exact ⟨⟨h.paced.failures, h.paced.backoff, h.paced.delay⟩,
      fun _ _ _ hjudging => by cases hjudging⟩

theorem tracked_step (h : Tracked s streak) (hstep : s.step label = some t) :
    Tracked t (recordStreak s label streak) := by
  cases label with
  | beginTick now later silentFor =>
    simp only [step] at hstep
    split at hstep
    · obtain ⟨-, heq⟩ := Option.ite_none_right_eq_some.mp hstep
      cases heq
      exact tracked_beginTick h
    · cases hstep
  | reply wall reply =>
    simp only [step] at hstep
    split at hstep
    · rename_i job startup htick
      cases hstep
      have hflagged := flagged_readOneJob s job startup wall reply
      simp only [recordStreak, htick]
      refine ⟨?_, fun _ _ _ _ => ⟨_, rfl, hflagged⟩⟩
      cases reply <;> exact ⟨h.paced.failures, h.paced.backoff, h.paced.delay⟩
    · cases hstep
  | finishTick now later silentFor optionalDue =>
    simp only [step] at hstep
    split at hstep
    · rename_i job startup updated htick
      obtain ⟨-, heq⟩ := Option.ite_none_right_eq_some.mp hstep
      cases heq
      obtain ⟨jobEnd, hcurrent, hflagged⟩ := h.judging job startup updated htick
      have hpaced := paced_finishTick now later optionalDue job startup updated silentFor
        h.paced hflagged
      have hclose : recordStreak s (.finishTick now later silentFor optionalDue) streak =
          Streak.close ⟨some jobEnd, streak.length⟩ := by
        rw [recordStreak, ← hcurrent]
      rw [hclose]
      refine ⟨hpaced, fun job' startup' updated' hjudging => ?_⟩
      -- The tick has ended, so no job is left to be judged by the next label.
      unfold finishTick at hjudging
      obtain ⟨delays, failures, backoff, startupStates, data, hconclude⟩ := concludeTick_eq
        ({ s with tick := .none, clock := later }.replanJob job startup updated now later
          silentFor) later optionalDue updated
      rw [hconclude] at hjudging
      unfold replanJob at hjudging
      dsimp only at hjudging
      split at hjudging <;> cases hjudging
    · cases hstep
  | finishIdle now optionalDue =>
    simp only [step] at hstep
    split at hstep
    · obtain ⟨-, heq⟩ := Option.ite_none_right_eq_some.mp hstep
      cases heq
      exact tracked_scheduleNextTick h (.inr rfl)
    · cases hstep
  | abortTick =>
    simp only [step] at hstep
    split at hstep
    · cases hstep
    · cases hstep
      exact ⟨⟨h.paced.failures, h.paced.backoff, h.paced.delay⟩,
        fun _ _ _ hjudging => by cases hjudging⟩
  | updateRequestRate rate now optionalDue =>
    obtain ⟨-, heq⟩ := Option.ite_none_right_eq_some.mp hstep
    cases heq
    unfold updateRequestRate
    dsimp only
    split
    · exact tracked_scheduleNextTick h (.inl rfl)
    · exact tracked_of_paced h ⟨h.paced.failures, h.paced.backoff, h.paced.delay⟩ (.inl rfl)
        ⟨rfl, rfl⟩
  | optionalReads now optionalDue =>
    obtain ⟨-, heq⟩ := Option.ite_none_right_eq_some.mp hstep
    cases heq
    exact tracked_scheduleNextTick h (.inl rfl)
  | claimReadSlot now =>
    obtain ⟨-, heq⟩ := Option.ite_none_right_eq_some.mp hstep
    cases heq
    exact tracked_of_paced h ⟨h.paced.failures, h.paced.backoff, h.paced.delay⟩ (.inl rfl)
      ⟨rfl, rfl⟩
  | setData data =>
    obtain ⟨-, heq⟩ := Option.ite_none_right_eq_some.mp hstep
    cases heq
    exact tracked_of_paced h ⟨h.paced.failures, h.paced.backoff, h.paced.delay⟩ (.inl rfl)
      ⟨rfl, rfl⟩
  | elapse now =>
    obtain ⟨-, heq⟩ := Option.ite_none_right_eq_some.mp hstep
    cases heq
    exact tracked_of_paced h ⟨h.paced.failures, h.paced.backoff, h.paced.delay⟩ (.inl rfl)
      ⟨rfl, rfl⟩
  | chain event =>
    obtain ⟨chain, hchain, rfl⟩ := Option.map_eq_some_iff.mp hstep
    refine tracked_of_paced h ⟨h.paced.failures, h.paced.backoff, fun seconds hsome => ?_⟩
      (.inl rfl) ⟨rfl, rfl⟩
    rw [handle_nextPollDelay hchain]
    exact h.paced.delay seconds hsome

end Paced

/-- The states that runs reach, with the streak of the run. -/
abbrev ReachedWithStreak : Poller × Streak → Prop :=
  Transition.Reach (Transition.recorded step recordStreak) (fun s => always s.1)
    fun s => Started s.1 ∧ s.2 = {}

/-- **The gateway backoff follows exactly the unanswered streak.** Whatever happens in
between, with `n` failures of the link since the last answer the pause is active from the
third on, it is `5 * 2 ^ (n - 3)` seconds up to 60, and it is the delay until the next tick. -/
theorem backoff_follows_streak {s : Poller} {streak : Streak}
    (h : ReachedWithStreak (s, streak)) :
    (s.backoff =
      if streak.length < transportBackoffAfterFailures then none
      else some (min 60 (5 * 2 ^ (streak.length - 3)))) ∧
    ∀ seconds, s.backoff = some seconds → s.chain.nextPollDelay = seconds := by
  have htracked : Tracked s streak := by
    refine h.invariant (P := fun s => Tracked s.1 s.2) ?_ ?_
    · rintro ⟨s, streak⟩ ⟨⟨-, rooms, jobs, started, tickSeconds, rfl⟩, rfl⟩
      exact ⟨⟨rfl, rfl, fun seconds hsome => by cases hsome⟩,
        fun _ _ _ hjudging => by cases hjudging⟩
    · rintro ⟨s, streak⟩ label ⟨t, streak'⟩ hs - hstep
      obtain ⟨hstep, rfl⟩ := Transition.recorded_eq_some.mp hstep
      exact tracked_step hs hstep
  exact ⟨htracked.paced.backoff.trans (backoffSeconds_eq _), htracked.paced.delay⟩

/-- Four jobs of two units whose gateway is gone: the pause is 10 s. -/
theorem backoff_follows_streak_twoUnits : ∃ s streak, ReachedWithStreak (s, streak) ∧
    streak.length = 4 ∧ s.backoff = some 10 ∧ s.chain.nextPollDelay = 10 := by
  have hstart : ReachedWithStreak (twoUnits, {}) := .start ⟨started_twoUnits, rfl⟩
  have hrun : (Transition.run (Transition.recorded step recordStreak)
      (([0, 5, 10, 15] : List Seconds).flatMap fun now =>
        [.beginTick now now none, .reply 0 (.error ⟨true, "Lost the Meltem gateway"⟩),
          .finishTick now now none []]) (twoUnits, {})).any
        (fun x => x.2.length = 4) = true := by decide +kernel
  obtain ⟨⟨s, streak⟩, -, hs, hlength⟩ := Transition.Reach.exists_of_run _ _ hstart
    (Transition.along_true _ (fun _ _ => trivial) _ _) hrun
  have hlength : streak.length = 4 := of_decide_eq_true hlength
  obtain ⟨hbackoff, hdelay⟩ := backoff_follows_streak hs
  have hpause : s.backoff = some 10 := by
    rw [hbackoff, hlength, if_neg (by decide)]
    norm_num
  exact ⟨s, streak, hs, hlength, hpause, hdelay 10 hpause⟩

end Poller

end MeltemVentilation
