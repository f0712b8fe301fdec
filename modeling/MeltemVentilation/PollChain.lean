import MeltemVentilation.Lib.Transition
import MeltemVentilation.Polling

/-!
# The chain of poll ticks

Every tick plans the next one itself: `async_poll` cancels the waiting timer, awaits the
refresh and schedules the next timer in a `finally` block, and a timer that fires starts a
task that calls `async_poll` again. In between, the delay may change at any time, and
`async_shutdown` ends it all.

Two things are kept apart here that the source keeps in one field. `cancelPollTimer` is the
handle the coordinator holds; `liveTimers` are the timers that the event loop would fire. The
point of this file is that they never disagree (`Chained`): no timer is live that the
coordinator could not cancel, so a second chain cannot fork off, and as long as polling is not
stopped there is a timer, a fired tick or a tick in progress to carry the chain on.
-/

namespace MeltemVentilation

/-- A timer of the event loop. -/
structure PollTimer where
  number : ℕ
  delay : Seconds
deriving DecidableEq, Repr

/-- The poll timer of the coordinator and the ticks that are under way. -/
structure PollChain where
  nextPollDelay : Seconds
  /-- The timers that the event loop would fire. -/
  liveTimers : List PollTimer := []
  /-- The handle `_cancel_poll_timer`: the number of the timer that it cancels. -/
  cancelPollTimer : Option ℕ := none
  /-- How many timers were created. -/
  timers : ℕ := 0
  pollRunning : Bool := false
  pollingStopped : Bool := false
  /-- `hass.is_stopping`. -/
  isStopping : Bool := false
  /-- `entry.pref_disable_polling`. -/
  prefDisablePolling : Bool := false
  /-- Fired ticks whose task has not started. -/
  firedTicks : ℕ := 0
  /-- Calls of `async_poll` that await their refresh. -/
  refreshing : ℕ := 0
  /-- Whether an `async_poll` has begun a tick. -/
  begun : Bool := false
deriving DecidableEq, Repr

namespace PollChain

/-! ### The functions of the coordinator -/

/-- `_async_cancel_poll_timer`. -/
def cancelTimer (chain : PollChain) : PollChain :=
  match chain.cancelPollTimer with
  | some number =>
    { chain with
      liveTimers := chain.liveTimers.filter (·.number ≠ number)
      cancelPollTimer := none }
  | none => chain

/-- `_async_schedule_poll`. -/
def schedulePoll (chain : PollChain) (delay : Seconds) : PollChain :=
  let chain := chain.cancelTimer
  if chain.pollingStopped || chain.isStopping || chain.prefDisablePolling then chain
  else
    { chain with
      liveTimers := ⟨chain.timers, max 0 delay⟩ :: chain.liveTimers
      cancelPollTimer := some chain.timers
      timers := chain.timers + 1 }

/-- `_async_set_next_poll_delay`: a waiting tick moves to the new time at once. -/
def setNextPollDelay (chain : PollChain) (delay : Seconds) : PollChain :=
  let chain := { chain with nextPollDelay := delay }
  if !chain.pollRunning && chain.cancelPollTimer.isSome then chain.schedulePoll delay else chain

/-- `async_poll` up to its refresh. -/
def beginPoll (chain : PollChain) : PollChain :=
  if chain.pollingStopped || chain.isStopping then chain
  else
    { chain.cancelTimer with
      pollRunning := true
      refreshing := chain.refreshing + 1
      begun := true }

/-- `async_poll` after its refresh, whether that returned or raised. -/
def endPoll (chain : PollChain) : PollChain :=
  { chain with pollRunning := false, refreshing := chain.refreshing - 1 }.schedulePoll
    chain.nextPollDelay

/-- `_async_poll_due`, when a timer fires. -/
def pollDue (chain : PollChain) (number : ℕ) : PollChain :=
  { chain with
    liveTimers := chain.liveTimers.filter (·.number ≠ number)
    cancelPollTimer := none
    firedTicks := chain.firedTicks + 1 }

/-- `async_shutdown`. -/
def shutdown (chain : PollChain) : PollChain :=
  { chain with pollingStopped := true }.cancelTimer

/-! ### Events -/

/-- What happens to the chain from outside. -/
inductive Event where
  /-- Somebody calls `async_poll`. -/
  | poll
  | fire (number : ℕ)
  /-- The task of a fired tick calls `async_poll`. -/
  | startTick
  /-- The refresh of an `async_poll` returns or raises. -/
  | endRefresh
  | shutdown
deriving DecidableEq, Repr

/-- One event, if it can happen. -/
def handle (chain : PollChain) : Event → Option PollChain
  | .poll => some chain.beginPoll
  | .fire number =>
    if chain.liveTimers.any (·.number = number) then some (chain.pollDue number) else none
  | .startTick =>
    if 0 < chain.firedTicks then
      some { chain with firedTicks := chain.firedTicks - 1 }.beginPoll
    else none
  | .endRefresh => if 0 < chain.refreshing then some chain.endPoll else none
  | .shutdown => some chain.shutdown

/-- A step of the chain: an event, or a new delay. -/
inductive Label where
  | event (event : Event)
  | setNextPollDelay (delay : Seconds)
deriving DecidableEq, Repr

/-- The step function. -/
def step (chain : PollChain) : Label → Option PollChain
  | .event event => chain.handle event
  | .setNextPollDelay delay => some (chain.setNextPollDelay delay)

/-- The chain of a new coordinator, with polling enabled and Home Assistant running. -/
def Started (chain : PollChain) : Prop :=
  ∃ delay, chain = { nextPollDelay := delay }

/-! ### The invariant -/

/-- **The handle is the live timer**, and the chain is carried on until polling stops. -/
structure Chained (chain : PollChain) : Prop where
  running : chain.isStopping = false ∧ chain.prefDisablePolling = false
  live : chain.liveTimers.map (·.number) = chain.cancelPollTimer.toList
  /-- Somebody carries the chain on. -/
  carried : chain.begun = true → chain.pollingStopped = false →
    chain.liveTimers ≠ [] ∨ 0 < chain.firedTicks ∨ 0 < chain.refreshing
  stopped : chain.pollingStopped = true → chain.liveTimers = []

variable {chain chain' : PollChain} {delay : Seconds} {event : Event} {label : Label}

/-- Cancelling the handle leaves no timer live. -/
theorem cancelTimer_spec (chain : PollChain)
    (h : chain.liveTimers.map (·.number) = chain.cancelPollTimer.toList) :
    chain.cancelTimer = { chain with liveTimers := [], cancelPollTimer := none } := by
  unfold cancelTimer
  split
  · rename_i number hhandle
    rw [hhandle] at h
    have hnone : chain.liveTimers.filter (·.number ≠ number) = [] := by
      refine List.filter_eq_nil_iff.mpr fun timer htimer => ?_
      have hmem : timer.number ∈ chain.liveTimers.map (·.number) := List.mem_map_of_mem htimer
      rw [h] at hmem
      simpa using hmem
    rw [hnone]
  · rename_i hhandle
    rw [hhandle] at h
    obtain hnone : chain.liveTimers = [] := List.map_eq_nil_iff.mp h
    cases chain
    simp_all

/-- Scheduling leaves one live timer, or none once polling has stopped. -/
theorem schedulePoll_spec (h : chain.liveTimers.map (·.number) = chain.cancelPollTimer.toList)
    (hrunning : chain.isStopping = false ∧ chain.prefDisablePolling = false) :
    chain.schedulePoll delay =
      if chain.pollingStopped then { chain with liveTimers := [], cancelPollTimer := none }
      else { chain with
        liveTimers := [⟨chain.timers, max 0 delay⟩]
        cancelPollTimer := some chain.timers
        timers := chain.timers + 1 } := by
  simp [schedulePoll, cancelTimer_spec chain h, hrunning]

/-- After scheduling, the chain is carried on by the new timer. -/
theorem chained_schedulePoll
    (h : chain.liveTimers.map (·.number) = chain.cancelPollTimer.toList)
    (hrunning : chain.isStopping = false ∧ chain.prefDisablePolling = false) :
    Chained (chain.schedulePoll delay) := by
  rw [schedulePoll_spec h hrunning]
  split
  · rename_i hstopped
    refine ⟨hrunning, rfl, fun _ hgoing => ?_, fun _ => rfl⟩
    rw [show chain.pollingStopped = false from hgoing] at hstopped
    cases hstopped
  · rename_i hgoing
    exact ⟨hrunning, rfl, fun _ _ => .inl (List.cons_ne_nil _ _),
      fun hstopped => (hgoing hstopped).elim⟩

theorem chained_setNextPollDelay (h : Chained chain) : Chained (chain.setNextPollDelay delay) := by
  have hnew : Chained { chain with nextPollDelay := delay } :=
    ⟨h.running, h.live, h.carried, h.stopped⟩
  unfold setNextPollDelay
  dsimp only
  split
  · exact chained_schedulePoll hnew.live hnew.running
  · exact hnew

theorem chained_beginPoll (chain : PollChain)
    (h : chain.liveTimers.map (·.number) = chain.cancelPollTimer.toList)
    (hrunning : chain.isStopping = false ∧ chain.prefDisablePolling = false)
    (hstopped : chain.pollingStopped = true → chain.liveTimers = []) :
    Chained chain.beginPoll := by
  unfold beginPoll
  split
  · rename_i hreturn
    have hpolling : chain.pollingStopped = true := by simpa [hrunning] using hreturn
    refine ⟨hrunning, h, fun _ hgoing => ?_, hstopped⟩
    rw [hpolling] at hgoing
    cases hgoing
  · rename_i hgoing
    rw [cancelTimer_spec chain h]
    exact ⟨hrunning, rfl, fun _ _ => .inr (.inr (Nat.succ_pos _)), fun _ => rfl⟩

/-- **Every event keeps the invariant.** -/
theorem chained_handle (h : Chained chain) (hstep : chain.handle event = some chain') :
    Chained chain' := by
  cases event with
  | poll =>
    cases hstep
    exact chained_beginPoll chain h.live h.running h.stopped
  | fire number =>
    obtain ⟨hlive, heq⟩ := Option.ite_none_right_eq_some.mp hstep
    cases heq
    -- The fired timer is the one the handle knows, so none is left.
    obtain ⟨timer, htimer, hnumber⟩ := List.any_eq_true.mp hlive
    have hnone : chain.liveTimers.filter (·.number ≠ number) = [] := by
      have hmem : timer.number ∈ chain.cancelPollTimer.toList := by
        rw [← h.live]
        exact List.mem_map_of_mem htimer
      have hhandle : chain.cancelPollTimer = some number := by
        rw [Option.mem_toList, of_decide_eq_true hnumber] at hmem
        exact hmem
      refine List.filter_eq_nil_iff.mpr fun other hother => ?_
      have hmem : other.number ∈ chain.cancelPollTimer.toList := by
        rw [← h.live]
        exact List.mem_map_of_mem hother
      rw [hhandle] at hmem
      simpa using hmem
    refine ⟨h.running, ?_, fun _ _ => .inr (.inl (Nat.succ_pos _)), fun _ => hnone⟩
    rw [pollDue, hnone]
    rfl
  | startTick =>
    obtain ⟨-, heq⟩ := Option.ite_none_right_eq_some.mp hstep
    cases heq
    exact chained_beginPoll { chain with firedTicks := chain.firedTicks - 1 } h.live h.running
      h.stopped
  | endRefresh =>
    obtain ⟨-, heq⟩ := Option.ite_none_right_eq_some.mp hstep
    cases heq
    exact chained_schedulePoll h.live h.running
  | shutdown =>
    cases hstep
    have hcancel := cancelTimer_spec { chain with pollingStopped := true } h.live
    rw [shutdown, hcancel]
    exact ⟨h.running, rfl, fun _ hgoing => Bool.noConfusion hgoing, fun _ => rfl⟩

/-- **Every step keeps the invariant.** -/
theorem chained_step (h : Chained chain) (hstep : chain.step label = some chain') :
    Chained chain' := by
  cases label with
  | event event => exact chained_handle h hstep
  | setNextPollDelay delay =>
    cases hstep
    exact chained_setNextPollDelay h

theorem chained_of_started (h : Started chain) : Chained chain := by
  obtain ⟨delay, rfl⟩ := h
  exact ⟨⟨rfl, rfl⟩, rfl, fun hbegun => Bool.noConfusion hbegun, fun _ => rfl⟩

/-- Polling that was stopped stays stopped. -/
theorem pollingStopped_step (h : chain.pollingStopped = true)
    (hstep : chain.step label = some chain') : chain'.pollingStopped = true := by
  have hcancel : ∀ chain : PollChain, chain.cancelTimer.pollingStopped = chain.pollingStopped := by
    intro chain
    unfold cancelTimer
    split <;> rfl
  have hschedule : ∀ (chain : PollChain) (delay : Seconds),
      (chain.schedulePoll delay).pollingStopped = chain.pollingStopped := by
    intro chain delay
    unfold schedulePoll
    dsimp only
    split
    · exact hcancel chain
    · exact hcancel chain
  cases label with
  | setNextPollDelay delay =>
    cases hstep
    unfold setNextPollDelay
    dsimp only
    split
    · rw [hschedule]
      exact h
    · exact h
  | event event =>
    cases event with
    | poll =>
      cases hstep
      simp [beginPoll, h]
    | fire number =>
      obtain ⟨-, heq⟩ := Option.ite_none_right_eq_some.mp hstep
      cases heq
      exact h
    | startTick =>
      obtain ⟨-, heq⟩ := Option.ite_none_right_eq_some.mp hstep
      cases heq
      simp [beginPoll, h]
    | endRefresh =>
      obtain ⟨-, heq⟩ := Option.ite_none_right_eq_some.mp hstep
      cases heq
      rw [endPoll, hschedule]
      exact h
    | shutdown =>
      cases hstep
      rw [shutdown, hcancel]

/-! ### Runs -/

/-- The chains that are reached, by any interleaving of events and new delays. -/
abbrev Reached : PollChain → Prop := Transition.Reach step (fun _ _ => True) Started

theorem chained_of_reached (h : Reached chain) : Chained chain :=
  h.invariant (fun _ => chained_of_started) fun _ _ _ hchain _ hstep => chained_step hchain hstep

/-- **The poll chain neither dies nor forks.** From the first `async_poll` until shutdown
there is one live timer, a fired tick or a tick in progress; there are never two live timers;
and after `async_shutdown` no timer is ever live again. -/
theorem pollChain_alive (h : Reached chain) :
    (chain.begun = true → chain.pollingStopped = false →
      (∃ timer, chain.liveTimers = [timer]) ∨ 0 < chain.firedTicks ∨ 0 < chain.refreshing) ∧
    chain.liveTimers.length ≤ 1 ∧
    (chain.pollingStopped = true → ∀ later,
      Transition.Reach step (fun _ _ => True) (· = chain) later → later.liveTimers = []) := by
  have hchain := chained_of_reached h
  have hlength : chain.liveTimers.length ≤ 1 := by
    have hlive := congrArg List.length hchain.live
    rw [List.length_map] at hlive
    rw [hlive]
    cases chain.cancelPollTimer <;> simp
  refine ⟨fun hbegun hgoing => ?_, hlength, fun hstopped later hlater => ?_⟩
  · refine (hchain.carried hbegun hgoing).imp_left fun hlive => ?_
    exact List.length_eq_one_iff.mp
      (le_antisymm hlength (List.length_pos_of_ne_nil hlive))
  · have hkept := hlater.invariant
      (P := fun later => Chained later ∧ later.pollingStopped = true)
      (fun _ heq => by rw [heq]; exact ⟨hchain, hstopped⟩)
      fun _ _ _ hkept _ hstep =>
        ⟨chained_step hkept.1 hstep, pollingStopped_step hkept.2 hstep⟩
    exact hkept.1.stopped hkept.2

/-- Two ticks, with a new delay while the second timer waits. -/
theorem pollChain_alive_twoTicks : ∃ chain, Reached chain ∧
    chain.liveTimers = [⟨2, 3⟩] ∧ chain.liveTimers.length ≤ 1 := by
  have hstart : Reached { nextPollDelay := 1 } := .start ⟨1, rfl⟩
  have hrun : (Transition.run step [.event .poll, .setNextPollDelay 2, .event .endRefresh,
      .event (.fire 0), .event .startTick, .event .endRefresh, .setNextPollDelay 3]
      { nextPollDelay := 1 }).any (fun chain => chain.liveTimers = [⟨2, 3⟩]) = true := by
    decide +kernel
  obtain ⟨chain, -, hchain, hlive⟩ := Transition.Reach.exists_of_run _ _ hstart
    (Transition.along_true _ (fun _ _ => trivial) _ _) hrun
  exact ⟨chain, hchain, of_decide_eq_true hlive, (pollChain_alive hchain).2.1⟩

end PollChain

end MeltemVentilation
