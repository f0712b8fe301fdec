import MeltemVentilation.Poller

/-!
# No poll job starves

Jobs are chosen in two ways. The first pass gives every job its first turn, in the order of
the list; while it goes on, every second choice may fall on a job that is due and has had its
first turn already. After it, the job that has been due the longest is chosen.

`Idles` and `Selects` say once what a step can do to the plan. From them follow the order of
the first pass (`FirstPass`), and the bound on how often a due job is overtaken
(`Overtaken`): a job that is chosen moves behind every job that is due at that time, so
until a due job is chosen no other one is chosen twice. A job that still waits for its first
turn is not protected by its due time, only by its place in the first pass.
-/

namespace MeltemVentilation

namespace Poller

/-! ### What a step can do to the plan -/

/-- One choice of a job; `first` says that it was its first turn. -/
structure Selection where
  job : JobId
  first : Bool
deriving DecidableEq, Repr

/-- Which job a step chooses. -/
def selected (s : Poller) : PollerLabel → Option Selection
  | .beginTick now _ _ => (s.selectPollJob now).2.map fun choice => ⟨choice.1.id, choice.2⟩
  | _ => none

/-- The choices so far, the latest first. -/
def recordSelection (s : Poller) (label : PollerLabel) (trace : List Selection) :
    List Selection :=
  (s.selected label).toList ++ trace

/-- The first turns among the choices, the latest first. -/
def firstTurns (trace : List Selection) : List JobId := (trace.filter (·.first)).map (·.job)

/-- Whether a tick is about a job. -/
def Holds (s : Poller) (id : JobId) : Prop :=
  match s.tick with
  | .none | .idle => False
  | .reading job _ | .judging job _ _ => job.id = id

instance (s : Poller) (id : JobId) : Decidable (s.Holds id) := by
  unfold Holds
  split <;> infer_instance

/-- What holds of the plan between any two steps. -/
structure Planned (s : Poller) : Prop where
  nodup : (s.jobs.map PollJob.id).Nodup
  waiting : s.waiting ⊆ s.jobs.map PollJob.id
  once : s.waiting.Nodup
  /-- Before the first tick there are no data. -/
  fresh : s.startupJobs = none → s.nonempty s.data = false ∧ s.tick = .none

/-- A step that chooses no job: it may move the job of its tick, which is then not due. -/
structure Idles (s t : Poller) : Prop where
  ids : t.jobs.map PollJob.id = s.jobs.map PollJob.id
  waiting : t.waiting = s.waiting
  turn : t.startupTurn = s.startupTurn
  clock : s.clock ≤ t.clock
  kept : ∀ job ∈ s.jobs, ¬ s.Holds job.id → job ∈ t.jobs
  moved : ∀ job ∈ t.jobs, job ∈ s.jobs ∨ s.Holds job.id ∧ s.clock < job.nextDue
  holds : ∀ id, t.Holds id → s.Holds id

/-- A step that chooses a job, which is then not due any more. -/
structure Selects (s t : Poller) (job : PollJob) (first : Bool) : Prop where
  mem : job ∈ s.jobs
  ids : t.jobs.map PollJob.id = s.jobs.map PollJob.id
  clock : s.clock ≤ t.clock
  kept : ∀ other ∈ s.jobs, other.id ≠ job.id → other ∈ t.jobs
  moved : ∀ other ∈ t.jobs, other ∈ s.jobs ∧ other.id ≠ job.id ∨
    other.id = job.id ∧ s.clock < other.nextDue
  holds : ∀ id, t.Holds id → id = job.id
  /-- A first turn is taken from the front of the pass. -/
  front : first = true → s.waiting = job.id :: t.waiting ∧ t.startupTurn = false
  /-- Otherwise the job has been due the longest of those that have had their first turn. -/
  oldest : first = false → job.id ∉ s.waiting ∧ t.waiting = s.waiting ∧
    (s.waiting ≠ [] → s.startupTurn = false ∧ t.startupTurn = true) ∧
    ∀ other ∈ s.jobs, other.id ∉ s.waiting → other.nextDue ≤ s.clock →
      job.nextDue ≤ other.nextDue

section Moves

variable {s : Poller} {id : JobId}

theorem setNextDue_ids {nextDue : Seconds} :
    (s.setNextDue id nextDue).jobs.map PollJob.id = s.jobs.map PollJob.id := by
  rw [setNextDue, List.map_map]
  refine List.map_congr_left fun job _ => ?_
  rw [Function.comp_apply]
  split <;> rfl

theorem mem_setNextDue_of_ne {nextDue : Seconds} {job : PollJob} (h : job ∈ s.jobs)
    (hne : job.id ≠ id) : job ∈ (s.setNextDue id nextDue).jobs :=
  List.mem_map.mpr ⟨job, h, if_neg hne⟩

theorem of_mem_setNextDue {nextDue : Seconds} {job : PollJob}
    (h : job ∈ (s.setNextDue id nextDue).jobs) :
    job ∈ s.jobs ∧ job.id ≠ id ∨ job.id = id ∧ job.nextDue = nextDue := by
  obtain ⟨old, hold, rfl⟩ := List.mem_map.mp h
  by_cases hid : old.id = id
  · rw [if_pos hid]
    exact .inr ⟨hid, rfl⟩
  · rw [if_neg hid]
    exact .inl ⟨hold, hid⟩

end Moves

/-! ### The choice of a job -/

section Choice

variable {s t : Poller} {now later : Seconds} {silentFor : Option Seconds} {job : PollJob}
  {first : Bool} {label : PollerLabel}

/-- The first pass begins with all jobs, unless it has begun already. -/
theorem beginPass_eq (h : Planned s) : s.beginPass = { s with startupJobs := some s.waiting } := by
  unfold beginPass
  cases hjobs : s.startupJobs with
  | none =>
    rw [if_pos ⟨rfl, (h.fresh hjobs).1⟩]
    simp [waiting, hjobs]
  | some waiting =>
    rw [if_neg fun hnone => Option.some_ne_none _ hnone.1]
    cases s
    cases hjobs
    rfl

/-- **What `_select_poll_job` chooses**: nothing, the front of the first pass, or the oldest of
the due jobs that have had their first turn. -/
theorem selectPollJob_cases (now : Seconds) (h : Planned s) :
    ((s.waiting ≠ [] → 0 < s.readSpacingRemaining now) ∧
      s.selectPollJob now = ({ s with startupJobs := some s.waiting }, none)) ∨
    (∃ job ∈ s.jobs, ∃ rest, s.waiting = job.id :: rest ∧
      s.selectPollJob now =
        ({ s with startupJobs := some rest, startupTurn := false }, some (job, true))) ∨
    (∃ turn job, (s.waiting ≠ [] → s.startupTurn = false ∧ turn = true) ∧
      selectDueJob (s.jobs.filter fun job => job.id ∉ s.waiting) now = some job ∧
      s.selectPollJob now =
        ({ s with startupJobs := some s.waiting, startupTurn := turn }, some (job, false))) := by
  unfold selectPollJob
  rw [beginPass_eq h]
  dsimp only
  split
  · rename_i hblocked
    exact .inl ⟨fun _ => hblocked, rfl⟩
  · cases hwaiting : s.waiting with
    | nil =>
      dsimp only
      cases hdue : selectDueJob s.jobs now with
      | none => exact .inl ⟨fun hne => (hne rfl).elim, rfl⟩
      | some job =>
        refine .inr (.inr ⟨s.startupTurn, job, fun hne => (hne rfl).elim, ?_, rfl⟩)
        simpa using hdue
    | cons next rest =>
      have hnext : next ∈ s.jobs.map PollJob.id := h.waiting (by rw [hwaiting]; simp)
      obtain ⟨job, hjob, rfl⟩ := List.mem_map.mp hnext
      obtain ⟨found, hfind⟩ : ∃ found, (s.jobs.find? fun other => other.id = job.id) = some found :=
        Option.isSome_iff_exists.mp (List.find?_isSome.mpr ⟨job, hjob, by simp⟩)
      have hid : found.id = job.id := by simpa using List.find?_some hfind
      dsimp only
      split
      · rename_i due hdue hturn
        exact .inr (.inr ⟨true, due, fun _ => ⟨hturn, rfl⟩, hdue, rfl⟩)
      · refine .inr (.inl ⟨found, List.mem_of_find?_eq_some hfind, rest, by rw [hid], ?_⟩)
        rw [hfind]
        rfl

/-- A job that was planned anew is not due at the time before. -/
theorem moved_of_setNextDue (hclock : s.clock ≤ now) {elapsed : Seconds} {neverRead silent : Bool}
    {other : PollJob}
    (h : other ∈ (s.setNextDue job.id (now + job.interval elapsed neverRead silent)).jobs) :
    other ∈ s.jobs ∧ other.id ≠ job.id ∨ other.id = job.id ∧ s.clock < other.nextDue := by
  rcases of_mem_setNextDue h with hold | ⟨hid, hdue⟩
  · exact .inl hold
  · refine .inr ⟨hid, ?_⟩
    have hpos := job.interval_pos elapsed neverRead silent
    rw [hdue]
    linarith

/-- **What the start of a tick does to the plan.** -/
theorem beginTick_cases (silentFor : Option Seconds) (h : Planned s) (hnow : s.clock ≤ now)
    (hlater : now ≤ later) :
    (Idles s (s.beginTick now later silentFor) ∧ (s.selectPollJob now).2 = none) ∨
    ∃ job first, Selects s (s.beginTick now later silentFor) job first ∧
      (s.selectPollJob now).2 = some (job, first) := by
  obtain ⟨-, hselect⟩ | ⟨job, hjob, rest, hwaiting, hselect⟩ |
    ⟨turn, job, hturn, hdue, hselect⟩ := selectPollJob_cases now h
  · refine .inl ⟨?_, by rw [hselect]⟩
    unfold beginTick
    rw [hselect]
    exact ⟨rfl, rfl, rfl, hnow.trans hlater, fun job hjob _ => hjob, fun job hjob => .inl hjob,
      fun id hid => hid.elim⟩
  · refine .inr ⟨job, true, ?_, by rw [hselect]⟩
    unfold beginTick
    rw [hselect]
    exact {
      mem := hjob
      ids := setNextDue_ids
      clock := hnow.trans hlater
      kept := fun other hother hne => mem_setNextDue_of_ne hother hne
      moved := fun other hother => moved_of_setNextDue hnow hother
      holds := fun id hid => Eq.symm hid
      front := fun _ => ⟨hwaiting, rfl⟩
      oldest := fun hfalse => Bool.noConfusion hfalse }
  · have hmem := mem_of_selectDueJob hdue
    have hturned : job.id ∉ s.waiting := by simpa using (List.mem_filter.mp hmem.1).2
    refine .inr ⟨job, false, ?_, by rw [hselect]⟩
    unfold beginTick
    rw [hselect]
    exact {
      mem := (List.mem_filter.mp hmem.1).1
      ids := setNextDue_ids
      clock := hnow.trans hlater
      kept := fun other hother hne => mem_setNextDue_of_ne hother hne
      moved := fun other hother => moved_of_setNextDue hnow hother
      holds := fun id hid => Eq.symm hid
      front := fun hfalse => Bool.noConfusion hfalse
      oldest := fun _ => ⟨hturned, rfl, hturn, fun other hother hwaits hother' =>
        nextDue_le_of_selectDueJob hdue (List.mem_filter.mpr ⟨hother, by simpa using hwaits⟩)
          (hother'.trans hnow)⟩ }

/-- A step that leaves jobs, first pass and turn alone, and no more of a tick than there was. -/
theorem idles_of_eq (hjobs : t.jobs = s.jobs) (hstartup : t.startupJobs = s.startupJobs)
    (hturn : t.startupTurn = s.startupTurn) (hclock : s.clock ≤ t.clock)
    (hholds : ∀ id, t.Holds id → s.Holds id) : Idles s t where
  ids := by rw [hjobs]
  waiting := by rw [waiting, waiting, hjobs, hstartup]
  turn := hturn
  clock := hclock
  kept job hjob _ := by rwa [hjobs]
  moved job hjob := .inl (by rwa [← hjobs])
  holds := hholds

theorem idles_scheduleNextTick {optionalDue : List Seconds} {tick : Tick}
    {tickSeconds : Seconds} (hnow : s.clock ≤ now)
    (hholds : tick = .none ∨ tick = s.tick) :
    Idles s ({ s with tick, tickSeconds, clock := now }.scheduleNextTick now optionalDue) := by
  obtain ⟨delays, hplan⟩ := scheduleNextTick_eq
    { s with tick, tickSeconds, clock := now } now optionalDue
  rw [hplan]
  refine idles_of_eq rfl rfl rfl hnow fun id hid => ?_
  rcases hholds with rfl | rfl
  · exact hid.elim
  · exact hid

/-- The end of a tick may move the job of the tick, and no other one. -/
theorem idles_finishTick {startup : Bool} {updated : States} {optionalDue : List Seconds}
    (hnow : s.clock ≤ now) (hlater : now ≤ later) (hholds : s.Holds job.id) :
    Idles s (s.finishTick job startup updated now later silentFor optionalDue) := by
  unfold finishTick
  obtain ⟨delays, failures, backoff, startupStates, data, hconclude⟩ := concludeTick_eq
    ({ s with tick := .none, clock := later }.replanJob job startup updated now later
      silentFor) later optionalDue updated
  rw [hconclude]
  obtain hreplan | ⟨neverRead, silent, hreplan⟩ := replanJob_eq
    { s with tick := .none, clock := later } now later job startup updated silentFor
  · rw [hreplan]
    exact idles_of_eq rfl rfl rfl (hnow.trans hlater) fun id hid => hid.elim
  · rw [hreplan]
    exact {
      ids := setNextDue_ids (s := s)
      waiting := congrArg s.startupJobs.getD (setNextDue_ids (s := s))
      turn := rfl
      clock := hnow.trans hlater
      kept := fun other hother hfree => mem_setNextDue_of_ne (s := s) hother fun hid =>
        hfree (by rwa [hid])
      moved := fun other hother => by
        rcases moved_of_setNextDue (s := s) hnow hother with ⟨hold, -⟩ | ⟨hid, hdue⟩
        · exact .inl hold
        · exact .inr ⟨by rwa [hid], hdue⟩
      holds := fun id hid => hid.elim }

/-- **What a step does to the plan.** -/
theorem step_cases (h : Planned s) (hstep : s.step label = some t) :
    (Idles s t ∧ s.selected label = none) ∨
    ∃ job first, Selects s t job first ∧ s.selected label = some ⟨job.id, first⟩ := by
  -- A job is chosen when a tick begins; the other labels move at most the job of their tick.
  cases label with
  | beginTick now later silentFor =>
    simp only [step] at hstep
    split at hstep
    · obtain ⟨⟨hnow, hlater⟩, heq⟩ := Option.ite_none_right_eq_some.mp hstep
      cases heq
      obtain ⟨hidles, hnone⟩ | ⟨job, first, hselects, hsome⟩ :=
        beginTick_cases silentFor h hnow hlater
      · exact .inl ⟨hidles, by rw [selected, hnone]; rfl⟩
      · exact .inr ⟨job, first, hselects, by rw [selected, hsome]; rfl⟩
    · cases hstep
  | reply wall reply =>
    simp only [step] at hstep
    split at hstep
    · rename_i job startup htick
      cases hstep
      refine .inl ⟨?_, rfl⟩
      have hholds : ∀ id, job.id = id → s.Holds id := fun id hid => by
        rw [Holds, htick]
        exact hid
      cases reply with
      | error error => exact idles_of_eq rfl rfl rfl le_rfl hholds
      | ok read => exact idles_of_eq rfl rfl rfl le_rfl hholds
    · cases hstep
  | finishTick now later silentFor optionalDue =>
    simp only [step] at hstep
    split at hstep
    · rename_i job startup updated htick
      obtain ⟨⟨hnow, hlater⟩, heq⟩ := Option.ite_none_right_eq_some.mp hstep
      cases heq
      exact .inl ⟨idles_finishTick hnow hlater (by rw [Holds, htick]), rfl⟩
    · cases hstep
  | finishIdle now optionalDue =>
    simp only [step] at hstep
    split at hstep
    · obtain ⟨hnow, heq⟩ := Option.ite_none_right_eq_some.mp hstep
      cases heq
      exact .inl ⟨idles_scheduleNextTick hnow (.inl rfl), rfl⟩
    · cases hstep
  | abortTick =>
    simp only [step] at hstep
    split at hstep
    · cases hstep
    · cases hstep
      exact .inl ⟨idles_of_eq rfl rfl rfl le_rfl fun id hid => hid.elim, rfl⟩
  | updateRequestRate rate now optionalDue =>
    obtain ⟨hnow, heq⟩ := Option.ite_none_right_eq_some.mp hstep
    cases heq
    refine .inl ⟨?_, rfl⟩
    unfold updateRequestRate
    dsimp only
    split
    · exact idles_scheduleNextTick hnow (.inr rfl)
    · exact idles_of_eq rfl rfl rfl hnow fun id hid => hid
  | optionalReads now optionalDue =>
    obtain ⟨hnow, heq⟩ := Option.ite_none_right_eq_some.mp hstep
    cases heq
    exact .inl ⟨idles_scheduleNextTick hnow (.inr rfl), rfl⟩
  | claimReadSlot now =>
    obtain ⟨hnow, heq⟩ := Option.ite_none_right_eq_some.mp hstep
    cases heq
    exact .inl ⟨idles_of_eq rfl rfl rfl hnow fun id hid => hid, rfl⟩
  | setData data =>
    obtain ⟨-, heq⟩ := Option.ite_none_right_eq_some.mp hstep
    cases heq
    exact .inl ⟨idles_of_eq rfl rfl rfl le_rfl fun id hid => hid, rfl⟩
  | elapse now =>
    obtain ⟨hnow, heq⟩ := Option.ite_none_right_eq_some.mp hstep
    cases heq
    exact .inl ⟨idles_of_eq rfl rfl rfl hnow fun id hid => hid, rfl⟩
  | chain event =>
    obtain ⟨chain, -, rfl⟩ := Option.map_eq_some_iff.mp hstep
    exact .inl ⟨idles_of_eq rfl rfl rfl le_rfl fun id hid => hid, rfl⟩

/-- The first pass has begun as soon as a tick has, or data have arrived. -/
theorem fresh_step (h : Planned s) (hstep : s.step label = some t)
    (hnone : t.startupJobs = none) : t.nonempty t.data = false ∧ t.tick = .none := by
  have hfresh : s.startupJobs = none → s.nonempty s.data = false ∧ s.tick = .none := h.fresh
  -- Start-up jobs are never forgotten again, so a label that needs a tick cannot come here.
  cases label with
  | beginTick now later silentFor =>
    simp only [step] at hstep
    split at hstep
    · obtain ⟨-, heq⟩ := Option.ite_none_right_eq_some.mp hstep
      cases heq
      unfold beginTick at hnone
      obtain ⟨-, hselect⟩ | ⟨job, hjob, rest, hwaiting, hselect⟩ |
        ⟨turn, job, hturn, hdue, hselect⟩ := selectPollJob_cases now h
      all_goals
        rw [hselect] at hnone
        cases hnone
    · cases hstep
  | reply wall reply =>
    simp only [step] at hstep
    split at hstep
    · rename_i job startup htick
      cases hstep
      have hbegun : s.startupJobs = none := by
        cases reply <;> exact hnone
      rw [(hfresh hbegun).2] at htick
      cases htick
    · cases hstep
  | finishTick now later silentFor optionalDue =>
    simp only [step] at hstep
    split at hstep
    · rename_i job startup updated htick
      obtain ⟨⟨hnow, hlater⟩, heq⟩ := Option.ite_none_right_eq_some.mp hstep
      cases heq
      have hbegun : s.startupJobs = none := by
        rw [finishTick] at hnone
        obtain ⟨delays, failures, backoff, startupStates, data, hconclude⟩ := concludeTick_eq
          ({ s with tick := .none, clock := later }.replanJob job startup updated now later
            silentFor) later optionalDue updated
        rw [hconclude] at hnone
        obtain hreplan | ⟨neverRead, silent, hreplan⟩ := replanJob_eq
          { s with tick := .none, clock := later } now later job startup updated silentFor
        · rw [hreplan] at hnone
          exact hnone
        · rw [hreplan] at hnone
          exact hnone
      rw [(hfresh hbegun).2] at htick
      cases htick
    · cases hstep
  | finishIdle now optionalDue =>
    simp only [step] at hstep
    split at hstep
    · rename_i htick
      obtain ⟨hnow, heq⟩ := Option.ite_none_right_eq_some.mp hstep
      cases heq
      obtain ⟨delays, hplan⟩ := scheduleNextTick_eq
        { s with tick := .none, clock := now } now optionalDue
      rw [hplan] at hnone
      rw [(hfresh hnone).2] at htick
      cases htick
    · cases hstep
  | abortTick =>
    simp only [step] at hstep
    split at hstep
    · cases hstep
    · cases hstep
      exact ⟨(hfresh hnone).1, rfl⟩
  | updateRequestRate rate now optionalDue =>
    obtain ⟨-, heq⟩ := Option.ite_none_right_eq_some.mp hstep
    cases heq
    obtain ⟨delays, hplan⟩ := scheduleNextTick_eq
      { s with clock := now, tickSeconds := 1 / max (1 / 10) rate } now optionalDue
    unfold updateRequestRate at hnone ⊢
    dsimp only at hnone ⊢
    split at hnone
    · rename_i hidle
      rw [hplan] at hnone
      rw [if_pos hidle, hplan]
      exact hfresh hnone
    · rename_i hpaused
      rw [if_neg hpaused]
      exact hfresh hnone
  | optionalReads now optionalDue =>
    obtain ⟨-, heq⟩ := Option.ite_none_right_eq_some.mp hstep
    cases heq
    obtain ⟨delays, hplan⟩ := scheduleNextTick_eq { s with clock := now } now optionalDue
    rw [hplan] at hnone ⊢
    exact hfresh hnone
  | claimReadSlot now =>
    obtain ⟨-, heq⟩ := Option.ite_none_right_eq_some.mp hstep
    cases heq
    exact hfresh hnone
  | setData data =>
    obtain ⟨hbegun, heq⟩ := Option.ite_none_right_eq_some.mp hstep
    cases heq
    rw [show s.startupJobs = none from hnone] at hbegun
    cases hbegun
  | elapse now =>
    obtain ⟨-, heq⟩ := Option.ite_none_right_eq_some.mp hstep
    cases heq
    exact hfresh hnone
  | chain event =>
    obtain ⟨chain, -, rfl⟩ := Option.map_eq_some_iff.mp hstep
    exact hfresh hnone

theorem planned_step (h : Planned s) (hstep : s.step label = some t) : Planned t := by
  have hfresh := fresh_step h hstep
  obtain ⟨hidles, -⟩ | ⟨job, first, hselects, -⟩ := step_cases h hstep
  · exact ⟨by rw [hidles.ids]; exact h.nodup, by rw [hidles.ids, hidles.waiting]; exact h.waiting,
      by rw [hidles.waiting]; exact h.once, hfresh⟩
  · have hsuffix : t.waiting <:+ s.waiting := by
      cases first with
      | true =>
        rw [(hselects.front rfl).1]
        exact List.suffix_cons _ _
      | false =>
        rw [(hselects.oldest rfl).2.1]
    refine ⟨by rw [hselects.ids]; exact h.nodup, ?_, h.once.sublist hsuffix.sublist, hfresh⟩
    rw [hselects.ids]
    exact fun id hid => h.waiting (hsuffix.subset hid)

theorem planned_of_started (h : Started s) : Planned s := by
  obtain ⟨hnodup, rooms, jobs, started, tickSeconds, rfl⟩ := h
  exact ⟨hnodup, fun id hid => hid, hnodup, fun _ => ⟨by simp [nonempty], rfl⟩⟩

end Choice

/-! ### The first pass -/

/-- The states that runs from `init` reach, with the choices made on the way. -/
abbrev Traced (init : Poller → Prop) : Poller × List Selection → Prop :=
  Transition.Reach (Transition.recorded step recordSelection) (fun s => always s.1)
    fun s => init s.1 ∧ s.2 = []

/-- What holds of the choices between any two steps. -/
structure InPass (s : Poller) (trace : List Selection) : Prop where
  order : (firstTurns trace).reverse ++ s.waiting = s.jobs.map PollJob.id
  count : s.waiting ≠ [] →
    trace.length + (if s.startupTurn then 0 else 1) ≤ 2 * (firstTurns trace).length
  turn : s.waiting ≠ [] → s.startupTurn = false → ∃ latest ∈ trace.head?, latest.first = true
  /-- Two jobs in a row that have had their first turn end the pass. -/
  pair : ∀ after y x before, trace = after ++ y :: x :: before → x.first = false →
    y.first = false → s.waiting = [] ∧ ∀ z ∈ after, z.first = false
  turned : ∀ after x before, trace = after ++ x :: before → x.first = false →
    x.job ∈ firstTurns before

section Pass

variable {s t : Poller} {trace : List Selection} {job : PollJob} {first : Bool}
  {label : PollerLabel}

theorem firstTurns_cons_true {id : JobId} :
    firstTurns (⟨id, true⟩ :: trace) = id :: firstTurns trace := rfl

theorem firstTurns_cons_false {id : JobId} :
    firstTurns (⟨id, false⟩ :: trace) = firstTurns trace := rfl

/-- A first turn continues the pass. -/
theorem inPass_of_front (h : InPass s trace) (hselects : Selects s t job true) :
    InPass t (⟨job.id, true⟩ :: trace) := by
  obtain ⟨hwaiting, hturn⟩ := hselects.front rfl
  have hgoing : s.waiting ≠ [] := by
    rw [hwaiting]
    exact List.cons_ne_nil _ _
  refine ⟨?_, fun _ => ?_, fun _ _ => ⟨_, rfl, rfl⟩, ?_, ?_⟩
  · rw [firstTurns_cons_true, List.reverse_cons, List.append_assoc, List.singleton_append,
      ← hwaiting, hselects.ids]
    exact h.order
  · have hcount := h.count hgoing
    rw [firstTurns_cons_true, hturn, List.length_cons, List.length_cons, if_neg (by decide)]
    omega
  · intro after y x before htrace hx hy
    rcases after with - | ⟨z, after⟩
    · obtain ⟨rfl, -⟩ := List.cons.inj htrace
      cases hy
    · obtain ⟨rfl, htail⟩ := List.cons.inj htrace
      exact (hgoing (h.pair after y x before htail hx hy).1).elim
  · intro after x before htrace hx
    rcases after with - | ⟨z, after⟩
    · obtain ⟨rfl, -⟩ := List.cons.inj htrace
      cases hx
    · obtain ⟨rfl, htail⟩ := List.cons.inj htrace
      exact h.turned after x before htail hx

/-- A job that has had its first turn may come in between, once. -/
theorem inPass_of_oldest (h : InPass s trace) (hselects : Selects s t job false) :
    InPass t (⟨job.id, false⟩ :: trace) := by
  obtain ⟨hturned, hwaiting, hturn, -⟩ := hselects.oldest rfl
  refine ⟨?_, fun hgoing => ?_, fun hgoing hfalse => ?_, ?_, ?_⟩
  · rw [firstTurns_cons_false, hwaiting, hselects.ids]
    exact h.order
  · rw [hwaiting] at hgoing
    obtain ⟨hbefore, hafter⟩ := hturn hgoing
    have hcount := h.count hgoing
    rw [hbefore, if_neg (by decide)] at hcount
    rw [firstTurns_cons_false, hafter, List.length_cons, if_pos rfl]
    omega
  · rw [hwaiting] at hgoing
    rw [(hturn hgoing).2] at hfalse
    cases hfalse
  · intro after y x before htrace hx hy
    rw [hwaiting]
    rcases after with - | ⟨z, after⟩
    · obtain ⟨rfl, rfl⟩ := List.cons.inj htrace
      refine ⟨?_, fun z hz => by cases hz⟩
      -- While the pass goes on, the choice before this one was a first turn.
      by_contra hgoing
      obtain ⟨latest, hlatest, hfirst⟩ := h.turn hgoing (hturn hgoing).1
      cases hlatest
      rw [hx] at hfirst
      cases hfirst
    · obtain ⟨rfl, htail⟩ := List.cons.inj htrace
      obtain ⟨hover, hafter⟩ := h.pair after y x before htail hx hy
      refine ⟨hover, fun w hw => ?_⟩
      rcases List.mem_cons.mp hw with rfl | hw
      · rfl
      · exact hafter w hw
  · intro after x before htrace hx
    rcases after with - | ⟨z, after⟩
    · obtain ⟨rfl, rfl⟩ := List.cons.inj htrace
      have hmem : job.id ∈ (firstTurns trace).reverse ++ s.waiting := by
        rw [h.order]
        exact List.mem_map_of_mem hselects.mem
      rcases List.mem_append.mp hmem with hmem | hmem
      · exact List.mem_reverse.mp hmem
      · exact (hturned hmem).elim
    · obtain ⟨rfl, htail⟩ := List.cons.inj htrace
      exact h.turned after x before htail hx

theorem inPass_step (hplanned : Planned s) (h : InPass s trace) (hstep : s.step label = some t) :
    InPass t (recordSelection s label trace) := by
  obtain ⟨hidles, hnone⟩ | ⟨job, first, hselects, hsome⟩ := step_cases hplanned hstep
  · rw [recordSelection, hnone]
    refine ⟨?_, ?_, ?_, ?_, h.turned⟩
    · rw [hidles.waiting, hidles.ids]
      exact h.order
    · rw [hidles.waiting, hidles.turn]
      exact h.count
    · rw [hidles.waiting, hidles.turn]
      exact h.turn
    · rw [hidles.waiting]
      exact h.pair
  · rw [recordSelection, hsome]
    cases first with
    | true => exact inPass_of_front h hselects
    | false => exact inPass_of_oldest h hselects

theorem inPass_of_traced (h : Traced Started (s, trace)) : Planned s ∧ InPass s trace := by
  have hinv := h.invariant (P := fun s => Planned s.1 ∧ InPass s.1 s.2) ?_ ?_
  · exact hinv
  · rintro ⟨s, trace⟩ ⟨hstarted, rfl⟩
    refine ⟨planned_of_started hstarted, ?_⟩
    obtain ⟨-, rooms, jobs, started, tickSeconds, rfl⟩ := hstarted
    refine ⟨rfl, fun _ => le_rfl, fun _ hturn => Bool.noConfusion hturn,
      fun after y x before htrace => ?_, fun after x before htrace => ?_⟩
    · simp at htrace
    · simp at htrace
  · rintro ⟨s, trace⟩ label ⟨t, later⟩ ⟨hplanned, hpass⟩ - hstep
    obtain ⟨hstep, rfl⟩ := Transition.recorded_eq_some.mp hstep
    exact ⟨planned_step hplanned hstep, inPass_step hplanned hpass hstep⟩

end Pass

/-- **The first pass**, seen from any state that a run reaches. -/
structure FirstPass (s : Poller) (trace : List Selection) : Prop where
  /-- The first turns follow the list of the jobs: each job gets its turn once. -/
  order : (firstTurns trace).reverse ++ s.waiting = s.jobs.map PollJob.id
  /-- The pass is over after twice as many choices as there are jobs. -/
  done : 2 * s.jobs.length ≤ trace.length → s.waiting = []
  /-- Until then every tick that the request rate allows chooses a job. -/
  goesOn : s.waiting ≠ [] → ∀ now, s.readSpacingRemaining now ≤ 0 →
    (s.selectPollJob now).2.isSome = true
  /-- Between two first turns at most one job is chosen, which has had its first turn. -/
  between : ∀ after b mid a before, trace = after ++ b :: (mid ++ a :: before) →
    a.first = true → b.first = true → (∀ x ∈ mid, x.first = false) →
    mid.length ≤ 1 ∧ ∀ x ∈ mid, x.job ∈ firstTurns (a :: before)

theorem firstPass_of_inPass {s : Poller} {trace : List Selection} (hplanned : Planned s)
    (h : InPass s trace) : FirstPass s trace where
  order := h.order
  done hlong := by
    by_contra hgoing
    have hcount := h.count hgoing
    have hlength := congrArg List.length h.order
    have hsome := List.length_pos_of_ne_nil hgoing
    rw [List.length_append, List.length_reverse, List.length_map] at hlength
    omega
  goesOn hgoing now hfree := by
    obtain ⟨hblocked, -⟩ | ⟨job, -, rest, -, hselect⟩ | ⟨turn, job, -, -, hselect⟩ :=
      selectPollJob_cases now hplanned
    · exact absurd (hblocked hgoing) (not_lt.mpr hfree)
    · rw [hselect]
      rfl
    · rw [hselect]
      rfl
  between := by
    intro after b mid a before htrace ha hb hmid
    constructor
    · rcases mid with - | ⟨y, - | ⟨x, rest⟩⟩
      · exact Nat.zero_le _
      · exact le_rfl
      · -- After two other turns in a row no first turn follows, but `b` is one.
        obtain ⟨-, hafter⟩ := h.pair (after ++ [b]) y x (rest ++ a :: before)
          (by rw [htrace]; simp) (hmid x (by simp)) (hmid y (by simp))
        have hfalse := hafter b (by simp)
        rw [hb] at hfalse
        cases hfalse
    · intro x hx
      obtain ⟨newer, older, rfl⟩ := List.append_of_mem hx
      have hturned := h.turned (after ++ b :: newer) x (older ++ a :: before)
        (by rw [htrace]; simp) (hmid x hx)
      have hnone : older.filter (·.first) = [] := by
        refine List.filter_eq_nil_iff.mpr fun y hy => ?_
        rw [hmid y (by simp [hy])]
        decide
      rw [firstTurns, List.filter_append, hnone, List.nil_append] at hturned
      exact hturned

/-! ### How often a due job is overtaken -/

section Overtaking

variable {s t : Poller} {later : List Selection} {id : JobId} {due : Seconds} {job : PollJob}
  {first : Bool} {label : PollerLabel}

/-- A job is due and has not been chosen since; the others that have been chosen since are all
behind it. -/
structure Overtaken (id : JobId) (due : Seconds) (s : Poller) (later : List Selection) :
    Prop where
  kept : ∃ job ∈ s.jobs, job.id = id ∧ job.nextDue = due
  clock : due ≤ s.clock
  turned : id ∉ s.waiting
  free : ¬ s.Holds id
  behind : ∀ other ∈ later.map (·.job), other ∉ s.waiting ∧
    ∀ job ∈ s.jobs, job.id = other → due < job.nextDue
  nodup : (later.map (·.job)).Nodup

theorem overtaken_of_idles (h : Overtaken id due s later) (hidles : Idles s t) :
    Overtaken id due t later where
  kept := by
    obtain ⟨job, hjob, rfl, hdue⟩ := h.kept
    exact ⟨job, hidles.kept job hjob h.free, rfl, hdue⟩
  clock := h.clock.trans hidles.clock
  turned := by
    rw [hidles.waiting]
    exact h.turned
  free hholds := h.free (hidles.holds id hholds)
  behind other hother := by
    obtain ⟨hwaits, hbehind⟩ := h.behind other hother
    refine ⟨by rwa [hidles.waiting], fun job hjob hid => ?_⟩
    rcases hidles.moved job hjob with hold | ⟨-, hlate⟩
    · exact hbehind job hold hid
    · exact lt_of_le_of_lt h.clock hlate
  nodup := h.nodup

/-- **A chosen job was not chosen before**, and is behind the due job from now on. -/
theorem overtaken_of_selects (hplanned : Planned s) (h : Overtaken id due s later)
    (hselects : Selects s t job first) (hne : job.id ≠ id) :
    Overtaken id due t (⟨job.id, first⟩ :: later) := by
  -- A job that was selected since is due later than `id`, so it is not the oldest now.
  have hnew : job.id ∉ later.map (·.job) := fun hmem => by
    obtain ⟨hwaits, hbehind⟩ := h.behind job.id hmem
    cases first with
    | true => exact hwaits (by rw [(hselects.front rfl).1]; exact List.mem_cons_self)
    | false =>
      obtain ⟨other, hother, rfl, hdue⟩ := h.kept
      have holdest := (hselects.oldest rfl).2.2.2 other hother h.turned (hdue.trans_le h.clock)
      rw [hdue] at holdest
      exact absurd (hbehind job hselects.mem rfl) (not_lt.mpr holdest)
  have hsuffix : t.waiting ⊆ s.waiting := by
    cases first with
    | true =>
      rw [(hselects.front rfl).1]
      exact List.subset_cons_self _ _
    | false => rw [(hselects.oldest rfl).2.1]; exact fun _ hid => hid
  have hgone : job.id ∉ t.waiting := by
    cases first with
    | true =>
      have honce := hplanned.once
      rw [(hselects.front rfl).1] at honce
      exact (List.nodup_cons.mp honce).1
    | false => rw [(hselects.oldest rfl).2.1]; exact (hselects.oldest rfl).1
  exact {
    kept := by
      obtain ⟨other, hother, rfl, hdue⟩ := h.kept
      exact ⟨other, hselects.kept other hother (Ne.symm hne), rfl, hdue⟩
    clock := h.clock.trans hselects.clock
    turned := fun hid => h.turned (hsuffix hid)
    free := fun hholds => hne (hselects.holds id hholds).symm
    behind := by
      intro other hother
      rcases List.mem_cons.mp hother with rfl | hother
      · refine ⟨hgone, fun moved hmoved hid => ?_⟩
        rcases hselects.moved moved hmoved with ⟨-, hother⟩ | ⟨-, hlate⟩
        · exact (hother hid).elim
        · exact lt_of_le_of_lt h.clock hlate
      · obtain ⟨hwaits, hbehind⟩ := h.behind other hother
        refine ⟨fun hid => hwaits (hsuffix hid), fun moved hmoved hid => ?_⟩
        rcases hselects.moved moved hmoved with ⟨hold, -⟩ | ⟨-, hlate⟩
        · exact hbehind moved hold hid
        · exact lt_of_le_of_lt h.clock hlate
    nodup := List.nodup_cons.mpr ⟨hnew, h.nodup⟩ }

theorem overtaken_step (hplanned : Planned s) (h : Overtaken id due s later)
    (hstep : s.step label = some t) (hid : id ∉ (recordSelection s label later).map (·.job)) :
    Overtaken id due t (recordSelection s label later) := by
  obtain ⟨hidles, hnone⟩ | ⟨job, first, hselects, hsome⟩ := step_cases hplanned hstep
  · rw [recordSelection, hnone]
    exact overtaken_of_idles h hidles
  · rw [recordSelection, hsome] at hid ⊢
    refine overtaken_of_selects hplanned h hselects fun hjob => hid ?_
    rw [← hjob]
    exact List.mem_cons_self

/-- The latest choices contain the earlier ones. -/
theorem not_mem_of_recordSelection {label : PollerLabel}
    (h : id ∉ (recordSelection s label later).map (·.job)) : id ∉ later.map (·.job) := fun hmem =>
  h (by
    rw [recordSelection, List.map_append]
    exact List.mem_append_right _ hmem)

/-- **A due job that has had its first turn is overtaken at most once by each other job.** -/
theorem nodup_of_traced (hplanned : Planned s) (hjob : job ∈ s.jobs) (hdue : job.nextDue ≤ s.clock)
    (hfree : ¬ s.Holds job.id) (hturned : job.id ∉ s.waiting)
    (h : Traced (· = s) (t, later)) (hnot : job.id ∉ later.map (·.job)) :
    (later.map (·.job)).Nodup := by
  have hinv := h.invariant (P := fun x => Planned x.1 ∧
    (job.id ∉ x.2.map (·.job) → Overtaken job.id job.nextDue x.1 x.2)) ?_ ?_
  · exact (hinv.2 hnot).nodup
  · rintro ⟨s', -⟩ ⟨rfl, rfl⟩
    refine ⟨hplanned, fun _ => ⟨⟨job, hjob, rfl, rfl⟩, hdue, hturned, hfree, ?_, List.nodup_nil⟩⟩
    intro other hother
    cases hother
  · rintro ⟨s', trace⟩ label ⟨t', trace'⟩ ⟨hplanned, hovertaken⟩ - hstep
    obtain ⟨hstep, rfl⟩ := Transition.recorded_eq_some.mp hstep
    exact ⟨planned_step hplanned hstep, fun hid => overtaken_step hplanned
      (hovertaken (not_mem_of_recordSelection hid)) hstep hid⟩

/-- What a job that waits for its first turn waits for. -/
structure Waits (id : JobId) (start s : Poller) (later : List Selection) : Prop where
  order : (firstTurns later).reverse ++ s.waiting = start.waiting
  mem : id ∈ s.waiting
  count : later.length + (if s.startupTurn then 0 else 1) ≤
    2 * (firstTurns later).length + (if start.startupTurn then 0 else 1)

theorem waits_step (hplanned : Planned s) {start : Poller} (h : Waits id start s later)
    (hstep : s.step label = some t) (hid : id ∉ (recordSelection s label later).map (·.job)) :
    Waits id start t (recordSelection s label later) := by
  have hgoing : s.waiting ≠ [] := List.ne_nil_of_mem h.mem
  obtain ⟨hidles, hnone⟩ | ⟨job, first, hselects, hsome⟩ := step_cases hplanned hstep
  · rw [recordSelection, hnone]
    exact ⟨by rw [hidles.waiting]; exact h.order, by rw [hidles.waiting]; exact h.mem,
      by rw [hidles.turn]; exact h.count⟩
  · rw [recordSelection, hsome] at hid ⊢
    have hcount := h.count
    cases first with
    | true =>
      -- The job at the front goes; it is not `id`, which still waits behind it.
      obtain ⟨hwaiting, hturn⟩ := hselects.front rfl
      have hmem := h.mem
      rw [hwaiting] at hmem
      refine ⟨?_, (List.mem_cons.mp hmem).resolve_left fun heq => hid ?_, ?_⟩
      · rw [Option.toList_some, List.singleton_append, firstTurns_cons_true, List.reverse_cons,
          List.append_assoc, List.singleton_append, ← hwaiting]
        exact h.order
      · rw [heq]
        exact List.mem_cons_self
      · rw [Option.toList_some, List.singleton_append, firstTurns_cons_true, hturn,
          List.length_cons, List.length_cons, if_neg (by decide)]
        omega
    | false =>
      obtain ⟨-, hwaiting, hturn, -⟩ := hselects.oldest rfl
      obtain ⟨hbefore, hafter⟩ := hturn hgoing
      rw [hbefore, if_neg (by decide)] at hcount
      refine ⟨?_, by rw [hwaiting]; exact h.mem, ?_⟩
      · rw [Option.toList_some, List.singleton_append, firstTurns_cons_false, hwaiting]
        exact h.order
      · rw [Option.toList_some, List.singleton_append, firstTurns_cons_false, hafter,
          List.length_cons, if_pos rfl]
        omega

/-- **A job that waits for its first turn** is passed by the first turns in front of it, each
once, and by at most one job that has had its first turn for each of them. -/
theorem waits_of_traced (hplanned : Planned s) (hwaits : id ∈ s.waiting)
    (h : Traced (· = s) (t, later)) (hnot : id ∉ later.map (·.job)) :
    (firstTurns later).Nodup ∧ later.length ≤ 2 * s.waiting.idxOf id + 1 := by
  have hinv := h.invariant (P := fun x => Planned x.1 ∧
    (id ∉ x.2.map (·.job) → Waits id s x.1 x.2)) ?_ ?_
  · obtain ⟨-, hwait⟩ := hinv
    obtain ⟨horder, hmem, hcount⟩ := hwait hnot
    dsimp only at horder hmem hcount
    have honce := hplanned.once
    rw [← horder] at honce
    obtain ⟨hturns, -, hdisjoint⟩ := List.nodup_append.mp honce
    refine ⟨List.nodup_reverse.mp hturns, ?_⟩
    have hfront : id ∉ (firstTurns later).reverse := fun hfront =>
      hdisjoint id hfront id hmem rfl
    have hindex : (firstTurns later).length ≤ s.waiting.idxOf id := by
      rw [← horder, List.idxOf_append_of_notMem hfront, List.length_reverse]
      exact Nat.le_add_right _ _
    have hstart : (if s.startupTurn then 0 else 1) ≤ 1 := by split <;> omega
    omega
  · rintro ⟨s', -⟩ ⟨rfl, rfl⟩
    exact ⟨hplanned, fun _ => ⟨rfl, hwaits, by simp [firstTurns]⟩⟩
  · rintro ⟨s', trace⟩ label ⟨t', trace'⟩ ⟨hplanned, hwait⟩ - hstep
    obtain ⟨hstep, rfl⟩ := Transition.recorded_eq_some.mp hstep
    exact ⟨planned_step hplanned hstep, fun hid => waits_step hplanned
      (hwait (not_mem_of_recordSelection hid)) hstep hid⟩

end Overtaking

/-- **No poll job starves.** The first pass gives every job its turn once, in order, with at
most one other job in between. From a moment at which a job is due and has had its first turn
until it is chosen, no other job is chosen twice; a job that still waits for its first turn
is chosen after at most two choices for each job in front of it, and one more. -/
theorem pollJobs_fair {s : Poller} {trace : List Selection} (h : Traced Started (s, trace)) :
    FirstPass s trace ∧ ∀ job ∈ s.jobs, ∀ t later, Traced (· = s) (t, later) →
      job.id ∉ later.map (·.job) →
      (job.id ∉ s.waiting → job.nextDue ≤ s.clock → ¬ s.Holds job.id →
        (later.map (·.job)).Nodup) ∧
      (job.id ∈ s.waiting → (firstTurns later).Nodup ∧
        later.length ≤ 2 * s.waiting.idxOf job.id + 1) := by
  obtain ⟨hplanned, hpass⟩ := inPass_of_traced h
  refine ⟨firstPass_of_inPass hplanned hpass, fun job hjob t later hlater hnot => ⟨?_, ?_⟩⟩
  · exact fun hturned hdue hfree => nodup_of_traced hplanned hjob hdue hfree hturned hlater hnot
  · exact fun hwaits => waits_of_traced hplanned hwaits hlater hnot

/-! ### Jobs that are overtaken twice -/

/-- A read of a job whose groups have all been read. -/
def answeredRead : RoomRead where
  state := { operationMode := some .manual, groupReadHealth := fun _ => .succeeded ⟨0, 0⟩ }
  outcome := { answered := true }

/-- Ticks at the given times, each of which is answered at once. -/
def ticksAt (times : List Seconds) : List PollerLabel :=
  times.flatMap fun now =>
    [.beginTick now now none, .reply 0 (.ok answeredRead), .finishTick now now none []]

/-- Replay steps from a state, and test where they lead and what was chosen. -/
def replays (s : Poller) (labels : List PollerLabel) (p : Poller → List Selection → Bool) : Bool :=
  (Transition.run (Transition.recorded step recordSelection) labels (s, [])).any fun x => p x.1 x.2

theorem exists_of_replays (init : Poller → Prop) {s : Poller} {labels : List PollerLabel}
    {p : Poller → List Selection → Bool} (hs : init s) (h : s.replays labels p = true) :
    ∃ t later, Traced init (t, later) ∧ p t later = true := by
  have hstart : Traced init (s, []) := .start ⟨hs, rfl⟩
  obtain ⟨⟨t, later⟩, -, ht, hp⟩ := Transition.Reach.exists_of_run labels _ hstart
    (Transition.along_true _ (fun _ _ => trivial) _ _) h
  exact ⟨t, later, ht, hp⟩

/-- Two choices of the first unit's airflow job as a due job, and none of another job. -/
def overtakes (id : JobId) (later : List Selection) : Bool :=
  later.count ⟨⟨"flow", "slave_2"⟩, false⟩ = 2 ∧ id ∉ later.map (·.job)

/-- **Due jobs are overtaken twice**: the job `hours` of the first unit, due from the start,
while it waits for its first turn, and its job `status`, which becomes due while it is being
read and is planned anew after that. -/
theorem overtaken_twice :
    (∃ s trace, Traced Started (s, trace) ∧ ∃ job ∈ s.jobs, job.nextDue ≤ s.clock ∧
      job.id ∈ s.waiting ∧ ∃ t later, Traced (· = s) (t, later) ∧ job.id ∉ later.map (·.job) ∧
        ∃ other ≠ job.id, later.count ⟨other, false⟩ = 2) ∧
    (∃ s trace, Traced Started (s, trace) ∧ ∃ job ∈ s.jobs, job.nextDue ≤ s.clock ∧
      s.Holds job.id ∧ ∃ t later, Traced (· = s) (t, later) ∧ job.id ∉ later.map (·.job) ∧
        ∃ other ≠ job.id, later.count ⟨other, false⟩ = 2) := by
  constructor
  · have hdue : ∃ job ∈ twoUnits.jobs, job.id = ⟨"hours", "slave_2"⟩ ∧ job.nextDue ≤ 0 := by
      decide +kernel
    obtain ⟨job, hjob, hid, hdue⟩ := hdue
    have hrun : twoUnits.replays (ticksAt [0, 2, 4, 6, 8, 10, 12, 14, 16, 18, 20])
        (fun _ => overtakes ⟨"hours", "slave_2"⟩) = true := by decide +kernel
    obtain ⟨t, later, ht, hlater⟩ := exists_of_replays (· = twoUnits) rfl hrun
    obtain ⟨hcount, hnot⟩ := of_decide_eq_true hlater
    exact ⟨twoUnits, [], .start ⟨started_twoUnits, rfl⟩, job, hjob, hdue,
      List.mem_map_of_mem hjob, t, later, ht, by rwa [hid], ⟨"flow", "slave_2"⟩,
      by rw [hid]; decide, hcount⟩
  · have hrun : twoUnits.replays
        (ticksAt [0, 2] ++ [.beginTick 4 4 none, .reply 0 (.ok answeredRead), .elapse 65])
        (fun s _ => decide (∃ job ∈ s.jobs, job.id = ⟨"status", "slave_2"⟩ ∧
            job.nextDue ≤ s.clock ∧ s.Holds job.id) &&
          s.replays (.finishTick 66 66 none [] :: ticksAt [68, 70, 72, 74, 76, 78])
            fun _ => overtakes ⟨"status", "slave_2"⟩) = true := by decide +kernel
    obtain ⟨s, trace, hs, hstate⟩ := exists_of_replays Started started_twoUnits hrun
    obtain ⟨hjob, hchoices⟩ := Bool.and_eq_true_iff.mp hstate
    obtain ⟨job, hjob, hid, hdue, hholds⟩ := of_decide_eq_true hjob
    obtain ⟨t, later, ht, hlater⟩ := exists_of_replays (· = s) rfl hchoices
    obtain ⟨hcount, hnot⟩ := of_decide_eq_true hlater
    exact ⟨s, trace, hs, job, hjob, hdue, hholds, t, later, ht, by rwa [hid],
      ⟨"flow", "slave_2"⟩, by rw [hid]; decide, hcount⟩

/-- Ten seconds after its first turn the airflow job of the second unit is due; until it is
chosen the other jobs are chosen once each. -/
theorem pollJobs_fair_twoUnits : ∃ s trace, Traced Started (s, trace) ∧ FirstPass s trace ∧
    ∃ t later, Traced (· = s) (t, later) ∧ later.length = 2 ∧ (later.map (·.job)).Nodup := by
  have hrun : twoUnits.replays (ticksAt [0, 2, 4, 6, 8] ++ [.elapse 12])
      (fun s _ => decide (∃ job ∈ s.jobs, job.id = ⟨"flow", "slave_3"⟩ ∧
          job.nextDue ≤ s.clock ∧ ¬ s.Holds job.id ∧ job.id ∉ s.waiting) &&
        s.replays (ticksAt [12, 14]) fun _ later =>
          later.length = 2 ∧ ⟨"flow", "slave_3"⟩ ∉ later.map (·.job)) = true := by decide +kernel
  obtain ⟨s, trace, hs, hstate⟩ := exists_of_replays Started started_twoUnits hrun
  obtain ⟨hjob, hchoices⟩ := Bool.and_eq_true_iff.mp hstate
  obtain ⟨job, hjob, hid, hdue, hfree, hturned⟩ := of_decide_eq_true hjob
  obtain ⟨t, later, ht, hlater⟩ := exists_of_replays (· = s) rfl hchoices
  obtain ⟨htwo, hnot⟩ := of_decide_eq_true hlater
  obtain ⟨hpass, hfair⟩ := pollJobs_fair hs
  exact ⟨s, trace, hs, hpass, t, later, ht, htwo,
    (hfair job hjob t later ht (by rwa [hid])).1 hturned hdue hfree⟩

end Poller

end MeltemVentilation
