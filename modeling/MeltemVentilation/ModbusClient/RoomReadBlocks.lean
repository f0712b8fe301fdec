import MeltemVentilation.ModbusClient.RoomRead

/-!
# What became of each register block of a room read

A call of `read_room` (`RoomCall`) is described here block by block and without its job
record: which blocks its plan reads for which group (`RoomCall.Due`), which of them are
requested, and which were read, failed, or were given up because the unit went silent. All of
it is said from the arguments of the call and the replies it gets.

The spec lemmas then say what the record holds after each of the four functions that write to
it. Each function is a loop that only adds to the record, so its lemma is
`Collect.foldl_iff` over the lemma of one round, and the order of the blocks never matters.
-/

namespace MeltemVentilation

/-! ### Blocks of a call -/

/-- A block whose outcome counts for a read group: one that `async_poll` reads, or the mode
status map. -/
inductive Block where
  | component (component : Component)
  | statusMap

/-- The arguments of one call of `read_room`, and the replies it gets. -/
structure RoomCall where
  client : RoomClient
  room : RoomConfig
  previous : UnitState
  plan : RefreshPlan
  replies : RoomReplies

namespace RoomCall

/-- What the call returns. -/
def result (call : RoomCall) : Except GatewayError RoomRead :=
  (call.client.readRoom call.room call.previous call.plan call.replies).2

/-- Whether the plan reads a block for a group. -/
def Due (call : RoomCall) : Block → ReadGroup → Prop
  | .component component, group =>
    ∃ field, isDue call.room call.plan field = true ∧
      fieldRead call.room field = ⟨component, group⟩
  | .statusMap, group => call.plan.refreshAirflow = true ∧ group ∈ modeGroups

/-- Whether a block is requested from `async_poll`: it is due and not backed off, and the
unit is not in its recovery pause. -/
def Requested (call : RoomCall) (component : Component) : Prop :=
  call.replies.readDelayed = false ∧ (∃ group, call.Due (.component component) group) ∧
    call.client.componentBackoff.isActive call.replies.pollStarted component = false

/-- Whether `async_poll` reports a requested block as updated, with these values. -/
def Updates (call : RoomCall) (component : Component) (values : ComponentValues) : Prop :=
  call.Requested component ∧
    ∃ outcome, call.replies.poll = .report outcome ∧ outcome component = .updated values

/-- Whether the read of a requested block fails: `async_poll` raises for want of an answer,
or reports an error other than the refusal of the recovery pause. -/
def Fails (call : RoomCall) (component : Component) : Prop :=
  call.Requested component ∧ ((∃ error, call.replies.poll = .noAnswer error) ∨
    ∃ outcome error, call.replies.poll = .report outcome ∧ outcome component = .failed error ∧
      error.kind ≠ .quarantined)

/-- Whether the unit goes silent: a request gets no valid answer. -/
def WentSilent (call : RoomCall) : Prop :=
  ∃ component, call.Requested component ∧ ((∃ error, call.replies.poll = .noAnswer error) ∨
    ∃ outcome error, call.replies.poll = .report outcome ∧ outcome component = .failed error ∧
      error.kind ≠ .quarantined ∧ error.kind.noAnswer = true)

/-- Whether the status map is due and neither backed off nor in a recovery pause. -/
def StatusMapTried (call : RoomCall) : Prop :=
  call.replies.readDelayed = false ∧ call.plan.refreshAirflow = true ∧
    call.client.modeBackoff.isActive call.replies.modeStarted () = false

/-- Whether a block is read. -/
def Read (call : RoomCall) : Block → Prop
  | .component component => ∃ values, call.Updates component values
  | .statusMap => call.StatusMapTried ∧ ¬ call.WentSilent ∧
    ∃ block, call.replies.mode = .values block

/-- Whether the read of a block fails. -/
def Failed (call : RoomCall) : Block → Prop
  | .component component => call.Fails component
  | .statusMap => call.StatusMapTried ∧ ¬ call.WentSilent ∧
    ∃ error, call.replies.mode = .failed error

/-- Whether a block is not requested because the unit went silent in this call. -/
def GivenUp (call : RoomCall) : Block → Prop
  | .component _ => False
  | .statusMap => call.StatusMapTried ∧ call.WentSilent

/-- Whether a due field of a group was read without a value, or with a number that is not
finite. -/
def GaveInvalid (call : RoomCall) (group : ReadGroup) : Prop :=
  ∃ field values repr, isDue call.room call.plan field = true ∧
    (fieldRead call.room field).group = group ∧
    call.Updates (fieldRead call.room field).component values ∧
    decodeReading field (values field) = .invalid repr

end RoomCall

/-! ### One round of each loop -/

namespace ReadJob

variable {job : ReadJob} {group : ReadGroup} {groups : List ReadGroup} {text : String}
  {noAnswer : Bool} {error : ReadError}

@[simp] theorem skip_errors : (job.skip groups).errors = job.errors := rfl

@[simp] theorem skip_silentError : (job.skip groups).silentError = job.silentError := rfl

@[simp] theorem mem_skip : group ∈ (job.skip groups).skippedGroups ↔
    group ∈ job.skippedGroups ∨ group ∈ groups := by
  simp [skip]

@[simp] theorem recordError_errors_isSome :
    ((job.recordError groups text noAnswer).errors group).isSome = true ↔
      (job.errors group).isSome = true ∨ group ∈ groups := by
  by_cases hmem : group ∈ groups <;> simp [recordError, hmem]

@[simp] theorem recordError_skippedGroups :
    (job.recordError groups text noAnswer).skippedGroups = job.skippedGroups := rfl

@[simp] theorem recordError_silentError :
    (job.recordError groups text noAnswer).silentError = job.silentError := rfl

@[simp] theorem unitSuccess_errors : (job.unitSuccess groups).errors = job.errors := rfl

@[simp] theorem unitSuccess_skippedGroups :
    (job.unitSuccess groups).skippedGroups = job.skippedGroups := rfl

@[simp] theorem unitSuccess_silentError :
    (job.unitSuccess groups).silentError = job.silentError := rfl

@[simp] theorem silence_errors : (job.silence error).errors = job.errors := by
  unfold silence
  split <;> rfl

@[simp] theorem silence_skippedGroups :
    (job.silence error).skippedGroups = job.skippedGroups := by
  unfold silence
  split <;> rfl

@[simp] theorem silence_silentError_isSome : (job.silence error).silentError.isSome = true ↔
    job.silentError.isSome = true ∨ error.kind.noAnswer = true := by
  unfold silence
  split <;> rename_i h <;> simp [h]

end ReadJob

section Rounds

variable {started : Monotonic} {outcome : Component → ComponentOutcome}
  {done : RoomClient × ReadJob} {read : DueRead} {group : ReadGroup}

/-- What one report does to the record, whatever it does to the backoff. -/
theorem recordOutcome_job : (recordOutcome started outcome done read).2 =
    match outcome read.1 with
    | .updated _ => if read.1.isBridgeRf then done.2 else done.2.unitSuccess read.2
    | .failed error =>
      if error.kind = .quarantined then done.2.skip read.2
      else (done.2.recordError read.2 error.text error.kind.noAnswer).silence error := by
  obtain ⟨client, job⟩ := done
  obtain ⟨component, groups⟩ := read
  simp only [recordOutcome]
  rcases outcome component with values | error
  · rfl
  · dsimp only
    split
    · rfl
    · split <;> rfl

theorem recordOutcome_errors_isSome :
    ((recordOutcome started outcome done read).2.errors group).isSome = true ↔
      (done.2.errors group).isSome = true ∨ group ∈ read.2 ∧
        ∃ error, outcome read.1 = .failed error ∧ error.kind ≠ .quarantined := by
  rw [recordOutcome_job]
  rcases outcome read.1 with values | error
  · by_cases hbridge : read.1.isBridgeRf = true <;> simp [hbridge]
  · by_cases hquarantined : error.kind = .quarantined <;> simp [hquarantined]

theorem mem_recordOutcome_skippedGroups :
    group ∈ (recordOutcome started outcome done read).2.skippedGroups ↔
      group ∈ done.2.skippedGroups ∨ group ∈ read.2 ∧
        ∃ error, outcome read.1 = .failed error ∧ error.kind = .quarantined := by
  rw [recordOutcome_job]
  rcases outcome read.1 with values | error
  · by_cases hbridge : read.1.isBridgeRf = true <;> simp [hbridge]
  · by_cases hquarantined : error.kind = .quarantined <;> simp [hquarantined]

theorem recordOutcome_silentError_isSome :
    (recordOutcome started outcome done read).2.silentError.isSome = true ↔
      done.2.silentError.isSome = true ∨
        ∃ error, outcome read.1 = .failed error ∧ error.kind ≠ .quarantined ∧
          error.kind.noAnswer = true := by
  rw [recordOutcome_job]
  rcases outcome read.1 with values | error
  · by_cases hbridge : read.1.isBridgeRf = true <;> simp [hbridge]
  · by_cases hquarantined : error.kind = .quarantined <;> simp [hquarantined]

theorem recordOutcome_modeBackoff :
    (recordOutcome started outcome done read).1.modeBackoff = done.1.modeBackoff := by
  obtain ⟨client, job⟩ := done
  obtain ⟨component, groups⟩ := read
  simp only [recordOutcome]
  rcases outcome component with values | error
  · rfl
  · dsimp only
    split
    · rfl
    · split <;> rfl

end Rounds

section Fields

variable {room : RoomConfig} {updated : Updated} {job : ReadJob} {field : RoomField}
  {group : ReadGroup}

theorem recordField_errors_isSome :
    ((recordField room updated job field).errors group).isSome = true ↔
      (job.errors group).isSome = true ∨ (fieldRead room field).group = group ∧
        ∃ repr, fieldOutcome room updated field = some (.invalid repr) := by
  unfold recordField
  rcases fieldOutcome room updated field with - | (repr | - | value)
  · simp
  · simp [@eq_comm _ group]
  · simp
  · simp

theorem recordField_skippedGroups :
    (recordField room updated job field).skippedGroups = job.skippedGroups := by
  unfold recordField
  rcases fieldOutcome room updated field with - | (repr | - | value) <;> rfl

theorem recordField_silentError :
    (recordField room updated job field).silentError = job.silentError := by
  unfold recordField
  rcases fieldOutcome room updated field with - | (repr | - | value) <;> rfl

end Fields

/-! ### The reads of a call -/

namespace RoomCall

variable {call : RoomCall} {component : Component} {group : ReadGroup}

/-- The reads of the plan. -/
def reads (call : RoomCall) : List DueRead := dueReads (dueFields call.room call.plan)

/-- **What a loop over the reads of a call finds**: it finds a block for a group exactly when
the block is due for the group. -/
theorem exists_mem_reads {A : Component → Prop} :
    (∃ read ∈ call.reads, group ∈ read.2 ∧ A read.1) ↔
      ∃ component, call.Due (.component component) group ∧ A component := by
  constructor
  · rintro ⟨⟨component, groups⟩, hread, hgroup, hA⟩
    exact ⟨component, countsFor_dueReads.mp ⟨groups, hread, hgroup⟩, hA⟩
  · rintro ⟨component, hdue, hA⟩
    obtain ⟨groups, hread, hgroup⟩ := countsFor_dueReads.mpr hdue
    exact ⟨(component, groups), hread, hgroup, hA⟩

/-- The reads that are not backed off. -/
def active (call : RoomCall) : List DueRead :=
  call.client.activeReads call.replies.pollStarted call.reads

theorem mem_active {read : DueRead} : read ∈ call.active ↔ read ∈ call.reads ∧
    call.client.componentBackoff.isActive call.replies.pollStarted read.1 = false := by
  simp [active, RoomClient.activeReads]

/-- What a loop over the requested reads finds for a group. -/
theorem exists_mem_active {A : Component → Prop} (hnow : call.replies.readDelayed = false) :
    (∃ read ∈ call.active, group ∈ read.2 ∧ A read.1) ↔
      ∃ component, call.Due (.component component) group ∧ call.Requested component ∧
        A component := by
  constructor
  · rintro ⟨⟨component, groups⟩, hread, hgroup, hA⟩
    obtain ⟨hread, hactive⟩ := mem_active.mp hread
    have hdue : call.Due (.component component) group :=
      countsFor_dueReads.mp ⟨groups, hread, hgroup⟩
    exact ⟨component, hdue, ⟨hnow, ⟨group, hdue⟩, hactive⟩, hA⟩
  · rintro ⟨component, hdue, ⟨-, -, hactive⟩, hA⟩
    obtain ⟨groups, hread, hgroup⟩ := countsFor_dueReads.mpr hdue
    exact ⟨(component, groups), mem_active.mpr ⟨hread, hactive⟩, hgroup, hA⟩

/-- What a loop over the requested reads finds. -/
theorem exists_mem_active_component {A : Component → Prop}
    (hnow : call.replies.readDelayed = false) :
    (∃ read ∈ call.active, A read.1) ↔ ∃ component, call.Requested component ∧ A component := by
  constructor
  · rintro ⟨⟨component, groups⟩, hread, hA⟩
    obtain ⟨hmem, hactive⟩ := mem_active.mp hread
    obtain ⟨group, hgroup⟩ := List.exists_mem_of_ne_nil _ (groups_ne_nil_of_mem_dueReads hmem)
    have hdue : call.Due (.component component) group :=
      countsFor_dueReads.mp ⟨groups, hmem, hgroup⟩
    exact ⟨component, ⟨hnow, ⟨group, hdue⟩, hactive⟩, hA⟩
  · rintro ⟨component, ⟨-, ⟨group, hdue⟩, hactive⟩, hA⟩
    obtain ⟨groups, hread, -⟩ := countsFor_dueReads.mpr hdue
    exact ⟨(component, groups), mem_active.mpr ⟨hread, hactive⟩, hA⟩

/-! ### What `_poll` records -/

/-- The reads that are skipped because they are backed off. -/
theorem mem_skipBackedOff : group ∈
    (call.client.skipBackedOff call.replies.pollStarted call.reads {}).skippedGroups ↔
      ∃ component, call.Due (.component component) group ∧
        call.client.componentBackoff.isActive call.replies.pollStarted component = true := by
  refine (Collect.foldl_iff (P := (group ∈ ReadJob.skippedGroups ·)) (A := fun read : DueRead =>
    group ∈ read.2 ∧
      call.client.componentBackoff.isActive call.replies.pollStarted read.1 = true) ?_ _ _).trans ?_
  · intro job read
    split <;> rename_i hactive <;> simp [hactive]
  · rw [exists_mem_reads (A := fun component =>
      call.client.componentBackoff.isActive call.replies.pollStarted component = true)]
    simp

theorem skipBackedOff_errors :
    (call.client.skipBackedOff call.replies.pollStarted call.reads {}).errors = fun _ => none :=
  Collect.foldl_eq (g := ReadJob.errors) (fun job read => by split <;> rfl) _ _

theorem skipBackedOff_silentError :
    (call.client.skipBackedOff call.replies.pollStarted call.reads {}).silentError = none :=
  Collect.foldl_eq (g := ReadJob.silentError) (fun job read => by split <;> rfl) _ _

/-- The record when the requests are sent. -/
def attempted (call : RoomCall) : ReadJob :=
  call.active.foldl (fun job read => job.attempt read.2)
    (call.client.skipBackedOff call.replies.pollStarted call.reads {})

theorem attempted_errors : call.attempted.errors = fun _ => none := by
  refine Eq.trans (Collect.foldl_eq (g := ReadJob.errors) ?_ _ _) skipBackedOff_errors
  exact fun _ _ => rfl

theorem attempted_silentError : call.attempted.silentError = none := by
  refine Eq.trans (Collect.foldl_eq (g := ReadJob.silentError) ?_ _ _) skipBackedOff_silentError
  exact fun _ _ => rfl

theorem mem_attempted_skippedGroups : group ∈ call.attempted.skippedGroups ↔
    ∃ component, call.Due (.component component) group ∧
      call.client.componentBackoff.isActive call.replies.pollStarted component = true := by
  refine Iff.trans (Iff.of_eq (congrArg (group ∈ ·)
    (Collect.foldl_eq (g := ReadJob.skippedGroups) ?_ _ _))) mem_skipBackedOff
  exact fun _ _ => rfl

/-- What the record and the updated blocks are after `_poll`. -/
structure Polled (call : RoomCall) (job : ReadJob) (updated : Updated) : Prop where
  errors : ∀ group, (job.errors group).isSome = true ↔
    ∃ component, call.Due (.component component) group ∧ call.Fails component
  skipped : ∀ group, group ∈ job.skippedGroups ↔
    ∃ component, call.Due (.component component) group ∧ ¬ call.Read (.component component) ∧
      ¬ call.Fails component
  silent : job.silentError.isSome = true ↔ call.WentSilent
  updated : ∀ component values, updated component = some values ↔ call.Updates component values

/-- The blocks that are not requested are those that are backed off. -/
theorem not_requested_iff (hnow : call.replies.readDelayed = false)
    (hdue : call.Due (.component component) group) : ¬ call.Requested component ↔
      call.client.componentBackoff.isActive call.replies.pollStarted component = true := by
  constructor
  · intro h
    by_contra hactive
    exact h ⟨hnow, ⟨group, hdue⟩, by simpa using hactive⟩
  · rintro hactive ⟨-, -, hidle⟩
    rw [hactive] at hidle
    cases hidle

/-- Nothing is requested: every due block is backed off. -/
theorem polled_of_none (hnow : call.replies.readDelayed = false)
    (hnone : ∀ component, ¬ call.Requested component) :
    call.Polled (call.client.skipBackedOff call.replies.pollStarted call.reads {})
      (fun _ => none) where
  errors group := by
    rw [skipBackedOff_errors]
    constructor
    · intro h
      cases h
    · rintro ⟨component, -, hrequested, -⟩
      exact (hnone component hrequested).elim
  skipped group := by
    rw [mem_skipBackedOff]
    constructor
    · rintro ⟨component, hdue, -⟩
      exact ⟨component, hdue, fun ⟨_, hrequested, _⟩ => hnone component hrequested,
        fun hfails => hnone component hfails.1⟩
    · rintro ⟨component, hdue, -⟩
      exact ⟨component, hdue, (not_requested_iff hnow hdue).mp (hnone component)⟩
  silent := by
    rw [skipBackedOff_silentError]
    constructor
    · intro h
      cases h
    · rintro ⟨component, hrequested, -⟩
      exact (hnone component hrequested).elim
  updated component values := by
    constructor
    · intro h
      cases h
    · rintro ⟨hrequested, -⟩
      exact (hnone component hrequested).elim

/-- The unit does not answer at all: every requested block fails. -/
theorem polled_of_noAnswer (hnow : call.replies.readDelayed = false) {error : ReadError}
    (hpoll : call.replies.poll = .noAnswer error) (hsome : call.active ≠ []) :
    call.Polled (call.active.foldl (fun job read => job.recordError read.2 error.text true)
      { call.attempted with silentError := some error }) (fun _ => none) where
  errors group := by
    refine (Collect.foldl_iff (P := fun job : ReadJob => (job.errors group).isSome = true)
      (A := fun read : DueRead => group ∈ read.2 ∧ True) (fun job read => by simp) _ _).trans ?_
    rw [exists_mem_active (A := fun _ => True) hnow]
    simp [attempted_errors, Fails, hpoll]
  skipped group := by
    refine Iff.trans (Iff.of_eq (congrArg (group ∈ ·)
      (Collect.foldl_eq (g := ReadJob.skippedGroups) ?_ _ _))) ?_
    · exact fun _ _ => rfl
    refine mem_attempted_skippedGroups.trans (exists_congr fun component =>
      and_congr_right fun hdue => ?_)
    rw [← not_requested_iff hnow hdue]
    simp [Fails, Read, Updates, hpoll]
  silent := by
    refine Iff.trans (Iff.of_eq (congrArg (·.isSome = true)
      (Collect.foldl_eq (g := ReadJob.silentError) ?_ _ _))) ?_
    · exact fun _ _ => rfl
    obtain ⟨read, hread⟩ := List.exists_mem_of_ne_nil _ hsome
    obtain ⟨component, hrequested, -⟩ :=
      (exists_mem_active_component (A := fun _ => True) hnow).mp ⟨read, hread, trivial⟩
    exact ⟨fun _ => ⟨component, hrequested, .inl ⟨error, hpoll⟩⟩, fun _ => rfl⟩
  updated component values := by
    simp [Updates, hpoll]

/-- `async_poll` reports every requested block. -/
theorem polled_of_report (hnow : call.replies.readDelayed = false)
    {outcome : Component → ComponentOutcome} {client : RoomClient}
    (hpoll : call.replies.poll = .report outcome) :
    call.Polled
      (call.active.foldl (recordOutcome call.replies.pollStarted outcome)
        (client, call.attempted)).2
      (fun component =>
        if call.active.any (·.1 = component) then
          match outcome component with
          | .updated values => some values
          | .failed _ => none
        else none) where
  errors group := by
    refine (Collect.foldl_iff (P := fun done : RoomClient × ReadJob =>
      (done.2.errors group).isSome = true) (fun _ _ => recordOutcome_errors_isSome) _ _).trans ?_
    rw [exists_mem_active (A := fun component => ∃ error, outcome component = .failed error ∧
      error.kind ≠ .quarantined) hnow]
    simp [attempted_errors, Fails, hpoll]
  skipped group := by
    refine (Collect.foldl_iff (P := fun done : RoomClient × ReadJob =>
      group ∈ done.2.skippedGroups) (fun _ _ => mem_recordOutcome_skippedGroups) _ _).trans ?_
    rw [exists_mem_active (A := fun component => ∃ error, outcome component = .failed error ∧
      error.kind = .quarantined) hnow, mem_attempted_skippedGroups, ← exists_or]
    refine exists_congr fun component => ?_
    rw [← and_or_left]
    refine and_congr_right fun hdue => ?_
    rw [← not_requested_iff hnow hdue]
    -- A due component is skipped if it was not requested, or if its request met a quarantine.
    by_cases hrequested : call.Requested component
    · rcases houtcome : outcome component with values | error
      · simp [Fails, Read, Updates, hpoll, hrequested, houtcome]
      · simp [Fails, Read, Updates, hpoll, hrequested, houtcome]
    · simp [Fails, Read, Updates, hrequested]
  silent := by
    refine (Collect.foldl_iff (P := fun done : RoomClient × ReadJob =>
      done.2.silentError.isSome = true) (fun _ _ => recordOutcome_silentError_isSome) _ _).trans ?_
    rw [exists_mem_active_component (A := fun component => ∃ error,
      outcome component = .failed error ∧ error.kind ≠ .quarantined ∧
        error.kind.noAnswer = true) hnow]
    simp [attempted_silentError, WentSilent, hpoll]
  updated component values := by
    have hany : call.active.any (·.1 = component) = true ↔ call.Requested component := by
      refine List.any_eq_true.trans ((exists_congr fun read => ?_).trans
        ((exists_mem_active_component (A := (· = component)) hnow).trans ?_))
      · simp
      · simp
    by_cases hrequested : call.Requested component
    · rw [if_pos (hany.mpr hrequested)]
      rcases houtcome : outcome component with given | error
      · simp [Updates, hpoll, hrequested, houtcome]
      · simp [Updates, hpoll, houtcome]
    · rw [if_neg fun h => hrequested (hany.mp h)]
      simp [Updates, hrequested]

/-- **What `_poll` records**, whenever it returns. -/
theorem polled_of_poll (hnow : call.replies.readDelayed = false) {client : RoomClient}
    {job : ReadJob} {updated : Updated}
    (h : call.client.poll call.room call.replies call.reads {} = (client, .ok (job, updated))) :
    call.Polled job updated ∧ client.modeBackoff = call.client.modeBackoff := by
  change (if call.active = [] then _ else _) = _ at h
  by_cases hactive : call.active = []
  · have hnone : ∀ component, ¬ call.Requested component := by
      intro component hrequested
      obtain ⟨read, hread, -⟩ := (exists_mem_active_component (A := fun _ => True) hnow).mpr
        ⟨component, hrequested, trivial⟩
      rw [hactive] at hread
      cases hread
    rw [if_pos hactive] at h
    cases h
    exact ⟨polled_of_none hnow hnone, rfl⟩
  · rw [if_neg hactive] at h
    rcases hpoll : call.replies.poll with text | error | text | outcome <;> rw [hpoll] at h
    · cases h
    · cases h
      exact ⟨polled_of_noAnswer hnow hpoll hactive, rfl⟩
    · cases h
    · cases h
      refine ⟨polled_of_report hnow hpoll, ?_⟩
      exact Collect.foldl_eq (g := fun done : RoomClient × ReadJob => done.1.modeBackoff)
        (fun _ _ => recordOutcome_modeBackoff) _ _

/-! ### What the values and the status map add -/

theorem recordFields_errors {job : ReadJob} {updated : Updated} (h : call.Polled job updated) :
    ((recordFields call.room call.plan updated job).errors group).isSome = true ↔
      (∃ component, call.Due (.component component) group ∧ call.Fails component) ∨
        call.GaveInvalid group := by
  refine (Collect.foldl_iff (P := fun job : ReadJob => (job.errors group).isSome = true)
    (A := fun field => (fieldRead call.room field).group = group ∧
      ∃ repr, fieldOutcome call.room updated field = some (.invalid repr)) ?_ _ _).trans
    (or_congr (h.errors group) ?_)
  · exact fun _ _ => recordField_errors_isSome
  constructor
  · rintro ⟨field, hfield, hgroup, repr, hinvalid⟩
    obtain ⟨values, hvalues, hdecode⟩ := Option.map_eq_some_iff.mp hinvalid
    exact ⟨field, values, repr, (List.mem_filter.mp hfield).2, hgroup,
      (h.updated _ _).mp hvalues, hdecode⟩
  · rintro ⟨field, values, repr, hdue, hgroup, hvalues, hdecode⟩
    refine ⟨field, List.mem_filter.mpr ⟨mem_roomFields field, hdue⟩, hgroup, repr, ?_⟩
    rw [fieldOutcome, (h.updated _ _).mpr hvalues, Option.map_some, hdecode]

theorem recordFields_skippedGroups {job : ReadJob} {updated : Updated} :
    (recordFields call.room call.plan updated job).skippedGroups = job.skippedGroups :=
  Collect.foldl_eq (g := ReadJob.skippedGroups) (fun _ _ => recordField_skippedGroups) _ _

theorem recordFields_silentError {job : ReadJob} {updated : Updated} :
    (recordFields call.room call.plan updated job).silentError = job.silentError :=
  Collect.foldl_eq (g := ReadJob.silentError) (fun _ _ => recordField_silentError) _ _

/-- **What `_read_mode_block` records**, whenever it returns: an error for its groups if the
read failed or was given up, a skip if it was backed off, and values only if it was read. -/
theorem readModeBlock_spec {client client' : RoomClient} {job job' : ReadJob}
    {block : Option ModeRead} (hnow : call.replies.readDelayed = false)
    (hplan : call.plan.refreshAirflow = true)
    (hsilent : job.silentError.isSome = true ↔ call.WentSilent)
    (hbackoff : client.modeBackoff = call.client.modeBackoff)
    (h : client.readModeBlock call.room call.replies job = (client', .ok (job', block))) :
    (∀ group, (job'.errors group).isSome = true ↔ (job.errors group).isSome = true ∨
      group ∈ modeGroups ∧ (call.Failed .statusMap ∨ call.GivenUp .statusMap)) ∧
    (∀ group, group ∈ job'.skippedGroups ↔ group ∈ job.skippedGroups ∨
      group ∈ modeGroups ∧ ¬ call.StatusMapTried) ∧
    (block.isSome = true ↔ call.Read .statusMap) := by
  unfold RoomClient.readModeBlock at h
  rw [hbackoff] at h
  -- The backoff is asked first, then whether the unit went silent, and only then the unit.
  split at h
  · rename_i hactive
    have htried : ¬ call.StatusMapTried := fun hidle => by
      rw [hidle.2.2] at hactive
      cases hactive
    cases h
    simp [Failed, GivenUp, Read, htried]
  · rename_i hidle
    have htried : call.StatusMapTried := ⟨hnow, hplan, by simpa using hidle⟩
    cases hjob : job.silentError with
    | some error =>
      have hwent : call.WentSilent := hsilent.mp (by rw [hjob]; rfl)
      simp only [hjob] at h
      cases h
      simp [Failed, GivenUp, Read, htried, hwent]
    | none =>
      have hanswering : ¬ call.WentSilent := fun hwent => by
        have := hsilent.mpr hwent
        rw [hjob] at this
        cases this
      simp only [hjob] at h
      cases hmode : call.replies.mode with
      | connectionLost text =>
        rw [hmode] at h
        cases h
      | failed error =>
        rw [hmode] at h
        cases h
        simp [Failed, GivenUp, Read, htried, hanswering, hmode, ReadJob.attempt]
      | values given =>
        rw [hmode] at h
        cases h
        simp [Failed, GivenUp, Read, htried, hanswering, hmode, ReadJob.attempt]

/-- A lost link makes the read of the status map raise. -/
theorem readModeBlock_ne_lost {client client' : RoomClient} {job job' : ReadJob}
    {block : Option ModeRead} {text : String} (htried : call.StatusMapTried)
    (hanswering : ¬ call.WentSilent) (hsilent : job.silentError.isSome = true ↔ call.WentSilent)
    (hbackoff : client.modeBackoff = call.client.modeBackoff)
    (hmode : call.replies.mode = .connectionLost text) :
    client.readModeBlock call.room call.replies job ≠ (client', .ok (job', block)) := by
  intro h
  unfold RoomClient.readModeBlock at h
  rw [hbackoff, htried.2.2] at h
  cases hjob : job.silentError with
  | some error => exact hanswering (hsilent.mp (by rw [hjob]; rfl))
  | none =>
    rw [hjob, hmode] at h
    cases h

/-! ### The ways in which a call returns -/

/-- The state after the due blocks, before the status map. -/
def polledState (call : RoomCall) (updated : Updated) : UnitState :=
  { call.previous with value := freshValue call.room call.plan updated call.previous.value }

/-- The result that the call builds from a record and a state. -/
def finish (call : RoomCall) (job : ReadJob) (state : UnitState) : RoomRead :=
  roomRead call.room call.plan call.previous call.replies job state

/-- **The ways in which a call returns**: the unit is in its recovery pause, or its due blocks
are polled, with the status map after them or without it. -/
theorem result_cases {read : RoomRead} (h : call.result = .ok read) :
    (call.replies.readDelayed = true ∧
      read = call.finish (({} : ReadJob).skip call.plan.readGroups) call.previous) ∨
    (call.replies.readDelayed = false ∧ ∃ job updated, call.Polled job updated ∧
      ((call.plan.refreshAirflow = false ∧
        read = call.finish (recordFields call.room call.plan updated job)
          (call.polledState updated)) ∨
      (call.plan.refreshAirflow = true ∧
        ∃ (client client' : RoomClient) (job' : ReadJob) (block : Option ModeRead),
        client.modeBackoff = call.client.modeBackoff ∧
        client.readModeBlock call.room call.replies
          (recordFields call.room call.plan updated job) = (client', .ok (job', block)) ∧
        read = call.finish job' ((call.polledState updated).applyModeRead call.room block)))) := by
  unfold result RoomClient.readRoom at h
  split at h
  · cases h
  split at h
  · rename_i hdelayed
    cases h
    exact .inl ⟨hdelayed, rfl⟩
  rename_i hdelayed
  have hnow : call.replies.readDelayed = false := by simpa using hdelayed
  refine .inr ⟨hnow, ?_⟩
  split at h
  · cases h
  rename_i client job updated hpoll
  obtain ⟨hpolled, hbackoff⟩ := polled_of_poll hnow hpoll
  refine ⟨job, updated, hpolled, ?_⟩
  dsimp only at h
  split at h
  · rename_i hplan
    split at h
    · cases h
    · rename_i client' job' block hmode
      cases h
      exact .inr ⟨hplan, client, client', job', block, hbackoff, hmode, rfl⟩
  · rename_i hplan
    cases h
    exact .inl ⟨by simpa using hplan, rfl⟩

end RoomCall

end MeltemVentilation
