import MeltemVentilation.FalseMismatch
import MeltemVentilation.StepOutcomes

/-!
# What has been read since a write

A write is judged, and a pending value is dropped, as soon as the health of a read group differs
from the one recorded when the write was sent. Whether the value that is compared then was read
after the write is another question. The record of a run, `ReadRecord`, answers it: for each
write key, the parts of the state (`StatePart`) that have been read since the last write under
it was sent. Where a step takes a part from is its `Origin`.

What the coordinator can know of the record is the health of the groups. It is watched
(`ReadRecord.Watches`): as long as the part that every read of a group gives is not on record,
the health of the group is the recorded one, or an error, or forgotten. A startup state without
values fits in, since no group of the airflow plan is read without giving a value
(`RoomCoordinator.ReadsKnown`).
-/

namespace MeltemVentilation

open RoomCoordinator Transition
open ReadHealth (Unread)

/-! ### Where the values of a state come from -/

/-- The values of a state that are read together. -/
inductive StatePart where
  /-- The measured airflow. -/
  | airflow
  /-- Whether intensive runs, which every status map says. -/
  | intensive
  /-- The operating mode and the quick mode of a status map that shows the base mode. -/
  | baseMode
  /-- The supply and the extract target. -/
  | targets
  /-- The exact balanced target. -/
  | exactTarget
  /-- The control settings of the profile. -/
  | settings
deriving DecidableEq, Repr

/-- What a step makes a part of the state from: registers that it reads, the measured airflow as
it leaves it, or the same part of the state before. -/
inductive Origin where
  | read | airflow | kept
deriving DecidableEq, Repr

/-- Whether a reply brings a status map that shows the base mode. -/
def PlanReply.showsBaseMode : PlanReply → Bool
  | .airflow (.blocks _ mode) _ =>
    mode.read?.any fun block => !modeStatusReportsIntensive (decodeSensorSubcode block)
  | _ => false

/-- Where `applyModeRead` takes the targets from. -/
def PlanReply.targetsOrigin (room : RoomConfig) (previous : RoomState) : PlanReply → Origin
  | .airflow (.blocks _ mode) _ =>
    let block := mode.read?.map decodeSensorSubcode
    if block.any modeStatusReportsIntensive then .kept
    else
      let operationMode := match block with
        | some b => decodeOperationMode b.mode b.currentLevel
        | none => previous.operationMode
      match operationMode with
      | some .unbalanced => if block.isSome then .read else .kept
      | some .off | some .manual =>
        if (decodeTargetLevel room (block.map (·.currentLevel))).isSome then .read else .airflow
      | _ => .airflow
  | _ => .kept

namespace RoomCoordinator

/-- **Where a step takes a part of the state from.** -/
def origin (s : RoomCoordinator) (label : Label) (part : StatePart) : Origin :=
  match s.readInput label with
  | none => .kept
  | some (previous, _, reply, _) =>
    match part with
    | .airflow => if reply.reads .flow then .read else .kept
    | .intensive => if reply.reads .flowControl then .read else .kept
    | .baseMode => if reply.showsBaseMode then .read else .kept
    | .targets => reply.targetsOrigin s.room previous
    | .exactTarget => if (s.exactTargetRead label).isSome then .read else .kept
    | .settings =>
      if reply.reads .controlSettings && s.room.supportsGroup .controlSettings then .read
      else .kept

/-- Whether a step writes under a key. -/
def writesKey (s : RoomCoordinator) (label : Label) (key : WriteKey) : Bool :=
  (s.writeOf label).any (·.1.writeKey = key)

end RoomCoordinator

/-! ### The record of a run -/

/-- What a run says about the age of the values: for each write key the parts of the state that
have been read since the last write under it was sent. -/
abbrev ReadRecord := WriteKey → StatePart → Bool

/-- The record after a step. Every write counts as sent, whatever became of it. -/
def recordReads (s : RoomCoordinator) (label : Label) (record : ReadRecord) : ReadRecord :=
  fun key part =>
    if s.writesKey label key then false
    else
      match s.origin label part with
      | .read => true
      | .airflow => s.origin label .airflow = .read || record key .airflow
      | .kept => record key part

/-- The coordinator with the reads since each write on record. -/
abbrev CarriedStep := recorded RoomCoordinator.step recordReads

/-- A run starts before the first poll and the first command. -/
def CarriedStart (x : RoomCoordinator × ReadRecord) : Prop :=
  x.1.Started ∧ x.2 = fun _ _ => false

/-! ### What a read does to the base mode -/

section Reads

variable {s : RoomCoordinator} {label : Label} {record : ReadRecord} {room : RoomConfig}
  {clock finished replied : Clock} {previous state : RoomState} {reply : PlanReply}
  {polled : Bool} {key : WriteKey} {part : StatePart} {group : ReadGroup} {health : ReadHealth}

/-- **What a reply says of the base mode**: a map shows it, a map hides it and all of it is
kept, or there is no map. -/
theorem PlanReply.baseMode_cases (room : RoomConfig) (clock : Clock) (previous : RoomState)
    (reply : PlanReply) :
    (reply.showsBaseMode = true ∧
        (reply.state room clock previous).intensiveActive = some false) ∨
      (reply.showsBaseMode = false ∧ reply.reads .flowControl = true ∧
        (reply.state room clock previous).intensiveActive = some true ∧
        (reply.state room clock previous).operationMode = previous.operationMode ∧
        (reply.state room clock previous).presetMode = previous.presetMode) ∨
      (reply.showsBaseMode = false ∧ reply.reads .flowControl = false ∧
        SameBase previous (reply.state room clock previous)) := by
  rcases hread : reply.reads .flowControl with _ | _
  · have hshows : reply.showsBaseMode = false := by
      rcases reply with ⟨_ | error | ⟨flow, _ | _ | _⟩, target⟩ | read
      all_goals first | rfl | cases hread
    exact .inr (.inr ⟨hshows, rfl, PlanReply.sameBase hread⟩)
  · rcases reply with ⟨_ | error | ⟨flow, block | _ | _⟩, target⟩ | _ | _ | read
    all_goals try cases hread
    have hflow : (applyFlowRead previous flow.read?).operationMode = previous.operationMode ∧
        (applyFlowRead previous flow.read?).presetMode = previous.presetMode := by
      cases flow.read? <;> exact ⟨rfl, rfl⟩
    rcases hhidden : modeStatusReportsIntensive (decodeSensorSubcode block) with _ | _
    · refine .inl ⟨by simp [showsBaseMode, BlockRead.read?, hhidden], ?_⟩
      simp [PlanReply.state, AirflowRead.apply, applyModeRead, BlockRead.read?, hhidden]
    · refine .inr (.inl ⟨by simp [showsBaseMode, BlockRead.read?, hhidden], rfl, ?_⟩)
      simpa [PlanReply.state, AirflowRead.apply, applyModeRead, BlockRead.read?, hhidden]
        using hflow

/-- The targets of a state that is unbalanced come from the map that says so. -/
theorem PlanReply.targetsOrigin_of_unbalanced
    (h : (reply.state room clock previous).operationMode = some .unbalanced) :
    reply.targetsOrigin room previous = if reply.showsBaseMode then .read else .kept := by
  rcases reply with ⟨_ | error | ⟨flow, mode⟩, target⟩ | read
  · rfl
  · rfl
  · have hflow : (applyFlowRead previous flow.read?).operationMode = previous.operationMode := by
      cases flow.read? <;> rfl
    rcases hblock : mode.read? with _ | block
    · have hmode : previous.operationMode = some .unbalanced := by
        simpa [PlanReply.state, AirflowRead.apply, applyModeRead, hblock, hflow] using h
      simp [targetsOrigin, showsBaseMode, hblock, hmode]
    · rcases hhidden : modeStatusReportsIntensive (decodeSensorSubcode block) with _ | _
      · have hmode : decodeOperationMode (decodeSensorSubcode block).mode
            (decodeSensorSubcode block).currentLevel = some .unbalanced := by
          simpa [PlanReply.state, AirflowRead.apply, applyModeRead, hblock, hhidden] using h
        simp [targetsOrigin, showsBaseMode, hblock, hhidden, hmode]
      · simp [targetsOrigin, showsBaseMode, hblock, hhidden]
  · rfl

/-- What a state of the unit says is what any state says that a read may start from: a startup
state has no values. -/
theorem RoomCoordinator.Previous.sameBase (h : s.Previous previous)
    (hstartup : ∀ state ∈ s.startup, state.hasData = false) : SameBase s.state previous := by
  rcases h with rfl | ⟨hdata, hprevious⟩
  · exact .refl _
  · have hnone := RoomState.noValues (hstartup previous hprevious)
    have hstate : s.state = emptyRoomState := by simp [RoomCoordinator.state, hdata]
    rw [hstate]
    exact ⟨hnone.operationMode, hnone.presetMode, hnone.intensiveActive,
      fun _ => ⟨hnone.targetLevel, hnone.extractTargetLevel⟩,
      by simp [hnone.balancedTargetReadback]⟩

/-- The record after a write under `written`. -/
abbrev ReadRecord.restart (record : ReadRecord) (written : WriteKey) : ReadRecord :=
  fun key part => if key = written then false else record key part

/-! ### The record after a read -/

/-- A step without replies takes everything from the state before. -/
theorem origin_of_reply_none (h : label.reply = none) : s.origin label part = .kept := by
  cases label <;> first | rfl | cases h

/-- Only the targets are derived from the airflow. -/
theorem origin_eq_airflow (h : s.origin label part = .airflow) : part = .targets := by
  unfold RoomCoordinator.origin at h
  split at h
  · cases h
  · cases part with
    | targets => rfl
    | _ =>
      dsimp only at h
      split at h <;> cases h

theorem writesKey_of_writeOf_none (h : s.writeOf label = none) (key : WriteKey) :
    s.writesKey label key = false := by
  rw [writesKey, h]
  rfl

/-- **The record under a key that a step does not write.** -/
theorem recordReads_of_not_writesKey (h : s.writesKey label key = false) :
    recordReads s label record key part =
      match s.origin label part with
      | .read => true
      | .airflow => s.origin label .airflow = .read || record key .airflow
      | .kept => record key part := by
  simp [recordReads, h]

/-- A part that is not derived is on record after a step exactly if it is read then or was
before. -/
theorem recordReads_iff (h : s.writesKey label key = false) (hpart : part ≠ .targets) :
    recordReads s label record key part = true ↔
      s.origin label part = .read ∨ record key part = true := by
  rw [recordReads_of_not_writesKey h]
  rcases horigin : s.origin label part with _ | _ | _
  · simp
  · exact absurd (origin_eq_airflow horigin) hpart
  · simp

/-- Every status map says whether intensive runs. -/
theorem recordReads_intensive (hinput : s.readInput label = some (previous, polled, reply, replied))
    (h : s.writesKey label key = false) : recordReads s label record key .intensive = true ↔
      reply.reads .flowControl = true ∨ record key .intensive = true := by
  rw [recordReads_iff h (by decide)]
  simp [RoomCoordinator.origin, hinput]

/-- A map without intensive shows the base mode. -/
theorem recordReads_baseMode (hinput : s.readInput label = some (previous, polled, reply, replied))
    (h : s.writesKey label key = false) : recordReads s label record key .baseMode = true ↔
      reply.showsBaseMode = true ∨ record key .baseMode = true := by
  rw [recordReads_iff h (by decide)]
  simp [RoomCoordinator.origin, hinput]

/-- What is not on record after a step was not on record, and is not read by it. -/
theorem recordReads_eq_false (h : s.writesKey label key = false) (hpart : part ≠ .targets)
    (hunread : recordReads s label record key part = false) :
    s.origin label part ≠ .read ∧ record key part = false := by
  have hnot := (recordReads_iff h hpart).not.mp (by rw [hunread]; simp)
  simpa [not_or] using hnot

/-- A step without replies leaves the record of the keys that it does not write. -/
theorem recordReads_of_reply_none (h : s.writesKey label key = false)
    (hreply : label.reply = none) : recordReads s label record key part = record key part := by
  rw [recordReads_of_not_writesKey h, origin_of_reply_none hreply]

/-- A restarted record says nothing of the key that was written. -/
theorem ReadRecord.restart_eq_true {written : WriteKey} :
    record.restart written key part = true ↔ key ≠ written ∧ record key part = true := by
  by_cases hkey : key = written <;> simp [ReadRecord.restart, hkey]

theorem ReadRecord.restart_of_ne {written : WriteKey} (h : key ≠ written) :
    record.restart written key part = record key part :=
  if_neg h

/-- **The record after a step with a write.** -/
theorem recordReads_of_writeOf {write : PreparedWrite} {outcome : WriteOutcome}
    (h : s.writeOf label = some (write, outcome)) :
    recordReads s label record = record.restart write.writeKey := by
  have hreply : label.reply = none := by
    cases label <;> first | rfl | cases h
  have hkey : ∀ key, s.writesKey label key = decide (write.writeKey = key) := by
    intro key
    simp [writesKey, h]
  funext key part
  by_cases hsame : key = write.writeKey
  · simp [recordReads, ReadRecord.restart, hkey, hsame]
  · rw [ReadRecord.restart_of_ne hsame, recordReads_of_reply_none _ hreply]
    rw [hkey, decide_eq_false_iff_not]
    exact Ne.symm hsame

end Reads

/-! ### The health of a group that was not read -/

/-- The part that every read of a group gives, for the groups that a verdict asks for. -/
def ReadGroup.part : ReadGroup → StatePart
  | .flow => .airflow
  | .controlSettings => .settings
  | _ => .intensive

theorem ReadGroup.part_ne_targets (group : ReadGroup) : group.part ≠ .targets := by
  cases group <;> simp [part]

/-- **The health recorded for a group is watched**: as long as the group has not been read since
the last write under a key, its health is the recorded one, or an error, or forgotten. -/
def ReadRecord.Watches (record : ReadRecord) (s : RoomCoordinator) (key : WriteKey)
    (group : ReadGroup) (health : ReadHealth) : Prop :=
  record key group.part = false →
    ∀ state, s.Previous state → Unread health (state.groupReadHealth group)

section Watches

variable {s t : RoomCoordinator} {label : Label} {record : ReadRecord} {key : WriteKey}
  {group : ReadGroup} {health : ReadHealth} {previous state : RoomState} {finished replied : Clock}
  {reply : PlanReply} {polled : Bool}

/-- A reply that does not give the part of a group leaves its health, or an error. -/
theorem unread_of_origin (hinput : s.readInput label = some (previous, polled, reply, replied))
    (h : s.origin label group.part ≠ .read) :
    Unread (previous.groupReadHealth group)
      ((reply.state s.room replied previous).groupReadHealth group) := by
  rcases hreads : reply.reads group with _ | _
  · exact PlanReply.unread hreads
  · unfold RoomCoordinator.origin at h
    rw [hinput] at h
    rcases reply with ⟨_ | error | ⟨flow, mode⟩, target⟩ | ⟨_ | error | read⟩
    all_goals cases group
    all_goals first | cases hreads | skip
    · simp [ReadGroup.part, hreads] at h
    · simp [ReadGroup.part, hreads] at h
    · have hmap : (PlanReply.airflow (.blocks flow mode) target).reads .flowControl = true := hreads
      simp [ReadGroup.part, hmap] at h
    · have hroom : s.room.supportsGroup .controlSettings = false := by
        simpa [ReadGroup.part, hreads] using h
      simp only [PlanReply.state, SettingsRead.apply, hroom, Bool.false_eq_true, if_false]
      exact .refl

/-- What a step judges by has the watched health, unless the group was read since. -/
theorem ReadRecord.Watches.source (h : record.Watches s key group health)
    (hkey : s.writesKey label key = false) (hsource : s.Source label state finished)
    (hunread : recordReads s label record key group.part = false) :
    Unread health (state.groupReadHealth group) := by
  obtain ⟨horigin, hbefore⟩ := recordReads_eq_false hkey group.part_ne_targets hunread
  rcases hsource with ⟨-, hprevious⟩ | ⟨hstate, -⟩
  · exact h hbefore state hprevious
  · obtain ⟨previous, polled, reply, replied, hinput, -, hprevious, -, rfl⟩ :=
      readState_eq_some hstate
    obtain ⟨-, readback, hframe⟩ := (s.atClock replied).applyReply_frame previous polled reply
    rw [hframe]
    exact (h hbefore previous hprevious).trans (unread_of_origin hinput horigin)

/-- A step without a write under the key keeps the health watched. -/
theorem ReadRecord.Watches.step (h : record.Watches s key group health)
    (hstep : s.step label = some t) (hkey : s.writesKey label key = false) :
    (recordReads s label record).Watches t key group health := by
  intro hunread state hprevious
  obtain ⟨-, hbefore⟩ := recordReads_eq_false hkey group.part_ne_targets hunread
  rcases hprevious.of_step hstep with hprevious | hsource
  · exact h hbefore state hprevious
  · exact h.source hkey hsource hunread

/-- **A group that was read since a write is on record**, whether a step judges by the state or
the state was known before it. -/
theorem ReadRecord.Watches.read {group : ReadGroup} {health : ReadHealth}
    (h : record.Watches s key group health) (hkey : s.writesKey label key = false)
    (hstate : s.Previous state ∨ s.Source label state finished)
    (hread : ¬ Unread health (state.groupReadHealth group)) :
    recordReads s label record key group.part = true := by
  by_contra hunread
  rw [Bool.not_eq_true] at hunread
  rcases hstate with hprevious | hsource
  · exact hread (h (recordReads_eq_false hkey group.part_ne_targets hunread).2 state hprevious)
  · exact hread (h.source hkey hsource hunread)

theorem ReadRecord.Watches.restart {written : WriteKey} {group : ReadGroup} {health : ReadHealth}
    (h : record.Watches s key group health) (hne : key ≠ written)
    (hprevious : ∀ state, t.Previous state → s.Previous state) :
    (record.restart written).Watches t key group health := by
  intro hunread state hstate
  rw [ReadRecord.restart_of_ne hne] at hunread
  exact h hunread state (hprevious state hstate)

end Watches

/-! ### Groups whose values a state does not have -/

/-- Whether a state has the value that every read of a group of the airflow plan gives. -/
def RoomState.known (state : RoomState) : ReadGroup → Bool
  | .flow => state.supplyAirFlow.isSome
  | .flowControl | .intensive => state.intensiveActive.isSome
  | _ => true

/-- **No group is read without its value**: where a state that a read may start from does not
have the value of a group, the group was never read successfully. -/
def RoomCoordinator.ReadsKnown (s : RoomCoordinator) : Prop :=
  ∀ state, s.Previous state → ∀ group, state.known group = false →
    Unread emptyReadHealth (state.groupReadHealth group)

section Known

variable {s t : RoomCoordinator} {label : Label} {room : RoomConfig} {clock : Clock}
  {previous state : RoomState} {reply : PlanReply} {group : ReadGroup}

/-- A value that a reply leaves unknown was unknown, and the reply does not read its group. -/
theorem PlanReply.unknown (h : (reply.state room clock previous).known group = false) :
    reply.reads group = false ∧ previous.known group = false := by
  -- Any map tells whether intensive runs, so without that none was read now or before.
  have hmap : (reply.state room clock previous).intensiveActive.isSome = false →
      reply.reads .flowControl = false ∧ previous.intensiveActive.isSome = false := by
    intro hnone
    rcases reply.baseMode_cases room clock previous with ⟨-, hactive⟩ | ⟨-, -, hactive, -⟩ |
      ⟨-, hunread, hkept⟩
    · simp [hactive] at hnone
    · simp [hactive] at hnone
    · exact ⟨hunread, hkept.intensiveActive ▸ hnone⟩
  cases group with
  | flow =>
    rcases reply with ⟨_ | error | ⟨flow, mode⟩, target⟩ | ⟨_ | error | read⟩
    · exact ⟨rfl, h⟩
    · exact ⟨rfl, h⟩
    · have hkept := (applyModeRead_airflow room (applyFlowRead previous flow.read?) mode.read?).1
      have hnone : (applyFlowRead previous flow.read?).supplyAirFlow.isSome = false := by
        rw [← hkept]
        exact h
      rcases hflow : flow.read? with _ | values
      · rw [hflow] at hnone
        exact ⟨by simp [PlanReply.reads, hflow], hnone⟩
      · rw [hflow] at hnone
        cases hnone
    · exact ⟨rfl, h⟩
    · exact ⟨rfl, h⟩
    · refine ⟨rfl, ?_⟩
      simp only [PlanReply.state, SettingsRead.apply] at h
      split at h
      · cases hread : read.read? <;> simpa [hread, RoomState.known, applySettings] using h
      · exact h
  | flowControl => exact hmap h
  | intensive =>
    have hsame : reply.reads .intensive = reply.reads .flowControl := by
      rcases reply with ⟨_ | error | ⟨flow, mode⟩, target⟩ | ⟨_ | error | read⟩ <;> rfl
    rw [hsame]
    exact hmap h
  | _ => cases h

theorem RoomCoordinator.readsKnown_of_started (h : s.Started) : s.ReadsKnown := by
  obtain ⟨room, clock, rfl⟩ := h
  rintro state (rfl | ⟨-, hstartup⟩) group -
  · exact .refl
  · cases hstartup

theorem RoomCoordinator.ReadsKnown.step (h : s.ReadsKnown) (hstep : s.step label = some t) :
    t.ReadsKnown := by
  intro state hstate group hunknown
  rcases hstate.of_step hstep with hprevious | ⟨-, hprevious⟩ |
    ⟨-, previous, reply, replied, polled, hprevious, -, -, -, rfl⟩
  · exact h state hprevious group hunknown
  · exact h state hprevious group hunknown
  · obtain ⟨-, readback, hframe⟩ := (s.atClock replied).applyReply_frame previous polled reply
    rw [hframe] at hunknown ⊢
    have hreply : (reply.state s.room replied previous).known group = false := by
      cases group <;> exact hunknown
    obtain ⟨hreads, hbefore⟩ := PlanReply.unknown hreply
    exact (h previous hprevious group hbefore).trans (PlanReply.unread hreads)

/-- **The health that an overlay is set with** is that of any state that a read may start
from, as far as reads tell: a startup state has not read the groups of the airflow plan. -/
theorem RoomCoordinator.ReadsKnown.unread (h : s.ReadsKnown)
    (hstartup : ∀ state ∈ s.startup, state.hasData = false) (hprevious : s.Previous state)
    (hgroup : group ∈ airflowReadGroups) :
    Unread (s.state.groupReadHealth group) (state.groupReadHealth group) := by
  rcases hprevious with rfl | ⟨hdata, hsome⟩
  · exact .refl
  · have hnone := RoomState.noValues (hstartup state hsome)
    have hunknown : state.known group = false := by
      simp only [airflowReadGroups, List.mem_cons, List.not_mem_nil, or_false] at hgroup
      rcases hgroup with rfl | rfl | rfl
      · simp [RoomState.known, hnone.supplyAirFlow]
      · simp [RoomState.known, hnone.intensiveActive]
      · simp [RoomState.known, hnone.intensiveActive]
    have hempty : s.state.groupReadHealth group = emptyReadHealth := by
      simp [RoomCoordinator.state, hdata, emptyRoomState]
    rw [hempty]
    exact h state (.inr ⟨hdata, hsome⟩) group hunknown

end Known

end MeltemVentilation
