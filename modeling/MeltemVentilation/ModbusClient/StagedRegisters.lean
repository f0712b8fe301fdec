import Mathlib.Data.Finset.Insert
import Mathlib.Data.Finset.SDiff
import MeltemVentilation.Device.Transport
import MeltemVentilation.Lib.Transition
import MeltemVentilation.ModbusClient.Commands

/-!
# Registers that an interrupted command leaves staged

A unit stores what is written to its mode registers and activates all of it with the next
`APPLY`. A command that is interrupted in between leaves registers staged, which the `APPLY`
of a later command activates as well, so the client keeps a set of such registers for each
unit and warns of those that the later command does not write again
(`_write_mode_registers` in `modbus_client.py`).

The model here is one unit and its client. Every transmission of a register write or of
`APPLY` is a step of its own: its label says how the attempt ended for the client and whether
it took effect in the unit, and the transport repeats a failed attempt once
(`RequestError.retried`). The client sees the error of the last attempt only, and takes every
exception response for a refusal.

That is right where an exception response means that the register is not stored. It may be
stored all the same: by the first attempt, when only the second one is refused, or by an
attempt that the gateway answered with `0x0A` or `0x0B`. Apart from these cases the set holds
every staged register (`stagedKnown_of_reach`), and in these it does not
(`stagedKnown_refuted`).
-/

namespace MeltemVentilation

open Transition

/-! ### The client and its unit -/

/-- How one transmission of a write ended, and whether it took effect in the unit. -/
structure Attempt where
  reply : Reply
  effect : Bool
deriving DecidableEq, Repr

/-- An answered write took effect, and one that the unit itself refused did not. -/
def Attempt.possible (attempt : Attempt) : Bool :=
  match attempt.reply with
  | .answered => attempt.effect
  | .raised .refused => !attempt.effect
  | _ => true

/-- Where `_write_mode_registers` is. `names` are the registers that the command writes and
`written` those that count as stored; `retry` is the second attempt. -/
inductive WritePhase where
  | idle
  | writing (names written : Finset ModeRegister) (register : ModeRegister)
      (rest : List ModeRegister) (retry : Bool)
  /-- The warning has named the registers `leftOver`, and `APPLY` is sent. -/
  | applying (names written leftOver : Finset ModeRegister) (retry : Bool)
deriving DecidableEq

/-- A unit and its client. -/
structure StagedRegisters where
  room : RoomConfig
  /-- What the unit has stored, but not activated yet. -/
  stored : Finset ModeRegister := ∅
  /-- `_staged_mode_registers` for this unit. -/
  staged : Finset ModeRegister := ∅
  phase : WritePhase := .idle
deriving DecidableEq

/-- What happens next: a command begins, or a transmission ends. -/
inductive WriteLabel where
  | command (command : ModeCommand)
  | attempt (attempt : Attempt)
deriving DecidableEq, Repr

namespace StagedRegisters

/-- The next register write of a command, or `APPLY` after the last one. -/
def proceed (s : StagedRegisters) (names written : Finset ModeRegister) :
    List ModeRegister → StagedRegisters
  | [] => { s with phase := .applying names written (s.staged \ names) false }
  | register :: rest => { s with phase := .writing names written register rest false }

/-- A command that is interrupted: what it has written stays staged. -/
def interrupt (s : StagedRegisters) (written : Finset ModeRegister) : StagedRegisters :=
  { s with
    staged := if written = ∅ then s.staged else s.staged ∪ written
    phase := .idle }

/-- The end of one attempt to write a register. -/
def writeReplied (s : StagedRegisters) (names written : Finset ModeRegister)
    (register : ModeRegister) (rest : List ModeRegister) (retry : Bool) :
    Reply → StagedRegisters
  | .answered => s.proceed names (insert register written) rest
  | .cancelled => s.interrupt (insert register written)
  | .raised error =>
    if error.retried && !retry then
      { s with phase := .writing names written register rest true }
    -- The unit refused this register, so it holds nothing staged.
    else if error.isException then s.interrupt written
    -- A write without a response may still have reached the unit.
    else s.interrupt (insert register written)

/-- The end of one attempt to send `APPLY`. -/
def applyReplied (s : StagedRegisters) (names written leftOver : Finset ModeRegister)
    (retry : Bool) : Reply → StagedRegisters
  | .answered => { s with staged := ∅, phase := .idle }
  | .cancelled => s.interrupt written
  | .raised error =>
    if error.retried && !retry then { s with phase := .applying names written leftOver true }
    else s.interrupt written

/-- **One step of the client and its unit**, `none` where the label is not possible. -/
def step (s : StagedRegisters) : WriteLabel → Option StagedRegisters
  | .command command =>
    if s.phase = .idle then
      match command.writes s.room with
      | .error _ => some s
      | .ok writes => some (s.proceed (writes.map Prod.fst).toFinset ∅ (writes.map Prod.fst))
    else none
  | .attempt attempt =>
    if attempt.possible then
      match s.phase with
      | .idle => none
      | .writing names written register rest retry =>
        some (({ s with stored := if attempt.effect then insert register s.stored else s.stored } :
          StagedRegisters).writeReplied names written register rest retry attempt.reply)
      | .applying names written leftOver retry =>
        some (({ s with stored := if attempt.effect then ∅ else s.stored } :
          StagedRegisters).applyReplied names written leftOver retry attempt.reply)
    else none

end StagedRegisters

/-! ### What the warning promises -/

/-- A run starts with nothing staged. -/
def StagedStart (s : StagedRegisters) : Prop := ∃ room, s = { room := room }

/-- **Whenever `APPLY` is sent, the client knows what it activates**: each stored register is
one that the command writes, or is remembered and named by the warning. -/
def StagedKnown (s : StagedRegisters) : Prop :=
  ∀ names written leftOver retry, s.phase = .applying names written leftOver retry →
    ∀ register ∈ s.stored, register ∈ names ∨ (register ∈ s.staged ∧ register ∈ leftOver)

/-- No register write ends with an exception response although the unit has stored the
register, unless the client remembers it anyway. -/
def RefusedNotStored (s : StagedRegisters) (label : WriteLabel) : Prop :=
  match s.phase, label with
  | .writing _ written register _ retry, .attempt ⟨.raised error, effect⟩ =>
    error.isException = true → (error.retried && !retry) = false →
      (effect = true ∨ register ∈ s.stored) → register ∈ s.staged ∨ register ∈ written
  | _, _ => True

instance (s : StagedRegisters) : DecidablePred (RefusedNotStored s) := fun label => by
  unfold RefusedNotStored
  split <;> infer_instance

/-! ### The invariant -/

/-- The registers that the client would remember if the command were interrupted now. -/
def WritePhase.remembered : WritePhase → Finset ModeRegister
  | .idle => ∅
  | .writing _ written register _ retry => if retry then insert register written else written
  | .applying _ written _ _ => written

/-- The sets of a phase fit together. -/
def WritePhase.Consistent (staged : Finset ModeRegister) : WritePhase → Prop
  | .idle => True
  | .writing names written register rest _ =>
    written ⊆ names ∧ register ∈ names ∧ ∀ other ∈ rest, other ∈ names
  | .applying names written leftOver _ => written ⊆ names ∧ leftOver = staged \ names

/-- **The invariant**: every stored register is remembered, or will be. -/
structure StagedInvariant (s : StagedRegisters) : Prop where
  covered : s.stored ⊆ s.staged ∪ s.phase.remembered
  consistent : s.phase.Consistent s.staged

section Steps

variable {s t : StagedRegisters} {names written leftOver : Finset ModeRegister}
  {register : ModeRegister} {rest : List ModeRegister} {retry : Bool} {label : WriteLabel}
  {attempt : Attempt}

theorem StagedInvariant.known (h : StagedInvariant s) : StagedKnown s := by
  intro names written leftOver retry hphase register hstored
  have hcovered := h.covered hstored
  obtain ⟨hwritten, hleft⟩ : written ⊆ names ∧ leftOver = s.staged \ names := by
    have := h.consistent
    rwa [hphase] at this
  rw [hphase, Finset.mem_union] at hcovered
  by_cases hnames : register ∈ names
  · exact .inl hnames
  · rcases hcovered with hstaged | hremembered
    · exact .inr ⟨hstaged, by rw [hleft]; exact Finset.mem_sdiff.mpr ⟨hstaged, hnames⟩⟩
    · exact absurd (hwritten hremembered) hnames

/-- An interrupted command keeps the invariant, if what is stored is staged or written. -/
theorem stagedInvariant_interrupt (h : s.stored ⊆ s.staged ∪ written) :
    StagedInvariant (s.interrupt written) := by
  refine ⟨?_, trivial⟩
  simp only [StagedRegisters.interrupt, WritePhase.remembered, Finset.union_empty]
  split
  · rename_i hwritten
    simpa [hwritten] using h
  · exact h

/-- Going on with a command keeps the invariant, if what is stored is staged or written. -/
theorem stagedInvariant_proceed (h : s.stored ⊆ s.staged ∪ written) (hwritten : written ⊆ names)
    (hrest : ∀ other ∈ rest, other ∈ names) :
    StagedInvariant (s.proceed names written rest) := by
  cases rest with
  | nil => exact ⟨h, hwritten, rfl⟩
  | cons register rest =>
    exact ⟨h, hwritten, hrest register List.mem_cons_self,
      fun other hmem => hrest other (List.mem_cons_of_mem _ hmem)⟩

/-- **The end of an attempt to write a register** keeps the invariant, unless it is an
exception response for a register that is stored and not remembered. -/
theorem StagedInvariant.write (h : StagedInvariant s)
    (hphase : s.phase = .writing names written register rest retry)
    (hok : RefusedNotStored s (.attempt attempt)) :
    StagedInvariant (({ s with
      stored := if attempt.effect then insert register s.stored else s.stored } :
        StagedRegisters).writeReplied names written register rest retry attempt.reply) := by
  obtain ⟨hwritten, hregister, hrest⟩ :
      written ⊆ names ∧ register ∈ names ∧ ∀ other ∈ rest, other ∈ names := by
    have := h.consistent
    rwa [hphase] at this
  -- Whatever is stored was staged before or belongs to this write up to the current register.
  have hcovered : s.stored ⊆ s.staged ∪ insert register written := by
    refine h.covered.trans (Finset.union_subset_union_right ?_)
    rw [hphase, WritePhase.remembered]
    split
    · exact subset_rfl
    · exact Finset.subset_insert _ _
  have hstored : (if attempt.effect then insert register s.stored else s.stored) ⊆
      s.staged ∪ insert register written := by
    split
    · refine Finset.insert_subset ?_ hcovered
      exact Finset.mem_union_right _ (Finset.mem_insert_self _ _)
    · exact hcovered
  obtain ⟨reply, effect⟩ := attempt
  unfold StagedRegisters.writeReplied
  cases reply with
  | answered =>
    exact stagedInvariant_proceed hstored (Finset.insert_subset hregister hwritten) hrest
  | cancelled => exact stagedInvariant_interrupt hstored
  | raised error =>
    dsimp only
    split
    · exact ⟨hstored, hwritten, hregister, hrest⟩
    · rename_i hfinal
      split
      · -- A refused register is forgotten, so it must not have been stored by this attempt.
        rename_i hexception
        refine stagedInvariant_interrupt fun other hmem => ?_
        rcases Finset.mem_union.mp (hstored hmem) with hstaged | hinsert
        · exact Finset.mem_union_left _ hstaged
        · rcases Finset.mem_insert.mp hinsert with rfl | hother
          · refine Finset.mem_union.mpr ?_
            simp only [RefusedNotStored, hphase] at hok
            refine hok hexception (Bool.eq_false_iff.mpr hfinal) ?_
            cases effect
            · exact .inr hmem
            · exact .inl rfl
          · exact Finset.mem_union_right _ hother
      · exact stagedInvariant_interrupt hstored

/-- **The end of an attempt to send `APPLY`** keeps the invariant. -/
theorem StagedInvariant.apply (h : StagedInvariant s)
    (hphase : s.phase = .applying names written leftOver retry)
    (hpossible : attempt.possible = true) :
    StagedInvariant (({ s with stored := if attempt.effect then ∅ else s.stored } :
      StagedRegisters).applyReplied names written leftOver retry attempt.reply) := by
  have hconsistent : written ⊆ names ∧ leftOver = s.staged \ names := by
    have := h.consistent
    rwa [hphase] at this
  have hcovered : s.stored ⊆ s.staged ∪ written := by
    have := h.covered
    rwa [hphase] at this
  have hstored : (if attempt.effect then ∅ else s.stored) ⊆ s.staged ∪ written := by
    split
    · exact Finset.empty_subset _
    · exact hcovered
  obtain ⟨reply, effect⟩ := attempt
  unfold StagedRegisters.applyReplied
  cases reply with
  | answered =>
    obtain rfl : effect = true := hpossible
    exact ⟨Finset.empty_subset _, trivial⟩
  | cancelled => exact stagedInvariant_interrupt hstored
  | raised error =>
    dsimp only
    split
    · exact ⟨hstored, hconsistent⟩
    · exact stagedInvariant_interrupt hstored

/-- **Every step keeps the invariant**, unless an exception response ends the write of a
stored register. -/
theorem StagedInvariant.step (h : StagedInvariant s) (hok : RefusedNotStored s label)
    (hstep : s.step label = some t) : StagedInvariant t := by
  cases label with
  | command command =>
    obtain ⟨hphase, hstep⟩ := Option.ite_none_right_eq_some.mp hstep
    split at hstep
    · cases hstep
      exact h
    · cases hstep
      have hcovered : s.stored ⊆ s.staged ∪ ∅ := by
        have := h.covered
        rwa [hphase] at this
      exact stagedInvariant_proceed hcovered (Finset.empty_subset _)
        fun other hmem => List.mem_toFinset.mpr hmem
  | attempt attempt =>
    obtain ⟨hpossible, hstep⟩ := Option.ite_none_right_eq_some.mp hstep
    split at hstep
    · cases hstep
    · rename_i hphase
      cases hstep
      exact h.write hphase hok
    · rename_i hphase
      cases hstep
      exact h.apply hphase hpossible

end Steps

/-! ### Runs -/

/-- **Staged registers are never forgotten**, in every run in which no exception response
ends the write of a stored register. -/
theorem stagedKnown_of_reach {s : StagedRegisters}
    (h : Reach StagedRegisters.step RefusedNotStored StagedStart s) : StagedKnown s := by
  refine (h.invariant (P := StagedInvariant) ?_ fun _ _ _ hinv hok => hinv.step hok).known
  rintro _ ⟨room, rfl⟩
  exact ⟨Finset.empty_subset _, trivial⟩

/-- The unit of a test run. -/
def sampleClient : StagedRegisters := { room := ⟨"slave_2", "Living room", .sFc, 2⟩ }

/-- The write of the mode times out twice, the first time after it took effect, and the next
command ends the override. -/
def modeWriteLost : List WriteLabel :=
  [.command (.writeLevel 50), .attempt ⟨.raised .timeout, true⟩,
    .attempt ⟨.raised .timeout, false⟩, .command .clearIntensive, .attempt ⟨.answered, true⟩,
    .attempt ⟨.answered, true⟩]

/-- `APPLY` is sent while the mode is stored and not written by the command; `warned` is
whether the warning names it. -/
def activatesMode (warned : Bool) (s : StagedRegisters) : Bool :=
  match s.phase with
  | .applying names _ leftOver _ =>
    decide (.mode ∈ s.stored) && decide (.mode ∉ names) && (decide (.mode ∈ leftOver) == warned)
  | _ => false

theorem stagedKnown_of_reach_modeWriteLost :
    ∃ s, run StagedRegisters.step modeWriteLost sampleClient = some s ∧
      activatesMode true s = true ∧ StagedKnown s := by
  have hstart : Reach StagedRegisters.step RefusedNotStored StagedStart sampleClient :=
    .start ⟨_, rfl⟩
  obtain ⟨s, hrun, hreach, hs⟩ := hstart.exists_of_run modeWriteLost (activatesMode true)
    (by decide +kernel) (by decide +kernel)
  exact ⟨s, hrun, hs, stagedKnown_of_reach hreach⟩

/-- The same with a gateway that answers for the silent unit. -/
def modeWriteAnsweredByGateway : List WriteLabel :=
  [.command (.writeLevel 50), .attempt ⟨.raised .gatewayTarget, true⟩,
    .attempt ⟨.raised .gatewayTarget, false⟩, .command .clearIntensive,
    .attempt ⟨.answered, true⟩, .attempt ⟨.answered, true⟩]

/-- **A staged register that nobody remembers**: in this run `APPLY` is sent while the unit
holds a mode that the client has forgotten. -/
theorem stagedKnown_refuted :
    ∃ s, run StagedRegisters.step modeWriteAnsweredByGateway sampleClient = some s ∧
      Reach StagedRegisters.step (fun _ _ => True) StagedStart s ∧ ¬ StagedKnown s := by
  have hstart : Reach StagedRegisters.step (fun _ _ => True) StagedStart sampleClient :=
    .start ⟨_, rfl⟩
  obtain ⟨s, hrun, hreach, hs⟩ := hstart.exists_of_run modeWriteAnsweredByGateway
    (activatesMode false) (by decide +kernel) (by decide +kernel)
  refine ⟨s, hrun, hreach, fun h => ?_⟩
  unfold activatesMode at hs
  split at hs
  · rename_i names written leftOver retry hphase
    obtain ⟨⟨hstored, hnames⟩, hleft⟩ : (.mode ∈ s.stored ∧ .mode ∉ names) ∧ .mode ∉ leftOver := by
      simpa using hs
    rcases h _ _ _ _ hphase .mode hstored with hmem | ⟨-, hmem⟩
    · exact hnames hmem
    · exact hleft hmem
  · cases hs

end MeltemVentilation
