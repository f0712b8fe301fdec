import Mathlib.Data.Nat.Notation
import Mathlib.Tactic.TypeStar

/-!
# Guarded transition systems and their runs

A system is given by a partial, executable step function: `step s l` is `some t` when the
label `l` is enabled in the state `s` and leads to `t`, and `none` when it is not enabled.
`Transition.Reach step ok init` is the set of states that a run reaches from a state of
`init` when every step of the run meets the condition `ok`, which may look at the state
before the step and at its label. With the trivial condition these are the reachable
states; with another one, an invariant of `Reach` is a property of the runs whose steps all
meet the condition.

A step property is carried to whole runs by `Transition.Reach.invariant`. A concrete run is
given as the list of its labels: `Transition.run` replays it, and `Transition.Reach.of_run`
turns a successful replay whose steps meet the condition (`Transition.Along`) into a
reachable state. Both are decidable where the step and the condition are, so a run on
fixed labels is checked by evaluation. A list of labels that is not fixed but computed, as
the operations of a procedure, is replayed through good states (`Transition.Replays`).
-/

namespace Transition

variable {σ ι : Type*}

/-- **The states reached by runs whose steps all meet `ok`.** -/
inductive Reach (step : σ → ι → Option σ) (ok : σ → ι → Prop) (init : σ → Prop) : σ → Prop
  /-- A run starts in a state of `init`. -/
  | start {s : σ} : init s → Reach step ok init s
  /-- A run goes on by an enabled step that meets the condition. -/
  | next {s t : σ} {l : ι} : Reach step ok init s → ok s l → step s l = some t →
      Reach step ok init t

/-- Replay the labels `ls` from `s`; `none` if one of them is not enabled. -/
def run (step : σ → ι → Option σ) : List ι → σ → Option σ
  | [], s => some s
  | l :: ls, s => (step s l).bind (run step ls)

/-- Every step of the replay of `ls` from `s` meets `ok`. -/
def Along (step : σ → ι → Option σ) (ok : σ → ι → Prop) : List ι → σ → Prop
  | [], _ => True
  | l :: ls, s => ok s l ∧ ∀ t ∈ step s l, Along step ok ls t

instance Along.decidable (step : σ → ι → Option σ) (ok : σ → ι → Prop)
    [∀ s l, Decidable (ok s l)] : ∀ ls s, Decidable (Along step ok ls s)
  | [], _ => isTrue trivial
  | l :: ls, s =>
    match h : step s l with
    | none => decidable_of_iff (ok s l) (by simp [Along, h])
    | some t =>
      have := Along.decidable step ok ls t
      decidable_of_iff (ok s l ∧ Along step ok ls t) (by simp [Along, h])

variable {step : σ → ι → Option σ} {ok ok' : σ → ι → Prop} {init : σ → Prop} {s t : σ}

/-- A replay that meets a condition meets every weaker one. -/
theorem Along.mono (hok : ∀ s l, ok s l → ok' s l) {ls : List ι} {s : σ}
    (h : Along step ok ls s) : Along step ok' ls s := by
  induction ls generalizing s with
  | nil => trivial
  | cons l ls ih => exact ⟨hok s l h.1, fun t ht => ih (h.2 t ht)⟩

/-- Every replay meets the trivial condition. -/
theorem along_true (step : σ → ι → Option σ) (hok : ∀ s l, ok s l) (ls : List ι) (s : σ) :
    Along step ok ls s := by
  induction ls generalizing s with
  | nil => trivial
  | cons l ls ih => exact ⟨hok s l, fun t _ => ih t⟩

/-- **An invariant of the steps is an invariant of the runs**: what holds where a run starts,
and is kept by every step that meets the condition, holds in every state reached. -/
theorem Reach.invariant {P : σ → Prop} (hinit : ∀ s, init s → P s)
    (hstep : ∀ s l t, P s → ok s l → step s l = some t → P t)
    (h : Reach step ok init s) : P s := by
  induction h with
  | start h => exact hinit _ h
  | next _ hok hs ih => exact hstep _ _ _ ih hok hs

/-- A weaker condition reaches more states. -/
theorem Reach.mono (hok : ∀ s l, ok s l → ok' s l) (h : Reach step ok init s) :
    Reach step ok' init s := by
  induction h with
  | start h => exact .start h
  | next _ hl hs ih => exact .next ih (hok _ _ hl) hs

/-- **A successful replay is a run.** -/
theorem Reach.of_run {ls : List ι} (hs : Reach step ok init s) (hok : Along step ok ls s)
    (h : run step ls s = some t) : Reach step ok init t := by
  induction ls generalizing s with
  | nil =>
    obtain rfl : s = t := by simpa [run] using h
    exact hs
  | cons l ls ih =>
    obtain ⟨u, hu, hrest⟩ := Option.bind_eq_some_iff.mp h
    exact ih (hs.next hok.1 hu) (hok.2 u hu) hrest

/-- A test that the state after a successful replay passes: that state is reached. -/
theorem Reach.exists_of_run (ls : List ι) (p : σ → Bool) (hs : Reach step ok init s)
    (hok : Along step ok ls s) (h : (run step ls s).any p = true) :
    ∃ t, run step ls s = some t ∧ Reach step ok init t ∧ p t = true := by
  obtain ⟨t, hrun, ht⟩ := (Option.any_eq_true _ _).mp h
  exact ⟨t, hrun, hs.of_run hok hrun, ht⟩

/-! ### Replays through good states only -/

/-- The labels `ls` can be replayed from `s`, every state on the way is one of `good`, and the
last one meets `post`. -/
def Replays (step : σ → ι → Option σ) (good : σ → Prop) : List ι → (σ → Prop) → σ → Prop
  | [], post, s => good s ∧ post s
  | l :: ls, post, s => good s ∧ ∃ t, step s l = some t ∧ Replays step good ls post t

variable {good post post' : σ → Prop}

theorem Replays.mono {ls : List ι} (hpost : ∀ t, post t → post' t)
    (h : Replays step good ls post s) : Replays step good ls post' s := by
  induction ls generalizing s with
  | nil => exact ⟨h.1, hpost s h.2⟩
  | cons l ls ih =>
    obtain ⟨hgood, t, ht, hrest⟩ := h
    exact ⟨hgood, t, ht, ih hrest⟩

/-- Replays one after the other. -/
theorem Replays.append {ls ls' : List ι} (h : Replays step good ls post s)
    (h' : ∀ t, post t → Replays step good ls' post' t) :
    Replays step good (ls ++ ls') post' s := by
  induction ls generalizing s with
  | nil => exact h' s h.2
  | cons l ls ih =>
    obtain ⟨hgood, t, ht, hrest⟩ := h
    exact ⟨hgood, t, ht, ih hrest⟩

/-- **After every number of steps, the state is good.** -/
theorem Replays.take {ls : List ι} (h : Replays step good ls post s) (n : ℕ) :
    ∃ t, run step (ls.take n) s = some t ∧ good t := by
  induction ls generalizing s n with
  | nil => exact ⟨s, by simp [run], h.1⟩
  | cons l ls ih =>
    cases n with
    | zero => exact ⟨s, rfl, h.1⟩
    | succ n =>
      obtain ⟨-, t, ht, hrest⟩ := h
      obtain ⟨u, hu, hgood⟩ := ih hrest n
      exact ⟨u, by rw [List.take_succ_cons, run, ht, Option.bind_some, hu], hgood⟩

/-- **After all steps, the state meets the postcondition.** -/
theorem Replays.finish {ls : List ι} (h : Replays step good ls post s) :
    ∃ t, run step ls s = some t ∧ post t := by
  induction ls generalizing s with
  | nil => exact ⟨s, rfl, h.2⟩
  | cons l ls ih =>
    obtain ⟨-, t, ht, hrest⟩ := h
    obtain ⟨u, hu, hpost⟩ := ih hrest
    exact ⟨u, by rw [run, ht, Option.bind_some, hu], hpost⟩

/-! ### Recording the history of a run -/

variable {γ : Type*} {update : σ → ι → γ → γ}

/-- The system with a record of its history: `update` says what a step, seen from the state
before it, does to the record. The record has no influence on the steps. -/
def recorded (step : σ → ι → Option σ) (update : σ → ι → γ → γ) (s : σ × γ) (l : ι) :
    Option (σ × γ) :=
  (step s.1 l).map fun t => (t, update s.1 l s.2)

theorem recorded_eq_some {s t : σ × γ} {l : ι} : recorded step update s l = some t ↔
    step s.1 l = some t.1 ∧ t.2 = update s.1 l s.2 := by
  constructor
  · intro h
    obtain ⟨u, hu, rfl⟩ := Option.map_eq_some_iff.mp h
    exact ⟨hu, rfl⟩
  · rintro ⟨hstep, hrecord⟩
    rw [recorded, hstep, Option.map_some, ← hrecord]

/-- Forgetting the record gives a run of the system. -/
theorem Reach.of_recorded {ok : σ × γ → ι → Prop} {ok' : σ → ι → Prop}
    {init : σ × γ → Prop} {init' : σ → Prop} (hinit : ∀ s, init s → init' s.1)
    (hok : ∀ s l, ok s l → ok' s.1 l) {s : σ × γ} (h : Reach (recorded step update) ok init s) :
    Reach step ok' init' s.1 := by
  induction h with
  | start h => exact .start (hinit _ h)
  | next _ hl hs ih => exact ih.next (hok _ _ hl) (recorded_eq_some.mp hs).1

/-- Every run of the system can be recorded. -/
theorem Reach.exists_recorded (update : σ → ι → γ → γ) (initial : γ)
    (h : Reach step ok init s) :
    ∃ record, Reach (recorded step update) (fun s l => ok s.1 l)
      (fun s => init s.1 ∧ s.2 = initial) (s, record) := by
  induction h with
  | start h => exact ⟨initial, .start ⟨h, rfl⟩⟩
  | next _ hl hs ih =>
    obtain ⟨record, hrecord⟩ := ih
    exact ⟨_, hrecord.next hl (recorded_eq_some.mpr ⟨hs, rfl⟩)⟩

end Transition
