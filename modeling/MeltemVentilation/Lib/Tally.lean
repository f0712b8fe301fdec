import Mathlib.Data.Int.Notation
import Mathlib.Data.Nat.Notation

/-!
# Nested tallies

A tally of events that are told apart by several keys is kept as a dictionary of dictionaries,
one level for each key, with a count at the bottom: `Tally.Nested α depth`. A dictionary is
the list of its entries, in the order in which they were added.

An event is counted by `Tally.increment`, which makes the entries that are missing on its way
down. It leaves no dictionary empty and no count zero (`Tally.Positive`), so that leaving such
entries out of a tally changes nothing that has been counted.
-/

namespace Tally

variable {α β : Type}

/-! ### Dictionaries -/

section Change

variable [DecidableEq α]

/-- Change the value of a key, or add the key with a value changed from `missing`. -/
def change (key : α) (missing : β) (f : β → β) : List (α × β) → List (α × β)
  | [] => [(key, f missing)]
  | entry :: entries =>
    if entry.1 = key then (key, f entry.2) :: entries else entry :: change key missing f entries

theorem change_ne_nil {key : α} {missing : β} {f : β → β} {entries : List (α × β)} :
    change key missing f entries ≠ [] := by
  cases entries with
  | nil => simp [change]
  | cons entry entries =>
    unfold change
    split <;> simp

/-- What holds of all values, and of those that a change makes, holds after it. -/
theorem forall_mem_change {p : β → Prop} {key : α} {missing : β} {f : β → β}
    {entries : List (α × β)} (h : ∀ entry ∈ entries, p entry.2) (hmissing : p (f missing))
    (hf : ∀ value, p value → p (f value)) : ∀ entry ∈ change key missing f entries, p entry.2 := by
  induction entries with
  | nil =>
    intro entry hentry
    obtain rfl := List.mem_singleton.mp hentry
    exact hmissing
  | cons first entries ih =>
    have hrest : ∀ entry ∈ entries, p entry.2 := fun entry hentry =>
      h entry (List.mem_cons_of_mem _ hentry)
    have hfirst : p first.2 := h first List.mem_cons_self
    intro entry hentry
    unfold change at hentry
    split at hentry
    · rcases List.mem_cons.mp hentry with rfl | hentry
      · exact hf _ hfirst
      · exact hrest entry hentry
    · rcases List.mem_cons.mp hentry with rfl | hentry
      · exact hfirst
      · exact ih hrest entry hentry

/-- A change adds no key but its own. -/
theorem mem_keys_change {key k : α} {missing : β} {f : β → β} {entries : List (α × β)}
    (h : k ∈ (change key missing f entries).map Prod.fst) :
    k = key ∨ k ∈ entries.map Prod.fst := by
  induction entries with
  | nil => exact .inl (List.mem_singleton.mp h)
  | cons first entries ih =>
    unfold change at h
    split at h
    · rcases List.mem_cons.mp h with h | h
      · exact .inl h
      · exact .inr (List.mem_cons_of_mem _ h)
    · rcases List.mem_cons.mp h with h | h
      · exact .inr (h ▸ List.mem_cons_self)
      · exact (ih h).imp_right (List.mem_cons_of_mem _)

/-- The keys stay distinct. -/
theorem nodup_change {key : α} {missing : β} {f : β → β} {entries : List (α × β)}
    (h : (entries.map Prod.fst).Nodup) : ((change key missing f entries).map Prod.fst).Nodup := by
  induction entries with
  | nil => exact List.nodup_cons.mpr ⟨List.not_mem_nil, List.nodup_nil⟩
  | cons first entries ih =>
    obtain ⟨hfirst, hnodup⟩ := List.nodup_cons.mp h
    unfold change
    split
    · rename_i hkey
      exact List.nodup_cons.mpr ⟨hkey ▸ hfirst, hnodup⟩
    · rename_i hkey
      refine List.nodup_cons.mpr ⟨fun hmem => ?_, ih hnodup⟩
      rcases mem_keys_change hmem with heq | hmem
      · exact hkey heq
      · exact hfirst hmem

/-- **A key that is assigned** has the value, and the other entries stay. -/
theorem mem_change_const {key : α} {value missing : β} {entries : List (α × β)}
    (h : (entries.map Prod.fst).Nodup) (entry : α × β) :
    entry ∈ change key missing (fun _ => value) entries ↔
      if entry.1 = key then entry.2 = value else entry ∈ entries := by
  induction entries with
  | nil =>
    rw [change, List.mem_singleton, Prod.ext_iff]
    split
    · rename_i hentry
      exact and_iff_right hentry
    · rename_i hentry
      exact iff_of_false (fun heq => hentry heq.1) (List.not_mem_nil)
  | cons first entries ih =>
    obtain ⟨hfirst, hnodup⟩ := List.nodup_cons.mp h
    unfold change
    split
    · -- The key has its first entry here, and by distinctness its only one.
      rename_i hkey
      have hrest : entry ∈ entries → entry.1 ≠ key := fun hentry heq =>
        hfirst (hkey ▸ heq ▸ List.mem_map_of_mem hentry)
      rw [List.mem_cons, List.mem_cons, Prod.ext_iff]
      split
      · rename_i hentry
        rw [or_iff_left fun hmem => hrest hmem hentry]
        exact and_iff_right hentry
      · rename_i hentry
        exact or_congr_left
          ⟨fun heq => absurd heq.1 hentry, fun heq => absurd (heq ▸ hkey) hentry⟩
    · rename_i hkey
      rw [List.mem_cons, ih hnodup, List.mem_cons]
      split
      · rename_i hentry
        refine or_iff_right fun heq => ?_
        rw [heq] at hentry
        exact hkey hentry
      · rfl

/-- A change of entries that are written in another way. -/
theorem map_change {γ δ : Type} [DecidableEq γ] {key : α} {missing : β} {f : β → β}
    {g : α → γ} (hg : Function.Injective g) {h : β → δ} {f' : δ → δ}
    (hf : ∀ value, h (f value) = f' (h value)) (entries : List (α × β)) :
    (change key missing f entries).map (Prod.map g h) =
      change (g key) (h missing) f' (entries.map (Prod.map g h)) := by
  induction entries with
  | nil => simp [change, hf]
  | cons first entries ih =>
    rw [List.map_cons, change, change]
    by_cases hkey : first.1 = key
    · rw [if_pos hkey, if_pos (by simp [hkey])]
      simp [hf]
    · rw [if_neg hkey, if_neg (by simpa using hg.ne hkey), List.map_cons, ih]

end Change

/-! ### Counts below several keys -/

/-- A count below `depth` keys. -/
@[reducible] def Nested (α : Type) : ℕ → Type
  | 0 => ℤ
  | depth + 1 => List (α × Nested α depth)

namespace Nested

/-- Nothing has been counted. -/
def empty : ∀ depth, Nested α depth
  | 0 => (0 : ℤ)
  | _ + 1 => ([] : List _)

/-- A count of zero, or a dictionary without entries. -/
def isEmpty : ∀ {depth}, Nested α depth → Bool
  | 0, count => decide ((count : ℤ) = 0)
  | _ + 1, entries => List.isEmpty entries

/-- The sum of all counts. -/
def total : ∀ {depth}, Nested α depth → ℤ
  | 0, count => count
  | _ + 1, entries => (List.map (fun entry => entry.2.total) entries).sum

/-- All counts are positive, and no dictionary is empty. -/
def Positive : ∀ {depth}, Nested α depth → Prop
  | 0, count => 0 < (count : ℤ)
  | _ + 1, entries => List.isEmpty entries = false ∧ ∀ entry ∈ entries, entry.2.Positive

theorem Positive.isEmpty {depth : ℕ} {tally : Nested α depth} (h : tally.Positive) :
    tally.isEmpty = false := by
  cases depth with
  | zero =>
    have hpos : 0 < (tally : ℤ) := h
    exact decide_eq_false (Int.ne_of_gt hpos)
  | succ depth => exact h.1

/-- Everything that has an entry has been counted. -/
def Counted {depth : ℕ} (tally : Nested α depth) : Prop :=
  tally.isEmpty = true ∨ tally.Positive

theorem counted_empty (depth : ℕ) : (empty depth : Nested α depth).Counted := by
  cases depth with
  | zero => exact .inl rfl
  | succ depth => exact .inl rfl

/-- The entries of a tally are positive. -/
theorem Counted.entries {depth : ℕ} {tally : Nested α (depth + 1)} (h : tally.Counted) :
    ∀ entry ∈ (tally : List (α × Nested α depth)), entry.2.Positive := by
  rcases h with hempty | hpos
  · intro entry hentry
    rw [List.isEmpty_iff.mp hempty] at hentry
    cases hentry
  · exact hpos.2

section Increment

variable [DecidableEq α]

/-- **Count one event** with its keys. -/
def increment : ∀ keys : List α, Nested α keys.length → Nested α keys.length
  | [], (count : ℤ) => count + 1
  | key :: keys, entries => change key (empty keys.length) (increment keys) entries

/-- **What has been counted is positive.** -/
theorem Counted.increment (keys : List α) {tally : Nested α keys.length} (h : tally.Counted) :
    (tally.increment keys).Positive := by
  induction keys with
  | nil =>
    let count : ℤ := tally
    have hnonneg : 0 ≤ count := by
      rcases h with hzero | hpos
      · exact Int.le_of_eq (of_decide_eq_true hzero).symm
      · exact Int.le_of_lt hpos
    exact Int.lt_add_one_of_le hnonneg
  | cons key keys ih =>
    refine ⟨List.isEmpty_eq_false_iff.mpr change_ne_nil, ?_⟩
    exact forall_mem_change h.entries (ih (counted_empty _)) fun value hvalue => ih (.inr hvalue)

end Increment

end Nested

end Tally
