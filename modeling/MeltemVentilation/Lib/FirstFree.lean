import Mathlib.Data.Finset.Card
import Mathlib.Data.Finset.Image

/-!
# The first name that is not taken

A new object often gets the first of a sequence of candidate names that no other object has:
a preferred name, then the same name with one suffix after the other. `FirstFree.firstFree`
is that search. It is given as much fuel as names are taken, which is enough when the
candidates are distinct (`FirstFree.firstFree_spec`), and its result depends on nothing but
which of the candidates are taken (`FirstFree.firstFree_congr`).
-/

namespace FirstFree

variable {α : Type*} [DecidableEq α] {candidate : ℕ → α} {taken taken' : List α}

/-- Try the candidates from the `n`-th on. -/
def search (candidate : ℕ → α) (taken : List α) : ℕ → ℕ → α
  | 0, n => candidate n
  | fuel + 1, n => if candidate n ∈ taken then search candidate taken fuel (n + 1) else candidate n

/-- The first candidate that is not taken. -/
def firstFree (candidate : ℕ → α) (taken : List α) : α := search candidate taken taken.length 0

/-- Among one more candidate than names are taken, one is free. -/
theorem exists_free (h : Function.Injective candidate) (taken : List α) :
    ∃ n ≤ taken.length, candidate n ∉ taken := by
  by_contra hall
  push Not at hall
  have hsubset : (Finset.range (taken.length + 1)).image candidate ⊆ taken.toFinset := by
    intro name hname
    obtain ⟨n, hn, rfl⟩ := Finset.mem_image.mp hname
    exact List.mem_toFinset.mpr (hall n (Nat.lt_succ_iff.mp (Finset.mem_range.mp hn)))
  have hcard := (Finset.card_le_card hsubset).trans taken.toFinset_card_le
  rw [Finset.card_image_of_injective _ h, Finset.card_range] at hcard
  omega

/-- With enough fuel, the search stops at the first free candidate. -/
theorem search_spec {fuel n m : ℕ} (hnm : n ≤ m) (hfuel : m ≤ n + fuel)
    (hfree : candidate m ∉ taken) :
    ∃ k, search candidate taken fuel n = candidate k ∧ candidate k ∉ taken ∧ n ≤ k ∧
      ∀ j, n ≤ j → j < k → candidate j ∈ taken := by
  induction fuel generalizing n with
  | zero =>
    obtain rfl : n = m := le_antisymm hnm hfuel
    exact ⟨n, rfl, hfree, le_refl _, fun j hj hlt => by omega⟩
  | succ fuel ih =>
    rw [search]
    by_cases htaken : candidate n ∈ taken
    · rw [if_pos htaken]
      have hne : n ≠ m := fun heq => hfree (heq ▸ htaken)
      obtain ⟨k, hk, hkfree, hle, hbefore⟩ := ih (n := n + 1) (by omega) (by omega)
      refine ⟨k, hk, hkfree, by omega, fun j hj hlt => ?_⟩
      rcases Nat.eq_or_lt_of_le hj with rfl | hlater
      · exact htaken
      · exact hbefore j hlater hlt
    · rw [if_neg htaken]
      exact ⟨n, rfl, htaken, le_refl _, fun j hj hlt => by omega⟩

/-- **The search finds the first free candidate.** -/
theorem firstFree_spec (h : Function.Injective candidate) (taken : List α) :
    ∃ n, firstFree candidate taken = candidate n ∧ candidate n ∉ taken ∧
      ∀ m < n, candidate m ∈ taken := by
  obtain ⟨m, hle, hfree⟩ := exists_free h taken
  have hfuel : m ≤ 0 + taken.length := by omega
  obtain ⟨n, hn, hnfree, -, hbefore⟩ := search_spec (Nat.zero_le m) hfuel hfree
  exact ⟨n, hn, hnfree, fun j hlt => hbefore j (Nat.zero_le j) hlt⟩

theorem firstFree_notMem (h : Function.Injective candidate) (taken : List α) :
    firstFree candidate taken ∉ taken := by
  obtain ⟨n, hn, hfree, -⟩ := firstFree_spec h taken
  rwa [hn]

/-- The first free candidate is the `n`-th exactly if that one is free and all before it are
taken. -/
theorem firstFree_eq_iff (h : Function.Injective candidate) {n : ℕ} :
    firstFree candidate taken = candidate n ↔
      candidate n ∉ taken ∧ ∀ m < n, candidate m ∈ taken := by
  obtain ⟨k, hk, hkfree, hbefore⟩ := firstFree_spec h taken
  rw [hk]
  constructor
  · intro heq
    obtain rfl := h heq
    exact ⟨hkfree, hbefore⟩
  · rintro ⟨hfree, hall⟩
    rcases Nat.lt_trichotomy k n with hlt | rfl | hlt
    · exact absurd (hall k hlt) hkfree
    · rfl
    · exact absurd (hbefore n hlt) hfree

/-- **Only the taken candidates matter.** -/
theorem firstFree_congr (h : Function.Injective candidate)
    (hsame : ∀ n, candidate n ∈ taken ↔ candidate n ∈ taken') :
    firstFree candidate taken = firstFree candidate taken' := by
  obtain ⟨n, hn, hfree, hbefore⟩ := firstFree_spec h taken
  rw [hn, eq_comm, firstFree_eq_iff h]
  exact ⟨fun hmem => hfree ((hsame n).mpr hmem), fun m hlt => (hsame m).mp (hbefore m hlt)⟩

end FirstFree
