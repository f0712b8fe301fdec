import Mathlib.Data.Finmap
import Mathlib.Data.Finset.Sort
import Mathlib.Data.Nat.Notation

/-!
# Dictionaries

A dictionary is a `Finmap` whose values have one type. It is updated by a list of entries, of
which the last one for a key counts (`Dict.update`), and its entries are listed by key
(`Dict.items`).
-/

/-- A dictionary. -/
abbrev Dict (α β : Type) := Finmap fun _ : α => β

namespace Dict

variable {α β : Type} [DecidableEq α] {k : α} {v : β}

/-- `update`: set the entries one after the other. -/
def update (d : Dict α β) (entries : List (α × β)) : Dict α β :=
  entries.foldl (fun d entry => d.insert entry.1 entry.2) d

@[simp] theorem update_nil (d : Dict α β) : update d [] = d := rfl

@[simp] theorem update_cons (d : Dict α β) (entry : α × β) (entries : List (α × β)) :
    update d (entry :: entries) = update (d.insert entry.1 entry.2) entries := rfl

/-- A key that is not updated keeps its value. -/
theorem lookup_update_of_notMem {entries : List (α × β)} (h : k ∉ entries.map Prod.fst)
    (d : Dict α β) : (update d entries).lookup k = d.lookup k := by
  induction entries generalizing d with
  | nil => rfl
  | cons entry entries ih =>
    rw [List.map_cons, List.mem_cons, not_or] at h
    rw [update_cons, ih h.2, Finmap.lookup_insert_of_ne _ h.1]

/-- **A key that is updated once** gets its value. -/
theorem lookup_update_of_mem {entries : List (α × β)} (hkeys : (entries.map Prod.fst).Nodup)
    (h : (k, v) ∈ entries) (d : Dict α β) : (update d entries).lookup k = some v := by
  induction entries generalizing d with
  | nil => cases h
  | cons entry entries ih =>
    obtain ⟨hnew, hkeys⟩ := List.nodup_cons.mp hkeys
    rw [update_cons]
    rcases List.mem_cons.mp h with rfl | h
    · rw [lookup_update_of_notMem hnew, Finmap.lookup_insert]
    · exact ih hkeys h _

/-- What holds of the entries of a dictionary and of those it is updated by holds after it. -/
theorem forall_lookup_update {P : α → β → Prop} {d : Dict α β} {entries : List (α × β)}
    (hd : ∀ k v, d.lookup k = some v → P k v) (hentries : ∀ entry ∈ entries, P entry.1 entry.2) :
    ∀ k v, (update d entries).lookup k = some v → P k v := by
  induction entries generalizing d with
  | nil => exact hd
  | cons entry entries ih =>
    refine ih (fun k v h => ?_) fun entry hmem => hentries entry (List.mem_cons_of_mem _ hmem)
    by_cases hk : k = entry.1
    · subst hk
      rw [Finmap.lookup_insert, Option.some.injEq] at h
      subst h
      exact hentries entry List.mem_cons_self
    · rw [Finmap.lookup_insert_of_ne _ hk] at h
      exact hd k v h

/-- The keys after an update. -/
theorem mem_update {d : Dict α β} {entries : List (α × β)} :
    k ∈ update d entries ↔ k ∈ d ∨ k ∈ entries.map Prod.fst := by
  induction entries generalizing d with
  | nil => simp
  | cons entry entries ih =>
    rw [update_cons, ih, Finmap.mem_insert, List.map_cons, List.mem_cons, or_assoc, or_left_comm]

/-- An update takes no key away. -/
theorem mem_update_of_mem {d : Dict α β} (h : k ∈ d) (entries : List (α × β)) :
    k ∈ update d entries :=
  mem_update.mpr (.inl h)

/-! ### The entries by key -/

section Items

variable [LinearOrder α]

/-- `sorted(d.items())`. -/
def items (d : Dict α β) : List (α × β) :=
  (d.keys.sort (· ≤ ·)).filterMap fun k => (d.lookup k).map fun v => (k, v)

theorem mem_items {d : Dict α β} : (k, v) ∈ items d ↔ d.lookup k = some v := by
  simp only [items, List.mem_filterMap, Finset.mem_sort, Option.map_eq_some_iff, Prod.mk.injEq]
  constructor
  · rintro ⟨key, -, value, hvalue, rfl, rfl⟩
    exact hvalue
  · intro h
    exact ⟨k, Finmap.mem_keys.mpr (Finmap.mem_of_lookup_eq_some h), v, h, rfl, rfl⟩

theorem nodup_items (d : Dict α β) : ((items d).map Prod.fst).Nodup := by
  have hkeys : (items d).map Prod.fst = d.keys.sort (· ≤ ·) := by
    have hall : ∀ l : List α, (∀ k ∈ l, k ∈ d) →
        (l.filterMap fun k => (d.lookup k).map fun v => (k, v)).map Prod.fst = l := by
      intro l hl
      induction l with
      | nil => rfl
      | cons k l ih =>
        obtain ⟨v, hv⟩ := Finmap.mem_iff.mp (hl k List.mem_cons_self)
        rw [List.filterMap_cons_some (b := (k, v)) (by simp [hv]), List.map_cons,
          ih fun k hk => hl k (List.mem_cons_of_mem _ hk)]
    exact hall _ fun k hk => Finmap.mem_keys.mp ((Finset.mem_sort _).mp hk)
  rw [hkeys]
  exact Finset.sort_nodup _ _

end Items

end Dict
