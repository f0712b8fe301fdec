import MeltemVentilation.FlowHelpers

/-!
# The keys of the rooms

Which key `build_rooms_from_profiles` gives to each unit, as a function of the matched rooms
alone (`builtKey`): a known unit has the key of its room, and a new one the first of
`slave_a`, `slave_a_2`, `slave_a_3`, … that no matched room has. The loop also keeps off the
keys it has given out before, but these never come in the way
(`map_key_buildRooms`): the keys that are tried for two addresses are all different, since
the digits of an address end where its suffix begins.
-/

namespace MeltemVentilation

open FirstFree

/-! ### The text of a key -/

section Text

variable {a b n m : ℕ} {rest rest' : List Char}

/-- The digits of a number, and nothing that a digit could go on with, give the number. -/
theorem toString_append_inj (ha : ∀ c ∈ rest.head?, c.isDigit = false)
    (hb : ∀ c ∈ rest'.head?, c.isDigit = false)
    (h : (toString a).toList ++ rest = (toString b).toList ++ rest') : a = b ∧ rest = rest' := by
  have htake : ∀ {n : ℕ} {rest : List Char}, (∀ c ∈ rest.head?, c.isDigit = false) →
      ((toString n).toList ++ rest).takeWhile Char.isDigit = Nat.toDigits 10 n := by
    intro n rest hrest
    have hdigits : ∀ c ∈ Nat.toDigits 10 n, c.isDigit = true :=
      fun c hc => Nat.isDigit_of_mem_toDigits (by decide) (by decide) hc
    rw [show (toString n).toList = Nat.toDigits 10 n by simp [Nat.toString_eq_repr],
      List.takeWhile_append_of_pos hdigits]
    cases rest with
    | nil => simp
    | cons c rest => simp [hrest c (by simp)]
  have hdigits : Nat.toDigits 10 a = Nat.toDigits 10 b := by
    rw [← htake ha, ← htake hb, h]
  obtain rfl : a = b := by
    have := congrArg (fun digits => Nat.ofDigitChars 10 digits 0) hdigits
    simpa [Nat.ofDigitChars_toDigits] using this
  exact ⟨rfl, List.append_cancel_left h⟩

/-- What follows the preferred key. -/
def keySuffix : ℕ → List Char
  | 0 => []
  | n + 1 => '_' :: (toString (n + 2)).toList

theorem toList_suffixedKey (preferred : String) (n : ℕ) :
    (suffixedKey preferred n).toList = preferred.toList ++ keySuffix n := by
  cases n with
  | zero => simp [suffixedKey, keySuffix]
  | succ n => simp [suffixedKey, keySuffix]

theorem head_keySuffix (n : ℕ) : ∀ c ∈ (keySuffix n).head?, c.isDigit = false := by
  cases n with
  | zero => simp [keySuffix]
  | succ n => simp [keySuffix]

theorem keySuffix_injective : Function.Injective keySuffix := by
  intro n m h
  cases n with
  | zero =>
    cases m with
    | zero => rfl
    | succ m => cases h
  | succ n =>
    cases m with
    | zero => cases h
    | succ m =>
      have hdigits := (List.cons.inj h).2
      have hsame : n + 2 = m + 2 ∧ ([] : List Char) = [] :=
        toString_append_inj (by simp) (by simp) (by simpa using hdigits)
      omega

theorem suffixedKey_injective (preferred : String) :
    Function.Injective (suffixedKey preferred) := by
  intro n m h
  have hlist := congrArg String.toList h
  rw [toList_suffixedKey, toList_suffixedKey] at hlist
  exact keySuffix_injective (List.append_cancel_left hlist)

theorem toList_slaveKey (slave : ℕ) :
    (slaveKey slave).toList = "slave_".toList ++ (toString slave).toList := by
  simp [slaveKey]

/-- **The keys tried for two addresses are all different.** -/
theorem slaveKey_inj (h : suffixedKey (slaveKey a) n = suffixedKey (slaveKey b) m) : a = b := by
  have hlist := congrArg String.toList h
  rw [toList_suffixedKey, toList_suffixedKey, toList_slaveKey, toList_slaveKey, List.append_assoc,
    List.append_assoc] at hlist
  exact (toString_append_inj (head_keySuffix n) (head_keySuffix m)
    (List.append_cancel_left hlist)).1

theorem suffixedKey_ne_empty {preferred : String} (h : preferred ≠ "") (n : ℕ) :
    suffixedKey preferred n ≠ "" := by
  intro hempty
  have hlist := congrArg String.toList hempty
  rw [toList_suffixedKey] at hlist
  have hnil : preferred.toList = [] := (List.append_eq_nil_iff.mp (by simpa using hlist)).1
  exact h (String.toList_inj.mp (by simpa using hnil))

theorem slaveKey_ne_empty (slave : ℕ) : slaveKey slave ≠ "" := by
  intro hempty
  have hlist := congrArg String.toList hempty
  rw [toList_slaveKey] at hlist
  simp at hlist

end Text

/-! ### Dictionaries as lists -/

/-- A list of pairs that is a dictionary: one value for each key. -/
def Functional {β : Type} (entries : List (ℕ × β)) : Prop :=
  ∀ key value value', (key, value) ∈ entries → (key, value') ∈ entries → value = value'

theorem Functional.lookup_eq_some_iff {β : Type} {entries : List (ℕ × β)}
    (h : Functional entries) {key : ℕ} {value : β} :
    entries.lookup key = some value ↔ (key, value) ∈ entries := by
  have hmem : ∀ {found : β}, entries.lookup key = some found → (key, found) ∈ entries := by
    intro found hfound
    obtain ⟨before, after, rfl, -⟩ := List.lookup_eq_some_iff.mp hfound
    simp
  refine ⟨hmem, fun hin => ?_⟩
  rcases hlookup : entries.lookup key with _ | found
  · have := List.lookup_eq_none_iff.mp hlookup (key, value) hin
    simp at this
  · rw [h key found value (hmem hlookup) hin]

theorem Functional.lookup_eq_none_iff {β : Type} {entries : List (ℕ × β)}
    (h : Functional entries) {key : ℕ} :
    entries.lookup key = none ↔ ∀ value, (key, value) ∉ entries := by
  rw [Option.eq_none_iff_forall_ne_some]
  exact forall_congr' fun value => not_congr h.lookup_eq_some_iff

/-! ### The key of each room -/

/-- The key of the unit at an address. -/
def builtKey (matched : List (ℕ × UnitRoom)) (slave : ℕ) : String :=
  match matched.lookup slave with
  | some room => room.key
  | none => firstFree (suffixedKey (slaveKey slave)) (matched.map (·.2.key))

/-- Matched rooms with proper keys: no key is empty, and none belongs to two addresses. -/
structure ProperKeys (matched : List (ℕ × UnitRoom)) : Prop where
  functional : Functional matched
  keyed : ∀ entry ∈ matched, entry.2.key ≠ ""
  distinct : ∀ entry ∈ matched, ∀ other ∈ matched, entry.2.key = other.2.key → entry.1 = other.1

section Keys

variable {matched matched' : List (ℕ × UnitRoom)} {slave other : ℕ} {room : UnitRoom}
  {selectedProfiles : ℕ → Profile} {probes : List (ℕ × UnitProbeResult)}

theorem builtKey_of_lookup (h : matched.lookup slave = some room) :
    builtKey matched slave = room.key := by
  simp only [builtKey, h]

theorem builtKey_of_none (h : matched.lookup slave = none) : builtKey matched slave =
    firstFree (suffixedKey (slaveKey slave)) (matched.map (·.2.key)) := by
  simp only [builtKey, h]

/-- A new key is none of the matched ones. -/
theorem builtKey_notMem (h : matched.lookup slave = none) :
    builtKey matched slave ∉ matched.map (·.2.key) := by
  rw [builtKey_of_none h]
  exact firstFree_notMem (suffixedKey_injective _) _

theorem ProperKeys.mem_of_lookup (h : ProperKeys matched)
    (hlookup : matched.lookup slave = some room) : room.key ∈ matched.map (·.2.key) :=
  List.mem_map_of_mem (f := fun entry => entry.2.key) (h.functional.lookup_eq_some_iff.mp hlookup)

/-- **The keys of two units are different.** -/
theorem ProperKeys.builtKey_inj (h : ProperKeys matched)
    (hkey : builtKey matched slave = builtKey matched other) : slave = other := by
  rcases hslave : matched.lookup slave with _ | room <;>
    rcases hother : matched.lookup other with _ | room'
  · obtain ⟨n, hn, -⟩ := firstFree_spec (suffixedKey_injective (slaveKey slave))
      (matched.map (·.2.key))
    obtain ⟨m, hm, -⟩ := firstFree_spec (suffixedKey_injective (slaveKey other))
      (matched.map (·.2.key))
    rw [builtKey_of_none hslave, builtKey_of_none hother, hn, hm] at hkey
    exact slaveKey_inj hkey
  · refine absurd ?_ (builtKey_notMem hslave)
    rw [hkey, builtKey_of_lookup hother]
    exact h.mem_of_lookup hother
  · refine absurd ?_ (builtKey_notMem hother)
    rw [← hkey, builtKey_of_lookup hslave]
    exact h.mem_of_lookup hslave
  · rw [builtKey_of_lookup hslave, builtKey_of_lookup hother] at hkey
    exact h.distinct _ (h.functional.lookup_eq_some_iff.mp hslave) _
      (h.functional.lookup_eq_some_iff.mp hother) hkey

/-- **One round of the loop**: keys given to other addresses before do not matter. -/
theorem ProperKeys.roomKey_eq (h : ProperKeys matched) {used : List String}
    (hused : ∀ key ∈ used, ∃ other, other ≠ slave ∧ key = builtKey matched other) :
    roomKey matched used slave = builtKey matched slave := by
  rcases hslave : matched.lookup slave with _ | room
  · rw [builtKey_of_none hslave, roomKey, hslave]
    refine firstFree_congr (suffixedKey_injective _) fun n => ?_
    rw [List.mem_append]
    refine ⟨fun hmem => hmem.elim (fun hmem => ?_) id, .inr⟩
    obtain ⟨other, hne, hkey⟩ := hused _ hmem
    rcases hother : matched.lookup other with _ | room'
    · obtain ⟨m, hm, -⟩ := firstFree_spec (suffixedKey_injective (slaveKey other))
        (matched.map (·.2.key))
      rw [builtKey_of_none hother, hm] at hkey
      exact absurd (slaveKey_inj hkey).symm hne
    · rw [hkey, builtKey_of_lookup hother]
      exact h.mem_of_lookup hother
  · have hkeyed := h.keyed _ (h.functional.lookup_eq_some_iff.mp hslave)
    rw [builtKey_of_lookup hslave, roomKey, hslave]
    simp only [if_neg hkeyed]
    refine (firstFree_eq_iff (suffixedKey_injective room.key) (n := 0)).mpr
      ⟨fun hmem => ?_, nofun⟩
    obtain ⟨other, hne, hkey⟩ := hused _ hmem
    refine hne (h.builtKey_inj ?_).symm
    rw [builtKey_of_lookup hslave]
    exact hkey

/-- **The keys of all rooms.** -/
theorem ProperKeys.map_key_buildRooms (h : ProperKeys matched) {slaves : List ℕ}
    (hslaves : slaves.Nodup) {used names : List String}
    (hused : ∀ key ∈ used, ∃ other ∉ slaves, key = builtKey matched other) :
    (buildRooms selectedProfiles probes matched slaves used names).map
        (fun room => (room.slave, room.key)) =
      slaves.map fun slave => (slave, builtKey matched slave) := by
  induction slaves generalizing used names with
  | nil => rfl
  | cons slave slaves ih =>
    obtain ⟨hnot, hslaves⟩ := List.nodup_cons.mp hslaves
    have hkey : roomKey matched used slave = builtKey matched slave := by
      refine h.roomKey_eq fun key hmem => ?_
      obtain ⟨other, hother, heq⟩ := hused key hmem
      exact ⟨other, fun he => hother (he ▸ List.mem_cons_self), heq⟩
    simp only [buildRooms, List.map_cons]
    rw [ih hslaves]
    · simp only [buildRoom, hkey]
    · intro key hmem
      rcases List.mem_cons.mp hmem with rfl | hmem
      · exact ⟨slave, hnot, hkey⟩
      · obtain ⟨other, hother, heq⟩ := hused key hmem
        exact ⟨other, fun hin => hother (List.mem_cons_of_mem _ hin), heq⟩

/-- No room has an empty key, whatever the matched rooms are. -/
theorem key_ne_empty_of_mem_buildRooms {slaves : List ℕ} {used names : List String}
    (h : room ∈ buildRooms selectedProfiles probes matched slaves used names) :
    room.key ≠ "" := by
  have hkey : ∀ used slave, roomKey matched used slave ≠ "" := by
    intro used slave
    have hfree : ∀ {preferred : String} {taken : List String}, preferred ≠ "" →
        firstFree (suffixedKey preferred) taken ≠ "" := by
      intro preferred taken hne
      obtain ⟨n, hn, -⟩ := firstFree_spec (suffixedKey_injective preferred) taken
      rw [hn]
      exact suffixedKey_ne_empty hne n
    unfold roomKey
    split
    · refine hfree ?_
      split
      · exact slaveKey_ne_empty slave
      · assumption
    · exact hfree (slaveKey_ne_empty slave)
  induction slaves generalizing used names with
  | nil => cases h
  | cons slave slaves ih =>
    rcases List.mem_cons.mp h with rfl | hmem
    · exact hkey _ _
    · exact ih hmem

/-- The same matched rooms in another order give the same keys. -/
theorem builtKey_congr (h : Functional matched) (h' : Functional matched')
    (hsame : ∀ entry, entry ∈ matched ↔ entry ∈ matched') (slave : ℕ) :
    builtKey matched slave = builtKey matched' slave := by
  rcases hslave : matched.lookup slave with _ | room
  · have hslave' : matched'.lookup slave = none := by
      rw [h'.lookup_eq_none_iff]
      exact fun value hmem => h.lookup_eq_none_iff.mp hslave value ((hsame _).mpr hmem)
    rw [builtKey_of_none hslave, builtKey_of_none hslave']
    refine firstFree_congr (suffixedKey_injective _) fun n => ?_
    simp only [List.mem_map, hsame]
  · have hslave' : matched'.lookup slave = some room :=
      h'.lookup_eq_some_iff.mpr ((hsame _).mp (h.lookup_eq_some_iff.mp hslave))
    rw [builtKey_of_lookup hslave, builtKey_of_lookup hslave']

end Keys

end MeltemVentilation
