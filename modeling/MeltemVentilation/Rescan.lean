import MeltemVentilation.OptionsFlow
import MeltemVentilation.RoomKeys

/-!
# What a rescan removes

A rescan should remove exactly the stored units that it did not find, and update each other
one with the data of the address it was found at (`RescanExact`). Which of them were found is
decided by `match_existing_rooms`; which are removed is decided later and by the keys alone,
so the two agree only if the keys do not get in the way. `rescanExact_iff` says when:

* no unit that was found has an empty key;
* the second matching, that of the rooms already matched, finds nothing new: a setup code
  that is stored twice identifies no unit at first, but does if only one of the two stored
  units has been matched by its address (`RescanSafe.settled`);
* no new unit gets the key of a stored unit that was not found. A unit keeps its key when
  its address changes, so the key `slave_5` may belong to a unit that is somewhere else
  (`RescanSafe.fresh`, `rescanExact_refuted`).
-/

namespace MeltemVentilation

open FirstFree

/-! ### What the matching finds -/

section Matching

variable {slaves : List ℕ} {probes : List (ℕ × UnitProbeResult)}
  {existing : List (ℕ × UnitRoom)} {slave other : ℕ} {source source' : ℕ × UnitRoom}
  {room : UnitRoom} {code : String}

/-- Two members of a list that pass a test which only one of them passes. -/
theorem eq_of_countP_eq_one {α : Type} {entries : List α} {p : α → Bool} {a b : α}
    (h : entries.countP p = 1) (ha : a ∈ entries) (hb : b ∈ entries) (hpa : p a = true)
    (hpb : p b = true) : a = b := by
  rw [List.countP_eq_length_filter, List.length_eq_one_iff] at h
  obtain ⟨only, honly⟩ := h
  have hmem : ∀ c ∈ entries, p c = true → c = only := by
    intro c hc hpc
    have : c ∈ entries.filter p := List.mem_filter.mpr ⟨hc, hpc⟩
    rwa [honly, List.mem_singleton] at this
  rw [hmem a ha hpa, hmem b hb hpb]

/-- **What a match by setup code says**: the code was probed at this address only, and is
stored for this room only. -/
theorem codeMatch_eq_some (h : codeMatch slaves probes existing slave = some source) :
    ∃ code, probedCode probes slave = some code ∧ probedCount slaves probes code = 1 ∧
      storedCount existing code = 1 ∧ source ∈ existing ∧
      source.2.appSetupCode = some code := by
  obtain ⟨code, hprobed, h⟩ := Option.bind_eq_some_iff.mp h
  obtain ⟨⟨hprobes, hstored⟩, h⟩ := Option.ite_none_right_eq_some.mp h
  exact ⟨code, hprobed, hprobes, hstored, List.mem_of_find?_eq_some h,
    by simpa using List.find?_some h⟩

theorem codeMatch_of_mem (hprobed : probedCode probes slave = some code)
    (hprobes : probedCount slaves probes code = 1) (hstored : storedCount existing code = 1)
    (hmem : source ∈ existing) (hcode : source.2.appSetupCode = some code) :
    codeMatch slaves probes existing slave = some source := by
  have hfind : existing.find? (fun entry => entry.2.appSetupCode = some code) = some source := by
    rcases hfound : existing.find? (fun entry => entry.2.appSetupCode = some code) with _ | found
    · have := List.find?_eq_none.mp hfound source hmem
      simp [hcode] at this
    · exact hfound.trans <| congrArg some <|
        eq_of_countP_eq_one hstored (List.mem_of_find?_eq_some hfound) hmem
          (by simpa using List.find?_some hfound) (by simpa using hcode)
  simp [codeMatch, hprobed, hprobes, hstored, hfind]

/-- The stored room, with its old address, that a unit is matched to. -/
def Matches (slaves : List ℕ) (probes : List (ℕ × UnitProbeResult))
    (existing : List (ℕ × UnitRoom)) (slave : ℕ) (source : ℕ × UnitRoom) : Prop :=
  codeMatch slaves probes existing slave = some source ∨
    (codeMatch slaves probes existing slave = none ∧
      (∀ other ∈ slaves, ∀ entry, codeMatch slaves probes existing other = some entry →
        entry.1 ≠ slave) ∧
      existing.lookup slave = some source.2 ∧ source.1 = slave)

theorem mem_matchExistingRooms : (slave, room) ∈ matchExistingRooms slaves probes existing ↔
    slave ∈ slaves ∧ ∃ source, Matches slaves probes existing slave source ∧
      room = { source.2 with slave := slave } := by
  -- The code pass is a list of pairs; everything below speaks of it through its members.
  have hmatched : ∀ other source, (other, source) ∈ (slaves.filterMap fun slave =>
      (codeMatch slaves probes existing slave).map fun entry => (slave, entry)) ↔
        other ∈ slaves ∧ codeMatch slaves probes existing other = some source := by
    intro other source
    simp only [List.mem_filterMap, Option.map_eq_some_iff, Prod.mk.injEq]
    constructor
    · rintro ⟨_, hmem, _, hsource, rfl, rfl⟩
      exact ⟨hmem, hsource⟩
    · rintro ⟨hmem, hsource⟩
      exact ⟨other, hmem, source, hsource, rfl, rfl⟩
  unfold matchExistingRooms
  dsimp only
  generalize (slaves.filterMap fun slave =>
    (codeMatch slaves probes existing slave).map fun entry => (slave, entry)) = matched at *
  rw [List.mem_append, List.mem_map, List.mem_filterMap]
  constructor
  · rintro (⟨⟨found, source⟩, hsource, heq⟩ | ⟨found, hfound, h⟩)
    · cases heq
      obtain ⟨hmem, hsource⟩ := (hmatched _ _).mp hsource
      exact ⟨hmem, source, .inl hsource, rfl⟩
    · obtain ⟨⟨hnot, hclaimed⟩, h⟩ := Option.ite_none_right_eq_some.mp h
      obtain ⟨stored, hstored, heq⟩ := Option.map_eq_some_iff.mp h
      cases heq
      refine ⟨hfound, (_, stored), .inr ⟨?_, ?_, hstored, rfl⟩, rfl⟩
      · -- Had the code matched, the slave would be among the pairs and out of the address pass.
        rw [Option.eq_none_iff_forall_ne_some]
        intro source hsource
        exact hnot (List.mem_map.mpr ⟨(_, source), (hmatched _ _).mpr ⟨hfound, hsource⟩, rfl⟩)
      · intro other hother entry hentry heq
        exact hclaimed (List.mem_map.mpr
          ⟨(other, entry), (hmatched _ _).mpr ⟨hother, hentry⟩, heq⟩)
  · rintro ⟨hslave, source, hsource | ⟨hnone, hclaimed, hstored, -⟩, rfl⟩
    · exact .inl ⟨(slave, source), (hmatched _ _).mpr ⟨hslave, hsource⟩, rfl⟩
    · refine .inr ⟨slave, hslave, ?_⟩
      rw [if_pos, hstored, Option.map_some]
      constructor
      · intro hmem
        obtain ⟨⟨other, entry⟩, hentry, rfl⟩ := List.mem_map.mp hmem
        rw [((hmatched _ _).mp hentry).2] at hnone
        cases hnone
      · intro hmem
        obtain ⟨⟨other, entry⟩, hentry, heq⟩ := List.mem_map.mp hmem
        obtain ⟨hother, hentry⟩ := (hmatched _ _).mp hentry
        exact hclaimed other hother entry hentry heq

theorem Matches.unique (h : Matches slaves probes existing slave source)
    (h' : Matches slaves probes existing slave source') : source = source' := by
  rcases h with h | ⟨hnone, -, hstored, hold⟩ <;> rcases h' with h' | ⟨hnone', -, hstored', hold'⟩
  · exact Option.some.inj (h.symm.trans h')
  · rw [hnone'] at h
    cases h
  · rw [hnone] at h'
    cases h'
  · exact Prod.ext (hold.trans hold'.symm) (Option.some.inj (hstored.symm.trans hstored'))

theorem functional_matchExistingRooms :
    Functional (matchExistingRooms slaves probes existing) := by
  intro slave room room' h h'
  obtain ⟨-, source, hsource, rfl⟩ := mem_matchExistingRooms.mp h
  obtain ⟨-, source', hsource', rfl⟩ := mem_matchExistingRooms.mp h'
  rw [hsource.unique hsource']

theorem Matches.mem (hexisting : Functional existing)
    (h : Matches slaves probes existing slave source) : source ∈ existing := by
  rcases h with h | ⟨-, -, hstored, hold⟩
  · obtain ⟨-, -, -, -, hmem, -⟩ := codeMatch_eq_some h
    exact hmem
  · have := hexisting.lookup_eq_some_iff.mp hstored
    rwa [← hold] at this

/-- A matched room has the address it is matched to. -/
theorem eq_of_mem_matchExistingRooms
    (h : (slave, room) ∈ matchExistingRooms slaves probes existing) :
    room = { room with slave := slave } := by
  obtain ⟨-, source, -, rfl⟩ := mem_matchExistingRooms.mp h
  rfl

/-- If a second matching finds the codes where the first has put them, it finds the same rooms. -/
theorem mem_matchExistingRooms_twice
    (h : ∀ slave ∈ slaves, ∀ source, codeMatch slaves probes
      (matchExistingRooms slaves probes existing) slave = some source → source.1 = slave)
    (entry : ℕ × UnitRoom) :
    entry ∈ matchExistingRooms slaves probes (matchExistingRooms slaves probes existing) ↔
      entry ∈ matchExistingRooms slaves probes existing := by
  obtain ⟨slave, room⟩ := entry
  have hfunctional : Functional (matchExistingRooms slaves probes existing) :=
    functional_matchExistingRooms
  constructor
  · intro hmem
    obtain ⟨hslave, ⟨old, room⟩, hmatch, rfl⟩ := mem_matchExistingRooms.mp hmem
    have hentry := hmatch.mem hfunctional
    have hhere : old = slave := by
      rcases hmatch with hcode | ⟨-, -, -, hhere⟩
      · exact h slave hslave _ hcode
      · exact hhere
    subst hhere
    rwa [← eq_of_mem_matchExistingRooms hentry]
  · intro hmem
    have hslave := (mem_matchExistingRooms.mp hmem).1
    refine mem_matchExistingRooms.mpr
      ⟨hslave, (slave, room), ?_, eq_of_mem_matchExistingRooms hmem⟩
    rcases hcode : codeMatch slaves probes (matchExistingRooms slaves probes existing) slave with
      _ | ⟨old, found⟩
    · -- A slave whose code is found at this address is this one, and it has no code match.
      refine .inr ⟨hcode, fun other hother source hsource heq => ?_,
        hfunctional.lookup_eq_some_iff.mpr hmem, rfl⟩
      obtain rfl := (h other hother source hsource).symm.trans heq
      rw [hcode] at hsource
      cases hsource
    · obtain rfl := h slave hslave _ hcode
      obtain ⟨-, -, -, -, hentry, -⟩ := codeMatch_eq_some hcode
      rw [hfunctional _ room found hmem hentry]
      exact .inl hcode

/-- **No stored room is matched to two units.** -/
theorem Matches.injective (hexisting : Functional existing) (hslave : slave ∈ slaves)
    (hother : other ∈ slaves) (h : Matches slaves probes existing slave source)
    (h' : Matches slaves probes existing other source') (hold : source.1 = source'.1) :
    slave = other := by
  have hsame : source = source' := by
    have hmem := h.mem hexisting
    have hmem' := h'.mem hexisting
    refine Prod.ext hold (hexisting source.1 _ _ hmem ?_)
    rw [hold]
    exact hmem'
  subst hsame
  rcases h with h | ⟨hnone, hclaimed, -, hhere⟩ <;>
    rcases h' with h' | ⟨hnone', hclaimed', -, hthere⟩
  · obtain ⟨code, hprobed, hcount, -, -, hcode⟩ := codeMatch_eq_some h
    obtain ⟨code', hprobed', -, -, -, hcode'⟩ := codeMatch_eq_some h'
    obtain rfl : code = code' := Option.some.inj (hcode.symm.trans hcode')
    exact eq_of_countP_eq_one hcount hslave hother (by simpa using hprobed)
      (by simpa using hprobed')
  · exact absurd hthere (hclaimed' slave hslave source h)
  · exact absurd hhere (hclaimed other hother source h')
  · exact hhere.symm.trans hthere

end Matching

/-! ### Taking the subentries out by key -/

section Pop

variable {rooms : List UnitRoom} {room : UnitRoom} {subentries : List UnitSubentry}
  {subentry : UnitSubentry}

theorem popSubentries_snd : (popSubentries rooms subentries).2 =
    subentries.filter (·.room.key ∉ rooms.map (·.key)) := by
  induction rooms generalizing subentries with
  | nil => simp [popSubentries]
  | cons room rooms ih =>
    rw [popSubentries, ih, List.filter_filter]
    refine List.filter_congr fun subentry _ => Bool.eq_iff_iff.mpr ?_
    rw [Bool.and_eq_true, decide_eq_true_iff, decide_eq_true_iff, decide_eq_true_iff,
      List.map_cons, List.mem_cons, not_or, and_comm]

/-- A room takes out a subentry with its key. -/
theorem of_mem_popSubentries (h : (some subentry, room) ∈ (popSubentries rooms subentries).1) :
    subentry ∈ subentries ∧ room ∈ rooms ∧ subentry.room.key = room.key := by
  induction rooms generalizing subentries with
  | nil => cases h
  | cons first rooms ih =>
    rcases List.mem_cons.mp h with heq | hmem
    · obtain ⟨hfound, rfl⟩ := Prod.mk.inj heq
      exact ⟨List.mem_of_find?_eq_some hfound.symm, List.mem_cons_self,
        by simpa using List.find?_some hfound.symm⟩
    · obtain ⟨hsub, hroom, hkey⟩ := ih hmem
      exact ⟨(List.mem_filter.mp hsub).1, List.mem_cons_of_mem _ hroom, hkey⟩

/-- Each subentry whose key is among those of the rooms is taken out. -/
theorem exists_mem_popSubentries (hkeys : (subentries.map (·.room.key)).Nodup)
    (hmem : subentry ∈ subentries) (hkey : subentry.room.key ∈ rooms.map (·.key)) :
    ∃ room, (some subentry, room) ∈ (popSubentries rooms subentries).1 := by
  induction rooms generalizing subentries with
  | nil => cases hkey
  | cons first rooms ih =>
    by_cases hfirst : subentry.room.key = first.key
    · refine ⟨first, List.mem_cons.mpr (.inl ?_)⟩
      rcases hfound : subentries.find? (·.room.key = first.key) with _ | found
      · have := List.find?_eq_none.mp hfound subentry hmem
        simp [hfirst] at this
      · have hsame : found.room.key = subentry.room.key := by
          rw [hfirst]
          simpa using List.find?_some hfound
        rw [hfound, List.inj_on_of_nodup_map hkeys (List.mem_of_find?_eq_some hfound) hmem hsame]
    · obtain ⟨room, hroom⟩ : ∃ room, (some subentry, room) ∈
          (popSubentries rooms (subentries.filter (·.room.key ≠ first.key))).1 :=
        ih (hkeys.sublist (List.filter_sublist.map _))
          (List.mem_filter.mpr ⟨hmem, by simpa using hfirst⟩)
          ((List.mem_cons.mp hkey).resolve_left hfirst)
      exact ⟨room, List.mem_cons_of_mem _ hroom⟩

end Pop

/-! ### The promise of a rescan -/

section Promise

variable (slaves : List ℕ) (selectedProfiles : ℕ → Profile)
  (probes : List (ℕ × UnitProbeResult)) (subentries : List UnitSubentry)

/-- The room of a stored unit is assigned to an address. -/
def AssignedTo (subentry : UnitSubentry) (slave : ℕ) : Prop :=
  (slave, { subentry.room with slave := slave }) ∈ rescannedRooms slaves probes subentries

/-- **A rescan is exact**: it removes what it announces, and that is what it has not found; it
updates each other unit, by the data of the address that its room is assigned to. -/
structure RescanExact : Prop where
  stale : ∀ subentry ∈ subentries,
    subentry ∈ staleSubentries slaves selectedProfiles probes subentries ↔
      ∀ slave, ¬ AssignedTo slaves probes subentries subentry slave
  removed : (saveProfiles slaves selectedProfiles probes subentries).removed =
    staleSubentries slaves selectedProfiles probes subentries
  updated : ∀ subentry ∈ subentries,
    subentry ∉ staleSubentries slaves selectedProfiles probes subentries →
      (∃ after, (subentry, after) ∈
        (saveProfiles slaves selectedProfiles probes subentries).updated) ∧
      ∀ after, (subentry, after) ∈
        (saveProfiles slaves selectedProfiles probes subentries).updated →
          AssignedTo slaves probes subentries subentry after.room.slave

/-- A code that only one of the found units is stored with was probed there, if it was
probed at one address and is stored more than once. -/
def CodesSettled : Prop :=
  ∀ slave ∈ slaves, ∀ code, probedCode probes slave = some code →
    probedCount slaves probes code = 1 → storedCount (unitRooms subentries) code ≠ 1 →
      storedCount (rescannedRooms slaves probes subentries) code = 1 →
        ∀ entry ∈ rescannedRooms slaves probes subentries,
          entry.2.appSetupCode = some code → entry.1 = slave

/-- When the keys do not get in the way of a rescan. -/
structure RescanSafe : Prop where
  /-- No unit that was found has an empty key. -/
  keyed : ∀ entry ∈ rescannedRooms slaves probes subentries, entry.2.key ≠ ""
  settled : CodesSettled slaves probes subentries
  /-- The key of a stored unit that was not found is not tried for a new unit, since one that
  is tried earlier belongs to no found unit. -/
  fresh : ∀ slave ∈ slaves, (∀ room, (slave, room) ∉ rescannedRooms slaves probes subentries) →
    ∀ subentry ∈ subentries, (∀ other, ¬ AssignedTo slaves probes subentries subentry other) →
      ∀ n, subentry.room.key = suffixedKey (slaveKey slave) n →
        ∃ m < n, ∀ entry ∈ rescannedRooms slaves probes subentries,
          entry.2.key ≠ suffixedKey (slaveKey slave) m

end Promise

section Rescan

variable {slaves : List ℕ} {selectedProfiles : ℕ → Profile}
  {probes : List (ℕ × UnitProbeResult)} {subentries : List UnitSubentry}
  {subentry other : UnitSubentry} {slave slave' : ℕ} {room : UnitRoom}

theorem functional_unitRooms (haddresses : (subentries.map (·.room.slave)).Nodup) :
    Functional (unitRooms subentries) := by
  intro slave room room' h h'
  obtain ⟨subentry, hmem, heq⟩ := List.mem_map.mp h
  obtain ⟨other, hmem', heq'⟩ := List.mem_map.mp h'
  cases heq
  obtain ⟨hslave, rfl⟩ := Prod.mk.inj heq'
  rw [List.inj_on_of_nodup_map haddresses hmem hmem' hslave.symm]

/-- A matched room is the room of a stored unit at its new address. -/
theorem exists_assignedTo (haddresses : (subentries.map (·.room.slave)).Nodup)
    (h : (slave, room) ∈ rescannedRooms slaves probes subentries) :
    ∃ subentry ∈ subentries, AssignedTo slaves probes subentries subentry slave ∧
      room = { subentry.room with slave := slave } := by
  obtain ⟨-, source, hsource, rfl⟩ := mem_matchExistingRooms.mp h
  obtain ⟨subentry, hmem, rfl⟩ := List.mem_map.mp (hsource.mem (functional_unitRooms haddresses))
  exact ⟨subentry, hmem, h, rfl⟩

/-- A stored unit is assigned to one address. -/
theorem AssignedTo.unique (hkeys : (subentries.map (·.room.key)).Nodup)
    (haddresses : (subentries.map (·.room.slave)).Nodup)
    (h : AssignedTo slaves probes subentries subentry slave)
    (h' : AssignedTo slaves probes subentries subentry slave') : slave = slave' := by
  obtain ⟨hslave, source, hsource, hroom⟩ := mem_matchExistingRooms.mp h
  obtain ⟨hslave', source', hsource', hroom'⟩ := mem_matchExistingRooms.mp h'
  have hexisting := functional_unitRooms haddresses
  obtain ⟨stored, hstored, rfl⟩ := List.mem_map.mp (hsource.mem hexisting)
  obtain ⟨stored', hstored', rfl⟩ := List.mem_map.mp (hsource'.mem hexisting)
  have hkey : stored.room.key = subentry.room.key :=
    (congrArg UnitRoom.key hroom).symm
  have hkey' : stored'.room.key = subentry.room.key :=
    (congrArg UnitRoom.key hroom').symm
  obtain rfl := List.inj_on_of_nodup_map hkeys hstored hstored' (hkey.trans hkey'.symm)
  exact hsource.injective hexisting hslave hslave' hsource' rfl

/-- The matched rooms have proper keys, as far as these are not empty. -/
theorem properKeys_rescannedRooms (hkeys : (subentries.map (·.room.key)).Nodup)
    (haddresses : (subentries.map (·.room.slave)).Nodup)
    (hkeyed : ∀ entry ∈ rescannedRooms slaves probes subentries, entry.2.key ≠ "") :
    ProperKeys (rescannedRooms slaves probes subentries) where
  functional := functional_matchExistingRooms
  keyed := hkeyed
  distinct := by
    rintro ⟨slave, room⟩ h ⟨slave', room'⟩ h' hkey
    obtain ⟨subentry, hmem, hassigned, rfl⟩ := exists_assignedTo haddresses h
    obtain ⟨other, hmem', hassigned', rfl⟩ := exists_assignedTo haddresses h'
    obtain rfl := List.inj_on_of_nodup_map hkeys hmem hmem' hkey
    exact hassigned.unique hkeys haddresses hassigned'

/-! ### The second matching -/

/-- The rooms that `build_rooms_from_profiles` matches to the addresses. -/
def rematchedRooms (slaves : List ℕ) (probes : List (ℕ × UnitProbeResult))
    (subentries : List UnitSubentry) : List (ℕ × UnitRoom) :=
  matchExistingRooms slaves probes (rescannedRooms slaves probes subentries)

/-- Each room after the second matching is a matched one, perhaps at another address. -/
theorem exists_mem_rescannedRooms (h : (slave, room) ∈ rematchedRooms slaves probes subentries) :
    ∃ entry ∈ rescannedRooms slaves probes subentries,
      Matches slaves probes (rescannedRooms slaves probes subentries) slave entry ∧
        room = { entry.2 with slave := slave } := by
  obtain ⟨-, entry, hentry, rfl⟩ := mem_matchExistingRooms.mp h
  exact ⟨entry, hentry.mem functional_matchExistingRooms, hentry, rfl⟩

/-- The second matching keeps the keys proper. -/
theorem properKeys_rematchedRooms (h : ProperKeys (rescannedRooms slaves probes subentries)) :
    ProperKeys (rematchedRooms slaves probes subentries) where
  functional := functional_matchExistingRooms
  keyed := by
    rintro ⟨slave, room⟩ hmem
    obtain ⟨entry, hentry, -, rfl⟩ := exists_mem_rescannedRooms hmem
    exact h.keyed entry hentry
  distinct := by
    rintro ⟨slave, room⟩ hmem ⟨slave', room'⟩ hmem' hkey
    obtain ⟨entry, hentry, hmatch, rfl⟩ := exists_mem_rescannedRooms hmem
    obtain ⟨entry', hentry', hmatch', rfl⟩ := exists_mem_rescannedRooms hmem'
    exact hmatch.injective functional_matchExistingRooms (mem_matchExistingRooms.mp hmem).1
      (mem_matchExistingRooms.mp hmem').1 hmatch' (h.distinct entry hentry entry' hentry' hkey)

/-- If the codes are settled, the second matching finds them where the first has put them. -/
theorem CodesSettled.codeMatch_eq (h : CodesSettled slaves probes subentries)
    (hkeys : (subentries.map (·.room.key)).Nodup)
    (haddresses : (subentries.map (·.room.slave)).Nodup) (hslave : slave ∈ slaves)
    {entry : ℕ × UnitRoom}
    (hentry : codeMatch slaves probes (rescannedRooms slaves probes subentries) slave =
      some entry) : entry.1 = slave := by
  obtain ⟨code, hprobed, hprobes, hstored, hmem, hcode⟩ := codeMatch_eq_some hentry
  by_cases honce : storedCount (unitRooms subentries) code = 1
  · obtain ⟨subentry, hsub, hassigned, hroom⟩ := exists_assignedTo haddresses hmem
    have hsame : subentry.room.appSetupCode = some code := by
      rw [← hcode, hroom]
    have hfound : codeMatch slaves probes (unitRooms subentries) slave =
        some (subentry.room.slave, subentry.room) :=
      codeMatch_of_mem hprobed hprobes honce (List.mem_map.mpr ⟨subentry, hsub, rfl⟩) hsame
    exact hassigned.unique hkeys haddresses
      (mem_matchExistingRooms.mpr ⟨hslave, _, .inl hfound, rfl⟩)
  · exact h slave hslave code hprobed hprobes honce hstored entry hmem hcode

/-- **If the codes are settled, the second matching changes nothing.** -/
theorem CodesSettled.mem_rematchedRooms (h : CodesSettled slaves probes subentries)
    (hkeys : (subentries.map (·.room.key)).Nodup)
    (haddresses : (subentries.map (·.room.slave)).Nodup) (entry : ℕ × UnitRoom) :
    entry ∈ rematchedRooms slaves probes subentries ↔
      entry ∈ rescannedRooms slaves probes subentries :=
  mem_matchExistingRooms_twice
    (fun _ hslave _ => h.codeMatch_eq hkeys haddresses hslave) entry

/-! ### The rooms that are built -/

/-- The rooms of a rescan. -/
def builtRooms (slaves : List ℕ) (selectedProfiles : ℕ → Profile)
    (probes : List (ℕ × UnitProbeResult)) (subentries : List UnitSubentry) : List UnitRoom :=
  buildRoomsFromProfiles slaves selectedProfiles probes (rescannedRooms slaves probes subentries)

/-- **The address and the key of each room of a rescan**, unless a matched key is empty. -/
theorem mem_builtRooms (hslaves : slaves.Nodup)
    (h : ProperKeys (rescannedRooms slaves probes subentries)) {key : String} :
    (∃ room ∈ builtRooms slaves selectedProfiles probes subentries,
        room.slave = slave ∧ room.key = key) ↔
      slave ∈ slaves ∧ key = builtKey (rematchedRooms slaves probes subentries) slave := by
  have hmap : (buildRooms selectedProfiles probes (rematchedRooms slaves probes subentries) slaves
      [] ((rematchedRooms slaves probes subentries).map (·.2.name))).map
        (fun room => (room.slave, room.key)) =
      slaves.map fun slave =>
        (slave, builtKey (rematchedRooms slaves probes subentries) slave) :=
    (properKeys_rematchedRooms h).map_key_buildRooms hslaves nofun
  have hleft : (∃ room ∈ builtRooms slaves selectedProfiles probes subentries,
      room.slave = slave ∧ room.key = key) ↔
        (slave, key) ∈ (builtRooms slaves selectedProfiles probes subentries).map
          fun room => (room.slave, room.key) := by
    simp only [List.mem_map, Prod.mk.injEq]
  rw [hleft, builtRooms, buildRoomsFromProfiles]
  simp only [rematchedRooms] at hmap
  rw [hmap]
  simp only [List.mem_map, Prod.mk.injEq, rematchedRooms]
  constructor
  · rintro ⟨_, hmem, rfl, rfl⟩
    exact ⟨hmem, rfl⟩
  · rintro ⟨hmem, rfl⟩
    exact ⟨slave, hmem, rfl, rfl⟩

theorem mem_staleSubentries :
    subentry ∈ staleSubentries slaves selectedProfiles probes subentries ↔
      subentry ∈ subentries ∧ ∀ room ∈ builtRooms slaves selectedProfiles probes subentries,
        room.key ≠ subentry.room.key := by
  simp only [staleSubentries, builtRooms, List.mem_filter, List.mem_map, not_exists, not_and,
    decide_eq_true_eq]

/-- What saving removes is what has been announced. -/
theorem removed_saveProfiles : (saveProfiles slaves selectedProfiles probes subentries).removed =
    staleSubentries slaves selectedProfiles probes subentries :=
  popSubentries_snd

/-- An update takes the data of a room with the key of the subentry. -/
theorem of_mem_updated {after : UnitSubentry}
    (h : (subentry, after) ∈ (saveProfiles slaves selectedProfiles probes subentries).updated) :
    ∃ room ∈ builtRooms slaves selectedProfiles probes subentries,
      subentry ∈ subentries ∧ subentry.room.key = room.key ∧ after = subentry.updatedBy room := by
  obtain ⟨⟨existing, room⟩, hkept, hexisting⟩ := List.mem_filterMap.mp h
  obtain ⟨found, rfl, hfound⟩ := Option.map_eq_some_iff.mp hexisting
  obtain ⟨rfl, rfl⟩ := Prod.mk.inj hfound
  obtain ⟨hsub, hroom, hkey⟩ := of_mem_popSubentries hkept
  exact ⟨room, hroom, hsub, hkey, rfl⟩

theorem exists_mem_updated (hkeys : (subentries.map (·.room.key)).Nodup)
    (hmem : subentry ∈ subentries)
    (hnot : subentry ∉ staleSubentries slaves selectedProfiles probes subentries) :
    ∃ after, (subentry, after) ∈
      (saveProfiles slaves selectedProfiles probes subentries).updated := by
  have hkey : subentry.room.key ∈
      (builtRooms slaves selectedProfiles probes subentries).map (·.key) := by
    rw [mem_staleSubentries] at hnot
    push Not at hnot
    obtain ⟨room, hroom, heq⟩ := hnot hmem
    exact List.mem_map.mpr ⟨room, hroom, heq⟩
  obtain ⟨room, hroom⟩ := exists_mem_popSubentries hkeys hmem hkey
  exact ⟨subentry.updatedBy room, List.mem_filterMap.mpr ⟨_, hroom, rfl⟩⟩

/-! ### When a rescan is exact -/

section Exact

variable (hslaves : slaves.Nodup) (hkeys : (subentries.map (·.room.key)).Nodup)
  (haddresses : (subentries.map (·.room.slave)).Nodup)
include hslaves hkeys haddresses

/-- If the codes are settled, the key of each room is that of the first matching. -/
theorem CodesSettled.mem_builtRooms (h : CodesSettled slaves probes subentries)
    (hkeyed : ∀ entry ∈ rescannedRooms slaves probes subentries, entry.2.key ≠ "")
    {key : String} :
    (∃ room ∈ builtRooms slaves selectedProfiles probes subentries,
        room.slave = slave ∧ room.key = key) ↔
      slave ∈ slaves ∧ key = builtKey (rescannedRooms slaves probes subentries) slave := by
  have hsame : builtKey (rematchedRooms slaves probes subentries) slave =
      builtKey (rescannedRooms slaves probes subentries) slave :=
    builtKey_congr functional_matchExistingRooms functional_matchExistingRooms
      (h.mem_rematchedRooms hkeys haddresses) slave
  rw [MeltemVentilation.mem_builtRooms hslaves
    (properKeys_rescannedRooms hkeys haddresses hkeyed), hsame]

/-- **A safe rescan updates nothing but found units, at their addresses.** -/
theorem RescanSafe.assignedTo (h : RescanSafe slaves probes subentries)
    (hroom : room ∈ builtRooms slaves selectedProfiles probes subentries)
    (hmem : subentry ∈ subentries) (hkey : subentry.room.key = room.key) :
    AssignedTo slaves probes subentries subentry room.slave := by
  obtain ⟨hslave, hbuilt⟩ := (h.settled.mem_builtRooms hslaves hkeys haddresses h.keyed).mp
    ⟨room, hroom, rfl, rfl⟩
  have hfunctional : Functional (rescannedRooms slaves probes subentries) :=
    functional_matchExistingRooms
  rcases hlookup : (rescannedRooms slaves probes subentries).lookup room.slave with _ | found
  · by_contra hno
    rw [builtKey_of_none hlookup] at hbuilt
    obtain ⟨n, hn, hfree, hbefore⟩ := firstFree_spec (suffixedKey_injective (slaveKey room.slave))
      ((rescannedRooms slaves probes subentries).map (·.2.key))
    have hnotFound : ∀ other, ¬ AssignedTo slaves probes subentries subentry other := by
      intro other hassigned
      refine hfree ?_
      rw [← hn, ← hbuilt, ← hkey]
      exact List.mem_map.mpr ⟨_, hassigned, rfl⟩
    obtain ⟨m, hlt, hunused⟩ := h.fresh room.slave hslave
      (hfunctional.lookup_eq_none_iff.mp hlookup) subentry hmem hnotFound n
      (hkey.trans (hbuilt.trans hn))
    obtain ⟨entry, hentry, hentryKey⟩ := List.mem_map.mp (hbefore m hlt)
    exact hunused entry hentry hentryKey
  · rw [builtKey_of_lookup hlookup] at hbuilt
    obtain ⟨other, hother, hassigned, rfl⟩ :=
      exists_assignedTo haddresses (hfunctional.lookup_eq_some_iff.mp hlookup)
    rwa [List.inj_on_of_nodup_map hkeys hmem hother (hkey.trans hbuilt)]

/-- **A safe rescan is exact.** -/
theorem RescanSafe.exact (h : RescanSafe slaves probes subentries) :
    RescanExact slaves selectedProfiles probes subentries where
  stale := by
    intro subentry hmem
    rw [mem_staleSubentries]
    constructor
    · rintro ⟨-, hstale⟩ slave hassigned
      have hfunctional : Functional (rescannedRooms slaves probes subentries) :=
        functional_matchExistingRooms
      have hlookup := hfunctional.lookup_eq_some_iff.mpr hassigned
      obtain ⟨room, hroom, -, hkey⟩ :=
        (h.settled.mem_builtRooms hslaves hkeys haddresses h.keyed).mpr
          ⟨(mem_matchExistingRooms.mp hassigned).1, (builtKey_of_lookup hlookup).symm⟩
      exact hstale room hroom hkey
    · intro hnotFound
      refine ⟨hmem, fun room hroom hkey => ?_⟩
      exact hnotFound _ (h.assignedTo hslaves hkeys haddresses hroom hmem hkey.symm)
  removed := removed_saveProfiles
  updated := by
    intro subentry hmem hnot
    refine ⟨exists_mem_updated hkeys hmem hnot, fun after hafter => ?_⟩
    obtain ⟨room, hroom, -, hkey, rfl⟩ := of_mem_updated hafter
    show AssignedTo slaves probes subentries subentry room.slave
    exact RescanSafe.assignedTo hslaves hkeys haddresses h hroom hmem hkey

/-- **An exact rescan is safe.** -/
theorem RescanExact.safe (h : RescanExact slaves selectedProfiles probes subentries) :
    RescanSafe slaves probes subentries := by
  have hfunctional : Functional (rescannedRooms slaves probes subentries) :=
    functional_matchExistingRooms
  -- An empty key is never built, so its subentry would be stale although it was found.
  have hkeyed : ∀ entry ∈ rescannedRooms slaves probes subentries, entry.2.key ≠ "" := by
    rintro ⟨slave, room⟩ hentry hempty
    obtain ⟨subentry, hmem, hassigned, rfl⟩ := exists_assignedTo haddresses hentry
    refine (h.stale subentry hmem).mp ?_ slave hassigned
    refine mem_staleSubentries.mpr ⟨hmem, fun room hroom hkey => ?_⟩
    exact key_ne_empty_of_mem_buildRooms hroom (hkey.trans hempty)
  have hproper := properKeys_rescannedRooms hkeys haddresses hkeyed
  have hsettled : CodesSettled slaves probes subentries := by
    intro slave hslave code hprobed hprobes _ hstored entry hentry hcode
    obtain ⟨subentry, hmem, hassigned, hroom⟩ := exists_assignedTo haddresses hentry
    have hnot : subentry ∉ staleSubentries slaves selectedProfiles probes subentries :=
      fun hstale => (h.stale subentry hmem).mp hstale entry.1 hassigned
    -- The subentry of that code is updated for the slave it is built at, which is its own.
    obtain ⟨⟨after, hafter⟩, hupdated⟩ := h.updated subentry hmem hnot
    obtain ⟨room, hbuilt, -, hkey, rfl⟩ := of_mem_updated hafter
    have hfound := codeMatch_of_mem hprobed hprobes hstored hentry hcode
    have hlookup := (properKeys_rematchedRooms hproper).functional.lookup_eq_some_iff.mpr
      (mem_matchExistingRooms.mpr ⟨hslave, entry, .inl hfound, rfl⟩)
    obtain ⟨-, hbuiltKey⟩ := (mem_builtRooms hslaves hproper).mp ⟨room, hbuilt, rfl, rfl⟩
    have hhere : room.slave = slave := by
      refine (properKeys_rematchedRooms hproper).builtKey_inj ?_
      rw [← hbuiltKey, builtKey_of_lookup hlookup, ← hkey, hroom]
    rw [← hhere]
    exact hassigned.unique hkeys haddresses (hupdated _ hafter)
  refine ⟨hkeyed, hsettled, fun slave hslave hnew subentry hmem hnotFound n hkey => ?_⟩
  by_contra hall
  push Not at hall
  have hstale := (h.stale subentry hmem).mpr hnotFound
  -- The new slave would take over the first free key, which is that of the subentry.
  have hbuiltKey : builtKey (rescannedRooms slaves probes subentries) slave =
      subentry.room.key := by
    rw [builtKey_of_none (hfunctional.lookup_eq_none_iff.mpr hnew), hkey,
      firstFree_eq_iff (suffixedKey_injective _)]
    constructor
    · rw [← hkey]
      intro htaken
      obtain ⟨entry, hentry, hentryKey⟩ := List.mem_map.mp htaken
      obtain ⟨other, hother, hassigned, hroom⟩ := exists_assignedTo haddresses hentry
      obtain rfl := List.inj_on_of_nodup_map hkeys hother hmem (by rw [← hentryKey, hroom])
      exact hnotFound _ hassigned
    · intro m hlt
      obtain ⟨entry, hentry, hentryKey⟩ := hall m hlt
      exact List.mem_map.mpr ⟨entry, hentry, hentryKey⟩
  obtain ⟨room, hroom, -, hroomKey⟩ := (hsettled.mem_builtRooms hslaves hkeys haddresses
    hkeyed).mpr ⟨hslave, hbuiltKey.symm⟩
  exact (mem_staleSubentries.mp hstale).2 room hroom hroomKey

/-- **When a rescan removes exactly what it did not find**: stored units with distinct keys
and addresses, distinct addresses found, any probe results and any profiles. -/
theorem rescanExact_iff : RescanExact slaves selectedProfiles probes subentries ↔
    RescanSafe slaves probes subentries :=
  ⟨RescanExact.safe hslaves hkeys haddresses, RescanSafe.exact hslaves hkeys haddresses⟩

end Exact

end Rescan

/-! ### Two rescans -/

/-- A stored unit that was added at address 5 and has been at address 2 since a rescan. -/
def movedUnit : UnitSubentry where
  room := { key := "slave_5", name := "Bedroom", slave := 2, profile := .sFc }
  uniqueId := some "2"

/-- A stored unit that has been moved since, which its setup code gives away. -/
def recodedUnit : UnitSubentry where
  room := { key := "slave_3", name := "Kitchen", slave := 3, profile := .sFc,
            appSetupCode := some "R00AB12" }
  uniqueId := some "3"

/-- A stored unit that is not found. -/
def missingUnit : UnitSubentry where
  room := { key := "slave_4", name := "Attic", slave := 4, profile := .sFc }
  uniqueId := some "4"

/-- One unit is found at its address, one is found at a new address by its code, one is not found,
and one is new: exactly the third is removed. -/
theorem rescanExact_iff_movedUnits :
    RescanExact [2, 6, 9] (fun _ => .sFc) [(6, { appSetupCode := some "R00AB12" })]
        [movedUnit, recodedUnit, missingUnit] ∧
      staleSubentries [2, 6, 9] (fun _ => .sFc) [(6, { appSetupCode := some "R00AB12" })]
        [movedUnit, recodedUnit, missingUnit] = [missingUnit] := by
  have hfound : rescannedRooms [2, 6, 9] [(6, { appSetupCode := some "R00AB12" })]
      [movedUnit, recodedUnit, missingUnit] =
        [(6, { recodedUnit.room with slave := 6 }), (2, movedUnit.room)] := by
    decide +kernel
  refine ⟨(rescanExact_iff (by decide) (by decide) (by decide)).mpr ⟨?_, ?_, ?_⟩, by
    decide +kernel⟩
  · rw [hfound]
    decide
  · rw [CodesSettled, hfound]
    intro slave hslave code hprobed _ _ _ entry hentry hcode
    simp only [List.mem_cons, List.not_mem_nil, or_false] at hslave hentry
    rcases hslave with rfl | rfl | rfl
    · cases hprobed
    · rcases hentry with rfl | rfl
      · rfl
      · cases hcode
    · cases hprobed
  · intro slave hslave hnew subentry hmem hnotFound n hkey
    rw [hfound] at hnew
    simp only [List.mem_cons, List.not_mem_nil, or_false] at hslave hmem
    -- The unit that is not found has a key of another address than the new one.
    rcases hslave with rfl | rfl | rfl
    · exact absurd (List.mem_cons_of_mem _ List.mem_cons_self) (hnew movedUnit.room)
    · exact absurd List.mem_cons_self (hnew { recodedUnit.room with slave := 6 })
    · have hkeys : ∀ address, subentry.room.key = slaveKey address → address = 9 := by
        intro address haddress
        refine (slaveKey_inj (n := n) (m := 0) ?_).symm
        rw [← hkey, haddress, suffixedKey]
      rcases hmem with rfl | rfl | rfl
      · exact absurd (hkeys 5 (by decide +kernel)) (by decide)
      · exact absurd (hkeys 3 (by decide +kernel)) (by decide)
      · exact absurd (hkeys 4 (by decide +kernel)) (by decide)

/-- **The moved unit is not found, and a new unit is found at its first address**: the new
unit gets the key of the stored one, which is kept as if it had been found there. -/
theorem rescanExact_refuted :
    ([movedUnit].map (·.room.key)).Nodup ∧ ([movedUnit].map (·.room.slave)).Nodup ∧
      [5].Nodup ∧ rescannedRooms [5] [] [movedUnit] = [] ∧
      staleSubentries [5] (fun _ => .sFc) [] [movedUnit] = [] ∧
      ¬ RescanExact [5] (fun _ => .sFc) [] [movedUnit] := by
  have hnone : rescannedRooms [5] [] [movedUnit] = [] := by decide +kernel
  have hkept : staleSubentries [5] (fun _ => .sFc) [] [movedUnit] = [] := by decide +kernel
  refine ⟨by decide, by decide, by decide, hnone, hkept, fun h => ?_⟩
  have hstale := (h.stale movedUnit List.mem_cons_self).mpr (by simp [AssignedTo, hnone])
  rw [hkept] at hstale
  cases hstale

end MeltemVentilation
