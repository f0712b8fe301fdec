import MeltemVentilation.Rescan

/-!
# Matching rooms that are matched already

The options flow matches the stored rooms to the addresses found, shows the result, and hands
it to `build_rooms_from_profiles`, which matches it once more. The two agree as long as the
second matching changes nothing.

It can only change what a setup code says. A code that is stored for several rooms identifies
none of them, but the first matching drops the rooms that it does not find. If a single room
with that code is left, because its address was found again, the code identifies it in the
second matching, and moves it to the unit where the code was probed (`rematch_refuted`). The
condition `DuplicatesSettled` excludes just that, and by `rematch_iff` it is exact.
-/

namespace MeltemVentilation

/-! ### Rooms that stay at their address -/

section Stays

variable (slaves : List ℕ) (probes : List (ℕ × UnitProbeResult))
  (existing : List (ℕ × UnitRoom))

/-- A room with the code is stored for an address that is found, and no code identifies the
unit found there. -/
def StaysWith (code : String) (slave : ℕ) : Prop :=
  slave ∈ slaves ∧ codeMatch slaves probes existing slave = none ∧
    ∃ room, existing.lookup slave = some room ∧ room.appSetupCode = some code

/-- **No code that is stored more than once moves the only room that is left with it**: if it
is probed at one address, and a single room with it stays, that is the room of this address. -/
def DuplicatesSettled : Prop :=
  ∀ slave ∈ slaves, ∀ code, probedCode probes slave = some code →
    probedCount slaves probes code = 1 → storedCount existing code ≠ 1 →
      ∀ other, (∀ address, StaysWith slaves probes existing code address ↔ address = other) →
        other = slave

end Stays

section Rematch

variable {slaves : List ℕ} {probes : List (ℕ × UnitProbeResult)}
  {existing : List (ℕ × UnitRoom)} {slave other : ℕ} {room : UnitRoom} {code : String}

/-- The addresses of matched rooms are distinct. -/
theorem nodup_matchExistingRooms (hslaves : slaves.Nodup) :
    ((matchExistingRooms slaves probes existing).map Prod.fst).Nodup := by
  unfold matchExistingRooms
  dsimp only
  generalize hmatched : (slaves.filterMap fun slave =>
    (codeMatch slaves probes existing slave).map fun entry => (slave, entry)) = matched
  have hfirst : (matched.map Prod.fst).Nodup := by
    rw [← hmatched, List.map_filterMap]
    refine hslaves.filterMap fun a b c ha hb => ?_
    simp only [Option.map_map, Option.mem_def, Option.map_eq_some_iff] at ha hb
    obtain ⟨_, -, rfl⟩ := ha
    obtain ⟨_, -, rfl⟩ := hb
    rfl
  rw [List.map_append, List.nodup_append]
  refine ⟨by simpa [Function.comp_def] using hfirst, ?_, ?_⟩
  · rw [List.map_filterMap]
    refine hslaves.filterMap fun a b c ha hb => ?_
    simp only [Option.mem_def, Option.map_eq_some_iff, Option.ite_none_right_eq_some] at ha hb
    obtain ⟨_, ⟨-, _, -, rfl⟩, rfl⟩ := ha
    obtain ⟨_, ⟨-, _, -, rfl⟩, rfl⟩ := hb
    rfl
  · rintro address hcode _ hstays rfl
    obtain ⟨⟨_, room⟩, hmem, rfl⟩ := List.mem_map.mp hstays
    obtain ⟨found, -, h⟩ := List.mem_filterMap.mp hmem
    obtain ⟨⟨hnot, -⟩, h⟩ := Option.ite_none_right_eq_some.mp h
    obtain ⟨_, -, heq⟩ := Option.map_eq_some_iff.mp h
    cases heq
    refine hnot ?_
    simpa using hcode

/-- **The rooms with a code that identifies none of them** are those that stay. -/
theorem staysWith_iff (hexisting : Functional existing) (hstored : storedCount existing code ≠ 1) :
    StaysWith slaves probes existing code slave ↔
      ∃ room, (slave, room) ∈ matchExistingRooms slaves probes existing ∧
        room.appSetupCode = some code := by
  constructor
  · rintro ⟨hslave, hnone, room, hroom, hcode⟩
    refine ⟨{ room with slave := slave }, mem_matchExistingRooms.mpr ⟨hslave, (slave, room),
      .inr ⟨hnone, fun other hother entry hentry heq => ?_, hroom, rfl⟩, rfl⟩, hcode⟩
    obtain ⟨code', -, -, honce, hmem, hcode'⟩ := codeMatch_eq_some hentry
    obtain ⟨_, claimed⟩ := entry
    obtain rfl := heq
    obtain rfl := hexisting _ _ _ hmem (hexisting.lookup_eq_some_iff.mp hroom)
    obtain rfl : code' = code := Option.some.inj (hcode'.symm.trans hcode)
    exact hstored honce
  · rintro ⟨room, hmem, hcode⟩
    obtain ⟨hslave, source, hsource, rfl⟩ := mem_matchExistingRooms.mp hmem
    rcases hsource with hsource | ⟨hnone, -, hroom, -⟩
    · obtain ⟨code', -, -, honce, -, hcode'⟩ := codeMatch_eq_some hsource
      obtain rfl : code' = code := Option.some.inj (hcode'.symm.trans hcode)
      exact absurd honce hstored
    · exact ⟨hslave, hnone, source.2, hroom, hcode⟩

/-- A list without repetition in which one member passes a test. -/
theorem countP_eq_one_iff {α : Type} {entries : List α} {p : α → Bool} (h : entries.Nodup) :
    entries.countP p = 1 ↔ ∃ a, ∀ b, b ∈ entries ∧ p b = true ↔ b = a := by
  rw [List.countP_eq_length_filter, List.length_eq_one_iff]
  refine exists_congr fun a => ⟨fun hfilter b => ?_, fun honly => ?_⟩
  · rw [← List.mem_filter, hfilter, List.mem_singleton]
  · have hreplicate : entries.filter p = List.replicate (entries.filter p).length a :=
      List.eq_replicate_of_mem fun b hb => (honly b).mp (List.mem_filter.mp hb)
    have hle : (entries.filter p).length ≤ 1 := by
      rw [← List.nodup_replicate (a := a), ← hreplicate]
      exact h.filter p
    have hmem : a ∈ entries.filter p := List.mem_filter.mpr ((honly a).mpr rfl)
    have hpos := List.length_pos_of_mem hmem
    rw [hreplicate, le_antisymm hle hpos]
    rfl

/-- A code that identifies no stored room identifies a matched one exactly if a single room
with it stays. -/
theorem storedCount_matched (hslaves : slaves.Nodup) (hexisting : Functional existing)
    (hstored : storedCount existing code ≠ 1) :
    storedCount (matchExistingRooms slaves probes existing) code = 1 ↔
      ∃ other, ∀ address, StaysWith slaves probes existing code address ↔ address = other := by
  have hnodup : ((matchExistingRooms slaves probes existing).map Prod.fst).Nodup :=
    nodup_matchExistingRooms hslaves
  have hfunctional : Functional (matchExistingRooms slaves probes existing) :=
    functional_matchExistingRooms
  rw [storedCount, countP_eq_one_iff hnodup.of_map]
  simp only [decide_eq_true_eq]
  constructor
  · rintro ⟨⟨other, room⟩, honly⟩
    refine ⟨other, fun address => ?_⟩
    rw [staysWith_iff hexisting hstored]
    constructor
    · rintro ⟨found, hfound⟩
      exact congrArg Prod.fst ((honly (address, found)).mp hfound)
    · rintro rfl
      exact ⟨room, (honly _).mpr rfl⟩
  · rintro ⟨other, honly⟩
    obtain ⟨room, hmem, hcode⟩ := (staysWith_iff hexisting hstored).mp ((honly other).mpr rfl)
    refine ⟨(other, room), fun entry => ⟨fun hentry => ?_, ?_⟩⟩
    · obtain ⟨address, found⟩ := entry
      obtain rfl := (honly address).mp ((staysWith_iff hexisting hstored).mpr ⟨found, hentry⟩)
      rw [hfunctional _ _ _ hmem hentry.1]
    · rintro rfl
      exact ⟨hmem, hcode⟩

/-! ### The second matching -/

/-- If the duplicates are settled, a code that the second matching finds is where the first has
put it. -/
theorem DuplicatesSettled.codeMatch_eq (h : DuplicatesSettled slaves probes existing)
    (hslaves : slaves.Nodup) (hexisting : Functional existing) (hslave : slave ∈ slaves)
    {entry : ℕ × UnitRoom} (hentry : codeMatch slaves probes
      (matchExistingRooms slaves probes existing) slave = some entry) : entry.1 = slave := by
  obtain ⟨code, hprobed, hprobes, honce, hmem, hcode⟩ := codeMatch_eq_some hentry
  obtain ⟨address, room⟩ := entry
  by_cases hstored : storedCount existing code = 1
  · -- The code has identified the room before.
    obtain ⟨haddress, source, hsource, rfl⟩ := mem_matchExistingRooms.mp hmem
    have hfound : codeMatch slaves probes existing slave = some source :=
      codeMatch_of_mem hprobed hprobes hstored (hsource.mem hexisting) hcode
    exact Matches.injective hexisting haddress hslave hsource (.inl hfound) rfl
  · obtain ⟨other, honly⟩ := (storedCount_matched hslaves hexisting hstored).mp honce
    obtain rfl := h slave hslave code hprobed hprobes hstored other honly
    exact (honly address).mp ((staysWith_iff hexisting hstored).mpr ⟨room, hmem, hcode⟩)

/-- If the duplicates are settled, the second matching finds the same rooms. -/
theorem DuplicatesSettled.mem_rematched (h : DuplicatesSettled slaves probes existing)
    (hslaves : slaves.Nodup) (hexisting : Functional existing) :
    (slave, room) ∈ matchExistingRooms slaves probes (matchExistingRooms slaves probes existing) ↔
      (slave, room) ∈ matchExistingRooms slaves probes existing :=
  mem_matchExistingRooms_twice
    (fun _ hslave _ => h.codeMatch_eq hslaves hexisting hslave) (slave, room)

/-- Two dictionaries are equal if they have the same entries. -/
theorem lookup_congr {matched matched' : List (ℕ × UnitRoom)} (h : Functional matched)
    (h' : Functional matched') (hsame : ∀ slave room, (slave, room) ∈ matched ↔
      (slave, room) ∈ matched') (slave : ℕ) : matched.lookup slave = matched'.lookup slave := by
  refine Option.ext fun room => ?_
  rw [h.lookup_eq_some_iff, h'.lookup_eq_some_iff, hsame]

/-- **When matching twice is matching once**, as dictionaries from addresses to rooms: for
distinct addresses found, rooms stored for distinct addresses, and any probe results. -/
theorem rematch_iff (hslaves : slaves.Nodup) (hexisting : (existing.map Prod.fst).Nodup) :
    (∀ slave, (matchExistingRooms slaves probes
        (matchExistingRooms slaves probes existing)).lookup slave =
      (matchExistingRooms slaves probes existing).lookup slave) ↔
        DuplicatesSettled slaves probes existing := by
  have hdict : Functional existing := fun key value value' h h' =>
    congrArg Prod.snd (List.inj_on_of_nodup_map hexisting h h' rfl)
  have hfunctional : Functional (matchExistingRooms slaves probes existing) :=
    functional_matchExistingRooms
  have hfunctional' : Functional
      (matchExistingRooms slaves probes (matchExistingRooms slaves probes existing)) :=
    functional_matchExistingRooms
  refine ⟨fun hsame slave hslave code hprobed hprobes hstored other honly => ?_, fun h => ?_⟩
  · obtain ⟨room, hmem, hcode⟩ := (staysWith_iff hdict hstored).mp ((honly other).mpr rfl)
    -- The second matching finds the room by its code, where the first did not look for it.
    have hfound : codeMatch slaves probes (matchExistingRooms slaves probes existing) slave =
        some (other, room) :=
      codeMatch_of_mem hprobed hprobes
        ((storedCount_matched hslaves hdict hstored).mpr ⟨other, honly⟩) hmem hcode
    have hmoved : (slave, { room with slave := slave }) ∈
        matchExistingRooms slaves probes existing := by
      rw [← hfunctional.lookup_eq_some_iff, ← hsame, hfunctional'.lookup_eq_some_iff]
      exact mem_matchExistingRooms.mpr ⟨hslave, _, .inl hfound, rfl⟩
    exact ((honly slave).mp ((staysWith_iff hdict hstored).mpr ⟨_, hmoved, hcode⟩)).symm
  · exact lookup_congr hfunctional' hfunctional fun slave room =>
      h.mem_rematched hslaves hdict

end Rematch

/-! ### Two rescans -/

/-- A stored unit with a code. -/
def codedRoom (key : String) (slave : ℕ) : UnitRoom where
  key := key
  name := key
  slave := slave
  profile := .sFc
  appSetupCode := some "R0000AA"

/-- Two stored units that share a code. -/
def sharedCode : List (ℕ × UnitRoom) := [(2, codedRoom "unit_1" 2), (3, codedRoom "unit_2" 3)]

/-- The code is probed at a new address. -/
def sharedProbe : List (ℕ × UnitProbeResult) := [(4, { appSetupCode := some "R0000AA" })]

/-- Both stored units are found again: the shared code moves neither of them. -/
theorem rematch_iff_sharedCode :
    [2, 3, 4].Nodup ∧ (sharedCode.map Prod.fst).Nodup ∧
      ∀ slave, (matchExistingRooms [2, 3, 4] sharedProbe
          (matchExistingRooms [2, 3, 4] sharedProbe sharedCode)).lookup slave =
        (matchExistingRooms [2, 3, 4] sharedProbe sharedCode).lookup slave := by
  refine ⟨by decide, by decide, (rematch_iff (by decide) (by decide)).mpr ?_⟩
  intro slave hslave code hprobed _ _ other honly
  have hstays : ∀ address ∈ [2, 3],
      StaysWith [2, 3, 4] sharedProbe sharedCode "R0000AA" address := by
    intro address haddress
    rcases List.mem_pair.mp haddress with rfl | rfl
    · exact ⟨by decide, rfl, codedRoom "unit_1" 2, rfl, rfl⟩
    · exact ⟨by decide, rfl, codedRoom "unit_2" 3, rfl, rfl⟩
  have hcode : code = "R0000AA" := by
    simp only [List.mem_cons, List.not_mem_nil, or_false] at hslave
    rcases hslave with rfl | rfl | rfl <;> cases hprobed
    rfl
  rw [hcode] at honly
  have h2 := (honly 2).mp (hstays 2 (by simp))
  have h3 := (honly 3).mp (hstays 3 (by simp))
  omega

/-- **Only one of the stored units is found again, and another unit has its code**: the second
matching moves the room to that unit. -/
theorem rematch_refuted :
    [2, 4].Nodup ∧ (sharedCode.map Prod.fst).Nodup ∧
      matchExistingRooms [2, 4] sharedProbe sharedCode = [(2, codedRoom "unit_1" 2)] ∧
      matchExistingRooms [2, 4] sharedProbe (matchExistingRooms [2, 4] sharedProbe sharedCode) =
        [(4, codedRoom "unit_1" 4)] ∧
      ¬ ∀ slave, (matchExistingRooms [2, 4] sharedProbe
          (matchExistingRooms [2, 4] sharedProbe sharedCode)).lookup slave =
        (matchExistingRooms [2, 4] sharedProbe sharedCode).lookup slave := by
  have hfirst : matchExistingRooms [2, 4] sharedProbe sharedCode =
      [(2, codedRoom "unit_1" 2)] := by decide +kernel
  have hsecond : matchExistingRooms [2, 4] sharedProbe
      (matchExistingRooms [2, 4] sharedProbe sharedCode) = [(4, codedRoom "unit_1" 4)] := by
    decide +kernel
  refine ⟨by decide, by decide, hfirst, hsecond, fun h => ?_⟩
  have hfour := h 4
  rw [hsecond, hfirst] at hfour
  cases hfour

end MeltemVentilation
