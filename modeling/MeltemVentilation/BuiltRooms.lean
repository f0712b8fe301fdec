import MeltemVentilation.Rescan

/-!
# What survives in the rooms that are built

`build_rooms_from_profiles` gives each address found a room with a key, a name and perhaps a
setup code. A room that has been stored before is to be taken over: by one address, with its
key and its name. Everything else is new, and must not get in the way of what is kept, which
is why the loop starts from the names of all matched rooms, and keeps a new key off the keys
of all of them (`IdentitiesKept`).

One part needs a condition. An empty key counts as missing, so that its room gets the key of
its address, and that key may be the one of a room that comes later in the loop
(`identitiesKept_refuted`). Rooms with an empty key aside, every stored key is kept.
-/

namespace MeltemVentilation

open FirstFree

/-! ### The text of a name -/

section Text

variable {base : String}

/-- The names that are tried for a room are all different. -/
theorem suffixedName_injective (base : String) : Function.Injective (suffixedName base) := by
  have hzero : (suffixedName base 0).toList = base.toList := by simp [suffixedName]
  have hsucc : ∀ n, (suffixedName base (n + 1)).toList =
      base.toList ++ (" (".toList ++ ((toString (n + 2)).toList ++ ")".toList)) := by
    intro n
    simp [suffixedName]
  intro n m h
  have hsame := congrArg String.toList h
  cases n with
  | zero =>
    cases m with
    | zero => rfl
    | succ m =>
      rw [hzero, hsucc] at hsame
      simpa using congrArg List.length hsame
  | succ n =>
    cases m with
    | zero =>
      rw [hzero, hsucc] at hsame
      simpa using congrArg List.length hsame
    | succ m =>
      rw [hsucc, hsucc] at hsame
      have hnumber := (toString_append_inj (by simp) (by simp)
        (List.append_cancel_left (List.append_cancel_left hsame))).1
      omega

/-- A new name is not a used one. -/
theorem defaultRoomName_notMem (profile : Profile) (appSetupCode : Option String)
    (usedNames : List String) : defaultRoomName profile appSetupCode usedNames ∉ usedNames :=
  firstFree_notMem (suffixedName_injective _) usedNames

end Text

/-! ### What is promised -/

section Promise

variable (slaves : List ℕ) (selectedProfiles : ℕ → Profile)
  (probes : List (ℕ × UnitProbeResult)) (existing : List (ℕ × UnitRoom))

/-- A stored room is taken over by an address. -/
def TakenOver (entry : ℕ × UnitRoom) (slave : ℕ) : Prop :=
  (slave, { entry.2 with slave := slave }) ∈ matchExistingRooms slaves probes existing

/-- The room of an address gets a new name: it takes no stored room over, or one without a
name. -/
def NewlyNamed (slave : ℕ) : Prop :=
  ∀ entry ∈ existing, TakenOver slaves probes existing entry slave → entry.2.name = ""

/-- A code that the probes report for this address and for no other. -/
def ReportedOnlyFor (code : String) (slave : ℕ) : Prop :=
  ∀ address, probedCode probes address = some code ↔ address = slave

/-- **What a rescan keeps of the stored rooms**, and what it gives to the new ones. -/
structure IdentitiesKept : Prop where
  /-- The search for a key ends, at the first key that is not taken. -/
  keySearch : ∀ preferred taken, ∃ n, firstFree (suffixedKey preferred) taken =
    suffixedKey preferred n ∧ suffixedKey preferred n ∉ taken ∧
      ∀ m < n, suffixedKey preferred m ∈ taken
  /-- The search for a name ends, at the first name that is not used. -/
  nameSearch : ∀ base used, ∃ n, firstFree (suffixedName base) used = suffixedName base n ∧
    suffixedName base n ∉ used ∧ ∀ m < n, suffixedName base m ∈ used
  addresses : (buildRoomsFromProfiles slaves selectedProfiles probes existing).map (·.slave) =
    slaves
  keys : ((buildRoomsFromProfiles slaves selectedProfiles probes existing).map (·.key)).Nodup
  takenOnce : ∀ entry ∈ existing, ∀ slave slave', TakenOver slaves probes existing entry slave →
    TakenOver slaves probes existing entry slave' → slave = slave'
  /-- Unless a key that is taken over is empty, each one is kept. -/
  keptKey : (∀ entry ∈ existing, ∀ slave, TakenOver slaves probes existing entry slave →
      entry.2.key ≠ "") →
    ∀ entry ∈ existing, ∀ room ∈ buildRoomsFromProfiles slaves selectedProfiles probes existing,
      TakenOver slaves probes existing entry room.slave → room.key = entry.2.key
  keptName : ∀ entry ∈ existing,
    ∀ room ∈ buildRoomsFromProfiles slaves selectedProfiles probes existing,
      TakenOver slaves probes existing entry room.slave → entry.2.name ≠ "" →
        room.name = entry.2.name
  newName : ∀ room ∈ buildRoomsFromProfiles slaves selectedProfiles probes existing,
    NewlyNamed slaves probes existing room.slave →
      ∀ other ∈ buildRoomsFromProfiles slaves selectedProfiles probes existing,
        room.slave ≠ other.slave → room.name ≠ other.name
  code : ∀ code slave, ReportedOnlyFor probes code slave →
    ∀ room ∈ buildRoomsFromProfiles slaves selectedProfiles probes existing,
      room.appSetupCode = some code ↔ room.slave = slave

end Promise

section Built

variable {slaves : List ℕ} {selectedProfiles : ℕ → Profile}
  {probes : List (ℕ × UnitProbeResult)} {existing matched : List (ℕ × UnitRoom)}
  {entry entry' : ℕ × UnitRoom} {slave slave' : ℕ} {room : UnitRoom} {used names : List String}
  {code : String}

/-! ### Taking rooms over -/

section TakenOver

variable (hkeys : (existing.map (·.2.key)).Nodup) (hexisting : Functional existing)
include hkeys hexisting

/-- A room that is taken over is the one that the address is matched to. -/
theorem TakenOver.matches (hmem : entry ∈ existing)
    (h : TakenOver slaves probes existing entry slave) :
    slave ∈ slaves ∧ Matches slaves probes existing slave entry := by
  obtain ⟨hslave, source, hsource, hroom⟩ := mem_matchExistingRooms.mp h
  have hkey : entry.2.key = source.2.key := by simpa using congrArg UnitRoom.key hroom
  obtain rfl := List.inj_on_of_nodup_map hkeys hmem (hsource.mem hexisting) hkey
  exact ⟨hslave, hsource⟩

/-- A stored room is taken over by one address. -/
theorem TakenOver.unique (hmem : entry ∈ existing)
    (h : TakenOver slaves probes existing entry slave)
    (h' : TakenOver slaves probes existing entry slave') : slave = slave' := by
  obtain ⟨hslave, hmatch⟩ := h.matches hkeys hexisting hmem
  obtain ⟨hslave', hmatch'⟩ := h'.matches hkeys hexisting hmem
  exact hmatch.injective hexisting hslave hslave' hmatch' rfl

omit hkeys in
/-- A matched room is a stored one that has been taken over. -/
theorem exists_takenOver (h : (slave, room) ∈ matchExistingRooms slaves probes existing) :
    ∃ entry ∈ existing, TakenOver slaves probes existing entry slave ∧
      room = { entry.2 with slave := slave } := by
  obtain ⟨-, source, hsource, rfl⟩ := mem_matchExistingRooms.mp h
  exact ⟨source, hsource.mem hexisting, h, rfl⟩

/-- Unless one of them is empty, the keys of the matched rooms are proper. -/
theorem properKeys_matched (hkeyed : ∀ entry ∈ existing, ∀ slave,
    TakenOver slaves probes existing entry slave → entry.2.key ≠ "") :
    ProperKeys (matchExistingRooms slaves probes existing) where
  functional := functional_matchExistingRooms
  keyed := by
    rintro ⟨slave, room⟩ hmem
    obtain ⟨entry, hentry, htaken, rfl⟩ := exists_takenOver hexisting hmem
    exact hkeyed entry hentry slave htaken
  distinct := by
    rintro ⟨slave, room⟩ hmem ⟨slave', room'⟩ hmem' hkey
    obtain ⟨entry, hentry, htaken, rfl⟩ := exists_takenOver hexisting hmem
    obtain ⟨entry', hentry', htaken', rfl⟩ := exists_takenOver hexisting hmem'
    obtain rfl := List.inj_on_of_nodup_map hkeys hentry hentry' hkey
    exact htaken.unique hkeys hexisting hentry htaken'

end TakenOver

/-! ### One round of the loop -/

/-- A room of the result is what one round makes of an address. -/
theorem exists_buildRoom_of_mem (h : room ∈ buildRooms selectedProfiles probes matched slaves
    used names) : ∃ slave ∈ slaves, ∃ used names,
      room = buildRoom selectedProfiles probes matched used names slave := by
  induction slaves generalizing used names with
  | nil => cases h
  | cons slave slaves ih =>
    rcases List.mem_cons.mp h with rfl | hmem
    · exact ⟨slave, List.mem_cons_self, _, _, rfl⟩
    · obtain ⟨found, hfound, hroom⟩ := ih hmem
      exact ⟨found, List.mem_cons_of_mem _ hfound, hroom⟩

theorem map_slave_buildRooms :
    (buildRooms selectedProfiles probes matched slaves used names).map (·.slave) = slaves := by
  induction slaves generalizing used names with
  | nil => rfl
  | cons slave slaves ih =>
    rw [buildRooms, List.map_cons, ih]
    rfl

/-- A key is none of those that have been given out before. -/
theorem roomKey_notMem (matched : List (ℕ × UnitRoom)) (used : List String) (slave : ℕ) :
    roomKey matched used slave ∉ used := by
  unfold roomKey
  split
  · exact firstFree_notMem (suffixedKey_injective _) used
  · intro hmem
    exact firstFree_notMem (suffixedKey_injective (slaveKey slave)) _
      (List.mem_append_left _ hmem)

/-- **No two rooms have the same key**, whatever the stored keys are. -/
theorem nodup_map_key_buildRooms :
    ((buildRooms selectedProfiles probes matched slaves used names).map (·.key)).Nodup ∧
      ∀ key ∈ used,
        key ∉ (buildRooms selectedProfiles probes matched slaves used names).map (·.key) := by
  induction slaves generalizing used names with
  | nil => exact ⟨List.nodup_nil, fun _ _ => List.not_mem_nil⟩
  | cons slave slaves ih =>
    rw [buildRooms, List.map_cons]
    set first := buildRoom selectedProfiles probes matched used names slave with hfirst
    obtain ⟨hnodup, hused⟩ : ((buildRooms selectedProfiles probes matched slaves
        (first.key :: used) (first.name :: names)).map (·.key)).Nodup ∧
          ∀ key ∈ first.key :: used, key ∉ (buildRooms selectedProfiles probes matched slaves
            (first.key :: used) (first.name :: names)).map (·.key) := ih
    refine ⟨List.nodup_cons.mpr ⟨hused _ List.mem_cons_self, hnodup⟩, fun key hmem => ?_⟩
    rw [List.mem_cons, not_or]
    refine ⟨?_, hused key (List.mem_cons_of_mem _ hmem)⟩
    rintro rfl
    exact roomKey_notMem matched used slave hmem

/-! ### Names -/

/-- The name that a round keeps: that of the matched room, unless it is empty. -/
def keptName (matched : List (ℕ × UnitRoom)) (slave : ℕ) : Option String :=
  orElse ((matched.lookup slave).map (·.name)) none

theorem name_buildRoom_of_kept {name : String} (h : keptName matched slave = some name) :
    (buildRoom selectedProfiles probes matched used names slave).name = name := by
  show (keptName matched slave).getD _ = name
  rw [h]
  rfl

theorem name_buildRoom_notMem (h : keptName matched slave = none) :
    (buildRoom selectedProfiles probes matched used names slave).name ∉ names := by
  show (keptName matched slave).getD _ ∉ names
  rw [h]
  exact defaultRoomName_notMem _ _ _

/-- A kept name is one of the matched ones. -/
theorem mem_of_keptName {name : String} (h : keptName matched slave = some name) :
    name ∈ matched.map (·.2.name) := by
  unfold keptName orElse at h
  split at h
  · cases h
  · cases h
  · obtain rfl := Option.some.inj h
    rename_i heq
    obtain ⟨found, hfound, rfl⟩ := Option.map_eq_some_iff.mp heq
    obtain ⟨before, after, rfl, -⟩ := List.lookup_eq_some_iff.mp hfound
    simp

/-- **A new name is no other name**: it is none of those that the loop starts from, and none of
those that it gives later. -/
theorem name_ne_of_mem_buildRooms (hmatched : ∀ name ∈ matched.map (·.2.name), name ∈ names) :
    ∀ room ∈ buildRooms selectedProfiles probes matched slaves used names,
      keptName matched room.slave = none → room.name ∉ names ∧
        ∀ other ∈ buildRooms selectedProfiles probes matched slaves used names,
          room.slave ≠ other.slave → room.name ≠ other.name := by
  -- Each room built adds its key and its name to what the next ones have to avoid.
  induction slaves generalizing used names with
  | nil => rintro _ ⟨⟩
  | cons slave slaves ih =>
    rw [buildRooms]
    set first := buildRoom selectedProfiles probes matched used names slave with hfirst
    have hrest : ∀ room ∈ buildRooms selectedProfiles probes matched slaves (first.key :: used)
        (first.name :: names), keptName matched room.slave = none →
          room.name ∉ first.name :: names ∧
            ∀ other ∈ buildRooms selectedProfiles probes matched slaves (first.key :: used)
              (first.name :: names), room.slave ≠ other.slave → room.name ≠ other.name :=
      ih fun name hname => List.mem_cons_of_mem _ (hmatched name hname)
    intro room hroom hnew
    rcases List.mem_cons.mp hroom with rfl | hroom
    · have hnot : first.name ∉ names := name_buildRoom_notMem hnew
      refine ⟨hnot, fun other hother hne => ?_⟩
      rcases List.mem_cons.mp hother with rfl | hother
      · exact absurd rfl hne
      · rcases hkept : keptName matched other.slave with _ | name
        · intro heq
          exact (hrest other hother hkept).1 (heq ▸ List.mem_cons_self)
        · -- A later room with a stored name keeps it, and stored names are avoided from the start.
          obtain ⟨found, -, used', names', rfl⟩ := exists_buildRoom_of_mem hother
          have hfound : keptName matched found = some name := hkept
          rw [name_buildRoom_of_kept hfound]
          rintro rfl
          exact hnot (hmatched _ (mem_of_keptName hkept))
    · obtain ⟨hnot, hothers⟩ := hrest room hroom hnew
      rw [List.mem_cons, not_or] at hnot
      refine ⟨hnot.2, fun other hother hne => ?_⟩
      rcases List.mem_cons.mp hother with rfl | hother
      · exact hnot.1
      · exact hothers other hother hne

/-! ### Setup codes -/

/-- **The code of a room**: the one that its unit reports, or the stored one if no unit reports
that. -/
theorem appSetupCode_buildRoom (hreported : ReportedOnlyFor probes code slave') :
    (buildRoom selectedProfiles probes matched used names slave).appSetupCode = some code ↔
      slave = slave' := by
  show (probedCode probes slave).or (retainedAppSetupCode (matched.lookup slave)
    (probes.filterMap (·.2.appSetupCode))) = some code ↔ slave = slave'
  rw [← hreported slave]
  rcases hprobed : probedCode probes slave with _ | probed
  · simp only [Option.none_or, reduceCtorEq, iff_false]
    intro hretained
    refine of_decide_eq_true (Option.filter_eq_some_iff.mp hretained).2 ?_
    obtain ⟨result, hresult, hcode⟩ :=
      Option.bind_eq_some_iff.mp ((hreported slave').mpr rfl)
    obtain ⟨before, after, rfl, -⟩ := List.lookup_eq_some_iff.mp hresult
    exact List.mem_filterMap.mpr ⟨(slave', result), by simp, hcode⟩
  · rw [Option.some_or]

/-! ### The promise is kept -/

/-- The name that is kept for an address is that of the room it takes over. -/
theorem TakenOver.keptName (h : TakenOver slaves probes existing entry slave) :
    MeltemVentilation.keptName (matchExistingRooms slaves probes existing) slave =
      orElse (some entry.2.name) none := by
  have hfunctional : Functional (matchExistingRooms slaves probes existing) :=
    functional_matchExistingRooms
  rw [MeltemVentilation.keptName, hfunctional.lookup_eq_some_iff.mpr h]
  rfl

/-- A newly named room has no name to keep. -/
theorem NewlyNamed.keptName (h : NewlyNamed slaves probes existing slave)
    (hexisting : Functional existing) :
    MeltemVentilation.keptName (matchExistingRooms slaves probes existing) slave = none := by
  have hfunctional : Functional (matchExistingRooms slaves probes existing) :=
    functional_matchExistingRooms
  rcases hlookup : (matchExistingRooms slaves probes existing).lookup slave with _ | room
  · rw [MeltemVentilation.keptName, hlookup]
    rfl
  · obtain ⟨entry, hentry, htaken, -⟩ :=
      exists_takenOver hexisting (hfunctional.lookup_eq_some_iff.mp hlookup)
    rw [htaken.keptName, h entry hentry htaken]
    rfl

/-- **What a rescan keeps**: for distinct addresses found, rooms stored for distinct addresses
with distinct keys, and any probe results and profiles. -/
theorem identitiesKept (selectedProfiles : ℕ → Profile) (probes : List (ℕ × UnitProbeResult))
    (hslaves : slaves.Nodup) (haddresses : (existing.map Prod.fst).Nodup)
    (hkeys : (existing.map (·.2.key)).Nodup) :
    IdentitiesKept slaves selectedProfiles probes existing := by
  have hexisting : Functional existing := fun key value value' h h' =>
    congrArg Prod.snd (List.inj_on_of_nodup_map haddresses h h' rfl)
  have hfunctional : Functional (matchExistingRooms slaves probes existing) :=
    functional_matchExistingRooms
  refine ⟨fun preferred taken => firstFree_spec (suffixedKey_injective preferred) taken,
    fun base used => firstFree_spec (suffixedName_injective base) used, map_slave_buildRooms,
    nodup_map_key_buildRooms.1, fun entry hentry slave slave' h h' =>
      h.unique hkeys hexisting hentry h', ?_, ?_, ?_, ?_⟩
  · intro hkeyed entry hentry room hroom htaken
    have hproper := properKeys_matched hkeys hexisting hkeyed
    have hpairs : (buildRooms selectedProfiles probes (matchExistingRooms slaves probes existing)
        slaves [] ((matchExistingRooms slaves probes existing).map (·.2.name))).map
          (fun room => (room.slave, room.key)) =
        slaves.map fun slave =>
          (slave, builtKey (matchExistingRooms slaves probes existing) slave) :=
      hproper.map_key_buildRooms hslaves nofun
    have hmem : (room.slave, room.key) ∈ slaves.map fun slave =>
        (slave, builtKey (matchExistingRooms slaves probes existing) slave) := by
      rw [← hpairs]
      exact List.mem_map.mpr ⟨room, hroom, rfl⟩
    obtain ⟨slave, -, heq⟩ := List.mem_map.mp hmem
    obtain ⟨hslave, hkey⟩ := Prod.mk.inj heq
    rw [← hkey, hslave, builtKey_of_lookup (hfunctional.lookup_eq_some_iff.mpr htaken)]
  · intro entry hentry room hroom htaken hname
    obtain ⟨slave, -, used, names, rfl⟩ := exists_buildRoom_of_mem hroom
    refine name_buildRoom_of_kept ((TakenOver.keptName htaken).trans ?_)
    unfold orElse
    split
    · rename_i heq
      exact absurd (Option.some.inj heq) hname
    · rename_i heq
      cases heq
    · rename_i heq
      exact heq.symm
  · intro room hroom hnew
    exact (name_ne_of_mem_buildRooms (fun _ hname => hname) room hroom
      (hnew.keptName hexisting)).2
  · intro code slave hreported room hroom
    obtain ⟨found, -, used, names, rfl⟩ := exists_buildRoom_of_mem hroom
    exact appSetupCode_buildRoom hreported

end Built

/-! ### Two lists of stored rooms -/

/-- A stored room without a setup code. -/
def storedRoom (key : String) (slave : ℕ) : UnitRoom where
  key := key
  name := "Living room"
  slave := slave
  profile := .sFc

/-- One unit is found again, and a new one. -/
theorem identitiesKept_found : IdentitiesKept [2, 5] (fun _ => .sFc)
    [(5, { appSetupCode := some "R0000AA" })] [(2, storedRoom "slave_5" 2)] :=
  identitiesKept (fun _ => .sFc) [(5, { appSetupCode := some "R0000AA" })] (by decide) (by decide)
    (by decide)

/-- Two stored rooms, the first of which has an empty key. -/
def emptyKey : List (ℕ × UnitRoom) := [(2, storedRoom "" 2), (3, storedRoom "slave_2" 3)]

/-- **A stored key that is empty is not kept**: its room gets the key of its address. Here that
is the key of the second room, which is not kept either. -/
theorem identitiesKept_refuted :
    [2, 3].Nodup ∧ (emptyKey.map Prod.fst).Nodup ∧ (emptyKey.map (·.2.key)).Nodup ∧
      (∀ entry ∈ emptyKey, TakenOver [2, 3] [] emptyKey entry entry.1) ∧
      (buildRoomsFromProfiles [2, 3] (fun _ => .sFc) [] emptyKey).map
        (fun room => (room.slave, room.key)) = [(2, "slave_2"), (3, "slave_2_2")] ∧
      ¬ ∀ entry ∈ emptyKey,
        ∀ room ∈ buildRoomsFromProfiles [2, 3] (fun _ => .sFc) [] emptyKey,
          TakenOver [2, 3] [] emptyKey entry room.slave → room.key = entry.2.key := by
  have htaken : ∀ entry ∈ emptyKey, TakenOver [2, 3] [] emptyKey entry entry.1 := by
    unfold TakenOver
    decide +kernel
  refine ⟨by decide, by decide, by decide, htaken, by decide +kernel, fun h => ?_⟩
  have hfirst : (2, storedRoom "" 2) ∈ emptyKey := List.mem_cons_self
  obtain ⟨room, hroom, hslave⟩ : ∃ room ∈
      buildRoomsFromProfiles [2, 3] (fun _ => .sFc) [] emptyKey, room.slave = 2 := by
    decide +kernel
  have hkey := h _ hfirst room hroom (hslave ▸ htaken _ hfirst)
  exact key_ne_empty_of_mem_buildRooms hroom hkey

end MeltemVentilation
