import MeltemVentilation.CumulativeDiagnostics
import MeltemVentilation.Lib.SplitText
import MeltemVentilation.SetupProbe

/-!
# The identity of a unit in its preview

Older entries have the product id and the setup code of a unit only in its preview, a text for
the setup form. `_migrate_room_identity_fields` of `migration.py` reads them out of it again.
What `detect_slave_details` writes there are parts such as `R-Code R00ABCD` and `ID 116852`,
joined by ` | `, and every part but the last may be missing. The theorem `migrate_preview`
says that nothing is lost: the migration finds exactly the product id and the setup code that
the preview was made of, and neither where there was none.

No part contains the bar of the separator, so that the preview falls into its parts again
(`SplitText.split_intercalate`); the first letters of a part say what it is; the digits of a
number give the number, and a setup code has the length and the alphabet that the migration
asks for (`isAppSetupCode_of_format`).
-/

namespace MeltemVentilation

/-! ### Texts -/

/-- `text.split(separator)`. -/
def splitText (separator text : String) : List String :=
  (SplitText.split separator.toList 0 text.toList).map String.ofList

/-- `text.startswith(start)`. -/
def startsWith (start text : String) : Bool := start.toList.isPrefixOf text.toList

/-- `text.removeprefix(start)`. -/
def removePrefix (start text : String) : String :=
  if startsWith start text then String.ofList (text.toList.drop start.toList.length) else text

/-- Digits with single underscores between them. -/
def digitsValue (digits : List Char) : Option ℕ :=
  let groups := digits.splitOn '_'
  if groups.all fun group => group ≠ [] ∧ group.all Char.isDigit then
    some (Nat.ofDigitChars 10 groups.flatten 0)
  else none

/-- `isspace()` of one character. -/
def isBlank (c : Char) : Bool :=
  let code := c.toNat
  (9 ≤ code ∧ code ≤ 13) ∨ (28 ≤ code ∧ code ≤ 32) ∨ (0x2000 ≤ code ∧ code ≤ 0x200A) ∨
    code ∈ [0x85, 0xA0, 0x1680, 0x2028, 0x2029, 0x202F, 0x205F, 0x3000]

/-- `strip()`. -/
def stripBlanks (text : List Char) : List Char :=
  ((text.dropWhile isBlank).reverse.dropWhile isBlank).reverse

/-- `int(text)`, `none` where it raises `ValueError`, for texts with the digits `0` to `9`. -/
def parseInt (text : String) : Option ℤ :=
  match stripBlanks text.toList with
  | '-' :: digits => (digitsValue digits).map fun value => -(value : ℤ)
  | '+' :: digits => (digitsValue digits).map (↑·)
  | digits => (digitsValue digits).map (↑·)

/-- A text without blanks is left alone. -/
theorem stripBlanks_of_not_isBlank {text : List Char} (h : ∀ c ∈ text, isBlank c = false) :
    stripBlanks text = text := by
  have hkept : ∀ l : List Char, (∀ c ∈ l, isBlank c = false) → l.dropWhile isBlank = l := by
    intro l hl
    cases l with
    | nil => rfl
    | cons c l => rw [List.dropWhile_cons, if_neg (by simp [hl c])]
  rw [stripBlanks, hkept text h, hkept text.reverse (by simpa using h), List.reverse_reverse]

/-- A digit is no blank and no sign. -/
theorem isBlank_of_isDigit {c : Char} (h : c.isDigit = true) :
    isBlank c = false ∧ c ≠ '-' ∧ c ≠ '+' ∧ c ≠ '_' := by
  have hrange := Char.isDigit_iff_toNat.mp h
  simp only [Char.reduceToNat] at hrange
  refine ⟨?_, ?_, ?_, ?_⟩
  · simp only [isBlank, List.mem_cons, List.not_mem_nil, or_false, decide_eq_false_iff_not]
    omega
  all_goals
    rintro rfl
    simp at hrange

/-- The digits of a number give the number. -/
theorem digitsValue_toDigits (n : ℕ) : digitsValue (Nat.toDigits 10 n) = some n := by
  have hsplit : (Nat.toDigits 10 n).splitOn '_' = [Nat.toDigits 10 n] := by
    have hjoined : (['_'].intercalate [Nat.toDigits 10 n]).splitOn '_' = [Nat.toDigits 10 n] :=
      List.splitOn_intercalate '_' (by simp [Nat.underscore_not_in_toDigits]) (by simp)
    simpa using hjoined
  have hdigits : ∀ c ∈ Nat.toDigits 10 n, c.isDigit = true :=
    fun c hc => Nat.isDigit_of_mem_toDigits (by decide) (by decide) hc
  simpa [digitsValue, hsplit, Nat.toDigits_ne_nil, Nat.ofDigitChars_ten_toDigits] using hdigits

/-- **A number is read back from its text.** -/
theorem parseInt_toString (n : ℕ) : parseInt (toString n) = some (n : ℤ) := by
  have htext : (toString n).toList = Nat.toDigits 10 n := by simp [Nat.toString_eq_repr]
  have hchars : ∀ c ∈ Nat.toDigits 10 n, isBlank c = false ∧ c ≠ '-' ∧ c ≠ '+' ∧ c ≠ '_' :=
    fun c hc => isBlank_of_isDigit (Nat.isDigit_of_mem_toDigits (by decide) (by decide) hc)
  have hvalue := digitsValue_toDigits n
  rw [parseInt, htext, stripBlanks_of_not_isBlank fun c hc => (hchars c hc).1]
  split
  · rename_i digits heq
    exact absurd rfl (hchars '-' (by simp [heq])).2.1
  · rename_i digits heq
    exact absurd rfl (hchars '+' (by simp [heq])).2.2.1
  · rw [hvalue]
    rfl

/-- What begins with a start is told by it, and the rest is what is left. -/
theorem removePrefix_append (start rest : String) :
    startsWith start (start ++ rest) = true ∧ removePrefix start (start ++ rest) = rest := by
  have hstarts : startsWith start (start ++ rest) = true := by
    rw [startsWith, String.toList_append]
    exact List.isPrefixOf_iff_prefix.mpr (List.prefix_append _ _)
  refine ⟨hstarts, ?_⟩
  rw [removePrefix, if_pos hstarts, String.toList_append, List.drop_left, String.ofList_toList]

/-- Joined parts without the mark of the separator are its parts again. -/
theorem splitText_intercalate {separator : String} {mark : Char}
    (hmark : mark ∈ separator.toList) {parts : List String} (hne : parts ≠ [])
    (hparts : ∀ part ∈ parts, mark ∉ part.toList) :
    splitText separator (separator.intercalate parts) = parts := by
  have hsplit : SplitText.split separator.toList 0
      (separator.toList.intercalate (parts.map String.toList)) = parts.map String.toList :=
    SplitText.split_intercalate hmark (by simpa using hne) (by simpa using hparts)
  rw [splitText, String.toList_intercalate, hsplit, List.map_map]
  simp [Function.comp_def]

/-! ### The migration -/

/-- A stored room, as the dictionary it is. -/
abbrev StoredRoom := String → Option Json

/-- What the migration takes for a setup code: an `R` and six hexadecimal digits. -/
def isAppSetupCode (code : String) : Bool :=
  code.toList.length = 7 ∧ startsWith "R" code ∧
    (code.toList.drop 1).all (· ∈ "0123456789ABCDEF".toList)

/-- What the migration finds in one part of the preview. -/
def migratePart (migrated : StoredRoom) (part : String) : StoredRoom :=
  if startsWith "ID " part && (migrated "product_id").isNone then
    match parseInt (removePrefix "ID " part) with
    | some productId => Function.update migrated "product_id" (some (.int productId))
    | none => migrated
  else if startsWith "R-Code " part && (migrated "app_setup_code").isNone then
    let code := removePrefix "R-Code " part
    if isAppSetupCode code then Function.update migrated "app_setup_code" (some (.str code))
    else migrated
  else migrated

/-- **`_migrate_room_identity_fields`.** -/
def migrateRoomIdentityFields (room : StoredRoom) : StoredRoom :=
  match room "preview" with
  | some (.str preview) => (splitText " | " preview).foldl migratePart room
  | _ => room

section Parts

variable {migrated : StoredRoom} {code part : String}

/-- The two starts exclude one another. -/
theorem not_startsWith_id (rest : String) : startsWith "ID " ("R-Code " ++ rest) = false := by
  rw [startsWith, String.toList_append]
  rfl

/-- **A setup code is found.** -/
theorem migratePart_code (hcode : isAppSetupCode code = true)
    (hnone : migrated "app_setup_code" = none) : migratePart migrated ("R-Code " ++ code) =
      Function.update migrated "app_setup_code" (some (.str code)) := by
  obtain ⟨hstarts, hrest⟩ := removePrefix_append "R-Code " code
  simp [migratePart, not_startsWith_id, hstarts, hrest, hnone, hcode]

/-- **A product id is found.** -/
theorem migratePart_id (hnone : migrated "product_id" = none) (productId : ℕ) :
    migratePart migrated ("ID " ++ toString productId) =
      Function.update migrated "product_id" (some (.int productId)) := by
  obtain ⟨hstarts, hrest⟩ := removePrefix_append "ID " (toString productId)
  rw [migratePart, hstarts, hrest, hnone, parseInt_toString]
  rfl

/-- Nothing is found in a part that begins otherwise. -/
theorem migratePart_other (hid : startsWith "ID " part = false)
    (hcode : startsWith "R-Code " part = false) : migratePart migrated part = migrated := by
  simp [migratePart, hid, hcode]

end Parts

/-! ### Setup codes -/

/-- The digits of a number to the base sixteen. -/
theorem mem_toDigits_sixteen (n : ℕ) : ∀ c ∈ (Nat.toDigits 16 n).map Char.toUpper,
    c ∈ "0123456789ABCDEF".toList := by
  induction n using Nat.strong_induction_on with
  | _ n ih =>
    have hdigit : ∀ d < 16, (Nat.digitChar d).toUpper ∈ "0123456789ABCDEF".toList := by decide
    rw [Nat.toDigits_eq_if (by decide)]
    split
    · rename_i hlt
      simpa using hdigit n hlt
    · rename_i hge
      intro c hc
      rw [List.map_append, List.mem_append] at hc
      rcases hc with hc | hc
      · exact ih (n / 16) (by omega) c hc
      · obtain rfl : c = (Nat.digitChar (n % 16)).toUpper := by simpa using hc
        exact hdigit _ (Nat.mod_lt _ (by decide))

/-- **A setup code that is formatted is one that the migration takes**, for registers of
sixteen bits. -/
theorem isAppSetupCode_of_format {lowWord highWord : ℕ} (hlow : lowWord < 65536) {code : String}
    (h : formatAppSetupCode lowWord highWord = some code) : isAppSetupCode code = true := by
  unfold formatAppSetupCode at h
  split at h
  · cases h
  · rename_i hhigh
    simp only [Option.ite_none_left_eq_some, Option.some.injEq] at h
    obtain ⟨-, rfl⟩ := h
    set digits := (Nat.toDigits 16 (highWord * 65536 + lowWord)).map Char.toUpper with hdigits
    -- The high word has eight bits, so that the digits are six at most.
    have hlength : digits.length ≤ 6 := by
      rw [hdigits, List.length_map]
      apply (Nat.length_toDigits_le_iff (by decide) (by decide)).mpr
      omega
    have halphabet : ∀ c ∈ digits, c ∈ "0123456789ABCDEF".toList :=
      mem_toDigits_sixteen _
    have hzero : '0' ∈ "0123456789ABCDEF".toList := by decide
    simp only [isAppSetupCode, String.toList_ofList, decide_eq_true_eq]
    refine ⟨?_, ?_, ?_⟩
    · simp only [List.cons_append, List.length_cons, List.length_append, List.length_replicate]
      omega
    · simp [startsWith]
    · rw [List.all_eq_true]
      intro c hc
      rw [List.cons_append, List.drop_one, List.tail_cons, List.mem_append] at hc
      rw [decide_eq_true_eq]
      rcases hc with hc | hc
      · rw [List.eq_of_mem_replicate hc]
        exact hzero
      · exact halphabet c hc

/-! ### The round trip -/

/-- The part of the preview with the setup code. -/
def codePart (appSetupCode : Option String) : List String :=
  (appSetupCode.map fun code => "R-Code " ++ code).toList

/-- The parts with the product. -/
def productParts (productId : Option ℕ) : List String :=
  match productId with
  | none => []
  | some productId =>
    ("ID " ++ toString productId) ::
      ((productMetadata productId).map fun (series, model) =>
        "App: " ++ series ++ " (" ++ model ++ ")").toList

/-- **The preview is made of these parts**, and of the sensors in the end. -/
theorem preview_slaveDetails (values : List (ProbeRead × ℕ)) (appSetupCode : Option String) :
    ∃ capability ∈ ["VOC", "CO2", "humidity", "basic"],
      (slaveDetails values appSetupCode).preview = some (" | ".intercalate
        (codePart appSetupCode ++ productParts (values.lookup .productId) ++ [capability])) := by
  unfold slaveDetails
  dsimp only
  generalize hfound : probeSuffixes.find? _ = found
  cases found with
  | none => exact ⟨"basic", by simp, rfl⟩
  | some suffix =>
    have hmem := List.mem_of_find?_eq_some hfound
    refine ⟨suffix.2.1, ?_, rfl⟩
    simp only [probeSuffixes, List.mem_cons, List.not_mem_nil, or_false] at hmem
    rcases hmem with rfl | rfl | rfl <;> simp

/-- What is shown of a known product. -/
theorem productMetadata_eq {productId : ℕ} {series model : String}
    (h : productMetadata productId = some (series, model)) :
    (series, model) ∈ [("M-WRG", "VMD-22RES22"), ("M-WRG-II", "VMD-22RPS44")] := by
  simp only [productMetadata, List.lookup_cons, List.lookup_nil] at h
  grind

section RoundTrip

variable {appSetupCode : Option String} {productId : Option ℕ}

/-- A setup code has no bar. -/
theorem bar_notMem_of_isAppSetupCode {code : String} (h : isAppSetupCode code = true) :
    '|' ∉ code.toList := by
  simp only [isAppSetupCode, decide_eq_true_eq] at h
  obtain ⟨-, hstarts, halphabet⟩ := h
  obtain ⟨digits, hcode⟩ := List.isPrefixOf_iff_prefix.mp hstarts
  have hcons : code.toList = 'R' :: digits := hcode.symm
  rw [hcons, List.drop_one, List.tail_cons, List.all_eq_true] at halphabet
  rw [hcons, List.mem_cons, not_or]
  refine ⟨by decide, fun hbar => ?_⟩
  have hdigit : '|' ∈ "0123456789ABCDEF".toList := of_decide_eq_true (halphabet _ hbar)
  revert hdigit
  decide

/-- **No part of the preview has a bar.** -/
theorem bar_notMem_parts (hcode : ∀ code ∈ appSetupCode, isAppSetupCode code = true)
    {capability : String} (hcapability : capability ∈ ["VOC", "CO2", "humidity", "basic"]) :
    ∀ part ∈ codePart appSetupCode ++ productParts productId ++ [capability],
      '|' ∉ part.toList := by
  intro part hpart
  simp only [List.mem_append, List.mem_singleton] at hpart
  -- The parts are a code, the product texts and the capability; none has the separator.
  rcases hpart with (hpart | hpart) | rfl
  · cases appSetupCode with
    | none => simp [codePart] at hpart
    | some code =>
      obtain rfl : part = "R-Code " ++ code := by simpa [codePart] using hpart
      rw [String.toList_append, List.mem_append, not_or]
      exact ⟨by decide, bar_notMem_of_isAppSetupCode (hcode code rfl)⟩
  · cases productId with
    | none => simp [productParts] at hpart
    | some n =>
      rw [productParts, List.mem_cons] at hpart
      rcases hpart with rfl | hpart
      · have htext : (toString n).toList = Nat.toDigits 10 n := by simp [Nat.toString_eq_repr]
        rw [String.toList_append, List.mem_append, not_or, htext]
        refine ⟨by decide, fun hbar => ?_⟩
        have hdigit := Nat.isDigit_of_mem_toDigits (by decide) (by decide) hbar
        revert hdigit
        decide
      · obtain ⟨⟨series, model⟩, hproduct, rfl⟩ : ∃ product ∈ productMetadata n,
            "App: " ++ product.1 ++ " (" ++ product.2 ++ ")" = part := by simpa using hpart
        have hmem := productMetadata_eq hproduct
        simp only [List.mem_cons, Prod.mk.injEq, List.not_mem_nil, or_false] at hmem
        rcases hmem with ⟨rfl, rfl⟩ | ⟨rfl, rfl⟩ <;> decide
  · revert part
    decide

/-- What the part with the setup code leaves. -/
theorem foldl_codePart {room : StoredRoom}
    (hcode : ∀ code ∈ appSetupCode, isAppSetupCode code = true)
    (hnone : room "app_setup_code" = none) : (codePart appSetupCode).foldl migratePart room =
      Function.update room "app_setup_code" (appSetupCode.map Json.str) := by
  cases appSetupCode with
  | none => rw [Option.map_none, ← hnone, Function.update_eq_self]; rfl
  | some code =>
    simp only [codePart, Option.map_some, Option.toList_some, List.foldl_cons, List.foldl_nil]
    exact migratePart_code (hcode code rfl) hnone

/-- What the parts with the product leave. -/
theorem foldl_productParts {room : StoredRoom} (hnone : room "product_id" = none) :
    (productParts productId).foldl migratePart room =
      Function.update room "product_id" (productId.map fun id : ℕ => Json.int id) := by
  cases productId with
  | none => rw [Option.map_none, ← hnone, Function.update_eq_self]; rfl
  | some n =>
    rw [productParts, List.foldl_cons, migratePart_id hnone]
    cases hproduct : productMetadata n with
    | none => rfl
    | some product =>
      obtain ⟨series, model⟩ := product
      have hmem := productMetadata_eq hproduct
      simp only [List.mem_cons, Prod.mk.injEq, List.not_mem_nil, or_false] at hmem
      simp only [Option.map_some, Option.toList_some, List.foldl_cons, List.foldl_nil]
      apply migratePart_other
      all_goals rcases hmem with ⟨rfl, rfl⟩ | ⟨rfl, rfl⟩ <;> decide

/-- **The migration of a preview**: it adds the two fields, and nothing else. -/
theorem migrate_slaveDetails {room : StoredRoom} (hproduct : room "product_id" = none)
    (hnone : room "app_setup_code" = none) (values : List (ProbeRead × ℕ))
    (hcode : ∀ code ∈ appSetupCode, isAppSetupCode code = true) :
    ∀ preview, (slaveDetails values appSetupCode).preview = some preview →
      room "preview" = some (.str preview) → migrateRoomIdentityFields room =
        Function.update (Function.update room "app_setup_code" (appSetupCode.map Json.str))
          "product_id" ((values.lookup .productId).map fun id : ℕ => Json.int id) := by
  intro preview hpreview hroom
  obtain ⟨capability, hcapability, hparts⟩ := preview_slaveDetails values appSetupCode
  obtain rfl := Option.some.inj (hpreview.symm.trans hparts)
  have hlast : ∀ migrated, migratePart migrated capability = migrated := by
    intro migrated
    have hstarts : ∀ capability ∈ ["VOC", "CO2", "humidity", "basic"],
        startsWith "ID " capability = false ∧ startsWith "R-Code " capability = false := by
      decide
    obtain ⟨hid, hr⟩ := hstarts capability hcapability
    exact migratePart_other hid hr
  have hkept : (Function.update room "app_setup_code" (appSetupCode.map Json.str))
      "product_id" = none := by
    rw [Function.update_of_ne (by decide), hproduct]
  rw [migrateRoomIdentityFields, hroom]
  simp only
  have hbar : '|' ∈ " | ".toList := by decide
  rw [splitText_intercalate hbar (by simp)
    (bar_notMem_parts hcode hcapability), List.foldl_append, List.foldl_append,
    foldl_codePart hcode hnone, foldl_productParts hkept, List.foldl_cons, hlast, List.foldl_nil]

end RoundTrip

/-! ### What the probe gets -/

section Probe

variable {unit : ProbedUnit} {read : ProbeRead} {s t : ProbeLink} {words : ProbeWords}

/-- An attempt that succeeds has the registers of the unit. -/
theorem registers_of_attempt (h : s.attempt unit read = (.ok words, t)) :
    unit.registers read = some words := by
  unfold ProbeLink.attempt at h
  simp only [ProbeLink.reply] at h
  grind

/-- So has a call of `run`, whichever of its attempts succeeds. -/
theorem registers_of_run (h : s.run unit read = (.ok words, t)) :
    unit.registers read = some words := by
  have hanswered : ∀ {result : Except RequestError ProbeWords × ProbeLink},
      ProbeLink.answeredRead unit result = (.ok words, t) → result.1 = .ok words := by
    intro result hresult
    obtain ⟨_ | words', after⟩ := result
    · cases hresult
    · exact congrArg Prod.fst hresult
  have hattempt : ∀ {s : ProbeLink}, (s.attempt unit read).1 = .ok words →
      unit.registers read = some words := by
    intro s hs
    exact registers_of_attempt (t := (s.attempt unit read).2) (Prod.ext hs rfl)
  unfold ProbeLink.run at h
  split at h
  · cases h
  · split at h
    · cases h
    · split at h
      · rename_i words' after heq
        apply hattempt (s := s)
        rw [heq]
        exact hanswered h
      · split at h
        · cases h
        · split at h <;> exact hattempt (hanswered h)

/-- **A value that the probe has read is one of the registers.** -/
theorem registers_of_probeRead {answered : Bool} {repeats : ℕ}
    (h : probeRead unit read answered repeats s = (.ok (.value words), t)) :
    unit.registers read = some words := by
  induction repeats generalizing s with
  | zero =>
    unfold probeRead at h
    split at h
    · rename_i words' after heq
      obtain ⟨rfl, -⟩ : words' = words ∧ after = t := by simpa using h
      exact registers_of_run heq
    all_goals grind
  | succ repeats ih =>
    unfold probeRead at h
    split at h
    · rename_i words' after heq
      obtain ⟨rfl, -⟩ : words' = words ∧ after = t := by simpa using h
      exact registers_of_run heq
    all_goals grind

/-- **What `detect_slave_details` returns**: the details for some values, and for the setup code
of the registers if there is one. -/
theorem detectSlaveDetails_ok {details : SlaveDetails}
    (h : detectSlaveDetails unit s = (.ok details, t)) : ∃ values code,
      details = slaveDetails values code ∧ ∀ c ∈ code, ∃ words,
        unit.registers .appSetupCode = some words ∧
          formatAppSetupCode words.1 words.2 = some c := by
  unfold detectSlaveDetails at h
  split at h
  · cases h
  · rename_i values _ _ _
    obtain ⟨rfl, -⟩ : slaveDetails values none = details ∧ _ := by simpa using h
    exact ⟨values, none, rfl, by simp⟩
  · rename_i values answered _ _
    split at h
    · cases h
    · rename_i words after heq
      obtain ⟨rfl, -⟩ : slaveDetails values (formatAppSetupCode words.1 words.2) = details ∧ _ := by
        simpa using h
      exact ⟨values, _, rfl, fun c hc => ⟨words, registers_of_probeRead heq, hc⟩⟩
    · obtain ⟨rfl, -⟩ : slaveDetails values none = details ∧ _ := by simpa using h
      exact ⟨values, none, rfl, by simp⟩

end Probe

/-! ### The result -/

/-- A room with a preview. -/
def withPreview (room : StoredRoom) (preview : Option String) : StoredRoom :=
  Function.update room "preview" (preview.map Json.str)

/-- **The preview round-trips.** A room without the two fields gets exactly the product id and
the setup code that its preview was made of: for all values and registers of sixteen bits that
the end of `detect_slave_details` may have, and for whatever a probe of a unit returns. A field
without a value stays absent. -/
theorem migrate_preview {room : StoredRoom} (hproduct : room "product_id" = none)
    (hcode : room "app_setup_code" = none) :
    (∀ (values : List (ProbeRead × ℕ)) (words : Option ProbeWords),
      (∀ w ∈ words, w.1 < 65536) →
      let code := words.bind fun w => formatAppSetupCode w.1 w.2
      let stored := withPreview room (slaveDetails values code).preview
      migrateRoomIdentityFields stored =
        Function.update (Function.update stored "app_setup_code" (code.map Json.str))
          "product_id" ((values.lookup .productId).map fun id : ℕ => Json.int id)) ∧
    ∀ (unit : ProbedUnit) (s t : ProbeLink) (details : SlaveDetails),
      (∀ w, unit.registers .appSetupCode = some w → w.1 < 65536) →
      detectSlaveDetails unit s = (.ok details, t) →
      let stored := withPreview room details.preview
      migrateRoomIdentityFields stored =
        Function.update
          (Function.update stored "app_setup_code" (details.appSetupCode.map Json.str))
          "product_id" (details.productId.map Json.int) := by
  have hstored : ∀ preview, withPreview room preview "product_id" = none ∧
      withPreview room preview "app_setup_code" = none := by
    intro preview
    rw [withPreview, Function.update_of_ne (by decide), Function.update_of_ne (by decide)]
    exact ⟨hproduct, hcode⟩
  -- Both halves store the preview of `_slave_details`, so one statement serves them.
  have hall : ∀ values code, (∀ c ∈ code, isAppSetupCode c = true) →
      migrateRoomIdentityFields (withPreview room (slaveDetails values code).preview) =
        Function.update (Function.update (withPreview room (slaveDetails values code).preview)
          "app_setup_code" (code.map Json.str)) "product_id"
          ((values.lookup .productId).map fun id : ℕ => Json.int id) := by
    intro values code hformat
    obtain ⟨capability, -, hpreview⟩ := preview_slaveDetails values code
    obtain ⟨hproduct, hcode⟩ := hstored (slaveDetails values code).preview
    refine migrate_slaveDetails hproduct hcode values hformat _ hpreview ?_
    rw [withPreview, Function.update_self, hpreview, Option.map_some]
  refine ⟨?_, ?_⟩
  · intro values words hwords code stored
    refine hall values code fun c hc => ?_
    obtain ⟨w, hw, hformat⟩ := Option.bind_eq_some_iff.mp hc
    exact isAppSetupCode_of_format (hwords w hw) hformat
  · intro unit s t details hwords hdetect stored
    obtain ⟨values, code, rfl, hcodes⟩ := detectSlaveDetails_ok hdetect
    have hproducts : (slaveDetails values code).productId.map Json.int =
        (values.lookup .productId).map fun id : ℕ => Json.int id := Option.map_map ..
    rw [hproducts]
    refine hall values code fun c hc => ?_
    obtain ⟨w, hw, hformat⟩ := hcodes c hc
    exact isAppSetupCode_of_format (hwords w hw) hformat

/-- A unit of the second series with a sensor for carbon dioxide and the code `R01ABCD`. -/
theorem migrate_preview_sample :
    let stored := withPreview (fun _ => none)
      (slaveDetails [(.productId, 116852), (.co2ExtractAir, 800)] (some "R01ABCD")).preview
    migrateRoomIdentityFields stored =
      Function.update (Function.update stored "app_setup_code" (some (.str "R01ABCD")))
        "product_id" (some (.int 116852)) := by
  have hcode : formatAppSetupCode 43981 1 = some "R01ABCD" := by decide
  have hfound := (@migrate_preview (fun _ => none) rfl rfl).1
    [(.productId, 116852), (.co2ExtractAir, 800)] (some (43981, 1)) (by simp)
  simp only [Option.bind_some, hcode] at hfound
  exact hfound

end MeltemVentilation
