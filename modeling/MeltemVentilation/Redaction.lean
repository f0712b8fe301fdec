import MeltemVentilation.Lib.Replace
import MeltemVentilation.PreviewMigration

/-!
# What a diagnostics download hides

A download of `diagnostics.py` may be posted in public. `_redact_setup_codes` takes the setup
codes of the units out of it, and `redact_port` the port or the host of the gateway out of a
message. Both replace what they find in a text by `**REDACTED**`, from the left and without
overlaps (`Replace.sub`).

A setup code is an `R` and six digits to the base sixteen. In capitals it is found wherever it
stands; in other letters as a separate word only, so that ordinary words are left alone
(`setupCodeAt`). A code in capitals is all that the units report, and none is left
(`redactSetupCodes_hides`), neither in a value at any depth nor in a key: since the replacement
begins and ends with stars, no code can arise where it has been put in. For the other ones this
would be false, since a word that stood before a code is a separate one afterwards. But each code
of the text itself is replaced (`subSetupCodes_eq`), since no code begins inside of another one.
-/

namespace MeltemVentilation

/-! ### Setup codes -/

/-- `REDACTED`. -/
def redacted : String := "**REDACTED**"

/-- `[0-9A-F]`. -/
def isUpperHexDigit (c : Char) : Bool := c ∈ "0123456789ABCDEF".toList

/-- `[0-9A-Fa-f]`. -/
def isHexDigit (c : Char) : Bool := c ∈ "0123456789ABCDEFabcdef".toList

/-- A text begins with six digits. -/
def sixDigits (isDigit : Char → Bool) (text : List Char) : Bool :=
  6 ≤ text.length ∧ (text.take 6).all isDigit

/-- `_SETUP_CODE`: a code is found at the beginning of a text, after a letter or at the beginning of
the whole one. -/
def setupCodeAt (before : Option Char) : List Char → Bool
  | [] => false
  | c :: rest =>
    c = 'R' ∧ sixDigits isUpperHexDigit rest ∨
      (c = 'R' ∨ c = 'r') ∧ sixDigits isHexDigit rest ∧
        before.all (!·.isAlphanum) ∧ (rest.drop 6).head?.all (!·.isAlphanum)

/-- The letters of a code. -/
def setupCodeLength : ℕ := 7

/-- `_SETUP_CODE.sub(REDACTED, text)`. -/
def subSetupCodes (text : String) : String :=
  String.ofList (Replace.sub setupCodeAt setupCodeLength redacted.toList 0 none text.toList)

/-! ### The download -/

/-- A value of a diagnostics download. -/
inductive Diagnostic where
  | null
  | bool (value : Bool)
  | int (value : ℤ)
  | float (text : String)
  | text (value : String)
  | list (items : List Diagnostic)
  | tuple (items : List Diagnostic)
  | dict (entries : List (String × Diagnostic))

namespace Diagnostic

/-- `is None`. -/
def isNull : Diagnostic → Bool
  | .null => true
  | _ => false

/-- An item is set in a dictionary: at the place of its key, or at the end. -/
def setItem (entries : List (String × Diagnostic)) (key : String) (item : Diagnostic) :
    List (String × Diagnostic) :=
  if key ∈ entries.map Prod.fst then
    entries.map fun entry => if entry.1 = key then (key, item) else entry
  else entries ++ [(key, item)]

/-- The items of a comprehension, set one after the other. -/
def dictOf (entries : List (String × Diagnostic)) : List (String × Diagnostic) :=
  entries.foldl (fun entries entry => setItem entries entry.1 entry.2) []

mutual

/-- `_redact_setup_codes`. -/
def redactSetupCodes : Diagnostic → Diagnostic
  | .text value => .text (subSetupCodes value)
  | .dict entries => .dict (dictOf (redactEntries entries))
  | .list items => .list (redactItems items)
  | .tuple items => .tuple (redactItems items)
  | value => value

/-- The items of a list or a tuple. -/
def redactItems : List Diagnostic → List Diagnostic
  | [] => []
  | item :: items => redactSetupCodes item :: redactItems items

/-- The items of a dictionary. -/
def redactEntries : List (String × Diagnostic) → List (String × Diagnostic)
  | [] => []
  | (key, item) :: entries =>
    (subSetupCodes key,
      if key = "app_setup_code" ∧ ¬item.isNull then .text redacted else redactSetupCodes item) ::
        redactEntries entries

end

/-- **What a download may hold** while a code is kept secret: no text and no key contains it, and
what is stored as a setup code is hidden, whatever it is. -/
inductive Hides (code : String) : Diagnostic → Prop
  | null : Hides code .null
  | bool (value : Bool) : Hides code (.bool value)
  | int (value : ℤ) : Hides code (.int value)
  | float (text : String) : Hides code (.float text)
  | text (value : String) : ¬code.toList <:+: value.toList → Hides code (.text value)
  | list (items : List Diagnostic) : (∀ item ∈ items, Hides code item) → Hides code (.list items)
  | tuple (items : List Diagnostic) : (∀ item ∈ items, Hides code item) → Hides code (.tuple items)
  | dict (entries : List (String × Diagnostic)) :
      (∀ entry ∈ entries, ¬code.toList <:+: entry.1.toList) →
      (∀ entry ∈ entries, Hides code entry.2) →
      (∀ entry ∈ entries, entry.1 = "app_setup_code" →
        entry.2 = .null ∨ entry.2 = .text redacted) → Hides code (.dict entries)

end Diagnostic

/-! ### Ports -/

/-- `message.replace(port, REDACTED)`. -/
def replacePort (port message : String) : String :=
  String.ofList (Replace.sub (fun _ text => port.toList.isPrefixOf text) port.toList.length
    redacted.toList 0 none message.toList)

/-- `redact_port`. -/
def redactPort (message : Option String) (port : String) : Option String :=
  match message with
  | some message => some (if message ≠ "" ∧ port ≠ "" then replacePort port message else message)
  | none => none

/-! ### What is found -/

/-- A code in capitals. -/
theorem exists_of_isAppSetupCode {code : String} (h : isAppSetupCode code = true) :
    ∃ digits, code.toList = 'R' :: digits ∧ digits.length = 6 ∧
      digits.all isUpperHexDigit = true := by
  obtain ⟨hlength, hstart, hdigits⟩ := of_decide_eq_true h
  cases hcode : code.toList with
  | nil => simp [hcode] at hlength
  | cons c digits =>
    simp only [startsWith, hcode] at hstart
    simp only [hcode, List.drop_one, List.tail_cons] at hdigits
    have hc : 'R' = c := by simpa using hstart
    refine ⟨digits, by rw [hc], by simpa [hcode] using hlength, ?_⟩
    exact hdigits

/-- **A code in capitals is found wherever it begins.** -/
theorem setupCodeAt_of_isAppSetupCode {code : String} (h : isAppSetupCode code = true)
    (before : Option Char) (rest : List Char) :
    setupCodeAt before (code.toList ++ rest) = true := by
  obtain ⟨digits, hcode, hlength, hdigits⟩ := exists_of_isAppSetupCode h
  have htake : (digits ++ rest).take 6 = digits := by rw [← hlength, List.take_left]
  have hsix : sixDigits isUpperHexDigit (digits ++ rest) = true := by
    simp only [sixDigits, htake, hdigits, List.length_append, and_true, decide_eq_true_eq]
    omega
  rw [hcode, List.cons_append, setupCodeAt]
  simp [hsix]

/-- No star is in a code, and no code fits into the replacement. -/
theorem not_infix_redacted {code : String} (h : isAppSetupCode code = true) :
    '*' ∉ code.toList ∧ ¬code.toList <:+: "*REDACTED*".toList := by
  obtain ⟨digits, hcode, hlength, hdigits⟩ := exists_of_isAppSetupCode h
  have hnot : ∀ c ∈ digits, isUpperHexDigit c = true := List.all_eq_true.mp hdigits
  have hmark : ∀ c : Char, c ≠ 'R' → isUpperHexDigit c = false → c ∉ code.toList := by
    intro c hc hdigit hmem
    rw [hcode, List.mem_cons] at hmem
    have := hnot c (hmem.resolve_left hc)
    simp [hdigit] at this
  refine ⟨hmark '*' (by decide) (by decide), fun hinfix => ?_⟩
  -- The letter T is no digit, and on either side of it are less than seven letters.
  have hsides : code.toList <:+: "*REDAC".toList ∨ code.toList <:+: "ED*".toList :=
    Replace.infix_append_cons (hmark 'T' (by decide) (by decide)) hinfix
  have hlong : code.toList.length = 7 := by rw [hcode, List.length_cons, hlength]
  rcases hsides with hside | hside
  · exact absurd (hlong ▸ hside.length_le) (by decide)
  · exact absurd (hlong ▸ hside.length_le) (by decide)

theorem redacted_eq : redacted.toList = '*' :: "*REDACTED*".toList ++ ['*'] := rfl

/-- No code is left in a text. -/
theorem not_infix_subSetupCodes {code : String} (h : isAppSetupCode code = true) (text : String) :
    ¬code.toList <:+: (subSetupCodes text).toList := by
  obtain ⟨hstar, hmiddle⟩ := not_infix_redacted h
  rw [subSetupCodes, String.toList_ofList]
  exact Replace.not_infix_sub redacted_eq hstar hstar hmiddle
    (fun before rest _ => setupCodeAt_of_isAppSetupCode h before rest) 0 none

/-- A text in which something is replaced has a star. -/
theorem eq_of_subSetupCodes {text text' : String} (h : subSetupCodes text = text')
    (hstar : '*' ∉ text'.toList) : text = text' := by
  have hlist : Replace.sub setupCodeAt setupCodeLength redacted.toList 0 none text.toList =
      text'.toList := by
    rw [← h, subSetupCodes, String.toList_ofList]
  have hmark : '*' ∈ redacted.toList := by decide
  have hself := Replace.sub_eq_self hmark (hlist ▸ hstar)
  exact String.toList_injective (hself.symm.trans hlist)

/-! ### No code is left -/

namespace Diagnostic

theorem mem_setItem {entries : List (String × Diagnostic)} {key : String} {item : Diagnostic}
    {entry : String × Diagnostic} (h : entry ∈ setItem entries key item) :
    entry ∈ entries ∨ entry = (key, item) := by
  unfold setItem at h
  split at h
  · obtain ⟨old, hold, heq⟩ := List.mem_map.mp h
    split at heq
    · exact .inr heq.symm
    · exact .inl (heq ▸ hold)
  · simpa using h

/-- The items of a dictionary are among those that have been set. -/
theorem mem_dictOf {entries : List (String × Diagnostic)} {entry : String × Diagnostic}
    (h : entry ∈ dictOf entries) : entry ∈ entries := by
  have hfold : ∀ start : List (String × Diagnostic),
      entry ∈ entries.foldl (fun entries entry => setItem entries entry.1 entry.2) start →
      entry ∈ start ∨ entry ∈ entries := by
    clear h
    induction entries with
    | nil => exact fun start h => .inl h
    | cons first entries ih =>
      intro start h
      rcases ih _ h with hmem | hmem
      · rcases mem_setItem hmem with hold | rfl
        · exact .inl hold
        · exact .inr List.mem_cons_self
      · exact .inr (List.mem_cons_of_mem _ hmem)
  exact (hfold [] h).resolve_left List.not_mem_nil

/-- What an entry of a dictionary may be. -/
def HidesEntry (code : String) (entry : String × Diagnostic) : Prop :=
  ¬code.toList <:+: entry.1.toList ∧ Hides code entry.2 ∧
    (entry.1 = "app_setup_code" → entry.2 = .null ∨ entry.2 = .text redacted)

theorem hides_redacted {code : String} (h : isAppSetupCode code = true) :
    Hides code (.text redacted) := by
  obtain ⟨hstar, hmiddle⟩ := not_infix_redacted h
  refine .text _ fun hinfix => ?_
  have hbody : code.toList <:+: [] ++ '*' :: ("*REDACTED*".toList ++ '*' :: []) := hinfix
  rcases Replace.infix_append_cons hstar hbody with hend | hend
  · exact absurd (hend.trans (List.nil_infix)) hmiddle
  rcases Replace.infix_append_cons hstar hend with hend | hend
  · exact hmiddle hend
  · exact hmiddle (hend.trans List.nil_infix)

/-- A null is redacted to one only. -/
theorem redactSetupCodes_of_isNull {item : Diagnostic} (h : item.isNull = true) :
    redactSetupCodes item = .null := by
  cases item <;> first | rfl | cases h

mutual

/-- **No code is left**, in any value. -/
theorem hides_redactSetupCodes {code : String} (h : isAppSetupCode code = true) :
    ∀ item, Hides code (redactSetupCodes item)
  | .null => .null
  | .bool value => .bool value
  | .int value => .int value
  | .float digits => .float digits
  | .text value => .text _ (not_infix_subSetupCodes h value)
  | .list items => .list _ (hides_redactItems h items)
  | .tuple items => .tuple _ (hides_redactItems h items)
  | .dict entries => by
    have hentries := hides_redactEntries h entries
    exact .dict _ (fun entry hmem => (hentries entry (mem_dictOf hmem)).1)
      (fun entry hmem => (hentries entry (mem_dictOf hmem)).2.1)
      (fun entry hmem => (hentries entry (mem_dictOf hmem)).2.2)

theorem hides_redactItems {code : String} (h : isAppSetupCode code = true) :
    ∀ items, ∀ item ∈ redactItems items, Hides code item
  | [], _, hmem => absurd hmem List.not_mem_nil
  | first :: items, item, hmem => by
    rcases List.mem_cons.mp hmem with rfl | hmem
    · exact hides_redactSetupCodes h first
    · exact hides_redactItems h items item hmem

theorem hides_redactEntries {code : String} (h : isAppSetupCode code = true) :
    ∀ entries, ∀ entry ∈ redactEntries entries, HidesEntry code entry
  | [], _, hmem => absurd hmem List.not_mem_nil
  | (key, first) :: entries, entry, hmem => by
    rcases List.mem_cons.mp hmem with rfl | hmem
    · refine ⟨not_infix_subSetupCodes h key, ?_, fun hkey => ?_⟩
      · dsimp only
        split
        · exact hides_redacted h
        · exact hides_redactSetupCodes h first
      · -- The key is the one that was there: a redacted one would have a star.
        have hsame : key = "app_setup_code" := eq_of_subSetupCodes hkey (by decide)
        by_cases hnull : first.isNull = true
        · exact .inl (by rw [if_neg (by simp [hnull]), redactSetupCodes_of_isNull hnull])
        · exact .inr (if_pos ⟨hsame, hnull⟩)
    · exact hides_redactEntries h entries entry hmem

end

end Diagnostic

/-- **No setup code is left in a download**: after the redaction, no text and no key at any depth
contains an `R` and six capital digits to the base sixteen, and what is stored as a setup code
is hidden or was not there. -/
theorem redactSetupCodes_hides {code : String} (h : isAppSetupCode code = true)
    (item : Diagnostic) : (Diagnostic.redactSetupCodes item).Hides code :=
  Diagnostic.hides_redactSetupCodes h item

/-- A code that is the key of an item and part of another one. -/
theorem redactSetupCodes_hides_sample :
    (Diagnostic.redactSetupCodes (.dict [("R00AB12", .text "read R00AB12 failed"),
      ("app_setup_code", .int 43794)])).Hides "R00AB12" :=
  redactSetupCodes_hides (by decide) _

/-! ### Every code is replaced -/

theorem ne_of_isHexDigit {c : Char} (h : isHexDigit c = true) : c ≠ 'R' ∧ c ≠ 'r' := by
  constructor
  · rintro rfl
    exact absurd h (by decide)
  · rintro rfl
    exact absurd h (by decide)

theorem isHexDigit_of_isUpperHexDigit {c : Char} (h : isUpperHexDigit c = true) :
    isHexDigit c = true := by
  have hdigits : "0123456789ABCDEFabcdef".toList = "0123456789ABCDEF".toList ++ "abcdef".toList :=
    rfl
  rw [isHexDigit, hdigits]
  exact decide_eq_true (List.mem_append_left _ (of_decide_eq_true h))

/-- After the first letter of a code come six digits. -/
theorem sixDigits_of_setupCodeAt {before : Option Char} {text : List Char}
    (h : setupCodeAt before text = true) :
    ∃ c rest, text = c :: rest ∧ 6 ≤ rest.length ∧ ∀ d ∈ rest.take 6, isHexDigit d = true := by
  cases text with
  | nil => cases h
  | cons c rest =>
    refine ⟨c, rest, rfl, ?_⟩
    rcases of_decide_eq_true h with ⟨-, hdigits⟩ | ⟨-, hdigits, -⟩
    · obtain ⟨hlength, hall⟩ := of_decide_eq_true hdigits
      exact ⟨hlength, fun d hd => isHexDigit_of_isUpperHexDigit (List.all_eq_true.mp hall d hd)⟩
    · obtain ⟨hlength, hall⟩ := of_decide_eq_true hdigits
      exact ⟨hlength, List.all_eq_true.mp hall⟩

/-- **No code begins inside of another one.** -/
theorem setupCodeAt_drop {before : Option Char} {text : List Char}
    (h : setupCodeAt before text = true) (before' : Option Char) (k : ℕ) (hpos : 0 < k)
    (hk : k < setupCodeLength) : setupCodeAt before' (text.drop k) = false := by
  obtain ⟨c, rest, rfl, hlength, hdigits⟩ := sixDigits_of_setupCodeAt h
  obtain ⟨k, rfl⟩ : ∃ j, k = j + 1 := ⟨k - 1, by omega⟩
  rw [setupCodeLength] at hk
  have hlt : k < rest.length := by omega
  have hmem : rest[k] ∈ rest.take 6 :=
    List.mem_take_iff_getElem.mpr ⟨k, by omega, rfl⟩
  obtain ⟨hR, hr⟩ := ne_of_isHexDigit (hdigits _ hmem)
  rw [List.drop_succ_cons, List.drop_eq_getElem_cons hlt, setupCodeAt]
  simp [hR, hr]

/-- **Every code of a text is replaced, and nothing else**: what comes out for each letter is the
replacement if a code begins there, nothing if it is one of the six digits of a code, and else the
letter. -/
theorem subSetupCodes_eq (text : String) :
    (subSetupCodes text).toList = (List.range text.toList.length).flatMap
      (Replace.piece setupCodeAt setupCodeLength redacted.toList 0 none text.toList) := by
  rw [subSetupCodes, String.toList_ofList]
  exact Replace.sub_eq_flatMap (fun before text h => setupCodeAt_drop h) (by simp)

/-! ### Ports -/

/-- **No port is left in a message**, neither when it is replaced nor after the setup codes have
been. The port or the host has no star and is no part of the replacement. -/
theorem redactPort_hides {port : String} (hport : port ≠ "") (hstar : '*' ∉ port.toList)
    (hpart : ¬port.toList <:+: "REDACTED".toList) {message text : String}
    (h : redactPort (some message) port = some text) :
    ¬port.toList <:+: text.toList ∧ ¬port.toList <:+: (subSetupCodes text).toList := by
  have hne : port.toList ≠ [] := fun hnil => hport (String.toList_injective hnil)
  have hmiddle : ¬port.toList <:+: "*REDACTED*".toList := by
    intro hinfix
    have hbody : port.toList <:+: [] ++ '*' :: ("REDACTED".toList ++ '*' :: []) := hinfix
    rcases Replace.infix_append_cons hstar hbody with hend | hend
    · exact hne (List.infix_nil.mp hend)
    · rcases Replace.infix_append_cons hstar hend with hend | hend
      · exact hpart hend
      · exact hne (List.infix_nil.mp hend)
  have hclean : ¬port.toList <:+: text.toList := by
    simp only [redactPort, Option.some.injEq] at h
    by_cases hmessage : message = ""
    · rw [if_neg (by simp [hmessage]), hmessage] at h
      rw [← h]
      exact fun hinfix => hne (List.infix_nil.mp hinfix)
    · rw [if_pos ⟨hmessage, hport⟩] at h
      rw [← h, replacePort, String.toList_ofList]
      exact Replace.not_infix_sub redacted_eq hstar hstar hmiddle
        (fun before rest _ => List.isPrefixOf_iff_prefix.mpr (List.prefix_append _ _)) 0 none
  refine ⟨hclean, ?_⟩
  rw [subSetupCodes, String.toList_ofList]
  exact Replace.not_infix_sub redacted_eq hstar hstar hmiddle
    (fun before rest hsuffix => absurd
      ((List.prefix_append _ _).isInfix.trans hsuffix.isInfix) hclean) 0 none

/-- The error of a serial port. -/
theorem redactPort_hides_sample :
    ¬"/dev/ttyUSB0".toList <:+: "cannot open **REDACTED**".toList := by
  have h : redactPort (some "cannot open /dev/ttyUSB0") "/dev/ttyUSB0" =
      some "cannot open **REDACTED**" := by decide
  exact (redactPort_hides (by decide) (by decide) (by decide) h).1

end MeltemVentilation
