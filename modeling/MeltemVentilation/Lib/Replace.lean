import Mathlib.Data.List.Infix
import Mathlib.Data.List.Range
import Mathlib.Data.Nat.Notation
import Mathlib.Tactic.TypeStar

/-!
# Replacing in a text

`Replace.sub` goes through a text from the left and replaces what a predicate finds, without
overlaps, as the substitution of a pattern does. Everything found has the same length; the
predicate sees the letter before and the text that is left.

Two questions are answered about the text that comes out. *What is not in it any more*
(`Replace.not_infix_sub`): a word that is found wherever it begins, if the replacement begins and
ends with letters that the word does not have, so that no new occurrence can arise across its
ends. *What has been replaced* (`Replace.sub_eq_flatMap`): if nothing is found inside of
something found, everything that is found in the text at all, wherever one looks first.
-/

namespace Replace

variable {α : Type*} (found : Option α → List α → Bool) (length : ℕ) (replacement : List α)

/-- Replace what is found; so many letters belong to something that has been found. -/
def sub : ℕ → Option α → List α → List α
  | _, _, [] => []
  | skip + 1, _, x :: rest => sub skip (some x) rest
  | 0, before, x :: rest =>
    if found before (x :: rest) then replacement ++ sub (length - 1) (some x) rest
    else x :: sub 0 (some x) rest

variable {found} {length} {replacement}

/-! ### What is not there any more -/

/-- A word without a letter lies on one side of it. -/
theorem infix_append_cons {word left right : List α} {mark : α} (hmark : mark ∉ word)
    (h : word <:+: left ++ mark :: right) : word <:+: left ∨ word <:+: right := by
  obtain ⟨start, rest, h⟩ := h
  rw [List.append_assoc, List.append_eq_append_iff] at h
  rcases h with ⟨middle, rfl, h⟩ | ⟨middle, rfl, h⟩
  · rcases List.append_eq_append_iff.mp h with ⟨more, rfl, -⟩ | ⟨more, rfl, hmore⟩
    · exact .inl ⟨start, more, by rw [List.append_assoc]⟩
    · cases more with
      | nil => exact .inl ⟨start, [], by simp⟩
      | cons first more =>
        obtain ⟨rfl, -⟩ := List.cons.inj hmore
        exact absurd (List.mem_append_right _ List.mem_cons_self) hmark
  · cases middle with
    | nil =>
      cases word with
      | nil => exact .inr (List.nil_infix)
      | cons first word =>
        obtain ⟨rfl, -⟩ := List.cons.inj h
        exact absurd List.mem_cons_self hmark
    | cons first middle =>
      obtain ⟨-, rfl⟩ := List.cons.inj h
      exact .inr ⟨middle, rest, List.append_assoc _ _ _⟩

/-- A word at the beginning of what comes out is one of the text, if the replacement begins with
another letter. -/
theorem prefix_of_prefix_sub {first : α} {after word : List α} (hfirst : first ∉ word)
    (hreplacement : replacement = first :: after) {before : Option α} {text : List α}
    (h : word <+: sub found length replacement 0 before text) : word <+: text := by
  induction word generalizing before text with
  | nil => exact List.nil_prefix
  | cons c word ih =>
    rw [List.mem_cons, not_or] at hfirst
    cases text with
    | nil => exact absurd h (by simp [sub])
    | cons x rest =>
      rw [sub] at h
      split at h
      · rw [hreplacement, List.cons_append, List.cons_prefix_cons] at h
        exact absurd h.1.symm hfirst.1
      · rw [List.cons_prefix_cons] at h ⊢
        exact ⟨h.1, ih hfirst.2 h.2⟩

/-- A text that comes out without a letter of the replacement is the one that went in. -/
theorem sub_eq_self {mark : α} (hmark : mark ∈ replacement) {before : Option α} {text : List α}
    (h : mark ∉ sub found length replacement 0 before text) :
    sub found length replacement 0 before text = text := by
  induction text generalizing before with
  | nil => rfl
  | cons x rest ih =>
    rw [sub] at h ⊢
    split at h
    · exact absurd (List.mem_append_left _ hmark) h
    · rename_i hnot
      rw [if_neg hnot, ih fun hmem => h (List.mem_cons_of_mem _ hmem)]

/-- **What is found wherever it begins is not there any more.** A word that has not been there
before is not there afterwards, either. -/
theorem not_infix_sub {first last : α} {middle word : List α}
    (hreplacement : replacement = first :: middle ++ [last]) (hfirst : first ∉ word)
    (hlast : last ∉ word) (hmiddle : ¬word <:+: middle) {text : List α}
    (hfound : ∀ before rest, word ++ rest <:+ text → found before (word ++ rest) = true)
    (skip : ℕ) (before : Option α) :
    ¬word <:+: sub found length replacement skip before text := by
  have hne : word ≠ [] := by
    rintro rfl
    exact hmiddle List.nil_infix
  induction text generalizing skip before with
  | nil => simpa [sub] using hne
  | cons x rest ih =>
    replace ih := ih fun before more hmore =>
      hfound before more (hmore.trans (List.suffix_cons _ _))
    cases skip with
    | succ skip => exact ih skip (some x)
    | zero =>
      rw [sub]
      split
      · have hends : ∀ tail, replacement ++ tail = [] ++ first :: (middle ++ last :: tail) :=
          fun tail => by simp [hreplacement]
        intro h
        rw [hends] at h
        rcases infix_append_cons hfirst h with h | h
        · exact hne (List.infix_nil.mp h)
        · exact (infix_append_cons hlast h).elim hmiddle (ih _ _)
      · rename_i hnot
        intro h
        rcases List.infix_cons_iff.mp h with h | h
        · -- The word would have been found where it begins.
          obtain ⟨tail, rfl⟩ : ∃ tail, word = x :: tail := by
            obtain ⟨c, tail, rfl⟩ := List.exists_cons_of_ne_nil hne
            obtain ⟨rfl, -⟩ := List.cons_prefix_cons.mp h
            exact ⟨tail, rfl⟩
          obtain ⟨more, rfl⟩ := prefix_of_prefix_sub
            (fun hmem => hfirst (List.mem_cons_of_mem _ hmem)) hreplacement
            (List.cons_prefix_cons.mp h).2
          exact hnot (hfound before more (List.suffix_refl _))
        · exact ih _ _ h

/-! ### What has been replaced -/

/-- Something is found at a place of a text. -/
def foundAt (found : Option α → List α → Bool) (before : Option α) (text : List α) (i : ℕ) : Bool :=
  found (if i = 0 then before else text[i - 1]?) (text.drop i)

/-- What comes out for the letter at a place: the replacement if something is found there, nothing
if it belongs to something that is found before it, and else the letter. -/
def piece (found : Option α → List α → Bool) (length : ℕ) (replacement : List α) (skip : ℕ)
    (before : Option α) (text : List α) (i : ℕ) : List α :=
  if foundAt found before text i then replacement
  else if i < skip ∨ ∃ j < i, foundAt found before text j = true ∧ i < j + length then []
  else text[i]?.toList

theorem foundAt_succ (before : Option α) (x : α) (rest : List α) (i : ℕ) :
    foundAt found before (x :: rest) (i + 1) = foundAt found (some x) rest i := by
  cases i <;> rfl

/-- **What has been replaced is everything that is found**, if nothing is found inside of
something found. -/
theorem sub_eq_flatMap (hseparate : ∀ before text, found before text = true → ∀ before' k,
      0 < k → k < length → found before' (text.drop k) = false)
    {skip : ℕ} {before : Option α} {text : List α}
    (hskip : ∀ i < skip, foundAt found before text i = false) :
    sub found length replacement skip before text =
      (List.range text.length).flatMap
        (piece found length replacement skip before text) := by
  induction text generalizing skip before with
  | nil => rfl
  | cons x rest ih =>
    -- The places after the first one are those of the rest.
    have hpiece : ∀ skip', (∀ i, i < skip' ↔ i + 1 < skip ∨
        foundAt found before (x :: rest) 0 = true ∧ i + 1 < length) →
        (List.range (rest.length + 1)).flatMap
            (piece found length replacement skip before (x :: rest)) =
          piece found length replacement skip before (x :: rest) 0 ++
            (List.range rest.length).flatMap
              (piece found length replacement skip' (some x) rest) := by
      intro skip' hskip'
      rw [List.range_succ_eq_map, List.flatMap_cons, List.flatMap_map]
      congr 1
      refine List.flatMap_congr fun i _ => ?_
      have hcovered : (i + 1 < skip ∨ ∃ j < i + 1,
            foundAt found before (x :: rest) j = true ∧ i + 1 < j + length) ↔
          i < skip' ∨ ∃ j < i, foundAt found (some x) rest j = true ∧ i < j + length := by
        rw [hskip']
        constructor
        · rintro (hlt | ⟨j, hj, hfound, hlt⟩)
          · exact .inl (.inl hlt)
          · cases j with
            | zero => exact .inl (.inr ⟨hfound, by omega⟩)
            | succ j =>
              rw [foundAt_succ] at hfound
              exact .inr ⟨j, by omega, hfound, by omega⟩
        · rintro ((hlt | ⟨hfound, hlt⟩) | ⟨j, hj, hfound, hlt⟩)
          · exact .inl hlt
          · exact .inr ⟨0, by omega, hfound, by omega⟩
          · exact .inr ⟨j + 1, by omega, by rwa [foundAt_succ], by omega⟩
      simp only [piece, foundAt_succ, hcovered, List.getElem?_cons_succ]
    rw [List.length_cons]
    cases skip with
    | succ skip =>
      have hnot : foundAt found before (x :: rest) 0 = false := hskip 0 (by omega)
      rw [sub, hpiece skip (by simp [hnot]), ih fun i hi => by
        rw [← foundAt_succ before]
        exact hskip (i + 1) (by omega)]
      simp [piece, hnot]
    | zero =>
      rw [sub]
      by_cases hfound : found before (x :: rest) = true
      · have hat : foundAt found before (x :: rest) 0 = true := hfound
        rw [if_pos hfound, hpiece (length - 1) (by simp [hat]; omega), ih fun i hi => by
          rw [← foundAt_succ before]
          exact hseparate before (x :: rest) hfound _ (i + 1) (by omega) (by omega)]
        simp [piece, hat]
      · have hat : foundAt found before (x :: rest) 0 = false := by
          simpa [foundAt] using hfound
        rw [if_neg hfound, hpiece 0 (by simp [hat]), ih (by simp)]
        simp [piece, hat]

end Replace
