import Mathlib.Data.List.Basic
import Mathlib.Data.Nat.Notation
import Mathlib.Tactic.TypeStar

/-!
# Splitting a joined list again

`SplitText.split sep 0 text` cuts a list at the occurrences of a separator, from the left and
without overlaps, as the splitting of texts does. It inverts the joining of parts
(`SplitText.split_intercalate`) if the separator contains a mark that no part contains: an
occurrence of the separator puts its first mark on the first mark of the text, so that it
cannot begin inside a part.
-/

namespace SplitText

variable {α : Type*} [DecidableEq α] {sep part text : List α} {mark : α}

/-- Cut the list at the separators; so many items belong to a separator that has begun. -/
def split (sep : List α) : ℕ → List α → List (List α)
  | _, [] => [[]]
  | skip + 1, _ :: rest => split sep skip rest
  | 0, x :: rest =>
    if sep <+: x :: rest then [] :: split sep (sep.length - 1) rest
    else (split sep 0 rest).modifyHead (x :: ·)

/-- What belongs to a separator is passed over. -/
theorem split_skip (sep pre text : List α) :
    split sep pre.length (pre ++ text) = split sep 0 text := by
  induction pre with
  | nil => rfl
  | cons x pre ih => rw [List.length_cons, List.cons_append, split, ih]

/-- Where the text begins with a separator, it is cut. -/
theorem split_sep (hsep : sep ≠ []) (text : List α) :
    split sep 0 (sep ++ text) = [] :: split sep 0 text := by
  cases sep with
  | nil => exact absurd rfl hsep
  | cons x sep =>
    have hbegins : x :: sep <+: x :: (sep ++ text) := List.prefix_append _ _
    rw [List.cons_append, split, if_pos hbegins, List.length_cons, Nat.add_sub_cancel,
      split_skip]

/-- **No separator begins in a part** without the mark, whether the text ends there or goes on
with a separator. -/
theorem not_prefix_of_notMem (hmark : mark ∈ sep) (hpart : mark ∉ part) (hne : part ≠ [])
    (htext : text = [] ∨ sep <+: text) : ¬sep <+: part ++ text := by
  rintro ⟨after, hafter⟩
  rcases htext with rfl | ⟨more, rfl⟩
  · -- The mark of the separator would be one of the part.
    rw [List.append_nil] at hafter
    exact hpart (hafter ▸ List.mem_append_left _ hmark)
  · obtain ⟨before, rest, rfl, hbefore⟩ := List.eq_append_cons_of_mem hmark
    -- Up to the first mark, one text is `before` and the other one `part ++ before`.
    have hfirst := congrArg (List.takeWhile (· ≠ mark)) hafter
    have hleft : ∀ {l tail : List α}, mark ∉ l →
        (l ++ mark :: tail).takeWhile (· ≠ mark) = l := by
      intro l tail hl
      rw [List.takeWhile_append_of_pos (by grind)]
      simp
    rw [List.append_assoc, List.cons_append, hleft hbefore, List.append_assoc,
      List.cons_append, ← List.append_assoc, hleft (by simp [hpart, hbefore])] at hfirst
    exact hne (by simpa using hfirst)

/-- A part is kept as a whole. -/
theorem split_part (hmark : mark ∈ sep) (hpart : mark ∉ part)
    (htext : text = [] ∨ sep <+: text) :
    split sep 0 (part ++ text) = (split sep 0 text).modifyHead (part ++ ·) := by
  induction part with
  | nil =>
    rw [List.nil_append]
    cases split sep 0 text <;> rfl
  | cons x part ih =>
    have hbegins : ¬sep <+: x :: (part ++ text) :=
      not_prefix_of_notMem hmark hpart (by simp) htext
    rw [List.cons_append, split, if_neg hbegins, ih (List.not_mem_of_not_mem_cons hpart)]
    cases split sep 0 text <;> rfl

/-- **Splitting inverts joining**, for parts without the mark. -/
theorem split_intercalate (hmark : mark ∈ sep) {parts : List (List α)} (hne : parts ≠ [])
    (hparts : ∀ part ∈ parts, mark ∉ part) : split sep 0 (sep.intercalate parts) = parts := by
  induction parts with
  | nil => exact absurd rfl hne
  | cons part parts ih =>
    have hpart : mark ∉ part := hparts part List.mem_cons_self
    cases parts with
    | nil =>
      have hsplit : split sep 0 (part ++ []) = (split sep 0 []).modifyHead (part ++ ·) :=
        split_part hmark hpart (.inl rfl)
      simpa [split] using hsplit
    | cons next parts =>
      have hrest : split sep 0 (sep.intercalate (next :: parts)) = next :: parts :=
        ih (by simp) fun part hmem => hparts part (List.mem_cons_of_mem _ hmem)
      rw [List.intercalate_cons_cons, List.append_assoc,
        split_part hmark hpart (.inr (List.prefix_append _ _)),
        split_sep (List.ne_nil_of_mem hmark), hrest]
      simp

end SplitText
