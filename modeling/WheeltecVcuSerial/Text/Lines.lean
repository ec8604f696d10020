import Mathlib.Data.List.Basic

universe u

namespace WheeltecVcuSerial.Text

variable {α : Type u} [DecidableEq α] {sep : α}

/-- The lines of a text that `sep` has ended, and what stands after the last of them. -/
def cut (sep : α) : List α → List (List α) × List α
  | [] => ([], [])
  | a :: text =>
    let (lines, rest) := cut sep text
    if a = sep then ([] :: lines, rest)
    else
      match lines with
      | [] => ([], a :: rest)
      | line :: lines => ((a :: line) :: lines, rest)

omit [DecidableEq α] in
/-- The text that ended lines and a last piece are cut from. -/
def joined (sep : α) (lines : List (List α)) (rest : List α) : List α :=
  lines.flatMap (· ++ [sep]) ++ rest

theorem cut_of_not_mem {text : List α} (h : sep ∉ text) : cut sep text = ([], text) := by
  induction text with
  | nil => rfl
  | cons a text ih =>
    rw [List.mem_cons, not_or] at h
    rw [cut, ih h.2]
    exact if_neg (Ne.symm h.1)

theorem cut_append_cons {line : List α} (h : sep ∉ line) (text : List α) :
    cut sep (line ++ sep :: text) = (line :: (cut sep text).1, (cut sep text).2) := by
  induction line with
  | nil => exact if_pos rfl
  | cons a line ih =>
    rw [List.mem_cons, not_or] at h
    rw [List.cons_append, cut, ih h.2]
    exact if_neg (Ne.symm h.1)

/-- Lines without the separator are found again, whatever they are followed by. -/
theorem cut_flatMap_append {lines : List (List α)} (h : ∀ line ∈ lines, sep ∉ line)
    (text : List α) :
    cut sep (lines.flatMap (· ++ [sep]) ++ text) =
      (lines ++ (cut sep text).1, (cut sep text).2) := by
  induction lines with
  | nil => rfl
  | cons line lines ih =>
    rw [List.forall_mem_cons] at h
    rw [List.flatMap_cons, List.append_assoc, List.append_assoc, List.singleton_append,
      cut_append_cons h.1, ih h.2]
    rfl

theorem cut_joined {lines : List (List α)} {rest : List α} (h : ∀ line ∈ lines, sep ∉ line)
    (hrest : sep ∉ rest) : cut sep (joined sep lines rest) = (lines, rest) := by
  rw [joined, cut_flatMap_append h, cut_of_not_mem hrest, List.append_nil]

/-- The pieces hold no separator, and the text is made of them. -/
theorem joined_cut (sep : α) (text : List α) :
    joined sep (cut sep text).1 (cut sep text).2 = text ∧
      (∀ line ∈ (cut sep text).1, sep ∉ line) ∧ sep ∉ (cut sep text).2 := by
  induction text with
  | nil => simp [cut, joined]
  | cons a text ih =>
    obtain ⟨hjoined, hlines, hrest⟩ := ih
    rw [cut]
    cases hcut : cut sep text with
    | mk lines rest =>
      rw [hcut] at hjoined hlines hrest
      dsimp only at hjoined hlines hrest ⊢
      split
      · case isTrue heq =>
        subst heq
        exact ⟨congrArg (a :: ·) hjoined, by simpa using hlines, hrest⟩
      · case isFalse hne =>
        cases lines with
        | nil => exact ⟨congrArg (a :: ·) hjoined, by simp, by simpa using ⟨Ne.symm hne, hrest⟩⟩
        | cons line lines =>
          rw [List.forall_mem_cons] at hlines
          refine ⟨congrArg (a :: ·) hjoined, ?_, hrest⟩
          simpa using ⟨⟨Ne.symm hne, hlines.1⟩, hlines.2⟩

/-- A text that comes in two pieces: what the first one leaves goes before the second one. -/
theorem cut_append (sep : α) (first second : List α) :
    cut sep (first ++ second) =
      ((cut sep first).1 ++ (cut sep ((cut sep first).2 ++ second)).1,
        (cut sep ((cut sep first).2 ++ second)).2) := by
  obtain ⟨hjoined, hlines, -⟩ := joined_cut sep first
  calc cut sep (first ++ second)
      = cut sep (joined sep (cut sep first).1 (cut sep first).2 ++ second) := by rw [hjoined]
    _ = _ := by rw [joined, List.append_assoc, cut_flatMap_append hlines]

/-- The lines of the beginning of a text are the first lines of the text. -/
theorem cut_beginning {first text : List α} (h : first <+: text) :
    (cut sep first).1 <+: (cut sep text).1 := by
  obtain ⟨second, rfl⟩ := h
  rw [cut_append]
  exact List.prefix_append _ _

/-- A text that ends with a separator has fewer lines in each of its beginnings. -/
theorem eq_of_cut_length {first text : List α} (h : first <+: text) (hended : (cut sep text).2 = [])
    (hlines : (cut sep text).1.length ≤ (cut sep first).1.length) : first = text := by
  have hsame : (cut sep first).1 = (cut sep text).1 := (cut_beginning h).eq_of_length_le hlines
  refine h.eq_of_length_le ?_
  rw [← (joined_cut sep first).1, ← (joined_cut sep text).1, hsame, hended, joined, joined]
  simp

end WheeltecVcuSerial.Text
