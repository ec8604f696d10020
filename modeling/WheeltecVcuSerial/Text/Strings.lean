import Mathlib.Data.List.DropRight
import Mathlib.Data.List.Basic

/-! Searching in a string, cutting it and trimming it, by positions. -/

universe u

namespace WheeltecVcuSerial.Text

/-- As many characters as there are from `offset` on, at most `count`. -/
def substr {α : Type u} (text : List α) (offset count : ℕ) : List α :=
  (text.drop offset).take count

variable {α : Type u} [DecidableEq α]

/-- Where `a` stands first in a text from `offset` on. -/
def find (a : α) (offset : ℕ) (text : List α) : Option ℕ :=
  ((text.drop offset).findIdx? (· = a)).map (offset + ·)

def findFirstNotOf (set text : List α) : Option ℕ := text.findIdx? (· ∉ set)

def findLastNotOf (set text : List α) : Option ℕ :=
  (text.reverse.findIdx? (· ∉ set)).map (text.length - 1 - ·)

/-- A text without the characters of `set` at either end. -/
def trim (set text : List α) : List α := (text.dropWhile (· ∈ set)).rdropWhile (· ∈ set)

variable {a : α} {offset : ℕ} {text before after left right set : List α}

omit [DecidableEq α] in
theorem substr_eq (h : text.drop offset = before ++ after) :
    substr text offset before.length = before := by
  rw [substr, h, List.take_left']
  rfl

omit [DecidableEq α] in
theorem drop_after (h : text.drop offset = before ++ a :: after) :
    text.drop (offset + before.length + 1) = after := by
  rw [Nat.add_assoc, ← List.drop_drop, h, ← List.drop_drop, List.drop_left]
  rfl

@[simp] theorem find_eq_none : find a offset text = none ↔ a ∉ text.drop offset := by
  simp [find, List.findIdx?_eq_none_iff, List.forall_mem_ne']

/-- The first separator after `offset` ends what stands before it. -/
theorem find_eq_some (h : text.drop offset = before ++ a :: after) (ha : a ∉ before) :
    find a offset text = some (offset + before.length) := by
  have hbefore : before.findIdx? (· = a) = none := by
    simpa [List.findIdx?_eq_none_iff, List.forall_mem_ne'] using ha
  simp [find, h, List.findIdx?_append, hbefore, List.findIdx?_cons]

theorem findFirstNotOf_eq_none (h : ∀ a ∈ text, a ∈ set) : findFirstNotOf set text = none := by
  rw [findFirstNotOf, List.findIdx?_eq_none_iff]
  simpa using h

theorem findFirstNotOf_eq_some (hbefore : ∀ b ∈ before, b ∈ set) (ha : a ∉ set) :
    findFirstNotOf set (before ++ a :: after) = some before.length := by
  have hnone : before.findIdx? (· ∉ set) = none := by
    simpa [List.findIdx?_eq_none_iff] using hbefore
  rw [findFirstNotOf, List.findIdx?_append, hnone, List.findIdx?_cons]
  simp [ha]

theorem findLastNotOf_eq_some (hafter : ∀ b ∈ after, b ∈ set) (ha : a ∉ set) :
    findLastNotOf set (before ++ a :: after) = some before.length := by
  have hreverse : (before ++ a :: after).reverse.findIdx? (· ∉ set) = some after.length := by
    rw [List.reverse_append, List.reverse_cons, List.append_assoc, ← after.length_reverse]
    exact findFirstNotOf_eq_some (fun b hb => hafter b (List.mem_reverse.mp hb)) ha
  rw [findLastNotOf, hreverse]
  simp

/-! ### Trimming -/

theorem trim_append_right (hright : ∀ a ∈ right, a ∈ set) :
    trim set (text ++ right) = trim set text := by
  have hdrop : right.dropWhile (· ∈ set) = [] :=
    List.dropWhile_eq_nil_iff.mpr (by simpa using hright)
  have hrdrop : ∀ text : List α,
      (text ++ right).rdropWhile (· ∈ set) = text.rdropWhile (· ∈ set) := by
    intro text
    rw [List.rdropWhile, List.reverse_append,
      List.dropWhile_append_of_pos (by simpa using hright), List.rdropWhile]
  rw [trim, List.dropWhile_append]
  by_cases htext : (text.dropWhile (· ∈ set)).isEmpty
  · rw [if_pos htext, hdrop, trim, List.isEmpty_iff.mp htext]
  · rw [if_neg htext, hrdrop, trim]

theorem trim_eq_nil : trim set text = [] ↔ ∀ a ∈ text, a ∈ set := by
  rw [trim, List.rdropWhile_eq_nil_iff]
  constructor
  · intro h a ha
    rw [← List.takeWhile_append_dropWhile (p := (· ∈ set)) (l := text), List.mem_append] at ha
    rcases ha with htake | hdrop
    · simpa using List.mem_takeWhile_imp htake
    · simpa using h a hdrop
  · intro h a ha
    simpa using h a ((List.dropWhile_suffix _).subset ha)

/-- Every text is its trimmed text between characters of the set. -/
theorem exists_eq_trim (set text : List α) :
    ∃ left right, text = left ++ trim set text ++ right ∧
      (∀ a ∈ left, a ∈ set) ∧ ∀ a ∈ right, a ∈ set := by
  refine ⟨text.takeWhile (· ∈ set), (text.dropWhile (· ∈ set)).rtakeWhile (· ∈ set), ?_, ?_, ?_⟩
  · rw [trim, List.append_assoc, List.rdropWhile_append_rtakeWhile, List.takeWhile_append_dropWhile]
  · intro a ha
    simpa using List.mem_takeWhile_imp ha
  · intro a ha
    simpa using List.mem_rtakeWhile_imp ha

theorem mem_trim (hmem : a ∈ text) (ha : a ∉ set) : a ∈ trim set text := by
  obtain ⟨left, right, heq, hleft, hright⟩ := exists_eq_trim set text
  rw [heq, List.mem_append, List.mem_append] at hmem
  rcases hmem with (hmem | hmem) | hmem
  · exact absurd (hleft a hmem) ha
  · exact hmem
  · exact absurd (hright a hmem) ha

theorem not_mem_of_head?_trim (h : (trim set text).head? = some a) : a ∉ set := by
  obtain ⟨rest, hrest⟩ := List.head?_eq_some_iff.mp h
  obtain ⟨after, hafter⟩ := List.rdropWhile_prefix (· ∈ set) (text.dropWhile (· ∈ set))
  have hhead := List.head?_dropWhile_not (· ∈ set) text
  rw [trim] at hrest
  rw [← hafter, hrest] at hhead
  simpa using hhead

theorem not_mem_of_getLast?_trim (h : (trim set text).getLast? = some a) : a ∉ set := by
  have hne : trim set text ≠ [] := by
    intro hnil
    rw [hnil] at h
    cases h
  have hlast := List.rdropWhile_last_not (· ∈ set) _ hne
  rw [List.getLast?_eq_some_getLast hne, Option.some.injEq] at h
  rw [← h]
  simpa [trim] using hlast

/-- The trimmed text stands from the first to the last character outside of the set. -/
theorem exists_positions (h : trim set text ≠ []) :
    ∃ first last, findFirstNotOf set text = some first ∧ findLastNotOf set text = some last ∧
      substr text first (last - first + 1) = trim set text := by
  obtain ⟨left, right, heq, hleft, hright⟩ := exists_eq_trim set text
  obtain ⟨a, tail, ha⟩ := List.exists_cons_of_ne_nil h
  obtain ⟨init, b, hb⟩ := (List.eq_nil_or_concat (trim set text)).resolve_left h
  rw [List.concat_eq_append] at hb
  have hfirst : findFirstNotOf set text = some left.length := by
    rw [heq, ha, List.append_assoc, List.cons_append]
    exact findFirstNotOf_eq_some hleft (not_mem_of_head?_trim (by rw [ha]; rfl))
  have hlast : findLastNotOf set text = some (left ++ init).length := by
    rw [heq, hb, ← List.append_assoc, List.append_assoc (left ++ init), List.singleton_append]
    exact findLastNotOf_eq_some hright (not_mem_of_getLast?_trim (by rw [hb, List.getLast?_concat]))
  have hcount : (left ++ init).length - left.length + 1 = (trim set text).length := by
    rw [hb]
    simp
  have hdrop : text.drop left.length = trim set text ++ right := by
    have hsplit := congrArg (List.drop left.length) heq
    rwa [List.append_assoc, List.drop_left] at hsplit
  exact ⟨_, _, hfirst, hlast, by rw [hcount, substr_eq hdrop]⟩

theorem trim_eq_self (hfirst : ∀ a ∈ text.head?, a ∉ set) (hlast : ∀ a ∈ text.getLast?, a ∉ set) :
    trim set text = text := by
  have hdrop : text.dropWhile (· ∈ set) = text := by
    cases text with
    | nil => rfl
    | cons a text => simp [hfirst a rfl]
  rw [trim, hdrop, List.rdropWhile_eq_self_iff]
  intro hne
  simpa using hlast _ (List.getLast?_eq_some_getLast hne)

omit [DecidableEq α] in
theorem dropWhile_append_cons (p : α → Bool) (ha : p a = false) :
    (left ++ a :: right).dropWhile p = left.dropWhile p ++ a :: right := by
  rw [List.dropWhile_append]
  split
  · rename_i hempty
    rw [List.isEmpty_iff.mp hempty, List.nil_append, List.dropWhile_cons_of_neg (by simp [ha])]
  · rfl

/-- A text around a character that stays is trimmed on either side of it. -/
theorem trim_append_cons (ha : a ∉ set) : trim set (left ++ a :: right) =
    left.dropWhile (· ∈ set) ++ a :: right.rdropWhile (· ∈ set) := by
  have hnot : decide (a ∈ set) = false := decide_eq_false ha
  rw [trim, dropWhile_append_cons (· ∈ set) hnot, List.rdropWhile, List.reverse_append,
    List.reverse_cons, List.append_assoc, List.singleton_append,
    dropWhile_append_cons (· ∈ set) hnot, List.reverse_append, List.reverse_cons,
    List.reverse_reverse, List.append_assoc, List.rdropWhile]
  rfl

theorem trim_dropWhile : trim set (text.dropWhile (· ∈ set)) = trim set text := by
  rw [trim, List.dropWhile_idempotent, trim]

theorem trim_rdropWhile : trim set (text.rdropWhile (· ∈ set)) = trim set text := by
  conv_rhs => rw [← List.rdropWhile_append_rtakeWhile (p := (· ∈ set)) (l := text)]
  rw [trim_append_right]
  intro a ha
  simpa using List.mem_rtakeWhile_imp ha

theorem head?_dropWhile : (text.dropWhile (· ∈ set)).head? = (trim set text).head? := by
  have hsplit := List.rdropWhile_append_rtakeWhile (p := (· ∈ set)) (l := text.dropWhile (· ∈ set))
  rcases eq_or_ne (trim set text) [] with hnil | hne
  · have hdrop : text.dropWhile (· ∈ set) = [] :=
      List.dropWhile_eq_nil_iff.mpr (by simpa using trim_eq_nil.mp hnil)
    rw [hnil, hdrop]
  · rw [← hsplit, ← trim, List.head?_append_of_ne_nil _ hne]

theorem getLast?_rdropWhile : (text.rdropWhile (· ∈ set)).getLast? = (trim set text).getLast? := by
  have hsplit := List.takeWhile_append_dropWhile (p := (· ∈ set)) (l := text.rdropWhile (· ∈ set))
  rcases eq_or_ne ((text.rdropWhile (· ∈ set)).dropWhile (· ∈ set)) [] with hnil | hne
  · have hall := List.dropWhile_eq_nil_iff.mp hnil
    have hrdrop : text.rdropWhile (· ∈ set) = [] := by
      by_contra hne
      exact List.rdropWhile_last_not _ _ hne (hall _ (List.getLast_mem hne))
    rw [← trim_rdropWhile, hrdrop]
    rfl
  · have hlast : (text.rdropWhile (· ∈ set)).getLast? =
        ((text.rdropWhile (· ∈ set)).dropWhile (· ∈ set)).getLast? := by
      conv_lhs => rw [← hsplit]
      rw [List.getLast?_append_of_ne_nil _ hne]
    have hself : ((text.rdropWhile (· ∈ set)).dropWhile (· ∈ set)).rdropWhile (· ∈ set) =
        (text.rdropWhile (· ∈ set)).dropWhile (· ∈ set) := by
      rw [List.rdropWhile_eq_self_iff]
      intro hne
      have hrdrop : text.rdropWhile (· ∈ set) ≠ [] := fun heq => hne (by rw [heq]; rfl)
      rw [List.getLast?_eq_some_getLast hne, List.getLast?_eq_some_getLast hrdrop,
        Option.some.injEq] at hlast
      rw [← hlast]
      exact List.rdropWhile_last_not _ _ hrdrop
    rw [hlast, ← trim_rdropWhile, trim, hself]

end WheeltecVcuSerial.Text
