import Mathlib.Data.List.Basic

/-! Paths whose names are separated by a character, and where they lead. -/

universe u

namespace WheeltecVcuSerial.Text

variable {α : Type u} [DecidableEq α]

/-- Where a walk leads: no name and `here` stay, `up` goes back, any other name goes down. -/
def walk (here up : List α) (place : List (List α)) : List (List α) → List (List α)
  | [] => place
  | name :: names =>
    if name = [] ∨ name = here then walk here up place names
    else if name = up then walk here up place.dropLast names
    else walk here up (place ++ [name]) names

/-- Where an absolute path leads from the root. -/
def resolve (separator : α) (here up path : List α) : List (List α) :=
  walk here up [] (path.splitOn separator)

/-- A name that goes down. -/
structure Descends (separator : α) (here up name : List α) : Prop where
  nonempty : name ≠ []
  separator : separator ∉ name
  here : name ≠ here
  up : name ≠ up

instance (separator : α) (here up name : List α) : Decidable (Descends separator here up name) :=
  decidable_of_iff (name ≠ [] ∧ separator ∉ name ∧ name ≠ here ∧ name ≠ up)
    ⟨fun ⟨h₁, h₂, h₃, h₄⟩ => ⟨h₁, h₂, h₃, h₄⟩, fun h => ⟨h.1, h.2, h.3, h.4⟩⟩

variable {separator : α} {here up name text : List α} {place names : List (List α)}

theorem walk_descends (h : ∀ name ∈ names, Descends separator here up name) :
    walk here up place names = place ++ names := by
  induction names generalizing place with
  | nil => rw [walk, List.append_nil]
  | cons name names ih =>
    have hname := h name List.mem_cons_self
    rw [walk, if_neg (not_or.mpr ⟨hname.nonempty, hname.here⟩), if_neg hname.up,
      ih fun name hmem => h name (List.mem_cons_of_mem _ hmem), List.append_assoc]
    rfl

/-- Two separators in a row have an empty piece between them. -/
theorem nil_mem_splitOn_of_doubled (h : [separator, separator] <:+: text) :
    [] ∈ text.splitOn separator := by
  obtain ⟨before, after, rfl⟩ := h
  rw [List.append_assoc, List.cons_append, List.splitOn_append_cons_self, List.cons_append,
    List.splitOn_cons_eq_if_modifyHead]
  simp

/-- After a separator at the end stands an empty piece. -/
theorem nil_mem_splitOn_of_last (h : text.getLast? = some separator) :
    [] ∈ text.splitOn separator := by
  obtain ⟨before, rfl⟩ := List.getLast?_eq_some_iff.mp h
  rw [List.splitOn_append_cons_self]
  simp

end WheeltecVcuSerial.Text
