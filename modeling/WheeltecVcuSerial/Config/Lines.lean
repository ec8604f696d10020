import WheeltecVcuSerial.Config.Loader
import WheeltecVcuSerial.Ini.Document

namespace WheeltecVcuSerial

open Text

/-! ### What lines are, as the file format has it -/

/-- A line that is neither blank nor a comment. -/
def Significant (line : List Char) : Prop :=
  trim line ≠ [] ∧ (trim line).head? ≠ some '#' ∧ (trim line).head? ≠ some ';'

/-- A bracketed header, with the section it names. -/
def Heads (line name : List Char) : Prop :=
  ∃ inner, trim line = '[' :: (inner ++ [']']) ∧ trim inner = name

def Bracketed (line : List Char) : Prop := ∃ name, Heads line name

/-- What stands before the first `=` of a line and what stands after it. -/
def Assigns (line key value : List Char) : Prop :=
  Significant line ∧ ∃ left right, trim line = left ++ '=' :: right ∧ '=' ∉ left ∧
    trim left = key ∧ trim right = value

/-- The section that is open after some lines. -/
def InSection (lines : List (List Char)) (name : List Char) : Prop :=
  ∃ early line late, lines = early ++ line :: late ∧ Heads line name ∧
    ∀ later ∈ late, ¬Bracketed later

/-- A line gives a key its text, in the section that is open. -/
def Gives (before : List (List Char)) (line key value : List Char) : Prop :=
  ∃ name entry, InSection before name ∧ Assigns line entry value ∧ key = name ++ '.' :: entry

def Given (lines : List (List Char)) (key value : List Char) : Prop :=
  ∃ before line after, lines = before ++ line :: after ∧ Gives before line key value

/-! ### The item that a line is -/

/-- What the loop makes of a line. -/
def lineItem (line : List Char) : Option (Ini.Item (List Char) (List Char) (List Char)) :=
  let cleaned := trim line
  if cleaned = [] || cleaned.head? = some '#' || cleaned.head? = some ';' then none
  else if cleaned.head? = some '[' && cleaned.getLast? = some ']' then
    some (.header (trim (substr cleaned 1 (cleaned.length - 2))))
  else
    match find '=' 0 cleaned with
    | none => some .malformed
    | some equals =>
      some (.entry (trim (substr cleaned 0 equals)) (trim (cleaned.drop (equals + 1))))

/-- What a line says, by what it is. -/
inductive Says (line : List Char) : Option (Ini.Item (List Char) (List Char) (List Char)) → Prop
  | nothing : ¬Significant line → Says line none
  | header : Heads line name → Says line (some (.header name))
  | entry : Assigns line key value → ¬Bracketed line → Says line (some (.entry key value))
  | malformed : Significant line → ¬Bracketed line → '=' ∉ trim line → Says line (some .malformed)

variable {line key value name left right inner : List Char} {lines before : List (List Char)}
  {item : Option (Ini.Item (List Char) (List Char) (List Char))}

theorem trim_eq (input : List Char) : trim input = Text.trim whitespace input := by
  by_cases h : Text.trim whitespace input = []
  · have hfirst : findFirstNotOf whitespace input = none :=
      findFirstNotOf_eq_none (trim_eq_nil.mp h)
    rw [trim, hfirst, h]
  · obtain ⟨first, last, hfirst, hlast, heq⟩ := exists_positions h
    rw [trim, hfirst, hlast]
    exact heq

theorem significant_iff : Significant line ↔
    (trim line = [] || (trim line).head? = some '#' || (trim line).head? = some ';') = false := by
  simp only [Significant, Bool.or_eq_false_iff, decide_eq_false_iff_not, and_assoc, ne_eq]

theorem bracketed_iff : Bracketed line ↔
    ((trim line).head? = some '[' && (trim line).getLast? = some ']') = true := by
  simp only [Bracketed, Heads, Bool.and_eq_true, decide_eq_true_iff]
  constructor
  · rintro ⟨name, inner, h, -⟩
    rw [h, ← List.cons_append, List.getLast?_concat]
    exact ⟨rfl, rfl⟩
  · rintro ⟨hfirst, hlast⟩
    obtain ⟨rest, hrest⟩ := List.head?_eq_some_iff.mp hfirst
    rcases List.eq_nil_or_concat rest with rfl | ⟨inner, last, rfl⟩
    · rw [hrest] at hlast
      cases hlast
    · rw [hrest, List.concat_eq_append, ← List.cons_append, List.getLast?_concat] at hlast
      cases hlast
      exact ⟨_, inner, by rw [hrest, List.concat_eq_append], rfl⟩

/-- A header is no comment. -/
theorem Bracketed.significant (h : Bracketed line) : Significant line := by
  obtain ⟨name, inner, heq, -⟩ := h
  simp [Significant, heq]

theorem lineItem_of_not_significant (h : ¬Significant line) : lineItem line = none := by
  rw [lineItem, if_pos (Bool.eq_true_of_not_eq_false (mt significant_iff.mpr h))]

theorem lineItem_of_heads (h : Heads line name) : lineItem line = some (.header name) := by
  have hbracketed : Bracketed line := ⟨name, h⟩
  obtain ⟨inner, heq, rfl⟩ := h
  have hinner : substr (trim line) 1 ((trim line).length - 2) = inner := by
    rw [heq]
    simp [substr]
  rw [lineItem, if_neg (Bool.not_eq_true _ ▸ significant_iff.mp hbracketed.significant),
    if_pos (bracketed_iff.mp hbracketed), hinner]

theorem lineItem_of_assigns (h : Assigns line key value) (hbracketed : ¬Bracketed line) :
    lineItem line = some (.entry key value) := by
  obtain ⟨hsignificant, left, right, heq, hleft, rfl, rfl⟩ := h
  have hdrop : (trim line).drop 0 = left ++ '=' :: right := heq
  rw [lineItem, if_neg (Bool.not_eq_true _ ▸ significant_iff.mp hsignificant),
    if_neg (mt bracketed_iff.mpr hbracketed)]
  simp only [find_eq_some hdrop hleft, Nat.zero_add, substr_eq hdrop]
  rw [← Nat.zero_add left.length, drop_after hdrop]

theorem lineItem_of_no_equals (h : Significant line) (hbracketed : ¬Bracketed line)
    (hequals : '=' ∉ trim line) : lineItem line = some .malformed := by
  have hnone : find '=' 0 (trim line) = none := find_eq_none.mpr hequals
  rw [lineItem, if_neg (Bool.not_eq_true _ ▸ significant_iff.mp h),
    if_neg (mt bracketed_iff.mpr hbracketed)]
  simp only [hnone]

theorem says_lineItem (line : List Char) : Says line (lineItem line) := by
  by_cases hsignificant : Significant line
  · by_cases hbracketed : Bracketed line
    · obtain ⟨name, hheads⟩ := hbracketed
      rw [lineItem_of_heads hheads]
      exact .header hheads
    · by_cases hequals : '=' ∈ trim line
      · obtain ⟨left, right, heq, hleft⟩ := List.eq_append_cons_of_mem hequals
        have hassigns : Assigns line (trim left) (trim right) :=
          ⟨hsignificant, left, right, heq, hleft, rfl, rfl⟩
        rw [lineItem_of_assigns hassigns hbracketed]
        exact .entry hassigns hbracketed
      · rw [lineItem_of_no_equals hsignificant hbracketed hequals]
        exact .malformed hsignificant hbracketed hequals
  · rw [lineItem_of_not_significant hsignificant]
    exact .nothing hsignificant

theorem lineItem_iff : lineItem line = item ↔ Says line item := by
  constructor
  · rintro rfl
    exact says_lineItem line
  · intro h
    cases h with
    | nothing h => exact lineItem_of_not_significant h
    | header h => exact lineItem_of_heads h
    | entry h hbracketed => exact lineItem_of_assigns h hbracketed
    | malformed h hbracketed hequals => exact lineItem_of_no_equals h hbracketed hequals

theorem lineItem_eq_header : lineItem line = some (.header name) ↔ Heads line name := by
  rw [lineItem_iff]
  exact ⟨fun | .header h => h, .header⟩

/-! ### The items of some lines -/

def lineItems (lines : List (List Char)) : List (Ini.Item (List Char) (List Char) (List Char)) :=
  lines.filterMap lineItem

/-- The sections and keys of a configuration. -/
def schema : Ini.Schema (List Char) (List Char) (List Char) where
  sections := (· ∈ knownSections)
  qualify name entry := name ++ '.' :: entry
  keys := (· ∈ knownKeys)

theorem lineItems_concat (lines : List (List Char)) (line : List Char) :
    lineItems (lines ++ [line]) = lineItems lines ++ (lineItem line).toList := by
  rw [lineItems, List.filterMap_append, List.filterMap_cons, lineItems]
  cases lineItem line <;> rfl

theorem Heads.unique {name' : List Char} (h : Heads line name) (h' : Heads line name') :
    name = name' := by
  have heq := (lineItem_of_heads h).symm.trans (lineItem_of_heads h')
  cases heq
  rfl

/-- The key that a bracketed line would give has a bracket. -/
theorem Heads.bracket_mem (h : Heads line name) (hassigns : Assigns line key value) :
    '[' ∈ key := by
  obtain ⟨inner, heq, -⟩ := h
  obtain ⟨-, left, right, hsplit, hleft, rfl, -⟩ := hassigns
  rw [heq] at hsplit
  cases left with
  | nil => simp at hsplit
  | cons first left =>
    obtain ⟨rfl, -⟩ := List.cons.inj hsplit
    rw [trim_eq]
    exact mem_trim List.mem_cons_self (by decide)

theorem Assigns.unique {key' value' : List Char} (h : Assigns line key value)
    (h' : Assigns line key' value') : key = key' ∧ value = value' := by
  obtain ⟨-, left, right, heq, hleft, rfl, rfl⟩ := h
  obtain ⟨-, left', right', heq', hleft', rfl, rfl⟩ := h'
  have hfind : find '=' 0 (trim line) = some (0 + left.length) := find_eq_some heq hleft
  have hlength := hfind.symm.trans (find_eq_some heq' hleft')
  have hsplit : left ++ '=' :: right = left' ++ '=' :: right' := heq.symm.trans heq'
  obtain ⟨rfl, hright⟩ := List.append_inj hsplit (by simpa using hlength)
  cases hright
  exact ⟨rfl, rfl⟩

theorem inSection_concat : InSection (lines ++ [line]) name ↔
    Heads line name ∨ ¬Bracketed line ∧ InSection lines name := by
  constructor
  · rintro ⟨early, header, late, heq, hheader, hlate⟩
    rcases Ini.append_cons_eq_concat.mp heq.symm with ⟨-, rfl, -⟩ | ⟨late, rfl, rfl⟩
    · exact .inl hheader
    · rw [List.forall_mem_append, List.forall_mem_singleton] at hlate
      exact .inr ⟨hlate.2, early, header, late, rfl, hheader, hlate.1⟩
  · rintro (hline | ⟨hline, early, header, late, rfl, hheader, hlate⟩)
    · exact ⟨lines, line, [], rfl, hline, by simp⟩
    · refine ⟨early, header, late ++ [line], ?_, hheader, ?_⟩
      · rw [List.append_assoc, List.cons_append]
      · rw [List.forall_mem_append, List.forall_mem_singleton]
        exact ⟨hlate, hline⟩

theorem given_concat : Given (lines ++ [line]) key value ↔
    Given lines key value ∨ Gives lines line key value := by
  constructor
  · rintro ⟨before, giver, after, heq, hgives⟩
    rcases Ini.append_cons_eq_concat.mp heq.symm with ⟨rfl, rfl, -⟩ | ⟨after, rfl, rfl⟩
    · exact .inr hgives
    · exact .inl ⟨before, giver, after, rfl, hgives⟩
  · rintro (⟨before, giver, after, rfl, hgives⟩ | hgives)
    · exact ⟨before, giver, after ++ [line], by rw [List.append_assoc, List.cons_append], hgives⟩
    · exact ⟨lines, line, [], rfl, hgives⟩

/-- The section that the items leave open is the one of the last header. -/
theorem current_lineItems :
    Ini.current none (lineItems lines) = some name ↔ InSection lines name := by
  induction lines using List.reverseRecOn with
  | nil => simp [lineItems, Ini.current, InSection]
  | append_singleton lines line ih =>
    have hnot : ¬Bracketed line → (InSection (lines ++ [line]) name ↔ InSection lines name) := by
      intro hbracketed
      have hheads : ¬Heads line name := fun h => hbracketed ⟨name, h⟩
      simp [inSection_concat, hbracketed, hheads]
    obtain ⟨item, hitem⟩ : ∃ item, lineItem line = item := ⟨_, rfl⟩
    rw [lineItems_concat, Ini.current_append, hitem]
    cases lineItem_iff.mp hitem with
    | nothing hblank => exact ih.trans (hnot (mt Bracketed.significant hblank)).symm
    | header hheads =>
      rename_i name'
      rw [inSection_concat]
      constructor
      · rintro ⟨⟩
        exact .inl hheads
      · rintro (h | ⟨hbracketed, -⟩)
        · rw [h.unique hheads]
          rfl
        · exact absurd ⟨name', hheads⟩ hbracketed
    | entry _ hbracketed => exact ih.trans (hnot hbracketed).symm
    | malformed _ hbracketed _ => exact ih.trans (hnot hbracketed).symm

theorem mem_headers_lineItems :
    name ∈ Ini.headers (lineItems lines) ↔ ∃ line ∈ lines, Heads line name := by
  simp only [Ini.headers, lineItems, List.mem_filterMap, Ini.Item.header?_eq_some, exists_eq_right,
    lineItem_eq_header]

/-- What the items give, the lines give. -/
theorem mem_entries_lineItems (hkey : '[' ∉ key) :
    (key, value) ∈ Ini.entries schema none (lineItems lines) ↔ Given lines key value := by
  induction lines using List.reverseRecOn with
  | nil => simp [lineItems, Ini.entries, Given]
  | append_singleton lines line ih =>
    obtain ⟨item, hitem⟩ : ∃ item, lineItem line = item := ⟨_, rfl⟩
    rw [lineItems_concat, given_concat, Ini.entries_append, List.mem_append, ih, hitem]
    apply or_congr_right
    cases lineItem_iff.mp hitem with
    | nothing hblank =>
      refine iff_of_false (List.not_mem_nil) ?_
      rintro ⟨name, entry, -, ⟨hsignificant, -⟩, -⟩
      exact hblank hsignificant
    | header hheads =>
      refine iff_of_false (List.not_mem_nil) ?_
      rintro ⟨name, entry, -, hassigns, rfl⟩
      exact hkey (List.mem_append_right _ (List.mem_cons_of_mem _ (hheads.bracket_mem hassigns)))
    | entry hassigns hbracketed =>
      rw [Option.toList_some, Ini.mem_entries_entry]
      simp only [current_lineItems]
      constructor
      · rintro ⟨name, hname, rfl, rfl⟩
        exact ⟨name, _, hname, hassigns, rfl⟩
      · rintro ⟨name, entry, hname, hassigns', rfl⟩
        obtain ⟨rfl, rfl⟩ := hassigns'.unique hassigns
        exact ⟨name, hname, rfl, rfl⟩
    | malformed _ _ hequals =>
      refine iff_of_false (List.not_mem_nil) ?_
      rintro ⟨name, entry, -, ⟨-, left, right, heq, -⟩, -⟩
      exact hequals (heq ▸ List.mem_append_right _ List.mem_cons_self)

end WheeltecVcuSerial
