import WheeltecVcuSerial.Config.RuntimeConfig
import WheeltecVcuSerial.Text.Paths
import WheeltecVcuSerial.Text.Strings

namespace WheeltecVcuSerial

open Text

/-! ### The scan on offsets, as both of its copies are written -/

/-- The loop from an offset on, for so many rounds; `none` if it has not ended by then. -/
def scanComponents (path : List Char) : ℕ → ℕ → Option Bool
  | 0, _ => none
  | rounds + 1, offset =>
    if offset < path.length then
      let separator := find '/' offset path
      let stop := separator.getD path.length
      let component := substr path offset (stop - offset)
      if component = [] || component = ['.'] || component = ['.', '.'] then some false
      else
        match separator with
        | none => some true
        | some separator => scanComponents path rounds (separator + 1)
    else some true

def scanDevicePath (rounds : ℕ) (path : List Char) : Option Bool :=
  if path.length ≤ 5 || path.take 5 ≠ ['/', 'd', 'e', 'v', '/'] || path.getLast? = some '/' then
    some false
  else scanComponents path rounds 5

/-- The monitor's copy. -/
def directDevicePath (rounds : ℕ) (path : List Char) : Option Bool := scanDevicePath rounds path

/-! ### The grammar -/

/-- A component of a device path. -/
abbrev Component (component : List Char) : Prop := Descends '/' ['.'] ['.', '.'] component

/-- The text `/dev/` and one or more components, joined by single slashes. -/
def DevicePath (path : List Char) : Prop :=
  ∃ components : List (List Char), components ≠ [] ∧
    (∀ component ∈ components, Component component) ∧
    path = ['/', 'd', 'e', 'v', '/'] ++ ['/'].intercalate components

/-- A path that stays below `/dev`. -/
structure Confined (path : List Char) : Prop where
  below : ∃ names, names ≠ [] ∧ resolve '/' ['.'] ['.', '.'] path = ['d', 'e', 'v'] :: names
  traversal : ['.'] ∉ path.splitOn '/' ∧ ['.', '.'] ∉ path.splitOn '/'
  last : path.getLast? ≠ some '/'
  doubled : ¬['/', '/'] <:+: path

variable {component next rest path : List Char} {offset rounds : ℕ}

/-- What the scan refuses of the texts between slashes. -/
theorem refused_iff (h : '/' ∉ component) :
    (component = [] || component = ['.'] || component = ['.', '.']) = true ↔
      ¬Component component := by
  rw [← not_iff_not, not_not]
  simp only [Bool.or_eq_true, decide_eq_true_iff, not_or]
  constructor
  · rintro ⟨⟨hne, hdot⟩, hdots⟩
    exact ⟨hne, h, hdot, hdots⟩
  · rintro ⟨hne, -, hdot, hdots⟩
    exact ⟨⟨hne, hdot⟩, hdots⟩

theorem not_refused (h : '/' ∉ component) (hcomponent : Component component) :
    ¬(component = [] || component = ['.'] || component = ['.', '.']) = true := by
  rwa [refused_iff h, not_not]

theorem slash_free (h : '/' ∉ component) : ∀ c ∈ component, decide (c ≠ '/') = true := by
  intro c hc
  rw [decide_eq_true_iff]
  rintro rfl
  exact h hc

theorem validComponents_separated (h : '/' ∉ component) :
    validComponents (component ++ '/' :: next) =
      (decide (Component component) && validComponents next) := by
  have hslash := slash_free h
  have htake : (component ++ '/' :: next).takeWhile (· ≠ '/') = component := by
    rw [List.takeWhile_append_of_pos hslash]
    simp
  have hdrop : (component ++ '/' :: next).dropWhile (· ≠ '/') = '/' :: next := by
    rw [List.dropWhile_append_of_pos hslash]
    simp
  rw [validComponents, if_neg (by simp), htake]
  by_cases hcomponent : Component component
  · rw [if_neg (not_refused h hcomponent), decide_eq_true hcomponent, Bool.true_and]
    split
    · rename_i heq
      rw [hdrop] at heq
      cases heq
    · rename_i heq
      rw [hdrop] at heq
      cases heq
      rfl
  · rw [if_pos ((refused_iff h).mpr hcomponent), decide_eq_false hcomponent,
      Bool.false_and]

theorem validComponents_last (h : '/' ∉ component) (hne : component ≠ []) :
    validComponents component = decide (Component component) := by
  have hslash := slash_free h
  have hdrop : component.dropWhile (· ≠ '/') = [] := List.dropWhile_eq_nil_iff.mpr hslash
  rw [validComponents, if_neg hne, List.takeWhile_eq_self_iff.mpr hslash]
  by_cases hcomponent : Component component
  · rw [if_neg (not_refused h hcomponent), decide_eq_true hcomponent]
    split
    · rfl
    · rename_i heq
      rw [hdrop] at heq
      cases heq
  · rw [if_pos ((refused_iff h).mpr hcomponent), decide_eq_false hcomponent]

/-- What is left of a path is scanned to its end exactly if all its pieces are components. -/
theorem validComponents_iff (hne : rest ≠ []) (hlast : rest.getLast? ≠ some '/') :
    validComponents rest = true ↔ ∀ component ∈ rest.splitOn '/', Component component := by
  induction hlength : rest.length using Nat.strong_induction_on generalizing rest with
  | _ length ih =>
    by_cases hmem : '/' ∈ rest
    · obtain ⟨component, next, rfl, hcomponent⟩ := List.eq_append_cons_of_mem hmem
      have hnext : next ≠ [] := by
        rintro rfl
        simp at hlast
      have hnextLast : next.getLast? ≠ some '/' := by
        rwa [List.getLast?_append_cons, List.getLast?_cons_of_ne_nil hnext] at hlast
      have hshorter : next.length < length := by
        rw [← hlength, List.length_append, List.length_cons]
        omega
      rw [validComponents_separated hcomponent, List.splitOn_append_cons_self_of_not_mem hcomponent,
        List.forall_mem_cons, Bool.and_eq_true, decide_eq_true_iff,
        ih _ hshorter hnext hnextLast rfl]
    · rw [validComponents_last hmem hne, List.splitOn_eq_singleton hmem, decide_eq_true_iff,
        List.forall_mem_singleton]

/-- The offsets of the loop only move on, so it ends, with what the rest of the path decides. -/
theorem scanComponents_eq (hoffset : offset ≤ path.length)
    (hrounds : path.length - offset < rounds) :
    scanComponents path rounds offset = some (validComponents (path.drop offset)) := by
  induction rounds generalizing offset with
  | zero => omega
  | succ rounds ih =>
    rw [scanComponents]
    by_cases hend : offset < path.length
    · rw [if_pos hend]
      have hne : path.drop offset ≠ [] := by
        rw [Ne, List.drop_eq_nil_iff]
        omega
      by_cases hmem : '/' ∈ path.drop offset
      · obtain ⟨component, next, heq, hcomponent⟩ := List.eq_append_cons_of_mem hmem
        have hlength : path.length - offset = component.length + (next.length + 1) := by
          rw [← List.length_drop, heq, List.length_append, List.length_cons]
        have hstop : offset + component.length - offset = component.length := by omega
        simp only [find_eq_some heq hcomponent, Option.getD_some, hstop, substr_eq heq]
        rw [ih (by omega) (by omega), drop_after heq, heq, validComponents_separated hcomponent]
        by_cases h : Component component
        · rw [if_neg (not_refused hcomponent h), decide_eq_true h, Bool.true_and]
        · rw [if_pos ((refused_iff hcomponent).mpr h), decide_eq_false h, Bool.false_and]
      · have hcomponent : substr path offset (path.length - offset) = path.drop offset := by
          rw [substr, ← List.length_drop, List.take_length]
        simp only [find_eq_none.mpr hmem, Option.getD_none, hcomponent]
        rw [validComponents_last hmem hne]
        by_cases h : Component (path.drop offset)
        · rw [if_neg (not_refused hmem h), decide_eq_true h]
        · rw [if_pos ((refused_iff hmem).mpr h), decide_eq_false h]
    · have hnil : path.drop offset = [] := List.drop_eq_nil_iff.mpr (by omega)
      rw [if_neg hend, hnil, validComponents, if_pos rfl]

theorem scanDevicePath_eq (hrounds : path.length < rounds) :
    scanDevicePath rounds path = some (validDevicePath path) := by
  rw [scanDevicePath, validDevicePath]
  by_cases hguard : (path.length ≤ 5 || path.take 5 ≠ ['/', 'd', 'e', 'v', '/'] ||
      path.getLast? = some '/') = true
  · rw [if_pos hguard, if_pos hguard]
  · have hlength : 5 < path.length := by
      simp only [Bool.or_eq_true, decide_eq_true_iff] at hguard
      omega
    rw [if_neg hguard, if_neg hguard, scanComponents_eq (by omega) (by omega)]

example : directDevicePath 20 "/dev/serial/./vcu".toList = some false := by decide

/-! ### What is accepted -/

/-- The names of a device path, `dev` the first of them. -/
theorem DevicePath.names (h : DevicePath path) :
    ∃ components rest : List _, components ≠ [] ∧
      (∀ name ∈ ['d', 'e', 'v'] :: components, Component name) ∧
      path = '/' :: rest ∧ rest.splitOn '/' = ['d', 'e', 'v'] :: components := by
  obtain ⟨components, hne, hcomponents, rfl⟩ := h
  have hnames : ∀ name ∈ ['d', 'e', 'v'] :: components, Component name := by
    rw [List.forall_mem_cons]
    exact ⟨by decide, hcomponents⟩
  refine ⟨components, ['/'].intercalate (['d', 'e', 'v'] :: components), hne, hnames, ?_,
    List.splitOn_intercalate _ (fun name hname => (hnames name hname).separator) (by simp)⟩
  rw [List.intercalate_cons_of_ne_nil hne]
  rfl

theorem validDevicePath_iff : validDevicePath path = true ↔ DevicePath path := by
  constructor
  · intro h
    rw [validDevicePath] at h
    split at h
    · cases h
    · rename_i hguard
      simp only [Bool.or_eq_true, decide_eq_true_iff, not_or, not_not, not_le] at hguard
      obtain ⟨⟨hlength, hstart⟩, hlast⟩ := hguard
      have hsplit := List.take_append_drop 5 path
      rw [hstart] at hsplit
      have hne : path.drop 5 ≠ [] := by
        rw [Ne, List.drop_eq_nil_iff]
        omega
      rw [← hsplit, List.getLast?_append_of_ne_nil _ hne] at hlast
      exact ⟨_, List.splitOn_ne_nil '/' (path.drop 5), (validComponents_iff hne hlast).mp h,
        by rw [List.intercalate_splitOn, hsplit]⟩
  · rintro ⟨components, hne, hcomponents, rfl⟩
    have hpieces : (['/'].intercalate components).splitOn '/' = components :=
      List.splitOn_intercalate _ (fun name hname => (hcomponents name hname).separator) hne
    have hnil : [] ∉ components := fun hmem => (hcomponents _ hmem).nonempty rfl
    have hrest : ['/'].intercalate components ≠ [] := by
      intro heq
      rw [heq, List.splitOn_nil] at hpieces
      exact hnil (hpieces ▸ List.mem_singleton_self _)
    have hlast : (['/'].intercalate components).getLast? ≠ some '/' := by
      intro heq
      exact hnil (hpieces ▸ nil_mem_splitOn_of_last heq)
    rw [validDevicePath, if_neg]
    · exact (validComponents_iff hrest hlast).mpr (by rwa [hpieces])
    · have hpos := List.length_pos_iff.mpr hrest
      rw [List.getLast?_append_of_ne_nil _ hrest]
      simp only [Bool.or_eq_true, decide_eq_true_iff, not_or, List.length_append]
      exact ⟨⟨by simpa using hrest, fun h => h rfl⟩, hlast⟩

theorem DevicePath.confined (h : DevicePath path) : Confined path := by
  obtain ⟨components, rest, hne, hnames, rfl, hpieces⟩ := h.names
  have hnil : [] ∉ rest.splitOn '/' := by
    rw [hpieces]
    exact fun hmem => (hnames _ hmem).nonempty rfl
  have hpath : ('/' :: rest).splitOn '/' = [] :: ['d', 'e', 'v'] :: components := by
    rw [List.splitOn_cons_eq_if_modifyHead, if_pos (beq_self_eq_true _), hpieces]
  constructor
  case below =>
    refine ⟨components, hne, ?_⟩
    rw [resolve, hpath, walk, if_pos (Or.inl rfl), walk_descends hnames]
    rfl
  case traversal =>
    rw [hpath]
    constructor
    · rintro (_ | ⟨_, hmem⟩)
      exact (hnames _ hmem).here rfl
    · rintro (_ | ⟨_, hmem⟩)
      exact (hnames _ hmem).up rfl
  case last =>
    intro hlast
    have hrest : rest ≠ [] := by
      rintro rfl
      simp at hpieces
    rw [List.getLast?_cons_of_ne_nil hrest] at hlast
    exact hnil (nil_mem_splitOn_of_last hlast)
  case doubled =>
    intro hinside
    rcases List.infix_cons_iff.mp hinside with hstart | hrest
    · obtain ⟨after, heq⟩ := hstart
      have hslash : rest = '/' :: after := by simpa using heq.symm
      rw [hslash, List.splitOn_cons_eq_if_modifyHead, if_pos (beq_self_eq_true _)] at hpieces
      cases hpieces
    · exact hnil (nil_mem_splitOn_of_doubled hrest)

/-- A path is accepted exactly if it is of the grammar, both copies of the scan end on every path
with that answer, and an accepted path stays below `/dev`. -/
theorem devicePath_grammar (path : List Char) :
    (validDevicePath path = true ↔ DevicePath path) ∧
    (∀ rounds, path.length < rounds →
      scanDevicePath rounds path = some (validDevicePath path) ∧
      directDevicePath rounds path = some (validDevicePath path)) ∧
    (validDevicePath path = true → Confined path) :=
  ⟨validDevicePath_iff, fun _ hrounds => ⟨scanDevicePath_eq hrounds, scanDevicePath_eq hrounds⟩,
    fun h => (validDevicePath_iff.mp h).confined⟩

theorem devicePath_grammar_tty : Confined "/dev/serial/vcu".toList :=
  (devicePath_grammar _).2.2 ((devicePath_grammar _).1.mpr
    ⟨["serial".toList, "vcu".toList], by decide, by decide, by simp [List.intercalate]⟩)

end WheeltecVcuSerial
