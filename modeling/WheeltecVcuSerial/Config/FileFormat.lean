import WheeltecVcuSerial.Config.Collection

namespace WheeltecVcuSerial

open Text

/-! ### The format -/

/-- A header of a section that no line before it opens. -/
def OpensSection (before : List (List Char)) (line : List Char) : Prop :=
  ∃ name ∈ knownSections, Heads line name ∧ ∀ earlier ∈ before, ¬Heads earlier name

/-- A line for a key of the open section that no line before it gives. -/
def EntersKey (before : List (List Char)) (line : List Char) : Prop :=
  ∃ key ∈ knownKeys, (∃ value, Gives before line key value) ∧ ∀ value, ¬Given before key value

/-- The lines of a configuration. -/
structure Declared (lines : List (List Char)) : Prop where
  each : ∀ before line after, lines = before ++ line :: after → Significant line →
    OpensSection before line ∨ EntersKey before line
  keys : ∀ key ∈ knownKeys, ∃ value, Given lines key value

/-- What is collected: the text that the one line for a key gives it. -/
structure Collected (lines : List (List Char)) (values : Values) : Prop where
  keys : ∀ key, key ∈ values ↔ key ∈ knownKeys
  texts : ∀ key ∈ knownKeys, ∃ before line after value, lines = before ++ line :: after ∧
    Gives before line key value ∧ values.lookup key = some value ∧
    ∀ before' line' after' value', lines = before' ++ line' :: after' →
      Gives before' line' key value' → before' = before

/-- Lines that differ in white space alone: around them, inside of the brackets, or on either side
of the first `=`. -/
inductive Respaced : List Char → List Char → Prop
  | line {a b : List Char} : trim a = trim b → Respaced a b
  | header {inner inner' : List Char} : trim inner = trim inner' →
      Respaced ('[' :: (inner ++ [']'])) ('[' :: (inner' ++ [']']))
  | entry {left left' right right' : List Char} : '=' ∉ left → '=' ∉ left' →
      trim left = trim left' → trim right = trim right' → ¬Bracketed (left ++ '=' :: right) →
      Respaced (left ++ '=' :: right) (left' ++ '=' :: right')

/-- The same lines but for the order of those in a section, the order of the sections, blank lines
and comments, and white space. -/
inductive Rearranged : List (List Char) → List (List Char) → Prop
  | refl {lines : List (List Char)} : Rearranged lines lines
  | trans {lines between lines' : List (List Char)} :
      Rearranged lines between → Rearranged between lines' → Rearranged lines lines'
  | keys {before after : List (List Char)} {a b : List Char} : ¬Bracketed a → ¬Bracketed b →
      Rearranged (before ++ a :: b :: after) (before ++ b :: a :: after)
  | sections {before body body' after : List (List Char)} {first second : List Char} :
      Bracketed first → Bracketed second → (∀ line ∈ after.head?, Bracketed line) →
      Rearranged (before ++ first :: body ++ second :: body' ++ after)
        (before ++ second :: body' ++ first :: body ++ after)
  | insert {before after : List (List Char)} {line : List Char} : ¬Significant line →
      Rearranged (before ++ after) (before ++ line :: after)
  | remove {before after : List (List Char)} {line : List Char} : ¬Significant line →
      Rearranged (before ++ line :: after) (before ++ after)
  | respace {before after : List (List Char)} {line line' : List Char} : Respaced line line' →
      Rearranged (before ++ line :: after) (before ++ line' :: after)

variable {lines lines' before : List (List Char)} {line line' key : List Char} {values : Values}

theorem bracket_not_mem_of_known : ∀ key ∈ knownKeys, '[' ∉ key := by decide +kernel

/-- What the items have entries for, the lines give. -/
theorem mem_entryKeys_iff (hkey : key ∈ knownKeys) :
    key ∈ (Ini.entries schema none (lineItems lines)).map Prod.fst ↔
      ∃ value, Given lines key value := by
  simp [mem_entries_lineItems (bracket_not_mem_of_known key hkey)]

theorem Bracketed.not_gives {value : List Char} (h : Bracketed line) (hkey : key ∈ knownKeys) :
    ¬Gives before line key value := by
  obtain ⟨name, hheads⟩ := h
  rintro ⟨name', entry, -, hassigns, rfl⟩
  exact bracket_not_mem_of_known _ hkey
    (List.mem_append_right _ (List.mem_cons_of_mem _ (hheads.bracket_mem hassigns)))

theorem fits_header {name : List Char} (hheads : Heads line name) :
    Ini.Fits schema (lineItems before) (.header name) ↔
      OpensSection before line ∨ EntersKey before line := by
  constructor
  · rintro ⟨hknown, hnew⟩
    exact .inl ⟨name, hknown, hheads,
      fun earlier hmem h => hnew (mem_headers_lineItems.mpr ⟨earlier, hmem, h⟩)⟩
  · rintro (⟨name', hknown, hheads', hnew⟩ | ⟨key, hknown, ⟨value, hgives⟩, -⟩)
    · obtain rfl := hheads'.unique hheads
      refine ⟨hknown, fun hmem => ?_⟩
      obtain ⟨earlier, hearlier, h⟩ := mem_headers_lineItems.mp hmem
      exact hnew earlier hearlier h
    · exact absurd hgives (Bracketed.not_gives ⟨name, hheads⟩ hknown)

theorem fits_entry {entry value : List Char} (hassigns : Assigns line entry value)
    (hbracketed : ¬Bracketed line) :
    Ini.Fits schema (lineItems before) (.entry entry value) ↔
      OpensSection before line ∨ EntersKey before line := by
  constructor
  · rintro ⟨name, hname, hknown, hnew⟩
    refine .inr ⟨_, hknown, ⟨value, name, entry, current_lineItems.mp hname, hassigns, rfl⟩, ?_⟩
    exact fun value' hgiven => hnew ((mem_entryKeys_iff hknown).mpr ⟨value', hgiven⟩)
  · rintro (⟨name, -, hheads, -⟩ |
      ⟨key, hknown, ⟨value', name, entry', hname, hassigns', rfl⟩, hnew⟩)
    · exact absurd ⟨name, hheads⟩ hbracketed
    · obtain ⟨rfl, rfl⟩ := hassigns'.unique hassigns
      refine ⟨name, current_lineItems.mpr hname, hknown, fun hmem => ?_⟩
      obtain ⟨value, hgiven⟩ := (mem_entryKeys_iff hknown).mp hmem
      exact hnew value hgiven

/-- Line by line, what fits is what the format allows. -/
theorem fits_iff : (∀ item ∈ lineItem line, Ini.Fits schema (lineItems before) item) ↔
    (Significant line → OpensSection before line ∨ EntersKey before line) := by
  obtain ⟨item, hitem⟩ : ∃ item, lineItem line = item := ⟨_, rfl⟩
  rw [hitem]
  cases lineItem_iff.mp hitem with
  | nothing hblank => simp [hblank]
  | header hheads =>
    rw [← fits_header hheads]
    simp [Bracketed.significant ⟨_, hheads⟩]
  | entry hassigns hbracketed =>
    rw [← fits_entry hassigns hbracketed]
    simp [hassigns.1]
  | malformed hsignificant hbracketed hequals =>
    simp only [Option.mem_some_iff, forall_eq', Ini.Fits, false_iff]
    intro h
    rcases h hsignificant with
      ⟨name, -, hheads, -⟩ | ⟨key, -, ⟨value, name, entry, -, hassigns, -⟩, -⟩
    · exact hbracketed ⟨name, hheads⟩
    · obtain ⟨-, left, right, heq, -⟩ := hassigns
      exact hequals (heq ▸ List.mem_append_right _ List.mem_cons_self)

theorem declared_iff : Declared lines ↔ Ini.WellFormed schema (lineItems lines) ∧
    ∀ key ∈ knownKeys, key ∈ (Ini.entries schema none (lineItems lines)).map Prod.fst := by
  have hlines : Ini.WellFormed schema (lineItems lines) ↔ ∀ before line after,
      lines = before ++ line :: after → Significant line →
        OpensSection before line ∨ EntersKey before line := by
    rw [lineItems, Ini.wellFormed_filterMap]
    exact forall₄_congr fun before line after _ => fits_iff
  have hkeys : (∀ key ∈ knownKeys, key ∈ (Ini.entries schema none (lineItems lines)).map Prod.fst) ↔
      ∀ key ∈ knownKeys, ∃ value, Given lines key value :=
    forall₂_congr fun key hkey => mem_entryKeys_iff hkey
  rw [hlines, hkeys]
  exact ⟨fun h => ⟨h.each, h.keys⟩, fun h => ⟨h.1, h.2⟩⟩

/-! ### One line for a key -/

theorem InSection.unique {name name' : List Char} (h : InSection lines name)
    (h' : InSection lines name') : name = name' :=
  Option.some.inj ((current_lineItems.mpr h).symm.trans (current_lineItems.mpr h'))

theorem Gives.unique {key' value value' : List Char} (h : Gives before line key value)
    (h' : Gives before line key' value') : key = key' := by
  obtain ⟨name, entry, hname, hassigns, rfl⟩ := h
  obtain ⟨name', entry', hname', hassigns', rfl⟩ := h'
  rw [hname.unique hname', (hassigns.unique hassigns').1]

theorem Declared.not_given {after : List (List Char)} {value value' : List Char}
    (h : Declared (before ++ line :: after)) (hkey : key ∈ knownKeys)
    (hgives : Gives before line key value) : ¬Given before key value' := by
  have hsignificant : Significant line := by
    obtain ⟨name, entry, _, hassigns, _⟩ := hgives
    exact hassigns.1
  rcases h.each before line after rfl hsignificant with
    ⟨name, -, hheads, -⟩ | ⟨key', -, ⟨value'', hgives'⟩, hnew⟩
  · exact absurd hgives (Bracketed.not_gives ⟨name, hheads⟩ hkey)
  · rw [hgives.unique hgives']
    exact hnew value'

/-- No two lines of a configuration give the same key. -/
theorem Declared.sole {before' after after' : List (List Char)} {value value' : List Char}
    (h : Declared lines) (hkey : key ∈ knownKeys)
    (heq : lines = before ++ line :: after) (hgives : Gives before line key value)
    (heq' : lines = before' ++ line' :: after') (hgives' : Gives before' line' key value') :
    before' = before := by
  rcases List.append_eq_append_iff.mp (heq.symm.trans heq') with
    ⟨mid, hmid, hrest⟩ | ⟨mid, hmid, hrest⟩
  · cases mid with
    | nil => rw [hmid, List.append_nil]
    | cons first mid =>
      cases hrest
      exact absurd ⟨before, line, mid, hmid, hgives⟩ ((heq' ▸ h).not_given hkey hgives')
  · cases mid with
    | nil => rw [hmid, List.append_nil]
    | cons first mid =>
      cases hrest
      exact absurd ⟨before', line', mid, hmid, hgives'⟩ ((heq ▸ h).not_given hkey hgives)

/-! ### Another arrangement -/

theorem heads_bracketed (inner : List Char) : Heads ('[' :: (inner ++ [']'])) (trim inner) := by
  refine ⟨inner, ?_, rfl⟩
  rw [trim_eq]
  apply trim_eq_self
  · simp [whitespace]
  · rw [← List.cons_append, List.getLast?_concat]
    simp [whitespace]

theorem trim_entry (left right : List Char) : trim (left ++ '=' :: right) =
    left.dropWhile (· ∈ whitespace) ++ '=' :: right.rdropWhile (· ∈ whitespace) := by
  rw [trim_eq]
  exact trim_append_cons (by decide)

theorem trim_entry_ne_nil (left right : List Char) : trim (left ++ '=' :: right) ≠ [] := by
  simp [trim_entry]

theorem head?_trim_entry (left right : List Char) :
    (trim (left ++ '=' :: right)).head? = (trim left).head?.or (some '=') := by
  rw [trim_entry, List.head?_append, head?_dropWhile, trim_eq]
  rfl

theorem getLast?_trim_entry (left right : List Char) :
    (trim (left ++ '=' :: right)).getLast? = some ((trim right).getLast?.getD '=') := by
  rw [trim_entry, List.getLast?_append, List.getLast?_cons, getLast?_rdropWhile, trim_eq]
  rfl

theorem assigns_entry {left right : List Char} (hleft : '=' ∉ left)
    (h : Significant (left ++ '=' :: right)) :
    Assigns (left ++ '=' :: right) (trim left) (trim right) := by
  refine ⟨h, _, _, trim_entry left right, ?_, ?_, ?_⟩
  · exact fun hmem => hleft ((List.dropWhile_suffix _).subset hmem)
  · rw [trim_eq, trim_eq, trim_dropWhile]
  · rw [trim_eq, trim_eq, trim_rdropWhile]

theorem lineItem_respaced (h : Respaced line line') : lineItem line = lineItem line' := by
  cases h with
  | line h => simp only [lineItem, h]
  | @header inner inner' h =>
    rw [lineItem_of_heads (heads_bracketed inner), h, lineItem_of_heads (heads_bracketed inner')]
  | @entry left left' right right' hleft hleft' h h' hbracketed =>
    have hsignificant :
        Significant (left ++ '=' :: right) ↔ Significant (left' ++ '=' :: right') := by
      simp only [Significant, ne_eq, trim_entry_ne_nil, head?_trim_entry, h]
    have hbracketed' : ¬Bracketed (left' ++ '=' :: right') := by
      rwa [bracketed_iff, head?_trim_entry, getLast?_trim_entry, ← h, ← h',
        ← head?_trim_entry left right, ← getLast?_trim_entry left right, ← bracketed_iff]
    by_cases hline : Significant (left ++ '=' :: right)
    · rw [lineItem_of_assigns (assigns_entry hleft hline) hbracketed,
        lineItem_of_assigns (assigns_entry hleft' (hsignificant.mp hline)) hbracketed', h, h']
    · rw [lineItem_of_not_significant hline,
        lineItem_of_not_significant (mt hsignificant.mpr hline)]

theorem header?_of_not_bracketed {item : Ini.Item (List Char) (List Char) (List Char)}
    (h : ¬Bracketed line) (hitem : lineItem line = some item) : item.header? = none := by
  cases item with
  | header name => exact absurd ⟨name, lineItem_eq_header.mp hitem⟩ h
  | entry key value => rfl
  | malformed => rfl

theorem lineItems_append (lines lines' : List (List Char)) :
    lineItems (lines ++ lines') = lineItems lines ++ lineItems lines' :=
  List.filterMap_append

theorem lineItems_cons (line : List Char) (lines : List (List Char)) :
    lineItems (line :: lines) = (lineItem line).toList ++ lineItems lines := by
  rw [lineItems, List.filterMap_cons, lineItems]
  cases lineItem line <;> rfl

theorem Rearranged.reordered (h : Rearranged lines lines') :
    Ini.Reordered (lineItems lines) (lineItems lines') := by
  induction h with
  | refl => exact .refl
  | trans _ _ ih ih' => exact ih.trans ih'
  | @keys before after a b ha hb =>
    simp only [lineItems_append, lineItems_cons]
    cases hitem : lineItem a with
    | none => exact .refl
    | some item =>
      cases hitem' : lineItem b with
      | none => exact .refl
      | some item' =>
        exact .swap (header?_of_not_bracketed ha hitem) (header?_of_not_bracketed hb hitem')
  | @sections before body body' after first second hfirst hsecond hafter =>
    obtain ⟨name, hname⟩ := hfirst
    obtain ⟨name', hname'⟩ := hsecond
    have hstarts : ∀ item ∈ (lineItems after).head?, item.header?.isSome = true := by
      cases after with
      | nil => simp [lineItems]
      | cons line after =>
        obtain ⟨next, hnext⟩ := hafter line rfl
        rw [lineItems_cons, lineItem_of_heads hnext]
        rintro _ ⟨⟩
        rfl
    simp only [lineItems_append, lineItems_cons, lineItem_of_heads hname, lineItem_of_heads hname']
    exact .sections hstarts
  | insert hblank =>
    simp only [lineItems_append, lineItems_cons, lineItem_of_not_significant hblank]
    exact .refl
  | remove hblank =>
    simp only [lineItems_append, lineItems_cons, lineItem_of_not_significant hblank]
    exact .refl
  | respace h =>
    simp only [lineItems_append, lineItems_cons, lineItem_respaced h]
    exact .refl

/-- What is collected from a file is collected from any arrangement of it. -/
theorem collectValues_rearranged {path : String} {bytes bytes' : List Char}
    (h : Rearranged (File.mk bytes true).lines (File.mk bytes' true).lines)
    (hvalues : collectValues path ⟨bytes, true⟩ = .ok values) :
    collectValues path ⟨bytes', true⟩ = .ok values := by
  obtain ⟨hlines, hkeys, hlookup⟩ := collectValues_spec.mp hvalues
  have hreordered := h.reordered
  have hentries : (Ini.entries schema none _).Perm (Ini.entries schema none _) :=
    hreordered.entries_perm
  rw [Ini.wellFormed_iff_regular] at hlines
  rw [collectValues_spec, Ini.wellFormed_iff_regular]
  refine ⟨hreordered.regular hlines, fun key hkey => ?_, fun key value => ?_⟩
  · exact (hentries.map _).mem_iff.mp (hkeys key hkey)
  · rw [hlookup, hentries.mem_iff]

theorem collected_of_collectValues {path : String} {bytes : List Char}
    (h : collectValues path ⟨bytes, true⟩ = .ok values) :
    Collected (File.mk bytes true).lines values := by
  obtain ⟨hlines, hkeys, hlookup⟩ := collectValues_spec.mp h
  have hdeclared := declared_iff.mpr ⟨hlines, hkeys⟩
  constructor
  case keys =>
    intro key
    have hmem : key ∈ values ↔
        key ∈ (Ini.entries schema none (lineItems (File.mk bytes true).lines)).map Prod.fst := by
      rw [Finmap.mem_iff]
      simp [hlookup]
    rw [hmem]
    refine ⟨fun hentry => ?_, hkeys key⟩
    obtain ⟨entry, hentries, rfl⟩ := List.mem_map.mp hentry
    exact (Ini.wellFormed_iff_regular.mp hlines).keys entry hentries
  case texts =>
    intro key hkey
    obtain ⟨value, before, line, after, heq, hgives⟩ := hdeclared.keys key hkey
    have hsole : ∀ before' line' after' value',
        (File.mk bytes true).lines = before' ++ line' :: after' →
          Gives before' line' key value' → before' = before :=
      fun _ _ _ _ heq' hgives' => hdeclared.sole hkey heq hgives heq' hgives'
    refine ⟨before, line, after, value, heq, hgives, ?_, hsole⟩
    rw [hlookup, mem_entries_lineItems (bracket_not_mem_of_known key hkey)]
    exact ⟨before, line, after, heq, hgives⟩

/-- The keys are collected from exactly the files of the format, each with the text of its one line,
and no other arrangement of an accepted file changes what is loaded. -/
theorem collectValues_format (path : String) (bytes : List Char) :
    ((∃ values, collectValues path ⟨bytes, true⟩ = .ok values) ↔
      Declared (File.mk bytes true).lines) ∧
    (∀ values, collectValues path ⟨bytes, true⟩ = .ok values →
      Collected (File.mk bytes true).lines values) ∧
    ∀ bytes', Rearranged (File.mk bytes true).lines (File.mk bytes' true).lines →
      (∃ values, collectValues path ⟨bytes, true⟩ = .ok values) →
      ∀ strtod requireDevicePath,
        loadRuntimeConfig strtod path (some ⟨bytes', true⟩) requireDevicePath =
          loadRuntimeConfig strtod path (some ⟨bytes, true⟩) requireDevicePath := by
  refine ⟨⟨?_, fun h => ?_⟩, fun values => collected_of_collectValues, ?_⟩
  · rintro ⟨values, hvalues⟩
    obtain ⟨hlines, hkeys, -⟩ := collectValues_spec.mp hvalues
    exact declared_iff.mpr ⟨hlines, hkeys⟩
  · exact exists_collectValues (declared_iff.mp h).1 (declared_iff.mp h).2
  · rintro bytes' harranged ⟨values, hvalues⟩ strtod requireDevicePath
    rw [loadRuntimeConfig, loadRuntimeConfig, hvalues, collectValues_rearranged harranged hvalues]

/-- Lines that end with a newline each are delivered as they are. -/
theorem lines_flatMap (h : ∀ line ∈ lines, '\n' ∉ line) :
    (File.mk (lines.flatMap (· ++ ['\n'])) true).lines = lines := by
  have hpieces : (lines.flatMap (· ++ ['\n'])).splitOn '\n' = lines ++ [[]] := by
    induction lines with
    | nil => simp
    | cons line lines ih =>
      obtain ⟨hline, hlines⟩ := List.forall_mem_cons.mp h
      rw [List.flatMap_cons, List.append_assoc, List.singleton_append,
        List.splitOn_append_cons_self_of_not_mem hline, ih hlines, List.cons_append]
  simp [File.lines, hpieces]

/-- The example configuration of the program, from its second line on. -/
def exampleLines : List (List Char) :=
  ["# Example only. These values are not a hardware capability or safety approval.".toList,
    "".toList,
    "[serial]".toList,
    "# Intentionally empty: a physical device must be selected by the operator.".toList,
    "device =".toList,
    "reconnect_interval_ms = 1000".toList,
    "".toList,
    "[limits]".toList,
    "# Explicit conservative example. The library has no 0.50 m/s built-in ceiling.".toList,
    "max_linear_speed_mps = 0.30".toList,
    "max_abs_yaw_rate_radps = 1.00".toList,
    "".toList,
    "[watchdog]".toList,
    "command_timeout_ms = 250".toList,
    "feedback_timeout_ms = 200".toList,
    "transmit_period_ms = 20".toList,
    "fresh_commands_required = 3".toList,
    "write_timeout_ms = 10".toList,
    "zero_retry_interval_ms = 20".toList,
    "zero_retry_attempts = 3".toList,
    "".toList,
    "[teleop]".toList,
    "min_selected_speed_mps = 0.05".toList,
    "initial_selected_speed_mps = 0.10".toList,
    "max_selected_speed_mps = 0.20".toList,
    "speed_step_mps = 0.05".toList,
    "curvature_inv_m = 0.75".toList,
    "release_timeout_ms = 180".toList,
    "command_rate_hz = 20".toList]

/-- The same lines with the section `limits` moved to the front. -/
def movedLines : List (List Char) :=
  exampleLines.take 2 ++ (exampleLines.drop 7).take 5 ++ (exampleLines.drop 2).take 5 ++
    exampleLines.drop 12

theorem mem_movedLines (h : line ∈ movedLines) : line ∈ exampleLines := by
  simp only [movedLines, List.mem_append] at h
  rcases h with ((h | h) | h) | h
  · exact List.mem_of_mem_take h
  · exact List.mem_of_mem_drop (List.mem_of_mem_take h)
  · exact List.mem_of_mem_drop (List.mem_of_mem_take h)
  · exact List.mem_of_mem_drop h

theorem rearranged_movedLines : Rearranged exampleLines movedLines := by
  have hlines : exampleLines = exampleLines.take 2 ++
      "[serial]".toList :: (exampleLines.drop 3).take 4 ++
      "[limits]".toList :: (exampleLines.drop 8).take 4 ++
      "[watchdog]".toList :: exampleLines.drop 13 := rfl
  have hmoved : movedLines = exampleLines.take 2 ++
      "[limits]".toList :: (exampleLines.drop 8).take 4 ++
      "[serial]".toList :: (exampleLines.drop 3).take 4 ++
      "[watchdog]".toList :: exampleLines.drop 13 := rfl
  rw [hlines, hmoved]
  apply Rearranged.sections
  · exact bracketed_iff.mpr (by decide)
  · exact bracketed_iff.mpr (by decide)
  · rintro line ⟨⟩
    exact bracketed_iff.mpr (by decide)

theorem collectValues_format_example :
    Declared (File.mk (exampleLines.flatMap (· ++ ['\n'])) true).lines ∧
    ∀ strtod requireDevicePath,
      loadRuntimeConfig strtod "" (some ⟨movedLines.flatMap (· ++ ['\n']), true⟩)
          requireDevicePath =
        loadRuntimeConfig strtod "" (some ⟨exampleLines.flatMap (· ++ ['\n']), true⟩)
          requireDevicePath := by
  -- One evaluation for both, so that the texts are unfolded once.
  have hread : (∀ line ∈ exampleLines, '\n' ∉ line) ∧
      ∃ state ∈ (exampleLines.foldlM readLine {}).toOption,
        ∀ key ∈ knownKeys, key ∈ state.values := by
    decide +kernel
  obtain ⟨hnewline, state, hstate, hkeys⟩ := hread
  have hlines := lines_flatMap hnewline
  have hmoved := lines_flatMap fun line hline => hnewline line (mem_movedLines hline)
  have hloop : exampleLines.foldlM readLine {} = .ok state := by
    cases heq : exampleLines.foldlM readLine {} with
    | error failure =>
      rw [heq] at hstate
      cases hstate
    | ok state' =>
      rw [heq] at hstate
      cases hstate
      rfl
  have hvalues : ∃ values,
      collectValues "" ⟨exampleLines.flatMap (· ++ ['\n']), true⟩ = .ok values :=
    ⟨_, collectValues_eq_ok_iff.mpr ⟨state, by rw [hlines, hloop], hkeys, rfl⟩⟩
  refine ⟨(collectValues_format "" _).1.mp hvalues, (collectValues_format "" _).2.2 _ ?_ hvalues⟩
  rw [hlines, hmoved]
  exact rearranged_movedLines

end WheeltecVcuSerial
