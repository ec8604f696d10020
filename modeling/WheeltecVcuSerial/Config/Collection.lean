import WheeltecVcuSerial.Config.Lines

namespace WheeltecVcuSerial

open Text

namespace Loading

/-- The variables of the loop after an item that it does not refuse. -/
def advance (state : Loading) :
    Option (Ini.Item (List Char) (List Char) (List Char)) → Loading
  | some (.header name) =>
    { state with
      lineNumber := state.lineNumber + 1
      sectionName := name
      seenSections := insert name state.seenSections }
  | some (.entry key value) =>
    { state with
      lineNumber := state.lineNumber + 1
      values := state.values.insert (state.sectionName ++ '.' :: key) value }
  | _ => { state with lineNumber := state.lineNumber + 1 }

/-- What the variables of the loop say of the items so far. -/
structure After (items : List (Ini.Item (List Char) (List Char) (List Char))) (state : Loading) :
    Prop where
  section_iff : ∀ name, Ini.current none items = some name ↔
    state.sectionName = name ∧ name ≠ []
  seen_iff : ∀ name, name ∈ state.seenSections ↔ name ∈ Ini.headers items
  lookup_iff : ∀ key value, state.values.lookup key = some value ↔
    (key, value) ∈ Ini.entries schema none items

variable {state state' : Loading} {line : List Char} {lines : List (List Char)}
  {item : Option (Ini.Item (List Char) (List Char) (List Char))}
  {items : List (Ini.Item (List Char) (List Char) (List Char))}

theorem After.mem_iff (h : state.After items) (key : List Char) :
    key ∈ state.values ↔ key ∈ (Ini.entries schema none items).map Prod.fst := by
  rw [Finmap.mem_iff]
  simp [h.lookup_iff]

/-- One round of the loop, by what the line says. -/
theorem readLine_eq (state : Loading) (line : List Char) :
    readLine state line =
      let next := { state with lineNumber := state.lineNumber + 1 }
      let failure := ConfigFailure.mk .syntaxError
        ("expected sectioned key=value at line " ++ toString next.lineNumber)
      match lineItem line with
      | none => .ok next
      | some (.header name) => readHeader next name
      | some (.entry key value) =>
        if state.sectionName = [] then .error failure
        else readEntry next (state.sectionName ++ '.' :: key) value
      | some .malformed => .error failure := by
  simp only [readLine, lineItem]
  split
  · rfl
  · split
    · rfl
    · cases find '=' 0 (trim line) with
      | none => rfl
      | some equals => rfl

theorem readHeader_eq_ok_iff {name : List Char} : readHeader state name = .ok state' ↔
    (name ∈ knownSections ∧ name ∉ state.seenSections) ∧
      { state with sectionName := name, seenSections := insert name state.seenSections } =
        state' := by
  have hnil : [] ∉ knownSections := by decide
  by_cases hknown : name ∈ knownSections
  · have hname : name ≠ [] := fun heq => hnil (heq ▸ hknown)
    by_cases hseen : name ∈ state.seenSections
    · simp [readHeader, hname, hknown, hseen]
    · simp [readHeader, hname, hknown, hseen]
  · by_cases hname : name = []
    · simp [readHeader, hname, hnil]
    · simp [readHeader, hname, hknown]

theorem readEntry_eq_ok_iff {key value : List Char} : readEntry state key value = .ok state' ↔
    (key ∈ knownKeys ∧ key ∉ state.values) ∧
      { state with values := state.values.insert key value } = state' := by
  by_cases hknown : key ∈ knownKeys
  · by_cases hgiven : key ∈ state.values
    · simp [readEntry, hknown, hgiven]
    · simp [readEntry, hknown, hgiven]
  · simp [readEntry, hknown]

/-- A line goes through if what it says fits. -/
theorem readLine_eq_ok_iff (h : state.After items) :
    readLine state line = .ok state' ↔
      (∀ item ∈ lineItem line, Ini.Fits schema items item) ∧
        state.advance (lineItem line) = state' := by
  rw [readLine_eq]
  cases lineItem line with
  | none => simp [advance]
  | some item =>
    cases item with
    | header name =>
      simp only [readHeader_eq_ok_iff, h.seen_iff, Option.mem_some_iff, forall_eq', Ini.Fits,
        advance]
      rfl
    | entry key value =>
      by_cases hname : state.sectionName = []
      · have hclosed : ∀ name, Ini.current none items ≠ some name := by
          intro name hcurrent
          obtain ⟨heq, hne⟩ := (h.section_iff name).mp hcurrent
          exact hne (heq.symm.trans hname)
        simp [hname, Ini.Fits, hclosed]
      · have hopen : Ini.current none items = some state.sectionName :=
          (h.section_iff _).mpr ⟨rfl, hname⟩
        simp only [if_neg hname, readEntry_eq_ok_iff, h.mem_iff, Option.mem_some_iff, forall_eq',
          Ini.Fits, hopen, Option.some.injEq, exists_eq_left', advance]
        rfl
    | malformed => simp [Ini.Fits]

theorem After.header {name : List Char} (h : state.After items) (hname : name ≠ []) :
    (state.advance (some (.header name))).After (items ++ [.header name]) := by
  constructor
  case section_iff =>
    intro name'
    have hcurrent : Ini.current none (items ++ [.header name]) = some name := Ini.current_append
    rw [hcurrent, Option.some.injEq]
    exact ⟨fun heq => ⟨heq, heq ▸ hname⟩, And.left⟩
  case seen_iff =>
    intro name'
    have hheaders : Ini.headers (items ++ [.header name]) = Ini.headers items ++ [name] :=
      Ini.headers_append
    rw [hheaders, List.mem_append, List.mem_singleton, ← h.seen_iff, or_comm]
    exact Finset.mem_insert
  case lookup_iff =>
    intro key value
    have hentries : Ini.entries schema none (items ++ [.header name]) =
        Ini.entries schema none items := by
      rw [Ini.entries_append]
      exact List.append_nil _
    rw [hentries]
    exact h.lookup_iff key value

theorem After.entry {key value : List Char} (h : state.After items)
    (hfits : Ini.Fits schema items (.entry key value)) :
    (state.advance (some (.entry key value))).After (items ++ [.entry key value]) := by
  obtain ⟨name, hcurrent, -, hnew⟩ := hfits
  obtain ⟨rfl, -⟩ := (h.section_iff name).mp hcurrent
  constructor
  case section_iff =>
    intro name'
    have hcurrent' : Ini.current none (items ++ [.entry key value]) = Ini.current none items :=
      Ini.current_append
    rw [hcurrent']
    exact h.section_iff name'
  case seen_iff =>
    intro name'
    have hheaders : Ini.headers (items ++ [.entry key value]) = Ini.headers items := by
      rw [Ini.headers_append]
      exact List.append_nil _
    rw [hheaders]
    exact h.seen_iff name'
  case lookup_iff =>
    intro key' value'
    have hentries : Ini.entries schema none (items ++ [.entry key value]) =
        Ini.entries schema none items ++ [(state.sectionName ++ '.' :: key, value)] := by
      rw [Ini.entries_append, hcurrent]
      rfl
    rw [hentries, List.mem_append, List.mem_singleton, Prod.mk.injEq]
    by_cases hkey : key' = state.sectionName ++ '.' :: key
    · subst hkey
      have hnone : (state.sectionName ++ '.' :: key, value') ∉ Ini.entries schema none items :=
        fun hmem => hnew (List.mem_map.mpr ⟨_, hmem, rfl⟩)
      rw [advance, Finmap.lookup_insert]
      simp [hnone, eq_comm]
    · rw [advance, Finmap.lookup_insert_of_ne _ hkey, h.lookup_iff]
      simp [hkey]

theorem After.advance (h : state.After items)
    (hfits : ∀ item' ∈ item, Ini.Fits schema items item') :
    (state.advance item).After (items ++ item.toList) := by
  cases item with
  | none =>
    rw [Option.toList_none, List.append_nil]
    exact ⟨h.section_iff, h.seen_iff, h.lookup_iff⟩
  | some item =>
    have hitem := hfits item rfl
    cases item with
    | header name =>
      have hnil : [] ∉ knownSections := by decide
      exact h.header fun heq => hnil (heq ▸ hitem.1)
    | entry key value => exact h.entry hitem
    | malformed => exact hitem.elim

theorem After.start : ({} : Loading).After [] := by
  refine ⟨fun name => ?_, fun name => ?_, fun key value => ?_⟩
  · simp [Ini.current, eq_comm]
  · simp [Ini.headers]
  · simp [Ini.entries]

theorem wellFormed_lineItems_concat :
    Ini.WellFormed schema (lineItems (lines ++ [line])) ↔
      Ini.WellFormed schema (lineItems lines) ∧
        ∀ item ∈ lineItem line, Ini.Fits schema (lineItems lines) item := by
  rw [lineItems_concat]
  cases lineItem line with
  | none => simp
  | some item => simp [Ini.wellFormed_concat]

/-- The loop goes through well-formed documents only. -/
theorem wellFormed_of_foldlM (h : lines.foldlM readLine {} = .ok state) :
    Ini.WellFormed schema (lineItems lines) ∧ state.After (lineItems lines) := by
  induction lines using List.reverseRecOn generalizing state with
  | nil =>
    cases h
    exact ⟨Ini.wellFormed_nil, .start⟩
  | append_singleton lines line ih =>
    rw [List.foldlM_append, bind_eq_ok] at h
    obtain ⟨mid, hmid, hline⟩ := h
    rw [List.foldlM_cons, bind_eq_ok] at hline
    obtain ⟨last, hread, hlast⟩ := hline
    cases hlast
    obtain ⟨hitems, hafter⟩ := ih hmid
    obtain ⟨hfits, rfl⟩ := (readLine_eq_ok_iff hafter).mp hread
    exact ⟨wellFormed_lineItems_concat.mpr ⟨hitems, hfits⟩,
      lineItems_concat lines line ▸ hafter.advance hfits⟩

/-- It goes through all of them. -/
theorem exists_foldlM_of_wellFormed (h : Ini.WellFormed schema (lineItems lines)) :
    ∃ state : Loading, lines.foldlM readLine {} = .ok state := by
  induction lines using List.reverseRecOn with
  | nil => exact ⟨{}, rfl⟩
  | append_singleton lines line ih =>
    obtain ⟨hlines, hline⟩ := wellFormed_lineItems_concat.mp h
    obtain ⟨state, hstate⟩ := ih hlines
    refine ⟨state.advance (lineItem line), ?_⟩
    have hread := (readLine_eq_ok_iff (wellFormed_of_foldlM hstate).2).mpr ⟨hline, rfl⟩
    rw [List.foldlM_append, bind_eq_ok]
    exact ⟨state, hstate, by rw [List.foldlM_cons, hread]; rfl⟩

end Loading

/-! ### The first phase -/

variable {path : String} {bytes : List Char} {values : Values}

theorem mem_orderedKeys (key : List Char) : key ∈ orderedKeys ↔ key ∈ knownKeys :=
  List.mem_insertionSort _

theorem requireKeys_eq_ok_iff : requireKeys values = .ok () ↔ ∀ key ∈ knownKeys, key ∈ values := by
  rw [requireKeys]
  cases hfind : orderedKeys.find? (· ∉ values) with
  | none =>
    simp only [Option.elim_none, true_iff]
    intro key hmem
    simpa using List.find?_eq_none.mp hfind key ((mem_orderedKeys key).mpr hmem)
  | some key =>
    have hmem := (mem_orderedKeys key).mp (List.mem_of_find?_eq_some hfind)
    have hmissing : key ∉ values := by simpa using List.find?_some hfind
    simp only [Option.elim_some, reduceCtorEq, false_iff]
    exact fun h => hmissing (h key hmem)

theorem collectValues_eq_ok_iff : collectValues path ⟨bytes, true⟩ = .ok values ↔
    ∃ state : Loading, (File.mk bytes true).lines.foldlM readLine {} = .ok state ∧
      (∀ key ∈ knownKeys, key ∈ state.values) ∧ state.values = values := by
  rw [collectValues]
  simp only [bind_eq_ok, if_true]
  constructor
  · rintro ⟨state, hstate, ⟨⟩, hkeys, heq⟩
    cases heq
    exact ⟨state, hstate, requireKeys_eq_ok_iff.mp hkeys, rfl⟩
  · rintro ⟨state, hstate, hkeys, rfl⟩
    exact ⟨state, hstate, (), requireKeys_eq_ok_iff.mpr hkeys, rfl⟩

/-- What is collected is what the lines have entries for, and nothing else of the lines counts. -/
theorem collectValues_spec : collectValues path ⟨bytes, true⟩ = .ok values ↔
    Ini.WellFormed schema (lineItems (File.mk bytes true).lines) ∧
      (∀ key ∈ knownKeys,
        key ∈ (Ini.entries schema none (lineItems (File.mk bytes true).lines)).map Prod.fst) ∧
      ∀ key value, values.lookup key = some value ↔
        (key, value) ∈ Ini.entries schema none (lineItems (File.mk bytes true).lines) := by
  rw [collectValues_eq_ok_iff]
  constructor
  · rintro ⟨state, hstate, hkeys, rfl⟩
    obtain ⟨hlines, hafter⟩ := Loading.wellFormed_of_foldlM hstate
    exact ⟨hlines, fun key hkey => (hafter.mem_iff key).mp (hkeys key hkey), hafter.lookup_iff⟩
  · rintro ⟨hlines, hkeys, hvalues⟩
    obtain ⟨state, hstate⟩ := Loading.exists_foldlM_of_wellFormed hlines
    have hafter := (Loading.wellFormed_of_foldlM hstate).2
    refine ⟨state, hstate, fun key hkey => (hafter.mem_iff key).mpr (hkeys key hkey), ?_⟩
    apply Finmap.ext_lookup
    intro key
    apply Option.ext
    intro value
    rw [hafter.lookup_iff, hvalues]

theorem exists_collectValues
    (hlines : Ini.WellFormed schema (lineItems (File.mk bytes true).lines))
    (hkeys : ∀ key ∈ knownKeys,
      key ∈ (Ini.entries schema none (lineItems (File.mk bytes true).lines)).map Prod.fst) :
    ∃ values, collectValues path ⟨bytes, true⟩ = .ok values := by
  obtain ⟨state, hstate⟩ := Loading.exists_foldlM_of_wellFormed hlines
  have hafter := (Loading.wellFormed_of_foldlM hstate).2
  refine ⟨state.values, collectValues_eq_ok_iff.mpr ⟨state, hstate, ?_, rfl⟩⟩
  exact fun key hkey => (hafter.mem_iff key).mpr (hkeys key hkey)

end WheeltecVcuSerial
