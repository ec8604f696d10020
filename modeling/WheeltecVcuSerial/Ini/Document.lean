import Mathlib.Data.List.Induction
import Mathlib.Data.List.Nodup
import Mathlib.Data.List.Perm.Basic

/-! Documents of sections and entries: what a reader that goes line by line accepts, and that the
order of the lines is nothing to it. -/

universe u v w x

namespace WheeltecVcuSerial.Ini

/-- What a line says, if it says anything. -/
inductive Item (S : Type u) (K : Type v) (V : Type w)
  | header (name : S)
  | entry (key : K) (value : V)
  | malformed
  deriving DecidableEq

/-- The sections and the keys there can be.  A key is known by its name over all sections. -/
structure Schema (S : Type u) (K : Type v) (N : Type x) where
  sections : S → Prop
  qualify : S → K → N
  keys : N → Prop

variable {S : Type u} {K : Type v} {V : Type w} {N : Type x}

def Item.header? : Item S K V → Option S
  | .header name => some name
  | .entry _ _ => none
  | .malformed => none

/-- The section after an item, from the one before it. -/
def Item.next (place : Option S) : Item S K V → Option S
  | .header name => some name
  | .entry _ _ => place
  | .malformed => place

/-- What an item gives in a section. -/
def Item.gives (schema : Schema S K N) (place : Option S) : Item S K V → List (N × V)
  | .header _ => []
  | .entry key value => place.toList.map fun name => (schema.qualify name key, value)
  | .malformed => []

def headers (items : List (Item S K V)) : List S := items.filterMap Item.header?

def current (place : Option S) (items : List (Item S K V)) : Option S := items.foldl Item.next place

def entries (schema : Schema S K N) : Option S → List (Item S K V) → List (N × V)
  | _, [] => []
  | place, item :: items => item.gives schema place ++ entries schema (item.next place) items

/-- An item that may stand after others. -/
def Fits (schema : Schema S K N) (items : List (Item S K V)) : Item S K V → Prop
  | .header name => schema.sections name ∧ name ∉ headers items
  | .entry key _ => ∃ name, current none items = some name ∧ schema.keys (schema.qualify name key) ∧
      schema.qualify name key ∉ (entries schema none items).map Prod.fst
  | .malformed => False

def WellFormed (schema : Schema S K N) (items : List (Item S K V)) : Prop :=
  ∀ before item after, items = before ++ item :: after → Fits schema before item

/-- The same, of the document as a whole. -/
structure Regular (schema : Schema S K N) (items : List (Item S K V)) : Prop where
  starts : ∀ item ∈ items.head?, item.header?.isSome = true
  malformed : Item.malformed ∉ items
  sections : ∀ name ∈ headers items, schema.sections name
  once : (headers items).Nodup
  keys : ∀ entry ∈ entries schema none items, schema.keys entry.1
  single : ((entries schema none items).map Prod.fst).Nodup

/-- The same items in another order: those of a section may change places, and so may whole
sections. -/
inductive Reordered : List (Item S K V) → List (Item S K V) → Prop
  | refl : Reordered items items
  | trans : Reordered items between → Reordered between items' → Reordered items items'
  | swap {before after : List (Item S K V)} {a b : Item S K V} :
      a.header? = none → b.header? = none →
      Reordered (before ++ a :: b :: after) (before ++ b :: a :: after)
  | sections {before body body' after : List (Item S K V)} {first second : S} :
      (∀ item ∈ after.head?, item.header?.isSome = true) →
      Reordered (before ++ .header first :: body ++ .header second :: body' ++ after)
        (before ++ .header second :: body' ++ .header first :: body ++ after)

variable {schema : Schema S K N} {place : Option S} {items items' before after : List (Item S K V)}
  {item : Item S K V}

/-! ### Reading on -/

@[simp] theorem Item.header?_eq_some {name : S} :
    item.header? = some name ↔ item = .header name := by
  cases item <;> simp [Item.header?]

theorem headers_append : headers (items ++ items') = headers items ++ headers items' :=
  List.filterMap_append

theorem current_append : current place (items ++ items') = current (current place items) items' :=
  List.foldl_append

theorem entries_append : entries schema place (items ++ items') =
    entries schema place items ++ entries schema (current place items) items' := by
  induction items generalizing place with
  | nil => rfl
  | cons item items ih =>
    rw [List.cons_append, entries, ih, entries, List.append_assoc]
    rfl

theorem mem_entries_entry {key : K} {value value' : V} {full : N} :
    (full, value') ∈ entries schema place [.entry key value] ↔
      ∃ name, place = some name ∧ full = schema.qualify name key ∧ value' = value := by
  cases place with
  | none => simp [entries, Item.gives]
  | some name => simp [entries, Item.gives]

theorem wellFormed_nil : WellFormed schema ([] : List (Item S K V)) := by
  intro before item after h
  simp at h

/-- An element of a list with one more at its end is the last one or stands before it. -/
theorem append_cons_eq_concat {α : Type*} {before after list : List α} {a b : α} :
    before ++ a :: after = list ++ [b] ↔
      before = list ∧ a = b ∧ after = [] ∨
        ∃ rest, after = rest ++ [b] ∧ before ++ a :: rest = list := by
  constructor
  · intro heq
    rcases List.eq_nil_or_concat after with rfl | ⟨rest, last, rfl⟩
    · obtain ⟨rfl, hlast⟩ := List.append_inj' heq rfl
      cases hlast
      exact .inl ⟨rfl, rfl, rfl⟩
    · rw [List.concat_eq_append, ← List.cons_append, ← List.append_assoc] at heq
      obtain ⟨rfl, hlast⟩ := List.append_inj' heq rfl
      cases hlast
      exact .inr ⟨rest, List.concat_eq_append, rfl⟩
  · rintro (⟨rfl, rfl, rfl⟩ | ⟨rest, rfl, rfl⟩)
    · rfl
    · rw [List.append_assoc, List.cons_append]

theorem wellFormed_concat :
    WellFormed schema (items ++ [item]) ↔ WellFormed schema items ∧ Fits schema items item := by
  constructor
  · intro h
    refine ⟨fun before item' after heq => h before item' (after ++ [item]) ?_, h items item [] rfl⟩
    rw [heq, List.append_assoc, List.cons_append]
  · rintro ⟨hitems, hitem⟩ before item' after heq
    rcases append_cons_eq_concat.mp heq.symm with ⟨rfl, rfl, -⟩ | ⟨rest, -, rfl⟩
    · exact hitem
    · exact hitems before item' rest rfl

/-- The items of some lines, looked at line by line. -/
theorem wellFormed_filterMap {α : Type*} {lines : List α} {item? : α → Option (Item S K V)} :
    WellFormed schema (lines.filterMap item?) ↔
      ∀ before line after, lines = before ++ line :: after →
        ∀ item ∈ item? line, Fits schema (before.filterMap item?) item := by
  constructor
  · rintro h before line after rfl item hitem
    refine h _ item (after.filterMap item?) ?_
    rw [List.filterMap_append, List.filterMap_cons_some hitem]
  · intro h before item after heq
    obtain ⟨early, rest, rfl, rfl, hrest⟩ := List.filterMap_eq_append_iff.mp heq
    obtain ⟨blank, line, late, rfl, hblank, hitem, -⟩ := List.filterMap_eq_cons_iff.mp hrest
    have hfits := h (early ++ blank) line late (by rw [List.append_assoc]) item hitem
    rwa [List.filterMap_append, List.filterMap_eq_nil_iff.mpr hblank, List.append_nil] at hfits

/-- Once a section is open there is always one. -/
theorem current_isSome (h : place.isSome = true) : (current place items).isSome = true := by
  induction items generalizing place with
  | nil => exact h
  | cons item items ih =>
    apply ih
    cases item with
    | header name => rfl
    | entry key value => exact h
    | malformed => exact h

theorem current_of_starts (h : ∀ item ∈ items.head?, item.header?.isSome = true)
    (hne : items ≠ []) :
    ∃ name, current none items = some name := by
  obtain ⟨item, rest, rfl⟩ := List.exists_cons_of_ne_nil hne
  have hitem := h item rfl
  rw [← Option.isSome_iff_exists, current, List.foldl_cons]
  apply current_isSome
  cases item with
  | header name => rfl
  | entry key value => cases hitem
  | malformed => cases hitem

theorem Regular.concat (h : Regular schema items) (hitem : Fits schema items item) :
    Regular schema (items ++ [item]) := by
  have hstarts : items ≠ [] → ∀ first ∈ (items ++ [item]).head?, first.header?.isSome = true := by
    intro hne first hfirst
    rw [List.head?_append_of_ne_nil _ hne] at hfirst
    exact h.starts first hfirst
  cases item with
  | header name =>
    have hentries : entries schema none (items ++ [.header name]) = entries schema none items := by
      rw [entries_append]
      exact List.append_nil _
    have hheaders : headers (items ++ [.header name]) = headers items ++ [name] := headers_append
    refine ⟨?_, by simp [h.malformed], ?_, ?_, hentries ▸ h.keys, hentries ▸ h.single⟩
    · rcases eq_or_ne items [] with rfl | hne
      · simp [Item.header?]
      · exact hstarts hne
    · rw [hheaders, List.forall_mem_append, List.forall_mem_singleton]
      exact ⟨h.sections, hitem.1⟩
    · rw [hheaders]
      exact List.nodup_append_comm.mp (List.nodup_cons.mpr ⟨hitem.2, h.once⟩)
  | entry key value =>
    obtain ⟨name, hcurrent, hknown, hnew⟩ := hitem
    have hne : items ≠ [] := by
      rintro rfl
      cases hcurrent
    have hentries : entries schema none (items ++ [.entry key value]) =
        entries schema none items ++ [(schema.qualify name key, value)] := by
      rw [entries_append, hcurrent]
      rfl
    have hheaders : headers (items ++ [.entry key value]) = headers items := by
      rw [headers_append]
      exact List.append_nil _
    refine ⟨hstarts hne, by simp [h.malformed], hheaders ▸ h.sections, hheaders ▸ h.once, ?_, ?_⟩
    · rw [hentries, List.forall_mem_append, List.forall_mem_singleton]
      exact ⟨h.keys, hknown⟩
    · rw [hentries, List.map_append, List.map_singleton]
      exact List.nodup_append_comm.mp (List.nodup_cons.mpr ⟨hnew, h.single⟩)
  | malformed => exact hitem.elim

theorem Regular.of_concat (h : Regular schema (items ++ [item])) :
    Regular schema items ∧ Fits schema items item := by
  have hkeys := h.keys
  have hsingle := h.single
  have hsections := h.sections
  have honce := h.once
  rw [entries_append, List.forall_mem_append] at hkeys
  rw [entries_append, List.map_append, List.nodup_append] at hsingle
  rw [headers_append, List.forall_mem_append] at hsections
  rw [headers_append, List.nodup_append] at honce
  have hstarts : ∀ first ∈ items.head?, first.header?.isSome = true := by
    intro first hfirst
    apply h.starts
    rw [List.head?_append, Option.mem_def.mp hfirst]
    rfl
  refine ⟨⟨hstarts, fun hmem => h.malformed (List.mem_append_left _ hmem), hsections.1, honce.1,
    hkeys.1, hsingle.1⟩, ?_⟩
  cases item with
  | header name =>
    exact ⟨hsections.2 name List.mem_cons_self,
      fun hmem => honce.2.2 name hmem name List.mem_cons_self rfl⟩
  | entry key value =>
    have hne : items ≠ [] := by
      rintro rfl
      cases h.starts _ rfl
    obtain ⟨name, hcurrent⟩ := current_of_starts hstarts hne
    have hlast : (schema.qualify name key, value) ∈
        entries schema (current none items) [Item.entry key value] := by
      rw [hcurrent]
      exact List.mem_cons_self
    exact ⟨name, hcurrent, hkeys.2 _ hlast,
      fun hmem => hsingle.2.2 _ hmem _ (List.mem_map_of_mem hlast) rfl⟩
  | malformed => exact h.malformed (List.mem_append_right _ List.mem_cons_self)

theorem regular_nil : Regular schema ([] : List (Item S K V)) :=
  ⟨by simp, by simp, by simp [headers], by simp [headers], by simp [entries], by simp [entries]⟩

/-- Item by item or as a whole, a document is well formed alike. -/
theorem wellFormed_iff_regular : WellFormed schema items ↔ Regular schema items := by
  induction items using List.reverseRecOn with
  | nil => exact ⟨fun _ => regular_nil, fun _ => wellFormed_nil⟩
  | append_singleton items item ih =>
    rw [wellFormed_concat, ih]
    exact ⟨fun h => h.1.concat h.2, Regular.of_concat⟩

/-! ### Another order -/

theorem entries_of_starts (h : ∀ item ∈ items.head?, item.header?.isSome = true) :
    entries schema place items = entries schema none items := by
  cases items with
  | nil => rfl
  | cons item items =>
    have hitem := h item rfl
    cases item with
    | header name => rfl
    | entry key value => cases hitem
    | malformed => cases hitem

theorem Item.next_of_not_header (h : item.header? = none) : item.next place = place := by
  cases item with
  | header name => cases h
  | entry key value => rfl
  | malformed => rfl

theorem Reordered.perm (h : Reordered items items') : items.Perm items' := by
  induction h with
  | refl => exact .refl _
  | trans _ _ ih ih' => exact ih.trans ih'
  | swap _ _ => exact (List.Perm.swap _ _ _).append_left _
  | sections _ =>
    simp only [List.append_assoc]
    apply List.Perm.append_left
    simp only [← List.append_assoc]
    exact List.perm_append_comm.append_right _

theorem Reordered.starts (h : Reordered items items')
    (hstarts : ∀ item ∈ items.head?, item.header?.isSome = true) :
    ∀ item ∈ items'.head?, item.header?.isSome = true := by
  induction h with
  | refl => exact hstarts
  | trans _ _ ih ih' => exact ih' (ih hstarts)
  | @swap before after a b ha hb =>
    cases before with
    | nil =>
      have hhead := hstarts a rfl
      rw [ha] at hhead
      cases hhead
    | cons first before => exact hstarts
  | @sections before body body' after first second hafter =>
    cases before with
    | nil =>
      rintro _ ⟨⟩
      rfl
    | cons first before => exact hstarts

/-- The same is given, in another order. -/
theorem Reordered.entries_perm (h : Reordered items items') :
    (entries schema none items).Perm (entries schema none items') := by
  induction h with
  | refl => exact .refl _
  | trans _ _ ih ih' => exact ih.trans ih'
  | @swap before after a b ha hb =>
    simp only [entries_append, entries, Item.next_of_not_header ha, Item.next_of_not_header hb]
    apply List.Perm.append_left
    simp only [← List.append_assoc]
    exact List.perm_append_comm.append_right _
  | @sections before body body' after first second hafter =>
    simp only [entries_append, entries_of_starts hafter, List.append_assoc]
    apply List.Perm.append_left
    simp only [← List.append_assoc]
    exact List.perm_append_comm.append_right _

theorem Reordered.regular (h : Reordered items items') (hitems : Regular schema items) :
    Regular schema items' := by
  have hheaders : (headers items).Perm (headers items') := h.perm.filterMap _
  have hentries : (entries schema none items).Perm (entries schema none items') := h.entries_perm
  exact
    { starts := h.starts hitems.starts
      malformed := fun hmem => hitems.malformed (h.perm.mem_iff.mpr hmem)
      sections := fun name hname => hitems.sections name (hheaders.mem_iff.mpr hname)
      once := hheaders.nodup_iff.mp hitems.once
      keys := fun entry hentry => hitems.keys entry (hentries.mem_iff.mpr hentry)
      single := (hentries.map _).nodup_iff.mp hitems.single }

end WheeltecVcuSerial.Ini
