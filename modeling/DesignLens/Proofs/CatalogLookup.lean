import DesignLens.Proofs.Attempts
import DesignLens.Proofs.JsonDocuments
import DesignLens.Proofs.Texts
import DesignLens.Tools.Registry
import Mathlib.Data.List.Nodup

/-!
# What a catalogue gives

Whatever the file of a catalogue holds, the entries of its list of patterns are dealt out between
the two listings, patterns and architectures, and the references on refactoring form a list without
repetition that has the usual links at its end. A file that is missing or of another shape has no
entries, and only the usual links.
-/

namespace DesignLens.Catalog

open Workspace

/-! ## Listings -/

/-- The file reads as an object with a list of patterns that has these items. -/
def Lists (content : Option Content) (items : List Json) : Prop :=
  ∃ file text fields, content = some file ∧ file.read = .ok text ∧
    Json.read text = .ok (.obj fields) ∧ Table.find? "patterns" fields = some (.arr items)

/-- Every item of a list is dealt out to one of two lists, in its order and as often as it is
there; no item is in both. -/
structure DealtOut (items left right : List Json) : Prop where
  perm : (left ++ right).Perm items
  left_sublist : left.Sublist items
  right_sublist : right.Sublist items
  disjoint : left.Disjoint right

theorem dealtOut_filter (p : Json → Bool) (items : List Json) :
    DealtOut items (items.filter fun item => !p item) (items.filter p) where
  perm := List.perm_append_comm.trans (List.filter_append_perm p items)
  left_sublist := List.filter_sublist
  right_sublist := List.filter_sublist
  disjoint := by
    intro item hleft hright
    have hnot := (List.mem_filter.mp hleft).2
    have hyes := (List.mem_filter.mp hright).2
    rw [hyes] at hnot
    cases hnot

theorem value_of_read {file : Content} {text : String} {fields : List (String × Json)}
    (hread : file.read = .ok text) (hjson : Json.read text = .ok (.obj fields)) :
    (ofContent (some file)).value = .obj fields := by
  simp [ofContent, value, hread, hjson, bind, Except.bind, Except.mapError]

/-- A file of another shape counts as an object without fields. -/
theorem value_cases (content : Option Content) :
    (∃ file text fields, content = some file ∧ file.read = .ok text ∧
        Json.read text = .ok (.obj fields)) ∨
      (ofContent content).value = .obj [] := by
  unfold value
  split
  · rename_i fields hdocument
    obtain ⟨file, rfl, hfile⟩ := Option.map_eq_some_iff.mp hdocument
    obtain ⟨text, hread, hjson⟩ := bind_eq_ok.mp hfile
    cases hvalue : Json.read text with
    | error fault =>
      rw [hvalue] at hjson
      cases hjson
    | ok v =>
      rw [hvalue] at hjson
      cases hjson
      exact Or.inl ⟨file, text, fields, rfl, hread, hvalue⟩
  · exact Or.inr rfl

theorem patternItems_of_lists {content : Option Content} {items : List Json}
    (h : Lists content items) : (ofContent content).patternItems = items.filter Json.isObject := by
  obtain ⟨file, text, fields, rfl, hread, hjson, hfind⟩ := h
  rw [patternItems, value_of_read hread hjson, Json.fieldD, Json.field?, hfind]
  rfl

/-- What is not a list yields no objects, if it yields anything. -/
theorem objects_of_not_array {v : Json} (h : v.isArray = false) :
    (v.objects.toOption).getD [] = [] := by
  -- Characters and field names are texts; anything else cannot be gone through.
  cases v with
  | arr items => cases h
  | str s =>
    show List.filter Json.isObject (Json.characters s) = []
    rw [Json.characters, List.filter_map]
    simp [Function.comp_def, Json.isObject]
  | obj fields =>
    show List.filter Json.isObject (fields.map fun f => .str f.1) = []
    rw [List.filter_map]
    simp [Function.comp_def, Json.isObject]
  | null => rfl
  | bool b => rfl
  | int n => rfl
  | float x => rfl

theorem patternItems_of_not_lists {content : Option Content}
    (h : ¬ ∃ items, Lists content items) : (ofContent content).patternItems = [] := by
  rw [patternItems]
  rcases value_cases content with ⟨file, text, fields, rfl, hread, hjson⟩ | hvalue
  · rw [value_of_read hread hjson, Json.fieldD, Json.field?]
    cases hfind : Table.find? "patterns" fields with
    | none => rfl
    | some v =>
      refine objects_of_not_array ?_
      cases v with
      | arr items => exact absurd ⟨items, file, text, fields, rfl, hread, hjson, hfind⟩ h
      | _ => rfl
  · rw [hvalue]
    rfl

theorem call_listings (s : Setting) (w : World) :
    Tools.call s w "list-patterns" [] = (w, .ok (.arr s.workshop.catalog.patterns)) ∧
      Tools.call s w "list-architectures" [] = (w, .ok (.arr s.workshop.catalog.architectures)) :=
  ⟨rfl, rfl⟩

/-- Both listings are always given. Of the objects in a list of patterns each goes to one of them,
to the architectures if its category reads so and to the patterns if not; without such a list both
are empty. -/
theorem listings_deal_out (content : Option Content) (s : Setting) (w : World) :
    let c := ofContent content
    let s := { s with workshop := { s.workshop with catalog := c } }
    Tools.call s w "list-patterns" [] = (w, .ok (.arr c.patterns)) ∧
      Tools.call s w "list-architectures" [] = (w, .ok (.arr c.architectures)) ∧
      (∀ items, Lists content items →
        DealtOut (items.filter Json.isObject) c.patterns c.architectures ∧
          ∀ item ∈ items, item.isObject = true →
            (item ∈ c.patterns ↔ item ∉ c.architectures) ∧
              (item ∈ c.architectures ↔
                Text.lower (item.fieldD "category" (.str "")).shown = "architecture")) ∧
      ((¬ ∃ items, Lists content items) → c.patterns = [] ∧ c.architectures = []) := by
  intro c s
  refine ⟨(call_listings s w).1, (call_listings s w).2, ?_, ?_⟩
  · intro items hitems
    have hobjects := patternItems_of_lists hitems
    constructor
    · rw [← hobjects]
      exact dealtOut_filter isArchitecture c.patternItems
    · intro item hmem hobject
      have hlisted : item ∈ c.patternItems := by
        rw [hobjects]
        exact List.mem_filter.mpr ⟨hmem, hobject⟩
      simp [patterns, architectures, hlisted, isArchitecture]
  · intro hnone
    rw [patterns, architectures, patternItems_of_not_lists hnone]
    exact ⟨rfl, rfl⟩

/-- The file of a catalogue with the given fields. -/
def fileOf (fields : List (String × Json)) : Content := .text (Json.write .line (.obj fields))

theorem read_fileOf {fields : List (String × Json)} (h : (Json.obj fields).IsKept) :
    (fileOf fields).read = .ok (Json.write .line (.obj fields)) ∧
      Json.read (Json.write .line (.obj fields)) = .ok (.obj fields) := by
  constructor
  · rw [fileOf, Content.read, Text.plainNewlines_eq_self (Json.written_write rfl h).unbroken,
      String.ofList_toList]
  · exact Json.read_write rfl h

/-- An architecture, an item that is no object, and a pattern. -/
def mixedItems : List Json := [.obj [("category", .str "ARCHITECTURE")], .null, .obj []]

theorem lists_mixed : Lists (some (fileOf [("patterns", .arr mixedItems)])) mixedItems := by
  have hkept : (Json.obj [("patterns", .arr mixedItems)]).IsKept := by
    simp [mixedItems, Json.IsKept, Json.AreKept, Json.FieldsKept, Table.keys]
  exact ⟨_, _, _, rfl, (read_fileOf hkept).1, (read_fileOf hkept).2, rfl⟩

/-- A setting without anything in it, and a world without files. -/
def bareSetting : Setting :=
  ⟨[], ⟨[], []⟩, ⟨⟨none⟩, [], [], fun _ _ => none, fun _ => none, fun _ => .none⟩, .missing, false,
    fun _ => none, ⟨fun _ => none, fun _ => "", .ok⟩⟩

def bareWorld : World := ⟨⟨[], []⟩, ⟨[], []⟩⟩

theorem listings_deal_out_mixed :
    let file := fileOf [("patterns", .arr mixedItems)]
    Lists (some file) mixedItems ∧
      DealtOut [.obj [("category", .str "ARCHITECTURE")], .obj []]
        (ofContent (some file)).patterns (ofContent (some file)).architectures ∧
      .obj [("category", .str "ARCHITECTURE")] ∈ (ofContent (some file)).architectures ∧
      (¬ ∃ items, Lists none items) ∧
      (ofContent none).patterns = [] ∧ (ofContent none).architectures = [] := by
  intro file
  have hmixed := (listings_deal_out (some file) bareSetting bareWorld).2.2.1 _ lists_mixed
  have hnone : ¬ ∃ items, Lists none items := by
    rintro ⟨items, file, -, -, hfile, -⟩
    cases hfile
  refine ⟨lists_mixed, hmixed.1, ?_, hnone,
    (listings_deal_out none bareSetting bareWorld).2.2.2 hnone⟩
  exact (hmixed.2 _ List.mem_cons_self rfl).2.mpr (by decide)

/-! ## References -/

/-- Different texts, none of them empty. -/
structure IsReadingList (refs : List String) : Prop where
  nodup : refs.Nodup
  not_empty : ∀ ref ∈ refs, ref ≠ ""

theorem addReference_cases (refs : List String) (ref : String) :
    (addReference refs ref = refs ∧ (ref = "" ∨ ref ∈ refs)) ∨
      (addReference refs ref = refs ++ [ref] ∧ ref ≠ "" ∧ ref ∉ refs) := by
  unfold addReference
  split_ifs with h
  · simp only [Bool.or_eq_true, String.isEmpty_iff, List.contains_iff_mem] at h
    exact Or.inl ⟨rfl, h⟩
  · simp only [Bool.or_eq_true, String.isEmpty_iff, List.contains_iff_mem, not_or] at h
    exact Or.inr ⟨rfl, h.1, h.2⟩

theorem mem_addReference {refs : List String} {ref r : String} :
    r ∈ addReference refs ref ↔ r ∈ refs ∨ r = ref ∧ r ≠ "" := by
  rcases addReference_cases refs ref with ⟨heq, hold⟩ | ⟨heq, hne, -⟩
  · rw [heq]
    constructor
    · exact Or.inl
    · rintro (hr | ⟨rfl, hr⟩)
      · exact hr
      · exact hold.resolve_left hr
  · rw [heq, List.mem_append, List.mem_singleton]
    constructor
    · rintro (hr | rfl)
      · exact Or.inl hr
      · exact Or.inr ⟨rfl, hne⟩
    · rintro (hr | ⟨rfl, -⟩)
      · exact Or.inl hr
      · exact Or.inr rfl

theorem IsReadingList.addReference {refs : List String} (h : IsReadingList refs) (ref : String) :
    IsReadingList (addReference refs ref) := by
  constructor
  · rcases addReference_cases refs ref with ⟨heq, -⟩ | ⟨heq, -, hnew⟩
    · rw [heq]
      exact h.nodup
    · rw [heq, List.nodup_append]
      refine ⟨h.nodup, List.nodup_singleton ref, ?_⟩
      rintro r hr _ hlast rfl
      exact hnew (List.mem_singleton.mp hlast ▸ hr)
  · intro r hr
    rcases mem_addReference.mp hr with hr | ⟨-, hne⟩
    · exact h.not_empty r hr
    · exact hne

theorem IsReadingList.foldl {start : List String} (h : IsReadingList start) (refs : List String) :
    IsReadingList (refs.foldl Catalog.addReference start) := by
  induction refs generalizing start with
  | nil => exact h
  | cons ref rest ih => exact ih (h.addReference ref)

theorem mem_foldl_addReference {start refs : List String} {r : String} :
    r ∈ refs.foldl addReference start ↔ r ∈ start ∨ r ∈ refs ∧ r ≠ "" := by
  induction refs generalizing start with
  | nil => simp
  | cons ref rest ih =>
    rw [List.foldl_cons, ih, mem_addReference, List.mem_cons]
    tauto

/-- All references that there are, without a limit. -/
def allReferences (c : Catalog) : List String :=
  (c.foundReferences ++ fallbackReferences).foldl addReference []

theorem references_eq_take (c : Catalog) (limit : Int) :
    c.references limit = c.allReferences.take (max 1 limit).toNat := rfl

theorem isReadingList_allReferences (c : Catalog) : IsReadingList c.allReferences :=
  IsReadingList.foldl ⟨List.nodup_nil, fun _ h => absurd h List.not_mem_nil⟩ _

theorem mem_allReferences {c : Catalog} {r : String} :
    r ∈ c.allReferences ↔ (r ∈ c.foundReferences ∨ r ∈ fallbackReferences) ∧ r ≠ "" := by
  rw [allReferences, mem_foldl_addReference, List.mem_append]
  simp

theorem fallback_mem_allReferences (c : Catalog) :
    ∀ link ∈ fallbackReferences, link ∈ c.allReferences := by
  intro link hlink
  refine mem_allReferences.mpr ⟨Or.inr hlink, ?_⟩
  rintro rfl
  revert hlink
  decide

theorem allReferences_ne_nil (c : Catalog) : c.allReferences ≠ [] :=
  List.ne_nil_of_mem (c.fallback_mem_allReferences _ List.mem_cons_self)

theorem head?_references (c : Catalog) (limit : Int) :
    (c.references limit).head? = c.allReferences.head? := by
  rw [references_eq_take, List.head?_take, if_neg]
  omega

theorem head?_references_eq_main (c : Catalog) (limit : Int) :
    (c.references limit).head? = some c.mainReference := by
  rw [mainReference, List.headD_eq_head?_getD, head?_references, head?_references]
  cases hall : c.allReferences with
  | nil => exact absurd hall c.allReferences_ne_nil
  | cons first rest => rfl

/-- Whatever a catalogue holds, its references are different texts that are not empty, at least one
and at most as many as asked for. A higher limit only adds to them at the end, until everything is
there that the catalogue gives, and the usual links; the first one is always the same. -/
theorem references_form_list (content : Option Content) :
    let c := ofContent content
    (∀ limit : Int, c.references limit ≠ [] ∧ (c.references limit).Nodup ∧
        (∀ ref ∈ c.references limit, ref ≠ "") ∧
        ((c.references limit).length : Int) ≤ max 1 limit ∧
        (c.references limit).head? = some c.mainReference) ∧
      (∀ m n : Int, m ≤ n → c.references m <+: c.references n) ∧
      ∃ enough : Int, ∀ limit, enough ≤ limit →
        (∀ link ∈ fallbackReferences, link ∈ c.references limit) ∧
          ∀ ref, ref ∈ c.references limit ↔
            (ref ∈ c.foundReferences ∨ ref ∈ fallbackReferences) ∧ ref ≠ "" := by
  intro c
  have hall := c.isReadingList_allReferences
  refine ⟨fun limit => ⟨?_, ?_, ?_, ?_, c.head?_references_eq_main limit⟩, ?_, ?_⟩
  · intro hnil
    have hhead := c.head?_references_eq_main limit
    rw [hnil] at hhead
    cases hhead
  · exact hall.nodup.sublist (List.take_sublist _ _)
  · intro ref href
    exact hall.not_empty ref (List.mem_of_mem_take href)
  · rw [references_eq_take, List.length_take]
    omega
  · intro m n hmn
    refine List.take_prefix_take_left ?_
    omega
  · refine ⟨c.allReferences.length, fun limit hlimit => ?_⟩
    have hwhole : c.references limit = c.allReferences := by
      rw [references_eq_take]
      refine List.take_of_length_le ?_
      omega
    rw [hwhole]
    exact ⟨c.fallback_mem_allReferences, fun ref => mem_allReferences⟩

/-- Two entries on refactoring, of which the second has no list of references. -/
def brokenFields : List (String × Json) :=
  [("patterns", .arr
    [.obj [("category", .str " Refactoring"), ("refs", .strings ["a", "", "a"])],
      .obj [("category", .str "refactoring"), ("refs", .bool true)]])]

theorem foundReferences_of_broken {c : Catalog} (h : c.value = .obj brokenFields) :
    c.foundReferences = ["a", "", "a"] := by
  unfold foundReferences
  rw [h]
  decide

theorem references_form_list_broken :
    let c := ofContent (some (fileOf brokenFields))
    c.references 0 = ["a"] ∧ c.references 0 <+: c.references 2 ∧
      ∃ enough : Int, ∀ link ∈ fallbackReferences, link ∈ c.references enough := by
  intro c
  have hkept : (Json.obj brokenFields).IsKept := by
    simp [brokenFields, Json.strings, Json.IsKept, Json.AreKept, Json.FieldsKept, Table.keys]
  have hvalue : c.value = .obj brokenFields :=
    value_of_read (read_fileOf hkept).1 (read_fileOf hkept).2
  obtain ⟨-, hprefix, enough, henough⟩ := references_form_list (some (fileOf brokenFields))
  refine ⟨?_, hprefix 0 2 (by decide), enough, (henough enough (Int.le_refl enough)).1⟩
  rw [references, foundReferences_of_broken hvalue]
  decide

end DesignLens.Catalog
