import DesignLens.Proofs.CatalogLookup
import DesignLens.Proofs.ScaffoldTexts

/-!
# The scaffolds that come with the library

None of the texts in the catalogue and in the generators that come with the library means anything
to a template or ends a string early. Headers and code of their scaffolds are therefore as simple as
they look.
-/

namespace DesignLens.Scaffold

open Text

/-! ## Generators -/

/-- Code without line ends and without anything that a template would open. -/
def isPlainLine (cs : List Char) : Bool :=
  isPlainTemplate cs && cs.all fun c => c != '\r' && c != '\n'

/-- Lines of code, at least one, of which the last one is not empty. -/
def isPlainBlock : List (List Char) → Bool
  | [] => false
  | [last] => isPlainLine last && !last.isEmpty
  | line :: rest => isPlainLine line && isPlainBlock rest

/-- A text that is written down in one piece or in two. -/
inductive Spells : String → List Char → Prop
  | whole {cs : List Char} : Spells (String.ofList cs) cs
  | halves {cs cs' : List Char} : Spells (String.ofList cs ++ String.ofList cs') (cs ++ cs')

/-- Lines and their characters. -/
inductive Spelt : List String → List (List Char) → Prop
  | nil : Spelt [] []
  | cons {line : String} {cs : List Char} {lines : List String} {css : List (List Char)} :
      Spells line cs → Spelt lines css → Spelt (line :: lines) (cs :: css)

theorem Spells.eq_ofList {line : String} {cs : List Char} (h : Spells line cs) :
    line = String.ofList cs := by
  cases h with
  | whole => rfl
  | halves => rw [String.ofList_append]

theorem Spelt.map_toList {lines : List String} {css : List (List Char)} (h : Spelt lines css) :
    lines.map String.toList = css := by
  induction h with
  | nil => rfl
  | cons hline _ ih => rw [List.map_cons, ih, hline.eq_ofList, String.toList_ofList]

/-- What holds of the characters of all lines is checked on characters that are written out. -/
theorem Spelt.forall_toList {lines : List String} {css : List (List Char)} {p : List Char → Bool}
    (h : Spelt lines css) (hp : css.all p = true) : ∀ line ∈ lines, p line.toList = true := by
  intro line hline
  refine List.all_eq_true.mp hp line.toList ?_
  rw [← h.map_toList]
  exact List.mem_map_of_mem hline

theorem Spelt.mem_iff {lines : List String} {css : List (List Char)} (h : Spelt lines css)
    (line : String) : line ∈ lines ↔ line.toList ∈ css := by
  rw [← h.map_toList, List.mem_map_of_injective fun _ _ => String.toList_inj.mp]

theorem Spelt.subset {lines known : List String} {css kss : List (List Char)}
    (h : Spelt lines css) (hknown : Spelt known kss)
    (hsubset : (css.all fun cs => decide (cs ∈ kss)) = true) : lines ⊆ known := by
  intro line hline
  rw [hknown.mem_iff]
  exact of_decide_eq_true (h.forall_toList hsubset line hline)

theorem Spelt.ne_empty {lines : List String} {css : List (List Char)} (h : Spelt lines css)
    (hne : (css.all fun cs => !cs.isEmpty) = true) : ∀ line ∈ lines, line ≠ "" := by
  rintro line hline rfl
  exact absurd (h.forall_toList hne "" hline) (by simp)

theorem toList_intercalate_of_spelt {lines : List String} {css : List (List Char)}
    (h : Spelt lines css) : ("\n".intercalate lines).toList = ['\n'].intercalate css := by
  rw [String.toList_intercalate, h.map_toList]
  rfl

theorem isPlainLine_iff {cs : List Char} :
    isPlainLine cs = true ↔ isPlainTemplate cs = true ∧ '\r' ∉ cs ∧ '\n' ∉ cs := by
  unfold isPlainLine
  rw [Bool.and_eq_true, List.all_eq_true]
  refine and_congr_right fun _ => ⟨fun h => ?_, fun h c hc => ?_⟩
  · exact ⟨fun hc => by simpa using h _ hc, fun hc => by simpa using h _ hc⟩
  · simp only [Bool.and_eq_true, bne_iff_ne]
    exact ⟨fun heq => h.1 (heq ▸ hc), fun heq => h.2 (heq ▸ hc)⟩

theorem PlainCode.below {cs : List Char} {code : String} (hline : isPlainLine cs = true)
    (hcode : PlainCode code) (hne : code ≠ "") :
    PlainCode (String.ofList cs ++ "\n" ++ code) := by
  obtain ⟨htemplate, hreturn, -⟩ := isPlainLine_iff.mp hline
  have hlist : (String.ofList cs ++ "\n" ++ code).toList = cs ++ '\n' :: code.toList := by
    simp [String.toList_append]
  refine ⟨?_, ?_, ?_⟩
  · rw [hlist]
    exact isPlainTemplate_lines htemplate hcode.template
  · rw [hlist, List.mem_append, List.mem_cons]
    rintro (h | h | h)
    · exact hreturn h
    · exact absurd h (by decide)
    · exact hcode.noReturn h
  · have hchars : code.toList ≠ [] := fun h => hne (String.toList_eq_nil_iff.mp h)
    rw [hlist, List.getLast?_append_cons, List.getLast?_cons_of_ne_nil hchars]
    exact hcode.openEnd

theorem plainCode_of_spelt {lines : List String} {css : List (List Char)} (h : Spelt lines css)
    (hblock : isPlainBlock css = true) :
    PlainCode ("\n".intercalate lines) ∧ "\n".intercalate lines ≠ "" := by
  induction h with
  | nil => exact nomatch hblock
  | @cons line cs lines css hline hrest ih =>
    rw [hline.eq_ofList]
    cases hrest with
    | nil =>
      rw [isPlainBlock, Bool.and_eq_true, isPlainLine_iff] at hblock
      obtain ⟨⟨htemplate, hreturn, hnewline⟩, hne⟩ := hblock
      rw [String.intercalate_singleton]
      refine ⟨⟨?_, ?_, ?_⟩, ?_⟩
      · rwa [String.toList_ofList]
      · rwa [String.toList_ofList]
      · rw [String.toList_ofList]
        exact fun hlast => hnewline (List.mem_of_getLast? hlast)
      · simpa [← String.toList_eq_nil_iff] using hne
    | cons hnext hrest =>
      rw [isPlainBlock, Bool.and_eq_true] at hblock
      · obtain ⟨hplain, hne⟩ := ih hblock.2
        rw [String.intercalate_cons_cons]
        refine ⟨hplain.below hblock.1 hne, fun hempty => ?_⟩
        simpa [String.toList_append] using congrArg String.toList hempty
      · simp

theorem fixed_plain {lines : List String} {css : List (List Char)} (h : Spelt lines css)
    (hblock : isPlainBlock css = true) : PlainGenerator (fixed lines) :=
  fun _ _ => ⟨_, rfl, plainCode_of_spelt h hblock⟩

theorem referenceComment_inert {entry : Json} (h : InertEntry entry) :
    ∃ text, referenceComment entry = .ok text ∧ Inert text := by
  unfold referenceComment
  rcases h.refs with hnull | ⟨refs, hrefs, hinert⟩
  · rw [hnull]
    exact ⟨"", rfl, inert_ofList rfl⟩
  · rw [hrefs]
    by_cases htruthy : (Json.strings refs).truthy = true
    · simp only [htruthy, if_true]
      refine ⟨_, rfl, .append (inert_ofList (by decide))
        (.intercalate (inert_ofList (by decide)) ?_)⟩
      intro line hline
      rw [List.map_map] at hline
      obtain ⟨ref, href, rfl⟩ := List.mem_map.mp hline
      exact .append (inert_ofList (by decide)) (hinert ref href)
    · simp only [htruthy, Bool.false_eq_true, if_false]
      exact ⟨"", rfl, inert_ofList rfl⟩

/-- Described code starts with inert text in triple quotes. -/
theorem exists_described {fallback : String} {entry : Option Json} (hfallback : Inert fallback)
    (hentry : InertEntry (entry.getD (.obj []))) (lines : List String) :
    ∃ text, Inert text ∧ described fallback lines entry =
      .ok (some (trim ("\"\"\"" ++ text ++ "\"\"\"\n\n" ++ "\n".intercalate lines))) := by
  have hgiven : InertEntry ((entry.getD .null).orElse (.obj [])) := by
    cases entry with
    | none => exact inertEntry_nothing
    | some e =>
      simp only [Option.getD_some, Json.orElse] at hentry ⊢
      split_ifs
      · exact hentry
      · exact inertEntry_nothing
  obtain ⟨refs, hrefs, hcomment⟩ := referenceComment_inert hgiven
  refine ⟨_, (hgiven.description fallback hfallback).append hcomment, ?_⟩
  unfold described
  simp only [hrefs, bind, Except.bind, pure, Except.pure, String.append_assoc]

theorem described_plain {fallback : String} {lines : List String} {css : List (List Char)}
    (hfallback : Inert fallback) (h : Spelt lines css) (hblock : isPlainBlock css = true) :
    PlainGenerator (described fallback lines) := by
  intro entry hentry
  obtain ⟨text, htext, hdescribed⟩ := exists_described hfallback hentry lines
  have hcode := (plainCode_of_spelt h hblock).1
  have hopening : ∀ c, isInertChar c = false → c ∉ ['"', '\n'] →
      c ∉ ("\"\"\"" ++ text ++ "\"\"\"\n\n").toList := by
    intro c hc hlayout
    rw [String.toList_append, String.toList_append, List.mem_append, List.mem_append]
    rintro ((hquote | hinside) | hquote)
    · exact hlayout ((by decide : "\"\"\"".toList ⊆ ['"', '\n']) hquote)
    · exact htext.not_mem hc hinside
    · exact hlayout ((by decide : "\"\"\"\n\n".toList ⊆ ['"', '\n']) hquote)
  refine ⟨_, hdescribed, plainCode_trim ?_ ?_, trim_ne_empty (c := '"') ?_ (by decide)⟩
  · rw [String.toList_append]
    exact isPlainTemplate_append_left (hopening '{' (by decide) (by decide)) hcode.template
  · rw [String.toList_append, List.mem_append, not_or]
    exact ⟨hopening '\r' (by decide) (by decide), hcode.noReturn⟩
  · simp [String.toList_append]

theorem plainName_ofList {cs : List Char}
    (h : (cs.all fun c => decide (c.toNat < 128) && isInertChar c) = true) :
    PlainName (String.ofList cs) := by
  intro c hc
  rw [String.toList_ofList] at hc
  simpa using List.all_eq_true.mp h c hc

theorem names_plain : ∀ g ∈ patternGenerators ++ architectureGenerators, PlainName g.1 := by
  refine List.forall_mem_append.mpr ⟨?_, ?_⟩
  · unfold patternGenerators
    iterate 40 refine List.forall_mem_cons.mpr ⟨plainName_ofList (by decide +kernel), ?_⟩
    exact List.forall_mem_nil _
  · unfold architectureGenerators
    iterate 11 refine List.forall_mem_cons.mpr ⟨plainName_ofList (by decide +kernel), ?_⟩
    exact List.forall_mem_nil _

theorem patternGenerators_plain : ∀ g ∈ patternGenerators, PlainGenerator g.2 := by
  unfold patternGenerators
  iterate 6
    refine List.forall_mem_cons.mpr
      ⟨fixed_plain (by repeat constructor) (by decide +kernel), ?_⟩
  refine List.forall_mem_cons.mpr
    ⟨described_plain (inert_ofList (by decide +kernel)) (by repeat constructor)
      (by decide +kernel), ?_⟩
  iterate 9
    refine List.forall_mem_cons.mpr
      ⟨fixed_plain (by repeat constructor) (by decide +kernel), ?_⟩
  refine List.forall_mem_cons.mpr
    ⟨described_plain (inert_ofList (by decide +kernel)) (by repeat constructor)
      (by decide +kernel), ?_⟩
  iterate 15
    refine List.forall_mem_cons.mpr
      ⟨fixed_plain (by repeat constructor) (by decide +kernel), ?_⟩
  refine List.forall_mem_cons.mpr
    ⟨described_plain (inert_ofList (by decide +kernel)) (by repeat constructor)
      (by decide +kernel), ?_⟩
  iterate 7
    refine List.forall_mem_cons.mpr
      ⟨fixed_plain (by repeat constructor) (by decide +kernel), ?_⟩
  exact List.forall_mem_nil _

theorem architectureGenerators_plain : ∀ g ∈ architectureGenerators, PlainGenerator g.2 := by
  unfold architectureGenerators
  iterate 11
    refine List.forall_mem_cons.mpr
      ⟨fixed_plain (by repeat constructor) (by decide +kernel), ?_⟩
  exact List.forall_mem_nil _

/-! ## The catalogue -/

theorem inert_of_spells {text : String} {cs : List Char} (h : Spells text cs)
    (hcs : cs.all isInertChar = true) : Inert text := by
  rw [h.eq_ofList]
  exact inert_ofList hcs

theorem inert_pair {a b : String} (ha : Inert a) (hb : Inert b) : ∀ ref ∈ [a, b], Inert ref :=
  List.forall_mem_cons.mpr ⟨ha, List.forall_mem_singleton.mpr hb⟩

theorem inert_entryText {text : String} (h : Inert text) {given : Json} {field found : String}
    (hfield : given.field? field = some (.str text))
    (hfound : entryText? given field = some found) : Inert found := by
  unfold entryText? at hfound
  simp only [hfield, Option.bind_some, Catalog.trimmedText?, Json.text?] at hfound
  split_ifs at hfound
  rw [← Option.some.inj hfound]
  exact h.of_subset (trim_contiguous text).subset

/-- What an entry may say besides its description and its references. -/
structure InertMore (more : Table Json) : Prop where
  intent : Table.find? "intent" more = none
  contract : ∀ field text,
    entryText? ((Json.obj more).fieldD "contract" .null) field = some text → Inert text
  hint : ∀ text, entryText? (.obj more) "prompt_hint" = some text → Inert text

theorem inertEntry_entry {name category text : String} {refs : List String} {more : Table Json}
    (htext : Inert text) (hrefs : ∀ ref ∈ refs, Inert ref) (hmore : InertMore more) :
    InertEntry (Catalog.entry name category text refs more) := by
  have hfield : ∀ key, key ∉ ["name", "category", "description", "refs"] →
      (Catalog.entry name category text refs more).field? key = (Json.obj more).field? key := by
    intro key hkey
    simp only [List.mem_cons, List.not_mem_nil, or_false, not_or] at hkey
    obtain ⟨h1, h2, h3, h4⟩ := hkey
    simp [Catalog.entry, Json.field?, Table.find?_cons, Ne.symm h1, Ne.symm h2, Ne.symm h3,
      Ne.symm h4]
  refine ⟨Or.inr ⟨refs, ?_, hrefs⟩, ?_, ?_, ?_⟩
  · simp [Catalog.entry, Json.fieldD, Json.field?, Table.find?_cons]
  · intro field found hfound
    rw [Json.fieldD, hfield "contract" (by simp)] at hfound
    exact hmore.contract field found hfound
  · intro found hfound
    rw [entryText?, hfield "prompt_hint" (by simp)] at hfound
    exact hmore.hint found hfound
  · intro fallback hfallback
    have hintent : (Catalog.entry name category text refs more).field? "intent" = none := by
      rw [hfield "intent" (by simp)]
      exact hmore.intent
    have hdescription : (Catalog.entry name category text refs more).field? "description" =
        some (.str text) := by
      simp [Catalog.entry, Json.field?, Table.find?_cons]
    unfold description Json.fieldD
    rw [hintent, hdescription]
    exact inert_orElse htext hfallback

theorem inertMore_nil : InertMore [] where
  intent := rfl
  contract := inertEntry_nothing.contract
  hint := inertEntry_nothing.hint

theorem inertMore_hint {text : String} (h : Inert text) : InertMore (Catalog.hint text) where
  intent := by simp [Catalog.hint, Table.find?_cons, Table.find?_nil]
  contract := fun field found hfound => by
    simp [Catalog.hint, entryText?, Json.fieldD, Json.field?, Table.find?_cons,
      Table.find?_nil] at hfound
  hint := fun found hfound => inert_entryText h
    (by simp [Catalog.hint, Json.field?, Table.find?_cons]) hfound

theorem inertMore_contract {text inputs outputs : String} (h : Inert text) (hinputs : Inert inputs)
    (houtputs : Inert outputs) :
    InertMore (Catalog.hint text ++
      [("contract", .obj [("inputs", .str inputs), ("outputs", .str outputs)])]) where
  intent := by simp [Catalog.hint, Table.find?_cons, Table.find?_nil]
  contract := fun field found hfound => by
    have hcontract : (Json.obj (Catalog.hint text ++
        [("contract", .obj [("inputs", .str inputs), ("outputs", .str outputs)])])).fieldD
        "contract" .null = .obj [("inputs", .str inputs), ("outputs", .str outputs)] := by
      simp [Catalog.hint, Json.fieldD, Json.field?, Table.find?_cons]
    rw [hcontract] at hfound
    by_cases hin : "inputs" = field
    · exact inert_entryText hinputs (by simp [Json.field?, Table.find?_cons, hin]) hfound
    · by_cases hout : "outputs" = field
      · exact inert_entryText houtputs (by simp [Json.field?, Table.find?_cons, hin, hout]) hfound
      · simp [entryText?, Json.field?, Table.find?_cons, Table.find?_nil, hin, hout] at hfound
  hint := fun found hfound => inert_entryText h
    (by simp [Catalog.hint, Json.field?, Table.find?_cons]) hfound

theorem shippedPatterns_inert : ∀ item ∈ Catalog.shippedPatterns, InertEntry item := by
  unfold Catalog.shippedPatterns
  iterate 3
    refine List.forall_mem_cons.mpr
      ⟨inertEntry_entry ?_ (inert_pair ?_ ?_) (inertMore_hint ?_), ?_⟩
    rotate_left 4
  refine List.forall_mem_cons.mpr
    ⟨inertEntry_entry ?_ (inert_pair ?_ ?_) (inertMore_contract ?_ ?_ ?_), ?_⟩
  rotate_left 6
  iterate 38
    refine List.forall_mem_cons.mpr
      ⟨inertEntry_entry ?_ (inert_pair ?_ ?_) (inertMore_hint ?_), ?_⟩
    rotate_left 4
  refine List.forall_mem_cons.mpr
    ⟨inertEntry_entry ?_ (List.forall_mem_cons.mpr ⟨?_, inert_pair ?_ ?_⟩) inertMore_nil,
      List.forall_mem_nil _⟩
  all_goals exact inert_of_spells (by constructor) (by decide +kernel)

theorem mem_untilFailure {steps : List (Except Failure (List String))} {ref : String}
    (h : ref ∈ Catalog.untilFailure steps) : ∃ texts, .ok texts ∈ steps ∧ ref ∈ texts := by
  fun_induction Catalog.untilFailure steps with
  | case1 texts rest ih =>
    rcases List.mem_append.mp h with h | h
    · exact ⟨texts, List.mem_cons_self, h⟩
    · obtain ⟨later, hlater, href⟩ := ih h
      exact ⟨later, List.mem_cons_of_mem _ hlater, href⟩
  | case2 => exact absurd h List.not_mem_nil

theorem referenceTexts_inert {entry : Json} (h : InertEntry entry) {texts : List String}
    (htexts : Catalog.referenceTexts entry = .ok texts) : ∀ ref ∈ texts, Inert ref := by
  have hfield := h.refs
  unfold Catalog.referenceTexts at htexts
  unfold Json.fieldD at hfield htexts
  cases hrefs : entry.field? "refs" with
  | none =>
    rw [hrefs] at htexts
    obtain rfl : [] = texts := Except.ok.inj htexts
    exact List.forall_mem_nil _
  | some value =>
    simp only [hrefs, Option.getD_some] at hfield htexts
    rcases hfield with rfl | ⟨refs, rfl, hinert⟩
    · simp [Json.elements, Except.map] at htexts
    · have hsame : (refs.map Json.str).filterMap Json.text? = refs := by
        rw [List.filterMap_map]
        exact List.filterMap_some
      obtain rfl : refs = texts := hsame ▸ Except.ok.inj htexts
      exact hinert

theorem shippedTechniques_inert : ∀ item ∈ Catalog.shippedTechniques,
    Inert (item.fieldD "url" (.str "")).shown := by
  have hurl : ∀ {name url hint}, Inert url →
      Inert ((Catalog.technique name url hint).fieldD "url" (.str "")).shown := by
    intro name url hint h
    simpa [Catalog.technique, Json.fieldD, Json.field?, Table.find?_cons, Json.shown] using h
  unfold Catalog.shippedTechniques
  iterate 20 refine List.forall_mem_cons.mpr ⟨hurl (inert_ofList (by decide +kernel)), ?_⟩
  exact List.forall_mem_nil _

theorem value_shipped : Catalog.shipped.value =
    .obj [("patterns", .arr Catalog.shippedPatterns),
      ("refactorings", .arr Catalog.shippedTechniques)] := rfl

theorem shipped_references_inert : ∀ ref ∈ Catalog.shipped.references 2, Inert ref := by
  have hpatterns : ((Catalog.shipped.value.fieldD "patterns" .null).orElse (.arr [])).objects =
      .ok (Catalog.shippedPatterns.filter Json.isObject) := by
    rw [value_shipped, Json.fieldD, Json.field?, Table.find?_cons]
    rfl
  have htechniques :
      ((Catalog.shipped.value.fieldD "refactorings" .null).orElse (.arr [])).objects =
        .ok (Catalog.shippedTechniques.filter Json.isObject) := by
    rw [value_shipped, Json.fieldD, Json.field?, Table.find?_cons, Table.find?_cons]
    rfl
  intro ref href
  obtain ⟨hfound | hfallback, -⟩ := Catalog.mem_allReferences.mp (List.mem_of_mem_take href)
  · unfold Catalog.foundReferences at hfound
    simp only [hpatterns, htechniques] at hfound
    obtain ⟨texts, hstep, htext⟩ := mem_untilFailure hfound
    rcases List.mem_append.mp hstep with hstep | hstep
    · obtain ⟨item, hitem, htexts⟩ := List.mem_map.mp hstep
      have hshipped : item ∈ Catalog.shippedPatterns :=
        List.mem_of_mem_filter (List.mem_of_mem_filter hitem)
      exact referenceTexts_inert (shippedPatterns_inert item hshipped) htexts ref htext
    · rw [Except.ok.inj (List.mem_singleton.mp hstep)] at htext
      obtain ⟨item, hitem, rfl⟩ := List.mem_map.mp htext
      exact shippedTechniques_inert item (List.mem_of_mem_filter hitem)
  · exact inert_pair (inert_ofList (by decide +kernel)) (inert_ofList (by decide +kernel)) ref
      hfallback

/-! ## The workshop -/

/-- The workshop with the catalogue and the generators that come with the library. -/
def Workshop.equipped (engine : Text.Engine) : Workshop :=
  ⟨.shipped, patternGenerators, architectureGenerators, engine, fun _ => none, fun _ => .none⟩

def Workshop.stocked : Workshop := .equipped Text.placeholders

theorem find?_shipped {name category : String} {entry : Json}
    (h : Catalog.shipped.find? name category = some entry) : entry ∈ Catalog.shippedPatterns := by
  have hfield : Catalog.shipped.value.field? "patterns" = some (.arr Catalog.shippedPatterns) := by
    rw [value_shipped, Json.field?, Table.find?_cons]
    rfl
  unfold Catalog.find? at h
  simp only [hfield] at h
  exact List.mem_of_mem_filter (List.mem_of_find?_eq_some h)

theorem equipped_plain {engine : Text.Engine} (h : LeavesPlain engine) :
    (Workshop.equipped engine).Plain where
  names := names_plain
  generators := List.forall_mem_append.mpr ⟨patternGenerators_plain, architectureGenerators_plain⟩
  entries := fun _ _ entry h => shippedPatterns_inert entry (find?_shipped h)
  references := shipped_references_inert
  engine := h

theorem stocked_plain : Workshop.stocked.Plain := equipped_plain placeholders_leavesPlain

end DesignLens.Scaffold
