import DesignLens.Proofs.EnforcementReports
import DesignLens.Proofs.NameForms
import DesignLens.Proofs.SurveyParts

/-!
# The files in which a target was found

With the scope of hits, a file is selected if the name of one of its findings fits the canonical
name of the target: if the two have the same letters and digits, also after the word for
architectures is taken away. A finding whose name has the canonical name of the target fits it in
this sense, but for five spellings that have nothing in common with the canonical names they lead
to. A file in which the target was found only under one of these is left out.
-/

namespace DesignLens.Enforcement

open Workspace Analysis Naming Proposal
open Scaffold (passPath)

/-! ## Names that fit -/

/-- A name without the word for architectures. -/
def baseName (name : String) : String := Text.trim (Text.replaceAll " architecture" "" name)

/-- Whether a name in normal form fits a wanted one. -/
def fits (wanted name : String) : Bool :=
  name == wanted || simplify name == simplify wanted || simplify (baseName name) == simplify wanted

theorem findingMatches_obj (wanted : String) (fields : Table Json) :
    findingMatches wanted (.obj fields) =
      .ok (fits (normal wanted) (normal (findingName (.obj fields)))) := rfl

/-- The spellings that share no letters and digits with the canonical names they lead to, also not
without the word for architectures. -/
def estranged : List String :=
  ["3-tier architecture", "3 tier", "3-tier", "model-view-controller (mvc)", "pubsub"]

/-! ### Letter by letter -/

def simplifyChars (cs : List Char) : List Char :=
  (Text.lowerChars [] cs).filter Text.isAlphanumeric

def baseChars (cs : List Char) : List Char :=
  Text.trimChars (List.intercalate [] (Text.piecesFrom " architecture".toList 0 [] cs))

def fitsChars (wanted name : List Char) : Bool :=
  name == wanted || simplifyChars name == simplifyChars wanted ||
    simplifyChars (baseChars name) == simplifyChars wanted

theorem toList_simplify (name : String) : (simplify name).toList = simplifyChars name.toList := by
  rw [simplify, String.toList_ofList, Text.lower, String.toList_ofList]
  rfl

theorem toList_baseName (name : String) : (baseName name).toList = baseChars name.toList := by
  rw [baseName, Text.trim, String.toList_ofList, Text.replaceAll, String.toList_intercalate,
    Text.pieces, List.map_map]
  simp [baseChars, Function.comp_def]

theorem fits_eq (wanted name : String) :
    fits wanted name = fitsChars wanted.toList name.toList := by
  have hbeq : ∀ a b : String, (a == b) = (a.toList == b.toList) := by
    intro a b
    rw [Bool.eq_iff_iff, beq_iff_eq, beq_iff_eq, String.toList_inj]
  unfold fits fitsChars
  rw [hbeq, hbeq, hbeq, toList_simplify, toList_simplify, toList_simplify, toList_baseName]

theorem fits_of_spelt {spellings known without : List (List Char)}
    (hspellings : Scaffold.Spelt (Table.keys aliases) spellings)
    (hknown : Scaffold.Spelt (Table.values aliases) known)
    (hwithout : Scaffold.Spelt estranged without)
    (h : ((spellings.zip known).all fun p => fitsChars p.2 p.1 == !without.contains p.1) = true) :
    ∀ entry ∈ aliases, fits entry.2 entry.1 = true ↔ entry.1 ∉ estranged := by
  intro entry hentry
  have hpair : (entry.1.toList, entry.2.toList) ∈ spellings.zip known := by
    rw [← hspellings.map_toList, ← hknown.map_toList, Table.keys, Table.values, List.map_map,
      List.map_map, List.zip_map']
    exact List.mem_map.mpr ⟨entry, hentry, rfl⟩
  have hcheck := List.all_eq_true.mp h _ hpair
  rw [beq_iff_eq] at hcheck
  rw [fits_eq, hcheck, hwithout.mem_iff]
  simp

theorem aliases_fit : ∀ entry ∈ aliases, fits entry.2 entry.1 = true ↔ entry.1 ∉ estranged :=
  fits_of_spelt (by repeat constructor) (by repeat constructor) (by repeat constructor)
    (by decide +kernel)

theorem estranged_aliases : estranged ⊆ Table.keys aliases :=
  Scaffold.Spelt.subset (by repeat constructor) (by repeat constructor) (by decide)

/-- A name fits its own canonical name unless it is an estranged spelling. -/
theorem fits_canonical_iff (name : String) :
    fits (canonical name) (normal name) = true ↔ normal name ∉ estranged := by
  cases hfind : Table.find? (normal name) aliases with
  | some known =>
    rw [canonical_of_known hfind]
    exact aliases_fit (normal name, known) (Table.mem_of_find? hfind)
  | none =>
    rw [canonical_of_unknown hfind]
    refine iff_of_true (by simp [fits]) ?_
    exact fun h => Table.find?_eq_none_iff.mp hfind (estranged_aliases h)

/-! ## Files that are selected -/

/-- A finding of a name is reported for a file. -/
def Found (registry : Registry) (t : Tree) (file : Path) (name : String) : Prop :=
  ∃ text findings, t.read file = .ok text ∧ probe registry text = .ok findings ∧
    ∃ finding ∈ findings, findingName finding = name

/-- Probing gives findings that are objects, or it fails in a way that may be handled. -/
theorem probe_objects {registry : Registry} (hregistry : registry.IsProper) (text : String) :
    (∃ findings, probe registry text = .ok findings ∧
      ∀ finding ∈ findings, ∃ fields, finding = .obj fields) ∨
    ∃ failure, probe registry text = .error failure ∧ failure.kind.isHandled = true := by
  cases hparse : Source.Program.parse text with
  | error fault =>
    refine Or.inl ⟨_, probe_of_fault registry hparse, ?_⟩
    intro finding hfinding
    rw [List.mem_singleton.mp hfinding]
    exact ⟨_, rfl⟩
  | ok p =>
    rcases probe_cases hregistry hparse with ⟨parts, hprobe, -, hobjects⟩ | ⟨failure, hprobe, -, h⟩
    · exact Or.inl ⟨parts.flatten, hprobe, hobjects⟩
    · exact Or.inr ⟨failure, hprobe, h⟩

/-- Every file is looked through, and it matches if a finding in it fits. -/
theorem fileMatches_spec {registry : Registry} (hregistry : registry.IsProper) (t : Tree)
    (wanted : String) (file : Path) :
    ∃ hit : Bool, fileMatches registry t wanted file = .ok hit ∧
      (hit = true ↔
        ∃ name, Found registry t file name ∧ fits (normal wanted) (normal name) = true) := by
  unfold fileMatches
  cases hread : t.read file with
  | error failure =>
    refine ⟨false, rfl, iff_of_false Bool.false_ne_true ?_⟩
    rintro ⟨name, ⟨text, findings, htext, -⟩, -⟩
    exact absurd (hread.symm.trans htext) (by simp)
  | ok text =>
    dsimp only
    rcases probe_objects hregistry text with ⟨findings, hprobe, hobjects⟩ | ⟨failure, hprobe, h⟩
    · have hall : findings.anyM (findingMatches wanted) =
          .ok (findings.any fun f => fits (normal wanted) (normal (findingName f))) := by
        refine anyM_eq_ok fun finding hfinding => ?_
        obtain ⟨fields, rfl⟩ := hobjects finding hfinding
        exact findingMatches_obj wanted fields
      refine ⟨_, by rw [hprobe]; exact hall, ?_⟩
      rw [List.any_eq_true]
      constructor
      · rintro ⟨finding, hfinding, hfits⟩
        exact ⟨_, ⟨text, findings, hread, hprobe, finding, hfinding, rfl⟩, hfits⟩
      · rintro ⟨name, ⟨text', findings', htext, hfindings, finding, hfinding, rfl⟩, hfits⟩
        obtain rfl := Except.ok.inj (hread.symm.trans htext)
        obtain rfl := Except.ok.inj (hprobe.symm.trans hfindings)
        exact ⟨finding, hfinding, hfits⟩
    · refine ⟨false, by rw [hprobe, Failure.handle, if_pos h]; rfl, ?_⟩
      refine iff_of_false Bool.false_ne_true ?_
      rintro ⟨name, ⟨text', findings', htext, hfindings, -⟩, -⟩
      obtain rfl := Except.ok.inj (hread.symm.trans htext)
      exact absurd (hprobe.symm.trans hfindings) (by simp)

/-- The first files, as many as are to be treated. -/
def limited (maxFiles : Option Int) (files : List Path) : List Path :=
  match maxFiles with
  | some n => if 0 < n then files.take n.toNat else files
  | none => files

theorem select_hits {registry : Registry} (hregistry : registry.IsProper) (t : Tree)
    (wanted : String) {r : Request} (hscope : r.scope = hitsScope) (files : List Path) :
    ∃ hits, select registry t wanted r files = .ok (limited r.maxFiles hits) ∧
      hits.Sublist files ∧ ∀ file ∈ files, file ∈ hits ↔
        ∃ name, Found registry t file name ∧ fits (normal wanted) (normal name) = true := by
  obtain ⟨hit, hhit⟩ := Classical.axiomOfChoice (fileMatches_spec hregistry t wanted)
  refine ⟨files.filter hit, ?_, List.filter_sublist, fun file hfile => ?_⟩
  · unfold select
    rw [if_pos hscope, filterM_eq_ok fun file _ => (hhit file).1]
    rfl
  · rw [← (hhit file).2, List.mem_filter]
    exact ⟨fun h => h.2, fun h => ⟨hfile, h⟩⟩

theorem selectedFiles_hits {s : Setting} (hregistry : s.registry.IsProper) {t : Tree} {r : Request}
    (hscope : r.scope = hitsScope) {files : List Path} (hfiles : sources t r.paths = .ok files)
    (hne : files ≠ []) :
    ∃ hits, selectedFiles s t r = .ok (some (limited r.maxFiles hits)) ∧ hits.Sublist files ∧
      ∀ file ∈ files, file ∈ hits ↔
        ∃ name, Found s.registry t file name ∧
          fits (canonical r.name) (normal name) = true := by
  obtain ⟨hits, hselect, hsublist, hmem⟩ :=
    select_hits hregistry t (canonical r.name) hscope files
  rw [normal_canonical] at hmem
  refine ⟨hits, ?_, hsublist, hmem⟩
  unfold selectedFiles
  rw [hfiles]
  simp only [bind, Except.bind]
  rw [if_neg (by simpa using hne), hselect]
  rfl

/-- With the scope of hits, the files are selected in which a finding has a name that fits the
canonical name of the target. Among the names with that canonical name these are all but the
estranged spellings, so that a file in which the target was found under another name is selected. -/
theorem hits_unless_estranged {s : Setting} (hregistry : s.registry.IsProper) {t : Tree}
    {r : Request} (hscope : r.scope = hitsScope) {files : List Path}
    (hfiles : sources t r.paths = .ok files) (hne : files ≠ []) :
    ∃ hits, selectedFiles s t r = .ok (some (limited r.maxFiles hits)) ∧ hits.Sublist files ∧
      (∀ file ∈ files, file ∈ hits ↔
        ∃ name, Found s.registry t file name ∧ fits (canonical r.name) (normal name) = true) ∧
      ∀ name, canonical name = canonical r.name →
        (fits (canonical r.name) (normal name) = true ↔ normal name ∉ estranged) ∧
        ∀ file ∈ files, Found s.registry t file name → normal name ∉ estranged → file ∈ hits := by
  obtain ⟨hits, hselected, hsublist, hmem⟩ := selectedFiles_hits hregistry hscope hfiles hne
  refine ⟨hits, hselected, hsublist, hmem, fun name hname => ?_⟩
  have hfits : fits (canonical r.name) (normal name) = true ↔ normal name ∉ estranged := by
    rw [← hname]
    exact fits_canonical_iff name
  refine ⟨hfits, fun file hfile hfound hspelling => ?_⟩
  exact (hmem file hfile).mpr ⟨name, hfound, hfits.mpr hspelling⟩

/-! ## A file with two findings -/

/-- A file with a text at the top of a tree. -/
def textTree (text : String) : Tree := ⟨[], [(["a.py"], .text text)]⟩

/-- A request for the files in which a target was found. -/
def hitsRequest (name : String) : Request := ⟨name, ["a.py"], hitsScope, true, none, none⟩

theorem sources_textTree (text name : String) :
    sources (textTree text) (hitsRequest name).paths = .ok [passPath] := rfl

theorem read_textTree {text : String} (h : '\r' ∉ text.toList) :
    (textTree text).read passPath = .ok text := by
  have hcontent : (textTree text).content passPath = .ok (.text text) := rfl
  rw [Tree.read_of_content hcontent, Content.read, Text.plainNewlines_eq_self h,
    String.ofList_toList]

theorem builtins_isProper : Registry.IsProper builtins := by
  intro entry hentry p
  obtain ⟨⟨name, detector⟩, -, rfl⟩ := List.mem_map.mp hentry
  refine Or.inl ⟨(detector p.layout p.module.body).map fun f =>
    [("name", .str f.name), ("confidence", .float f.confidence), ("reason", .str f.reason)], ?_⟩
  rw [List.map_map]
  rfl

theorem found_of_names {registry : Registry} {text : String} {names : List String}
    (h : ((probe registry text).toOption.map fun findings => findings.map findingName) =
      some names) (hreturn : '\r' ∉ text.toList) {name : String} :
    Found registry (textTree text) passPath name ↔ name ∈ names := by
  obtain ⟨findings, hfindings, hnames⟩ := Option.map_eq_some_iff.mp h
  have hprobe : probe registry text = .ok findings := by
    cases hprobe : probe registry text with
    | error failure =>
      rw [hprobe] at hfindings
      exact nomatch hfindings
    | ok found =>
      rw [hprobe] at hfindings
      rw [Option.some.inj hfindings]
  rw [← hnames, List.mem_map]
  constructor
  · rintro ⟨text', findings', htext, hfindings', hname⟩
    obtain rfl := Except.ok.inj ((read_textTree hreturn).symm.trans htext)
    obtain rfl := Except.ok.inj (hprobe.symm.trans hfindings')
    exact hname
  · exact fun hname => ⟨text, findings, read_textTree hreturn, hprobe, hname⟩

/-- A controller that runs something and calls a service. -/
def controllerCode : String := "class Controller:\n def run(s): Service()\n"

theorem controllerCode_names :
    ((probe builtins controllerCode).toOption.map fun findings => findings.map findingName) =
      some ["Command", "3-Tier Architecture"] := by
  decide +kernel

theorem controllerCode_found (name : String) :
    Found builtins (textTree controllerCode) passPath name ↔
      name ∈ ["Command", "3-Tier Architecture"] :=
  found_of_names controllerCode_names (by decide)

/-- The controller is a hit of the first of the two names that are found in it. -/
theorem hits_unless_estranged_command :
    Registry.IsProper (shippedSetting plainSetting).registry ∧
      sources (textTree controllerCode) (hitsRequest "Command").paths = .ok [passPath] ∧
      Found builtins (textTree controllerCode) passPath "Command" ∧
      selectedFiles (shippedSetting plainSetting) (textTree controllerCode)
        (hitsRequest "Command") = .ok (some [passPath]) := by
  have hregistry : Registry.IsProper (shippedSetting plainSetting).registry := builtins_isProper
  have hfound := (controllerCode_found "Command").mpr (by decide)
  refine ⟨hregistry, rfl, hfound, ?_⟩
  obtain ⟨hits, hselected, hsublist, -, hnames⟩ :=
    hits_unless_estranged hregistry (r := hitsRequest "Command") rfl
      (sources_textTree controllerCode "Command") (List.cons_ne_nil _ _)
  have hhit := (hnames "Command" rfl).2 passPath (List.mem_singleton_self _) hfound (by decide)
  rw [hselected]
  rcases List.sublist_singleton.mp hsublist with rfl | rfl
  · exact absurd hhit List.not_mem_nil
  · rfl

/-- The controller is no hit of the second name, under the very spelling of the finding. -/
theorem tiers_not_hit :
    Found builtins (textTree controllerCode) passPath "3-Tier Architecture" ∧
      sources (textTree controllerCode) (hitsRequest "3-Tier Architecture").paths =
        .ok [passPath] ∧
      selectedFiles (shippedSetting plainSetting) (textTree controllerCode)
        (hitsRequest "3-Tier Architecture") = .ok (some []) := by
  refine ⟨(controllerCode_found _).mpr (by decide), rfl, ?_⟩
  obtain ⟨hits, hselected, hsublist, hmem⟩ := selectedFiles_hits (s := shippedSetting plainSetting)
    builtins_isProper (r := hitsRequest "3-Tier Architecture") rfl
    (sources_textTree controllerCode "3-Tier Architecture") (List.cons_ne_nil _ _)
  rw [hselected]
  rcases List.sublist_singleton.mp hsublist with rfl | rfl
  · rfl
  · obtain ⟨name, hname, hfits⟩ :=
      (hmem passPath (List.mem_singleton_self _)).mp (List.mem_singleton_self _)
    rcases List.mem_pair.mp ((controllerCode_found name).mp hname) with rfl | rfl
    · exact absurd hfits (by decide)
    · exact absurd hfits (mt (fits_canonical_iff _).mp (by decide))

end DesignLens.Enforcement
