import DesignLens.Pipeline.Config
import DesignLens.Proofs.EnforcementReports
import DesignLens.Proofs.JsonDocuments

/-!
# Configurations in files

Saving writes a field for each part of a configuration, and loading reads each of them back, so a
configuration that was saved is loaded again as it was. A document is refused if it is no object, if
it has a field that no configuration has, or if one of the two paths in it is no text; every other
document is a configuration. A refusal is always the same failure, whatever went wrong inside: also
a text or an array in which the name of a path occurs is refused for the want of fields.
-/

namespace DesignLens.Workspace

variable {t t' : Tree} {p : Path} {c : Content}

theorem Tree.exists?_of_content (h : t.content p = .ok c) : t.exists? p = .ok true := by
  obtain ⟨hwritable, hlocate, hfolder, hfile⟩ := Tree.content_eq_ok.mp h
  have hlook : t.look p = .ok (some (.file c)) := by
    unfold Tree.look
    rw [hwritable, hlocate]
    simp [Tree.entryAt?, hfolder, hfile]
  rw [Tree.exists?, hlook]
  rfl

theorem Tree.content_of_write (h : t.write p c = .ok t') : t'.content p = .ok c := by
  obtain ⟨hwritable, hlocate, hfolder, rfl⟩ := Tree.write_eq_ok.mp h
  have hfolders : ∀ q, t.isFolderAt q = true →
      (t.setFile p.destination c).isFolderAt q = true := by
    intro q hq
    rw [Tree.isFolderAt_setFile]
    exact hq
  refine Tree.content_eq_ok.mpr ⟨hwritable, Tree.locate_mono hfolders hlocate, ?_, ?_⟩
  · rw [Tree.isFolderAt_setFile]
    exact hfolder
  · rw [Tree.fileAt?_setFile, if_pos rfl]

/-- A text is read back from where it was written if it has no line ends but newlines. -/
theorem Tree.read_of_writeText {text : String} (h : t.writeText p text = .ok t')
    (hplain : '\r' ∉ text.toList) : t'.read p = .ok text := by
  have hread : Content.read (.text text) = .ok text := by
    rw [Content.read, Text.plainNewlines_eq_self hplain, String.ofList_toList]
  rw [Tree.read_of_content (Tree.content_of_write h), hread]

/-- A file can be put at a path once the folders above it are created. -/
def Tree.TakesFile (t : Tree) (p : Path) : Prop :=
  ∃ t', t.makeFolders p.parent = (t', none) ∧ p.isWritable = true ∧
    t'.locate p = .ok p.destination ∧ t'.isFolderAt p.destination = false

end DesignLens.Workspace

namespace DesignLens.Pipeline.Config

open Workspace

/-! ## Documents that are refused -/

/-- The names of the parts of a configuration. -/
def fieldNames : List String := parameters.map fun p => p.name

/-- The names of the parts that are paths. -/
def pathNames : List String := ["output_dir", "cache_dir"]

/-- A document that is no configuration. -/
inductive Misfit : Json → Prop
  | notObject {v : Json} (h : ∀ fields, v ≠ .obj fields) : Misfit v
  | unknownField {fields : List (String × Json)} {name : String}
      (h : name ∈ Table.keys fields) (hname : name ∉ fieldNames) : Misfit (.obj fields)
  | noPath {fields : List (String × Json)} {name : String} {v : Json}
      (hname : name ∈ pathNames) (h : Table.find? name fields = some v)
      (hv : ∀ s, v ≠ .str s) : Misfit (.obj fields)

variable {fields : List (String × Json)}

theorem pathIn_of_none {name : String} (h : Table.find? name fields = none) (default : Path) :
    pathIn name default (.obj fields) = .ok default := by
  have habsent : Table.contains name fields = false := by
    rw [Bool.eq_false_iff, ne_eq, Table.contains_iff_mem_keys]
    exact Table.find?_eq_none_iff.mp h
  simp only [pathIn, mentions, habsent, bind, Except.bind]
  rfl

theorem pathIn_of_text {name s : String} (h : Table.find? name fields = some (.str s))
    (default : Path) : pathIn name default (.obj fields) = .ok (Path.ofString s) := by
  have hthere : Table.contains name fields = true :=
    Table.contains_iff_mem_keys.mpr (Table.mem_keys_of_find? h)
  simp only [pathIn, mentions, fieldOf, hthere, h, bind, Except.bind]
  rfl

theorem text_of_pathIn {name : String} {default q : Path} {v : Json}
    (hpath : pathIn name default (.obj fields) = .ok q) (h : Table.find? name fields = some v) :
    ∃ s, v = .str s := by
  have hthere : Table.contains name fields = true :=
    Table.contains_iff_mem_keys.mpr (Table.mem_keys_of_find? h)
  simp only [pathIn, mentions, fieldOf, hthere, h, bind, Except.bind, if_true, Option.getD_some]
    at hpath
  split at hpath
  · exact ⟨_, rfl⟩
  · cases hpath

theorem exists_pathIn {name : String} (default : Path)
    (h : ∀ v, Table.find? name fields = some v → ∃ s, v = .str s) :
    ∃ q, pathIn name default (.obj fields) = .ok q := by
  cases hfind : Table.find? name fields with
  | none => exact ⟨default, pathIn_of_none hfind default⟩
  | some v =>
    obtain ⟨s, rfl⟩ := h v hfind
    exact ⟨Path.ofString s, pathIn_of_text hfind default⟩

/-- No part has to be given, so only a field that is unknown is in the way. -/
theorem callFailure?_eq_none_iff (function : String) (receiver : Option String) :
    Arguments.callFailure? function parameters fields receiver = none ↔
      ∀ name ∈ Table.keys fields, name ∈ fieldNames := by
  have hoptional : (parameters.filter fun p =>
      p.isRequired && !Table.contains p.name fields) = [] := by
    simp [parameters, Arguments.Parameter.optional]
  unfold Arguments.callFailure?
  rw [hoptional]
  simp only
  cases hfind : (Table.keys fields).find? fun name =>
      !(parameters.map fun p => p.name).contains name with
  | none =>
    simp only [true_iff]
    intro name hname
    have hknown := List.find?_eq_none.mp hfind name hname
    simpa [fieldNames] using hknown
  | some name =>
    have hunknown := List.find?_some hfind
    have hmem := List.mem_of_find?_eq_some hfind
    simp only
    constructor
    · intro h
      split_ifs at h
    · intro h
      have hknown : (parameters.map fun p => p.name).contains name = true := by
        simpa [fieldNames] using h name hmem
      rw [hknown] at hunknown
      cases hunknown

theorem not_misfit_of_ofJson {v : Json} {c : Config} (h : ofJson v = .ok c) : ¬ Misfit v := by
  obtain ⟨reports, hreports, h⟩ := bind_eq_ok.mp h
  obtain ⟨cache, hcache, h⟩ := bind_eq_ok.mp h
  cases v with
  | obj fields =>
    have hcall : Arguments.callFailure? "PipelineConfig.__init__" parameters fields "self" =
        none := by
      simp only at h
      split at h
      · cases h
      · assumption
    have hknown := (callFailure?_eq_none_iff _ _).mp hcall
    intro hmisfit
    cases hmisfit with
    | notObject hv => exact hv fields rfl
    | unknownField hmem hname => exact hname (hknown _ hmem)
    | noPath hname hfind hv =>
      simp only [pathNames, List.mem_cons, List.not_mem_nil, or_false] at hname
      rcases hname with rfl | rfl
      · obtain ⟨s, hs⟩ := text_of_pathIn hreports hfind
        exact hv s hs
      · obtain ⟨s, hs⟩ := text_of_pathIn hcache hfind
        exact hv s hs
  | _ => cases h

/-- The configuration in an object: a part that is left out has its usual value. -/
theorem ofJson_obj {reports cache : Path}
    (hreports : pathIn "output_dir" usual.reports (.obj fields) = .ok reports)
    (hcache : pathIn "cache_dir" usual.cache (.obj fields) = .ok cache)
    (hknown : ∀ name ∈ Table.keys fields, name ∈ fieldNames) :
    ofJson (.obj fields) = .ok
      { name := (Table.find? "name" fields).getD usual.name,
        failFast := (Table.find? "fail_fast" fields).getD usual.failFast,
        reports := reports,
        security := (Table.find? "security" fields).getD usual.security,
        quality := (Table.find? "quality" fields).getD usual.quality,
        testing := (Table.find? "testing" fields).getD usual.testing,
        analysis := (Table.find? "analysis" fields).getD usual.analysis,
        languageVersion := (Table.find? "python_version" fields).getD usual.languageVersion,
        useCache := (Table.find? "use_cache" fields).getD usual.useCache,
        cache := cache } := by
  have hcall := (callFailure?_eq_none_iff "PipelineConfig.__init__" (some "self")).mpr hknown
  unfold ofJson
  rw [hreports, hcache]
  simp only [bind, Except.bind, hcall]

theorem exists_ofJson {v : Json} (h : ¬ Misfit v) : ∃ c, ofJson v = .ok c := by
  cases v with
  | obj fields =>
    have hknown : ∀ name ∈ Table.keys fields, name ∈ fieldNames := by
      intro name hname
      by_contra hunknown
      exact h (.unknownField hname hunknown)
    have htext : ∀ name ∈ pathNames, ∀ v, Table.find? name fields = some v → ∃ s, v = .str s := by
      intro name hname v hfind
      by_contra hv
      exact h (.noPath hname hfind fun s hs => hv ⟨s, hs⟩)
    obtain ⟨reports, hreports⟩ := exists_pathIn usual.reports (htext "output_dir" (by decide))
    obtain ⟨cache, hcache⟩ := exists_pathIn usual.cache (htext "cache_dir" (by decide))
    exact ⟨_, ofJson_obj hreports hcache hknown⟩
  | _ => exact absurd (.notObject fun fields => nofun) h

/-! ## Configurations that are saved -/

/-- A configuration whose parts are of the kinds they are meant to be. What its sections hold reads
back as JSON does, and its paths are in normal form. -/
structure IsProper (c : Config) : Prop where
  name : ∃ s, c.name = .str s
  languageVersion : ∃ s, c.languageVersion = .str s
  failFast : ∃ b, c.failFast = .bool b
  useCache : ∃ b, c.useCache = .bool b
  sections : ∀ part ∈ [c.security, c.quality, c.testing, c.analysis],
    part.IsKept ∧ ∃ fields, part = .obj fields
  reports : c.reports.OfNames
  cache : c.cache.OfNames

theorem IsProper.document {c : Config} (hc : c.IsProper) : c.document.IsKept := by
  have htext : ∀ {v : Json}, (∃ s, v = .str s) → v.IsKept := by
    rintro v ⟨s, rfl⟩
    trivial
  have hflag : ∀ {v : Json}, (∃ b, v = .bool b) → v.IsKept := by
    rintro v ⟨b, rfl⟩
    trivial
  have hnames : fieldNames.Nodup := by decide
  have hsecurity : c.security.IsKept := (hc.sections _ (by simp)).1
  have hquality : c.quality.IsKept := (hc.sections _ (by simp)).1
  have htesting : c.testing.IsKept := (hc.sections _ (by simp)).1
  have hanalysis : c.analysis.IsKept := (hc.sections _ (by simp)).1
  exact ⟨hnames, htext hc.name, hflag hc.failFast, trivial, hsecurity, hquality, htesting,
    hanalysis, htext hc.languageVersion, hflag hc.useCache, trivial, trivial⟩

/-- Every part of a configuration is found again in its document. -/
theorem ofJson_document {c : Config} (hreports : c.reports.OfNames) (hcache : c.cache.OfNames) :
    ofJson c.document = .ok c := by
  have hnames : ∀ name ∈ fieldNames, name ∈ fieldNames := fun _ h => h
  have hparts : ofJson c.document = .ok
      { c with
        reports := Path.ofString c.reports.toString, cache := Path.ofString c.cache.toString } :=
    ofJson_obj (pathIn_of_text rfl _) (pathIn_of_text rfl _) hnames
  rw [hparts, Path.ofString_toString hreports, Path.ofString_toString hcache]

theorem save_eq_none {c : Config} {t t' : Tree} {p : Path} :
    c.save t p = (t', none) ↔ ∃ u, t.makeFolders p.parent = (u, none) ∧
      u.writeText p (Json.write .pretty c.document) = .ok t' := by
  unfold save
  cases hmade : t.makeFolders p.parent with
  | mk u failure =>
    cases failure with
    | some f => simp
    | none =>
      cases hwrite : u.writeText p (Json.write .pretty c.document) with
      | error f => simp [hwrite]
      | ok t'' => simp [hwrite]

theorem exists_save_iff (c : Config) (t : Tree) (p : Path) :
    (∃ t', c.save t p = (t', none)) ↔ t.TakesFile p := by
  constructor
  · rintro ⟨t', h⟩
    obtain ⟨u, hmade, hwrite⟩ := save_eq_none.mp h
    obtain ⟨hwritable, hlocate, hfolder, -⟩ := Tree.write_eq_ok.mp hwrite
    exact ⟨u, hmade, hwritable, hlocate, hfolder⟩
  · rintro ⟨u, hmade, hwritable, hlocate, hfolder⟩
    exact ⟨_, save_eq_none.mpr
      ⟨u, hmade, Tree.write_eq_ok.mpr ⟨hwritable, hlocate, hfolder, rfl⟩⟩⟩

theorem load_of_read {t : Tree} {p : Path} {text : String} (h : t.read p = .ok text) :
    load t p = ofText text := by
  obtain ⟨content, hcontent, hread⟩ := bind_eq_ok.mp h
  unfold load
  rw [Tree.exists?_of_content hcontent, h]
  rfl

theorem ofText_of_ok {text : String} {v : Json} {c : Config} (hread : Json.read text = .ok v)
    (h : ofJson v = .ok c) : ofText text = .ok c := by
  unfold ofText
  rw [hread]
  simp only [h]
  rfl

theorem ofText_of_error {text : String} {v : Json} {f : Failure} (hread : Json.read text = .ok v)
    (h : ofJson v = .error f) : ofText text = .error (invalid f.message) := by
  unfold ofText
  rw [hread]
  simp only [h]
  rfl

/-- Also a text that is no JSON is a bad value. -/
theorem ofText_of_fault {text : String} {fault : Json.ReadFault}
    (h : Json.read text = .error fault) : ∃ message, ofText text = .error (.badValue message) := by
  unfold ofText
  rw [h]
  simp only
  split
  · exact ⟨_, rfl⟩
  · exact ⟨_, rfl⟩

/-- A configuration is loaded from where it was saved. -/
theorem load_of_save {c : Config} (hc : c.IsProper) {t t' : Tree} {p : Path}
    (h : c.save t p = (t', none)) : load t' p = .ok c := by
  obtain ⟨u, -, hwrite⟩ := save_eq_none.mp h
  have hsort : Json.Layout.pretty.sortKeys = false := rfl
  have hunbroken := (Json.written_write hsort hc.document).unbroken
  rw [load_of_read (Tree.read_of_writeText hwrite hunbroken)]
  exact ofText_of_ok (Json.read_write hsort hc.document) (ofJson_document hc.reports hc.cache)

/-- A proper configuration can be saved wherever a file can be put, and is loaded from there as it
was; nothing is saved anywhere else. From a file with a JSON document a configuration is loaded
unless the document is a misfit. Then loading fails with a bad value, as it does if the text of the
file is not read as JSON at all. -/
theorem load_undoes_save :
    (∀ (c : Config) (t : Tree) (p : Path), c.IsProper → t.TakesFile p →
        ∃ t', c.save t p = (t', none) ∧ load t' p = .ok c) ∧
      (∀ (c : Config) (t : Tree) (p : Path), ¬ t.TakesFile p → (c.save t p).2 ≠ none) ∧
      ∀ (t : Tree) (p : Path) (text : String), t.read p = .ok text →
        (∀ v, Json.read text = .ok v →
          (Misfit v → ∃ reason,
            load t p = .error (.badValue ("Invalid configuration file: " ++ reason))) ∧
          (¬ Misfit v → ∃ c, load t p = .ok c)) ∧
        ∀ fault, Json.read text = .error fault →
          ∃ message, load t p = .error (.badValue message) := by
  refine ⟨?_, ?_, ?_⟩
  · intro c t p hc hplace
    obtain ⟨t', hsave⟩ := (exists_save_iff c t p).mpr hplace
    exact ⟨t', hsave, load_of_save hc hsave⟩
  · intro c t p hplace hnone
    exact hplace ((exists_save_iff c t p).mp ⟨_, Prod.ext rfl hnone⟩)
  · intro t p text hread
    rw [load_of_read hread]
    refine ⟨fun v hv => ⟨?_, ?_⟩, fun fault hfault => ofText_of_fault hfault⟩
    · intro hmisfit
      cases hresult : ofJson v with
      | ok c => exact absurd hmisfit (not_misfit_of_ofJson hresult)
      | error f => exact ⟨f.message, ofText_of_error hv hresult⟩
    · intro hfit
      obtain ⟨c, hc⟩ := exists_ofJson hfit
      exact ⟨c, ofText_of_ok hv hc⟩

def tuned : Config :=
  { usual with
    reports := ⟨false, ["out", "..", "reports"]⟩, cache := ⟨true, ["tmp"]⟩
    testing := .obj [("coverage_threshold", .float (.ofInt 35)),
      ("paths", .arr [.str "tests/\u00e4\n", .int (-7), .null, .obj []])] }

theorem tuned_isProper : tuned.IsProper := by
  have hfloat : Json.read ((Number.Binary64.ofInt 35).write Json.numberWords) =
      .ok (.float (.ofInt 35)) := by
    have hpacked : (Json.read ((Number.Binary64.ofInt 35).write Json.numberWords)).toOption.map
        Json.pack = some (Json.pack (.float (.ofInt 35))) := by decide +kernel
    cases hread : Json.read ((Number.Binary64.ofInt 35).write Json.numberWords) with
    | error fault =>
      rw [hread] at hpacked
      cases hpacked
    | ok v =>
      rw [hread] at hpacked
      rw [Json.pack_injective (Option.some.inj hpacked)]
  have hint : (Nat.toDigits 10 (-7 : Int).natAbs).length ≤ 4300 := by decide
  have htesting : tuned.testing.IsKept :=
    ⟨by decide, hfloat, ⟨trivial, hint, trivial, ⟨by decide, trivial⟩, trivial⟩, trivial⟩
  have hempty : (Json.obj []).IsKept := ⟨by decide, trivial⟩
  refine ⟨⟨_, rfl⟩, ⟨_, rfl⟩, ⟨_, rfl⟩, ⟨_, rfl⟩, ?_, ?_, ?_⟩
  · intro part hpart
    simp only [tuned, usual, List.mem_cons, List.not_mem_nil, or_false] at hpart
    rcases hpart with rfl | rfl | rfl | rfl
    · exact ⟨hempty, _, rfl⟩
    · exact ⟨hempty, _, rfl⟩
    · exact ⟨htesting, _, rfl⟩
    · exact ⟨hempty, _, rfl⟩
  · unfold Path.OfNames IsName
    decide
  · unfold Path.OfNames IsName
    decide

/-- A configuration with a fraction, a text beyond ASCII and nested values is kept in a folder that
is not there yet, and the name of a path alone is refused. -/
theorem load_undoes_save_tuned :
    (∃ t', tuned.save Tree.empty ⟨false, ["conf", "pipeline.json"]⟩ = (t', none) ∧
        load t' ⟨false, ["conf", "pipeline.json"]⟩ = .ok tuned) ∧
      ∃ reason, load ⟨[], [(["c.json"], .text "\"output_dir\"")]⟩ ⟨false, ["c.json"]⟩ =
        .error (.badValue ("Invalid configuration file: " ++ reason)) := by
  obtain ⟨hsaved, -, hrefused⟩ := load_undoes_save
  have hplace : Tree.empty.TakesFile ⟨false, ["conf", "pipeline.json"]⟩ :=
    ⟨⟨[["conf"]], []⟩, rfl, by decide, rfl, by decide⟩
  have hread : Tree.read ⟨[], [(["c.json"], .text "\"output_dir\"")]⟩ ⟨false, ["c.json"]⟩ =
      .ok "\"output_dir\"" := rfl
  have hvalue : Json.read "\"output_dir\"" = .ok (.str "output_dir") := rfl
  refine ⟨hsaved _ _ _ tuned_isProper hplace, ((hrefused _ _ _ hread).1 _ hvalue).1 ?_⟩
  exact .notObject fun fields => nofun

end DesignLens.Pipeline.Config
