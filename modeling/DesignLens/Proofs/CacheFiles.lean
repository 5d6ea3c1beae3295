import DesignLens.Pipeline.Cache
import DesignLens.Proofs.EnforcementReports
import DesignLens.Proofs.PackedValues

/-!
# The files of a cache

A key that is one name of a path has a file of its own in the folder of the cache. A pattern that
starts with a star matches the names with a certain ending, so the files of the cache are those with
the ending that its keys are given. What is written for a value is read back as that value.
-/

namespace DesignLens.Workspace

/-! ## Patterns -/

/-- A star stands for what comes before the rest of the pattern. -/
theorem matchesWilds_any (rest : List Wild) (cs : List Char) :
    matchesWilds (.any :: rest) cs = true ↔
      ∃ ending, ending <:+ cs ∧ matchesWilds rest ending = true := by
  induction cs with
  | nil => simp [matchesWilds, List.suffix_nil]
  | cons c cs ih =>
    rw [matchesWilds, Bool.or_eq_true, ih]
    constructor
    · rintro (hhere | ⟨ending, hending, hmatch⟩)
      · exact ⟨c :: cs, List.suffix_rfl, hhere⟩
      · exact ⟨ending, hending.trans (List.suffix_cons c cs), hmatch⟩
    · rintro ⟨ending, hending, hmatch⟩
      rcases List.suffix_cons_iff.mp hending with rfl | hending
      · exact Or.inl hmatch
      · exact Or.inr ⟨ending, hending, hmatch⟩

/-! ## Names in a folder -/

namespace Tree

variable {t t' : Tree}

theorem follow_concat {place folder : Place} {names : List String} {name : String}
    (h : t.follow place names = .ok folder) (hfolder : t.isFolderAt folder = true)
    (hname : name ≠ "..") (hshort : name.utf8ByteSize ≤ nameLimit) :
    t.follow place (names ++ [name]) = .ok (folder ++ [name]) := by
  rw [follow_append, h]
  refine follow_cons_eq_ok.mpr ⟨hfolder, ?_⟩
  rw [if_neg hname]
  exact ⟨hshort, rfl⟩

/-- A folder that was settled is there. -/
theorem settleFolder_done {p : Path} {outcome : Except SystemCause Tree}
    (h : t.settleFolder p outcome = (t', none))
    (hmade : ∀ u, outcome = .ok u →
      u.locate p = .ok p.destination ∧ u.isFolderAt p.destination = true) :
    t'.locate p = .ok p.destination ∧ t'.isFolderAt p.destination = true := by
  cases outcome with
  | ok u =>
    obtain rfl : u = t' := congrArg Prod.fst h
    exact hmade u rfl
  | error cause =>
    unfold settleFolder at h
    simp only at h
    split at h
    · rename_i hfolder
      obtain rfl : t = t' := congrArg Prod.fst h
      obtain ⟨entry, hlook, hentry⟩ := map_eq_ok.mp hfolder
      unfold look at hlook
      split_ifs at hlook
      · obtain rfl := Except.ok.inj hlook
        cases hentry
      · cases hlocate : t.locate p with
        | error cause' =>
          rw [hlocate] at hlook
          cases cause' <;> cases hlook <;> cases hentry
        | ok place =>
          obtain rfl := destination_of_locate hlocate
          rw [hlocate] at hlook
          obtain rfl := Except.ok.inj hlook
          refine ⟨rfl, ?_⟩
          cases hthere : t.isFolderAt p.destination with
          | true => rfl
          | false =>
            rw [entryAt?, hthere] at hentry
            cases hfile : t.fileAt? p.destination <;> simp [hfile] at hentry
    · cases h
    · cases h

theorem makeFolder_done {p : Path} (h : t.makeFolder p = .ok t') :
    t'.locate p = .ok p.destination ∧ t'.isFolderAt p.destination = true := by
  have hgrown := grown_makeFolder h
  rw [makeFolder_eq] at h
  cases hlocate : t.locate p with
  | error cause =>
    rw [hlocate] at h
    cases h
  | ok place =>
    obtain rfl := destination_of_locate hlocate
    rw [hlocate] at h
    simp only at h
    split_ifs at h
    obtain ⟨-, -, rfl⟩ := map_eq_ok.mp h
    refine ⟨locate_mono hgrown.folders hlocate, ?_⟩
    simp [isFolderAt]

theorem makeFoldersFrom_done {absolute : Bool} {names : List String}
    (h : t.makeFoldersFrom absolute names = (t', none)) :
    t'.locate ⟨absolute, names.reverse⟩ = .ok (Path.destination ⟨absolute, names.reverse⟩) ∧
      t'.isFolderAt (Path.destination ⟨absolute, names.reverse⟩) = true := by
  cases names with
  | nil => exact settleFolder_done h fun u hu => makeFolder_done hu
  | cons name above =>
    unfold makeFoldersFrom at h
    simp only at h
    split at h
    · cases hm : t.makeFoldersFrom absolute above with
      | mk u failure =>
        rw [hm] at h
        cases failure with
        | some f => cases h
        | none => exact settleFolder_done h fun v hv => makeFolder_done hv
    · exact settleFolder_done h fun u hu => makeFolder_done hu

/-- Where folders were created without a failure, the last one is there. -/
theorem makeFolders_done {p : Path} (h : t.makeFolders p = (t', none)) :
    p.isWritable = true ∧ t'.locate p = .ok p.destination ∧
      t'.isFolderAt p.destination = true := by
  unfold makeFolders at h
  split_ifs at h with hwritable
  · have hdone := makeFoldersFrom_done h
    rw [List.reverse_reverse] at hdone
    exact ⟨hwritable, hdone⟩
  · cases h

theorem map_fst_setFile (t : Tree) (place : Place) (c : Content) :
    (t.setFile place c).files.map Prod.fst =
      if place ∈ t.files.map Prod.fst then t.files.map Prod.fst
      else t.files.map Prod.fst ++ [place] := by
  unfold setFile
  by_cases hthere : place ∈ t.files.map Prod.fst
  · have hany : (t.files.any fun f => f.1 == place) = true := by
      obtain ⟨f, hf, hplace⟩ := List.mem_map.mp hthere
      exact List.any_eq_true.mpr ⟨f, hf, by simp [hplace]⟩
    rw [if_pos hany, if_pos hthere, List.map_map]
    apply List.map_congr_left
    intro f _
    by_cases hf : f.1 = place
    · simp [hf]
    · simp [hf]
  · have hany : ¬ (t.files.any fun f => f.1 == place) = true := by
      intro h
      obtain ⟨f, hf, hplace⟩ := List.any_eq_true.mp h
      exact hthere (List.mem_map.mpr ⟨f, hf, by simpa using hplace⟩)
    rw [if_neg hany, if_neg hthere, List.map_append]
    rfl

theorem fileAt?_eq_none_iff {place : Place} :
    t.fileAt? place = none ↔ place ∉ t.files.map Prod.fst := by
  rw [fileAt?, Option.map_eq_none_iff, List.find?_eq_none, List.mem_map]
  constructor
  · rintro hnone ⟨f, hf, rfl⟩
    exact hnone f hf (beq_self_eq_true f.1)
  · intro hnone f hf hplace
    exact hnone ⟨f, hf, by simpa using hplace⟩

theorem fileAt?_removeFile (t : Tree) (place q : Place) :
    (t.removeFile place).fileAt? q = if q = place then none else t.fileAt? q := by
  unfold removeFile fileAt?
  rw [List.find?_filter]
  by_cases hq : q = place
  · rw [if_pos hq, Option.map_eq_none_iff, List.find?_eq_none]
    intro f _
    simp [hq]
  · rw [if_neg hq]
    congr 2
    funext f
    by_cases hf : f.1 = q
    · simp [hf, hq]
    · simp [hf]

theorem map_fst_removeFile (t : Tree) (place : Place) :
    (t.removeFile place).files.map Prod.fst =
      (t.files.map Prod.fst).filter fun q => q != place := by
  rw [removeFile, List.filter_map]
  rfl

end Tree

end DesignLens.Workspace

namespace DesignLens.Pipeline.Cache

open Workspace

/-! ## The file of a key -/

/-- The ending of the files of a cache. -/
def ending : String := ".pkl"

/-- A key that is a single name of a path, in a place that the file system can tell. -/
structure Accepts (c : Cache) (key : String) : Prop where
  noSlash : '/' ∉ key.toList
  noNull : '\x00' ∉ key.toList
  shortName : (key ++ ending).utf8ByteSize ≤ nameLimit
  shortPath : (c.folder.child (key ++ ending)).toString.utf8ByteSize ≤ pathLimit

/-- The place of the file of a key. -/
def placeOf (c : Cache) (key : String) : Place := c.folder.destination ++ [key ++ ending]

theorem placeOf_injective (c : Cache) {a b : String} (h : c.placeOf a = c.placeOf b) : a = b := by
  have hname : a ++ ending = b ++ ending := by simpa [placeOf] using h
  have hchars := congrArg String.toList hname
  rw [String.toList_append, String.toList_append] at hchars
  exact String.toList_inj.mp (List.append_cancel_right hchars)

theorem matchesPattern_entries (name : String) :
    matchesPattern "*.pkl" name = Text.endsWith ending name := by
  have hwilds : wildsOf "*.pkl".toList = .any :: ending.toList.map Wild.exactly := by
    have hpattern : "*.pkl".toList = ['*', '.', 'p', 'k', 'l'] := rfl
    have hending : ending.toList = ['.', 'p', 'k', 'l'] := rfl
    rw [hpattern, hending]
    simp [wildsOf]
  rw [Bool.eq_iff_iff, matchesPattern, hwilds, matchesWilds_any, Text.endsWith,
    List.isSuffixOf_iff_suffix]
  simp only [matchesWilds_exactly]
  constructor
  · rintro ⟨_, hsuffix, rfl⟩
    exact hsuffix
  · intro hsuffix
    exact ⟨_, hsuffix, rfl⟩

theorem endsWith_ending (key : String) : Text.endsWith ending (key ++ ending) = true := by
  rw [Text.endsWith, List.isSuffixOf_iff_suffix, String.toList_append]
  exact List.suffix_append _ _

theorem exists_key_of_endsWith {name : String} (h : Text.endsWith ending name = true) :
    ∃ key, name = key ++ ending := by
  rw [Text.endsWith, List.isSuffixOf_iff_suffix] at h
  obtain ⟨front, hfront⟩ := h
  refine ⟨String.ofList front, String.toList_inj.mp ?_⟩
  rw [String.toList_append, String.toList_ofList, hfront]

theorem isName_fileName {key : String} (h : '/' ∉ key.toList) : IsName (key ++ ending) := by
  have hlength : 4 ≤ (key ++ ending).toList.length := by
    rw [String.toList_append, List.length_append]
    exact Nat.le_add_left 4 _
  refine ⟨?_, ?_, ?_⟩
  · intro hname
    rw [hname] at hlength
    exact absurd hlength (by decide)
  · intro hname
    rw [hname] at hlength
    exact absurd hlength (by decide)
  · rw [String.toList_append, List.mem_append, not_or]
    exact ⟨h, by decide⟩

theorem fileName_ne_back (key : String) : key ++ ending ≠ ".." := by
  intro hname
  have hlength := congrArg (List.length ∘ String.toList) hname
  have hending : ending.toList.length = 4 := rfl
  have hback : "..".toList.length = 2 := rfl
  simp only [Function.comp, String.toList_append, List.length_append, hending, hback] at hlength
  omega

theorem file_eq (c : Cache) {key : String} (h : '/' ∉ key.toList) :
    c.file key = c.folder.child (key ++ ending) := by
  have hnames : (⟨false, [key ++ ending]⟩ : Path).OfNames := by
    intro name hname
    rw [List.mem_singleton.mp hname]
    exact isName_fileName h
  have hwritten : (⟨false, [key ++ ending]⟩ : Path).toString = key ++ ending := by
    simp [Path.toString]
  have hpath : Path.ofString (key ++ ending) = ⟨false, [key ++ ending]⟩ := by
    have hread := Path.ofString_toString hnames
    rwa [hwritten] at hread
  rw [file, show ".pkl" = ending from rfl, hpath]
  rfl

/-! ## What is in a file -/

theorem decode?_encode (v : Json) : decode? (.text (encode v)) = some v := by
  have hchars : (encode v).toList = mark.toList ++ v.pack := by
    rw [encode, String.toList_append, String.toList_ofList]
  have hstart : Text.startsWith mark (encode v) = true := by
    rw [Text.startsWith, hchars, List.isPrefixOf_iff_prefix]
    exact List.prefix_append _ _
  have hlength : mark.length = mark.toList.length := String.length_toList.symm
  rw [decode?, if_pos hstart, hchars, hlength, List.drop_left, Json.unpack?_pack]

end DesignLens.Pipeline.Cache
