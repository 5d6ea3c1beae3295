import DesignLens.Proofs.CacheFiles

/-!
# A cache as a finite map

A cache that starts in a folder without entries behaves like a finite map from keys to values,
through any sequence of operations. The folder stands for the map if it has one file for each key of
the map, with the value of the key in it, and nothing else that looks like an entry. Each operation
answers from the map and leads to a folder that stands for the changed map.
-/

namespace DesignLens.Pipeline.Cache

open Workspace

/-! ## Operations and their answers -/

inductive Operation where
  | set (key : String) (value : Json)
  | get (key : String)
  | clear
  | stats

inductive Answer where
  | done
  | value (v : Option Json)
  | count (n : Nat)

def perform (c : Cache) (t : Tree) : Operation → Tree × Except Failure Answer
  | .set key value =>
    match c.set key (some value) t with
    | .ok t' => (t', .ok .done)
    | .error failure => (t, .error failure)
  | .get key => ((c.get key t).1, (c.get key t).2.map .value)
  | .clear => ((c.clear t).1, (c.clear t).2.elim (.ok .done) .error)
  | .stats => (t, (c.stats t).map fun s => .count s.count)

/-- The files after some operations. -/
def after (c : Cache) (t : Tree) (operations : List Operation) : Tree :=
  operations.foldl (fun t operation => (c.perform t operation).1) t

/-- An operation that leaves alone what is kept for a key. -/
def Operation.Spares (key : String) : Operation → Prop
  | .set other _ => other ≠ key
  | .clear => False
  | .get _ | .stats => True

/-- The value that was set last for a key since the last clearing. -/
def LastSet (history : List Operation) (key : String) (value : Json) : Prop :=
  ∃ before later, history = before ++ .set key value :: later ∧
    ∀ operation ∈ later, operation.Spares key

/-- The answer to an operation after some others. -/
inductive Answers (history : List Operation) : Operation → Answer → Prop
  | set {key : String} {value : Json} : Answers history (.set key value) .done
  | clear : Answers history .clear .done
  | hit {key : String} {value : Json} (h : LastSet history key value) :
    Answers history (.get key) (.value (some value))
  | miss {key : String} (h : ∀ value, ¬ LastSet history key value) :
    Answers history (.get key) (.value none)
  | stats {keys : List String} (hnodup : keys.Nodup)
    (hkeys : ∀ key, key ∈ keys ↔ ∃ value, LastSet history key value) :
    Answers history .stats (.count keys.length)

/-- The keys of an operation are single names. -/
def Operation.IsAccepted (c : Cache) : Operation → Prop
  | .set key _ | .get key => c.Accepts key
  | .clear | .stats => True

/-! ## The map -/

/-- What an operation makes of the map. -/
def Operation.record (m : Table Json) : Operation → Table Json
  | .set key value => Table.insert key value m
  | .clear => []
  | .get _ | .stats => m

/-- What the map answers. -/
def Operation.expected (m : Table Json) : Operation → Answer
  | .set .. | .clear => .done
  | .get key => .value (Table.find? key m)
  | .stats => .count m.length

def recorded (history : List Operation) : Table Json := history.foldl Operation.record []

theorem recorded_concat (history : List Operation) (operation : Operation) :
    recorded (history ++ [operation]) = operation.record (recorded history) := by
  rw [recorded, List.foldl_append]
  rfl

theorem lastSet_concat {history : List Operation} {operation : Operation} {key : String}
    {value : Json} :
    LastSet (history ++ [operation]) key value ↔
      operation = .set key value ∨ operation.Spares key ∧ LastSet history key value := by
  constructor
  · rintro ⟨before, later, hhistory, hspares⟩
    rcases List.eq_nil_or_concat' later with rfl | ⟨later, last, rfl⟩
    · obtain ⟨-, hlast⟩ := List.append_inj' hhistory rfl
      exact Or.inl (List.cons.inj hlast).1
    · rw [← List.cons_append, ← List.append_assoc] at hhistory
      obtain ⟨hfront, hlast⟩ := List.append_inj' hhistory rfl
      have heq : operation = last := (List.cons.inj hlast).1
      have hlater : ∀ o ∈ later, o.Spares key := fun o ho =>
        hspares o (List.mem_append_left _ ho)
      have hown : last.Spares key := hspares last (by simp)
      exact Or.inr ⟨heq ▸ hown, before, later, hfront, hlater⟩
  · rintro (rfl | ⟨hown, before, later, rfl, hspares⟩)
    · exact ⟨history, [], rfl, fun o ho => absurd ho List.not_mem_nil⟩
    · refine ⟨before, later ++ [operation], by simp, ?_⟩
      intro o ho
      rcases List.mem_append.mp ho with ho | ho
      · exact hspares o ho
      · rw [List.mem_singleton.mp ho]
        exact hown

/-- The map keeps what was set last. -/
theorem find?_recorded (history : List Operation) (key : String) (value : Json) :
    Table.find? key (recorded history) = some value ↔ LastSet history key value := by
  induction history using List.reverseRecOn with
  | nil => simp [recorded, Table.find?, LastSet]
  | append_singleton history operation ih =>
    rw [recorded_concat, lastSet_concat, ← ih]
    cases operation with
    | set other v =>
      rw [Operation.record, Table.find?_insert]
      by_cases hkey : other = key
      · simp [hkey, Operation.Spares]
      · simp [hkey, Operation.Spares]
    | get other => simp [Operation.record, Operation.Spares]
    | clear => simp [Operation.record, Operation.Spares, Table.find?]
    | stats => simp [Operation.record, Operation.Spares]

theorem nodup_keys_recorded (history : List Operation) :
    (Table.keys (recorded history)).Nodup := by
  induction history using List.reverseRecOn with
  | nil => exact List.nodup_nil
  | append_singleton history operation ih =>
    rw [recorded_concat]
    cases operation with
    | set key value => exact Table.nodup_keys_insert value ih
    | clear => exact List.nodup_nil
    | get key => exact ih
    | stats => exact ih

/-- The answer of the map is told by the operations before. -/
theorem answers_expected (history : List Operation) (operation : Operation) :
    Answers history operation (operation.expected (recorded history)) := by
  cases operation with
  | set key value => exact .set
  | clear => exact .clear
  | get key =>
    cases hfind : Table.find? key (recorded history) with
    | some value =>
      rw [Operation.expected, hfind]
      exact .hit ((find?_recorded history key value).mp hfind)
    | none =>
      rw [Operation.expected, hfind]
      refine .miss fun value hlast => ?_
      rw [← find?_recorded, hfind] at hlast
      cases hlast
  | stats =>
    have hlength : (recorded history).length = (Table.keys (recorded history)).length := by
      rw [Table.keys, List.length_map]
    rw [Operation.expected, hlength]
    refine .stats (nodup_keys_recorded history) fun key => ?_
    constructor
    · intro hkey
      obtain ⟨value, hvalue⟩ := Table.mem_keys.mp hkey
      have hfind := Table.find?_of_mem (nodup_keys_recorded history) hvalue
      exact ⟨value, (find?_recorded history key value).mp hfind⟩
    · rintro ⟨value, hlast⟩
      exact Table.mem_keys_of_find? ((find?_recorded history key value).mpr hlast)

/-! ## The folder of a map -/

/-- Whether a place is one that the files of the cache have. -/
def isEntry (c : Cache) (place : Place) : Bool :=
  !place.isEmpty && place.dropLast == c.folder.destination &&
    Text.endsWith ending (place.getLastD "")

theorem isEntry_iff {c : Cache} {place : Place} :
    c.isEntry place = true ↔ ∃ key, place = c.placeOf key := by
  unfold isEntry
  rcases List.eq_nil_or_concat' place with rfl | ⟨front, last, rfl⟩
  · simp [placeOf]
  · have hne : (front ++ [last]).isEmpty = false := by simp
    rw [hne, List.dropLast_concat, List.getLastD_concat, Bool.not_false, Bool.true_and,
      Bool.and_eq_true, beq_iff_eq]
    constructor
    · rintro ⟨rfl, hending⟩
      obtain ⟨key, rfl⟩ := exists_key_of_endsWith hending
      exact ⟨key, rfl⟩
    · rintro ⟨key, hplace⟩
      obtain ⟨rfl, hlast⟩ := List.append_inj' hplace rfl
      obtain ⟨rfl, -⟩ := List.cons.inj hlast
      exact ⟨rfl, endsWith_ending key⟩

theorem isEntry_placeOf (c : Cache) (key : String) : c.isEntry (c.placeOf key) = true :=
  isEntry_iff.mpr ⟨key, rfl⟩

theorem ne_placeOf {c : Cache} {place : Place} (h : c.isEntry place = false) (key : String) :
    place ≠ c.placeOf key := by
  rintro rfl
  rw [isEntry_placeOf] at h
  cases h

/-- The folder of a cache stands for a map. -/
structure Holds (c : Cache) (t : Tree) (m : Table Json) : Prop where
  writable : c.folder.isWritable = true
  located : t.locate c.folder = .ok c.folder.destination
  folder : t.isFolderAt c.folder.destination = true
  /-- No folder looks like an entry. -/
  files : ∀ place ∈ t.folders, c.isEntry place = false
  nodup : (Table.keys m).Nodup
  accepted : ∀ key ∈ Table.keys m, c.Accepts key
  /-- There is one entry for each key. -/
  entries : ((t.files.map Prod.fst).filter c.isEntry).Perm ((Table.keys m).map c.placeOf)
  values : ∀ key v, Table.find? key m = some v →
    t.fileAt? (c.placeOf key) = some (.text (encode v))

/-- Two trees with the same folders and the same files apart from entries of the cache. -/
structure SameElsewhere (c : Cache) (t t' : Tree) : Prop where
  folders : t'.folders = t.folders
  files : ∀ place, c.isEntry place = false → t'.fileAt? place = t.fileAt? place

theorem SameElsewhere.refl (c : Cache) (t : Tree) : c.SameElsewhere t t :=
  ⟨rfl, fun _ _ => rfl⟩

theorem SameElsewhere.trans {c : Cache} {t₁ t₂ t₃ : Tree} (h : c.SameElsewhere t₁ t₂)
    (h' : c.SameElsewhere t₂ t₃) : c.SameElsewhere t₁ t₃ :=
  ⟨h'.folders.trans h.folders, fun place hplace =>
    (h'.files place hplace).trans (h.files place hplace)⟩

theorem SameElsewhere.isFolderAt {c : Cache} {t t' : Tree} (h : c.SameElsewhere t t')
    (place : Place) : t'.isFolderAt place = t.isFolderAt place := by
  unfold Tree.isFolderAt
  rw [h.folders]

namespace Holds

variable {c : Cache} {t : Tree} {m : Table Json} {key : String}

theorem placeOf_mem_iff (h : c.Holds t m) :
    c.placeOf key ∈ t.files.map Prod.fst ↔ key ∈ Table.keys m := by
  have hentries : c.placeOf key ∈ (t.files.map Prod.fst).filter c.isEntry ↔
      c.placeOf key ∈ (Table.keys m).map c.placeOf := h.entries.mem_iff
  rw [List.mem_filter, isEntry_placeOf, and_iff_left rfl] at hentries
  rw [hentries, List.mem_map]
  constructor
  · rintro ⟨other, hother, hplace⟩
    exact c.placeOf_injective hplace ▸ hother
  · intro hkey
    exact ⟨key, hkey, rfl⟩

theorem fileAt?_placeOf (h : c.Holds t m) :
    t.fileAt? (c.placeOf key) = (Table.find? key m).map fun v => .text (encode v) := by
  cases hfind : Table.find? key m with
  | some v => exact h.values key v hfind
  | none =>
    rw [Table.find?_eq_none_iff, ← h.placeOf_mem_iff] at hfind
    exact Tree.fileAt?_eq_none_iff.mpr hfind

theorem isFolderAt_placeOf (h : c.Holds t m) (key : String) :
    t.isFolderAt (c.placeOf key) = false := by
  have hnot : c.placeOf key ∉ t.folders := by
    intro hmem
    have hentry := h.files _ hmem
    rw [isEntry_placeOf] at hentry
    cases hentry
  have hne : (c.placeOf key).isEmpty = false := by simp [placeOf]
  simp [Tree.isFolderAt, hne, hnot]

theorem entryAt?_placeOf (h : c.Holds t m) :
    t.entryAt? (c.placeOf key) = (Table.find? key m).map fun v => .file (.text (encode v)) := by
  rw [Tree.entryAt?, h.isFolderAt_placeOf, h.fileAt?_placeOf]
  cases Table.find? key m <;> rfl

theorem isWritable_file (h : c.Holds t m) (hkey : c.Accepts key) :
    (c.file key).isWritable = true := by
  rw [file_eq c hkey.noSlash, Path.isWritable_iff]
  intro part hpart
  rcases List.mem_append.mp hpart with hpart | hpart
  · exact Path.isWritable_iff.mp h.writable part hpart
  · rw [List.mem_singleton.mp hpart, String.toList_append, List.mem_append, not_or]
    exact ⟨hkey.noNull, by decide⟩

theorem locate_file (h : c.Holds t m) (hkey : c.Accepts key) :
    t.locate (c.file key) = .ok (c.placeOf key) := by
  obtain ⟨hrelative, -, hfollow⟩ := Tree.locate_eq_ok.mp h.located
  rw [file_eq c hkey.noSlash, Tree.locate_eq_ok]
  exact ⟨hrelative, hkey.shortPath,
    Tree.follow_concat hfollow h.folder (fileName_ne_back key) hkey.shortName⟩

theorem destination_file (h : c.Holds t m) (hkey : c.Accepts key) :
    (c.file key).destination = c.placeOf key :=
  (Tree.destination_of_locate (h.locate_file hkey)).symm

theorem locate_folder {t' : Tree} (h : c.Holds t m) (hsame : c.SameElsewhere t t') :
    t'.locate c.folder = .ok c.folder.destination :=
  Tree.locate_mono (fun place hplace => (hsame.isFolderAt place).trans hplace) h.located

theorem content_file (h : c.Holds t m) (hkey : c.Accepts key) {v : Json}
    (hfind : Table.find? key m = some v) : t.content (c.file key) = .ok (.text (encode v)) := by
  have hplace := h.destination_file hkey
  refine Tree.content_eq_ok.mpr ⟨h.isWritable_file hkey, ?_, ?_, ?_⟩
  · rw [hplace]
    exact h.locate_file hkey
  · rw [hplace]
    exact h.isFolderAt_placeOf key
  · rw [hplace]
    exact h.values key v hfind

/-! ### Setting and getting -/

theorem sameElsewhere_setFile (c : Cache) (t : Tree) (key : String) (content : Content) :
    c.SameElsewhere t (t.setFile (c.placeOf key) content) where
  folders := Tree.folders_setFile t _ _
  files := by
    intro place hplace
    rw [Tree.fileAt?_setFile, if_neg (ne_placeOf hplace key)]

theorem entries_setFile (h : c.Holds t m) (value : Json) (content : Content) :
    (((t.setFile (c.placeOf key) content).files.map Prod.fst).filter c.isEntry).Perm
      ((Table.keys (Table.insert key value m)).map c.placeOf) := by
  rw [Tree.map_fst_setFile]
  by_cases hkey : key ∈ Table.keys m
  · rw [if_pos (h.placeOf_mem_iff.mpr hkey), Table.keys_insert_of_mem value hkey]
    exact h.entries
  · have hplace : c.placeOf key ∉ t.files.map Prod.fst := fun hmem =>
      hkey (h.placeOf_mem_iff.mp hmem)
    have hentry : [c.placeOf key].filter c.isEntry = [c.placeOf key] := by
      simp [isEntry_placeOf]
    rw [if_neg hplace, Table.keys_insert_of_not_mem value hkey, List.filter_append, hentry,
      List.map_append]
    exact h.entries.append_right _

theorem set (h : c.Holds t m) (hkey : c.Accepts key) (value : Json) :
    ∃ t', c.set key (some value) t = .ok t' ∧ c.Holds t' (Table.insert key value m) ∧
      c.SameElsewhere t t' := by
  have hsame := sameElsewhere_setFile c t key (.text (encode value))
  refine ⟨t.setFile (c.placeOf key) (.text (encode value)), ?_, ?_, hsame⟩
  · have hplace := h.destination_file hkey
    refine Tree.write_eq_ok.mpr ⟨h.isWritable_file hkey, ?_, ?_, ?_⟩
    · rw [hplace]
      exact h.locate_file hkey
    · rw [hplace]
      exact h.isFolderAt_placeOf key
    · rw [hplace]
      rfl
  · refine ⟨h.writable, h.locate_folder hsame, ?_, ?_, Table.nodup_keys_insert value h.nodup, ?_,
      h.entries_setFile value _, ?_⟩
    · rw [hsame.isFolderAt]
      exact h.folder
    · intro place hplace
      rw [hsame.folders] at hplace
      exact h.files place hplace
    · intro other hother
      rcases Table.mem_keys_insert.mp hother with rfl | hother
      · exact hkey
      · exact h.accepted other hother
    · intro other v hfind
      rw [Table.find?_insert] at hfind
      rw [Tree.fileAt?_setFile]
      split_ifs at hfind with hother
      · obtain rfl := Option.some.inj hfind
        rw [hother, if_pos rfl]
      · rw [if_neg fun hplace => hother (c.placeOf_injective hplace).symm]
        exact h.values other v hfind

theorem get (h : c.Holds t m) (hkey : c.Accepts key) :
    c.get key t = (t, .ok (Table.find? key m)) := by
  have hwritable := h.isWritable_file hkey
  have hlocate := h.locate_file hkey
  have hentry : t.entryAt? (c.placeOf key) =
      (Table.find? key m).map fun v => .file (.text (encode v)) := h.entryAt?_placeOf
  have hlook : t.look (c.file key) =
      .ok ((Table.find? key m).map fun v => .file (.text (encode v))) := by
    simp only [Tree.look, hwritable, hlocate, hentry]
    rfl
  cases hfind : Table.find? key m with
  | none =>
    have hexists : t.exists? (c.file key) = .ok false := by
      rw [Tree.exists?, hlook, hfind]
      rfl
    rw [Cache.get, hexists]
  | some v =>
    have hexists : t.exists? (c.file key) = .ok true := by
      rw [Tree.exists?, hlook, hfind]
      rfl
    rw [Cache.get, hexists]
    simp only [h.content_file hkey hfind, decode?_encode]

/-! ### Listing and clearing -/

/-- The names with the ending in the folder are the last parts of the places of the entries. -/
theorem perm_namesIn (h : c.Holds t m) :
    ((t.namesIn c.folder.destination).filter (Text.endsWith ending)).Perm
      (((t.files.map Prod.fst).filter c.isEntry).map fun q => q.getLastD "") := by
  have hplaces : (t.folders ++ t.files.map Prod.fst).filter c.isEntry =
      (t.files.map Prod.fst).filter c.isEntry := by
    have hnone : t.folders.filter c.isEntry = [] :=
      List.filter_eq_nil_iff.mpr fun place hplace => by simp [h.files place hplace]
    rw [List.filter_append, hnone, List.nil_append]
  have hinside : ((t.folders ++ t.files.map Prod.fst).filter fun q =>
        !q.isEmpty && q.dropLast == c.folder.destination).filter
          (fun q => Text.endsWith ending (q.getLastD "")) =
      (t.files.map Prod.fst).filter c.isEntry := by
    rw [List.filter_filter, ← hplaces]
    apply List.filter_congr
    intro q _
    rw [isEntry, Bool.and_comm]
  have hsorted : ((t.namesIn c.folder.destination).filter (Text.endsWith ending)).Perm
      ((((t.folders ++ t.files.map Prod.fst).filter fun q =>
        !q.isEmpty && q.dropLast == c.folder.destination).map fun q => q.getLastD "").filter
          (Text.endsWith ending)) := (Text.sort_perm _).filter _
  rw [List.filter_map] at hsorted
  rw [← hinside]
  exact hsorted

/-- The entries that are found are the files of the keys. -/
theorem entries_eq (h : c.Holds t m) :
    ∃ names : List String, c.entries t = .ok (names.map c.folder.child) ∧
      names.Perm ((Table.keys m).map fun key => key ++ ending) := by
  have hfolder : t.isFolder c.folder = .ok true := by
    simp [Tree.isFolder, Tree.look, h.writable, h.located, Tree.entryAt?, h.folder, Except.map]
  refine ⟨(t.namesIn c.folder.destination).filter (Text.endsWith ending), ?_, ?_⟩
  · have hstars : Text.occurs "**" "*.pkl" = false := by decide
    have hplain : ("*.pkl" == "**" || "*.pkl" == "..") = false := by decide
    have hmatch : matchesPattern "*.pkl" = Text.endsWith ending := funext matchesPattern_entries
    unfold Cache.entries matching
    simp only [hplain, hstars, hfolder, h.located, hmatch]
    rfl
  · have hkeys : ((Table.keys m).map c.placeOf).map (fun q => q.getLastD "") =
        (Table.keys m).map fun key => key ++ ending := by
      rw [List.map_map]
      apply List.map_congr_left
      intro key _
      simp [placeOf]
    rw [← hkeys]
    exact h.perm_namesIn.trans (h.entries.map _)

theorem stats (h : c.Holds t m) : (c.stats t).map (fun s => s.count) = .ok m.length := by
  obtain ⟨names, hentries, hnames⟩ := h.entries_eq
  have hlength : names.length = m.length := by
    rw [hnames.length_eq, List.length_map, Table.keys, List.length_map]
  rw [Cache.stats, hentries, ← hlength]
  simp [bind, Except.bind, pure, Except.pure, Except.map]

theorem sameElsewhere_removeFile (c : Cache) (t : Tree) (key : String) :
    c.SameElsewhere t (t.removeFile (c.placeOf key)) where
  folders := rfl
  files := by
    intro place hplace
    rw [Tree.fileAt?_removeFile, if_neg (ne_placeOf hplace key)]

theorem entries_removeFile (h : c.Holds t m) :
    (((t.removeFile (c.placeOf key)).files.map Prod.fst).filter c.isEntry).Perm
      ((Table.keys (Table.erase key m)).map c.placeOf) := by
  have hplaces : ((t.removeFile (c.placeOf key)).files.map Prod.fst).filter c.isEntry =
      ((t.files.map Prod.fst).filter c.isEntry).filter fun q => q != c.placeOf key := by
    rw [Tree.map_fst_removeFile, List.filter_filter, List.filter_filter]
    apply List.filter_congr
    intro q _
    rw [Bool.and_comm]
  have hkeys : ((Table.keys m).filter fun other => other != key).map c.placeOf =
      ((Table.keys m).map c.placeOf).filter fun q => q != c.placeOf key := by
    rw [List.filter_map]
    congr 1
    apply List.filter_congr
    intro other _
    by_cases hother : other = key
    · simp [hother]
    · have hplace : c.placeOf other ≠ c.placeOf key := fun heq =>
        hother (c.placeOf_injective heq)
      exact (bne_iff_ne.mpr hother).trans (bne_iff_ne.mpr hplace).symm
  rw [hplaces, Table.keys_erase, hkeys]
  exact h.entries.filter _

theorem erase (h : c.Holds t m) (hkey : key ∈ Table.keys m) :
    ∃ t', unlink t (c.folder.child (key ++ ending)) = .ok t' ∧
      c.Holds t' (Table.erase key m) ∧ c.SameElsewhere t t' := by
  have haccepted := h.accepted key hkey
  have hfile := file_eq c haccepted.noSlash
  have hsame := sameElsewhere_removeFile c t key
  have hkeys := Table.keys_erase key m
  refine ⟨t.removeFile (c.placeOf key), ?_, ?_, hsame⟩
  · obtain ⟨v, hv⟩ := Table.mem_keys.mp hkey
    have hcontent := h.content_file haccepted (Table.find?_of_mem h.nodup hv)
    rw [← hfile, unlink, hcontent, h.locate_file haccepted]
  · refine ⟨h.writable, h.locate_folder hsame, ?_, h.files, ?_, ?_, h.entries_removeFile, ?_⟩
    · rw [hsame.isFolderAt]
      exact h.folder
    · rw [hkeys]
      exact h.nodup.filter _
    · intro other hother
      rw [hkeys, List.mem_filter] at hother
      exact h.accepted other hother.1
    · intro other v hfind
      obtain ⟨hmem, hother⟩ := List.mem_filter.mp (Table.mem_of_find? hfind)
      have hne : c.placeOf other ≠ c.placeOf key := fun heq => by
        simp [c.placeOf_injective heq] at hother
      rw [Tree.fileAt?_removeFile, if_neg hne]
      exact h.values other v (Table.find?_of_mem h.nodup hmem)

/-- Entries are removed one by one until the map is empty. -/
theorem unlinkAll {names : List String} (h : c.Holds t m)
    (hnames : names.Perm ((Table.keys m).map fun key => key ++ ending)) :
    ∃ t', Cache.unlinkAll t (names.map c.folder.child) = (t', none) ∧ c.Holds t' [] ∧
      c.SameElsewhere t t' := by
  induction names generalizing t m with
  | nil =>
    have hkeys : Table.keys m = [] := List.map_eq_nil_iff.mp (List.nil_perm.mp hnames)
    have hnil : m = [] := List.map_eq_nil_iff.mp hkeys
    exact ⟨t, rfl, hnil ▸ h, SameElsewhere.refl c t⟩
  | cons name names ih =>
    obtain ⟨key, hkey, rfl⟩ := List.mem_map.mp (hnames.mem_iff.mp List.mem_cons_self)
    obtain ⟨t₁, hunlink, hholds, hsame⟩ := h.erase hkey
    have hfirst : (Table.keys m).Perm (key :: Table.keys (Table.erase key m)) := by
      rw [Table.keys_erase, ← h.nodup.erase_eq_filter]
      exact List.perm_cons_erase hkey
    have hrest : names.Perm ((Table.keys (Table.erase key m)).map fun key => key ++ ending) :=
      (hnames.trans (hfirst.map _)).cons_inv
    obtain ⟨t', hall, hempty, hsame'⟩ := ih hholds hrest
    refine ⟨t', ?_, hempty, hsame.trans hsame'⟩
    rw [List.map_cons, Cache.unlinkAll, hunlink]
    exact hall

theorem clear (h : c.Holds t m) :
    ∃ t', c.clear t = (t', none) ∧ c.Holds t' [] ∧ c.SameElsewhere t t' := by
  obtain ⟨names, hentries, hnames⟩ := h.entries_eq
  obtain ⟨t', hall, hempty, hsame⟩ := h.unlinkAll hnames
  refine ⟨t', ?_, hempty, hsame⟩
  rw [Cache.clear, hentries]
  exact hall

/-! ### Any operation -/

/-- An operation answers from the map and leads to a folder for the changed map. -/
theorem perform (h : c.Holds t m) {operation : Operation} (haccepted : operation.IsAccepted c) :
    (c.perform t operation).2 = .ok (operation.expected m) ∧
      c.Holds (c.perform t operation).1 (operation.record m) ∧
      c.SameElsewhere t (c.perform t operation).1 := by
  cases operation with
  | set key value =>
    obtain ⟨t', hset, hholds, hsame⟩ := h.set haccepted value
    rw [Cache.perform, hset]
    exact ⟨rfl, hholds, hsame⟩
  | get key =>
    rw [Cache.perform, h.get haccepted]
    exact ⟨rfl, h, SameElsewhere.refl c t⟩
  | clear =>
    obtain ⟨t', hclear, hholds, hsame⟩ := h.clear
    rw [Cache.perform, hclear]
    exact ⟨rfl, hholds, hsame⟩
  | stats =>
    obtain ⟨s, hstats, hcount⟩ := map_eq_ok.mp h.stats
    refine ⟨?_, h, SameElsewhere.refl c t⟩
    rw [Cache.perform, hstats, Operation.expected, ← hcount]
    rfl

end Holds

/-! ## Runs -/

section
variable {c : Cache} {t : Tree}

theorem after_concat (c : Cache) (t : Tree) (history : List Operation) (operation : Operation) :
    c.after t (history ++ [operation]) = (c.perform (c.after t history) operation).1 := by
  rw [after, List.foldl_append]
  rfl

/-- Through any operations the folder stands for what they recorded. -/
theorem Holds.after (h : c.Holds t []) {history : List Operation}
    (haccepted : ∀ operation ∈ history, operation.IsAccepted c) :
    c.Holds (c.after t history) (recorded history) := by
  induction history using List.reverseRecOn with
  | nil => exact h
  | append_singleton history operation ih =>
    have hbefore := ih fun o ho => haccepted o (List.mem_append_left _ ho)
    have hlast := haccepted operation (List.mem_append_right _ (List.mem_singleton_self _))
    rw [after_concat, recorded_concat]
    exact (hbefore.perform hlast).2.1

/-- A folder that was prepared and has no entries stands for the empty map. -/
theorem holds_of_prepare {t₀ : Tree} (hprepare : c.prepare t₀ = (t, none))
    (hfresh : ∀ key, t.entryAt? (c.placeOf key) = none) : c.Holds t [] := by
  obtain ⟨hwritable, hlocated, hfolder⟩ := Tree.makeFolders_done hprepare
  have hnothing : ∀ key, t.isFolderAt (c.placeOf key) = false ∧
      t.fileAt? (c.placeOf key) = none := by
    intro key
    have hentry := hfresh key
    unfold Tree.entryAt? at hentry
    split_ifs at hentry with hthere
    exact ⟨Bool.not_eq_true _ ▸ hthere, Option.map_eq_none_iff.mp hentry⟩
  refine ⟨hwritable, hlocated, hfolder, ?_, List.nodup_nil, ?_, ?_, ?_⟩
  · intro place hplace
    cases hentry : c.isEntry place with
    | false => rfl
    | true =>
      obtain ⟨key, rfl⟩ := isEntry_iff.mp hentry
      have hthere : t.isFolderAt (c.placeOf key) = true := by
        simp [Tree.isFolderAt, hplace]
      exact absurd (hthere.symm.trans (hnothing key).1) (by decide)
  · exact fun key hkey => absurd hkey List.not_mem_nil
  · have hnone : (t.files.map Prod.fst).filter c.isEntry = [] := by
      rw [List.filter_eq_nil_iff]
      intro place hplace hentry
      obtain ⟨key, rfl⟩ := isEntry_iff.mp hentry
      exact Tree.fileAt?_eq_none_iff.mp (hnothing key).2 hplace
    rw [hnone]
    exact .nil
  · intro key v hfind
    cases hfind

end

/-- What an operation of a cache answers after others, and what it leaves alone. -/
structure ActsAsMap (c : Cache) (t : Tree) (history : List Operation) (operation : Operation) :
    Prop where
  answer : ∃ answer, (c.perform (c.after t history) operation).2 = .ok answer ∧
    Answers history operation answer
  /-- What another key gives is the same before and after. -/
  otherKeys : ∀ key, c.Accepts key → operation.Spares key →
    (c.get key (c.after t (history ++ [operation]))).2 = (c.get key (c.after t history)).2
  /-- Clearing leaves no entry. -/
  cleared : operation = .clear → ∀ name, Text.endsWith ".pkl" name = true →
    (c.after t (history ++ [operation])).entryAt? (c.folder.destination ++ [name]) = none
  /-- What is no entry stays as it is. -/
  elsewhere : ∀ place, (∀ name, Text.endsWith ".pkl" name = true →
      place ≠ c.folder.destination ++ [name]) →
    (c.after t (history ++ [operation])).entryAt? place = (c.after t history).entryAt? place

/-- A cache in a folder without entries acts as a finite map through any sequence of operations
whose keys are single names. -/
theorem acts_as_map (c : Cache) (t₀ t : Tree) (hprepare : c.prepare t₀ = (t, none))
    (hfresh : ∀ name, Text.endsWith ".pkl" name = true →
      t.entryAt? (c.folder.destination ++ [name]) = none)
    (history : List Operation) (operation : Operation)
    (haccepted : ∀ o ∈ history ++ [operation], o.IsAccepted c) :
    c.ActsAsMap t history operation := by
  have hstart : c.Holds t [] := holds_of_prepare hprepare fun key =>
    hfresh _ (endsWith_ending key)
  have hbefore : c.Holds (c.after t history) (recorded history) :=
    hstart.after fun o ho => haccepted o (List.mem_append_left _ ho)
  have hafter : c.Holds (c.after t (history ++ [operation])) (recorded (history ++ [operation])) :=
    hstart.after haccepted
  obtain ⟨hanswer, -, hsame⟩ :=
    hbefore.perform (haccepted operation (List.mem_append_right _ (List.mem_singleton_self _)))
  rw [← after_concat] at hsame
  refine ⟨⟨_, hanswer, answers_expected history operation⟩, ?_, ?_, ?_⟩
  · intro key hkey hspares
    rw [hafter.get hkey, hbefore.get hkey, recorded_concat]
    cases operation with
    | set other value => rw [Operation.record, Table.find?_insert, if_neg hspares]
    | get other => rfl
    | clear => exact hspares.elim
    | stats => rfl
  · rintro rfl name hname
    obtain ⟨key, rfl⟩ := exists_key_of_endsWith hname
    have hentry : (c.after t (history ++ [.clear])).entryAt? (c.placeOf key) = _ :=
      hafter.entryAt?_placeOf
    rw [recorded_concat] at hentry
    exact hentry
  · intro place hplace
    have hentry : c.isEntry place = false := by
      cases hentry : c.isEntry place with
      | false => rfl
      | true =>
        obtain ⟨key, hkey⟩ := isEntry_iff.mp hentry
        exact absurd hkey (hplace _ (endsWith_ending key))
    rw [Tree.entryAt?, Tree.entryAt?, hsame.isFolderAt, hsame.files place hentry]

/-! ## A folder with a file that is no entry -/

def plainCache : Cache := ⟨⟨false, ["cache"]⟩⟩

def notedTree : Tree := ⟨[["cache"]], [(["cache", "notes.txt"], .text "keep me")]⟩

theorem prepare_notedTree : plainCache.prepare notedTree = (notedTree, none) := rfl

theorem fresh_notedTree (name : String) (h : Text.endsWith ".pkl" name = true) :
    notedTree.entryAt? (plainCache.folder.destination ++ [name]) = none := by
  have hplace : plainCache.folder.destination ++ [name] = ["cache", name] := rfl
  have hne : "notes.txt" ≠ name := by
    rintro rfl
    exact absurd h (by decide)
  simp [hplace, Tree.entryAt?, Tree.isFolderAt, Tree.fileAt?, notedTree, hne]

/-- Keys with a point at the start, with the ending of the files and without anything. -/
def oddOperations : List Operation :=
  [.set ".hidden" (.int 1), .clear, .set "a" .null, .set "a.pkl" (.int 2), .set "" (.bool true),
    .set "a" (.int 3)]

theorem oddOperations_accepted (operation : Operation)
    (h : operation ∈ oddOperations ++ [.get "a"]) : operation.IsAccepted plainCache := by
  simp only [oddOperations, List.cons_append, List.nil_append, List.mem_cons, List.not_mem_nil,
    or_false] at h
  rcases h with rfl | rfl | rfl | rfl | rfl | rfl | rfl
  · exact ⟨by decide, by decide, by decide, by decide⟩
  · trivial
  · exact ⟨by decide, by decide, by decide, by decide⟩
  · exact ⟨by decide, by decide, by decide, by decide⟩
  · exact ⟨by decide, by decide, by decide, by decide⟩
  · exact ⟨by decide, by decide, by decide, by decide⟩
  · exact ⟨by decide, by decide, by decide, by decide⟩

theorem acts_as_map_noted :
    plainCache.prepare notedTree = (notedTree, none) ∧
      plainCache.ActsAsMap notedTree oddOperations (.get "a") :=
  ⟨prepare_notedTree, acts_as_map plainCache notedTree notedTree prepare_notedTree fresh_notedTree
    oddOperations (.get "a") oddOperations_accepted⟩

end DesignLens.Pipeline.Cache
