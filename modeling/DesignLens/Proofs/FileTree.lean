import DesignLens.Proofs.Attempts
import DesignLens.Workspace.Tree

/-!
# What operations on file trees change

Where a path leads does not depend on the tree; the tree only decides whether the path can be
followed. Writing a file changes the content of that one place, and creating folders changes no
file at all.
-/

namespace DesignLens.Workspace

theorem destinationFrom_append (place : Place) (names more : List String) :
    destinationFrom place (names ++ more) = destinationFrom (destinationFrom place names) more := by
  induction names generalizing place with
  | nil => rfl
  | cons name rest ih =>
    rw [List.cons_append, destinationFrom, destinationFrom]
    split_ifs <;> exact ih _

/-- Names without a way back lead straight down. -/
theorem destinationFrom_of_down {names : List String} (hdown : ".." ∉ names) (place : Place) :
    destinationFrom place names = place ++ names := by
  induction names generalizing place with
  | nil => simp [destinationFrom]
  | cons name rest ih =>
    rw [List.mem_cons, not_or] at hdown
    rw [destinationFrom, if_neg (Ne.symm hdown.1), ih hdown.2, List.append_assoc]
    rfl

theorem Path.isWritable_iff {p : Path} :
    p.isWritable = true ↔ ∀ name ∈ p.parts, '\x00' ∉ name.toList := by
  simp [Path.isWritable]

theorem Path.isWritable_above {absolute : Bool} {names : List String} {name : String}
    (h : Path.isWritable ⟨absolute, names ++ [name]⟩ = true) :
    Path.isWritable ⟨absolute, names⟩ = true := by
  simp only [Path.isWritable, List.any_append, Bool.not_or, Bool.and_eq_true] at h
  exact h.1

namespace Tree

variable {t t' : Tree}

/-! ## Following paths -/

theorem requireFolder_eq_ok {place : Place} {u : Unit} :
    t.requireFolder place = .ok u ↔ t.isFolderAt place = true := by
  unfold requireFolder entryAt?
  by_cases h : t.isFolderAt place = true
  · simp [h]
  · rw [if_neg h]
    cases t.fileAt? place <;> simp [h]

/-- The folders on the way and the lengths of the names decide whether names can be followed. -/
theorem follow_cons_eq_ok {place q : Place} {name : String} {rest : List String} :
    t.follow place (name :: rest) = .ok q ↔
      t.isFolderAt place = true ∧
        if name = ".." then t.follow place.dropLast rest = .ok q
        else name.utf8ByteSize ≤ nameLimit ∧ t.follow (place ++ [name]) rest = .ok q := by
  rw [follow]
  cases hr : t.requireFolder place with
  | error cause =>
    have hno : ¬ t.isFolderAt place = true := by
      rw [← requireFolder_eq_ok (u := ()), hr]
      exact fun h => nomatch h
    simp [bind, Except.bind, hno]
  | ok u =>
    rw [requireFolder_eq_ok] at hr
    simp only [bind, Except.bind, hr, true_and]
    by_cases hname : name = ".."
    · rw [if_pos hname, if_pos hname]
    · rw [if_neg hname, if_neg hname]
      by_cases hlong : nameLimit < name.utf8ByteSize
      · simp [hlong, Nat.not_le.mpr hlong]
      · simp [hlong, Nat.le_of_not_lt hlong]

theorem follow_eq_destinationFrom {names : List String} {place q : Place}
    (h : t.follow place names = .ok q) : q = destinationFrom place names := by
  induction names generalizing place with
  | nil =>
    simp only [follow, Except.ok.injEq] at h
    exact h.symm
  | cons name rest ih =>
    obtain ⟨-, h⟩ := follow_cons_eq_ok.mp h
    unfold destinationFrom
    split_ifs at h ⊢
    · exact ih h
    · exact ih h.2

theorem locate_eq_ok {p : Path} {q : Place} :
    t.locate p = .ok q ↔
      p.absolute = false ∧ p.toString.utf8ByteSize ≤ pathLimit ∧ t.follow [] p.parts = .ok q := by
  unfold locate
  cases p.absolute
  · by_cases hlong : pathLimit < p.toString.utf8ByteSize
    · simp [hlong, Nat.not_le.mpr hlong]
    · simp [hlong, Nat.le_of_not_lt hlong]
  · simp

theorem destination_of_locate {p : Path} {q : Place} (h : t.locate p = .ok q) :
    q = p.destination :=
  follow_eq_destinationFrom (locate_eq_ok.mp h).2.2

/-- More folders keep names that can be followed. -/
theorem follow_mono (h : ∀ q, t.isFolderAt q = true → t'.isFolderAt q = true)
    {names : List String} {place q : Place} (hfollow : t.follow place names = .ok q) :
    t'.follow place names = .ok q := by
  induction names generalizing place with
  | nil => exact hfollow
  | cons name rest ih =>
    obtain ⟨hfolder, hrest⟩ := follow_cons_eq_ok.mp hfollow
    refine follow_cons_eq_ok.mpr ⟨h place hfolder, ?_⟩
    split_ifs at hrest ⊢
    · exact ih hrest
    · exact ⟨hrest.1, ih hrest.2⟩

theorem locate_mono (h : ∀ q, t.isFolderAt q = true → t'.isFolderAt q = true) {p : Path}
    {q : Place} (hlocate : t.locate p = .ok q) : t'.locate p = .ok q := by
  obtain ⟨hrelative, hshort, hfollow⟩ := locate_eq_ok.mp hlocate
  exact locate_eq_ok.mpr ⟨hrelative, hshort, follow_mono h hfollow⟩

theorem follow_append (place : Place) (names more : List String) :
    t.follow place (names ++ more) = t.follow place names >>= fun q => t.follow q more := by
  induction names generalizing place with
  | nil => rfl
  | cons name rest ih =>
    rw [List.cons_append, follow, follow]
    cases t.requireFolder place with
    | error cause => rfl
    | ok u =>
      simp only [bind, Except.bind] at ih ⊢
      split_ifs
      · exact ih _
      · rfl
      · exact ih _

/-- What stands before the last name is a folder. -/
theorem follow_append_singleton {names : List String} {name : String} {place q : Place}
    (h : t.follow place (names ++ [name]) = .ok q) :
    ∃ folder, t.follow place names = .ok folder ∧ t.isFolderAt folder = true := by
  rw [follow_append, bind_eq_ok] at h
  obtain ⟨folder, hfolder, hlast⟩ := h
  exact ⟨folder, hfolder, (follow_cons_eq_ok.mp hlast).1⟩

/-- The path to a folder is no longer than the path to what is in it. -/
theorem utf8ByteSize_intercalate_le (names : List String) (name : String) :
    ("/".intercalate names).utf8ByteSize ≤ ("/".intercalate (names ++ [name])).utf8ByteSize := by
  induction names with
  | nil => exact Nat.zero_le _
  | cons first rest ih =>
    have hlonger : "/".intercalate (first :: (rest ++ [name])) =
        first ++ "/" ++ "/".intercalate (rest ++ [name]) :=
      String.intercalate_cons_of_ne_nil (by simp)
    rw [List.cons_append, hlonger]
    cases rest with
    | nil =>
      rw [String.intercalate_singleton, String.utf8ByteSize_append, String.utf8ByteSize_append]
      omega
    | cons second rest =>
      rw [String.intercalate_cons_cons]
      simp only [String.utf8ByteSize_append] at ih ⊢
      omega

theorem locate_append_singleton {absolute : Bool} {names : List String} {name : String} {q : Place}
    (h : t.locate ⟨absolute, names ++ [name]⟩ = .ok q) :
    ∃ folder, t.locate ⟨absolute, names⟩ = .ok folder ∧ t.isFolderAt folder = true := by
  obtain ⟨hrelative, hshort, hfollow⟩ := locate_eq_ok.mp h
  obtain ⟨folder, hfolder, hlast⟩ := follow_append_singleton hfollow
  refine ⟨folder, locate_eq_ok.mpr ⟨hrelative, ?_, hfolder⟩, hlast⟩
  have hle := utf8ByteSize_intercalate_le names name
  simp only at hrelative
  simp only [Path.toString, hrelative, Bool.false_eq_true, if_false] at hshort ⊢
  split_ifs with hempty
  · decide
  · rw [if_neg (by simp)] at hshort
    exact Nat.le_trans hle hshort

/-- Every file is in a folder, and so on up to the root. -/
def Rooted (t : Tree) : Prop :=
  ∀ f ∈ t.files, ∀ place : Place, place <+: f.1 → place ≠ f.1 → t.isFolderAt place = true

theorem mem_files_of_fileAt? {place : Place} {c : Content} (h : t.fileAt? place = some c) :
    (place, c) ∈ t.files := by
  obtain ⟨f, hf, rfl⟩ := Option.map_eq_some_iff.mp h
  have hplace : f.1 = place := by simpa using List.find?_some hf
  rw [← hplace]
  exact List.mem_of_find?_eq_some hf

/-- Names that lead straight down to a file can be followed unless one of them is too long. -/
theorem follow_down_to_file (hrooted : t.Rooted) {names : List String} (hdown : ".." ∉ names)
    {place : Place} {c : Content} (hfile : (place ++ names, c) ∈ t.files) :
    t.follow place names = .ok (place ++ names) ∨
      t.follow place names = .error .nameTooLong := by
  induction names generalizing place with
  | nil => exact Or.inl (by rw [List.append_nil, follow])
  | cons name rest ih =>
    rw [List.mem_cons, not_or] at hdown
    have hfolder : t.isFolderAt place = true :=
      hrooted _ hfile place (List.prefix_append place _) (by simp)
    have hrequire : t.requireFolder place = .ok () := requireFolder_eq_ok.mpr hfolder
    rw [List.append_cons] at hfile ⊢
    rw [follow, hrequire]
    simp only [bind, Except.bind, if_neg (Ne.symm hdown.1)]
    by_cases hlong : nameLimit < name.utf8ByteSize
    · exact Or.inr (if_pos hlong)
    · rw [if_neg hlong]
      exact ih hdown.2 hfile

theorem locate_down_to_file (hrooted : t.Rooted) {p : Path} (hrelative : p.absolute = false)
    (hdown : ".." ∉ p.parts) {c : Content} (hfile : t.fileAt? p.destination = some c) :
    t.locate p = .ok p.destination ∨ t.locate p = .error .nameTooLong := by
  have hdestination : p.destination = [] ++ p.parts := destinationFrom_of_down hdown []
  unfold locate
  rw [hrelative]
  simp only [Bool.false_eq_true, if_false]
  split_ifs
  · exact Or.inr rfl
  · rw [hdestination] at hfile ⊢
    exact follow_down_to_file hrooted hdown (mem_files_of_fileAt? hfile)

/-! ## Looking at paths -/

theorem content_eq_ok {p : Path} {c : Content} :
    t.content p = .ok c ↔ p.isWritable = true ∧ t.locate p = .ok p.destination ∧
      t.isFolderAt p.destination = false ∧ t.fileAt? p.destination = some c := by
  unfold content
  cases hw : p.isWritable with
  | false => simp
  | true =>
    cases hl : t.locate p with
    | error cause => simp
    | ok place =>
      obtain rfl := destination_of_locate hl
      cases hf : t.isFolderAt p.destination with
      | true => simp [entryAt?, hf]
      | false => cases hc : t.fileAt? p.destination <;> simp [entryAt?, hf, hc]

theorem read_of_content {p : Path} {c : Content} (h : t.content p = .ok c) : t.read p = c.read := by
  unfold read
  rw [h]
  rfl

theorem look_eq_error {p : Path} {failure : Failure} :
    t.look p = .error failure ↔ p.isWritable = true ∧ t.locate p = .error .nameTooLong ∧
      failure = refusal .nameTooLong p := by
  unfold look
  cases hw : p.isWritable with
  | false => simp
  | true =>
    cases hl : t.locate p with
    | ok place => simp
    | error cause => cases cause <;> simp [eq_comm]

theorem look_eq_some {p : Path} {entry : Entry} :
    t.look p = .ok (some entry) ↔ p.isWritable = true ∧ t.locate p = .ok p.destination ∧
      t.entryAt? p.destination = some entry := by
  unfold look
  cases hw : p.isWritable with
  | false => simp
  | true =>
    cases hl : t.locate p with
    | error cause => cases cause <;> simp
    | ok place =>
      obtain rfl := destination_of_locate hl
      simp

theorem isFolder_eq_true {p : Path} :
    t.isFolder p = .ok true ↔ p.isWritable = true ∧ t.locate p = .ok p.destination ∧
      t.isFolderAt p.destination = true := by
  have hlook : t.isFolder p = .ok true ↔ t.look p = .ok (some .folder) := by
    unfold isFolder
    rw [map_eq_ok]
    constructor
    · rintro ⟨entry, hentry, hfolder⟩
      split at hfolder
      · exact hentry
      · exact nomatch hfolder
    · exact fun h => ⟨_, h, rfl⟩
  rw [hlook, look_eq_some, entryAt?]
  cases hf : t.isFolderAt p.destination with
  | true => simp
  | false => cases t.fileAt? p.destination <;> simp

/-- What is a file has a content. -/
theorem isFile_eq_true {p : Path} : t.isFile p = .ok true ↔ ∃ c, t.content p = .ok c := by
  have hlook : t.isFile p = .ok true ↔ ∃ c, t.look p = .ok (some (.file c)) := by
    unfold isFile
    rw [map_eq_ok]
    constructor
    · rintro ⟨entry, hentry, hfile⟩
      split at hfile
      · exact ⟨_, hentry⟩
      · exact nomatch hfile
    · exact fun ⟨c, h⟩ => ⟨_, h, rfl⟩
  rw [hlook]
  refine exists_congr fun c => ?_
  rw [look_eq_some, content_eq_ok, entryAt?]
  cases hf : t.isFolderAt p.destination with
  | true => simp
  | false => cases t.fileAt? p.destination <;> simp

/-! ## Writing files -/

/-- The files with another content in one place. -/
def replaceFile (files : List (Place × Content)) (place : Place) (c : Content) :
    List (Place × Content) :=
  files.map fun f => if f.1 == place then (place, c) else f

theorem find?_replaceFile_self {files : List (Place × Content)} {place : Place} (c : Content)
    (h : (files.any fun f => f.1 == place) = true) :
    (replaceFile files place c).find? (fun f => f.1 == place) = some (place, c) := by
  induction files with
  | nil => simp at h
  | cons f files ih =>
    by_cases hf : f.1 = place
    · simp [replaceFile, hf]
    · have hrest : (files.any fun f => f.1 == place) = true := by simpa [hf] using h
      simpa [replaceFile, hf] using ih hrest

theorem find?_replaceFile_of_ne (files : List (Place × Content)) {place q : Place} (c : Content)
    (hq : q ≠ place) :
    (replaceFile files place c).find? (fun f => f.1 == q) = files.find? fun f => f.1 == q := by
  induction files with
  | nil => rfl
  | cons f files ih =>
    by_cases hf : f.1 = place
    · simpa [replaceFile, hf, hq.symm] using ih
    · by_cases hfq : f.1 = q
      · simp [replaceFile, hfq, hq]
      · simpa [replaceFile, hf, hfq] using ih

/-- Putting a content in a place changes what is in that place and nothing else. -/
theorem fileAt?_setFile (t : Tree) (place q : Place) (c : Content) :
    (t.setFile place c).fileAt? q = if q = place then some c else t.fileAt? q := by
  unfold setFile fileAt?
  by_cases hany : (t.files.any fun f => f.1 == place) = true
  · rw [if_pos hany]
    by_cases hq : q = place
    · rw [if_pos hq, hq]
      exact congrArg (Option.map Prod.snd) (find?_replaceFile_self c hany)
    · rw [if_neg hq]
      exact congrArg (Option.map Prod.snd) (find?_replaceFile_of_ne t.files c hq)
  · rw [if_neg hany, List.find?_append]
    by_cases hq : q = place
    · have hnone : t.files.find? (fun f => f.1 == place) = none := by
        rw [List.find?_eq_none]
        intro f hf heq
        exact hany (List.any_eq_true.mpr ⟨f, hf, heq⟩)
      simp [hq, hnone]
    · simp [hq, Ne.symm hq]

@[simp]
theorem folders_setFile (t : Tree) (place : Place) (c : Content) :
    (t.setFile place c).folders = t.folders := by
  unfold setFile
  split_ifs <;> rfl

@[simp]
theorem isFolderAt_setFile (t : Tree) (place q : Place) (c : Content) :
    (t.setFile place c).isFolderAt q = t.isFolderAt q := by
  unfold isFolderAt
  rw [folders_setFile]

/-- A file is written where its path leads. -/
theorem write_eq_ok {p : Path} {c : Content} :
    t.write p c = .ok t' ↔
      p.isWritable = true ∧ t.locate p = .ok p.destination ∧
        t.isFolderAt p.destination = false ∧ t' = t.setFile p.destination c := by
  unfold write
  cases hw : p.isWritable with
  | false => simp
  | true =>
    cases hl : t.locate p with
    | error cause => simp
    | ok q =>
      obtain rfl := destination_of_locate hl
      cases hf : t.isFolderAt p.destination with
      | false => simp [hf, eq_comm]
      | true => simp [hf]

/-! ## Creating folders -/

/-- Only folders are added, and none where there is a file. -/
structure Grown (t t' : Tree) : Prop where
  files : t'.files = t.files
  folders : ∀ place, t.isFolderAt place = true → t'.isFolderAt place = true
  apart : ∀ place, t'.isFolderAt place = true →
    t.isFolderAt place = true ∨ t.fileAt? place = none

theorem Grown.refl (t : Tree) : Grown t t := ⟨rfl, fun _ h => h, fun _ h => Or.inl h⟩

theorem Grown.fileAt? (h : Grown t t') (place : Place) : t'.fileAt? place = t.fileAt? place := by
  unfold Tree.fileAt?
  rw [h.files]

theorem Grown.trans {t₁ t₂ t₃ : Tree} (h : Grown t₁ t₂) (h' : Grown t₂ t₃) : Grown t₁ t₃ where
  files := h'.files.trans h.files
  folders := fun place hf => h'.folders place (h.folders place hf)
  apart := fun place hf => by
    rcases h'.apart place hf with hf | hfile
    · exact h.apart place hf
    · rw [h.fileAt?] at hfile
      exact Or.inr hfile

theorem makeFolder_eq (t : Tree) (p : Path) :
    t.makeFolder p =
      match t.locate p with
      | .error cause => .error cause
      | .ok place =>
        if (t.entryAt? place).isSome then .error .alreadyThere
        else (t.requireFolder place.dropLast).map fun _ =>
          { t with folders := t.folders ++ [place] } := by
  unfold makeFolder
  cases t.locate p with
  | error cause => rfl
  | ok place =>
    simp only [bind, Except.bind]
    by_cases hentry : (t.entryAt? place).isSome = true
    · rw [if_pos hentry, if_pos hentry]
      rfl
    · rw [if_neg hentry, if_neg hentry]
      cases t.requireFolder place.dropLast <;> rfl

theorem grown_makeFolder {p : Path} (h : t.makeFolder p = .ok t') : Grown t t' := by
  rw [makeFolder_eq] at h
  split at h
  · simp at h
  · split_ifs at h with hentry
    · rename_i place _
      cases hr : t.requireFolder place.dropLast with
      | error cause => simp [hr, Except.map] at h
      | ok u =>
        simp only [hr, Except.map, Except.ok.injEq] at h
        rw [← h]
        have hfolder : ∀ q, Tree.isFolderAt { t with folders := t.folders ++ [place] } q = true ↔
            t.isFolderAt q = true ∨ q = place := by
          intro q
          simp [isFolderAt, or_assoc]
        refine ⟨rfl, fun q hq => (hfolder q).mpr (Or.inl hq), fun q hq => ?_⟩
        rcases (hfolder q).mp hq with hq | rfl
        · exact Or.inl hq
        · unfold entryAt? at hentry
          cases hfile : t.fileAt? q with
          | none => exact Or.inr rfl
          | some c => exact absurd (by split_ifs <;> simp [hfile]) hentry

theorem grown_settleFolder {p : Path} {outcome : Except SystemCause Tree}
    (h : ∀ u, outcome = .ok u → Grown t u) : Grown t (t.settleFolder p outcome).1 := by
  unfold settleFolder
  cases outcome with
  | ok u => exact h u rfl
  | error cause =>
    simp only
    split <;> exact Grown.refl t

theorem grown_makeFoldersFrom (t : Tree) (absolute : Bool) (names : List String) :
    Grown t (t.makeFoldersFrom absolute names).1 := by
  induction names with
  | nil => exact grown_settleFolder fun u hu => grown_makeFolder hu
  | cons name above ih =>
    unfold makeFoldersFrom
    simp only
    split
    · cases hm : t.makeFoldersFrom absolute above with
      | mk u failure =>
        rw [hm] at ih
        cases failure with
        | some f => exact ih
        | none => exact ih.trans (grown_settleFolder fun v hv => grown_makeFolder hv)
    · exact grown_settleFolder fun u hu => grown_makeFolder hu

/-- Creating folders changes no file, whether it succeeds or not. -/
theorem grown_makeFolders (t : Tree) (p : Path) : Grown t (t.makeFolders p).1 := by
  unfold makeFolders
  split_ifs
  · exact grown_makeFoldersFrom t p.absolute p.parts.reverse
  · exact Grown.refl t

/-- There is no folder in a place that cannot be made one. -/
theorem settleFolder_failed {p : Path} {outcome : Except SystemCause Tree} {failure : Failure}
    (h : t.settleFolder p outcome = (t', some failure)) (hwritable : p.isWritable = true)
    {place : Place} (hlocate : t'.locate p = .ok place) : t'.isFolderAt place = false := by
  cases outcome with
  | ok u => simp [settleFolder] at h
  | error cause =>
    have htree : t = t' := by
      refine Eq.trans ?_ (congrArg Prod.fst h)
      unfold settleFolder
      simp only
      split <;> rfl
    subst htree
    cases hfolder : t.isFolderAt place with
    | false => rfl
    | true =>
      simp [settleFolder, isFolder, look, hwritable, hlocate, entryAt?, hfolder, Except.map] at h

theorem makeFoldersFrom_failed {absolute : Bool} {names : List String} {failure : Failure}
    (h : t.makeFoldersFrom absolute names = (t', some failure))
    (hwritable : (⟨absolute, names.reverse⟩ : Path).isWritable = true) {place : Place}
    (hlocate : t'.locate ⟨absolute, names.reverse⟩ = .ok place) : t'.isFolderAt place = false := by
  induction names generalizing place failure with
  | nil => exact settleFolder_failed h hwritable hlocate
  | cons name above ih =>
    unfold makeFoldersFrom at h
    simp only at h
    split at h
    · cases hm : t.makeFoldersFrom absolute above with
      | mk u outcome =>
        rw [hm] at h
        cases outcome with
        | none => exact settleFolder_failed h hwritable hlocate
        | some f =>
          -- The folder above is missing still, so that the path cannot be followed.
          simp only [Prod.mk.injEq, Option.some.injEq] at h
          obtain ⟨rfl, -⟩ := h
          rw [List.reverse_cons] at hlocate hwritable
          obtain ⟨folder, hfolder, hthere⟩ := locate_append_singleton hlocate
          rw [ih hm (Path.isWritable_above hwritable) hfolder] at hthere
          exact absurd hthere (by decide)
    · exact settleFolder_failed h hwritable hlocate

/-- Where the folders above a file cannot be made, its path leads nowhere or to the root. -/
theorem makeFolders_failed {p : Path} {failure : Failure}
    (h : t.makeFolders p.parent = (t', some failure)) (hwritable : p.isWritable = true)
    {place : Place} (hlocate : t'.locate p = .ok place) : p.parts = [] := by
  rcases List.eq_nil_or_concat' p.parts with hnil | ⟨above, name, hparts⟩
  · exact hnil
  · obtain ⟨absolute, parts⟩ := p
    subst hparts
    have habove := Path.isWritable_above hwritable
    obtain ⟨folder, hfolder, hthere⟩ := locate_append_singleton hlocate
    rw [Path.parent, List.dropLast_concat, makeFolders, if_pos habove] at h
    rw [← List.reverse_reverse above] at habove hfolder
    rw [makeFoldersFrom_failed h habove hfolder] at hthere
    exact absurd hthere (by decide)

end Tree

end DesignLens.Workspace
