import DesignLens.Proofs.HintedTrees
import DesignLens.TypeHints.ClassicEditor
import Mathlib.Data.List.InsertIdx
import Mathlib.Data.List.ModifyLast

/-!
# Texts with hints

What is known about an editor is said of the one text at hand. If it reads back what it printed and
brings in no definition with the import, a text gets its hints once and for all (`add_settles`). If
it only puts in parts that import the general type, then without these parts and without the new
hints the tree of what it printed is the tree of the text (`add_keeps_program`).
-/

namespace DesignLens.TypeHints

open DesignLens.TypeHints.Part

/-! ## Parts that are put in -/

/-- A step from a part to one of its parts. -/
inductive Step where
  | before (index : Nat)
  | hint
  | after (index : Nat)

/-- A part to be put into a tree: the way to the part that gets it, whether it comes after the place
for the hint there, and how many parts stand before it. -/
structure Graft where
  way : List Step
  late : Bool
  index : Nat
  part : Part

namespace Part

/-- Changes the part at the end of a way; a way that cannot be gone changes nothing. -/
def modifyAt : List Step → (Part → Part) → Part → Part
  | [], f, t => f t
  | .before i :: way, f, .node kind before hint after =>
    .node kind (before.modify i (modifyAt way f)) hint after
  | .hint :: way, f, .node kind before hint after =>
    .node kind before (hint.map (modifyAt way f)) after
  | .after i :: way, f, .node kind before hint after =>
    .node kind before hint (after.modify i (modifyAt way f))

theorem modifyAt_modifyAt {f g : Part → Part} (h : ∀ t, g (f t) = t) (way : List Step) (t : Part) :
    modifyAt way g (modifyAt way f t) = t := by
  induction way generalizing t with
  | nil => exact h t
  | cons step way ih =>
    have hid : modifyAt way g ∘ modifyAt way f = id := funext ih
    obtain ⟨kind, before, hint, after⟩ := t
    cases step with
    | before i => rw [modifyAt, modifyAt, List.modify_modify_eq, hid, List.modify_id]
    | hint => rw [modifyAt, modifyAt, Option.map_map, hid, Option.map_id_fun, id]
    | after i => rw [modifyAt, modifyAt, List.modify_modify_eq, hid, List.modify_id]

/-- Changes the parts of a part on one side of its hint. -/
def modifySide (late : Bool) (f : List Part → List Part) : Part → Part
  | .node kind before hint after =>
    bif late then .node kind before hint (f after) else .node kind (f before) hint after

/-- Puts a part into a tree. -/
def insert (t : Part) (g : Graft) : Part :=
  modifyAt g.way (modifySide g.late fun ps => ps.insertIdx g.index g.part) t

/-- Takes a part out of a tree. -/
def remove (t : Part) (g : Graft) : Part :=
  modifyAt g.way (modifySide g.late fun ps => ps.eraseIdx g.index) t

/-- Puts parts into a tree, one after the other. -/
def insertAll (t : Part) (grafts : List Graft) : Part := grafts.foldl insert t

/-- Takes parts out of a tree, the last one first. -/
def removeAll (t : Part) (grafts : List Graft) : Part := grafts.foldr (fun g t => remove t g) t

theorem remove_insert (t : Part) (g : Graft) : (t.insert g).remove g = t := by
  refine modifyAt_modifyAt (fun t => ?_) g.way t
  obtain ⟨kind, before, hint, after⟩ := t
  cases g.late <;> simp [modifySide, List.eraseIdx_insertIdx_self]

theorem removeAll_insertAll (t : Part) (grafts : List Graft) :
    (t.insertAll grafts).removeAll grafts = t := by
  induction grafts generalizing t with
  | nil => rfl
  | cons g rest ih =>
    have hrest : removeAll (insertAll (t.insert g) rest) rest = t.insert g := ih (t.insert g)
    rw [insertAll, List.foldl_cons, removeAll, List.foldr_cons]
    exact (congrArg (remove · g) hrest).trans (remove_insert t g)

def importsOther (p : Part) : Bool :=
  match p.kind with
  | .imported package name => package != "typing" || name != "Any"
  | _ => false

/-- Nothing in a part defines anything or imports anything but the general type. -/
def ImportsOnlyAny (p : Part) : Prop :=
  ∀ n ∈ p.nodes, n.signature? = none ∧ n.importsOther = false

instance (p : Part) : Decidable p.ImportsOnlyAny :=
  inferInstanceAs (Decidable (∀ n ∈ p.nodes, n.signature? = none ∧ n.importsOther = false))

end Part

/-! ## The course of an edit -/

/-- A text that is changed: its tree, the tree with hints, and the tree that is printed. -/
structure Editor.Edits (e : Editor) (source : String) (old hinted new : Part) : Prop where
  parsed : e.parse source = some old
  visited : (visit old).run false = .ok (hinted, true)
  imported : e.addImport hinted = .ok new

theorem run_visit {t h : Part} {changed : Bool} (hrun : (visit t).run false = .ok (h, changed)) :
    t.allows = true ∧ h = t.hinted ∧ changed = t.isOpen := by
  rw [visit_eq] at hrun
  cases hallows : t.allows with
  | false =>
    rw [hallows] at hrun
    exact nomatch hrun
  | true =>
    rw [hallows] at hrun
    obtain ⟨rfl, rfl⟩ := Prod.mk.inj (Except.ok.inj hrun)
    exact ⟨rfl, rfl, Bool.false_or _⟩

theorem not_complete_of_isOpen {t : Part} (h : t.isOpen = true) : ¬t.Complete := by
  obtain ⟨n, hn, hwants⟩ := List.any_eq_true.mp h
  intro hcomplete
  rw [(hcomplete n hn).1] at hwants
  exact nomatch hwants

theorem complete_of_not_isOpen {t : Part} (hallows : t.allows = true) (h : t.isOpen = false) :
    t.Complete := by
  have hself : t.hinted = t := hinted_eq_self fun n hn =>
    Bool.eq_false_iff.mpr (List.any_eq_false.mp h n hn)
  exact hself ▸ complete_hinted hallows

namespace Editor

variable {e : Editor} {source out : String} {changed : Bool}

/-- The three ways in which adding hints comes to a result. -/
theorem add_cases (h : e.add source = .ok (changed, out)) :
    (e.parse source = none ∧ changed = false ∧ out = source) ∨
    (∃ t, e.parse source = some t ∧ t.Complete ∧ changed = false ∧ out = source) ∨
    ∃ t t' u, e.Edits source t t' u ∧ changed = true ∧ out = e.print u := by
  unfold add at h
  cases hparse : e.parse source with
  | none =>
    simp only [hparse, Except.ok.injEq, Prod.mk.injEq] at h
    exact .inl ⟨rfl, h.1.symm, h.2.symm⟩
  | some t =>
    simp only [hparse] at h
    cases hrun : (visit t).run false with
    | error failure =>
      rw [hrun] at h
      exact nomatch h
    | ok r =>
      obtain ⟨t', marked⟩ := r
      rw [hrun] at h
      obtain ⟨hallows, -, hmarked⟩ := run_visit hrun
      cases marked with
      | false =>
        obtain ⟨rfl, rfl⟩ := Prod.mk.inj (Except.ok.inj h)
        exact .inr (.inl ⟨t, rfl, complete_of_not_isOpen hallows hmarked.symm, rfl, rfl⟩)
      | true =>
        simp only [bind, Except.bind, if_true] at h
        cases himport : e.addImport t' with
        | error failure =>
          rw [himport] at h
          exact nomatch h
        | ok u =>
          rw [himport] at h
          obtain ⟨rfl, rfl⟩ := Prod.mk.inj (Except.ok.inj h)
          exact .inr (.inr ⟨t, t', u, ⟨hparse, hrun, himport⟩, rfl, rfl⟩)

theorem add_of_not_parsed (h : e.parse source = none) : e.add source = .ok (false, source) := by
  rw [add, h]

theorem add_of_complete {t : Part} (hparse : e.parse source = some t) (h : t.Complete) :
    e.add source = .ok (false, source) := by
  have hrun : (visit t).run false = .ok (t, false) := by
    rw [h.visit_eq]
    rfl
  simp only [add, hparse, hrun]
  rfl

theorem addRepeatedly_of_settled (h : e.add source = .ok (false, source)) (n : Nat) :
    e.addRepeatedly n source = .ok (List.replicate n (false, source)) := by
  induction n with
  | zero => rfl
  | succ n ih =>
    simp only [addRepeatedly, h, ih, bind, Except.bind]
    rfl

namespace Edits

variable {old hinted new : Part}

theorem not_complete (h : e.Edits source old hinted new) : ¬old.Complete :=
  not_complete_of_isOpen (run_visit h.visited).2.2.symm

theorem complete (h : e.Edits source old hinted new) : hinted.Complete := by
  obtain ⟨hallows, rfl, -⟩ := run_visit h.visited
  exact complete_hinted hallows

theorem onlyHinted (h : e.Edits source old hinted new) : OnlyHinted old hinted := by
  obtain ⟨-, rfl, -⟩ := run_visit h.visited
  exact onlyHinted_hinted old

end Edits

end Editor

/-! ## A method without hints -/

open Source in
/-- A text is read, and something found out about its program, by evaluation. -/
theorem exists_editable {text : String} {cs : List Char} (P : Program → Prop) [DecidablePred P]
    (htext : text.toList = cs) (hnull : cs.contains (Char.ofNat 0) = false)
    (h : (settle (parseModule grammar) (lex (Layout.ofText text).chars 1)).toOption.any
      (fun m => (Program.mk (Layout.ofText text) m).isClassic &&
        decide (P ⟨Layout.ofText text, m⟩)) = true) :
    ∃ p, editable? text = some p ∧ P p := by
  rw [← htext] at hnull
  cases hsettle : settle (parseModule grammar) (lex (Layout.ofText text).chars 1) with
  | error verdict =>
    rw [hsettle] at h
    cases h
  | ok m =>
    rw [hsettle] at h
    obtain ⟨hclassic, hP⟩ := (Bool.and_eq_true _ _).mp h
    have hparse : (Program.parse text).toOption = some ⟨Layout.ofText text, m⟩ := by
      simp only [Program.parse, hnull, hsettle]
      rfl
    exact ⟨_, Option.filter_eq_some_iff.mpr ⟨hparse, hclassic⟩, of_decide_eq_true hP⟩

def plainMethod : String := "class A:\n  def m(self, *a, k=lambda cls: 1): pass\n"

def hintedMethod : String :=
  "class A:\n  def m(self, *a: Any, k: Any=lambda cls: 1) -> Any: pass\n"

def importedMethod : String :=
  "from typing import Any\n\nclass A:\n  def m(self, *a: Any, k: Any=lambda cls: 1) -> Any: pass\n"

/-- The tree of the method with hints. -/
def hintedTree : Part :=
  .node (.other "Module")
    (phrase ['c', 'l', 'a', 's', 's', ' ', 'A', ':', '\n', ' ', ' '] ++
      [.node (.function "m")
        (phrase ['d', 'e', 'f', ' ', 'm', '('] ++
          [.node (.param "self") (phrase ['s', 'e', 'l', 'f']) none []] ++
          phrase [',', ' ', '*'] ++
          [.node (.param "a") (phrase ['a']) (some anyHint) []] ++
          phrase [',', ' '] ++
          [.node (.param "k") (phrase ['k']) (some anyHint) []] ++
          phrase ['='] ++
          [.node .lambda
            [.node .parameters
              (phrase ['l', 'a', 'm', 'b', 'd', 'a', ' '] ++
                [.node (.param "cls") (phrase ['c', 'l', 's']) none []] ++
                phrase [':', ' ']) none [],
              .node (.text ['1']) [] none []] none []] ++
          phrase [')'])
        (some anyHint) (phrase [':', ' ', 'p', 'a', 's', 's'])] ++
      phrase ['\n']) none []

/-- The words of an import of the general type, and an empty line after it. -/
def importParts : List Part :=
  phrase ['f', 'r', 'o', 'm', ' ', 't', 'y', 'p', 'i', 'n', 'g', ' ',
      'i', 'm', 'p', 'o', 'r', 't', ' '] ++
    [.node (.imported "typing" "Any") (phrase ['A', 'n', 'y']) none []] ++ phrase ['\n', '\n']

/-- Parts at the start of a tree. -/
def graftsOf (ps : List Part) : List Graft := ps.zipIdx.map fun p => ⟨[], false, p.2, p.1⟩

def importedTree : Part := hintedTree.insertAll (graftsOf importParts)

open Source in
theorem editable_plainMethod : ∃ p, editable? plainMethod = some p ∧ (treeOf p).allows = true ∧
    (treeOf p).isOpen = true ∧ (treeOf p).hinted = hintedTree := by
  have hlist : plainMethod.toList = _ := String.toList_ofList
  refine exists_editable _ hlist (by decide) ?_
  rw [Layout.ofText, hlist]
  decide +kernel

open Source in
theorem editable_hintedMethod : ∃ p, editable? hintedMethod = some p ∧
    TypeHints.insertAll (importInsertions p) p.layout.written = importedMethod.toList := by
  have hlist : hintedMethod.toList = _ := String.toList_ofList
  have hout : importedMethod.toList = _ := String.toList_ofList
  refine exists_editable _ hlist (by decide) ?_
  rw [Layout.ofText, hlist, hout]
  decide +kernel

open Source in
theorem editable_importedMethod : ∃ p, editable? importedMethod = some p ∧
    treeOf p = importedTree := by
  have hlist : importedMethod.toList = _ := String.toList_ofList
  refine exists_editable _ hlist (by decide) ?_
  rw [Layout.ofText, hlist]
  decide +kernel

theorem written_methods :
    hintedTree.written = hintedMethod ∧ importedTree.written = importedMethod := by
  have hhinted : hintedMethod.toList = _ := String.toList_ofList
  have himported : importedMethod.toList = _ := String.toList_ofList
  rw [Part.written, Part.written, ← String.toList_inj, ← String.toList_inj, String.toList_ofList,
    String.toList_ofList, hhinted, himported]
  decide +kernel

namespace Editor

theorem parse_importedMethod : classic.parse importedMethod = some importedTree := by
  obtain ⟨p, hp, htree⟩ := editable_importedMethod
  simp only [classic, hp, Option.map_some, htree]

theorem addImport_hintedTree : classic.addImport hintedTree = .ok importedTree := by
  obtain ⟨p, hp, hinsert⟩ := editable_hintedMethod
  obtain ⟨q, hq, htree⟩ := editable_importedMethod
  have hwith : withImport hintedTree = some importedTree := by
    simp only [withImport, written_methods.1, hp, hinsert, String.ofList_toList, hq, bind,
      Option.bind, htree]
    rfl
  simp only [classic, hwith, Option.getD_some]

theorem edits_plainMethod : ∃ old, classic.Edits plainMethod old hintedTree importedTree := by
  obtain ⟨p, hp, hallows, hopen, hhinted⟩ := editable_plainMethod
  refine ⟨treeOf p, by simp only [classic, hp, Option.map_some], ?_, addImport_hintedTree⟩
  rw [visit_eq, hallows, hopen, hhinted]
  rfl

theorem eq_of_edits_plainMethod {old hinted new : Part}
    (h : classic.Edits plainMethod old hinted new) : hinted = hintedTree ∧ new = importedTree := by
  obtain ⟨old', h'⟩ := edits_plainMethod
  obtain rfl := Option.some.inj (h.parsed.symm.trans h'.parsed)
  obtain rfl := congrArg Prod.fst (Except.ok.inj (h.visited.symm.trans h'.visited))
  exact ⟨rfl, Except.ok.inj (h.imported.symm.trans h'.imported)⟩

theorem add_plainMethod : classic.add plainMethod = .ok (true, importedMethod) := by
  obtain ⟨old, h⟩ := edits_plainMethod
  simp only [add, h.parsed, h.visited, h.imported, bind, Except.bind, if_true]
  exact congrArg (fun out => Except.ok (true, out)) written_methods.2

/-! ## Hints are added once -/

variable {e : Editor}

/-- What is relied on to add hints to a text once and for all: what is printed is read back, and
the import brings in no function, no parameter and no lambda. -/
structure ReadsBack (e : Editor) (hinted new : Part) : Prop where
  parsed : e.parse (e.print new) = some new
  signatures : ∀ s ∈ new.signatures, s ∈ hinted.signatures

theorem ReadsBack.complete {hinted new : Part} (h : e.ReadsBack hinted new)
    (hhinted : hinted.Complete) : new.Complete :=
  complete_iff.mpr fun s hs => complete_iff.mp hhinted s (h.signatures s hs)

/-- Where hints can be added at all, once is enough: the text that comes of it is left alone from
then on, and it is said to be changed exactly if it differs from the text before. If that one can be
read so can this one, and no parameter but `self` and `cls` and no function but `__init__` is
without a hint in it, at any depth. -/
theorem add_settles (e : Editor) (source out : String) (changed : Bool)
    (hback : ∀ old hinted new, e.Edits source old hinted new → e.ReadsBack hinted new)
    (h : e.add source = .ok (changed, out)) :
    e.add out = .ok (false, out) ∧
      (∀ n, e.addRepeatedly n out = .ok (List.replicate n (false, out))) ∧
      (changed = false ↔ out = source) ∧
      ∀ old, e.parse source = some old → ∃ new, e.parse out = some new ∧ new.Complete := by
  rcases add_cases h with ⟨hnone, rfl, rfl⟩ | ⟨t, hparse, hcomplete, rfl, rfl⟩ |
    ⟨old, hinted, new, hedits, rfl, rfl⟩
  · have hsettled := add_of_not_parsed hnone
    refine ⟨hsettled, addRepeatedly_of_settled hsettled, iff_of_true rfl rfl, fun old hold => ?_⟩
    exact nomatch hnone.symm.trans hold
  · have hsettled := add_of_complete hparse hcomplete
    exact ⟨hsettled, addRepeatedly_of_settled hsettled, iff_of_true rfl rfl,
      fun _ _ => ⟨t, hparse, hcomplete⟩⟩
  · have hreads := hback _ _ _ hedits
    have hcomplete := hreads.complete hedits.complete
    have hsettled := add_of_complete hreads.parsed hcomplete
    refine ⟨hsettled, addRepeatedly_of_settled hsettled, iff_of_false (by simp) ?_,
      fun _ _ => ⟨new, hreads.parsed, hcomplete⟩⟩
    -- The text before has a tree in which a hint is missing.
    intro hsame
    have hparsed := hreads.parsed
    rw [hsame, hedits.parsed] at hparsed
    exact hedits.not_complete (Option.some.inj hparsed ▸ hcomplete)

theorem readsBack_plainMethod (old hinted new : Part)
    (h : classic.Edits plainMethod old hinted new) : classic.ReadsBack hinted new := by
  obtain ⟨rfl, rfl⟩ := eq_of_edits_plainMethod h
  refine ⟨?_, by decide +kernel⟩
  have hprint : classic.print importedTree = importedMethod := written_methods.2
  rw [hprint, parse_importedMethod]

theorem add_settles_method :
    (∀ old hinted new, classic.Edits plainMethod old hinted new → classic.ReadsBack hinted new) ∧
      classic.add plainMethod = .ok (true, importedMethod) ∧
      classic.add importedMethod = .ok (false, importedMethod) ∧
      ∃ new, classic.parse importedMethod = some new ∧ new.Complete := by
  obtain ⟨hsettled, -, -, hcomplete⟩ :=
    add_settles classic plainMethod importedMethod true readsBack_plainMethod add_plainMethod
  obtain ⟨old, hedits⟩ := edits_plainMethod
  exact ⟨readsBack_plainMethod, add_plainMethod, hsettled, hcomplete old hedits.parsed⟩

/-! ## Nothing but hints is added -/

/-- A tree is another one into which an import of the general type was put. -/
def GetsImport (hinted new : Part) : Prop :=
  ∃ grafts : List Graft, new = hinted.insertAll grafts ∧ ∀ g ∈ grafts, g.part.ImportsOnlyAny

/-- A text that is changed is printed from a tree that differs from its own tree in two things: in
parts that import the general type, and in general types as hints of parameters other than `self`
and `cls` and of functions other than `__init__` that had none. Without the parts it is the tree
with hints, and without the new hints that is the tree of the text before. -/
theorem add_keeps_program (e : Editor) (source out : String)
    (himport : ∀ old hinted new, e.Edits source old hinted new → GetsImport hinted new)
    (h : e.add source = .ok (true, out)) :
    ∃ old hinted new grafts, e.parse source = some old ∧ out = e.print new ∧
      new = hinted.insertAll grafts ∧ (∀ g ∈ grafts, g.part.ImportsOnlyAny) ∧
      new.removeAll grafts = hinted ∧ OnlyHinted old hinted ∧ unhint old hinted = old := by
  rcases add_cases h with ⟨-, hfalse, -⟩ | ⟨t, -, -, hfalse, -⟩ |
    ⟨old, hinted, new, hedits, -, rfl⟩
  · exact nomatch hfalse
  · exact nomatch hfalse
  · obtain ⟨grafts, rfl, hgrafts⟩ := himport _ _ _ hedits
    exact ⟨old, hinted, _, grafts, hedits.parsed, rfl, rfl, hgrafts,
      removeAll_insertAll hinted grafts, hedits.onlyHinted, hedits.onlyHinted.unhint_eq⟩

theorem getsImport_plainMethod (old hinted new : Part)
    (h : classic.Edits plainMethod old hinted new) : GetsImport hinted new := by
  obtain ⟨rfl, rfl⟩ := eq_of_edits_plainMethod h
  exact ⟨graftsOf importParts, rfl, by decide +kernel⟩

theorem add_keeps_program_method :
    (∀ old hinted new, classic.Edits plainMethod old hinted new → GetsImport hinted new) ∧
      classic.add plainMethod = .ok (true, importedMethod) ∧
      ∃ old hinted new grafts, classic.parse plainMethod = some old ∧
        importedMethod = classic.print new ∧ new.removeAll grafts = hinted ∧
        OnlyHinted old hinted ∧ unhint old hinted = old := by
  obtain ⟨old, hinted, new, grafts, hparse, hprint, -, -, hremove, honly, hunhint⟩ :=
    add_keeps_program classic plainMethod importedMethod getsImport_plainMethod add_plainMethod
  exact ⟨getsImport_plainMethod, add_plainMethod, old, hinted, new, grafts, hparse, hprint,
    hremove, honly, hunhint⟩

end Editor

end DesignLens.TypeHints
