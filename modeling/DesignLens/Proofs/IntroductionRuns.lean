import DesignLens.Proofs.IntroductionFiles
import Mathlib.Data.List.Dedup
import Mathlib.Data.List.Perm.Subperm

/-!
# Runs of introductions

Requests are met one after another on the same file. What the file defines only grows, and once the
scaffold of a name is written, what it defines is there for good. Every later request for the name,
in whatever spelling, then finds it present. So a file is written at most once for each name.

It is taken for granted that the code of a scaffold is a program that defines something, and that a
program below a program is a program that defines what the two define.
-/

namespace DesignLens.Scaffold

open Workspace Text Source

/-! ## Runs -/

/-- A request, with the index and the complaints of the moment. -/
structure Call where
  index : String → Option (List IndexEntry)
  complaints : String → Complaints
  request : Request

def Workshop.during (w : Workshop) (c : Call) : Workshop :=
  { w with index := c.index, complaints := c.complaints }

/-- One request of a run and what came of it. -/
structure Step where
  before : Tree
  call : Call
  after : Tree
  answer : Except Failure Answer

def Workshop.step (w : Workshop) (t : Tree) (c : Call) : Step :=
  let outcome := (w.during c).introduce t c.request
  ⟨t, c, outcome.1, outcome.2⟩

/-- Meets requests one after another. -/
def Workshop.run (w : Workshop) : Tree → List Call → List Step
  | _, [] => []
  | t, c :: rest => w.step t c :: w.run (w.step t c).after rest

theorem run_nil (w : Workshop) (t : Tree) : w.run t [] = [] := rfl

theorem run_cons (w : Workshop) (t : Tree) (c : Call) (rest : List Call) :
    w.run t (c :: rest) = w.step t c :: w.run (w.step t c).after rest := rfl

theorem step_before (w : Workshop) (t : Tree) (c : Call) : (w.step t c).before = t := rfl

theorem draft_during (w : Workshop) (c : Call) (r : Request) : (w.during c).draft r = w.draft r :=
  rfl

def Call.canonical (c : Call) : String := Naming.canonical (c.request.name.getD "")

def Step.isDone (s : Step) : Bool :=
  match s.answer with
  | .ok (.done _) => true
  | _ => false

theorem isDone_iff {s : Step} : s.isDone = true ↔ ∃ e, s.answer = .ok (.done e) := by
  unfold Step.isDone
  constructor
  · intro h
    split at h
    · rename_i e he
      exact ⟨e, he⟩
    · exact nomatch h
  · rintro ⟨e, he⟩
    rw [he]

theorem isDone_of_introduce {w : Workshop} {t t' : Tree} {c : Call} {e : Effect}
    (h : (w.during c).introduce t c.request = (t', .ok (.done e))) : (w.step t c).isDone = true :=
  isDone_iff.mpr ⟨e, congrArg Prod.snd h⟩

/-- The definitions were there already, and nothing happened. -/
def Step.IsIdle (s : Step) : Prop := (∃ e, s.answer = .ok (.present e)) ∧ s.after = s.before

/-- The text of a file; none if it cannot be read. -/
def textAt (t : Tree) (p : Path) : Option String := (existing t p).toOption.join

/-- The names of the functions and classes at the top of a file. -/
def namesAt (t : Tree) (p : Path) : List String := ((textAt t p).map topLevelNames).getD []

theorem textAt_eq_some {t : Tree} {p : Path} {text : String} :
    textAt t p = some text ↔ existing t p = .ok (some text) := by
  unfold textAt
  cases existing t p with
  | error failure => simp [Except.toOption]
  | ok old => cases old <;> simp [Except.toOption]

theorem textAt_of_existing {t : Tree} {p : Path} {old : Option String}
    (h : existing t p = .ok old) : textAt t p = old := by
  unfold textAt
  rw [h]
  cases old <;> rfl

/-! ## What is taken for granted -/

/-- If two texts are programs, the second one below the first is a program and defines what the two
define. -/
def Joins (a b : String) : Prop :=
  Parses a → Parses b → Parses (merged (some a) b) ∧
    ∀ name, name ∈ topLevelNames (merged (some a) b) ↔
      name ∈ topLevelNames a ∨ name ∈ topLevelNames b

/-- What is taken for granted about a draft for a file with a text. -/
structure Fits (w : Workshop) (d : Draft) (old : Option String) : Prop where
  code : Parses d.code ∧ topLevelNames d.code ≠ []
  heading : ∀ size heading, w.heading d size = .ok heading → Joins heading d.code
  below : ∀ text scaffold, old = some text → w.compose d text = .ok scaffold →
    w.isPresent scaffold text = false → Joins text scaffold

/-! ## Scaffolds and the texts that they are put into -/

section
variable {w : Workshop} {r : Request} {d : Draft} {old : Option String} {text scaffold : String}

theorem Workshop.Plain.during (hw : w.Plain) (c : Call) : (w.during c).Plain :=
  ⟨hw.names, hw.generators, hw.entries, hw.references, hw.engine⟩

/-- A scaffold is a program that defines what its code defines, whatever its header says. -/
theorem Fits.scaffold_defines (hw : w.Plain) (hd : w.draft r = .ok d) (hfits : Fits w d old)
    (hc : w.compose d text = .ok scaffold) :
    Parses scaffold ∧ ∀ name, name ∈ topLevelNames scaffold ↔ name ∈ topLevelNames d.code := by
  obtain ⟨heading, hheading, rfl⟩ := compose_eq_ok.mp hc
  obtain ⟨_, hsame, hdocstring⟩ := hw.heading hd _
  obtain rfl := Except.ok.inj (hheading.symm.trans hsame)
  obtain ⟨hplain, hne⟩ := hw.plainCode hd
  obtain ⟨hparses, hnothing⟩ := hdocstring.parses
  obtain ⟨hjoined, hnames⟩ := hfits.heading _ heading hheading hparses hfits.code.1
  obtain ⟨hscaffold, hdefined⟩ := parses_scaffold hdocstring hplain hne
  refine ⟨hscaffold.mp hjoined, fun name => ?_⟩
  rw [← hdefined, hnames name, hnothing]
  simp

theorem return_not_mem_scaffold (hw : w.Plain) (hd : w.draft r = .ok d)
    (hc : w.compose d text = .ok scaffold) : '\r' ∉ scaffold.toList := by
  obtain ⟨heading, hheading, rfl⟩ := compose_eq_ok.mp hc
  obtain ⟨_, hsame, hdocstring⟩ := hw.heading hd _
  obtain rfl := Except.ok.inj (hheading.symm.trans hsame)
  exact hdocstring.noReturn_scaffold (hw.plainCode hd).1

/-- What is read from a file has plain line ends. -/
theorem return_not_mem_existing {t : Tree} {p : Path} (h : existing t p = .ok (some text)) :
    '\r' ∉ text.toList := by
  obtain ⟨-, -, -, c, -, hread⟩ := existing_eq_some.mp h
  cases c with
  | bytes all fault => exact nomatch hread
  | text s =>
    obtain rfl := Except.ok.inj hread
    rw [String.toList_ofList]
    exact return_not_mem_plainNewlines s.toList

theorem return_not_mem_merged (hold : ∀ text, old = some text → '\r' ∉ text.toList)
    (hscaffold : '\r' ∉ scaffold.toList) : '\r' ∉ (merged old scaffold).toList := by
  cases old with
  | none => exact hscaffold
  | some text =>
    obtain ⟨blanks, -, htext⟩ := trimRight_append_blanks text
    have htrimmed : '\r' ∉ (trimRight text).toList :=
      fun h => hold text rfl (htext ▸ List.mem_append_left blanks h)
    unfold merged
    simp only [String.toList_append, List.mem_append, not_or]
    exact ⟨⟨⟨htrimmed, by decide⟩, hscaffold⟩, by decide⟩

/-- What is defined in a text is present. -/
theorem isPresent_of_subset (hne : topLevelNames scaffold ≠ [])
    (h : topLevelNames scaffold ⊆ topLevelNames text) : w.isPresent scaffold text = true := by
  unfold Workshop.isPresent
  simp only [Bool.or_eq_true, Bool.and_eq_true, List.all_eq_true, List.contains_iff_mem]
  exact Or.inl ⟨by simpa using hne, fun name hname => h hname⟩

/-- A file with a scaffold put into it is a program that defines what was there and what the code of
the scaffold defines. -/
theorem Fits.merged_defines (hw : w.Plain) (hd : w.draft r = .ok d) (hfits : Fits w d old)
    (hold : ∀ text, old = some text → Parses text)
    (hc : w.compose d (old.getD "") = .ok scaffold)
    (habsent : w.isPresent scaffold (old.getD "") = false) :
    Parses (merged old scaffold) ∧ ∀ name, name ∈ topLevelNames (merged old scaffold) ↔
      name ∈ (old.map topLevelNames).getD [] ∨ name ∈ topLevelNames d.code := by
  obtain ⟨hparses, hnames⟩ := hfits.scaffold_defines hw hd hc
  cases old with
  | none => exact ⟨hparses, fun name => by simpa [merged] using hnames name⟩
  | some text =>
    obtain ⟨hjoined, hunion⟩ := hfits.below text scaffold rfl hc habsent (hold text rfl) hparses
    refine ⟨hjoined, fun name => ?_⟩
    rw [hunion name, hnames name]
    rfl

end

/-! ## Steps -/

section
variable {w : Workshop} {t t' : Tree} {r : Request} {d : Draft} {answer : Except Failure Answer}

/-- What can be read of a file is a program. -/
def HoldsProgram (t : Tree) (p : Path) : Prop := ∀ text, textAt t p = some text → Parses text

/-- Nothing is seen of a file that cannot be written, before or after the attempt. -/
theorem textAt_of_put_failed {p : Path} {text : String} {failure : Failure}
    (h : put t p text = (t', some failure)) : textAt t p = none ∧ textAt t' p = none := by
  have hafter : ∀ seen, existing t' p ≠ .ok (some seen) := existing_ne_some_of_put_failed h
  obtain ⟨-, -, hgrown⟩ | ⟨hnone, -⟩ := put_cases h
  · refine ⟨Option.eq_none_iff_forall_ne_some.mpr fun seen hseen => ?_,
      Option.eq_none_iff_forall_ne_some.mpr fun seen hseen => ?_⟩
    · exact hafter seen (existing_of_grown hgrown (textAt_eq_some.mp hseen))
    · exact hafter seen (textAt_eq_some.mp hseen)
  · exact nomatch hnone

/-- A step keeps what a file defines; if it is done, what the scaffold defines is there after it. -/
theorem Introduction.grows (h : Introduction w t r t' answer) (hw : w.Plain)
    (hwrite : r.dryRun = false) (hstart : HoldsProgram t r.target)
    (hfits : ∀ d, w.draft r = .ok d → Fits w d (textAt t r.target)) :
    HoldsProgram t' r.target ∧ namesAt t r.target ⊆ namesAt t' r.target ∧
      ∀ e, answer = .ok (.done e) →
        ∃ d, w.draft r = .ok d ∧ topLevelNames d.code ⊆ namesAt t' r.target := by
  cases h with
  | refused hd =>
    obtain ⟨message, name, rfl⟩ := draft_eq_error hd
    exact ⟨hstart, List.Subset.refl _, by simp⟩
  | unreadable hd ho => exact ⟨hstart, List.Subset.refl _, by simp⟩
  | headless hd ho hc => exact ⟨hstart, List.Subset.refl _, by simp⟩
  | present hd ho hc hp => exact ⟨hstart, List.Subset.refl _, by simp⟩
  | trial hd ho hc hp hdry => exact absurd hdry (by simp [hwrite])
  | failed hd ho hc hp hdry hput =>
    obtain ⟨hbefore, hafter⟩ := textAt_of_put_failed hput
    refine ⟨fun text htext => ?_, ?_, by simp⟩
    · rw [hafter] at htext
      exact nomatch htext
    · unfold namesAt
      rw [hbefore]
      exact List.nil_subset _
  | @written d old scaffold t' hd ho hc hp hdry hput =>
    have hold : textAt t r.target = old := textAt_of_existing ho
    have hseen : textAt t' r.target = some (merged old scaffold) := by
      refine textAt_eq_some.mpr (existing_of_put hput ?_)
      refine return_not_mem_merged (fun text htext => ?_) (return_not_mem_scaffold hw hd hc)
      exact return_not_mem_existing (htext ▸ ho)
    have hfit := hfits d hd
    unfold HoldsProgram at hstart
    rw [hold] at hfit hstart
    obtain ⟨hparses, hnames⟩ := hfit.merged_defines hw hd hstart hc hp
    refine ⟨fun text htext => ?_, fun name hname => ?_, fun e _ => ⟨d, hd, fun name hname => ?_⟩⟩
    · rw [hseen] at htext
      exact Option.some.inj htext ▸ hparses
    · unfold namesAt at hname ⊢
      rw [hold] at hname
      rw [hseen]
      exact (hnames name).mpr (Or.inl hname)
    · unfold namesAt
      rw [hseen]
      exact (hnames name).mpr (Or.inr hname)

theorem exists_text_of_names {p : Path} {names : List String} (hne : names ≠ [])
    (h : names ⊆ namesAt t p) :
    ∃ text, existing t p = .ok (some text) ∧ names ⊆ topLevelNames text := by
  unfold namesAt at h
  cases htext : textAt t p with
  | none =>
    rw [htext] at h
    exact absurd (List.subset_nil.mp h) hne
  | some text =>
    rw [htext] at h
    exact ⟨text, textAt_eq_some.mp htext, h⟩

/-- A step finds present what its scaffold would define. -/
theorem introduce_idle (hw : w.Plain) (hd : w.draft r = .ok d)
    (hfits : Fits w d (textAt t r.target))
    (hnames : topLevelNames d.code ⊆ namesAt t r.target) :
    ∃ e, w.introduce t r = (t, .ok (.present e)) := by
  obtain ⟨text, htext, hdefined⟩ := exists_text_of_names hfits.code.2 hnames
  obtain ⟨heading, hheading, -⟩ :=
    hw.heading hd (Size.ofText (if text.isEmpty then d.code else text))
  have hcompose : w.compose d text = .ok (heading ++ "\n\n" ++ d.code) :=
    compose_eq_ok.mpr ⟨heading, hheading, rfl⟩
  have hpresent : w.isPresent (heading ++ "\n\n" ++ d.code) text = true := by
    obtain ⟨-, hsame⟩ := hfits.scaffold_defines hw hd hcompose
    refine isPresent_of_subset (fun hnil => hfits.code.2 ?_) fun name hname => ?_
    · exact List.eq_nil_iff_forall_not_mem.mpr fun name hname =>
        absurd ((hsame name).mpr hname) (hnil ▸ List.not_mem_nil)
    · exact hdefined ((hsame name).mp hname)
  refine ⟨r.nothingToDo d (some text), ?_⟩
  unfold Workshop.introduce Workshop.place
  simp only [hd, htext, Option.getD_some, hcompose, hpresent, if_true]

end

/-! ## What a run does -/

section
variable {w : Workshop} {t : Tree} {p : Path} {calls : List Call}

/-- All calls are about one file and are meant. -/
def Meant (p : Path) (calls : List Call) : Prop :=
  ∀ c ∈ calls, c.request.target = p ∧ c.request.dryRun = false

/-- Everything that a run comes across fits. -/
def AllFit (w : Workshop) (p : Path) (steps : List Step) : Prop :=
  ∀ s ∈ steps, ∀ d, w.draft s.call.request = .ok d → Fits (w.during s.call) d (textAt s.before p)

/-- What one step of a run keeps. -/
theorem step_grows (hw : w.Plain) {c : Call} (htarget : c.request.target = p)
    (hwrite : c.request.dryRun = false) (hstart : HoldsProgram t p)
    (hfits : ∀ d, w.draft c.request = .ok d → Fits (w.during c) d (textAt t p)) :
    HoldsProgram (w.step t c).after p ∧ namesAt t p ⊆ namesAt (w.step t c).after p ∧
      ((w.step t c).isDone = true → ∃ d, w.draft c.request = .ok d ∧
        topLevelNames d.code ⊆ namesAt (w.step t c).after p) := by
  subst htarget
  obtain ⟨hafter, hgrows, hdone⟩ := (introduce_introduction (w.during c) t c.request).grows
    (hw.during c) hwrite hstart hfits
  refine ⟨hafter, hgrows, fun hstep => ?_⟩
  obtain ⟨e, he⟩ := isDone_iff.mp hstep
  exact hdone e he

/-- Once what a scaffold defines is there, all requests for its name are idle. -/
theorem run_idle (hw : w.Plain) (hmeant : Meant p calls) (hstart : HoldsProgram t p)
    (hfits : AllFit w p (w.run t calls)) {r : Request} {d : Draft} (hd : w.draft r = .ok d)
    (hnames : topLevelNames d.code ⊆ namesAt t p) :
    ∀ s ∈ w.run t calls, s.call.canonical = Naming.canonical (r.name.getD "") → s.IsIdle := by
  induction calls generalizing t with
  | nil => exact List.forall_mem_nil _
  | cons c rest ih =>
    obtain ⟨⟨htarget, hwrite⟩, hmeant⟩ := List.forall_mem_cons.mp hmeant
    obtain ⟨hfit, hfits⟩ := List.forall_mem_cons.mp hfits
    obtain ⟨hafter, hgrows, -⟩ := step_grows hw htarget hwrite hstart hfit
    refine List.forall_mem_cons.mpr ⟨fun hname => ?_, ?_⟩
    · have hdraft : w.draft c.request = .ok d := hw.draft_congr hname hd
      subst htarget
      obtain ⟨e, hidle⟩ := introduce_idle (hw.during c) hdraft (hfit d hdraft) hnames
      exact ⟨⟨e, congrArg Prod.snd hidle⟩, congrArg Prod.fst hidle⟩
    · exact ih hmeant hafter hfits (fun name hname => hgrows (hnames hname))

/-- What a run does to a file: what is defined in it never gets less, a step that is done is the
only one that changes files, and after it all requests for the same name are idle. -/
structure WritesOnce (p : Path) (steps : List Step) : Prop where
  grows : ∀ s ∈ steps, namesAt s.before p ⊆ namesAt s.after p
  unchanged : ∀ s ∈ steps, s.isDone = false →
    ∀ place, s.after.fileAt? place = s.before.fileAt? place
  idle : steps.Pairwise fun s s' =>
    s.isDone = true → s'.call.canonical = s.call.canonical → s'.IsIdle
  writes : (steps.filter Step.isDone).length ≤ (steps.map fun s => s.call.canonical).dedup.length

theorem run_grows (hw : w.Plain) (hmeant : Meant p calls) (hstart : HoldsProgram t p)
    (hfits : AllFit w p (w.run t calls)) :
    ∀ s ∈ w.run t calls, namesAt s.before p ⊆ namesAt s.after p := by
  induction calls generalizing t with
  | nil => exact List.forall_mem_nil _
  | cons c rest ih =>
    obtain ⟨⟨htarget, hwrite⟩, hmeant⟩ := List.forall_mem_cons.mp hmeant
    obtain ⟨hfit, hfits⟩ := List.forall_mem_cons.mp hfits
    obtain ⟨hafter, hgrows, -⟩ := step_grows hw htarget hwrite hstart hfit
    exact List.forall_mem_cons.mpr ⟨hgrows, ih hmeant hafter hfits⟩

theorem run_pairwise_idle (hw : w.Plain) (hmeant : Meant p calls) (hstart : HoldsProgram t p)
    (hfits : AllFit w p (w.run t calls)) :
    (w.run t calls).Pairwise fun s s' =>
      s.isDone = true → s'.call.canonical = s.call.canonical → s'.IsIdle := by
  induction calls generalizing t with
  | nil => exact List.Pairwise.nil
  | cons c rest ih =>
    obtain ⟨⟨htarget, hwrite⟩, hmeant⟩ := List.forall_mem_cons.mp hmeant
    obtain ⟨hfit, hfits⟩ := List.forall_mem_cons.mp hfits
    obtain ⟨hafter, -, hdone⟩ := step_grows hw htarget hwrite hstart hfit
    refine List.Pairwise.cons (fun s hs hfirst hname => ?_) (ih hmeant hafter hfits)
    obtain ⟨d, hd, hnames⟩ := hdone hfirst
    exact run_idle hw hmeant hafter hfits hd hnames s hs hname

theorem run_unchanged (w : Workshop) (t : Tree) (calls : List Call) :
    ∀ s ∈ w.run t calls, s.isDone = false →
      ∀ place, s.after.fileAt? place = s.before.fileAt? place := by
  induction calls generalizing t with
  | nil => exact List.forall_mem_nil _
  | cons c rest ih =>
    refine List.forall_mem_cons.mpr ⟨fun hdone => ?_, ih _⟩
    refine (introduce_introduction (w.during c) t c.request).keepsFiles.unchanged (Or.inr ?_)
    intro e he
    have hyes : (w.step t c).isDone = true := isDone_iff.mpr ⟨e, he⟩
    rw [hdone] at hyes
    exact nomatch hyes

/-- Steps after which all requests for the same name are idle are done for different names. -/
theorem length_done_le {steps : List Step}
    (h : steps.Pairwise fun s s' =>
      s.isDone = true → s'.call.canonical = s.call.canonical → s'.IsIdle) :
    (steps.filter Step.isDone).length ≤ (steps.map fun s => s.call.canonical).dedup.length := by
  have hdone : ∀ s ∈ steps.filter Step.isDone, s.isDone = true :=
    fun s hs => List.of_mem_filter hs
  have hnodup : ((steps.filter Step.isDone).map fun s => s.call.canonical).Nodup := by
    unfold List.Nodup
    rw [List.pairwise_map]
    refine (h.sublist List.filter_sublist).imp_of_mem fun {s s'} hs hs' hidle hname => ?_
    obtain ⟨⟨e, hpresent⟩, -⟩ := hidle (hdone s hs) hname.symm
    obtain ⟨e', he⟩ := isDone_iff.mp (hdone s' hs')
    rw [hpresent] at he
    exact nomatch he
  have hsubset : ((steps.filter Step.isDone).map fun s => s.call.canonical) ⊆
      (steps.map fun s => s.call.canonical).dedup := by
    intro name hname
    rw [List.mem_dedup]
    exact List.map_subset _ (List.filter_subset_self steps) hname
  simpa using (List.subperm_of_subset hnodup hsubset).length_le

end

/-! ## A file that is asked for one architecture in two spellings -/

def tierCode : String :=
  "\n".intercalate ["class PresentationTier: ...", "class LogicTier: ...", "class DataTier: ..."]

def tiers : List String := ["PresentationTier", "LogicTier", "DataTier"]

def passTree : Tree := ⟨[], [(["a.py"], .text "pass\n")]⟩

def passPath : Path := ⟨false, ["a.py"]⟩

def ask (name : String) : Call :=
  ⟨fun _ => none, fun _ => .none, ⟨some name, "a.py", false, none⟩⟩

/-- Code that defines the same on its own, below any header, and with its header below a line. -/
structure ParsesAround (code : String) (names : List String) : Prop where
  alone : Parses code ∧ topLevelNames code = names
  below : ∀ heading, IsDocstring heading →
    Parses (merged (some heading) code) ∧ topLevelNames (merged (some heading) code) = names
  belowPass : ∀ heading, IsDocstring heading →
    Parses (merged (some "pass\n") (heading ++ "\n\n" ++ code)) ∧
      topLevelNames (merged (some "pass\n") (heading ++ "\n\n" ++ code)) = names

def passTokens : List Token :=
  [.ofChars .newline [] ⟨1, 1, 4, 4⟩ 0, .ofChars .name ['p', 'a', 's', 's'] ⟨1, 1, 0, 4⟩ 0]

theorem run_pass (tail : List Char) (fuel : Nat) :
    Scan.run (fuel + 4) (.atText [] (['p', 'a', 's', 's', '\n', '\n'] ++ '"' :: tail) 0 0) true =
      Scan.run fuel (.atText passTokens ('"' :: tail) 6 2) true := by
  rfl

theorem parsesAround_of_spelt {lines : List String} {css : List (List Char)} {cs : List Char}
    {names : List String} (h : Spelt lines css) (hcs : ['\n'].intercalate css = cs)
    (hplain : '\r' ∉ cs ∧ Char.ofNat 0 ∉ cs)
    (halone : givesNames names
      (settle (parseModule grammar) (lex (if endsOpen cs then cs ++ ['\n'] else cs) 1)) = true)
    (hbelow : ∀ u : Unseen, givesNames names (u.parse [] ('\n' :: cs ++ ['\n'])) = true)
    (hpass : ∀ u : Unseen, givesNames names (u.parse passTokens ('\n' :: cs ++ ['\n'])) = true) :
    ParsesAround ("\n".intercalate lines) names := by
  have hlist : ("\n".intercalate lines).toList = cs := (toList_intercalate_of_spelt h).trans hcs
  have hbelowPlain : '\r' ∉ '\n' :: cs ∧ Char.ofNat 0 ∉ '\n' :: cs := by
    simp [hplain]
  refine ⟨parses_explicit hlist hplain halone, fun heading hheading => ?_,
    fun heading hheading => ?_⟩
  · rw [merged_heading hheading]
    obtain ⟨body, htext, hbody⟩ := hheading
    have hchars : (heading ++ "\n\n" ++ "\n".intercalate lines ++ "\n").toList =
        [] ++ (docstringChars body ++ '\n' :: ('\n' :: cs ++ ['\n'])) := by
      simp [String.toList_append, htext, hlist]
    exact parses_around hchars hbody hbelowPlain (Nat.zero_le _) (fun _ _ => rfl) hbelow
  · obtain ⟨body, htext, hbody⟩ := hheading
    have hchars : (merged (some "pass\n") (heading ++ "\n\n" ++ "\n".intercalate lines)).toList =
        ['p', 'a', 's', 's', '\n', '\n'] ++
          (docstringChars body ++ '\n' :: ('\n' :: cs ++ ['\n'])) := by
      have htrim : trimRight "pass\n" = "pass" := by decide
      unfold merged
      simp [String.toList_append, htext, hlist, htrim]
    refine parses_around hchars hbody ?_ (by decide) run_pass hpass
    simp [hplain]

/-- The parser is run three times, twice of them below a header of which nothing is known. -/
theorem tierCode_parsesAround : ParsesAround tierCode tiers := by
  unfold tierCode
  exact parsesAround_of_spelt (by repeat constructor) rfl (by decide +kernel) (by decide +kernel)
    (eq_true_of_epsilon _ (by decide +kernel)) (eq_true_of_epsilon _ (by decide +kernel))

theorem pass_parses : Parses "pass\n" ∧ topLevelNames "pass\n" = [] :=
  parses_explicit (String.toList_ofList : "pass\n".toList = ['p', 'a', 's', 's', '\n']) (by decide)
    (by decide +kernel)

theorem target_ask (name : String) : (ask name).request.target = passPath := by
  have h : Path.ofString "a.py" = passPath := by decide
  exact h

theorem existing_pass : existing passTree passPath = .ok (some "pass\n") := by
  refine existing_eq_some.mpr ⟨by decide, rfl, rfl, .text "pass\n", rfl, ?_⟩
  rw [Content.read, plainNewlines_eq_self (by decide), String.ofList_toList]

theorem put_pass (text : String) :
    put passTree passPath text = (⟨[], [(["a.py"], .text text)]⟩, none) := by
  rfl

theorem absent_pass {scaffold : String} (h : topLevelNames scaffold = tiers) :
    (Workshop.stocked.during (ask "three_tier")).isPresent scaffold "pass\n" = false := by
  unfold Workshop.isPresent
  rw [h, pass_parses.2]
  rfl

theorem canonical_tier : Naming.canonical "three_tier" = "three_tier" ∧
    Naming.canonical "3-Tier Architecture" = "three_tier" := by
  decide

/-- An architecture is selected by a name that is not that of a pattern. -/
theorem select_architecture {w : Workshop} {name known : String} {g : Generator}
    (hcanonical : Naming.canonical name = known) (hpattern : known ∉ Table.keys w.patterns)
    (harchitecture : Table.find? known w.architectures = some g) :
    w.select name = some (.architecture, known, g) := by
  unfold Workshop.select
  simp only [hcanonical, Table.find?_eq_none_iff.mpr hpattern, harchitecture, Option.map_some]

theorem select_tier : Workshop.stocked.select "three_tier" =
    some (.architecture, "three_tier", Architectural.threeTier) :=
  select_architecture canonical_tier.1 (by decide)
    (by simp [Workshop.stocked, Workshop.equipped, architectureGenerators, Table.find?_cons])

theorem draft_tier : ∃ d, Workshop.stocked.draft (ask "three_tier").request = .ok d ∧
    ParsesAround d.code tiers := by
  have hgenerator : ∀ entry, Architectural.threeTier entry = .ok (some tierCode) := fun _ => rfl
  obtain ⟨d, hd, hcode⟩ := stocked_plain.exists_draft (r := (ask "three_tier").request) select_tier
  refine ⟨d, hd, ?_⟩
  rw [Option.some.inj (Except.ok.inj (hcode.symm.trans (hgenerator d.entry)))]
  exact tierCode_parsesAround

section
variable {d : Draft} (hd : Workshop.stocked.draft (ask "three_tier").request = .ok d)
  (hcode : ParsesAround d.code tiers)
include hd hcode

theorem compose_tier {c : Call} {text scaffold : String}
    (h : (Workshop.stocked.during c).compose d text = .ok scaffold) :
    topLevelNames scaffold = tiers ∧ Joins "pass\n" scaffold := by
  obtain ⟨heading, hheading, rfl⟩ := compose_eq_ok.mp h
  obtain ⟨_, hsame, hdocstring⟩ :=
    (stocked_plain.during c).heading ((draft_during Workshop.stocked c _).trans hd) _
  obtain rfl := Except.ok.inj (hheading.symm.trans hsame)
  obtain ⟨hplain, hne⟩ := stocked_plain.plainCode hd
  have hnames : topLevelNames (heading ++ "\n\n" ++ d.code) = tiers :=
    (parses_scaffold hdocstring hplain hne).2.symm.trans (hcode.below heading hdocstring).2
  refine ⟨hnames, fun _ _ => ⟨(hcode.belowPass heading hdocstring).1, fun name => ?_⟩⟩
  rw [hnames, pass_parses.2, (hcode.belowPass heading hdocstring).2]
  simp

theorem fits_tier (c : Call) {old : Option String}
    (hbelow : ∀ text scaffold, old = some text →
      (Workshop.stocked.during c).compose d text = .ok scaffold →
      (Workshop.stocked.during c).isPresent scaffold text = false → Joins text scaffold) :
    Fits (Workshop.stocked.during c) d old where
  code := ⟨hcode.alone.1, by rw [hcode.alone.2]; decide⟩
  heading := fun size heading hheading _ _ => by
    obtain ⟨_, hsame, hdocstring⟩ := stocked_plain.heading hd size
    obtain rfl := Except.ok.inj (hheading.symm.trans hsame)
    obtain ⟨hparses, hnames⟩ := hcode.below heading hdocstring
    refine ⟨hparses, fun name => ?_⟩
    rw [hnames, hdocstring.parses.2, hcode.alone.2]
    simp
  below := hbelow

theorem isDone_tier : (Workshop.stocked.step passTree (ask "three_tier")).isDone = true := by
  have hdraft := (draft_during Workshop.stocked (ask "three_tier") _).trans hd
  obtain ⟨heading, hheading, -⟩ := (stocked_plain.during (ask "three_tier")).heading hdraft
    (Size.ofText (if "pass\n".isEmpty then d.code else "pass\n"))
  have hcompose : (Workshop.stocked.during (ask "three_tier")).compose d "pass\n" =
      .ok (heading ++ "\n\n" ++ d.code) :=
    compose_eq_ok.mpr ⟨heading, hheading, rfl⟩
  have habsent := absent_pass (compose_tier hd hcode hcompose).1
  have hput := put_pass (merged (some "pass\n") (heading ++ "\n\n" ++ d.code))
  have ho : existing passTree (ask "three_tier").request.target = .ok (some "pass\n") := by
    rw [target_ask, existing_pass]
  rw [← target_ask "three_tier"] at hput
  rw [← Option.getD_some (a := "pass\n") (b := "")] at hcompose habsent
  have hstep := introduce_eq_written hdraft ho hcompose habsent rfl hput
  exact isDone_of_introduce hstep

end

theorem allFit_tier : AllFit .stocked passPath
    (Workshop.stocked.run passTree [ask "three_tier", ask "3-Tier Architecture"]) := by
  obtain ⟨d, hd, hcode⟩ := draft_tier
  have hd' : Workshop.stocked.draft (ask "3-Tier Architecture").request = .ok d := by
    refine stocked_plain.draft_congr ?_ hd
    simp only [ask, Option.getD_some]
    rw [canonical_tier.1, canonical_tier.2]
  have hfirst : Fits (Workshop.stocked.during (ask "three_tier")) d (textAt passTree passPath) := by
    refine fits_tier hd hcode _ fun text scaffold htext hcompose _ => ?_
    rw [textAt_of_existing existing_pass, Option.some.injEq] at htext
    subst htext
    exact (compose_tier hd hcode hcompose).2
  have hholds : HoldsProgram passTree passPath := by
    intro text htext
    rw [textAt_of_existing existing_pass, Option.some.injEq] at htext
    exact htext ▸ pass_parses.1
  obtain ⟨-, -, hdone⟩ := step_grows stocked_plain (target_ask "three_tier") rfl hholds
    fun other hother => Except.ok.inj (hd.symm.trans hother) ▸ hfirst
  obtain ⟨other, hother, hthere⟩ := hdone (isDone_tier hd hcode)
  obtain rfl := Except.ok.inj (hd.symm.trans hother)
  unfold AllFit
  rw [run_cons, run_cons, run_nil, List.forall_mem_cons, List.forall_mem_singleton]
  refine ⟨fun other hother => ?_, fun other hother => ?_⟩
  · obtain rfl := Except.ok.inj (hd.symm.trans hother)
    exact hfirst
  · obtain rfl := Except.ok.inj (hd'.symm.trans hother)
    refine fits_tier hd hcode _ fun text scaffold htext hcompose habsent => ?_
    have hnames := (compose_tier hd hcode hcompose).1
    have hpresent : (Workshop.stocked.during (ask "3-Tier Architecture")).isPresent scaffold text =
        true := by
      refine isPresent_of_subset (by rw [hnames]; decide) ?_
      rw [step_before] at htext
      unfold namesAt at hthere
      rw [htext, hcode.alone.2, ← hnames] at hthere
      exact hthere
    exact nomatch habsent.symm.trans hpresent

/-! ## All runs -/

/-- However long a run on one file is and in whatever spellings it asks for names, what the file
defines never gets less, the scaffold of a name is written at most once, and all requests for the
name after that find it present and leave the file alone. -/
theorem run_writesOnce (engine : Engine) (hengine : LeavesPlain engine) (t : Tree) (p : Path)
    (calls : List Call) (hmeant : Meant p calls)
    (hstart : existing t p = .ok none ∨ ∃ text, existing t p = .ok (some text) ∧ Parses text)
    (hfits : AllFit (.equipped engine) p ((Workshop.equipped engine).run t calls)) :
    WritesOnce p ((Workshop.equipped engine).run t calls) := by
  have hprogram : HoldsProgram t p := by
    intro text htext
    rw [textAt_eq_some] at htext
    rcases hstart with hnone | ⟨seen, hseen, hparses⟩
    · exact nomatch hnone.symm.trans htext
    · obtain rfl := Option.some.inj (Except.ok.inj (hseen.symm.trans htext))
      exact hparses
  have hplain := equipped_plain hengine
  have hidle := run_pairwise_idle hplain hmeant hprogram hfits
  exact ⟨run_grows hplain hmeant hprogram hfits, run_unchanged _ t calls, hidle,
    length_done_le hidle⟩

theorem run_writesOnce_three_tier :
    AllFit .stocked passPath
        (Workshop.stocked.run passTree [ask "three_tier", ask "3-Tier Architecture"]) ∧
      WritesOnce passPath
        (Workshop.stocked.run passTree [ask "three_tier", ask "3-Tier Architecture"]) :=
  ⟨allFit_tier, run_writesOnce _ placeholders_leavesPlain _ _ _
    (List.forall_mem_cons.mpr ⟨⟨target_ask _, rfl⟩,
      List.forall_mem_singleton.mpr ⟨target_ask _, rfl⟩⟩)
    (Or.inr ⟨"pass\n", existing_pass, pass_parses.1⟩) allFit_tier⟩

end DesignLens.Scaffold
