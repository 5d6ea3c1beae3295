import DesignLens.Proofs.ModuleChecks
import DesignLens.Proofs.ShippedScaffolds
import DesignLens.Proofs.TextPieces

/-!
# The code of the scaffolds that come with the library

The parser is run on the code of every generator below a header of which nothing is known, and the
statements that it finds are tested. All of them keep the rules of the language. Some start with a
statement about the future: `futureScaffolds`.
-/

namespace DesignLens.Source

/-! ## A second text in triple quotes -/

theorem run_blank (tokens : List Token) (rest : List Char) (position passed fuel : Nat) :
    Scan.run (fuel + 1) (.atText tokens ('\n' :: rest) position passed) true =
      Scan.run fuel (.atText tokens rest (position + 1) (passed + 1)) true := rfl

theorem Unseen.exists_second (u : Unseen) {body : List Char}
    (h : ∀ c ∈ body, isPlainChar c = true) (before : List Token) (below : List Char) :
    ∃ v : Unseen, u.parse before ('\n' :: (docstringChars body ++ '\n' :: below)) =
      v.parse (u.tokens before) below := by
  obtain ⟨v, hv⟩ := exists_unseen_run h (u.tokens before) below (u.position + 1) (u.passed + 1)
    (u.rounds + 1)
  refine ⟨v, congrArg (settle (parseModule grammar)) ?_⟩
  have hfuel : u.rounds + (2 * ('\n' :: (docstringChars body ++ '\n' :: below)).length + 4) =
      u.rounds + 1 + (2 * (docstringChars body ++ '\n' :: below).length + 4) + 1 := by
    rw [List.length_cons]
    omega
  rw [Unseen.lexed, hfuel, run_blank, hv]

end DesignLens.Source

namespace DesignLens.Scaffold

open Source Text

/-! ## Sound code -/

/-- Whether a parse gives sound statements. -/
def givesSound (opens : Bool) : Except Verdict Module → Bool
  | .ok m => isSound opens m.body
  | .error _ => false

theorem exists_of_givesSound {opens : Bool} {r : Except Verdict Module}
    (h : givesSound opens r = true) : ∃ body, r = .ok ⟨body⟩ ∧ IsSound opens body := by
  cases r with
  | error verdict => exact nomatch h
  | ok m => exact ⟨m.body, rfl, isSound_of_check h⟩

/-- Code that is read as sound statements below every header, wherever the two stand. -/
structure SoundCode (opens : Bool) (code : String) : Prop where
  noNull : Char.ofNat 0 ∉ code.toList
  reads : ∀ u : Unseen, ∃ body,
    u.parse [] ('\n' :: code.toList ++ ['\n']) = .ok ⟨body⟩ ∧ IsSound opens body

/-- A generator whose code is sound if the entry of the catalogue is inert. -/
def SoundGenerator (opens : Bool) (g : Generator) : Prop :=
  ∀ entry, InertEntry (entry.getD (.obj [])) →
    ∃ code, g entry = .ok (some code) ∧ SoundCode opens code

/-- Whether characters with given tokens before them are sound code. -/
def isSoundBelow (opens : Bool) (before : List Token) (cs : List Char) (u : Unseen) : Bool :=
  !cs.contains (Char.ofNat 0) && givesSound opens (u.parse before ('\n' :: cs ++ ['\n']))

theorem fixed_sound {opens : Bool} {lines : List String} {css : List (List Char)}
    (h : Spelt lines css)
    (htest : ∀ u : Unseen, isSoundBelow opens [] (['\n'].intercalate css) u = true) :
    SoundGenerator opens (fixed lines) := by
  refine fun _ _ => ⟨_, rfl, ?_, fun u => exists_of_givesSound ?_⟩
  · have hnull := (Bool.and_eq_true_iff.mp (htest (Classical.arbitrary Unseen))).1
    rw [toList_intercalate_of_spelt h]
    simpa using hnull
  · rw [toList_intercalate_of_spelt h]
    exact (Bool.and_eq_true_iff.mp (htest u)).2

/-- Lines of which the last one does not end with a blank. -/
def endsSolid (css : List (List Char)) : Bool :=
  (css.getLast?.bind List.getLast?).any fun c => !isBlank c

theorem getLast?_intercalate {css : List (List Char)} (h : endsSolid css = true) :
    ∃ c, (['\n'].intercalate css).getLast? = some c ∧ isBlank c = false := by
  induction css with
  | nil => exact nomatch h
  | cons cs rest ih =>
    cases rest with
    | nil =>
      obtain ⟨c, hc, hblank⟩ := Option.any_eq_true _ _ |>.mp h
      exact ⟨c, by simpa using hc, by simpa using hblank⟩
    | cons next rest =>
      obtain ⟨c, hc, hblank⟩ := ih (by simpa [endsSolid] using h)
      have hlines : ['\n'].intercalate (cs :: next :: rest) =
          cs ++ '\n' :: ['\n'].intercalate (next :: rest) := by
        simp [List.intercalate]
      refine ⟨c, ?_, hblank⟩
      rw [hlines, List.getLast?_append, List.getLast?_cons, hc]
      rfl

/-- The code of a generator that puts a text in triple quotes above its lines. -/
theorem toList_trim_described {lines : List String} {css : List (List Char)} (text : String)
    (h : Spelt lines css) (hsolid : endsSolid css = true) :
    (trim ("\"\"\"" ++ text ++ "\"\"\"\n\n" ++ "\n".intercalate lines)).toList =
      docstringChars text.toList ++ '\n' :: '\n' :: ['\n'].intercalate css := by
  have hchars : ("\"\"\"" ++ text ++ "\"\"\"\n\n" ++ "\n".intercalate lines).toList =
      docstringChars text.toList ++ '\n' :: '\n' :: ['\n'].intercalate css := by
    simp [String.toList_append, toList_intercalate_of_spelt h, docstringChars]
  obtain ⟨last, hlast, hblank⟩ := getLast?_intercalate hsolid
  rw [trim, String.toList_ofList, hchars]
  refine trimChars_eq_self (fun c hc => ?_) fun c hc => ?_
  · obtain rfl : '"' = c := Option.some.inj hc
    decide
  · rw [List.getLast?_append, List.getLast?_cons, List.getLast?_cons, hlast] at hc
    obtain rfl : last = c := Option.some.inj hc
    exact hblank

theorem described_sound {opens : Bool} {fallback : String} {lines : List String}
    {css : List (List Char)} (hfallback : Inert fallback) (h : Spelt lines css)
    (hsolid : endsSolid css = true)
    (htest : ∀ p : Unseen × Unseen,
      isSoundBelow opens (p.1.tokens []) (['\n'].intercalate css) p.2 = true) :
    SoundGenerator opens (described fallback lines) := by
  intro entry hentry
  obtain ⟨text, htext, hdescribed⟩ := exists_described hfallback hentry lines
  have hplain : ∀ c ∈ text.toList, isPlainChar c = true := fun c hc =>
    (Bool.and_eq_true_iff.mp (htext c hc)).1
  have htrim := toList_trim_described text h hsolid
  refine ⟨_, hdescribed, ?_, fun u => exists_of_givesSound ?_⟩
  · have hnull := (Bool.and_eq_true_iff.mp (htest (Classical.arbitrary _))).1
    have hinside : Char.ofNat 0 ∉ text.toList := fun hmem =>
      (isPlainChar_iff.mp (hplain _ hmem)).2.2.2 rfl
    rw [htrim, List.mem_append, mem_docstringChars]
    simp only [hinside, List.mem_cons, or_false]
    simpa using hnull
  · obtain ⟨v, hv⟩ := u.exists_second hplain [] ('\n' :: ['\n'].intercalate css ++ ['\n'])
    have hlist : '\n' :: (docstringChars text.toList ++ '\n' :: '\n' ::
        ['\n'].intercalate css) ++ ['\n'] = '\n' :: (docstringChars text.toList ++ '\n' ::
          ('\n' :: ['\n'].intercalate css ++ ['\n'])) := by
      simp
    rw [htrim, hlist, hv]
    exact (Bool.and_eq_true_iff.mp (htest (u, v))).2

/-! ## All generators -/

/-- The scaffolds whose code starts with a statement about the future. -/
def futureScaffolds : List String :=
  ["factory", "publish_subscribe", "hsm", "mediator", "observer", "registry", "state", "strategy",
    "visitor", "repository"]

-- The generators are taken by tens, for running the parser takes its time.
theorem sound_first : ∀ g ∈ patternGenerators.take 10,
    SoundGenerator (futureScaffolds.contains g.1) g.2 := by
  iterate 6
    refine List.forall_mem_cons.mpr
      ⟨fixed_sound (by repeat constructor) (eq_true_of_epsilon _ (by decide +kernel)), ?_⟩
  refine List.forall_mem_cons.mpr
    ⟨described_sound (inert_ofList (by decide +kernel)) (by repeat constructor) (by decide +kernel)
      (eq_true_of_epsilon _ (by decide +kernel)), ?_⟩
  iterate 3
    refine List.forall_mem_cons.mpr
      ⟨fixed_sound (by repeat constructor) (eq_true_of_epsilon _ (by decide +kernel)), ?_⟩
  exact List.forall_mem_nil _

theorem sound_second : ∀ g ∈ (patternGenerators.drop 10).take 10,
    SoundGenerator (futureScaffolds.contains g.1) g.2 := by
  iterate 6
    refine List.forall_mem_cons.mpr
      ⟨fixed_sound (by repeat constructor) (eq_true_of_epsilon _ (by decide +kernel)), ?_⟩
  refine List.forall_mem_cons.mpr
    ⟨described_sound (inert_ofList (by decide +kernel)) (by repeat constructor) (by decide +kernel)
      (eq_true_of_epsilon _ (by decide +kernel)), ?_⟩
  iterate 3
    refine List.forall_mem_cons.mpr
      ⟨fixed_sound (by repeat constructor) (eq_true_of_epsilon _ (by decide +kernel)), ?_⟩
  exact List.forall_mem_nil _

theorem sound_third : ∀ g ∈ (patternGenerators.drop 20).take 10,
    SoundGenerator (futureScaffolds.contains g.1) g.2 := by
  iterate 10
    refine List.forall_mem_cons.mpr
      ⟨fixed_sound (by repeat constructor) (eq_true_of_epsilon _ (by decide +kernel)), ?_⟩
  exact List.forall_mem_nil _

theorem sound_last : ∀ g ∈ patternGenerators.drop 30,
    SoundGenerator (futureScaffolds.contains g.1) g.2 := by
  iterate 2
    refine List.forall_mem_cons.mpr
      ⟨fixed_sound (by repeat constructor) (eq_true_of_epsilon _ (by decide +kernel)), ?_⟩
  refine List.forall_mem_cons.mpr
    ⟨described_sound (inert_ofList (by decide +kernel)) (by repeat constructor) (by decide +kernel)
      (eq_true_of_epsilon _ (by decide +kernel)), ?_⟩
  iterate 7
    refine List.forall_mem_cons.mpr
      ⟨fixed_sound (by repeat constructor) (eq_true_of_epsilon _ (by decide +kernel)), ?_⟩
  exact List.forall_mem_nil _

theorem patternGenerators_sound : ∀ g ∈ patternGenerators,
    SoundGenerator (futureScaffolds.contains g.1) g.2 := by
  have hsplit : patternGenerators = patternGenerators.take 10 ++
      (patternGenerators.drop 10).take 10 ++ (patternGenerators.drop 20).take 10 ++
        patternGenerators.drop 30 := rfl
  rw [hsplit]
  simp only [List.forall_mem_append]
  exact ⟨⟨⟨sound_first, sound_second⟩, sound_third⟩, sound_last⟩

theorem architectureGenerators_sound : ∀ g ∈ architectureGenerators,
    SoundGenerator (futureScaffolds.contains g.1) g.2 := by
  unfold architectureGenerators
  iterate 11
    refine List.forall_mem_cons.mpr
      ⟨fixed_sound (by repeat constructor) (eq_true_of_epsilon _ (by decide +kernel)), ?_⟩
  exact List.forall_mem_nil _

/-- The code of every draft is sound, and starts with a statement about the future exactly if its
name is among those that do. -/
theorem sound_of_draft {engine : Engine} (hengine : LeavesPlain engine) {r : Request} {d : Draft}
    (hd : (Workshop.equipped engine).draft r = .ok d) :
    SoundCode (futureScaffolds.contains d.name) d.code := by
  have hplain := equipped_plain hengine
  obtain ⟨generator, hselect, hentry, hcode⟩ := hplain.draft_eq_ok_iff.mp hd
  have hmem : (d.name, generator) ∈ patternGenerators ++ architectureGenerators :=
    (select_eq_some hselect).2
  have hsound : SoundGenerator (futureScaffolds.contains d.name) generator :=
    List.forall_mem_append.mpr ⟨patternGenerators_sound, architectureGenerators_sound⟩ _ hmem
  obtain ⟨code, hsame, hcodeSound⟩ := hsound d.entry (hentry ▸ hplain.inertEntry _ _)
  obtain rfl := Option.some.inj (Except.ok.inj (hcode.symm.trans hsame))
  exact hcodeSound

end DesignLens.Scaffold
