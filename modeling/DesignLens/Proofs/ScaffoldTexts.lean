import DesignLens.Proofs.InertTexts
import DesignLens.Proofs.IntroductionEffects
import DesignLens.Proofs.TableEntries
import DesignLens.Proofs.Texts

/-!
# Headers and code of scaffolds

A header made of inert texts is a single string in triple quotes. It is a program on its own and
defines nothing, whatever the size of the code that it reports.
-/

namespace DesignLens.Scaffold

open Source Text

/-! ## Lines of a header -/

theorem inert_count (n : Nat) : Inert ((Json.nat n).orElse (.str "?")).shown := by
  unfold Json.orElse
  split_ifs
  · exact inert_repr n
  · exact inert_ofList (by decide)

theorem inert_complexityText {level loc defs : String} (hlevel : Inert level) (hloc : Inert loc)
    (hdefs : Inert defs) : Inert (complexityText level loc defs) := by
  unfold complexityText
  refine .append (.append (.append (.append (.append (.append (.append ?_ hlevel) ?_) hloc) ?_)
    hdefs) ?_) ?_
  all_goals exact inert_ofList (by decide +kernel)

/-- The line about the size of code is there or not, but it is inert. -/
theorem complexityLine_inert (size : Size) :
    ∃ lines, complexityLine size.toJson = .ok lines ∧ ∀ line ∈ lines, Inert line := by
  have heq : complexityLine size.toJson =
      if ["low", "medium", "high"].contains
          (lower ((Json.str size.level).orElse (.str "")).shown) then
        .ok [complexityText (lower ((Json.str size.level).orElse (.str "")).shown)
          ((Json.nat size.lines).orElse (.str "?")).shown
          ((Json.nat size.definitions).orElse (.str "?")).shown]
      else .ok [] := by
    have hlevel : size.toJson.get "level" .null = .ok (.str size.level) := by
      simp [Size.toJson, Json.get, Table.find?_cons]
    have hlines : size.toJson.get "loc" .null = .ok (.nat size.lines) := by
      simp [Size.toJson, Json.get, Table.find?_cons]
    have hdefinitions : size.toJson.get "defs" .null = .ok (.nat size.definitions) := by
      simp [Size.toJson, Json.get, Table.find?_cons]
    have hobject : size.toJson.orElse (.obj []) = size.toJson := rfl
    unfold complexityLine
    simp only [hobject, hlevel, hlines, hdefinitions, bind, Except.bind, pure, Except.pure]
  rw [heq]
  split_ifs with hlevel
  · refine ⟨_, rfl, ?_⟩
    intro line hline
    rw [List.mem_singleton.mp hline]
    refine inert_complexityText ?_ (inert_count _) (inert_count _)
    have hwords : ∀ word ∈ ["low", "medium", "high"], Inert word := by
      rintro word (_ | ⟨_, _ | ⟨_, _ | ⟨_, ⟨⟩⟩⟩⟩)
      all_goals exact inert_ofList (by decide)
    exact hwords _ (List.contains_iff_mem.mp hlevel)
  · exact ⟨[], rfl, by simp⟩

theorem referenceLine_inert {lead : String} (hlead : Inert lead) {refs : List String}
    (hrefs : ∀ ref ∈ refs, Inert ref) :
    ∃ lines, referenceLine lead (.strings refs) = .ok lines ∧ ∀ line ∈ lines, Inert line := by
  have hitems : (Json.strings refs).firstItems 2 >>= Json.joinTexts ", " =
      .ok (", ".intercalate (refs.take 2)) := by
    have hfirst : (Json.strings refs).firstItems 2 = .ok ((refs.take 2).map Json.str) := by
      rw [List.map_take]
      rfl
    rw [hfirst]
    exact Json.joinTexts_strings ", " (refs.take 2)
  unfold referenceLine
  by_cases htruthy : (Json.strings refs).truthy = true
  · simp only [htruthy, if_true, hitems]
    refine ⟨_, rfl, ?_⟩
    intro line hline
    rw [List.mem_singleton.mp hline]
    refine .append (.append (.append ?_ hlead) ?_) (.intercalate ?_ fun ref href =>
      hrefs ref (List.mem_of_mem_take href))
    all_goals exact inert_ofList (by decide)
  · simp only [htruthy, Bool.false_eq_true, if_false]
    exact ⟨[], rfl, by simp⟩

/-! ## Headers -/

/-- An entry of a catalogue of which scaffolds take inert texts only. -/
structure InertEntry (entry : Json) : Prop where
  refs : entry.fieldD "refs" .null = .null ∨
    ∃ refs, entry.fieldD "refs" .null = .strings refs ∧ ∀ ref ∈ refs, Inert ref
  contract : ∀ field text, entryText? (entry.fieldD "contract" .null) field = some text → Inert text
  hint : ∀ text, entryText? entry "prompt_hint" = some text → Inert text
  description : ∀ fallback, Inert fallback → Inert (description entry fallback)

theorem inertEntry_nothing : InertEntry (.obj []) where
  refs := Or.inl rfl
  contract := fun field text h => by
    simp [entryText?, Json.field?, Json.fieldD, Table.find?_nil] at h
  hint := fun text h => by simp [entryText?, Json.field?, Table.find?_nil] at h
  description := fun fallback h => h

theorem inert_getD {found : Option String} {fallback : String}
    (hfound : ∀ text, found = some text → Inert text) (hfallback : Inert fallback) :
    Inert (found.getD fallback) := by
  cases found with
  | none => exact hfallback
  | some text => exact hfound text rfl

theorem inert_orElse {text fallback : String} (htext : Inert text) (hfallback : Inert fallback) :
    Inert ((Json.str text).orElse (.str fallback)).shown := by
  unfold Json.orElse
  split_ifs
  · exact htext
  · exact hfallback

theorem steps_inert : ∀ line ∈ steps, Inert line := by
  unfold steps
  rintro line (_ | ⟨_, _ | ⟨_, _ | ⟨_, _ | ⟨_, _ | ⟨_, ⟨⟩⟩⟩⟩⟩⟩)
  all_goals exact inert_ofList (by decide +kernel)

theorem inert_defaultHint : Inert defaultHint := by
  unfold defaultHint
  refine .append ?_ ?_
  all_goals exact inert_ofList (by decide +kernel)

theorem tools_inert : ∃ tools, (defaultTools.orElse defaultTools).elements >>= Json.joinTexts ", " =
    .ok tools ∧ Inert tools := by
  refine ⟨_, Json.joinTexts_strings ", "
    ["ast", "parso", "libcst", "astroid", "RedBaron", "tree-sitter", "py_compile"], ?_⟩
  refine .intercalate (inert_ofList (by decide)) ?_
  rintro tool (_ | ⟨_, _ | ⟨_, _ | ⟨_, _ | ⟨_, _ | ⟨_, _ | ⟨_, _ | ⟨_, ⟨⟩⟩⟩⟩⟩⟩⟩⟩)
  all_goals exact inert_ofList (by decide)

/-- Both parts of a contract are there and inert. -/
theorem contract_inert {entry : Json} (h : InertEntry entry) {field : String}
    (hfield : field = "inputs" ∨ field = "outputs") {fallback : String}
    (hfallback : Inert fallback) :
    ∃ value, ((contractOf entry).orElse (.obj [])).get field .null = .ok value ∧
      Inert (value.orElse (.str fallback)).shown := by
  have hobject : (contractOf entry).orElse (.obj []) = contractOf entry := rfl
  rw [hobject]
  rcases hfield with rfl | rfl
  · have hget : (contractOf entry).get "inputs" .null =
        .ok (.str ((entryText? (entry.fieldD "contract" .null) "inputs").getD
          "existing API/clients")) := by
      simp [contractOf, Json.get, Table.find?_cons]
    have hinputs := inert_getD (h.contract "inputs")
      (inert_ofList (by decide) : Inert "existing API/clients")
    exact ⟨_, hget, inert_orElse hinputs hfallback⟩
  · have hget : (contractOf entry).get "outputs" .null =
        .ok (.str ((entryText? (entry.fieldD "contract" .null) "outputs").getD
          "same observable behavior")) := by
      simp [contractOf, Json.get, Table.find?_cons]
    have houtputs := inert_getD (h.contract "outputs")
      (inert_ofList (by decide) : Inert "same observable behavior")
    exact ⟨_, hget, inert_orElse houtputs hfallback⟩

theorem hint_inert {entry : Json} (h : InertEntry entry) :
    Inert ((Json.ofOption (entryText? entry "prompt_hint")).orElse (.str defaultHint)).shown := by
  cases hhint : entryText? entry "prompt_hint" with
  | none => exact inert_defaultHint
  | some text => exact inert_orElse (h.hint text hhint) inert_defaultHint

theorem patternLine_inert {entry : Json} (h : InertEntry entry) :
    ∃ lines, referenceLine "Pattern" (entry.fieldD "refs" .null) = .ok lines ∧
      ∀ line ∈ lines, Inert line := by
  rcases h.refs with hnull | ⟨refs, hrefs, hinert⟩
  · rw [hnull]
    exact ⟨[], rfl, by simp⟩
  · rw [hrefs]
    exact referenceLine_inert (inert_ofList (by decide)) hinert

theorem category_inert (category : Advice.Category) : Inert category.word := by
  cases category
  all_goals exact inert_ofList (by decide)

/-- A header whose parts can all be made. -/
theorem header_eq_ok {catalog : Catalog} {b : Brief} {inputs outputs : Json} {tools : String}
    {complexity pattern refactoring : List String}
    (hinputs : (b.contract.orElse (.obj [])).get "inputs" .null = .ok inputs)
    (houtputs : (b.contract.orElse (.obj [])).get "outputs" .null = .ok outputs)
    (htools : (b.tools.orElse defaultTools).elements >>= Json.joinTexts ", " = .ok tools)
    (hcomplexity : complexityLine b.complexity = .ok complexity)
    (hpattern : referenceLine "Pattern" b.refs = .ok pattern)
    (hrefactoring : referenceLine "Refactoring"
      (b.refactoringRefs.orElse (.strings (catalog.references 2))) = .ok refactoring) :
    header catalog b = .ok (docstring (headerLines (title (replaceAll "_" " " b.name)) b.category
      (inputs.orElse (.str "Public inputs unchanged")).shown
      (outputs.orElse (.str "Behavior unchanged")).shown tools
      (b.hint.orElse (.str defaultHint)).shown complexity pattern refactoring)) := by
  unfold header
  simp only [hinputs, houtputs, htools, hcomplexity, hpattern, hrefactoring]
  rfl

theorem docstring_toList (lines : List String) :
    (docstring lines).toList =
      docstringChars ('\n' :: ("\n".intercalate lines).toList ++ ['\n']) := by
  unfold docstring docstringChars
  simp [String.toList_append]

theorem headerLines_inert {title category inputs outputs tools hint : String}
    {complexity pattern refactoring : List String} (htitle : Inert title)
    (hcategory : Inert category) (hinputs : Inert inputs) (houtputs : Inert outputs)
    (htools : Inert tools) (hhint : Inert hint) (hcomplexity : ∀ line ∈ complexity, Inert line)
    (hpattern : ∀ line ∈ pattern, Inert line) (hrefactoring : ∀ line ∈ refactoring, Inert line) :
    ∀ line ∈ headerLines title category inputs outputs tools hint complexity pattern refactoring,
      Inert line := by
  unfold headerLines
  simp only [List.forall_mem_append, List.forall_mem_cons, List.not_mem_nil, false_imp_iff,
    implies_true, and_true]
  refine ⟨⟨⟨⟨⟨⟨?_, steps_inert⟩, ?_, ?_⟩, hcomplexity⟩, ?_⟩, hpattern⟩, hrefactoring⟩
  · refine .append (.append (.append (.append ?_ htitle) ?_) hcategory) ?_
    all_goals exact inert_ofList (by decide +kernel)
  · refine .append (.append (.append ?_ hinputs) ?_) houtputs
    all_goals exact inert_ofList (by decide +kernel)
  · exact .append (inert_ofList (by decide)) htools
  · exact .append (inert_ofList (by decide)) hhint

/-- A text in triple quotes without anything in it that could end it early. -/
def IsDocstring (text : String) : Prop :=
  ∃ body, text.toList = docstringChars body ∧ ∀ c ∈ body, isPlainChar c = true

theorem isDocstring_docstring {lines : List String} (h : ∀ line ∈ lines, Inert line) :
    IsDocstring (docstring lines) := by
  have hplain : ∀ c, isInertChar c = true → isPlainChar c = true := by
    intro c hc
    rw [isInertChar, Bool.and_eq_true] at hc
    exact hc.1
  have hnewline : isInertChar '\n' = true := by decide
  have hinside : Inert ("\n".intercalate lines) := .intercalate (inert_ofList (by decide)) h
  refine ⟨_, docstring_toList lines, ?_⟩
  intro c hc
  rw [List.mem_append, List.mem_cons, List.mem_singleton] at hc
  rcases hc with (rfl | hc) | rfl
  · exact hplain _ hnewline
  · exact hplain c (hinside c hc)
  · exact hplain _ hnewline

/-- A header is a text in triple quotes, whatever the size of the code. -/
theorem heading_isDocstring {w : Workshop} {d : Draft}
    (htitle : Inert (title (replaceAll "_" " " d.name)))
    (hentry : InertEntry (d.entry.getD (.obj [])))
    (hreferences : ∀ ref ∈ w.catalog.references 2, Inert ref) (size : Size) :
    ∃ heading, w.heading d size = .ok heading ∧ IsDocstring heading := by
  obtain ⟨inputs, hinputs, inert_inputs⟩ := contract_inert hentry (Or.inl rfl)
    (inert_ofList (by decide) : Inert "Public inputs unchanged")
  obtain ⟨outputs, houtputs, inert_outputs⟩ := contract_inert hentry (Or.inr rfl)
    (inert_ofList (by decide) : Inert "Behavior unchanged")
  obtain ⟨tools, htools, inert_tools⟩ := tools_inert
  obtain ⟨complexity, hcomplexity, inert_complexity⟩ := complexityLine_inert size
  obtain ⟨pattern, hpattern, inert_pattern⟩ := patternLine_inert hentry
  obtain ⟨refactoring, hrefactoring, inert_refactoring⟩ :=
    referenceLine_inert (inert_ofList (by decide) : Inert "Refactoring") hreferences
  have hlist : (Json.strings (w.catalog.references 2)).orElse
      (.strings (w.catalog.references 2)) = .strings (w.catalog.references 2) := by
    unfold Json.orElse
    split_ifs <;> rfl
  rw [← hlist] at hrefactoring
  refine ⟨_, header_eq_ok hinputs houtputs htools hcomplexity hpattern hrefactoring, ?_⟩
  exact isDocstring_docstring (headerLines_inert htitle (category_inert d.category) inert_inputs
    inert_outputs inert_tools (hint_inert hentry) inert_complexity inert_pattern inert_refactoring)

/-! ## Programs -/

def Parses (text : String) : Prop := ∃ p, Program.parse text = .ok p

theorem parses_of_module {text : String} {m : Module}
    (h : (Program.parse text).map Program.module = .ok m) :
    Parses text ∧ topLevelNames text = definedNames m := by
  unfold Parses topLevelNames
  cases hparse : Program.parse text with
  | error fault =>
    rw [hparse] at h
    exact nomatch h
  | ok p =>
    rw [hparse] at h
    exact ⟨⟨p, rfl⟩, congrArg definedNames (Except.ok.inj h)⟩

/-- Texts with the same statements are programs alike and define the same. -/
theorem parses_congr {a b : String}
    (h : (Program.parse a).map Program.module = (Program.parse b).map Program.module) :
    (Parses a ↔ Parses b) ∧ topLevelNames a = topLevelNames b := by
  cases hb : Program.parse b with
  | ok q =>
    have hmodule : (Program.parse b).map Program.module = .ok q.module := by
      rw [hb]
      rfl
    obtain ⟨hpa, hna⟩ := parses_of_module (h.trans hmodule)
    obtain ⟨hpb, hnb⟩ := parses_of_module hmodule
    exact ⟨iff_of_true hpa hpb, hna.trans hnb.symm⟩
  | error fault =>
    unfold Parses topLevelNames
    cases ha : Program.parse a with
    | error fault' => simp [hb]
    | ok p => simp [ha, hb, Except.map] at h

/-- A text in triple quotes is a program and defines nothing. -/
theorem IsDocstring.parses {text : String} (h : IsDocstring text) :
    Parses text ∧ topLevelNames text = [] := by
  obtain ⟨body, htext, hplain⟩ := h
  obtain ⟨span, e, hmodule⟩ := parse_docstring htext hplain
  exact parses_of_module hmodule

/-- Whether a parse ends well and gives a module that defines these names. -/
def givesNames (names : List String) : Except Verdict Module → Bool
  | .ok m => definedNames m == names
  | .error _ => false

theorem eq_ok_of_givesNames {names : List String} {r : Except Verdict Module}
    (h : givesNames names r = true) : ∃ m, r = .ok m ∧ definedNames m = names := by
  cases r with
  | error verdict => exact nomatch h
  | ok m => exact ⟨m, rfl, by simpa [givesNames] using h⟩

/-- A text with a header in it is parsed in the same way whatever the header says. -/
theorem exists_unseen_parse {text : String} {front body below : List Char} {before : List Token}
    {rounds position passed : Nat}
    (htext : text.toList = front ++ (docstringChars body ++ '\n' :: (below ++ ['\n'])))
    (hbody : ∀ c ∈ body, isPlainChar c = true)
    (hplain : '\r' ∉ front ++ below ∧ Char.ofNat 0 ∉ front ++ below)
    (hrounds : rounds ≤ 2 * front.length)
    (hfront : ∀ tail fuel, Scan.run (fuel + rounds) (.atText [] (front ++ '"' :: tail) 0 0) true =
      Scan.run fuel (.atText before ('"' :: tail) position passed) true) :
    ∃ u : Unseen, (Program.parse text).map Program.module =
      (u.parse before (below ++ ['\n'])).mapError (·.fault) := by
  have hmem : ∀ c, c ∉ front ++ below → isPlainChar c = false → c ∉ ['"', '\n'] →
      c ∉ text.toList := by
    intro c hc hspecial hlayout h
    rw [htext] at h
    simp only [List.mem_append, List.mem_cons, mem_docstringChars, List.not_mem_nil,
      or_false, not_or] at h hlayout
    rcases h with h | (h | h) | h | h | h
    · exact hc (List.mem_append_left _ h)
    · exact hlayout.1 h
    · exact absurd (hbody c h) (by simp [hspecial])
    · exact hlayout.2 h
    · exact hc (List.mem_append_right _ h)
    · exact hlayout.2 h
  have hreturn : '\r' ∉ text.toList := hmem _ hplain.1 (by decide) (by decide)
  have hchars : (Layout.ofText text).chars =
      front ++ (docstringChars body ++ '\n' :: (below ++ ['\n'])) := by
    have hend : text.toList = (front ++ (docstringChars body ++ '\n' :: below)) ++ ['\n'] := by
      simp [htext]
    have hfront : '\r' ∉ front ++ (docstringChars body ++ '\n' :: below) := by
      rw [hend, List.mem_append, not_or] at hreturn
      exact hreturn.1
    rw [chars_ofText hreturn, hend, endsOpen_append_newline hfront, ← hend, htext]
    rfl
  have hnull : Char.ofNat 0 ∉ text.toList := hmem _ hplain.2 (by decide) (by decide)
  exact map_module_parse_around hchars hnull hbody hrounds hfront

/-- What a text with a header in it defines, if the parser finds it whatever the header says. -/
theorem parses_around {text : String} {front body below : List Char} {before : List Token}
    {rounds position passed : Nat} {names : List String}
    (htext : text.toList = front ++ (docstringChars body ++ '\n' :: (below ++ ['\n'])))
    (hbody : ∀ c ∈ body, isPlainChar c = true)
    (hplain : '\r' ∉ front ++ below ∧ Char.ofNat 0 ∉ front ++ below)
    (hrounds : rounds ≤ 2 * front.length)
    (hfront : ∀ tail fuel, Scan.run (fuel + rounds) (.atText [] (front ++ '"' :: tail) 0 0) true =
      Scan.run fuel (.atText before ('"' :: tail) position passed) true)
    (hnames : ∀ u : Unseen, givesNames names (u.parse before (below ++ ['\n'])) = true) :
    Parses text ∧ topLevelNames text = names := by
  obtain ⟨u, hu⟩ := exists_unseen_parse htext hbody hplain hrounds hfront
  obtain ⟨m, hm, rfl⟩ := eq_ok_of_givesNames (hnames u)
  rw [hm] at hu
  exact parses_of_module hu

/-- What a text defines, if the parser is run on its characters. -/
theorem parses_explicit {text : String} {cs : List Char} {names : List String}
    (htext : text.toList = cs) (hplain : '\r' ∉ cs ∧ Char.ofNat 0 ∉ cs)
    (hnames : givesNames names
      (settle (parseModule grammar) (lex (if endsOpen cs then cs ++ ['\n'] else cs) 1)) = true) :
    Parses text ∧ topLevelNames text = names := by
  have hreturn : '\r' ∉ text.toList := htext ▸ hplain.1
  have hchars := chars_ofText hreturn
  have hnull : text.toList.contains (Char.ofNat 0) = false := by
    rw [List.contains_eq_mem, decide_eq_false_iff_not]
    exact htext ▸ hplain.2
  rw [htext] at hchars
  obtain ⟨m, hm, rfl⟩ := eq_ok_of_givesNames hnames
  refine parses_of_module ?_
  rw [map_module_parse, hnull, hchars, hm]
  rfl

theorem IsDocstring.noReturn {text : String} (h : IsDocstring text) : '\r' ∉ text.toList := by
  obtain ⟨body, htext, hplain⟩ := h
  rw [htext, mem_docstringChars]
  rintro (hquote | hbody)
  · exact absurd hquote (by decide)
  · exact (isPlainChar_iff.mp (hplain _ hbody)).2.2.1 rfl

/-! ## Code -/

/-- Code without the syntax of templates, with newlines as its only line ends and none of them at
the end. -/
structure PlainCode (code : String) : Prop where
  template : isPlainTemplate code.toList = true
  noReturn : '\r' ∉ code.toList
  openEnd : code.toList.getLast? ≠ some '\n'

/-- An engine that leaves code without the syntax of templates as it is. -/
def LeavesPlain (engine : Engine) : Prop :=
  ∀ context code, PlainCode code → engine context code = some code

theorem LeavesPlain.render_eq {engine : Engine} (h : LeavesPlain engine) {code : String}
    (hcode : PlainCode code) (context : Table Json) : engine.render context code = code := by
  rw [Engine.render, h context code hcode, Option.getD_some]

theorem placeholders_leavesPlain : LeavesPlain placeholders := by
  intro context code h
  have hend : dropFinalNewline code.toList = code.toList := by
    unfold dropFinalNewline
    split
    · rename_i rest hreverse
      refine absurd ?_ h.openEnd
      rw [← List.head?_reverse, hreverse, List.head?_cons]
    · rfl
  simp only [placeholders, plainNewlines_eq_self h.noReturn, hend,
    renderChars_of_plain context h.template, Option.map_some, String.ofList_toList]

theorem plainCode_trim {code : String} (htemplate : isPlainTemplate code.toList = true)
    (hreturn : '\r' ∉ code.toList) : PlainCode (trim code) where
  template := by
    obtain ⟨front, back, hcode⟩ := trim_contiguous code
    rw [← hcode] at htemplate
    exact (isPlainTemplate_append (isPlainTemplate_append htemplate).1).2
  noReturn := fun h => hreturn ((trim_contiguous code).subset h)
  openEnd := fun h => absurd (isBlank_getLast?_trim h) (by decide)

theorem merged_heading {heading code : String} (h : IsDocstring heading) :
    merged (some heading) code = heading ++ "\n\n" ++ code ++ "\n" := by
  obtain ⟨body, htext, -⟩ := h
  have hlast : heading.toList = '"' :: '"' :: '"' :: body ++ ['"', '"'] ++ ['"'] := by
    simp [htext, docstringChars]
  unfold merged
  simp only [trimRight_eq_self hlast (by decide)]

theorem IsDocstring.noReturn_scaffold {heading code : String} (hheading : IsDocstring heading)
    (hcode : PlainCode code) : '\r' ∉ (heading ++ "\n\n" ++ code).toList := by
  rw [String.toList_append, String.toList_append, List.mem_append, List.mem_append]
  rintro ((h | h) | h)
  · exact hheading.noReturn h
  · exact absurd h (by decide)
  · exact hcode.noReturn h

/-- A newline at the end of a scaffold makes no difference. -/
theorem map_module_parse_scaffold {heading code : String} (hheading : IsDocstring heading)
    (hcode : PlainCode code) (hne : code ≠ "") :
    (Program.parse (heading ++ "\n\n" ++ code ++ "\n")).map Program.module =
      (Program.parse (heading ++ "\n\n" ++ code)).map Program.module := by
  have hopen : endsOpen (heading ++ "\n\n" ++ code).toList = true := by
    have hlast : ∃ c rest, code.toList.reverse = c :: rest := by
      cases hr : code.toList.reverse with
      | nil => exact absurd (String.toList_eq_nil_iff.mp (List.reverse_eq_nil_iff.mp hr)) hne
      | cons c rest => exact ⟨c, rest, rfl⟩
    obtain ⟨c, rest, hrest⟩ := hlast
    have hnewline : c ≠ '\n' := by
      rintro rfl
      exact hcode.openEnd (by rw [← List.head?_reverse, hrest, List.head?_cons])
    have hc : c ≠ '\r' := by
      rintro rfl
      exact hcode.noReturn (List.mem_reverse.mp (hrest ▸ List.mem_cons_self))
    unfold endsOpen
    rw [String.toList_append, List.reverse_append, hrest, List.cons_append]
    simp [hnewline, hc]
  exact map_module_parse_append_newline (hheading.noReturn_scaffold hcode) hopen

/-- A scaffold is a program like its header and its code one below the other. -/
theorem parses_scaffold {heading code : String} (hheading : IsDocstring heading)
    (hcode : PlainCode code) (hne : code ≠ "") :
    (Parses (merged (some heading) code) ↔ Parses (heading ++ "\n\n" ++ code)) ∧
      topLevelNames (merged (some heading) code) = topLevelNames (heading ++ "\n\n" ++ code) := by
  rw [merged_heading hheading]
  exact parses_congr (map_module_parse_scaffold hheading hcode hne)

/-! ## Workshops -/

/-- A generator that gives plain code for entries with inert texts and for want of an entry. -/
def PlainGenerator (g : Generator) : Prop :=
  ∀ entry, InertEntry (entry.getD (.obj [])) →
    ∃ snippet, g entry = .ok (some snippet) ∧ PlainCode snippet ∧ snippet ≠ ""

/-- Names in which every change of case keeps the characters inert. -/
def PlainName (name : String) : Prop :=
  ∀ c ∈ name.toList, c.toNat < 128 ∧ isInertChar c = true

theorem PlainName.title {name : String} (h : PlainName name) :
    Inert (title (replaceAll "_" " " name)) := by
  have hplain : ∀ c ∈ (replaceAll "_" " " name).toList, c.toNat < 128 ∧ isInertChar c = true := by
    intro c hc
    rcases mem_replaceAll hc with hblank | hname
    · rw [List.mem_singleton.mp hblank]
      decide
    · exact h c hname
  exact inert_title (fun c hc => (hplain c hc).1) fun c hc => (hplain c hc).2

/-- A workshop whose headers are texts in triple quotes and whose code stays as it is. -/
structure Workshop.Plain (w : Workshop) : Prop where
  names : ∀ g ∈ w.patterns ++ w.architectures, PlainName g.1
  generators : ∀ g ∈ w.patterns ++ w.architectures, PlainGenerator g.2
  entries : ∀ name category entry, w.catalog.find? name category = some entry → InertEntry entry
  references : ∀ ref ∈ w.catalog.references 2, Inert ref
  engine : LeavesPlain w.engine

theorem select_eq_some {w : Workshop} {name canonical : String} {category : Advice.Category}
    {g : Generator} (h : w.select name = some (category, canonical, g)) :
    canonical = Naming.canonical name ∧ (canonical, g) ∈ w.patterns ++ w.architectures := by
  unfold Workshop.select at h
  simp only at h
  split at h
  · rename_i found hfound
    simp only [Option.some.injEq, Prod.mk.injEq] at h
    obtain ⟨-, rfl, rfl⟩ := h
    exact ⟨rfl, List.mem_append_left _ (Table.mem_of_find? hfound)⟩
  · rw [Option.map_eq_some_iff] at h
    obtain ⟨found, hfound, heq⟩ := h
    simp only [Prod.mk.injEq] at heq
    obtain ⟨-, rfl, rfl⟩ := heq
    exact ⟨rfl, List.mem_append_right _ (Table.mem_of_find? hfound)⟩

namespace Workshop.Plain

variable {w : Workshop} {r : Request} {d : Draft}

theorem inertEntry (hw : w.Plain) (name category : String) :
    InertEntry ((w.catalog.find? name category).getD (.obj [])) := by
  cases hfind : w.catalog.find? name category with
  | none => exact inertEntry_nothing
  | some entry => exact hw.entries name category entry hfind

/-- There is a draft for every name that has a generator, and its code is what the generator
gives. -/
theorem draft_eq_ok_iff (hw : w.Plain) :
    w.draft r = .ok d ↔ ∃ generator,
      w.select (r.name.getD "") = some (d.category, d.name, generator) ∧
        d.entry = w.catalog.find? d.name d.category.word ∧
        generator d.entry = .ok (some d.code) := by
  constructor
  · intro h
    obtain ⟨generator, snippet, hselect, hentry, hsnippet, -, hcode⟩ := draft_eq_ok h
    obtain ⟨snippet', hsame, hplain, -⟩ :=
      hw.generators _ (select_eq_some hselect).2 d.entry (hentry ▸ hw.inertEntry _ _)
    obtain rfl := Option.some.inj (Except.ok.inj (hsnippet.symm.trans hsame))
    rw [hcode, hw.engine.render_eq hplain]
    exact ⟨generator, hselect, hentry, hsnippet⟩
  · rintro ⟨generator, hselect, hentry, hsnippet⟩
    obtain ⟨snippet, hsame, hplain, hne⟩ :=
      hw.generators _ (select_eq_some hselect).2 d.entry (hentry ▸ hw.inertEntry _ _)
    obtain rfl := Option.some.inj (Except.ok.inj (hsnippet.symm.trans hsame))
    have hfull : (!d.code.isEmpty) = true := by simpa using hne
    unfold Workshop.draft
    rw [hselect]
    simp only [← hentry, hsnippet, Option.filter_some, hfull, if_true,
      hw.engine.render_eq hplain]

theorem exists_draft (hw : w.Plain) {category : Advice.Category} {name : String} {g : Generator}
    (h : w.select (r.name.getD "") = some (category, name, g)) :
    ∃ d, w.draft r = .ok d ∧ g d.entry = .ok (some d.code) := by
  obtain ⟨snippet, hsnippet, -⟩ := hw.generators _ (select_eq_some h).2
    (w.catalog.find? name category.word) (hw.inertEntry _ _)
  exact ⟨⟨category, name, w.catalog.find? name category.word, snippet⟩,
    hw.draft_eq_ok_iff.mpr ⟨g, h, rfl, hsnippet⟩, hsnippet⟩

theorem plainCode (hw : w.Plain) (h : w.draft r = .ok d) : PlainCode d.code ∧ d.code ≠ "" := by
  obtain ⟨generator, hselect, hentry, hsnippet⟩ := hw.draft_eq_ok_iff.mp h
  obtain ⟨snippet, hsame, hplain⟩ :=
    hw.generators _ (select_eq_some hselect).2 d.entry (hentry ▸ hw.inertEntry _ _)
  obtain rfl := Option.some.inj (Except.ok.inj (hsnippet.symm.trans hsame))
  exact hplain

/-- The draft depends on nothing but the canonical name. -/
theorem draft_congr (hw : w.Plain) {r' : Request}
    (hname : Naming.canonical (r'.name.getD "") = Naming.canonical (r.name.getD ""))
    (h : w.draft r = .ok d) : w.draft r' = .ok d := by
  have hselect : w.select (r'.name.getD "") = w.select (r.name.getD "") := by
    unfold Workshop.select
    rw [hname]
  rw [hw.draft_eq_ok_iff] at h ⊢
  rw [hselect]
  exact h

theorem heading (hw : w.Plain) (h : w.draft r = .ok d) (size : Size) :
    ∃ heading, w.heading d size = .ok heading ∧ IsDocstring heading := by
  obtain ⟨generator, hselect, hentry, -⟩ := hw.draft_eq_ok_iff.mp h
  have hname : PlainName d.name := hw.names _ (select_eq_some hselect).2
  exact heading_isDocstring hname.title (hentry ▸ hw.inertEntry _ _) hw.references size

end Workshop.Plain

end DesignLens.Scaffold
