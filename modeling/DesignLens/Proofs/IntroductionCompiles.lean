import DesignLens.Proofs.IntroductionRuns
import DesignLens.Proofs.SoundScaffolds

/-!
# Files that compile after an introduction

The text that an introduction composes is written whether it compiles or not, and there is a warning
exactly if it does not. All scaffolds that come with the library compile as they are. Below a
program that compiles, those that start with a statement about the future do not, unless the program
has nothing but texts and such statements: `introduce_compiles_iff`.
-/

namespace DesignLens.Scaffold

open Workspace Text Source

/-! ## Warnings -/

/-- What a warning starts with, except that of the compiler. -/
def warningLeads : List String :=
  ["ast.parse failed: ", "parso.parse failed: ", "libcst.parse_module failed: ",
    "astroid.parse failed: ", "RedBaron failed: ", "tree-sitter failed: ", "tree-sitter reports "]

theorem lead_append_ne {lead : String} (h : lead ∈ warningLeads) (rest message : String) :
    lead ++ rest ≠ "py_compile failed: " ++ message := by
  have hall : ∀ lead ∈ warningLeads, 2 ≤ lead.toList.length ∧ lead.toList.take 2 ≠ ['p', 'y'] := by
    decide
  obtain ⟨hlength, htake⟩ := hall lead h
  intro heq
  have hlist : lead.toList ++ rest.toList = "py_compile failed: ".toList ++ message.toList := by
    rw [← String.toList_append, heq, String.toList_append]
  rw [← List.take_append_of_le_length hlength, hlist] at htake
  exact htake (by simp)

/-- A warning is that of the compiler, or it starts with one of the leads. -/
theorem warning_cases {others : Complaints} {text warning : String}
    (h : warning ∈ warnings others text) :
    (∃ lead ∈ warningLeads, ∃ rest, warning = lead ++ rest) ∨
      compiles text = false ∧ warning = "py_compile failed: " ++ others.compiling := by
  have hlead : ∀ lead rest, lead ∈ warningLeads → warning = lead ++ rest →
      ∃ lead ∈ warningLeads, ∃ rest, warning = lead ++ rest :=
    fun lead rest hlead hrest => ⟨lead, hlead, rest, hrest⟩
  simp only [warnings, List.mem_append, List.mem_map, Option.mem_toList] at h
  rcases h with ((((((hown | ⟨c, -, rfl⟩) | ⟨c, -, rfl⟩) | ⟨c, -, rfl⟩) | ⟨c, -, rfl⟩) |
    ⟨c, -, rfl⟩) | hmarks) | hcompile
  · split at hown
    · cases hown
    · exact Or.inl (hlead _ _ (by decide) (List.mem_singleton.mp hown))
  · exact Or.inl (hlead "parso.parse failed: " c (by decide) rfl)
  · exact Or.inl (hlead "libcst.parse_module failed: " c (by decide) rfl)
  · exact Or.inl (hlead "astroid.parse failed: " c (by decide) rfl)
  · exact Or.inl (hlead "RedBaron failed: " c (by decide) rfl)
  · exact Or.inl (hlead "tree-sitter failed: " c (by decide) rfl)
  · split_ifs at hmarks
    · obtain rfl := List.mem_singleton.mp hmarks
      exact Or.inl (hlead "tree-sitter reports " "syntax errors" (by decide) (by decide))
    · cases hmarks
  · split_ifs at hcompile with hcompiles
    · cases hcompile
    · exact Or.inr ⟨by simpa using hcompiles, List.mem_singleton.mp hcompile⟩

/-- The compiler warns of a text exactly if it does not compile. -/
theorem warns_iff {others : Complaints} {text : String} :
    (∃ message, "py_compile failed: " ++ message ∈ warnings others text) ↔
      compiles text = false := by
  constructor
  · rintro ⟨message, h⟩
    rcases warning_cases h with ⟨lead, hlead, rest, heq⟩ | ⟨hfalse, -⟩
    · exact absurd heq.symm (lead_append_ne hlead rest message)
    · exact hfalse
  · intro h
    exact ⟨others.compiling, by simp [warnings, h]⟩

/-! ## Texts that compile -/

/-- A text compiles if it has statements and they are legal. -/
theorem compiles_iff {text : String} : compiles text = true ↔
    ∃ m, (Program.parse (unmarked text)).map Program.module = .ok m ∧ m.isLegal = true := by
  unfold compiles
  cases Program.parse (unmarked text) with
  | ok p => simp [Except.map]
  | error fault => simp [Except.map]

theorem unmarked_eq_self {text : String} {c : Char} {rest : List Char}
    (h : text.toList = c :: rest) (hc : c.toNat ≠ 0xfeff) : unmarked text = text := by
  unfold unmarked
  rw [h]
  simp only [if_neg hc]

/-- The statements of characters that have nothing but blank lines and comments above them. Their
place in the text and the rounds that the lexer has left are given. -/
def readFrom (rounds position passed : Nat) (cs : List Char) : Except Verdict Module :=
  settle (parseModule grammar)
    (Scan.run (rounds + (2 * cs.length + 4)) (.atText [] cs position passed) true)

/-- Where no token comes before a quote, a text is read from the quote on. -/
theorem map_module_parse_from {text : String} {front rest : List Char}
    {rounds position passed : Nat} (htext : text.toList = front ++ '"' :: (rest ++ ['\n']))
    (hreturn : '\r' ∉ text.toList) (hnull : Char.ofNat 0 ∉ text.toList)
    (hrounds : rounds ≤ 2 * front.length)
    (hfront : ∀ tail fuel, Scan.run (fuel + rounds) (.atText [] (front ++ '"' :: tail) 0 0) true =
      Scan.run fuel (.atText [] ('"' :: tail) position passed) true) :
    ∃ more, (Program.parse text).map Program.module =
      (readFrom more position passed ('"' :: (rest ++ ['\n']))).mapError (·.fault) := by
  obtain ⟨more, hmore⟩ := Nat.exists_eq_add_of_le hrounds
  have hend : text.toList = (front ++ '"' :: rest) ++ ['\n'] := by simp [htext]
  have hclosed : endsOpen text.toList = false := by
    rw [hend]
    refine endsOpen_append_newline fun h => hreturn ?_
    rw [hend]
    exact List.mem_append_left _ h
  have hchars : (Layout.ofText text).chars = front ++ '"' :: (rest ++ ['\n']) := by
    rw [chars_ofText hreturn, hclosed, htext]
    rfl
  have hfuel : 2 * (front ++ '"' :: (rest ++ ['\n'])).length + 4 =
      more + (2 * ('"' :: (rest ++ ['\n'])).length + 4) + rounds := by
    rw [List.length_append]
    omega
  have hlex : lex (Layout.ofText text).chars 1 =
      Scan.run (more + (2 * ('"' :: (rest ++ ['\n'])).length + 4))
        (.atText [] ('"' :: (rest ++ ['\n'])) position passed) true := by
    rw [hchars, ← hfront, ← hfuel]
    rfl
  refine ⟨more, ?_⟩
  rw [map_module_parse, if_neg (by simpa using hnull), hlex]
  rfl

/-! ## Scaffolds -/

theorem run_blanks (tail : List Char) (fuel : Nat) :
    Scan.run (fuel + 2) (.atText [] (['\n', '\n'] ++ '"' :: tail) 0 0) true =
      Scan.run fuel (.atText [] ('"' :: tail) 2 2) true := rfl

section
variable {opens : Bool} {heading code : String} (hheading : IsDocstring heading)
  (hcode : PlainCode code) (hsound : SoundCode opens code)
include hheading hsound

/-- The statements of a scaffold are sound wherever it is read. -/
theorem exists_sound_body (rounds position passed : Nat) :
    ∃ body, readFrom rounds position passed (heading ++ "\n\n" ++ code ++ "\n").toList =
      .ok ⟨body⟩ ∧ IsSound opens body := by
  obtain ⟨inside, htext, hinside⟩ := hheading
  have hchars : (heading ++ "\n\n" ++ code ++ "\n").toList =
      docstringChars inside ++ '\n' :: ('\n' :: code.toList ++ ['\n']) := by
    simp [String.toList_append, htext]
  obtain ⟨u, hu⟩ := exists_unseen_run hinside [] ('\n' :: code.toList ++ ['\n']) position passed
    rounds
  obtain ⟨body, hbody, hsound⟩ := hsound.reads u
  refine ⟨body, ?_, hsound⟩
  rw [hchars, ← hbody]
  exact congrArg (settle (parseModule grammar)) hu

include hcode

/-- A scaffold that is read from its start is read like one below comments. -/
theorem exists_readFrom {text : String} {front : List Char} {rounds position passed : Nat}
    (htext : text.toList = front ++ (heading ++ "\n\n" ++ code ++ "\n").toList)
    (hreturn : '\r' ∉ front) (hnull : Char.ofNat 0 ∉ front) (hrounds : rounds ≤ 2 * front.length)
    (hfront : ∀ tail fuel, Scan.run (fuel + rounds) (.atText [] (front ++ '"' :: tail) 0 0) true =
      Scan.run fuel (.atText [] ('"' :: tail) position passed) true) :
    ∃ more, (Program.parse text).map Program.module =
      (readFrom more position passed (heading ++ "\n\n" ++ code ++ "\n").toList).mapError
        (·.fault) := by
  obtain ⟨inside, hinside, hplain⟩ := hheading
  have hchars : (heading ++ "\n\n" ++ code ++ "\n").toList =
      '"' :: ('"' :: '"' :: (inside ++ ['"', '"', '"', '\n', '\n'] ++ code.toList) ++ ['\n']) := by
    simp [String.toList_append, hinside, docstringChars]
  have hmem : ∀ c, c ∉ front → c ∉ code.toList → isPlainChar c = false → c ∉ ['"', '\n'] →
      c ∉ text.toList := by
    intro c hc hcode hspecial hlayout h
    rw [htext, hchars] at h
    simp only [List.mem_append, List.mem_cons, List.not_mem_nil, or_false, not_or] at h hlayout
    have hbody : c ∉ inside := fun hin => by
      rw [hplain c hin] at hspecial
      cases hspecial
    tauto
  rw [hchars] at htext ⊢
  exact map_module_parse_from htext (hmem _ hreturn hcode.noReturn (by decide) (by decide))
    (hmem _ hnull hsound.noNull (by decide) (by decide)) hrounds hfront

/-- A scaffold compiles as a file of its own, and so it does in a file that was blank. -/
theorem compiles_merged_blank (hne : code ≠ "") {old : Option String}
    (hold : ∀ text, old = some text → trimRight text = "") :
    compiles (merged old (heading ++ "\n\n" ++ code)) = true := by
  have hbody : ∀ rounds position passed, ∃ m,
      (readFrom rounds position passed (heading ++ "\n\n" ++ code ++ "\n").toList).mapError
        (·.fault) = .ok m ∧ m.isLegal = true := by
    intro rounds position passed
    obtain ⟨body, hbody, hlegal⟩ := exists_sound_body hheading hsound rounds position passed
    exact ⟨⟨body⟩, by rw [hbody]; rfl, hlegal.isLegal⟩
  rw [compiles_iff]
  cases old with
  | some text =>
    have hchars : (merged (some text) (heading ++ "\n\n" ++ code)).toList =
        ['\n', '\n'] ++ (heading ++ "\n\n" ++ code ++ "\n").toList := by
      simp [merged, hold text rfl, String.toList_append]
    obtain ⟨more, hmore⟩ := exists_readFrom hheading hcode hsound hchars (by decide) (by decide)
      (by decide) run_blanks
    rw [unmarked_eq_self hchars (by decide), hmore]
    exact hbody more _ _
  | none =>
    obtain ⟨rest, hrest⟩ : ∃ rest, (heading ++ "\n\n" ++ code).toList = '"' :: rest := by
      obtain ⟨inside, hinside, -⟩ := hheading
      exact ⟨_, by rw [String.toList_append, String.toList_append, hinside]; rfl⟩
    obtain ⟨more, hmore⟩ := exists_readFrom hheading hcode hsound (List.nil_append _).symm
      (by decide) (by decide) (Nat.zero_le _) fun _ _ => rfl
    rw [merged, unmarked_eq_self hrest (by decide),
      ← map_module_parse_scaffold hheading hcode hne, hmore]
    exact hbody more 0 0

end

/-! ## Scaffolds below programs -/

/-- A text and a scaffold are read one below the other: the statements of the text, and on lines
further down those that the scaffold has on its own. -/
structure ReadsOn (text scaffold : String) (above below : List Stmt) : Prop where
  upper : (Program.parse (unmarked text)).map Program.module = .ok ⟨above⟩
  lower : ∃ rounds position passed,
    readFrom rounds position passed (scaffold ++ "\n").toList = .ok ⟨below⟩
  joined : (Program.parse (unmarked (merged (some text) scaffold))).map Program.module =
    .ok ⟨above ++ below⟩
  lines : LinesBelow above below

/-- Below a program a scaffold compiles unless it has to come first and does not. -/
theorem ReadsOn.compiles_iff {text heading code : String} {opens : Bool} {above below : List Stmt}
    (h : ReadsOn text (heading ++ "\n\n" ++ code) above below) (htext : compiles text = true)
    (hheading : IsDocstring heading) (hsound : SoundCode opens code) :
    compiles (merged (some text) (heading ++ "\n\n" ++ code)) = true ↔
      (opens = true → ∀ s ∈ above, isPreamble s = true) := by
  obtain ⟨m, hm, hlegal⟩ := Scaffold.compiles_iff.mp htext
  obtain rfl : ⟨above⟩ = m := Except.ok.inj (h.upper.symm.trans hm)
  obtain ⟨rounds, position, passed, hlower⟩ := h.lower
  obtain ⟨body, hbody, hsound⟩ := exists_sound_body hheading hsound rounds position passed
  obtain rfl : below = body := by
    have hsame := Except.ok.inj (hlower.symm.trans hbody)
    exact congrArg Module.body hsame
  rw [Scaffold.compiles_iff, h.joined]
  simp only [Except.ok.injEq, exists_eq_left']
  rw [hsound.append_iff h.lines hlegal]
  simp only [not_and, not_exists, Bool.not_eq_false]

/-! ## Introductions -/

def visitorLines : List String :=
  ["from __future__ import annotations", "", "from abc import ABC, abstractmethod", "", "",
    "class Visitor(ABC):", "    @abstractmethod",
    "    def visit_element(self, el: Element) -> None:  # pragma: no cover - scaffold",
    "        ...", "", "", "class Element(ABC):", "    @abstractmethod",
    "    def accept(self, v: Visitor) -> None: ...", "", "", "class ConcreteElement(Element):",
    "    def accept(self, v: Visitor) -> None:", "        v.visit_element(self)"]

theorem visitor_eq (entry : Option Json) :
    Behavioural.visitor entry = .ok (some ("\n".intercalate visitorLines)) := rfl

def visitorChars : List Char := ['\n'].intercalate (visitorLines.map String.toList)

/-- Whether a text cannot be read, or has a statement about the future after something else. -/
def breaks : Except Verdict Module → Bool
  | .ok m => startsLate m.body
  | .error _ => true

theorem breaks_visitor (u : Unseen) :
    breaks (u.parse passTokens ('\n' :: visitorChars ++ ['\n'])) = true := by
  -- The characters are written out first, for decoding them is slow.
  have hlines : visitorLines.map String.toList = _ := Spelt.map_toList (by repeat constructor)
  unfold visitorChars
  rw [hlines]
  exact eq_true_of_epsilon (fun u : Unseen => breaks (u.parse passTokens _)) (by decide +kernel) u

theorem visitorChars_plain : '\r' ∉ visitorChars ∧ Char.ofNat 0 ∉ visitorChars := by
  have hlines : visitorLines.map String.toList = _ := Spelt.map_toList (by repeat constructor)
  unfold visitorChars
  rw [hlines]
  decide +kernel

theorem compiles_visitor {heading : String} (h : IsDocstring heading) :
    compiles (merged (some "pass\n") (heading ++ "\n\n" ++ "\n".intercalate visitorLines)) =
      false := by
  have hlist : ("\n".intercalate visitorLines).toList = visitorChars :=
    String.toList_intercalate
  obtain ⟨body, htext, hbody⟩ := h
  have hchars : (merged (some "pass\n")
      (heading ++ "\n\n" ++ "\n".intercalate visitorLines)).toList =
      ['p', 'a', 's', 's', '\n', '\n'] ++
        (docstringChars body ++ '\n' :: ('\n' :: visitorChars ++ ['\n'])) := by
    have htrim : trimRight "pass\n" = "pass" := by decide
    unfold merged
    simp [String.toList_append, htext, hlist, htrim]
  obtain ⟨u, hu⟩ :=
    exists_unseen_parse hchars hbody (by simp [visitorChars_plain]) (by decide) run_pass
  rw [← Bool.not_eq_true, compiles_iff, unmarked_eq_self hchars (by decide), hu]
  rintro ⟨m, hm, hlegal⟩
  cases hparse : u.parse passTokens ('\n' :: visitorChars ++ ['\n']) with
  | error verdict =>
    rw [hparse] at hm
    exact nomatch hm
  | ok m' =>
    rw [hparse] at hm
    obtain rfl := Except.ok.inj hm
    have hlate := breaks_visitor u
    rw [hparse] at hlate
    rw [show m'.isLegal = false from isLegal_of_startsLate hlate] at hlegal
    exact nomatch hlegal

theorem draft_visitor : ∃ d, Workshop.stocked.draft (ask "visitor").request = .ok d ∧
    d.code = "\n".intercalate visitorLines := by
  have hcanonical : Naming.canonical "visitor" = "visitor" := by decide
  have hpattern : Table.find? "visitor" Workshop.stocked.patterns = some Behavioural.visitor := by
    simp [Workshop.stocked, Workshop.equipped, patternGenerators, Table.find?_cons]
  have hselect : Workshop.stocked.select ((ask "visitor").request.name.getD "") =
      some (.pattern, "visitor", Behavioural.visitor) := by
    unfold Workshop.select
    simp only [ask, Option.getD_some, hcanonical, hpattern]
  obtain ⟨d, hd, hcode⟩ := stocked_plain.exists_draft hselect
  exact ⟨d, hd, Option.some.inj (Except.ok.inj (hcode.symm.trans (visitor_eq d.entry)))⟩

def lineTree (text : String) : Tree := ⟨[], [(["a.py"], .text text)]⟩

/-- The scaffold of a visitor is put below a text that defines nothing. -/
theorem introduce_visitor (text : String) (hreturn : '\r' ∉ text.toList)
    (hnames : topLevelNames text = []) : ∃ d heading,
    Workshop.stocked.draft (ask "visitor").request = .ok d ∧
      d.code = "\n".intercalate visitorLines ∧ IsDocstring heading ∧
      existing (lineTree text) (ask "visitor").request.target = .ok (some text) ∧
      Workshop.stocked.compose d text = .ok (heading ++ "\n\n" ++ d.code) ∧
      (Workshop.stocked.during (ask "visitor")).introduce (lineTree text) (ask "visitor").request =
        (lineTree (merged (some text) (heading ++ "\n\n" ++ d.code)),
          .ok (.done ((Workshop.stocked.during (ask "visitor")).change (ask "visitor").request d
            (some text) (heading ++ "\n\n" ++ d.code)))) := by
  obtain ⟨d, hd, hcode⟩ := draft_visitor
  have hdraft := (draft_during Workshop.stocked (ask "visitor") _).trans hd
  obtain ⟨heading, hheading, hdocstring⟩ :=
    stocked_plain.heading hd (Size.ofText (if text.isEmpty then d.code else text))
  have hcompose : Workshop.stocked.compose d text = .ok (heading ++ "\n\n" ++ d.code) :=
    compose_eq_ok.mpr ⟨heading, hheading, rfl⟩
  have ho : existing (lineTree text) (ask "visitor").request.target = .ok (some text) := by
    rw [target_ask]
    refine existing_eq_some.mpr ⟨by decide, rfl, rfl, .text text, rfl, ?_⟩
    rw [Content.read, plainNewlines_eq_self hreturn, String.ofList_toList]
  have hput : put (lineTree text) (ask "visitor").request.target
      (merged (some text) (heading ++ "\n\n" ++ d.code)) =
        (lineTree (merged (some text) (heading ++ "\n\n" ++ d.code)), none) := by
    rw [target_ask]
    rfl
  exact ⟨d, heading, hd, hcode, hdocstring, ho, hcompose,
    introduce_eq_written hdraft ho hcompose (isPresent_of_none rfl hnames _) rfl hput⟩

/-! ## Files without statements -/

/-- Whether a text is read as no statement at all. -/
def isSilent : Except Verdict Module → Bool
  | .ok ⟨[]⟩ => true
  | _ => false

theorem eq_ok_of_isSilent {r : Except Verdict Module} (h : isSilent r = true) : r = .ok ⟨[]⟩ := by
  unfold isSilent at h
  split at h
  · rfl
  · cases h

theorem note_parses : (Program.parse "# note\n").map Program.module = .ok ⟨[]⟩ := by
  have hlist : "# note\n".toList = ['#', ' ', 'n', 'o', 't', 'e', '\n'] := String.toList_ofList
  have hchars : (Layout.ofText "# note\n").chars = ['#', ' ', 'n', 'o', 't', 'e', '\n'] := by
    rw [chars_ofText (by rw [hlist]; decide), hlist]
    rfl
  have hparse : settle (parseModule grammar) (lex ['#', ' ', 'n', 'o', 't', 'e', '\n'] 1) =
      .ok ⟨[]⟩ :=
    eq_ok_of_isSilent (by decide +kernel)
  rw [map_module_parse, hchars, hparse, if_neg (by rw [hlist]; decide)]
  rfl

/-- Below a comment a scaffold is read as it is on its own. -/
theorem readsOn_note {opens : Bool} {heading code : String} (hheading : IsDocstring heading)
    (hcode : PlainCode code) (hsound : SoundCode opens code) :
    ∃ below, ReadsOn "# note\n" (heading ++ "\n\n" ++ code) [] below := by
  have hlist : "# note\n".toList = ['#', ' ', 'n', 'o', 't', 'e', '\n'] := String.toList_ofList
  have htrim : trimRight "# note\n" = "# note" := by decide
  have hchars : (merged (some "# note\n") (heading ++ "\n\n" ++ code)).toList =
      ['#', ' ', 'n', 'o', 't', 'e', '\n', '\n'] ++
        (heading ++ "\n\n" ++ code ++ "\n").toList := by
    simp [merged, htrim, String.toList_append]
  have hfront : ∀ tail fuel, Scan.run (fuel + 2)
      (.atText [] (['#', ' ', 'n', 'o', 't', 'e', '\n', '\n'] ++ '"' :: tail) 0 0) true =
        Scan.run fuel (.atText [] ('"' :: tail) 8 2) true := fun _ _ => rfl
  obtain ⟨more, hmore⟩ := exists_readFrom hheading hcode hsound hchars (by decide) (by decide)
    (by decide) hfront
  obtain ⟨below, hbelow, -⟩ := exists_sound_body hheading hsound more 8 2
  refine ⟨below, ?_, ⟨more, 8, 2, hbelow⟩, ?_, fun _ h => absurd h List.not_mem_nil⟩
  · rw [unmarked_eq_self hlist (by decide), note_parses]
  · rw [unmarked_eq_self hchars (by decide), hmore, hbelow]
    rfl

end DesignLens.Scaffold
