import DesignLens.Proofs.IndicatorOrder
import DesignLens.Proofs.TreeWalks

/-!
# Long functions and long paragraphs

A scan looks for a long function in the tree of a program, and for a long paragraph that starts with
a definition in the lines of the text. The paragraphs are meant for texts that are no programs, but
they are also looked at if a program has no long function. So a short function can be taken for a
long one because of what follows it: `short_function_reported`. What is reported in each case is
said by `scan_reports_long_function`.
-/

namespace DesignLens.Scan

open Metrics Source

/-! ## Functions of a program -/

/-- A function of a program, at any depth. -/
def IsFunctionOf (p : Program) (d : FunctionDef) : Prop :=
  Node.Within (Node.stmts p.module.body) (.stmt (.functionDef d))

/-- The number of lines from the first line of a function to its last one. -/
def extent (d : FunctionDef) : Int := d.span.endLine - d.span.line + 1

def IsLong (d : FunctionDef) : Prop := 80 < extent d

/-- The long function that a walk through the program comes to first. -/
def FirstLong (p : Program) (d : FunctionDef) : Prop :=
  IsLong d ∧ ∃ before after : List Node,
    Node.Visits (Node.stmts p.module.body) (before ++ .stmt (.functionDef d) :: after) ∧
      ∀ e, Node.stmt (.functionDef e) ∈ before → ¬IsLong e

theorem isLong_iff {d : FunctionDef} : functionLimit < lineCount d ↔ IsLong d := by
  unfold IsLong extent lineCount functionLimit
  omega

theorem lineCount_eq {d : FunctionDef} (h : IsLong d) : (lineCount d : Int) = extent d := by
  unfold IsLong extent at h
  unfold extent lineCount
  omega

section
variable {p : Program} {d : FunctionDef}

theorem mem_functionsOf_iff : d ∈ functionsOf p ↔ IsFunctionOf p d := by
  unfold functionsOf IsFunctionOf
  rw [List.mem_filterMap, ← Node.mem_walkLevels_iff]
  constructor
  · rintro ⟨n, hn, hd⟩
    split at hd
    · exact Option.some.inj hd ▸ hn
    · cases hd
  · exact fun h => ⟨_, h, rfl⟩

theorem longFunction?_eq_none_iff :
    longFunction? p = none ↔ ∀ d, IsFunctionOf p d → ¬IsLong d := by
  unfold longFunction?
  simp only [List.find?_eq_none, mem_functionsOf_iff, decide_eq_true_iff, isLong_iff]

theorem longFunction?_eq_some_iff : longFunction? p = some d ↔ FirstLong p d := by
  unfold longFunction? FirstLong functionsOf
  simp only [Node.visits_iff]
  rw [List.find?_eq_some_iff_append, decide_eq_true_iff, isLong_iff]
  refine and_congr_right fun _ => ?_
  constructor
  · rintro ⟨shorter, others, hsplit, hshorter⟩
    obtain ⟨before, rest, hwalk, rfl, hrest⟩ := List.filterMap_eq_append_iff.mp hsplit
    obtain ⟨skipped, n, after, rfl, hskipped, hn, rfl⟩ := List.filterMap_eq_cons_iff.mp hrest
    have hd : n = .stmt (.functionDef d) := by
      split at hn
      · rw [Option.some.inj hn]
      · cases hn
    subst hd
    refine ⟨before ++ skipped, after, by rw [hwalk, List.append_assoc], fun e he => ?_⟩
    rcases List.mem_append.mp he with he | he
    · have hshort := hshorter e (List.mem_filterMap.mpr ⟨_, he, rfl⟩)
      simpa [isLong_iff] using hshort
    · cases hskipped _ he
  · rintro ⟨before, after, hwalk, hbefore⟩
    rw [← hwalk, List.filterMap_append, List.filterMap_cons]
    refine ⟨_, _, rfl, fun e he => ?_⟩
    obtain ⟨n, hn, he⟩ := List.mem_filterMap.mp he
    split at he
    · rw [Option.some.inj he] at hn
      simpa [isLong_iff] using hbefore e hn
    · cases he

/-- A program with a long function has a first one. -/
theorem exists_firstLong : (∃ d, FirstLong p d) ↔ ∃ d, IsFunctionOf p d ∧ IsLong d := by
  simp only [← longFunction?_eq_some_iff]
  rw [← Option.isSome_iff_exists, Option.isSome_iff_ne_none, ne_eq, longFunction?_eq_none_iff]
  simp only [not_forall, not_not, exists_prop]

end

/-! ## Paragraphs of a text -/

/-- The lines of each paragraph. Paragraphs are parted by empty lines. -/
def paragraphs (text : String) : List (List String) := (Text.pieces "\n\n" text).map Text.lines

/-- A paragraph with more lines than a function may have and a definition in its first lines. -/
def IsLongParagraph (lines : List String) : Prop :=
  80 < lines.length ∧ ∃ line ∈ lines.take 3, Text.startsWith "def " (Text.trim line) = true

/-- The first such paragraph. -/
def FirstLongParagraph (text : String) (lines : List String) : Prop :=
  IsLongParagraph lines ∧ ∃ before after, paragraphs text = before ++ lines :: after ∧
    ∀ other ∈ before, ¬IsLongParagraph other

section
variable {text : String} {lines : List String}

theorem isLongParagraph_iff : (decide (functionLimit < lines.length) &&
    (lines.take 3).any fun line => Text.startsWith "def " (Text.trim line)) = true ↔
      IsLongParagraph lines := by
  rw [Bool.and_eq_true, decide_eq_true_iff, List.any_eq_true]
  rfl

theorem longParagraph?_eq_some_iff :
    longParagraph? text = some lines ↔ FirstLongParagraph text lines := by
  unfold longParagraph? FirstLongParagraph
  rw [List.find?_eq_some_iff_append, isLongParagraph_iff]
  simp only [Bool.not_eq_true', ← Bool.not_eq_true, isLongParagraph_iff]
  rfl

theorem longParagraph?_eq_none_iff :
    longParagraph? text = none ↔ ∀ lines ∈ paragraphs text, ¬IsLongParagraph lines := by
  unfold longParagraph?
  simp only [List.find?_eq_none, isLongParagraph_iff]
  rfl

theorem exists_firstLongParagraph : (∃ lines, FirstLongParagraph text lines) ↔
    ∃ lines ∈ paragraphs text, IsLongParagraph lines := by
  simp only [← longParagraph?_eq_some_iff]
  rw [← Option.isSome_iff_exists, Option.isSome_iff_ne_none, ne_eq, longParagraph?_eq_none_iff]
  simp only [not_forall, not_not, exists_prop]

end

/-! ## What is reported -/

section
variable {text : String} {details : List (String × Json)}

/-- The details of a long function. -/
def functionDetails (d : FunctionDef) : List (String × Json) :=
  [("lines", .int (extent d)), ("name", .str d.name)]

/-- The details of a long paragraph. -/
def paragraphDetails (lines : List String) : List (String × Json) := [("lines", .int lines.length)]

theorem mem_paragraph_iff :
    (⟨.largeFunction, details⟩ : Indicator) ∈ ((longParagraph? text).toList.map fun lines =>
        (⟨.largeFunction, [("lines", .nat lines.length)]⟩ : Indicator)) ↔
      ∃ lines, FirstLongParagraph text lines ∧ details = paragraphDetails lines := by
  simp only [← longParagraph?_eq_some_iff, List.mem_map, Option.mem_toList]
  refine exists_congr fun lines => and_congr_right fun _ => ?_
  rw [Indicator.mk.injEq, eq_comm (a := details)]
  simp only [true_and]
  rfl

theorem mem_largeFunction_of_fault {fault : Fault} (hparse : Program.parse text = .error fault) :
    (⟨.largeFunction, details⟩ : Indicator) ∈ largeFunction text ↔
      ∃ lines, FirstLongParagraph text lines ∧ details = paragraphDetails lines := by
  unfold largeFunction
  rw [hparse]
  exact mem_paragraph_iff

theorem mem_largeFunction_of_program {p : Program} (hparse : Program.parse text = .ok p) :
    (⟨.largeFunction, details⟩ : Indicator) ∈ largeFunction text ↔
      (∃ d, FirstLong p d ∧ details = functionDetails d) ∨
        (∀ d, IsFunctionOf p d → ¬IsLong d) ∧
          ∃ lines, FirstLongParagraph text lines ∧ details = paragraphDetails lines := by
  have hbind : (Program.parse text).toOption.bind longFunction? = longFunction? p := by
    rw [hparse]
    rfl
  unfold largeFunction
  rw [hbind]
  cases hlong : longFunction? p with
  | none =>
    have hshort := longFunction?_eq_none_iff.mp hlong
    have hnone : ¬∃ d, FirstLong p d ∧ details = functionDetails d := by
      rintro ⟨d, hd, -⟩
      exact nomatch hlong.symm.trans (longFunction?_eq_some_iff.mpr hd)
    rw [or_iff_right hnone, and_iff_right hshort]
    exact mem_paragraph_iff
  | some d =>
    have hfirst := longFunction?_eq_some_iff.mp hlong
    have hsome : ¬∀ d, IsFunctionOf p d → ¬IsLong d := fun hshort =>
      nomatch hlong.symm.trans (longFunction?_eq_none_iff.mpr hshort)
    have honly : ∀ e, FirstLong p e ↔ e = d := by
      intro e
      rw [← longFunction?_eq_some_iff, hlong, Option.some.injEq, eq_comm]
    simp only [hsome, false_and, or_false, honly, exists_eq_left, List.mem_singleton,
      Indicator.mk.injEq, true_and]
    rw [functionDetails, ← lineCount_eq hfirst.1]
    rfl

theorem mem_indicators_largeFunction {r : Readings} {found : List Indicator}
    (h : indicators r text = .ok found) :
    (⟨.largeFunction, details⟩ : Indicator) ∈ found ↔
      (⟨.largeFunction, details⟩ : Indicator) ∈ largeFunction text := by
  rw [← filter_largeFunction h, List.mem_filter]
  simp only [decide_true, and_true]

theorem exists_largeFunction_iff {r : Readings} {found : List Indicator} {p : Program}
    (h : indicators r text = .ok found) (hparse : Program.parse text = .ok p) :
    (∃ i ∈ found, i.kind = .largeFunction) ↔
      (∃ d, IsFunctionOf p d ∧ IsLong d) ∨ ∃ lines ∈ paragraphs text, IsLongParagraph lines := by
  have hdetails : (∃ i ∈ found, i.kind = .largeFunction) ↔
      ∃ details, (⟨.largeFunction, details⟩ : Indicator) ∈ found := by
    constructor
    · rintro ⟨⟨kind, details⟩, hi, rfl⟩
      exact ⟨details, hi⟩
    · rintro ⟨details, hi⟩
      exact ⟨_, hi, rfl⟩
  simp only [hdetails, mem_indicators_largeFunction h, mem_largeFunction_of_program hparse]
  rw [← exists_firstLong, ← exists_firstLongParagraph]
  constructor
  · rintro ⟨details, ⟨d, hd, -⟩ | ⟨-, lines, hlines, -⟩⟩
    · exact .inl ⟨d, hd⟩
    · exact .inr ⟨lines, hlines⟩
  · intro hreported
    by_cases hlong : ∃ d, FirstLong p d
    · obtain ⟨d, hd⟩ := hlong
      exact ⟨_, .inl ⟨d, hd, rfl⟩⟩
    · obtain ⟨lines, hlines⟩ := hreported.resolve_left hlong
      refine ⟨_, .inr ⟨fun d hd hdlong => hlong ?_, lines, hlines, rfl⟩⟩
      exact exists_firstLong.mpr ⟨d, hd, hdlong⟩

end

/-- A text with usable readings is scanned. If it is no program, its first long paragraph is
reported. If it is a program, its first long function is reported, or for want of one its first long
paragraph. So the report tells whether there is a long function if there is one or no paragraph is
long. -/
theorem scan_reports_long_function (label : String) {meter : Meter} {text : String}
    (husable : Usable (meter text)) : ∃ result, scanText meter label text = .ok result ∧
      (∀ fault, Program.parse text = .error fault → ∀ details,
        ⟨.largeFunction, details⟩ ∈ result.indicators ↔
          ∃ lines, FirstLongParagraph text lines ∧ details = paragraphDetails lines) ∧
      ∀ p, Program.parse text = .ok p →
        (∀ details, ⟨.largeFunction, details⟩ ∈ result.indicators ↔
          (∃ d, FirstLong p d ∧ details = functionDetails d) ∨
            (∀ d, IsFunctionOf p d → ¬IsLong d) ∧
              ∃ lines, FirstLongParagraph text lines ∧ details = paragraphDetails lines) ∧
        (((∃ i ∈ result.indicators, i.kind = .largeFunction) ↔ ∃ d, IsFunctionOf p d ∧ IsLong d) ↔
          (∃ d, IsFunctionOf p d ∧ IsLong d) ∨
            ∀ lines ∈ paragraphs text, ¬IsLongParagraph lines) := by
  obtain ⟨result, hresult⟩ : ∃ result, scanText meter label text = .ok result :=
    exists_scanText.mpr husable
  have hfound := (scanText_eq_ok.mp hresult).2.2
  refine ⟨result, hresult, fun fault hparse details => ?_, fun p hparse => ⟨fun details => ?_, ?_⟩⟩
  · rw [mem_indicators_largeFunction hfound, mem_largeFunction_of_fault hparse]
  · rw [mem_indicators_largeFunction hfound, mem_largeFunction_of_program hparse]
  · rw [exists_largeFunction_iff hfound hparse, or_iff_left_iff_imp]
    constructor
    · intro himp
      by_cases hlong : ∃ d, IsFunctionOf p d ∧ IsLong d
      · exact .inl hlong
      · exact .inr fun lines hmem hlines => hlong (himp ⟨lines, hmem, hlines⟩)
    · rintro (hlong | hshort) ⟨lines, hmem, hlines⟩
      · exact hlong
      · exact absurd hlines (hshort lines hmem)

/-! ## A long function and a short one -/

/-- A text with a line of its own for each comment sign. -/
def commented (above : List Char) (n : Nat) (below : List Char) : String :=
  String.ofList (above ++ (List.replicate n ['#', '\n']).flatten ++ below)

/-- A method that goes on below eighty lines of comments. -/
def longMethod : String :=
  commented "class A:\n async def f():\n".toList 80 "  pass\n".toList

/-- A function of one line above eighty lines of comments. -/
def shortFunction : String := commented "def f(): pass\n".toList 80 []

theorem parse_longMethod : ∃ p, Program.parse longMethod = .ok p ∧
    ((longFunction? p).map fun d => (extent d, d.name)) = some (82, "f") := by
  have hany : (Program.parse longMethod).toOption.any (fun p =>
      ((longFunction? p).map fun d => (extent d, d.name)) = some (82, "f")) = true := by
    unfold Program.parse Layout.ofText longMethod commented
    rw [String.toList_ofList, String.toList_ofList, String.toList_ofList]
    decide +kernel
  obtain ⟨p, hparse, hp⟩ := exists_program _ hany
  exact ⟨p, hparse, of_decide_eq_true hp⟩

/-- A long method is reported with its name and its number of lines. -/
theorem scan_reports_long_function_method :
    Usable (failingMeter .badValue longMethod) ∧
      ∃ result, scanText (failingMeter .badValue) "<input>" longMethod = .ok result ∧
        ⟨.largeFunction, [("lines", .int 82), ("name", .str "f")]⟩ ∈ result.indicators := by
  have husable : Usable (failingMeter .badValue longMethod) := failingMeter_usable rfl longMethod
  obtain ⟨p, hparse, hp⟩ := parse_longMethod
  obtain ⟨d, hd, hdetails⟩ := Option.map_eq_some_iff.mp hp
  obtain ⟨result, hresult, -, hprogram⟩ := scan_reports_long_function "<input>" husable
  refine ⟨husable, result, hresult, ((hprogram p hparse).1 _).mpr (.inl ⟨d, ?_, ?_⟩)⟩
  · exact longFunction?_eq_some_iff.mp hd
  · obtain ⟨hextent, hname⟩ := Prod.mk.inj hdetails
    rw [functionDetails, hextent, hname]

theorem parse_shortFunction :
    ∃ p, Program.parse shortFunction = .ok p ∧ longFunction? p = none := by
  have hany : (Program.parse shortFunction).toOption.any (fun p => (longFunction? p).isNone) =
      true := by
    unfold Program.parse Layout.ofText shortFunction commented
    rw [String.toList_ofList, String.toList_ofList]
    decide +kernel
  obtain ⟨p, hparse, hp⟩ := exists_program _ hany
  exact ⟨p, hparse, Option.isNone_iff_eq_none.mp hp⟩

/-- The program has no long function, and one is reported. -/
theorem short_function_reported : ∃ p result, Program.parse shortFunction = .ok p ∧
    scanText (failingMeter .badValue) "<input>" shortFunction = .ok result ∧
    (∀ d, IsFunctionOf p d → ¬IsLong d) ∧
    ⟨.largeFunction, [("lines", .int 81)]⟩ ∈ result.indicators := by
  obtain ⟨p, hparse, hp⟩ := parse_shortFunction
  obtain ⟨result, hresult⟩ : ∃ result,
      scanText (failingMeter .badValue) "<input>" shortFunction = .ok result :=
    exists_scanText.mpr (failingMeter_usable rfl shortFunction)
  have hparagraph : (longParagraph? shortFunction).map List.length = some 81 := by
    simp only [longParagraph?, Text.pieces, List.map_map, Function.comp_def, Text.lines,
      String.toList_ofList, shortFunction, commented]
    decide +kernel
  obtain ⟨lines, hlines, hlength⟩ := Option.map_eq_some_iff.mp hparagraph
  have hshort := longFunction?_eq_none_iff.mp hp
  refine ⟨p, result, hparse, hresult, hshort, ?_⟩
  rw [mem_indicators_largeFunction (scanText_eq_ok.mp hresult).2.2,
    mem_largeFunction_of_program hparse]
  refine .inr ⟨hshort, lines, longParagraph?_eq_some_iff.mp hlines, ?_⟩
  rw [paragraphDetails, hlength]
  rfl

end DesignLens.Scan
