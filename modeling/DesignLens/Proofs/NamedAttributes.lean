import DesignLens.Proofs.HeldAttributes

/-!
# Classes with an attribute of a known name

Bridges and composites are recognised by the name of an attribute. Some names are tried in turn, and
the detector settles on the first one that the initialiser mentions, before it looks for a use. If
several names are mentioned, they are rivals, and the order in which the names are tried decides
between them. So the verdict depends on that order unless all the rivals are used or none:
`names_compete`. Nothing says in which order the names should be tried.
-/

namespace DesignLens.Detection

open Source

/-! ## The name that is chosen -/

/-- The text of a function has an attribute of `self` with the given name and ending. -/
def Names (layout : Layout) (ending : String) (m : FunctionDef) (name : String) : Prop :=
  s!"self.{name}{ending}".toList <:+: (textOf layout m).toList

/-- The last initialiser of a class that mentions one of the names. -/
def Decisive (layout : Layout) (names : List String) (ending : String) (c : ClassDef)
    (m : FunctionDef) : Prop :=
  ∃ before after, initializers c = before ++ m :: after ∧
    (∃ name ∈ names, Names layout ending m name) ∧
      ∀ later ∈ after, ∀ name ∈ names, ¬Names layout ending later name

/-- The first name in a list for which something holds. -/
def FirstOf (names : List String) (P : String → Prop) (name : String) : Prop :=
  P name ∧ ∃ before after, names = before ++ name :: after ∧ ∀ other ∈ before, ¬P other

/-- The names that the decisive initialiser mentions. -/
def Rival (layout : Layout) (names : List String) (ending : String) (c : ClassDef)
    (name : String) : Prop :=
  name ∈ names ∧ ∃ m, Decisive layout names ending c m ∧ Names layout ending m name

section
variable {layout : Layout} {names names' : List String} {ending : String} {c : ClassDef}
  {m : FunctionDef} {name : String}

theorem mentions_iff :
    mentions layout s!"self.{name}{ending}" m = true ↔ Names layout ending m name :=
  Text.occurs_iff

theorem find?_mentions_eq_some_iff :
    (names.find? fun name => mentions layout s!"self.{name}{ending}" m) = some name ↔
      FirstOf names (Names layout ending m) name := by
  rw [List.find?_eq_some_iff_append, mentions_iff]
  simp only [Bool.not_eq_true', ← Bool.not_eq_true, mentions_iff]
  rfl

theorem find?_mentions_eq_none_iff :
    (names.find? fun name => mentions layout s!"self.{name}{ending}" m) = none ↔
      ∀ name ∈ names, ¬Names layout ending m name := by
  simp only [List.find?_eq_none, mentions_iff]

theorem FirstOf.mem {P : String → Prop} (h : FirstOf names P name) : name ∈ names := by
  obtain ⟨-, before, after, rfl, -⟩ := h
  exact List.mem_append_right before (List.mem_cons_self ..)

theorem mentionedAttribute?_eq_some_iff :
    mentionedAttribute? layout names ending c = some name ↔
      ∃ m, Decisive layout names ending c m ∧ FirstOf names (Names layout ending m) name := by
  unfold mentionedAttribute? Decisive
  rw [List.getLast?_filterMap, List.findSome?_eq_some_iff]
  simp only [find?_mentions_eq_some_iff, find?_mentions_eq_none_iff]
  constructor
  · rintro ⟨later, m, earlier, hsplit, hfirst, hlater⟩
    refine ⟨m, ⟨earlier.reverse, later.reverse, ?_, ⟨name, hfirst.mem, hfirst.1⟩, ?_⟩, hfirst⟩
    · rw [← List.reverse_reverse (initializers c), hsplit]
      simp only [List.reverse_append, List.reverse_cons, List.append_assoc, List.singleton_append]
    · intro m' hm'
      exact hlater m' (List.mem_reverse.mp hm')
  · rintro ⟨m, ⟨before, after, hsplit, -, hafter⟩, hfirst⟩
    refine ⟨after.reverse, m, before.reverse, ?_, hfirst, ?_⟩
    · rw [hsplit]
      simp only [List.reverse_append, List.reverse_cons, List.append_assoc, List.singleton_append]
    · intro m' hm'
      exact hafter m' (List.mem_reverse.mp hm')

theorem rival_of_chosen (h : mentionedAttribute? layout names ending c = some name) :
    Rival layout names ending c name := by
  obtain ⟨m, hm, hfirst⟩ := mentionedAttribute?_eq_some_iff.mp h
  exact ⟨hfirst.mem, m, hm, hfirst.1⟩

/-- If an initialiser mentions one of the names, one of them is chosen. -/
theorem exists_chosen (hm : IsInitializerOf c m) (hname : name ∈ names)
    (hmentioned : Names layout ending m name) :
    ∃ chosen, mentionedAttribute? layout names ending c = some chosen := by
  cases hchosen : mentionedAttribute? layout names ending c with
  | some chosen => exact ⟨chosen, rfl⟩
  | none =>
    unfold mentionedAttribute? at hchosen
    rw [List.getLast?_filterMap, List.findSome?_eq_none_iff] at hchosen
    have hnone := hchosen m (List.mem_reverse.mpr (mem_initializers_iff.mpr hm))
    exact absurd hmentioned (find?_mentions_eq_none_iff.mp hnone name hname)

theorem Decisive.isInitializerOf (h : Decisive layout names ending c m) : IsInitializerOf c m := by
  obtain ⟨before, after, hsplit, -⟩ := h
  refine mem_initializers_iff.mp ?_
  rw [hsplit]
  exact List.mem_append_right before (List.mem_cons_self ..)

/-! ## Names in another order -/

theorem decisive_perm (h : names.Perm names') :
    Decisive layout names ending c m ↔ Decisive layout names' ending c m := by
  unfold Decisive
  simp only [h.mem_iff]

theorem rival_perm (h : names.Perm names') :
    Rival layout names ending c name ↔ Rival layout names' ending c name := by
  unfold Rival
  simp only [h.mem_iff, decisive_perm h]

/-- Every rival is chosen if it is tried first. -/
theorem exists_order_choosing (h : Rival layout names ending c name) :
    ∃ order, order.Perm names ∧ mentionedAttribute? layout order ending c = some name := by
  have hperm : (name :: names.erase name).Perm names := (List.perm_cons_erase h.1).symm
  obtain ⟨-, m, hm, hmentioned⟩ := (rival_perm hperm).mpr h
  refine ⟨_, hperm, mentionedAttribute?_eq_some_iff.mpr ⟨m, hm, hmentioned, [], _, rfl, ?_⟩⟩
  exact fun other hother => absurd hother List.not_mem_nil

end

/-! ## Verdicts -/

/-- An initialiser mentions one of the names, and the attribute of that name is used. -/
def Fits (layout : Layout) (names : List String) (ending : String) (c : ClassDef)
    (Uses : String → Prop) : Prop :=
  ∃ name ∈ names, (∃ m, IsInitializerOf c m ∧ Names layout ending m name) ∧ Uses name

/-- A detector that settles on the first name that the decisive initialiser mentions. Its reports
are right. They are the same in every order of the names if all the rivals are used or none, and
they are what they should be in every order if a class that fits uses all the rivals. -/
structure DecidedByOrder (family : List String → Detector) (base : List String) (ending : String)
    (layout : Layout) (c : ClassDef) (Uses : String → Prop) : Prop where
  classByClass : ∀ names, ClassByClass (family names)
  reports : ∀ names, Reports (family names) layout c ↔
    ∃ m name, Decisive layout names ending c m ∧ FirstOf names (Names layout ending m) name ∧
      Uses name
  right : ∀ names, Reports (family names) layout c → Fits layout names ending c Uses
  orderless :
    (∀ names names', names.Perm base → names'.Perm base →
      (Reports (family names) layout c ↔ Reports (family names') layout c)) ↔
    ∀ a b, Rival layout base ending c a → Rival layout base ending c b → (Uses a ↔ Uses b)
  agrees :
    (∀ names, names.Perm base →
      (Reports (family names) layout c ↔ Fits layout base ending c Uses)) ↔
    (Fits layout base ending c Uses → ∀ name, Rival layout base ending c name → Uses name)

section
variable {layout : Layout} {names names' : List String} {ending : String} {c : ClassDef}
  {name : String} {Uses : String → Prop}

theorem fits_perm (h : names.Perm names') :
    Fits layout names ending c Uses ↔ Fits layout names' ending c Uses := by
  unfold Fits
  simp only [h.mem_iff]

theorem fits_of_rival (h : Rival layout names ending c name) (huse : Uses name) :
    Fits layout names ending c Uses := by
  obtain ⟨hname, m, hm, hmentioned⟩ := h
  exact ⟨name, hname, ⟨m, hm.isInitializerOf, hmentioned⟩, huse⟩

end

section
variable {family : List String → Detector} {base : List String} {ending : String}
  {layout : Layout} {c : ClassDef} {Uses : String → Prop}
  (hreports : ∀ names, Reports (family names) layout c ↔
    ∃ name, mentionedAttribute? layout names ending c = some name ∧ Uses name)
include hreports

/-- Two rivals are compared in the two orders that choose them. -/
theorem orderless_iff :
    (∀ names names', names.Perm base → names'.Perm base →
      (Reports (family names) layout c ↔ Reports (family names') layout c)) ↔
    ∀ a b, Rival layout base ending c a → Rival layout base ending c b → (Uses a ↔ Uses b) := by
  constructor
  · intro hsame a b ha hb
    obtain ⟨first, hfirst, hchosenA⟩ := exists_order_choosing ha
    obtain ⟨second, hsecond, hchosenB⟩ := exists_order_choosing hb
    have hverdicts := hsame first second hfirst hsecond
    simp only [hreports, hchosenA, hchosenB, Option.some.injEq, exists_eq_left'] at hverdicts
    exact hverdicts
  · intro hrivals names names' hnames hnames'
    have hone : ∀ {order order' : List String}, order.Perm base → order'.Perm base →
        Reports (family order) layout c → Reports (family order') layout c := by
      intro order order' horder horder' h
      obtain ⟨name, hchosen, huse⟩ := (hreports order).mp h
      have hrival := (rival_perm horder).mp (rival_of_chosen hchosen)
      obtain ⟨hname, m, hm, hmentioned⟩ := (rival_perm horder').mpr hrival
      obtain ⟨name', hchosen'⟩ := exists_chosen hm.isInitializerOf hname hmentioned
      have hrival' := (rival_perm horder').mp (rival_of_chosen hchosen')
      exact (hreports order').mpr ⟨name', hchosen', (hrivals name name' hrival hrival').mp huse⟩
    exact ⟨hone hnames hnames', hone hnames' hnames⟩

/-- A class that fits is reported in every order if whatever is chosen is used. -/
theorem agrees_iff :
    (∀ names, names.Perm base →
      (Reports (family names) layout c ↔ Fits layout base ending c Uses)) ↔
    (Fits layout base ending c Uses → ∀ name, Rival layout base ending c name → Uses name) := by
  constructor
  · intro hall hfits name hrival
    obtain ⟨order, horder, hchosen⟩ := exists_order_choosing hrival
    obtain ⟨chosen, hchosen', huse⟩ := (hreports order).mp ((hall order horder).mpr hfits)
    rw [hchosen, Option.some.injEq] at hchosen'
    exact hchosen' ▸ huse
  · intro hused names hnames
    constructor
    · intro h
      obtain ⟨name, hchosen, huse⟩ := (hreports names).mp h
      exact fits_of_rival ((rival_perm hnames).mp (rival_of_chosen hchosen)) huse
    · intro hfits
      obtain ⟨name', hname', ⟨m, hm, hmentioned⟩, -⟩ := (fits_perm hnames).mpr hfits
      obtain ⟨name, hchosen⟩ := exists_chosen hm hname' hmentioned
      have hrival := (rival_perm hnames).mp (rival_of_chosen hchosen)
      exact (hreports names).mpr ⟨name, hchosen, hused hfits name hrival⟩

theorem decidedByOrder_of_reports (hclasses : ∀ names, ClassByClass (family names)) :
    DecidedByOrder family base ending layout c Uses where
  classByClass := hclasses
  reports := by
    intro names
    simp only [hreports, mentionedAttribute?_eq_some_iff]
    constructor
    · rintro ⟨name, ⟨m, hm, hfirst⟩, huse⟩
      exact ⟨m, name, hm, hfirst, huse⟩
    · rintro ⟨m, name, hm, hfirst, huse⟩
      exact ⟨name, ⟨m, hm, hfirst⟩, huse⟩
  right := by
    intro names h
    obtain ⟨name, hchosen, huse⟩ := (hreports names).mp h
    exact fits_of_rival (rival_of_chosen hchosen) huse
  orderless := orderless_iff hreports
  agrees := agrees_iff hreports

end

/-! ## Running over an attribute -/

/-- A loop over an attribute of `self`, or a list or generator whose first clause runs over it. -/
inductive Iterates (attr : String) : Node → Prop where
  | loop {span : Span} {target iterable : Expr} {body orElse : List Stmt} :
      IsSelfAttribute attr iterable →
        Iterates attr (.stmt (.for_ span false target iterable body orElse))
  | list {span : Span} {element : Expr} {first : Comprehension} {rest : List Comprehension} :
      IsSelfAttribute attr first.iterable →
        Iterates attr (.expr (.listComp span element (first :: rest)))
  | generator {span : Span} {element : Expr} {first : Comprehension} {rest : List Comprehension} :
      IsSelfAttribute attr first.iterable →
        Iterates attr (.expr (.generator span element (first :: rest)))

/-- A method other than an initialiser runs over an attribute, at any depth. -/
def RunsOver (c : ClassDef) (attr : String) : Prop :=
  ∃ m, IsOtherMethodOf c m ∧ ∃ n, Node.Within [.stmt (.functionDef m)] n ∧ Iterates attr n

theorem runsOver_iff {attr : String} {n : Node} : runsOver attr n = true ↔ Iterates attr n := by
  constructor
  · intro h
    unfold runsOver at h
    split at h
    · exact .loop (selfAttribute?_eq_some_iff.mp (eq_of_beq h))
    · exact .list (selfAttribute?_eq_some_iff.mp (eq_of_beq h))
    · exact .generator (selfAttribute?_eq_some_iff.mp (eq_of_beq h))
    · cases h
  · rintro (h | h | h) <;> exact beq_iff_eq.mpr (selfAttribute?_eq_some_iff.mpr h)

theorem any_runsOver_iff {c : ClassDef} {attr : String} :
    ((otherMethods c).any fun m => (partsOf m).any (runsOver attr)) = true ↔ RunsOver c attr := by
  unfold RunsOver partsOf Node.walk
  simp only [List.any_eq_true, mem_otherMethods_iff, Node.mem_walkLevels_iff, runsOver_iff]

theorem reports_compositeAmong (names : List String) (layout : Layout) (c : ClassDef) :
    Reports (compositeAmong names) layout c ↔
      ∃ name, mentionedAttribute? layout names "" c = some name ∧ RunsOver c name := by
  unfold Reports compositeAmong
  simp only [perClass_class, ← any_runsOver_iff]
  exact settled_ne_nil_iff

theorem reports_bridgeAmong (names : List String) (layout : Layout) (c : ClassDef) :
    Reports (bridgeAmong names) layout c ↔
      ∃ name, mentionedAttribute? layout names " =" c = some name ∧ UsesPart layout c name := by
  unfold Reports bridgeAmong UsesPart
  simp only [perClass_class, ← any_mentions_iff]
  exact settled_ne_nil_iff

/-- Composites and bridges are recognised by the first name that is mentioned, in whatever order the
names are tried. -/
theorem names_compete (layout : Layout) (c : ClassDef) :
    (composite = compositeAmong childrenNames ∧
      DecidedByOrder compositeAmong childrenNames "" layout c (RunsOver c)) ∧
    bridge = bridgeAmong implementorNames ∧
      DecidedByOrder bridgeAmong implementorNames " =" layout c (UsesPart layout c) := by
  refine ⟨⟨rfl, ?_⟩, rfl, ?_⟩
  · exact decidedByOrder_of_reports (fun names => reports_compositeAmong names layout c)
      fun _ => perClass_classByClass _
  · exact decidedByOrder_of_reports (fun names => reports_bridgeAmong names layout c)
      fun _ => perClass_classByClass _

/-! ## A class with two collections -/

/-- A class that runs over the second one of two collections. -/
def twoCollections : String :=
  "class A:\n def __init__(self):\n  self.children = []\n  self.items = []\n" ++
    " def f(self): [x for x in self.items]\n"

/-- A class in which the order of the names decides which collection is chosen, and only one of them
is run over. -/
def prefersFirst (layout : Layout) (c : ClassDef) : Bool :=
  let runs (attr : String) : Bool := (otherMethods c).any fun m => (partsOf m).any (runsOver attr)
  mentionedAttribute? layout childrenNames "" c == some "children" && !runs "children" &&
    mentionedAttribute? layout childrenNames.reverse "" c == some "items" && runs "items"

theorem parse_twoCollections : ∃ p, Program.parse twoCollections = .ok p ∧
    ∃ c ∈ classesOf p.module.body, prefersFirst p.layout c = true := by
  have hany : (Program.parse twoCollections).toOption.any (fun p =>
      (classesOf p.module.body).any (prefersFirst p.layout)) = true := by
    unfold Program.parse Layout.ofText twoCollections
    rw [String.toList_append, String.toList_ofList, String.toList_ofList]
    decide +kernel
  obtain ⟨p, hparse, hp⟩ := exists_program _ hany
  exact ⟨p, hparse, List.any_eq_true.mp hp⟩

/-- The class keeps a collection and runs over it. It is not reported, but it is reported if the
names are tried in another order. -/
theorem order_flips_verdict : ∃ p c, Program.parse twoCollections = .ok p ∧
    c ∈ classesOf p.module.body ∧ Fits p.layout childrenNames "" c (RunsOver c) ∧
    ¬Reports composite p.layout c ∧
    ∃ names, names.Perm childrenNames ∧ Reports (compositeAmong names) p.layout c := by
  obtain ⟨p, hparse, c, hc, hfirst⟩ := parse_twoCollections
  simp only [prefersFirst, Bool.and_eq_true, beq_iff_eq, Bool.not_eq_true', ← Bool.not_eq_true,
    any_runsOver_iff] at hfirst
  obtain ⟨⟨⟨hchildren, hidle⟩, hitems⟩, hruns⟩ := hfirst
  have hperm : childrenNames.reverse.Perm childrenNames := List.reverse_perm childrenNames
  refine ⟨p, c, hparse, hc, ?_, ?_, childrenNames.reverse, hperm, ?_⟩
  · exact (fits_perm hperm).mp (fits_of_rival (rival_of_chosen hitems) hruns)
  · intro h
    obtain ⟨name, hchosen, hname⟩ := (reports_compositeAmong childrenNames p.layout c).mp h
    obtain rfl : "children" = name := Option.some.inj (hchildren.symm.trans hchosen)
    exact hidle hname
  · exact (reports_compositeAmong _ p.layout c).mpr ⟨"items", hitems, hruns⟩

end DesignLens.Detection
