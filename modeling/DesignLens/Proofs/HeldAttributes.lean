import DesignLens.Detection.Behavioural
import DesignLens.Proofs.Texts
import DesignLens.Proofs.TreeWalks
import DesignLens.Proofs.WrapperDetectors

/-!
# Classes that hold an object and use it

A class that holds another object assigns it to an attribute in its initialiser and uses it in its
other methods. Proxies, adapters, decorators and strategies are such classes. Their detectors
settle on one attribute, the one that is assigned last, before they look for a use. So a class that
holds anything else besides is missed if that is assigned later: `second_attribute_hides_first`.
`last_attribute_decides` says for which classes this makes a difference.
-/

namespace DesignLens.Detection

open Source

/-! ## Reported classes -/

/-- A detector has something to say about a class. -/
def Reports (d : Detector) (layout : Layout) (c : ClassDef) : Prop := d layout [.classDef c] ≠ []

/-- A detector says of a module what it says of each of its classes. -/
def ClassByClass (d : Detector) : Prop :=
  ∀ layout body, d layout body = (classesOf body).flatMap fun c => d layout [.classDef c]

theorem perClass_class (f : Layout → ClassDef → List Finding) (layout : Layout) (c : ClassDef) :
    perClass f layout [.classDef c] = f layout c :=
  List.append_nil _

theorem perClass_classByClass (f : Layout → ClassDef → List Finding) :
    ClassByClass (perClass f) := by
  intro layout body
  simp only [perClass_class]
  unfold perClass perStatement classesOf
  induction body with
  | nil => rfl
  | cons s rest ih =>
    rw [List.flatMap_cons, ih]
    cases s with
    | classDef c => rfl
    | _ => rfl

/-- Settles on an attribute, if there is one to choose, and reports it if it is used. -/
def settled (choice : Option String) (used : String → Bool) (say : String → Finding) :
    List Finding :=
  match choice with
  | none => []
  | some attr => report (used attr) (say attr)

theorem settled_ne_nil_iff {choice : Option String} {used : String → Bool}
    {say : String → Finding} :
    settled choice used say ≠ [] ↔ ∃ attr, choice = some attr ∧ used attr = true := by
  cases choice with
  | none => simp [settled]
  | some attr => cases huse : used attr <;> simp [settled, report, huse]

/-! ## Methods and what they assign -/

/-- A plain function in the body of a class. -/
def IsMethodOf (c : ClassDef) (m : FunctionDef) : Prop :=
  Stmt.functionDef m ∈ c.body ∧ m.isAsync = false

def IsInitializerOf (c : ClassDef) (m : FunctionDef) : Prop :=
  IsMethodOf c m ∧ m.name = "__init__"

/-- A method other than an initialiser. -/
def IsOtherMethodOf (c : ClassDef) (m : FunctionDef) : Prop :=
  IsMethodOf c m ∧ m.name ≠ "__init__"

/-- The attribute of `self` with the given name. -/
inductive IsSelfAttribute (attr : String) : Expr → Prop where
  | intro (span inner : Span) : IsSelfAttribute attr (.attribute span (.name inner "self") attr)

/-- A statement `self.attr = ...`, perhaps with further targets. -/
def Assigns (s : Stmt) (attr : String) : Prop :=
  ∃ span targets value, s = .assign span targets value ∧ ∃ t ∈ targets, IsSelfAttribute attr t

/-- A statement of an initialiser assigns an attribute. -/
def HoldsDirectly (c : ClassDef) (attr : String) : Prop :=
  ∃ m, IsInitializerOf c m ∧ ∃ s ∈ m.body, Assigns s attr

/-- A statement anywhere inside an initialiser assigns an attribute. -/
def HoldsAnywhere (c : ClassDef) (attr : String) : Prop :=
  ∃ m, IsInitializerOf c m ∧
    ∃ s, Node.Within [.stmt (.functionDef m)] (.stmt s) ∧ Assigns s attr

/-- The text of a method other than an initialiser contains the given text. -/
def SaysElsewhere (layout : Layout) (c : ClassDef) (words : String) : Prop :=
  ∃ m, IsOtherMethodOf c m ∧ words.toList <:+: (textOf layout m).toList

section
variable {c : ClassDef} {m : FunctionDef} {attr : String}

theorem mem_methods_iff : m ∈ methods c ↔ IsMethodOf c m := by
  unfold methods functionsOf IsMethodOf
  rw [List.mem_filterMap]
  constructor
  · rintro ⟨s, hs, hm⟩
    cases s with
    | functionDef d =>
      cases hasync : d.isAsync with
      | true => simp [hasync] at hm
      | false =>
        simp only [hasync, Bool.false_eq_true, if_false, Option.some.injEq] at hm
        exact hm ▸ ⟨hs, hasync⟩
    | _ => cases hm
  · rintro ⟨hm, hasync⟩
    exact ⟨_, hm, by simp [hasync]⟩

theorem mem_initializers_iff : m ∈ initializers c ↔ IsInitializerOf c m := by
  unfold initializers methodsNamed IsInitializerOf
  rw [List.mem_filter, mem_methods_iff]
  simp

theorem mem_otherMethods_iff : m ∈ otherMethods c ↔ IsOtherMethodOf c m := by
  unfold otherMethods IsOtherMethodOf
  rw [List.mem_filter, mem_methods_iff, bne_iff_ne]

theorem selfAttribute?_eq_some_iff {e : Expr} :
    selfAttribute? e = some attr ↔ IsSelfAttribute attr e := by
  constructor
  · intro h
    unfold selfAttribute? at h
    split at h
    · rw [← Option.some.inj h]
      exact .intro _ _
    · cases h
  · rintro ⟨span, inner⟩
    rfl

theorem mem_attributesAssigned_iff {s : Stmt} : attr ∈ attributesAssigned s ↔ Assigns s attr := by
  unfold attributesAssigned Assigns
  simp only [List.mem_filterMap, selfAttribute?_eq_some_iff]
  cases s with
  | assign span targets value =>
    constructor
    · intro h
      exact ⟨span, targets, value, rfl, h⟩
    · rintro ⟨_, _, _, heq, h⟩
      cases heq
      exact h
  | _ => simp [targetsOf]

theorem mem_assignedDirectly_iff :
    attr ∈ (initializers c).flatMap assignedDirectly ↔ HoldsDirectly c attr := by
  unfold assignedDirectly HoldsDirectly
  simp only [List.mem_flatMap, mem_initializers_iff, mem_attributesAssigned_iff]

theorem mem_assignedAnywhere_iff :
    attr ∈ (initializers c).flatMap assignedAnywhere ↔ HoldsAnywhere c attr := by
  unfold assignedAnywhere HoldsAnywhere partsOf Node.walk
  simp only [List.mem_flatMap, mem_initializers_iff, Node.mem_walkLevels_iff]
  refine exists_congr fun m => and_congr_right fun _ => ?_
  constructor
  · rintro ⟨n, hn, hattr⟩
    cases n with
    | stmt s => exact ⟨s, hn, mem_attributesAssigned_iff.mp hattr⟩
    | _ => cases hattr
  · rintro ⟨s, hs, hassigns⟩
    exact ⟨_, hs, mem_attributesAssigned_iff.mpr hassigns⟩

theorem any_mentions_iff {layout : Layout} {words : String} :
    (otherMethods c).any (mentions layout words) = true ↔ SaysElsewhere layout c words := by
  unfold SaysElsewhere mentions
  simp only [List.any_eq_true, mem_otherMethods_iff, Text.occurs_iff]

end

/-! ## The attribute that is assigned last -/

/-- A detector reports a class if the last attribute that the class holds is used. What it reports
holds an attribute and uses it. Whether a class holds an attribute and uses it is told by the
detector if the class uses the last one or none at all. -/
structure DecidedByLast (d : Detector) (layout : Layout) (c : ClassDef) (held : List String)
    (Holds Uses : String → Prop) : Prop where
  classByClass : ClassByClass d
  holds : ∀ attr, attr ∈ held ↔ Holds attr
  reports : Reports d layout c ↔ ∃ last, held.getLast? = some last ∧ Uses last
  right : Reports d layout c → ∃ attr, Holds attr ∧ Uses attr
  agrees : (Reports d layout c ↔ ∃ attr, Holds attr ∧ Uses attr) ↔
    (∃ last, held.getLast? = some last ∧ Uses last) ∨ ∀ attr, Holds attr → ¬Uses attr

theorem decidedByLast_of_reports {d : Detector} {layout : Layout} {c : ClassDef}
    {held : List String} {Holds Uses : String → Prop} (hclasses : ClassByClass d)
    (hholds : ∀ attr, attr ∈ held ↔ Holds attr)
    (hreports : Reports d layout c ↔ ∃ last, held.getLast? = some last ∧ Uses last) :
    DecidedByLast d layout c held Holds Uses := by
  have hright : Reports d layout c → ∃ attr, Holds attr ∧ Uses attr := by
    intro h
    obtain ⟨last, hlast, huse⟩ := hreports.mp h
    exact ⟨last, (hholds last).mp (List.mem_of_getLast? hlast), huse⟩
  refine ⟨hclasses, hholds, hreports, hright, ?_⟩
  rw [← hreports]
  constructor
  · intro hiff
    by_cases h : Reports d layout c
    · exact .inl h
    · exact .inr fun attr hattr huse => h (hiff.mpr ⟨attr, hattr, huse⟩)
  · rintro (h | hnone)
    · exact iff_of_true h (hright h)
    · have hidle : ¬∃ attr, Holds attr ∧ Uses attr := fun ⟨attr, hattr, huse⟩ =>
        hnone attr hattr huse
      exact iff_of_false (fun h => hidle (hright h)) hidle

/-- A method other than an initialiser uses a part of an attribute. -/
def UsesPart (layout : Layout) (c : ClassDef) (attr : String) : Prop :=
  SaysElsewhere layout c s!"self.{attr}."

/-- A method other than an initialiser calls an attribute. -/
def Calls (layout : Layout) (c : ClassDef) (attr : String) : Prop :=
  SaysElsewhere layout c s!"self.{attr}("

theorem delegates_iff {layout : Layout} {c : ClassDef} {attr : String} :
    Delegates layout c attr ↔ wrappedAttribute? c = some attr ∧ UsesPart layout c attr := by
  unfold Delegates UsesPart
  rw [← any_mentions_iff, List.any_eq_true]

theorem reports_of_wrappings {d : Detector} {say : Wrapping → Finding} {layout : Layout}
    (h : ∀ body, d layout body = (wrappings layout body).map say) (c : ClassDef) :
    Reports d layout c ↔ ∃ last, wrappedAttribute? c = some last ∧ UsesPart layout c last := by
  unfold Reports
  rw [h, ne_eq, List.map_eq_nil_iff]
  simp only [← delegates_iff]
  constructor
  · intro hne
    obtain ⟨w, hw⟩ := List.exists_mem_of_ne_nil _ hne
    obtain ⟨howner, hdelegates⟩ := mem_wrappings_iff.mp hw
    rw [List.mem_singleton.mp howner] at hdelegates
    exact ⟨w.attr, hdelegates⟩
  · rintro ⟨last, hlast⟩
    have hw : (⟨c, last⟩ : Wrapping) ∈ wrappings layout [.classDef c] :=
      mem_wrappings_iff.mpr ⟨List.mem_singleton_self c, hlast⟩
    exact List.ne_nil_of_mem hw

theorem reports_strategy (layout : Layout) (c : ClassDef) : Reports strategy layout c ↔
    ∃ last, ((initializers c).flatMap assignedAnywhere).getLast? = some last ∧
      Calls layout c last := by
  unfold Reports strategy Calls
  simp only [perClass_class, ← any_mentions_iff]
  exact settled_ne_nil_iff

/-- The detectors of proxies, adapters and decorators settle on the last attribute that a statement
of an initialiser assigns, that of strategies on the last one that is assigned anywhere in it. -/
theorem last_attribute_decides (layout : Layout) (c : ClassDef) :
    (DecidedByLast proxy layout c ((initializers c).flatMap assignedDirectly) (HoldsDirectly c)
        (UsesPart layout c) ∧
      DecidedByLast adapter layout c ((initializers c).flatMap assignedDirectly) (HoldsDirectly c)
        (UsesPart layout c) ∧
      DecidedByLast decorator layout c ((initializers c).flatMap assignedDirectly) (HoldsDirectly c)
        (UsesPart layout c)) ∧
    DecidedByLast strategy layout c ((initializers c).flatMap assignedAnywhere) (HoldsAnywhere c)
      (Calls layout c) := by
  have hholds : ∀ attr, attr ∈ (initializers c).flatMap assignedDirectly ↔ HoldsDirectly c attr :=
    fun _ => mem_assignedDirectly_iff
  refine ⟨⟨?_, ?_, ?_⟩, ?_⟩
  · exact decidedByLast_of_reports (perClass_classByClass _) hholds
      (reports_of_wrappings (proxy_eq layout) c)
  · exact decidedByLast_of_reports (perClass_classByClass _) hholds
      (reports_of_wrappings (adapter_eq layout) c)
  · exact decidedByLast_of_reports (perClass_classByClass _) hholds
      (reports_of_wrappings (decorator_eq layout) c)
  · exact decidedByLast_of_reports (perClass_classByClass _) (fun _ => mem_assignedAnywhere_iff)
      (reports_strategy layout c)

/-! ## A class with two attributes -/

/-- A class that uses the first one of two attributes and calls it. -/
def twoAttributes : String :=
  "class A:\n def __init__(self, x):\n  self.a = x\n  self.b = 1\n def f(self): self.a(self.a.g)\n"

/-- What the methods of a class assign and say, for two attributes `a` and `b` of which only the
first one is used. -/
def holdsTwo (layout : Layout) (c : ClassDef) : Bool :=
  (initializers c).flatMap assignedDirectly == ["a", "b"] &&
    (initializers c).flatMap assignedAnywhere == ["a", "b"] &&
    ["self.a.", "self.a("].all (fun words => (otherMethods c).any (mentions layout words)) &&
    ["self.b.", "self.b("].all fun words => !(otherMethods c).any (mentions layout words)

theorem parse_twoAttributes : ∃ p, Program.parse twoAttributes = .ok p ∧
    ∃ c ∈ classesOf p.module.body, holdsTwo p.layout c = true := by
  have hany : (Program.parse twoAttributes).toOption.any (fun p =>
      (classesOf p.module.body).any (holdsTwo p.layout)) = true := by
    unfold Program.parse Layout.ofText twoAttributes
    rw [String.toList_ofList]
    decide +kernel
  obtain ⟨p, hparse, hp⟩ := exists_program _ hany
  exact ⟨p, hparse, List.any_eq_true.mp hp⟩

/-- The class holds an attribute, uses it and calls it, and none of the detectors reports it. -/
theorem second_attribute_hides_first : ∃ p c, Program.parse twoAttributes = .ok p ∧
    c ∈ classesOf p.module.body ∧
    (HoldsDirectly c "a" ∧ UsesPart p.layout c "a") ∧ (HoldsAnywhere c "a" ∧ Calls p.layout c "a") ∧
    ¬Reports proxy p.layout c ∧ ¬Reports adapter p.layout c ∧ ¬Reports decorator p.layout c ∧
    ¬Reports strategy p.layout c := by
  obtain ⟨p, hparse, c, hc, htwo⟩ := parse_twoAttributes
  simp only [holdsTwo, Bool.and_eq_true, beq_iff_eq, List.all_cons, List.all_nil, Bool.and_true,
    Bool.not_eq_true', ← Bool.not_eq_true, any_mentions_iff] at htwo
  obtain ⟨⟨⟨hdirect, hanywhere⟩, husesA, hcallsA⟩, husesB, hcallsB⟩ := htwo
  have hwrapped : wrappedAttribute? c = some "b" := by
    unfold wrappedAttribute?
    rw [hdirect]
    rfl
  have hmissed : ¬∃ last, wrappedAttribute? c = some last ∧ UsesPart p.layout c last := by
    rintro ⟨last, hlast, huse⟩
    obtain rfl : "b" = last := Option.some.inj (hwrapped.symm.trans hlast)
    exact husesB huse
  refine ⟨p, c, hparse, hc, ⟨?_, husesA⟩, ⟨?_, hcallsA⟩, ?_, ?_, ?_, ?_⟩
  · rw [← mem_assignedDirectly_iff, hdirect]
    decide
  · rw [← mem_assignedAnywhere_iff, hanywhere]
    decide
  · rwa [reports_of_wrappings (proxy_eq p.layout)]
  · rwa [reports_of_wrappings (adapter_eq p.layout)]
  · rwa [reports_of_wrappings (decorator_eq p.layout)]
  · rw [reports_strategy, hanywhere]
    rintro ⟨last, hlast, hcall⟩
    obtain rfl : "b" = last := Option.some.inj hlast
    exact hcallsB hcall

end DesignLens.Detection
