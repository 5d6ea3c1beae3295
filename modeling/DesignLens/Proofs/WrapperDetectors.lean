import DesignLens.Detection.Structural

/-!
# Classes that wrap an object

Proxies, adapters and decorators are recognised by three loops: one stops at the first method that
uses the wrapped object, one counts such methods, one keeps a flag. They all decide the same
condition, so that the three detectors never tell the three patterns apart: `wrappers_coincide`.
-/

namespace DesignLens.Detection

open Source

/-- A method other than an initialiser uses the attribute that the initialisers assign last. -/
def Delegates (layout : Layout) (c : ClassDef) (attr : String) : Prop :=
  wrappedAttribute? c = some attr ∧ ∃ m ∈ otherMethods c, mentions layout s!"self.{attr}." m

/-- A class with the attribute that holds the wrapped object. -/
structure Wrapping where
  owner : ClassDef
  attr : String

def Wrapping.proxy (w : Wrapping) : Finding :=
  ⟨"Proxy", hundredths 65, s!"Class {w.owner.name} delegates to real subject via self.{w.attr}"⟩

def Wrapping.adapter (w : Wrapping) : Finding :=
  ⟨"Adapter", hundredths 60, s!"Class {w.owner.name} delegates to adaptee via self.{w.attr}"⟩

def Wrapping.decorator (w : Wrapping) : Finding :=
  ⟨"Decorator", hundredths 65,
    s!"Class {w.owner.name} delegates to wrapped component via self.{w.attr}"⟩

/-- Whether a method other than an initialiser uses an attribute. -/
def usesAttribute (layout : Layout) (c : ClassDef) (attr : String) : Bool :=
  (otherMethods c).any (mentions layout s!"self.{attr}.")

/-- What a class wraps, if a method uses it. -/
def wrapping? (layout : Layout) (c : ClassDef) : Option Wrapping :=
  ((wrappedAttribute? c).filter (usesAttribute layout c)).map (Wrapping.mk c)

/-- The classes of a module that wrap an object, in the order in which they stand. -/
def wrappings (layout : Layout) (body : List Stmt) : List Wrapping :=
  (classesOf body).filterMap (wrapping? layout)

theorem usesAttribute_iff {layout : Layout} {c : ClassDef} {attr : String} :
    usesAttribute layout c attr = true ↔
      ∃ m ∈ otherMethods c, mentions layout s!"self.{attr}." m = true :=
  List.any_eq_true

theorem wrapping?_eq_some_iff {layout : Layout} {c : ClassDef} {w : Wrapping} :
    wrapping? layout c = some w ↔ c = w.owner ∧ Delegates layout c w.attr := by
  unfold wrapping? Delegates
  rw [Option.map_eq_some_iff]
  constructor
  · rintro ⟨attr, hattr, rfl⟩
    rw [Option.filter_eq_some_iff, usesAttribute_iff] at hattr
    exact ⟨rfl, hattr⟩
  · rintro ⟨rfl, hattr⟩
    rw [← usesAttribute_iff] at hattr
    exact ⟨w.attr, Option.filter_eq_some_iff.mpr hattr, rfl⟩

theorem mem_wrappings_iff {layout : Layout} {body : List Stmt} {w : Wrapping} :
    w ∈ wrappings layout body ↔ w.owner ∈ classesOf body ∧ Delegates layout w.owner w.attr := by
  unfold wrappings
  rw [List.mem_filterMap]
  constructor
  · rintro ⟨c, hc, hw⟩
    obtain ⟨rfl, hdelegates⟩ := wrapping?_eq_some_iff.mp hw
    exact ⟨hc, hdelegates⟩
  · rintro ⟨hc, hdelegates⟩
    exact ⟨w.owner, hc, wrapping?_eq_some_iff.mpr ⟨rfl, hdelegates⟩⟩

/-- A class stands among the wrappings where it stands in the module. -/
theorem owners_sublist (layout : Layout) (body : List Stmt) :
    ((wrappings layout body).map Wrapping.owner).Sublist (classesOf body) := by
  unfold wrappings
  induction classesOf body with
  | nil => exact .slnil
  | cons c rest ih =>
    cases hw : wrapping? layout c with
    | none =>
      rw [List.filterMap_cons_none hw]
      exact ih.cons c
    | some w =>
      rw [List.filterMap_cons_some hw, List.map_cons, ← (wrapping?_eq_some_iff.mp hw).1]
      exact ih.cons_cons c

/-- A detector that reports a class if a method uses its wrapped attribute reports the wrappings of
a module. -/
theorem perClass_eq_map_wrappings {f : Layout → ClassDef → List Finding} {say : Wrapping → Finding}
    {layout : Layout} (hnone : ∀ c, wrappedAttribute? c = none → f layout c = [])
    (hsome : ∀ c attr, wrappedAttribute? c = some attr →
      f layout c = report (usesAttribute layout c attr) (say ⟨c, attr⟩))
    (body : List Stmt) : perClass f layout body = (wrappings layout body).map say := by
  have hclass : ∀ c, f layout c = ((wrapping? layout c).map say).toList := by
    intro c
    unfold wrapping?
    cases hattr : wrappedAttribute? c with
    | none => exact hnone c hattr
    | some attr =>
      rw [hsome c attr hattr]
      cases huse : usesAttribute layout c attr with
      | true =>
        rw [Option.filter_some_pos huse]
        rfl
      | false =>
        rw [Option.filter_some_neg huse]
        rfl
  unfold perClass perStatement wrappings classesOf
  induction body with
  | nil => rfl
  | cons s rest ih =>
    rw [List.flatMap_cons, ih]
    cases s with
    | classDef c =>
      simp only [hclass c, List.filterMap_cons]
      cases wrapping? layout c <;> rfl
    | _ => rfl

/-- The loop that stops at the first method. -/
theorem proxy_eq (layout : Layout) (body : List Stmt) :
    proxy layout body = (wrappings layout body).map Wrapping.proxy := by
  refine perClass_eq_map_wrappings (fun c hattr => ?_) (fun c attr hattr => ?_) body
  · simp only [hattr]
  · simp only [hattr]
    cases hfind : (otherMethods c).find? (mentions layout s!"self.{attr}.") with
    | none =>
      have hidle : usesAttribute layout c attr = false := by
        rw [List.find?_eq_none] at hfind
        exact List.any_eq_false.mpr hfind
      rw [hidle]
      rfl
    | some m =>
      have huse : usesAttribute layout c attr = true :=
        usesAttribute_iff.mpr ⟨m, List.mem_of_find?_eq_some hfind, List.find?_some hfind⟩
      rw [huse]
      rfl

/-- The loop that counts. -/
theorem adapter_eq (layout : Layout) (body : List Stmt) :
    adapter layout body = (wrappings layout body).map Wrapping.adapter := by
  refine perClass_eq_map_wrappings (fun c hattr => ?_) (fun c attr hattr => ?_) body
  · simp only [hattr]
  · have hcount : decide (1 ≤ (otherMethods c).countP (mentions layout s!"self.{attr}.")) =
        usesAttribute layout c attr := by
      rw [Bool.eq_iff_iff, decide_eq_true_iff, Nat.succ_le_iff, List.countP_pos_iff,
        usesAttribute_iff]
    simp only [hattr, hcount]
    rfl

/-- The loop that keeps a flag. -/
theorem decorator_eq (layout : Layout) (body : List Stmt) :
    decorator layout body = (wrappings layout body).map Wrapping.decorator := by
  refine perClass_eq_map_wrappings (fun c hattr => ?_) (fun c attr hattr => ?_) body
  · simp only [hattr]
  · simp only [hattr]
    rfl

/-- The three detectors report the same classes of a module, in the same order and with the same
attribute: those that use, in a method other than an initialiser, the attribute which their
initialisers assign last. -/
theorem wrappers_coincide (layout : Layout) (body : List Stmt) :
    (proxy layout body = (wrappings layout body).map Wrapping.proxy ∧
      adapter layout body = (wrappings layout body).map Wrapping.adapter ∧
      decorator layout body = (wrappings layout body).map Wrapping.decorator) ∧
    ((wrappings layout body).map Wrapping.owner).Sublist (classesOf body) ∧
    ∀ w : Wrapping, w ∈ wrappings layout body ↔
      w.owner ∈ classesOf body ∧ Delegates layout w.owner w.attr :=
  ⟨⟨proxy_eq layout body, adapter_eq layout body, decorator_eq layout body⟩,
    owners_sublist layout body, fun _ => mem_wrappings_iff⟩

end DesignLens.Detection
