import DesignLens.Detection.Registry
import DesignLens.Proofs.JoinedPrograms
import DesignLens.Proofs.TableEntries

/-!
# Detectors and text below

Most detectors look at the statements of a module one by one, and at nothing of the text but the
stretches of these statements and of what is inside them. Statements and text that are added below
a text which ends its last line therefore change nothing about what was found before:
`findings_append` says so of thirty detectors.
-/

namespace DesignLens.Source

/-! ## Places in a text with another text below it -/

/-- The characters of a text below a text that ends its last line are laid out on their own. -/
theorem uniformLineEnds_append {cs : List Char} (ds : List Char) (n : Nat)
    (h : cs.getLast? = some '\n') :
    uniformLineEnds n (cs ++ ds) = uniformLineEnds n cs ++ uniformLineEnds (n + cs.length) ds := by
  fun_induction uniformLineEnds n cs with
  | case1 => simp at h
  | case2 n rest ih =>
    rw [List.cons_append, List.cons_append, uniformLineEnds, List.cons_append]
    cases rest with
    | nil => rfl
    | cons d rest =>
      rw [ih (by simpa using h)]
      simp only [List.length_cons]
      congr 3
      omega
  | case3 n c rest hpair ih =>
    rw [List.cons_append, uniformLineEnds, List.cons_append]
    · cases rest with
      | nil => rfl
      | cons d rest =>
        rw [ih (by simpa using h)]
        simp only [List.length_cons]
        congr 3
        omega
    · -- no line end of two characters arises where the texts meet
      intro rest' hc hrest
      cases rest with
      | nil =>
        rw [hc] at h
        exact absurd h (by decide)
      | cons d rest =>
        rw [List.cons_append, List.cons.injEq] at hrest
        exact hpair rest hc (by rw [hrest.1])

theorem place_mem_uniformLineEnds {n : Nat} {cs : List Char} {mark : Char × Nat}
    (h : mark ∈ uniformLineEnds n cs) : n ≤ mark.2 ∧ mark.2 < n + cs.length := by
  fun_induction uniformLineEnds n cs with
  | case1 => cases h
  | case2 n rest ih =>
    rcases List.mem_cons.mp h with rfl | h
    · simp
    · have := ih h
      simp only [List.length_cons]
      omega
  | case3 n c rest hpair ih =>
    rcases List.mem_cons.mp h with rfl | h
    · simp
    · have := ih h
      simp only [List.length_cons]
      omega

/-- The first place of a text is where it starts, which is also its end if it is empty. -/
theorem first_place_uniformLineEnds (n : Nat) (cs : List Char) :
    ((uniformLineEnds n cs).head?.map Prod.snd).getD (n + cs.length) = n := by
  unfold uniformLineEnds
  split <;> rfl

/-- The stretch of a part of a tree, if it has one of its own. -/
def Node.span? : Node → Option Span
  | .stmt s => some s.span
  | .expr e => some e.span
  | .parameter p => some p.nameSpan
  | .keyword k => some k.span
  | .handler h => some h.span
  | .pattern p => some p.span
  | .parameters _ | .comprehension _ | .withItem _ | .matchCase _ => none

/-- The number of positions of a text; its end is one more place. -/
def Layout.extent (layout : Layout) : Nat := layout.offsets.size - 1

/-- A stretch that lies in a text, so that it ends at the end of the last line at the latest. -/
def Layout.Holds (layout : Layout) (span : Span) : Prop := span.stop ≤ layout.extent

theorem extent_ofText (text : String) :
    (Layout.ofText text).extent = (uniformLineEnds 0 text.toList).length := by
  simp [Layout.extent, Layout.ofText]

theorem place_ofText (text : String) (i : Nat) :
    (Layout.ofText text).place i =
      ((uniformLineEnds 0 text.toList)[i]?.map Prod.snd).getD text.toList.length := by
  have hplace : (Layout.ofText text).place i =
      ((uniformLineEnds 0 text.toList).map Prod.snd ++ [text.toList.length])[i]?.getD
        text.toList.length := by
    simp [Layout.place, Layout.ofText]
  rw [hplace, List.getElem?_append]
  split
  · rw [List.getElem?_map]
  · rename_i hlt
    rw [List.length_map, Nat.not_lt] at hlt
    rw [List.getElem?_eq_none hlt, List.getElem?_singleton]
    split <;> rfl

theorem place_of_lt {text : String} {i : Nat} {mark : Char × Nat}
    (h : (uniformLineEnds 0 text.toList)[i]? = some mark) :
    (Layout.ofText text).place i = mark.2 := by
  rw [place_ofText, h]
  rfl

theorem place_of_le {text : String} {i : Nat} (h : (Layout.ofText text).extent ≤ i) :
    (Layout.ofText text).place i = text.toList.length := by
  rw [extent_ofText] at h
  rw [place_ofText, List.getElem?_eq_none h]
  rfl

theorem place_le (text : String) (i : Nat) :
    (Layout.ofText text).place i ≤ text.toList.length := by
  cases hmark : (uniformLineEnds 0 text.toList)[i]? with
  | none =>
    exact Nat.le_of_eq
      (place_of_le (by rw [extent_ofText]; exact List.getElem?_eq_none_iff.mp hmark))
  | some mark =>
    have hbound := place_mem_uniformLineEnds (List.mem_of_getElem? hmark)
    rw [place_of_lt hmark]
    omega

section below

variable {above : String} (below : String) (h : above.toList.getLast? = some '\n')

include h

theorem marks_append :
    uniformLineEnds 0 (above ++ below).toList =
      uniformLineEnds 0 above.toList ++ uniformLineEnds above.toList.length below.toList := by
  rw [String.toList_append, uniformLineEnds_append _ _ h, Nat.zero_add]

/-- Positions of the upper text keep their places. -/
theorem place_append {i : Nat} (hi : i ≤ (Layout.ofText above).extent) :
    (Layout.ofText (above ++ below)).place i = (Layout.ofText above).place i := by
  rw [extent_ofText] at hi
  rcases Nat.lt_or_eq_of_le hi with hlt | heq
  · have hmark := List.getElem?_eq_getElem hlt
    rw [place_of_lt hmark]
    apply place_of_lt
    rw [marks_append below h, List.getElem?_append_left hlt, hmark]
  · -- the end of the upper text is where the lower one starts
    have hend : (Layout.ofText above).place i = above.toList.length :=
      place_of_le (by rw [extent_ofText]; omega)
    rw [hend, place_ofText, marks_append below h,
      List.getElem?_append_right (Nat.le_of_eq heq.symm), heq, Nat.sub_self,
      ← List.head?_eq_getElem?, String.toList_append, List.length_append,
      first_place_uniformLineEnds]

theorem le_place_append {i : Nat} (hi : (Layout.ofText above).extent ≤ i) :
    above.toList.length ≤ (Layout.ofText (above ++ below)).place i := by
  rw [extent_ofText] at hi
  cases hmark : (uniformLineEnds 0 (above ++ below).toList)[i]? with
  | none =>
    rw [place_of_le (by rw [extent_ofText]; exact List.getElem?_eq_none_iff.mp hmark)]
    simp
  | some mark =>
    rw [place_of_lt hmark]
    rw [marks_append below h, List.getElem?_append_right hi] at hmark
    exact (place_mem_uniformLineEnds (List.mem_of_getElem? hmark)).1

/-- A stretch of the upper text reads the same with the lower text below it. -/
theorem segment_append {span : Span} (hspan : (Layout.ofText above).Holds span) :
    (Layout.ofText (above ++ below)).segment span = (Layout.ofText above).segment span := by
  have hstop := place_le above span.stop
  have hwritten : (Layout.ofText (above ++ below)).written = above.toList ++ below.toList :=
    String.toList_append ..
  have hwritten' : (Layout.ofText above).written = above.toList := rfl
  unfold Layout.segment
  simp only [place_append below h hspan, hwritten, hwritten']
  rcases Nat.lt_or_ge (Layout.ofText above).extent span.start with hbeyond | hwithin
  · -- a stretch that starts behind the upper text is empty in both
    rw [place_of_le (Nat.le_of_lt hbeyond), Nat.sub_eq_zero_of_le hstop,
      Nat.sub_eq_zero_of_le (Nat.le_trans hstop (le_place_append below h (Nat.le_of_lt hbeyond)))]
    rfl
  · have hstart := place_le above span.start
    rw [place_append below h hwithin, List.drop_append_of_le_length hstart,
      List.take_append_of_le_length (by rw [List.length_drop]; omega)]

end below

end DesignLens.Source

namespace DesignLens.Detection

open Source

/-! ## What a detector reads of a statement -/

/-- A reading of functions that looks at their text only. -/
def OfText {α : Type} (read : Layout → FunctionDef → α) : Prop :=
  ∀ l l' m, textOf l m = textOf l' m → read l m = read l' m

theorem ofText_mentions (needle : String) : OfText fun l => mentions l needle :=
  fun l l' m h => by simp only [mentions, h]

theorem ofText_mentionsAny (needles : List String) : OfText fun l => mentionsAny l needles :=
  fun l l' m h => by simp only [mentionsAny, mentions, h]

theorem ofText_mentionsAll (needles : List String) : OfText fun l => mentionsAll l needles :=
  fun l l' m h => by simp only [mentionsAll, mentions, h]

theorem ofText_dispatches : OfText dispatches :=
  fun l l' m h => by simp only [dispatches, mentionsAll, mentionsAny, mentions, h]

theorem ofText_forwardedTo : OfText forwardedTo :=
  fun l l' m h => by simp only [forwardedTo, h]

/-- A class that reads the same in two layouts, as a whole and method by method. -/
structure ReadsAlike (l l' : Layout) (c : ClassDef) : Prop where
  whole : l.segment c.span = l'.segment c.span
  each : ∀ m ∈ methods c, textOf l m = textOf l' m

/-- A statement at the top of a module that reads the same in two layouts. -/
def StmtAlike (l l' : Layout) : Stmt → Prop
  | .classDef c => ReadsAlike l l' c
  | .functionDef d => textOf l d = textOf l' d
  | _ => True

theorem methodsNamed_subset (names : List String) (c : ClassDef) :
    methodsNamed names c ⊆ methods c :=
  List.filter_subset_self _

theorem otherMethods_subset (c : ClassDef) : otherMethods c ⊆ methods c :=
  List.filter_subset_self _

namespace ReadsAlike

variable {l l' : Layout} {c : ClassDef} (h : ReadsAlike l l' c) {ms : List FunctionDef}
  (hms : ms ⊆ methods c)

include h hms

theorem map {α : Type} {read : Layout → FunctionDef → α} (hread : OfText read) :
    ms.map (read l) = ms.map (read l') :=
  List.map_congr_left fun m hm => hread l l' m (h.each m (hms hm))

theorem any {read : Layout → FunctionDef → Bool} (hread : OfText read) :
    ms.any (read l) = ms.any (read l') := by
  have hmap := congrArg (List.any · id) (h.map hms hread)
  simpa only [List.any_map, Function.id_comp] using hmap

theorem countP {read : Layout → FunctionDef → Bool} (hread : OfText read) :
    ms.countP (read l) = ms.countP (read l') :=
  List.countP_congr fun m hm => by rw [hread l l' m (h.each m (hms hm))]

theorem find? {read : Layout → FunctionDef → Bool} (hread : OfText read) :
    ms.find? (read l) = ms.find? (read l') := by
  rw [← List.head?_filter, ← List.head?_filter]
  exact congrArg _ (List.filter_congr fun m hm => hread l l' m (h.each m (hms hm)))

theorem any_mentions (needle : String) : ms.any (mentions l needle) = ms.any (mentions l' needle) :=
  h.any hms (ofText_mentions needle)

theorem any_mentionsAny (needles : List String) :
    ms.any (mentionsAny l needles) = ms.any (mentionsAny l' needles) :=
  h.any hms (ofText_mentionsAny needles)

theorem any_mentionsAll (needles : List String) :
    ms.any (mentionsAll l needles) = ms.any (mentionsAll l' needles) :=
  h.any hms (ofText_mentionsAll needles)

end ReadsAlike

theorem ReadsAlike.mentionedAttribute? {l l' : Layout} {c : ClassDef} (h : ReadsAlike l l' c)
    (names : List String) (ending : String) :
    mentionedAttribute? l names ending c = mentionedAttribute? l' names ending c := by
  unfold Detection.mentionedAttribute?
  refine congrArg _ (List.filterMap_congr fun m hm => ?_)
  simp only [mentions, h.each m (methodsNamed_subset _ c hm)]

/-! ## Detectors that take statements one by one -/

/-- A detector that takes the statements of a module one by one, and depends on the text only
through what it reads of each of them. -/
structure Statementwise (d : Detector) : Prop where
  append : ∀ l above below, d l (above ++ below) = d l above ++ d l below
  alike : ∀ l l' body, (∀ s ∈ body, StmtAlike l l' s) → d l body = d l' body

theorem statementwise_perStatement {f : Layout → Stmt → List Finding}
    (h : ∀ l l' s, StmtAlike l l' s → f l s = f l' s) : Statementwise (perStatement f) where
  append _ _ _ := List.flatMap_append
  alike l l' _ halike := List.flatMap_congr fun s hs => h l l' s (halike s hs)

theorem statementwise_perClass {f : Layout → ClassDef → List Finding}
    (h : ∀ l l' c, ReadsAlike l l' c → f l c = f l' c) : Statementwise (perClass f) :=
  statementwise_perStatement fun l l' s hs => by
    cases s with
    | classDef c => exact h l l' c hs
    | _ => rfl

theorem statementwise_perFunction {f : Layout → FunctionDef → List Finding}
    (h : ∀ l l' d, textOf l d = textOf l' d → f l d = f l' d) : Statementwise (perFunction f) :=
  statementwise_perStatement fun l l' s hs => by
    cases s with
    | functionDef d => simp only [h l l' d hs]
    | _ => rfl

/-! ### Patterns that say how objects come into being -/

theorem statementwise_singleton : Statementwise singleton :=
  statementwise_perClass fun _ _ _ _ => rfl

theorem statementwise_factoryMethod : Statementwise factoryMethod :=
  statementwise_perFunction fun _ _ _ _ => rfl

theorem statementwise_builder : Statementwise builder :=
  statementwise_perClass fun l l' c h => by
    simp only [h.any_mentions (otherMethods_subset c), h.any_mentionsAll (methodsNamed_subset _ c)]

theorem statementwise_prototype : Statementwise prototype :=
  statementwise_perClass fun l l' c h => by
    have hfind := h.find? (methodsNamed_subset ["clone", "copy"] c)
      (ofText_mentionsAny ["copy.copy(", "copy.deepcopy("])
    simp only [hfind]

theorem statementwise_borg : Statementwise borg :=
  statementwise_perClass fun l l' c h => by
    simp only [initializers, h.any_mentionsAll (methodsNamed_subset _ c)]

theorem statementwise_pool : Statementwise pool :=
  statementwise_perClass fun l l' c h => by
    simp only [initializers, h.any_mentionsAny (methodsNamed_subset _ c)]

theorem statementwise_lazyEvaluation : Statementwise lazyEvaluation :=
  statementwise_perStatement fun l l' s hs => by
    cases s with
    | classDef c =>
      refine List.flatMap_congr fun m hm => ?_
      simp only [mentionsAll, mentions, hs.each m hm]
    | _ => rfl

/-! ### Patterns that say how objects are put together -/

theorem statementwise_bridge : Statementwise bridge :=
  statementwise_perClass fun l l' c h => by
    simp only [h.mentionedAttribute?, h.any_mentions (otherMethods_subset c)]

theorem statementwise_composite : Statementwise composite :=
  statementwise_perClass fun l l' c h => by simp only [h.mentionedAttribute?]

theorem statementwise_proxy : Statementwise proxy :=
  statementwise_perClass fun l l' c h => by
    cases wrappedAttribute? c with
    | none => rfl
    | some attr =>
      have hfind := h.find? (otherMethods_subset c) (ofText_mentions s!"self.{attr}.")
      simp only [hfind]

theorem statementwise_adapter : Statementwise adapter :=
  statementwise_perClass fun l l' c h => by
    cases wrappedAttribute? c with
    | none => rfl
    | some attr =>
      have hcount := h.countP (otherMethods_subset c) (ofText_mentions s!"self.{attr}.")
      simp only [hcount]

theorem statementwise_decorator : Statementwise decorator :=
  statementwise_perClass fun l l' c h => by simp only [h.any_mentions (otherMethods_subset c)]

theorem statementwise_facade : Statementwise facade :=
  statementwise_perStatement fun _ _ _ _ => rfl

/-! ### Patterns that say how objects work together -/

theorem statementwise_strategy : Statementwise strategy :=
  statementwise_perClass fun l l' c h => by simp only [h.any_mentions (otherMethods_subset c)]

theorem statementwise_observer : Statementwise observer :=
  statementwise_perClass fun l l' c h => by
    have hmap : (methods c).map (textOf l) = (methods c).map (textOf l') :=
      List.map_congr_left h.each
    simp only [hmap]

theorem statementwise_command : Statementwise command :=
  statementwise_perClass fun _ _ _ _ => rfl

theorem statementwise_catalog : Statementwise catalog :=
  statementwise_perStatement fun l l' s hs => by
    cases s with
    | classDef c =>
      have hfind := hs.find? (List.Subset.refl _) ofText_dispatches
      simp only [hfind]
    | functionDef d => simp only [ofText_dispatches l l' d hs]
    | _ => rfl

theorem statementwise_chainingMethod : Statementwise chainingMethod :=
  statementwise_perClass fun l l' c h => by
    have hcount := h.countP (otherMethods_subset c) (ofText_mentions "return self")
    simp only [hcount]

theorem statementwise_chainOfResponsibility : Statementwise chainOfResponsibility :=
  statementwise_perClass fun l l' c h => by
    have hread : OfText fun l m =>
        mentions l ".handle(" m && mentionsAny l ["self.next", "self.successor"] m :=
      fun l l' m hm => by simp only [mentionsAny, mentions, hm]
    have hdelegates := h.any (List.Subset.refl _) hread
    simp only [h.any_mentionsAny (methodsNamed_subset _ c), hdelegates]

theorem statementwise_iterator : Statementwise iterator :=
  statementwise_perClass fun _ _ _ _ => rfl

theorem statementwise_memento : Statementwise memento :=
  statementwise_perClass fun l l' c h => by
    simp only [h.any_mentionsAny (methodsNamed_subset _ c)]

theorem statementwise_publishSubscribe : Statementwise publishSubscribe :=
  statementwise_perClass fun l l' c h => by
    simp only [h.any_mentionsAny (methodsNamed_subset _ c)]

theorem statementwise_registration : Statementwise registration :=
  statementwise_perClass fun _ _ _ _ => rfl

theorem statementwise_specification : Statementwise specification :=
  statementwise_perClass fun _ _ _ _ => rfl

theorem statementwise_state : Statementwise state :=
  statementwise_perClass fun l l' c h => by
    simp only [initializers, h.any_mentions (methodsNamed_subset _ c),
      h.any_mentions (otherMethods_subset c)]

theorem statementwise_templateMethod : Statementwise templateMethod :=
  statementwise_perClass fun _ _ _ _ => rfl

theorem statementwise_visitor : Statementwise visitor :=
  statementwise_perClass fun l l' c h => by
    simp only [h.any_mentions (methodsNamed_subset _ c)]

theorem statementwise_delegation : Statementwise delegation :=
  statementwise_perClass fun l l' c h => by
    have hforwards : ((otherMethods c).flatMap fun m =>
          (forwardedTo l m).map fun attr => (attr, m.name)) =
        (otherMethods c).flatMap fun m => (forwardedTo l' m).map fun attr => (attr, m.name) :=
      List.flatMap_congr fun m hm => by
        rw [ofText_forwardedTo l l' m (h.each m (otherMethods_subset c hm))]
    simp only [hforwards]

/-! ### Architectures -/

theorem statementwise_repository : Statementwise repository :=
  statementwise_perClass fun l l' c h => by simp only [h.whole]

theorem statementwise_unitOfWork : Statementwise unitOfWork :=
  statementwise_perClass fun l l' c h => by simp only [h.whole]

/-- The detectors that take statements one by one, under their names. -/
def statementwiseDetectors : Table Detector :=
  [("Singleton", singleton), ("Strategy", strategy), ("Observer", observer),
    ("Factory Method", factoryMethod), ("Builder", builder), ("Prototype", prototype),
    ("Borg", borg), ("Pool", pool), ("Lazy Evaluation", lazyEvaluation), ("Bridge", bridge),
    ("Composite", composite), ("Proxy", proxy), ("Adapter", adapter), ("Decorator", decorator),
    ("Command", command), ("Catalog", catalog), ("Chaining Method", chainingMethod),
    ("Chain of Responsibility", chainOfResponsibility), ("Iterator", iterator),
    ("Memento", memento), ("Facade", facade), ("Publish-Subscribe", publishSubscribe),
    ("Registry", registration), ("Specification", specification), ("State", state),
    ("Template Method", templateMethod), ("Visitor", visitor),
    ("Delegation Pattern", delegation), ("Repository", repository),
    ("Unit of Work", unitOfWork)]

theorem statementwise_of_mem :
    ∀ entry ∈ statementwiseDetectors, Statementwise entry.2 := by
  simp only [statementwiseDetectors, List.forall_mem_cons, List.not_mem_nil, false_implies,
    implies_true, and_true]
  exact ⟨statementwise_singleton, statementwise_strategy, statementwise_observer,
    statementwise_factoryMethod, statementwise_builder, statementwise_prototype,
    statementwise_borg, statementwise_pool, statementwise_lazyEvaluation, statementwise_bridge,
    statementwise_composite, statementwise_proxy, statementwise_adapter, statementwise_decorator,
    statementwise_command, statementwise_catalog, statementwise_chainingMethod,
    statementwise_chainOfResponsibility, statementwise_iterator, statementwise_memento,
    statementwise_facade, statementwise_publishSubscribe, statementwise_registration,
    statementwise_specification, statementwise_state, statementwise_templateMethod,
    statementwise_visitor, statementwise_delegation, statementwise_repository,
    statementwise_unitOfWork⟩

theorem statementwiseDetectors_subset : statementwiseDetectors ⊆ detectors := by
  simp only [statementwiseDetectors, List.cons_subset, List.nil_subset, and_true]
  repeat' apply And.intro
  all_goals repeat (first | exact List.mem_cons_self | apply List.mem_cons_of_mem)

theorem nodup_keys_detectors : (Table.keys detectors).Nodup := by simp [detectors, Table.keys]

/-! ## Statements below statements -/

/-- Every part of the given statements that has a stretch lies in the text. -/
def LiesIn (layout : Layout) (body : List Stmt) : Prop :=
  ∀ n ∈ Node.walkLevels (Node.stmts body), ∀ span ∈ n.span?, layout.Holds span

theorem mem_body_of_mem_functionsOf {body : List Stmt} {d : FunctionDef}
    (h : d ∈ functionsOf body) : .functionDef d ∈ body := by
  obtain ⟨s, hs, hd⟩ := List.mem_filterMap.mp h
  split at hd
  · split at hd
    · cases hd
    · cases hd
      exact hs
  · cases hd

/-- Statements that lie in a text read the same with another text below it. -/
theorem stmtAlike_append {above : String} (below : String) {body : List Stmt}
    (hline : above.toList.getLast? = some '\n') (hlies : LiesIn (Layout.ofText above) body)
    {s : Stmt} (hs : s ∈ body) :
    StmtAlike (Layout.ofText (above ++ below)) (Layout.ofText above) s := by
  have hnode : Node.stmt s ∈ Node.walkLevels (Node.stmts body) :=
    mem_walkLevels_of_mem (List.mem_map_of_mem hs)
  have hwhole := segment_append below hline (hlies _ hnode _ rfl)
  cases s with
  | functionDef d => exact hwhole
  | classDef c =>
    refine ⟨hwhole, fun m hm => ?_⟩
    have hchild : Node.stmt (.functionDef m) ∈ (Node.stmt (.classDef c)).children := by
      have hbody := List.mem_map_of_mem (f := Node.stmt) (mem_body_of_mem_functionsOf hm)
      simp only [Node.children, Node.ofStmt, Node.stmts, List.mem_append]
      exact .inl (.inr hbody)
    exact segment_append below hline (hlies _ (Node.mem_walkLevels_of_child hnode hchild) _ rfl)
  | _ => trivial

/-- Each of the thirty detectors that take statements one by one finds in two groups of statements
what it finds in each. If the upper group lies in a text that ends its last line, then it finds
there what it finds in that text alone, so that nothing put below hides or changes a finding. -/
theorem findings_append {name : String} {detect : Detector} {above below : String}
    {upper lower : List Stmt} (hdetect : (name, detect) ∈ statementwiseDetectors)
    (hline : above.toList.getLast? = some '\n') (hlies : LiesIn (Layout.ofText above) upper) :
    Table.find? name detectors = some detect ∧
      detect (Layout.ofText (above ++ below)) (upper ++ lower) =
        detect (Layout.ofText above) upper ++ detect (Layout.ofText (above ++ below)) lower := by
  have hone : Statementwise detect := statementwise_of_mem _ hdetect
  refine ⟨Table.find?_of_mem nodup_keys_detectors (statementwiseDetectors_subset hdetect), ?_⟩
  rw [hone.append, hone.alike _ (Layout.ofText above) upper fun s hs =>
    stmtAlike_append below hline hlies hs]

/-- A class with a method that calls a visitor, on two lines. -/
def visitedLines : String := "class A:\n def accept(s, v): v.visit_a(s)\n"

def visitedClass : ClassDef :=
  ⟨⟨1, 2, 0, 40⟩, "A", [], [],
    [.functionDef ⟨⟨2, 2, 10, 40⟩, false, "accept",
      ⟨[], [⟨"s", none, ⟨2, 2, 21, 22⟩⟩, ⟨"v", none, ⟨2, 2, 24, 25⟩⟩], [], none, [], [], none⟩,
      [.expr ⟨2, 2, 28, 40⟩ (.call ⟨2, 2, 28, 40⟩
        (.attribute ⟨2, 2, 28, 37⟩ (.name ⟨2, 2, 28, 29⟩ "v") "visit_a")
        [.name ⟨2, 2, 38, 39⟩ "s"] [])], [], none, 26⟩], []⟩

theorem visitedClass_liesIn : LiesIn (Layout.ofText visitedLines) [.classDef visitedClass] := by
  have hextent : (Layout.ofText visitedLines).extent = 41 := by decide
  simp [LiesIn, Layout.Holds, hextent, visitedClass, Node.walkLevels, Node.stmts, Node.children,
    Node.ofStmt, Node.ofExpr, Node.exprs, Node.optional, Node.span?, Stmt.span, Expr.span]

theorem findings_append_visited :
    LiesIn (Layout.ofText visitedLines) [.classDef visitedClass] ∧
      (visitor (Layout.ofText visitedLines) [.classDef visitedClass]).length = 1 ∧
      visitor (Layout.ofText (visitedLines ++ "pass\n"))
          ([.classDef visitedClass] ++ [.pass ⟨3, 3, 41, 45⟩]) =
        visitor (Layout.ofText visitedLines) [.classDef visitedClass] ++
          visitor (Layout.ofText (visitedLines ++ "pass\n")) [.pass ⟨3, 3, 41, 45⟩] := by
  have hvisitor : ("Visitor", visitor) ∈ statementwiseDetectors := by simp [statementwiseDetectors]
  exact ⟨visitedClass_liesIn, by decide,
    (findings_append hvisitor (by decide) visitedClass_liesIn).2⟩

end DesignLens.Detection
