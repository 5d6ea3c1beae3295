import DesignLens.Proofs.JsonDocuments

/-!
# Telling values by their lines

On one line, the text of a value is told from the text of any other value by its characters alone,
wherever it stands: its first character says of what kind the value is, a number goes on as long as
there are characters of numbers, a string ends at the first quote that is not escaped, and an array
or object ends where no comma follows. No reader is needed for that, so the length of whole numbers
does not matter. Floating point numbers are left out.
-/

namespace DesignLens.Json

/-- A thing is told from others by its text and what follows that. -/
def Delimits {α : Type} (p : α → Prop) (text : α → List Char) (a : α) : Prop :=
  ∀ b, p b → ∀ rest rest', Ends rest → Ends rest' → text a ++ rest = text b ++ rest' →
    a = b ∧ rest = rest'

/-! ## Strings and numbers -/

theorem writeString_append_inj {asciiOnly : Bool} {s t : String} {rest rest' : List Char}
    (h : (writeString asciiOnly s).toList ++ rest = (writeString asciiOnly t).toList ++ rest') :
    s = t ∧ rest = rest' := by
  have hread := readString_writeString asciiOnly s rest 0
  rw [h, readString_writeString asciiOnly t rest' 0] at hread
  simp only [Except.ok.injEq, Prod.mk.injEq, Rest.mk.injEq] at hread
  exact ⟨hread.1.symm, hread.2.1.symm⟩

/-- Characters of numbers end where other characters begin. -/
theorem numeric_append_inj {w w' rest rest' : List Char} (hw : IsNumeric w) (hw' : IsNumeric w')
    (hrest : Ends rest) (hrest' : Ends rest') (h : w ++ rest = w' ++ rest') :
    w = w' ∧ rest = rest' := by
  have htaken : ∀ {w rest : List Char}, IsNumeric w → Ends rest →
      (w ++ rest).takeWhile inNumber = w := by
    intro w rest hw hrest
    rw [List.takeWhile_append_of_pos hw]
    cases rest with
    | nil => simp
    | cons c rest =>
      rw [List.takeWhile_cons_of_neg (by simpa using hrest c rfl), List.append_nil]
  have hfront : w = w' := by rw [← htaken hw hrest, h, htaken hw' hrest']
  subst hfront
  exact ⟨rfl, List.append_cancel_left h⟩

theorem toString_int_inj {n m : Int} (h : (toString n).toList = (toString m).toList) : n = m := by
  have hnumeral := congrArg numeralAt h
  rw [numeralAt_toString, numeralAt_toString, Numeral.mk.injEq] at hnumeral
  have hsize := congrArg (fun ds => Number.natOfDigits (digitValues ds)) hnumeral.2.1
  simp only [natOfDigits_toDigits] at hsize
  have hsign : n < 0 ↔ m < 0 := decide_eq_decide.mp hnumeral.1
  omega

/-! ## Lists of texts -/

/-- What follows the first text of a list, up to its end. -/
def sequel (close : Char) : List (List Char) → List Char
  | [] => [close]
  | w :: ws => ',' :: ' ' :: (w ++ sequel close ws)

/-- What follows an opening bracket, up to its end. -/
def inside (close : Char) : List (List Char) → List Char
  | [] => [close]
  | w :: ws => w ++ sequel close ws

theorem toList_enclose_line (level : Nat) {opening closing : String} (first last : Char)
    (hopening : opening.toList = [first]) (hclosing : closing.toList = [last])
    (items : List String) :
    (enclose .line level opening closing items).toList =
      first :: inside last (items.map String.toList) := by
  cases items with
  | nil => simp [enclose, hopening, hclosing, inside]
  | cons item items =>
    have hjoined : ∀ (w : List Char) (ws : List (List Char)),
        [',', ' '].intercalate (w :: ws) ++ [last] = w ++ sequel last ws := by
      intro w ws
      induction ws generalizing w with
      | nil => simp [sequel]
      | cons next ws ih =>
        rw [List.intercalate_cons_cons, List.append_assoc, ih, sequel]
        simp
    have hcomma : (", " : String).toList = [',', ' '] := rfl
    rw [enclose]
    simp only [List.isEmpty_cons, Bool.false_eq_true, if_false, Layout.line, lineBreak,
      Option.isSome_none, String.toList_append, String.toList_intercalate, hopening, hclosing,
      hcomma, List.map_cons, inside, String.append_empty]
    simpa using hjoined item.toList (items.map String.toList)

section Lists

variable {α : Type} {p : α → Prop} {text : α → List Char} {close : Char} {rest rest' : List Char}

theorem ends_sequel (hclose : inNumber close = false) (ws : List (List Char)) (rest : List Char) :
    Ends (sequel close ws ++ rest) := by
  cases ws with
  | nil => exact ends_cons hclose rest
  | cons w ws => exact ends_cons (by decide) _

/-- Lists of things that are told from others are told from other lists. -/
theorem sequel_append_inj (hclose : inNumber close = false) (hcomma : close ≠ ',') {as bs : List α}
    (has : ∀ a ∈ as, Delimits p text a) (hbs : ∀ b ∈ bs, p b)
    (h : sequel close (as.map text) ++ rest = sequel close (bs.map text) ++ rest') :
    as = bs ∧ rest = rest' := by
  induction as generalizing bs with
  | nil =>
    cases bs with
    | nil => simpa [sequel] using h
    | cons b bs => simp [sequel, hcomma] at h
  | cons a as ih =>
    cases bs with
    | nil => simp [sequel, Ne.symm hcomma] at h
    | cons b bs =>
      rw [List.forall_mem_cons] at has hbs
      simp only [List.map_cons, sequel, List.cons_append, List.cons.injEq, true_and,
        List.append_assoc] at h
      obtain ⟨hab, hmore⟩ :=
        has.1 b hbs.1 _ _ (ends_sequel hclose _ _) (ends_sequel hclose _ _) h
      obtain ⟨hmany, hrest⟩ := ih has.2 hbs.2 hmore
      exact ⟨by rw [hab, hmany], hrest⟩

theorem inside_append_inj (hclose : inNumber close = false) (hcomma : close ≠ ',') {as bs : List α}
    (has : ∀ a ∈ as, Delimits p text a) (hbs : ∀ b ∈ bs, p b)
    (hstart : ∀ a, p a → (text a).head? ≠ some close ∧ text a ≠ []) (hpas : ∀ a ∈ as, p a)
    (h : inside close (as.map text) ++ rest = inside close (bs.map text) ++ rest') :
    as = bs ∧ rest = rest' := by
  -- An empty list is told by its closing bracket, with which no text of a thing starts.
  have hempty : ∀ {b : α} (more rest : List Char), p b → close :: rest ≠ text b ++ more := by
    intro b more rest hb heq
    obtain ⟨hhead, hne⟩ := hstart b hb
    cases htext : text b with
    | nil => exact hne htext
    | cons c cs =>
      rw [htext, List.cons_append, List.cons.injEq] at heq
      rw [htext, heq.1] at hhead
      exact hhead rfl
  cases as with
  | nil =>
    cases bs with
    | nil => simpa [inside] using h
    | cons b bs =>
      simp only [List.map_nil, List.map_cons, inside, List.append_assoc] at h
      exact absurd h (hempty _ _ (hbs b List.mem_cons_self))
  | cons a as =>
    cases bs with
    | nil =>
      simp only [List.map_nil, List.map_cons, inside, List.append_assoc] at h
      exact absurd h.symm (hempty _ _ (hpas a List.mem_cons_self))
    | cons b bs =>
      rw [List.forall_mem_cons] at has hbs
      simp only [List.map_cons, inside, List.append_assoc] at h
      obtain ⟨hab, hmore⟩ :=
        has.1 b hbs.1 _ _ (ends_sequel hclose _ _) (ends_sequel hclose _ _) h
      obtain ⟨hmany, hrest⟩ := sequel_append_inj hclose hcomma has.2 hbs.2 hmore
      exact ⟨by rw [hab, hmany], hrest⟩

end Lists

/-! ## Values -/

mutual

/-- A value without floating point numbers, in which whole numbers are not too long to be written
and no object has a name twice. -/
def IsPlain : Json → Prop
  | .int n => (Nat.toDigits 10 n.natAbs).length ≤ 4300
  | .float _ => False
  | .arr items => ArePlain items
  | .obj fields => (Table.keys fields).Nodup ∧ FieldsPlain fields
  | _ => True

def ArePlain : List Json → Prop
  | [] => True
  | v :: rest => IsPlain v ∧ ArePlain rest

def FieldsPlain : List (String × Json) → Prop
  | [] => True
  | (_, v) :: rest => IsPlain v ∧ FieldsPlain rest

end

theorem arePlain_iff {items : List Json} : ArePlain items ↔ ∀ v ∈ items, v.IsPlain := by
  induction items with
  | nil => simp [ArePlain]
  | cons v items ih => simp [ArePlain, ih]

theorem fieldsPlain_iff {fields : List (String × Json)} :
    FieldsPlain fields ↔ ∀ f ∈ fields, f.2.IsPlain := by
  induction fields with
  | nil => simp [FieldsPlain]
  | cons f fields ih =>
    rw [List.forall_mem_cons, ← ih]
    rfl

/-- The kinds of values that the first character tells apart. -/
inductive Kind where
  | none
  | null
  | yes
  | no
  | number
  | text
  | array
  | object
  deriving DecidableEq

def kindOf : Json → Kind
  | .null => .null
  | .bool true => .yes
  | .bool false => .no
  | .int _ | .float _ => .number
  | .str _ => .text
  | .arr _ => .array
  | .obj _ => .object

def kindAt (c : Char) : Kind :=
  if inNumber c then .number
  else if c = 'n' then .null
  else if c = 't' then .yes
  else if c = 'f' then .no
  else if c = '"' then .text
  else if c = '[' then .array
  else if c = '\x7b' then .object
  else .none

/-- The text of a value on one line. -/
def lineAt (level : Nat) (v : Json) : List Char := (writeAt .line level v).toList

theorem writeItems_eq_map (layout : Layout) (level : Nat) (items : List Json) :
    writeItems layout level items = items.map (writeAt layout level) := by
  induction items with
  | nil => rfl
  | cons v items ih => rw [writeItems, ih, List.map_cons]

theorem writeFields_eq_map (layout : Layout) (level : Nat) (fields : List (String × Json)) :
    writeFields layout level fields = fields.map fun f => (f.1, writeAt layout level f.2) := by
  induction fields with
  | nil => rfl
  | cons f fields ih => rw [writeFields, ih, List.map_cons]

theorem lineAt_arr (level : Nat) (items : List Json) :
    lineAt level (.arr items) = '[' :: inside ']' (items.map (lineAt (level + 1))) := by
  rw [lineAt, writeAt, toList_enclose_line level '[' ']' rfl rfl,
    writeItems_eq_map, List.map_map]
  rfl

/-- The text of a field on one line. -/
def fieldLine (level : Nat) (f : String × Json) : List Char :=
  (writeString true f.1).toList ++ ':' :: ' ' :: lineAt level f.2

theorem lineAt_obj (level : Nat) (fields : List (String × Json)) :
    lineAt level (.obj fields) =
      '\x7b' :: inside '\x7d' (fields.map (fieldLine (level + 1))) := by
  rw [lineAt, writeAt]
  simp only [Layout.line, Bool.false_eq_true, if_false]
  have hfields : ((writeFields .line (level + 1) fields).map fun f =>
      writeString true f.1 ++ ": " ++ f.2).map String.toList =
        fields.map (fieldLine (level + 1)) := by
    rw [writeFields_eq_map, List.map_map, List.map_map]
    refine List.map_congr_left fun f _ => ?_
    simp [fieldLine, lineAt]
  rw [← Layout.line, toList_enclose_line level '\x7b' '\x7d' rfl rfl, hfields]

theorem exists_lineAt (level : Nat) {v : Json} (hv : v.IsPlain) :
    ∃ c cs, lineAt level v = c :: cs ∧ kindAt c = kindOf v := by
  cases v with
  | null => exact ⟨'n', ['u', 'l', 'l'], by rw [lineAt, writeAt]; rfl, rfl⟩
  | bool b =>
    cases b with
    | true => exact ⟨'t', ['r', 'u', 'e'], by rw [lineAt, writeAt]; rfl, rfl⟩
    | false => exact ⟨'f', ['a', 'l', 's', 'e'], by rw [lineAt, writeAt]; rfl, rfl⟩
  | int n =>
    have hnumeric := isNumeric_toString n
    have htext : lineAt level (.int n) = (toString n).toList := rfl
    cases hchars : (toString n).toList with
    | nil =>
      rw [toList_toString] at hchars
      obtain ⟨d, ds, hds⟩ := exists_toDigits n.natAbs
      split_ifs at hchars
      simp [hds] at hchars
    | cons c cs =>
      have hc : inNumber c = true := hnumeric c (by rw [hchars]; exact List.mem_cons_self)
      exact ⟨c, cs, by rw [htext, hchars], by simp [kindAt, kindOf, hc]⟩
  | float x => exact hv.elim
  | str s =>
    have htext : lineAt level (.str s) = (writeString true s).toList := rfl
    exact ⟨_, _, by rw [htext, toList_writeString], rfl⟩
  | arr items => exact ⟨_, _, lineAt_arr level items, rfl⟩
  | obj fields => exact ⟨_, _, lineAt_obj level fields, rfl⟩

theorem kindOf_eq_of_append {level : Nat} {v u : Json} (hv : v.IsPlain) (hu : u.IsPlain)
    {rest rest' : List Char} (h : lineAt level v ++ rest = lineAt level u ++ rest') :
    kindOf v = kindOf u := by
  obtain ⟨c, cs, hcs, hc⟩ := exists_lineAt level hv
  obtain ⟨d, ds, hds, hd⟩ := exists_lineAt level hu
  rw [hcs, hds, List.cons_append, List.cons_append, List.cons.injEq] at h
  rw [← hc, ← hd, h.1]

/-- The text of a value does not start with a character that starts no value. -/
theorem head?_lineAt_ne (level : Nat) {v : Json} (hv : v.IsPlain) {c : Char}
    (hc : kindAt c = .none) : (lineAt level v).head? ≠ some c ∧ lineAt level v ≠ [] := by
  obtain ⟨d, ds, hds, hd⟩ := exists_lineAt level hv
  rw [hds]
  refine ⟨?_, List.cons_ne_nil d ds⟩
  rw [List.head?_cons, ne_eq, Option.some.injEq]
  rintro rfl
  rw [hc] at hd
  cases v with
  | bool b => cases b <;> cases hd
  | _ => cases hd

theorem head?_fieldLine_ne (level : Nat) (f : String × Json) :
    (fieldLine level f).head? ≠ some '\x7d' ∧ fieldLine level f ≠ [] := by
  rw [fieldLine, toList_writeString]
  simp

theorem delimits_fieldLine {level : Nat} {f : String × Json}
    (hf : Delimits IsPlain (lineAt level) f.2) :
    Delimits (fun g : String × Json => g.2.IsPlain) (fieldLine level) f := by
  intro g hg rest rest' hrest hrest' h
  simp only [fieldLine, List.append_assoc, List.cons_append] at h
  obtain ⟨hname, hvalue⟩ := writeString_append_inj h
  simp only [List.cons.injEq, true_and] at hvalue
  obtain ⟨hsame, hends⟩ := hf g.2 hg rest rest' hrest hrest' hvalue
  exact ⟨Prod.ext hname hsame, hends⟩

mutual

/-- A plain value is told from every other plain value by its line. -/
theorem delimits_lineAt : ∀ (v : Json) (level : Nat), v.IsPlain →
    Delimits IsPlain (lineAt level) v
  | .null, level, hv => by
    intro u hu rest rest' _ _ h
    have hkind := kindOf_eq_of_append hv hu h
    cases u with
    | null => exact ⟨rfl, List.append_cancel_left h⟩
    | bool b => cases b <;> cases hkind
    | _ => cases hkind
  | .bool a, level, hv => by
    intro u hu rest rest' _ _ h
    have hkind := kindOf_eq_of_append hv hu h
    cases u with
    | bool b => cases a <;> cases b <;> first | exact ⟨rfl, List.append_cancel_left h⟩ | cases hkind
    | _ => cases a <;> cases hkind
  | .int n, level, hv => by
    intro u hu rest rest' hrest hrest' h
    have hkind := kindOf_eq_of_append hv hu h
    cases u with
    | int m =>
      obtain ⟨htext, hends⟩ :=
        numeric_append_inj (isNumeric_toString n) (isNumeric_toString m) hrest hrest' h
      exact ⟨by rw [toString_int_inj htext], hends⟩
    | float x => exact hu.elim
    | bool b => cases b <;> cases hkind
    | _ => cases hkind
  | .float _, _, hv => hv.elim
  | .str s, level, hv => by
    intro u hu rest rest' _ _ h
    have hkind := kindOf_eq_of_append hv hu h
    cases u with
    | str t =>
      obtain ⟨hst, hends⟩ := writeString_append_inj h
      exact ⟨by rw [hst], hends⟩
    | bool b => cases b <;> cases hkind
    | _ => cases hkind
  | .arr items, level, hv => by
    intro u hu rest rest' _ _ h
    have hkind := kindOf_eq_of_append hv hu h
    cases u with
    | arr others =>
      rw [lineAt_arr, lineAt_arr, List.cons_append, List.cons_append, List.cons.injEq] at h
      obtain ⟨hsame, hends⟩ := inside_append_inj (by decide) (by decide)
        (delimits_items items (level + 1) hv) (arePlain_iff.mp hu)
        (fun _ hw => head?_lineAt_ne (level + 1) hw (by decide)) (arePlain_iff.mp hv) h.2
      exact ⟨by rw [hsame], hends⟩
    | bool b => cases b <;> cases hkind
    | _ => cases hkind
  | .obj fields, level, hv => by
    intro u hu rest rest' _ _ h
    have hkind := kindOf_eq_of_append hv hu h
    cases u with
    | obj others =>
      rw [lineAt_obj, lineAt_obj, List.cons_append, List.cons_append, List.cons.injEq] at h
      obtain ⟨hsame, hends⟩ := inside_append_inj (by decide) (by decide)
        (delimits_fields fields (level + 1) hv.2) (fieldsPlain_iff.mp hu.2)
        (fun f _ => head?_fieldLine_ne (level + 1) f) (fieldsPlain_iff.mp hv.2) h.2
      exact ⟨by rw [hsame], hends⟩
    | bool b => cases b <;> cases hkind
    | _ => cases hkind

theorem delimits_items : ∀ (items : List Json) (level : Nat), ArePlain items →
    ∀ v ∈ items, Delimits IsPlain (lineAt level) v
  | [], _, _ => fun _ hv => absurd hv List.not_mem_nil
  | v :: items, level, h =>
    List.forall_mem_cons.mpr ⟨delimits_lineAt v level h.1, delimits_items items level h.2⟩

theorem delimits_fields : ∀ (fields : List (String × Json)) (level : Nat), FieldsPlain fields →
    ∀ f ∈ fields, Delimits (fun g : String × Json => g.2.IsPlain) (fieldLine level) f
  | [], _, _ => fun _ hf => absurd hf List.not_mem_nil
  | (_, v) :: fields, level, h =>
    List.forall_mem_cons.mpr
      ⟨delimits_fieldLine (delimits_lineAt v level h.1), delimits_fields fields level h.2⟩

end

/-- Plain values with the same line are the same. -/
theorem write_line_inj {v u : Json} (hv : v.IsPlain) (hu : u.IsPlain)
    (h : write .line v = write .line u) : v = u := by
  have hlines : lineAt 0 v ++ [] = lineAt 0 u ++ [] :=
    congrArg (fun text => text.toList ++ []) h
  exact (delimits_lineAt v 0 hv u hu [] [] ends_nil ends_nil hlines).1

end DesignLens.Json
