import DesignLens.Pipeline.Cache
import DesignLens.Proofs.DelimitedTexts

/-!
# Keys of inputs

The key of a stage is its name with a digest of its inputs. The digest is taken of one line with the
names sorted at every depth, which is the line of the inputs in canonical form. Two inputs have the
same canonical form if and only if they are the same but for the order of fields, and values in
canonical form are told by their lines, so inputs that differ have different lines. A digest has a
fixed number of characters, so a key tells the name of the stage from the digest.
-/

namespace DesignLens.Json

mutual

/-- Whether two values are the same but for the order of fields. -/
def same : Json → Json → Bool
  | .null, .null => true
  | .bool a, .bool b => a == b
  | .int n, .int m => n == m
  | .float x, .float y => x == y
  | .str s, .str t => s == t
  | .arr items, .arr others => sameItems items others
  | .obj fields, .obj others => fields.length == others.length && sameFields fields others
  | _, _ => false

def sameItems : List Json → List Json → Bool
  | [], [] => true
  | v :: items, u :: others => same v u && sameItems items others
  | _, _ => false

/-- Whether all fields are among others with the same values. -/
def sameFields : List (String × Json) → List (String × Json) → Bool
  | [], _ => true
  | (name, v) :: fields, others =>
    ((Table.find? name others).any fun u => same v u) && sameFields fields others

end

mutual

/-- The value with the fields of its objects sorted by name at every depth. -/
def canonical : Json → Json
  | .arr items => .arr (canonicalItems items)
  | .obj fields => .obj (sortedFields (canonicalFields fields))
  | v => v

def canonicalItems : List Json → List Json
  | [] => []
  | v :: items => canonical v :: canonicalItems items

def canonicalFields : List (String × Json) → List (String × Json)
  | [] => []
  | (name, v) :: fields => (name, canonical v) :: canonicalFields fields

end

theorem canonicalFields_eq_map (fields : List (String × Json)) :
    canonicalFields fields = fields.map fun f => (f.1, canonical f.2) := by
  induction fields with
  | nil => rfl
  | cons f fields ih => rw [canonicalFields, ih, List.map_cons]

theorem keys_canonicalFields (fields : List (String × Json)) :
    Table.keys (canonicalFields fields) = Table.keys fields := by
  rw [canonicalFields_eq_map, Table.keys, Table.keys, List.map_map]
  rfl

theorem sortedFields_perm (fields : List (String × Json)) : (sortedFields fields).Perm fields :=
  List.mergeSort_perm _ _

/-! ## Lines with sorted names -/

mutual

/-- A line with sorted names is the line of the canonical form. -/
theorem writeAt_keyLayout : ∀ (v : Json) (level : Nat),
    writeAt Pipeline.keyLayout level v = writeAt .line level v.canonical
  | .null, _ => rfl
  | .bool true, _ => rfl
  | .bool false, _ => rfl
  | .int _, _ => rfl
  | .float _, _ => rfl
  | .str _, _ => rfl
  | .arr items, level => by
    rw [canonical, writeAt, writeAt, writeItems_keyLayout items (level + 1)]
    rfl
  | .obj fields, level => by
    have hkey : Pipeline.keyLayout.sortKeys = true := rfl
    have hline : Layout.line.sortKeys = false := rfl
    have hsorted : writeFields .line (level + 1) (sortedFields (canonicalFields fields)) =
        (writeFields Pipeline.keyLayout (level + 1) fields).mergeSort
          fun a b => decide (a.1 ≤ b.1) := by
      rw [writeFields_keyLayout fields (level + 1), writeFields_eq_map, writeFields_eq_map]
      exact List.map_mergeSort fun _ _ _ _ => rfl
    rw [canonical, writeAt, writeAt]
    simp only [hkey, hline, if_true, Bool.false_eq_true, if_false, hsorted]
    rfl

theorem writeItems_keyLayout : ∀ (items : List Json) (level : Nat),
    writeItems Pipeline.keyLayout level items = writeItems .line level (canonicalItems items)
  | [], _ => rfl
  | v :: items, level => by
    rw [canonicalItems, writeItems, writeItems, writeAt_keyLayout v level,
      writeItems_keyLayout items level]

theorem writeFields_keyLayout : ∀ (fields : List (String × Json)) (level : Nat),
    writeFields Pipeline.keyLayout level fields = writeFields .line level (canonicalFields fields)
  | [], _ => rfl
  | (name, v) :: fields, level => by
    rw [canonicalFields, writeFields, writeFields, writeAt_keyLayout v level,
      writeFields_keyLayout fields level]

end

/-! ## Values that are the same -/

theorem sameFields_iff {fields others : List (String × Json)} :
    sameFields fields others = true ↔
      ∀ f ∈ fields, ∃ u, Table.find? f.1 others = some u ∧ same f.2 u = true := by
  induction fields with
  | nil => simp [sameFields]
  | cons f fields ih =>
    rw [List.forall_mem_cons, ← ih, sameFields, Bool.and_eq_true, Option.any_eq_true]

mutual

theorem isPlain_canonical : ∀ v : Json, v.IsPlain → v.canonical.IsPlain
  | .null, _ => trivial
  | .bool _, _ => trivial
  | .int _, h => h
  | .float _, h => h
  | .str _, _ => trivial
  | .arr items, h => by
    rw [canonical]
    exact arePlain_canonical items h
  | .obj fields, h => by
    have hperm := sortedFields_perm (canonicalFields fields)
    have hnames : (Table.keys (canonicalFields fields)).Nodup := by
      rw [keys_canonicalFields]
      exact h.1
    rw [canonical]
    refine ⟨(hperm.map Prod.fst).nodup_iff.mpr hnames, fieldsPlain_iff.mpr fun f hf => ?_⟩
    exact fieldsPlain_iff.mp (fieldsPlain_canonical fields h.2) f (hperm.mem_iff.mp hf)

theorem arePlain_canonical : ∀ items : List Json, ArePlain items → ArePlain (canonicalItems items)
  | [], _ => trivial
  | v :: items, h => ⟨isPlain_canonical v h.1, arePlain_canonical items h.2⟩

theorem fieldsPlain_canonical : ∀ fields : List (String × Json), FieldsPlain fields →
    FieldsPlain (canonicalFields fields)
  | [], _ => trivial
  | (_, v) :: fields, h => ⟨isPlain_canonical v h.1, fieldsPlain_canonical fields h.2⟩

end

/-- Objects with distinct names have the same canonical form exactly if they have the same number
of fields, and each field of the first has its like in the second. -/
theorem sortedFields_eq_iff {fields others : List (String × Json)}
    (hfields : (Table.keys fields).Nodup) (hothers : (Table.keys others).Nodup) :
    sortedFields (canonicalFields fields) = sortedFields (canonicalFields others) ↔
      fields.length = others.length ∧
        ∀ f ∈ fields, ∃ u, Table.find? f.1 others = some u ∧ f.2.canonical = u.canonical := by
  rw [← keys_canonicalFields] at hfields
  constructor
  · intro h
    have hperm : (canonicalFields fields).Perm (canonicalFields others) :=
      (sortedFields_perm _).symm.trans (h ▸ sortedFields_perm _)
    rw [canonicalFields_eq_map, canonicalFields_eq_map] at hperm
    refine ⟨by simpa using hperm.length_eq, fun f hf => ?_⟩
    obtain ⟨g, hg, hfg⟩ := List.mem_map.mp (hperm.mem_iff.mp (List.mem_map_of_mem hf))
    rw [Prod.mk.injEq] at hfg
    exact ⟨g.2, Table.find?_of_mem hothers (hfg.1 ▸ hg), hfg.2.symm⟩
  · rintro ⟨hlength, hfound⟩
    have hsubset : canonicalFields fields ⊆ canonicalFields others := by
      intro entry hentry
      rw [canonicalFields_eq_map] at hentry ⊢
      obtain ⟨f, hf, rfl⟩ := List.mem_map.mp hentry
      obtain ⟨u, hu, hsame⟩ := hfound f hf
      exact List.mem_map.mpr ⟨(f.1, u), Table.mem_of_find? hu, by rw [hsame]⟩
    have hlengths : (canonicalFields others).length ≤ (canonicalFields fields).length := by
      rw [canonicalFields_eq_map, canonicalFields_eq_map, List.length_map, List.length_map, hlength]
    exact Table.mergeSort_eq_of_perm hfields
      ((List.subperm_of_subset hfields.of_map hsubset).perm_of_length_le hlengths)

mutual

/-- Values are the same but for the order of fields if and only if their canonical forms are. -/
theorem same_iff : ∀ v u : Json, v.IsPlain → u.IsPlain →
    (same v u = true ↔ v.canonical = u.canonical)
  | .null, u, _, _ => by cases u <;> simp [same, canonical]
  | .bool _, u, _, _ => by cases u <;> simp [same, canonical]
  | .int _, u, _, _ => by cases u <;> simp [same, canonical]
  | .float _, _, hv, _ => hv.elim
  | .str _, u, _, _ => by cases u <;> simp [same, canonical]
  | .arr items, u, hv, hu => by
    cases u with
    | arr others =>
      simp only [same, canonical, Json.arr.injEq]
      exact sameItems_iff items others hv hu
    | _ => simp [same, canonical]
  | .obj fields, u, hv, hu => by
    cases u with
    | obj others =>
      have hvalues := same_iff_of_mem fields hv.2
      have hplain := fieldsPlain_iff.mp hu.2
      simp only [same, canonical, Json.obj.injEq, Bool.and_eq_true, beq_iff_eq, sameFields_iff]
      rw [sortedFields_eq_iff hv.1 hu.1]
      refine and_congr_right fun _ => forall₂_congr fun f hf => exists_congr fun w => ?_
      refine and_congr_right fun hw => ?_
      exact hvalues f hf w (hplain _ (Table.mem_of_find? hw))
    | _ => simp [same, canonical]

theorem sameItems_iff : ∀ items others : List Json, ArePlain items → ArePlain others →
    (sameItems items others = true ↔ canonicalItems items = canonicalItems others)
  | [], [], _, _ => by simp [sameItems]
  | [], _ :: _, _, _ => by simp [sameItems, canonicalItems]
  | _ :: _, [], _, _ => by simp [sameItems, canonicalItems]
  | v :: items, u :: others, hv, hu => by
    rw [sameItems, canonicalItems, canonicalItems, Bool.and_eq_true, List.cons.injEq,
      same_iff v u hv.1 hu.1, sameItems_iff items others hv.2 hu.2]

theorem same_iff_of_mem : ∀ fields : List (String × Json), FieldsPlain fields →
    ∀ f ∈ fields, ∀ u, u.IsPlain → (same f.2 u = true ↔ f.2.canonical = u.canonical)
  | [], _ => fun _ hf => absurd hf List.not_mem_nil
  | (_, v) :: fields, h =>
    List.forall_mem_cons.mpr ⟨fun u hu => same_iff v u h.1 hu, same_iff_of_mem fields h.2⟩

end

end DesignLens.Json

namespace DesignLens.Text

theorem length_wordHex (w : UInt32) : (wordHex w).length = 8 := by
  have hbyte : ∀ n, (hexPadded 2 (n % 256)).length = 2 := fun n =>
    Json.length_hexPadded ((Nat.length_toDigits_le_iff (by decide) (by decide)).mpr
      (Nat.mod_lt n (by decide)))
  simp [wordHex, List.length_flatMap, hbyte]

theorem length_md5 (bytes : List Nat) : (md5 bytes).toList.length = 32 := by
  rw [md5, String.toList_ofList]
  simp only [List.length_append, length_wordHex]

end DesignLens.Text

namespace DesignLens.Pipeline

open Json

/-- The digest of inputs. -/
def inputDigest (inputs : Json) : String :=
  Text.md5 ((keyText inputs).toUTF8.toList.map UInt8.toNat)

theorem keyText_eq_iff {v u : Json} (hv : v.IsPlain) (hu : u.IsPlain) :
    keyText v = keyText u ↔ same v u = true := by
  have hline : ∀ w : Json, keyText w = write .line w.canonical := fun w => writeAt_keyLayout w 0
  rw [same_iff v u hv hu, hline, hline]
  constructor
  · exact write_line_inj (isPlain_canonical v hv) (isPlain_canonical u hu)
  · intro h
    rw [h]

/-- A key tells the name of the stage and the digest. -/
theorem cacheKey_eq_iff {stage stage' : String} {v u : Json} :
    cacheKey stage v = cacheKey stage' u ↔ stage = stage' ∧ inputDigest v = inputDigest u := by
  constructor
  · intro h
    have hchars : (stage.toList ++ ['_']) ++ (inputDigest v).toList =
        (stage'.toList ++ ['_']) ++ (inputDigest u).toList := by
      have hkeys := congrArg String.toList h
      rw [cacheKey, cacheKey] at hkeys
      simpa [inputDigest] using hkeys
    have hlength : (inputDigest v).toList.length = (inputDigest u).toList.length := by
      rw [inputDigest, inputDigest, Text.length_md5, Text.length_md5]
    obtain ⟨hfront, hdigest⟩ := List.append_inj' hchars hlength
    exact ⟨String.toList_inj.mp (List.append_cancel_right hfront), String.toList_inj.mp hdigest⟩
  · rintro ⟨rfl, hdigest⟩
    rw [cacheKey, cacheKey]
    exact congrArg (stage ++ "_" ++ ·) hdigest

/-- Inputs have the same key text exactly if they are the same but for the order of fields, and then
they have the same key. Different stages never share a key, and different inputs only if the digests
of their different texts collide. -/
theorem cacheKey_tells_inputs (stage stage' : String) (v u : Json) (hv : v.IsPlain)
    (hu : u.IsPlain) :
    (keyText v = keyText u ↔ same v u = true) ∧
      (same v u = true → cacheKey stage v = cacheKey stage u) ∧
      (cacheKey stage v = cacheKey stage' u → stage = stage' ∧
        (same v u = true ∨ keyText v ≠ keyText u ∧ inputDigest v = inputDigest u)) := by
  have htext := keyText_eq_iff hv hu
  refine ⟨htext, ?_, ?_⟩
  · intro hsame
    rw [cacheKey_eq_iff, inputDigest, inputDigest, htext.mpr hsame]
    exact ⟨rfl, rfl⟩
  · intro hkeys
    obtain ⟨hstage, hdigest⟩ := cacheKey_eq_iff.mp hkeys
    refine ⟨hstage, ?_⟩
    by_cases hsame : same v u = true
    · exact Or.inl hsame
    · exact Or.inr ⟨fun heq => hsame (htext.mp heq), hdigest⟩

/-- Inputs with an object in an array. -/
def nestedInputs (inner : Json) : Json :=
  .obj [("paths", .arr [.str "a.py", inner]), ("deep", .bool true)]

/-- The same inputs the other way round. -/
def turnedInputs (inner : Json) : Json :=
  .obj [("deep", .bool true), ("paths", .arr [.str "a.py", inner])]

/-- The order of fields does not matter at any depth, but a number is not the text of its digits. -/
theorem cacheKey_tells_inputs_nested :
    cacheKey "lint" (nestedInputs (.obj [("x", .int 1), ("y", .null)])) =
        cacheKey "lint" (turnedInputs (.obj [("y", .null), ("x", .int 1)])) ∧
      keyText (nestedInputs (.int 1)) ≠ keyText (turnedInputs (.str "1")) := by
  have hplain : ∀ inner : Json, inner.IsPlain →
      (nestedInputs inner).IsPlain ∧ (turnedInputs inner).IsPlain := by
    intro inner hinner
    simp [nestedInputs, turnedInputs, IsPlain, ArePlain, FieldsPlain, Table.keys, hinner]
  have hone : (Nat.toDigits 10 1).length ≤ 4300 := by decide
  have hpair : ∀ a b : String, a ≠ b → (Json.obj [(a, .int 1), (b, .null)]).IsPlain ∧
      (Json.obj [(a, .null), (b, .int 1)]).IsPlain := by
    intro a b hab
    simp [IsPlain, FieldsPlain, Table.keys, hab, hone]
  have hturned := cacheKey_tells_inputs "lint" "lint" _ _
    (hplain _ (hpair "x" "y" (by decide)).1).1 (hplain _ (hpair "y" "x" (by decide)).2).2
  have hdiffer := cacheKey_tells_inputs "lint" "lint" _ _
    (hplain (.int 1) hone).1 (hplain (.str "1") trivial).2
  refine ⟨hturned.2.1 (by decide), ?_⟩
  rw [ne_eq, hdiffer.1]
  decide

end DesignLens.Pipeline
