import DesignLens.Json.Packed
import Mathlib.Data.List.TakeWhile

/-!
# Reading packed values back

Every reader of packed values undoes its writer and stops where the writer stopped, whatever comes
next. So a value that fills a whole text is read back exactly.
-/

namespace DesignLens.Json

open Number

/-! ## Numbers and texts -/

theorem takeWhile_digits (n : Nat) {c : Char} (hc : c.isDigit = false) (rest : List Char) :
    (Nat.toDigits 10 n ++ c :: rest).takeWhile Char.isDigit = Nat.toDigits 10 n := by
  have hdigits : ∀ d ∈ Nat.toDigits 10 n, d.isDigit = true := fun d hd =>
    Nat.isDigit_of_mem_toDigits (by decide) (by decide) hd
  rw [List.takeWhile_append_of_pos hdigits, List.takeWhile_cons_of_neg (by simp [hc]),
    List.append_nil]

theorem dropWhile_digits (n : Nat) {c : Char} (hc : c.isDigit = false) (rest : List Char) :
    (Nat.toDigits 10 n ++ c :: rest).dropWhile Char.isDigit = c :: rest := by
  have hdigits : ∀ d ∈ Nat.toDigits 10 n, d.isDigit = true := fun d hd =>
    Nat.isDigit_of_mem_toDigits (by decide) (by decide) hd
  rw [List.dropWhile_append_of_pos hdigits, List.dropWhile_cons_of_neg (by simp [hc])]

theorem foldl_toDigits (n : Nat) :
    (Nat.toDigits 10 n).foldl (fun m c => 10 * m + (c.toNat - 48)) 0 = n := by
  have hvalue : Nat.ofDigitChars 10 (Nat.toDigits 10 n) 0 = n := Nat.ofDigitChars_ten_toDigits
  rw [Nat.ofDigitChars_eq_foldl] at hvalue
  exact hvalue

theorem unpackNat_packNat (n : Nat) (rest : List Char) :
    unpackNat (packNat n ++ rest) = some (n, rest) := by
  have hmark : Char.isDigit ';' = false := by decide
  have hshape : packNat n ++ rest = Nat.toDigits 10 n ++ ';' :: rest := by
    rw [packNat, List.append_assoc]
    rfl
  unfold unpackNat
  rw [hshape, dropWhile_digits n hmark, takeWhile_digits n hmark, foldl_toDigits]
  rfl

theorem two_le_length_packNat (n : Nat) : 2 ≤ (packNat n).length := by
  have hdigits : 0 < (Nat.toDigits 10 n).length := Nat.length_toDigits_pos
  rw [packNat, List.length_append, List.length_singleton]
  omega

theorem unpackInt_packInt (n : Int) (rest : List Char) :
    unpackInt (packInt n ++ rest) = some (n, rest) := by
  cases n with
  | ofNat n => simp [packInt, unpackInt, unpackNat_packNat]
  | negSucc n => simp [packInt, unpackInt, unpackNat_packNat]

theorem unpackText_packText (s : String) (rest : List Char) :
    unpackText (packText s ++ rest) = some (s, rest) := by
  have hread := unpackNat_packNat s.toList.length (s.toList ++ rest)
  rw [packText, List.append_assoc, unpackText, hread]
  simp only [Option.bind_some, List.length_append]
  rw [if_pos (Nat.le_add_right _ _), List.take_left, List.drop_left, String.ofList_toList]

theorem unpackSign_packSign (negative : Bool) (rest : List Char) :
    unpackSign (packSign negative :: rest) = some (negative, rest) := by
  cases negative <;> rfl

theorem unpackFinite_pack (negative : Bool) (m : Nat) (e : Int) (rest : List Char) :
    unpackFinite (packSign negative :: (packNat m ++ packInt e) ++ rest) =
      some (.finite negative m e, rest) := by
  have hshape : packSign negative :: (packNat m ++ packInt e) ++ rest =
      packSign negative :: (packNat m ++ (packInt e ++ rest)) := by
    rw [List.cons_append, List.append_assoc]
  rw [hshape, unpackFinite, unpackSign_packSign]
  simp only [Option.bind_eq_bind, Option.bind_some, unpackNat_packNat, unpackInt_packInt]
  rfl

/-! ## Values -/

theorem length_pack_pos (v : Json) : 0 < (pack v).length := by
  cases v with
  | float x => cases x <;> simp [pack, packFloat]
  | _ => simp [pack]

mutual

/-- A value is read back if there is fuel for every character of it. -/
theorem unpackValue_pack : ∀ (v : Json) (rest : List Char) (fuel : Nat),
    (pack v).length < fuel → unpackValue fuel (pack v ++ rest) = some (v, rest)
  | v, rest, 0, h => absurd h (Nat.not_lt_zero _)
  | .null, rest, fuel + 1, _ => by simp [pack, unpackValue]
  | .bool b, rest, fuel + 1, _ => by cases b <;> simp [pack, unpackValue]
  | .int n, rest, fuel + 1, _ => by simp [pack, unpackValue, unpackInt_packInt]
  | .float x, rest, fuel + 1, _ => by
    cases x with
    | nan => simp [pack, packFloat, unpackValue]
    | infinite negative => simp [pack, packFloat, unpackValue, unpackSign_packSign]
    | finite negative m e =>
      have hread := unpackFinite_pack negative m e rest
      simp only [pack, packFloat, List.cons_append] at hread ⊢
      simp only [unpackValue, hread, Option.map_some]
  | .str s, rest, fuel + 1, _ => by simp [pack, unpackValue, unpackText_packText]
  | .arr items, rest, fuel + 1, h => by
    have hcount := two_le_length_packNat items.length
    have hitems := unpackItems_pack items rest fuel (by
      simp only [pack, List.cons_append, List.length_cons, List.length_append] at h
      omega)
    simp only [pack, List.cons_append, List.append_assoc, unpackValue, unpackNat_packNat,
      Option.bind_some, hitems, Option.map_some]
  | .obj fields, rest, fuel + 1, h => by
    have hcount := two_le_length_packNat fields.length
    have hfields := unpackFields_pack fields rest fuel (by
      simp only [pack, List.cons_append, List.length_cons, List.length_append] at h
      omega)
    simp only [pack, List.cons_append, List.append_assoc, unpackValue, unpackNat_packNat,
      Option.bind_some, hfields, Option.map_some]

theorem unpackItems_pack : ∀ (items : List Json) (rest : List Char) (fuel : Nat),
    (packItems items).length + 1 < fuel →
      unpackItems fuel items.length (packItems items ++ rest) = some (items, rest)
  | [], rest, fuel, _ => by simp [packItems, unpackItems]
  | v :: items, rest, 0, h => absurd h (Nat.not_lt_zero _)
  | v :: items, rest, fuel + 1, h => by
    have hpos := length_pack_pos v
    simp only [packItems, List.length_append] at h
    have hfirst := unpackValue_pack v (packItems items ++ rest) fuel (by omega)
    have hlater := unpackItems_pack items rest fuel (by omega)
    simp only [packItems, List.append_assoc, List.length_cons, unpackItems, hfirst, hlater,
      Option.bind_eq_bind, Option.bind_some]
    rfl

theorem unpackFields_pack : ∀ (fields : List (String × Json)) (rest : List Char) (fuel : Nat),
    (packFields fields).length + 1 < fuel →
      unpackFields fuel fields.length (packFields fields ++ rest) = some (fields, rest)
  | [], rest, fuel, _ => by simp [packFields, unpackFields]
  | (name, v) :: fields, rest, 0, h => absurd h (Nat.not_lt_zero _)
  | (name, v) :: fields, rest, fuel + 1, h => by
    have hpos := length_pack_pos v
    simp only [packFields, List.length_append] at h
    have hfirst := unpackValue_pack v (packFields fields ++ rest) fuel (by omega)
    have hlater := unpackFields_pack fields rest fuel (by omega)
    simp only [packFields, List.append_assoc, List.length_cons, unpackFields, unpackText_packText,
      hfirst, hlater, Option.bind_eq_bind, Option.bind_some]
    rfl

end

theorem unpack?_pack (v : Json) : unpack? (pack v) = some v := by
  have hread := unpackValue_pack v [] ((pack v).length + 1) (Nat.lt_succ_self _)
  rw [List.append_nil] at hread
  rw [unpack?, hread]

theorem pack_injective {u v : Json} (h : pack u = pack v) : u = v := by
  have hread := unpack?_pack u
  rw [h, unpack?_pack] at hread
  exact (Option.some.inj hread).symm

end DesignLens.Json
