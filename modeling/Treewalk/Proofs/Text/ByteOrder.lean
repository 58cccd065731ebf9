import Mathlib

/-!
# The order of texts by bytes

Texts are ordered by code point. The order of their UTF-8 bytes is the same (`lex_bytes_iff`),
because of how characters are encoded: the bytes of a greater character are greater at the first
place where they differ, and there is such a place, since no encoding is the beginning of another
(`parts_utf8EncodeChar`). So the first character in which two texts differ decides on both sides.
-/

namespace Treewalk.Text

/-- The UTF-8 bytes of a text. -/
def bytes (s : String) : List UInt8 := s.toUTF8.data.toList

/-- The code points of a text. -/
def codePoints (s : String) : List Nat := s.toList.map Char.toNat

theorem bytes_eq_flatMap (s : String) : bytes s = s.toList.flatMap String.utf8EncodeChar := by
  have hs : s.toByteArray = s.toList.utf8Encode := by
    rw [← String.toByteArray_ofList, String.ofList_toList]
  rw [bytes, String.toUTF8_eq_toByteArray, hs, List.utf8Encode, List.toList_data_toByteArray]

/-! ## One character -/

/-- There is a first place where the bytes differ, and there the first sequence has the smaller
one. Whatever comes behind does not matter. -/
inductive Parts : List UInt8 → List UInt8 → Prop
  | here {x y : UInt8} (h : x < y) (xs ys : List UInt8) : Parts (x :: xs) (y :: ys)
  | there (x : UInt8) {xs ys : List UInt8} (h : Parts xs ys) : Parts (x :: xs) (x :: ys)

theorem Parts.lex_append {xs ys : List UInt8} (h : Parts xs ys) (xs' ys' : List UInt8) :
    List.Lex (· < ·) (xs ++ xs') (ys ++ ys') := by
  induction h with
  | here h => exact .rel h
  | there x _ ih => exact .cons ih

theorem Parts.of_lt {m n : Nat} (h : m < n) (hn : n < 256) {xs ys : List UInt8} :
    Parts (UInt8.ofNat m :: xs) (UInt8.ofNat n :: ys) := by
  refine .here ?_ xs ys
  rw [UInt8.lt_iff_toNat_lt, UInt8.toNat_ofNat_of_lt' (Nat.lt_trans h hn),
    UInt8.toNat_ofNat_of_lt' hn]
  exact h

/-- A smaller byte decides, and an equal one leaves it to those behind it. -/
theorem Parts.of_le {m n : Nat} (hle : m ≤ n) (hn : n < 256) {xs ys : List UInt8}
    (h : m = n → Parts xs ys) : Parts (UInt8.ofNat m :: xs) (UInt8.ofNat n :: ys) := by
  rcases Nat.lt_or_eq_of_le hle with hlt | rfl
  · exact .of_lt hlt hn
  · exact .there _ (h rfl)

/-- The encodings of two characters part, the smaller character having the smaller byte. -/
theorem parts_utf8EncodeChar {c d : Char} (h : c < d) :
    Parts (String.utf8EncodeChar c) (String.utf8EncodeChar d) := by
  have hlt : c.val.toNat < d.val.toNat := h
  have hmax : d.val.toNat < 0x110000 := by
    rcases d.valid with hd | ⟨-, hd⟩ <;> omega
  unfold String.utf8EncodeChar
  dsimp only
  generalize c.val.toNat = m at hlt ⊢
  generalize d.val.toNat = n at hlt hmax ⊢
  -- The first byte tells how many follow, and it is greater if more do. Behind it the bytes are the
  -- digits to the base 64, so of two encodings of one length the first digit that differs decides.
  rcases Nat.lt_or_ge 0x7F m with h₁ | h₁
  · rw [if_neg (by omega), if_neg (by omega : ¬ n ≤ 127)]
    rcases Nat.lt_or_ge 0x7FF m with h₂ | h₂
    · rw [if_neg (by omega), if_neg (by omega : ¬ n ≤ 2047)]
      rcases Nat.lt_or_ge 0xFFFF m with h₃ | h₃
      · rw [if_neg (by omega), if_neg (by omega)]
        exact .of_le (by omega) (by omega) fun _ => .of_le (by omega) (by omega) fun _ =>
          .of_le (by omega) (by omega) fun _ => .of_lt (by omega) (by omega)
      · rw [if_pos h₃]
        split_ifs
        · exact .of_le (by omega) (by omega) fun _ => .of_le (by omega) (by omega) fun _ =>
            .of_lt (by omega) (by omega)
        · exact .of_lt (by omega) (by omega)
    · rw [if_pos h₂]
      split_ifs
      · exact .of_le (by omega) (by omega) fun _ => .of_lt (by omega) (by omega)
      · exact .of_lt (by omega) (by omega)
      · exact .of_lt (by omega) (by omega)
  · rw [if_pos h₁]
    split_ifs
    all_goals exact .of_lt (by omega) (by omega)

/-! ## Whole texts -/

/-- The first character that differs decides about the bytes too. -/
theorem lex_flatMap_utf8EncodeChar {xs ys : List Char} (h : List.Lex (· < ·) xs ys) :
    List.Lex (· < ·) (xs.flatMap String.utf8EncodeChar) (ys.flatMap String.utf8EncodeChar) := by
  induction h with
  | @nil d ys =>
    obtain ⟨y, rest, hd⟩ := List.exists_cons_of_ne_nil (String.utf8EncodeChar_ne_nil (c := d))
    rw [List.flatMap_nil, List.flatMap_cons, hd]
    exact .nil
  | @rel c xs d ys hcd =>
    rw [List.flatMap_cons, List.flatMap_cons]
    exact (parts_utf8EncodeChar hcd).lex_append _ _
  | cons _ ih =>
    rw [List.flatMap_cons, List.flatMap_cons]
    exact ih.append_left _ _

/-- Sequences that follow the order of texts decide it, since the order is total. -/
theorem lex_iff_lt {α : Type} [LT α] [Std.Asymm fun a b : α => a < b] {f : String → List α}
    (hf : ∀ {s t : String}, s < t → List.Lex (· < ·) (f s) (f t)) {s t : String} :
    List.Lex (· < ·) (f s) (f t) ↔ s < t := by
  refine ⟨fun h => ?_, hf⟩
  rcases lt_trichotomy s t with hst | rfl | hts
  · exact hst
  · exact absurd h (List.lt_asymm h)
  · exact absurd h (List.lt_asymm (hf hts))

/-- A text is smaller exactly if its bytes are. -/
theorem lex_bytes_iff {s t : String} : List.Lex (· < ·) (bytes s) (bytes t) ↔ s < t := by
  apply lex_iff_lt
  intro s t h
  rw [bytes_eq_flatMap, bytes_eq_flatMap]
  exact lex_flatMap_utf8EncodeChar (String.lt_iff_toList_lt.1 h)

/-- A text is smaller exactly if its code points are. -/
theorem lex_codePoints_iff {s t : String} :
    List.Lex (· < ·) (codePoints s) (codePoints t) ↔ s < t := by
  apply lex_iff_lt
  intro s t h
  exact List.map_lt (fun _ _ hcd => hcd) (String.lt_iff_toList_lt.1 h)

end Treewalk.Text
