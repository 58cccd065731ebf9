import Mathlib
import Treewalk.Proofs.Text.ByteOrder

/-!
# Where characters begin

An offset is inside a character if it lies between the two ends of one (`Inside`). This can be told
from the byte there: the first byte of a character is no continuation byte and all others are
(`exists_utf8EncodeChar`), so the offsets inside characters are those where a continuation byte
stands (`inside_iff`). A text can be divided at all the others (`exists_append_iff`), and a stretch
can be cut out of it if neither of its ends is inside a character and they are in order and within
the text (`exists_cut_iff`).
-/

namespace Treewalk.Text

/-- The offset is inside a character of the text: behind its beginning, and before its end. -/
def Inside (text : String) (i : Nat) : Prop :=
  ∃ (a : String) (c : Char) (b : String), text = a ++ (String.singleton c ++ b) ∧
    a.utf8ByteSize < i ∧ i < a.utf8ByteSize + c.utf8Size

/-- The byte goes on with a character that began before: its two highest bits are `10`. -/
def IsContinuation (b : UInt8) : Prop := 0x80 ≤ b.toNat ∧ b.toNat < 0xC0

/-- The byte at the offset goes on with a character that began before. -/
def Continues (text : String) (i : Nat) : Prop := ∃ b, (bytes text)[i]? = some b ∧ IsContinuation b

/-! ## Characters -/

theorem isContinuation_ofNat {n : Nat} (h : n < 256) :
    IsContinuation (UInt8.ofNat n) ↔ 0x80 ≤ n ∧ n < 0xC0 := by
  rw [IsContinuation, UInt8.toNat_ofNat_of_lt' h]

theorem isContinuation_digit (n : Nat) : IsContinuation (UInt8.ofNat (n % 64 + 128)) := by
  rw [isContinuation_ofNat (by omega)]
  omega

/-- Of the bytes of a character, all but the first are continuation bytes. -/
theorem exists_utf8EncodeChar (c : Char) : ∃ b rest, String.utf8EncodeChar c = b :: rest ∧
    ¬ IsContinuation b ∧ ∀ x ∈ rest, IsContinuation x := by
  have hmax : c.val.toNat < 0x110000 := by
    rcases c.valid with hc | ⟨-, hc⟩ <;> omega
  unfold String.utf8EncodeChar
  dsimp only
  generalize c.val.toNat = n at hmax ⊢
  split_ifs
  all_goals
    refine ⟨_, _, rfl, ?_, by simp [-UInt8.ofNat_add, isContinuation_digit]⟩
    rw [isContinuation_ofNat (by omega)]
    omega

/-! ## Texts -/

theorem length_bytes (text : String) : (bytes text).length = text.utf8ByteSize := rfl

theorem bytes_append (a b : String) : bytes (a ++ b) = bytes a ++ bytes b := by
  rw [bytes_eq_flatMap, bytes_eq_flatMap, bytes_eq_flatMap, String.toList_append,
    List.flatMap_append]

theorem bytes_singleton (c : Char) : bytes (String.singleton c) = String.utf8EncodeChar c := by
  rw [bytes_eq_flatMap, String.toList_singleton, List.flatMap_singleton]

theorem continues_append {a b : String} {i : Nat} (h : a.utf8ByteSize ≤ i) :
    Continues (a ++ b) i ↔ Continues b (i - a.utf8ByteSize) := by
  have hlength : (bytes a).length ≤ i := h
  rw [Continues, bytes_append, List.getElem?_append_right hlength, length_bytes, Continues]

/-- The bytes behind the first one of a character are continuation bytes. After it, those of the
rest follow. -/
theorem continues_singleton_append {c : Char} {text : String} {i : Nat} :
    Continues (String.singleton c ++ text) i ↔
      0 < i ∧ i < c.utf8Size ∨ c.utf8Size ≤ i ∧ Continues text (i - c.utf8Size) := by
  have hsize : (String.singleton c).utf8ByteSize = c.utf8Size := String.utf8ByteSize_singleton
  rcases Nat.lt_or_ge i c.utf8Size with hlt | hge
  · obtain ⟨x, rest, hc, hx, hrest⟩ := exists_utf8EncodeChar c
    have hlength : (String.utf8EncodeChar c).length = c.utf8Size := String.length_utf8EncodeChar c
    rw [Continues, bytes_append, bytes_singleton, List.getElem?_append_left (hlength ▸ hlt)]
    cases i with
    | zero => simp [hc, hx, hlt.ne']
    | succ i =>
      have hi : i < rest.length := by
        rw [hc, List.length_cons] at hlength
        omega
      have hnext : rest[i]? = some rest[i] := List.getElem?_eq_getElem hi
      simp [hc, hnext, hrest, hlt]
  · rw [continues_append (hsize ▸ hge), hsize]
    simp [hge]

theorem not_continues_nil (i : Nat) : ¬ Continues "" i := by
  rintro ⟨b, hb, -⟩
  simp [bytes_eq_flatMap] at hb

theorem not_continues_zero (text : String) : ¬ Continues text 0 := by
  obtain ⟨cs, rfl⟩ : ∃ cs, text = String.ofList cs := ⟨text.toList, String.ofList_toList.symm⟩
  cases cs with
  | nil => exact not_continues_nil 0
  | cons c cs =>
    have hpos := c.utf8Size_pos
    rw [String.ofList_cons, continues_singleton_append]
    omega

/-- The offsets inside characters are those where a character goes on. -/
theorem inside_iff {text : String} {i : Nat} : Inside text i ↔ Continues text i := by
  constructor
  · rintro ⟨a, c, b, rfl, hlt, hlt'⟩
    rw [continues_append (Nat.le_of_lt hlt), continues_singleton_append]
    exact .inl ⟨by omega, by omega⟩
  · obtain ⟨cs, rfl⟩ : ∃ cs, text = String.ofList cs := ⟨text.toList, String.ofList_toList.symm⟩
    induction cs generalizing i with
    | nil => exact fun h => absurd h (not_continues_nil i)
    | cons c cs ih =>
      rw [String.ofList_cons, continues_singleton_append]
      rintro (⟨hpos, hlt⟩ | ⟨hge, h⟩)
      · exact ⟨"", c, _, String.empty_append.symm, hpos, by simpa using hlt⟩
      · obtain ⟨a, d, b, htext, hlt, hlt'⟩ := ih h
        refine ⟨String.singleton c ++ a, d, b, by rw [htext, String.append_assoc], ?_⟩
        rw [String.utf8ByteSize_append, String.utf8ByteSize_singleton]
        omega

/-- A text can be divided at every offset that is not inside a character, and nowhere else. -/
theorem exists_append_iff {text : String} {i : Nat} :
    (∃ a b : String, text = a ++ b ∧ a.utf8ByteSize = i) ↔
      i ≤ text.utf8ByteSize ∧ ¬ Inside text i := by
  rw [inside_iff]
  constructor
  · rintro ⟨a, b, rfl, rfl⟩
    rw [continues_append (Nat.le_refl _), Nat.sub_self, String.utf8ByteSize_append]
    exact ⟨Nat.le_add_right _ _, not_continues_zero b⟩
  · obtain ⟨cs, rfl⟩ : ∃ cs, text = String.ofList cs := ⟨text.toList, String.ofList_toList.symm⟩
    rintro ⟨hle, hi⟩
    induction cs generalizing i with
    | nil => exact ⟨"", "", rfl, (Nat.le_zero.1 hle).symm⟩
    | cons c cs ih =>
      rw [String.ofList_cons] at hle hi ⊢
      rw [String.utf8ByteSize_append, String.utf8ByteSize_singleton] at hle
      rw [continues_singleton_append] at hi
      rcases Nat.eq_zero_or_pos i with rfl | hpos
      · exact ⟨"", _, String.empty_append.symm, rfl⟩
      · have hge : c.utf8Size ≤ i := Nat.le_of_not_lt fun hlt => hi (.inl ⟨hpos, hlt⟩)
        obtain ⟨a, b, hab, ha⟩ := ih (by omega) fun h => hi (.inr ⟨hge, h⟩)
        refine ⟨String.singleton c ++ a, b, by rw [hab, String.append_assoc], ?_⟩
        rw [String.utf8ByteSize_append, String.utf8ByteSize_singleton, ha]
        omega

/-- A stretch can be cut out of a text exactly if it is not reversed, does not reach beyond the
text, and has no end inside a character. -/
theorem exists_cut_iff {text : String} {start stop : Nat} :
    (∃ a b c : String, text = a ++ b ++ c ∧ a.utf8ByteSize = start ∧
      (a ++ b).utf8ByteSize = stop) ↔
    start ≤ stop ∧ stop ≤ text.utf8ByteSize ∧ ¬ Inside text start ∧ ¬ Inside text stop := by
  constructor
  · rintro ⟨a, b, c, htext, rfl, rfl⟩
    have htext' : text = a ++ (b ++ c) := by rw [htext, String.append_assoc]
    obtain ⟨-, hstart⟩ := exists_append_iff.1 ⟨a, b ++ c, htext', rfl⟩
    obtain ⟨hle, hstop⟩ := exists_append_iff.1 ⟨a ++ b, c, htext, rfl⟩
    refine ⟨?_, hle, hstart, hstop⟩
    rw [String.utf8ByteSize_append]
    exact Nat.le_add_right _ _
  · rintro ⟨hle, hstop, hstart', hstop'⟩
    obtain ⟨a, rest, htext, rfl⟩ := exists_append_iff.2 ⟨hle.trans hstop, hstart'⟩
    obtain ⟨front, c, htext', rfl⟩ := exists_append_iff.2 ⟨hstop, hstop'⟩
    have hlists : a.toList ++ rest.toList = front.toList ++ c.toList := by
      rw [← String.toList_append, ← String.toList_append, ← htext, htext']
    -- of two beginnings of one text, the one with fewer bytes is a beginning of the other
    rcases List.append_eq_append_iff.1 hlists with ⟨cs, hfront, -⟩ | ⟨cs, ha, -⟩
    · have hfront' : front = a ++ String.ofList cs := String.toList_inj.1 (by simpa using hfront)
      exact ⟨a, String.ofList cs, c, by rw [← hfront', htext'], rfl, by rw [hfront']⟩
    · have ha' : a = front ++ String.ofList cs := String.toList_inj.1 (by simpa using ha)
      have hsize : (String.ofList cs).utf8ByteSize = 0 := by
        rw [ha', String.utf8ByteSize_append] at hle
        omega
      rw [String.utf8ByteSize_eq_zero_iff.1 hsize, String.append_empty] at ha'
      subst ha'
      exact ⟨a, "", c, by rw [String.append_empty, htext'], rfl, by rw [String.append_empty]⟩

end Treewalk.Text
