import Treewalk.Document.Printer
import Treewalk.Document.Reader

/-!
# Strings and integers are read as they are written

A string is passed over, and read, up to its closing quote, whatever characters are in it
(`skipString_quoted`, `readString_quoted`). An integer is read as itself if it has at most 64 bits
(`number_repr`), provided that the text after it does not go on with the numeral (`EndsNumeral`).
-/

namespace Treewalk.Lexeme

open Text (documentChar hex4)

/-! ## Strings -/

theorem hexValue?_digitChar : ∀ k < 16, hexValue? (Nat.digitChar k) = some k := by
  decide

theorem hexCode_hex4 {n : Nat} (hn : n < 65536) (rest : List Char) :
    hexCode (hex4 n ++ rest) = .ok (n, rest) := by
  have h : ∀ k, hexValue? (Nat.digitChar (k % 16)) = some (k % 16) := fun k =>
    hexValue?_digitChar _ (Nat.mod_lt _ (by decide))
  simp only [hex4, List.cons_append, List.nil_append, hexCode, h]
  have : ((n / 4096 % 16 * 16 + n / 256 % 16) * 16 + n / 16 % 16) * 16 + n % 16 = n := by omega
  rw [this]

theorem codePoint_of_not_surrogate {n : Nat} (hn : n < 0xD800 ∨ 0xDFFF < n) (text : List Char) :
    codePoint n text = .ok (Char.ofNat n, text) := by
  have hlow : isLowSurrogate n = false := by
    simp only [isLowSurrogate, Bool.and_eq_false_iff, decide_eq_false_iff_not]
    omega
  have hhigh : isHighSurrogate n = false := by
    simp only [isHighSurrogate, Bool.and_eq_false_iff, decide_eq_false_iff_not]
    omega
  simp [codePoint, hlow, hhigh]

/-- What follows a backslash stands for `c`, whether it is passed over or read. -/
def EscapeOf (c : Char) (e : List Char) : Prop :=
  ∀ rest, (∃ x, escape (e ++ rest) = .ok (x, rest)) ∧ escaped (e ++ rest) = .ok (c, rest)

theorem escapeOf_letter {a c : Char} (ha : shortEscape? a = some c) (hu : a ≠ 'u') :
    EscapeOf c [a] := by
  intro rest
  have he : escape ([a] ++ rest) = .ok (.char c, rest) := by
    simp [escape, hu, ha]
  exact ⟨⟨_, he⟩, by rw [escaped, he]⟩

theorem escapeOf_code {c : Char} (hc : c < ' ') : EscapeOf c ('u' :: hex4 c.toNat) := by
  intro rest
  have hlt : c.toNat < 32 := UInt32.lt_iff_toNat_lt.1 hc
  have he : escape ('u' :: hex4 c.toNat ++ rest) = .ok (.code c.toNat, rest) := by
    simp [escape, hexCode_hex4 (show c.toNat < 65536 by omega)]
  refine ⟨⟨_, he⟩, ?_⟩
  rw [escaped, he]
  simp only
  rw [codePoint_of_not_surrogate (by omega), Char.ofNat_toNat]

/-- A character is written as it stands, or as a backslash and an escape. -/
theorem documentChar_cases (c : Char) :
    (documentChar c = [c] ∧ c ≠ '"' ∧ c ≠ '\\' ∧ ¬ c < ' ') ∨
      ∃ e, documentChar c = '\\' :: e ∧ EscapeOf c e := by
  unfold documentChar
  by_cases h₁ : c = '"'
  · subst h₁
    exact .inr ⟨['"'], by decide, escapeOf_letter (by decide) (by decide)⟩
  by_cases h₂ : c = '\\'
  · subst h₂
    exact .inr ⟨['\\'], by decide, escapeOf_letter (by decide) (by decide)⟩
  by_cases h₃ : c = '\n'
  · subst h₃
    exact .inr ⟨['n'], by decide, escapeOf_letter (by decide) (by decide)⟩
  by_cases h₄ : c = '\r'
  · subst h₄
    exact .inr ⟨['r'], by decide, escapeOf_letter (by decide) (by decide)⟩
  by_cases h₅ : c = '\t'
  · subst h₅
    exact .inr ⟨['t'], by decide, escapeOf_letter (by decide) (by decide)⟩
  by_cases h₆ : c = '\x08'
  · subst h₆
    exact .inr ⟨['b'], by decide, escapeOf_letter (by decide) (by decide)⟩
  by_cases h₇ : c = '\x0c'
  · subst h₇
    exact .inr ⟨['f'], by decide, escapeOf_letter (by decide) (by decide)⟩
  by_cases h₈ : c < ' '
  · exact .inr ⟨_, by simp [h₁, h₂, h₃, h₄, h₅, h₆, h₇, h₈], escapeOf_code h₈⟩
  · exact .inl ⟨by simp [h₁, h₂, h₃, h₄, h₅, h₆, h₇, h₈], h₁, h₂, h₈⟩

theorem skipString_escape {text rest : List Char} {x : Escape} (h : escape text = .ok (x, rest)) :
    skipString ('\\' :: text) = skipString rest := by
  rw [skipString, if_neg (by decide), if_pos rfl]
  split
  · next heq => rw [h] at heq; cases heq; rfl
  · next heq => rw [h] at heq; cases heq

theorem readString_escape {front : String} {text rest : List Char} {c : Char}
    (h : escaped text = .ok (c, rest)) :
    readString front ('\\' :: text) = readString (front.push c) rest := by
  rw [readString, if_neg (by decide), if_pos rfl]
  split
  · next heq => rw [h] at heq; cases heq; rfl
  · next heq => rw [h] at heq; cases heq

theorem skipString_quoted (cs rest : List Char) :
    skipString (cs.flatMap documentChar ++ '"' :: rest) = .ok rest := by
  induction cs with
  | nil => rw [List.flatMap_nil, List.nil_append, skipString, if_pos rfl]
  | cons c cs ih =>
    rw [List.flatMap_cons, List.append_assoc]
    obtain ⟨h, hquote, hslash, hcontrol⟩ | ⟨e, h, he⟩ := documentChar_cases c
    · rw [h, List.singleton_append, skipString, if_neg hquote, if_neg hslash, if_neg hcontrol, ih]
    · obtain ⟨⟨x, hx⟩, -⟩ := he (cs.flatMap documentChar ++ '"' :: rest)
      rw [h, List.cons_append, skipString_escape hx, ih]

theorem push_append_ofList (front : String) (c : Char) (cs : List Char) :
    front.push c ++ String.ofList cs = front ++ String.ofList (c :: cs) := by
  apply String.toList_inj.1
  simp

theorem readString_quoted (front : String) (cs rest : List Char) :
    readString front (cs.flatMap documentChar ++ '"' :: rest) =
      .ok (front ++ String.ofList cs, rest) := by
  induction cs generalizing front with
  | nil => simp [readString]
  | cons c cs ih =>
    rw [List.flatMap_cons, List.append_assoc]
    obtain ⟨h, hquote, hslash, hcontrol⟩ | ⟨e, h, he⟩ := documentChar_cases c
    · rw [h, List.singleton_append, readString, if_neg hquote, if_neg hslash, if_neg hcontrol, ih,
        push_append_ofList]
    · rw [h, List.cons_append, readString_escape (he _).2, ih, push_append_ofList]

/-! ## Integers -/

/-- The text does not go on with a numeral. -/
def EndsNumeral (text : List Char) : Prop :=
  ∀ c rest, text = c :: rest → isDigit c = false ∧ c ≠ '.' ∧ c ≠ 'e' ∧ c ≠ 'E'

theorem isDigit_of_mem_toDigits {n : Nat} {c : Char} (h : c ∈ Nat.toDigits 10 n) :
    isDigit c = true :=
  Nat.isDigit_of_mem_toDigits (by decide) (by decide) h

/-- The first digit of a number is not zero, unless the number is. -/
theorem toDigits_eq_cons {n : Nat} (hn : n ≠ 0) :
    ∃ c ds, Nat.toDigits 10 n = c :: ds ∧ c ≠ '0' := by
  induction n using Nat.strongRecOn with
  | _ n ih =>
    by_cases hlt : n < 10
    · refine ⟨n.digitChar, [], Nat.toDigits_of_lt_base hlt, ?_⟩
      rwa [ne_eq, Nat.digitChar_eq_zero]
    · obtain ⟨c, ds, h, hc⟩ := ih (n / 10) (by omega) (by omega)
      refine ⟨c, ds ++ [(n % 10).digitChar], ?_, hc⟩
      rw [Nat.toDigits_of_base_le (by decide) (by omega), h, List.cons_append]

theorem digits_append {ds rest : List Char} (hds : ∀ c ∈ ds, isDigit c = true)
    (hrest : ∀ c tail, rest = c :: tail → isDigit c = false) :
    digits (ds ++ rest) = (ds, rest) := by
  have hnil : rest.takeWhile isDigit = [] ∧ rest.dropWhile isDigit = rest := by
    cases rest with
    | nil => exact ⟨rfl, rfl⟩
    | cons c rest =>
      have hc := hrest c rest rfl
      simp [hc]
  rw [digits, List.takeWhile_append_of_pos hds, List.dropWhile_append_of_pos hds, hnil.1, hnil.2,
    List.append_nil]

theorem whole_zero {rest : List Char} (hrest : ∀ c tail, rest = c :: tail → isDigit c = false) :
    whole ('0' :: rest) = .ok (['0'], rest) := by
  cases rest with
  | nil => rfl
  | cons c rest => simp [whole, hrest c rest rfl]

theorem whole_cons {c : Char} {ds rest : List Char} (hc : c ≠ '0')
    (hds : ∀ x ∈ c :: ds, isDigit x = true)
    (hrest : ∀ c tail, rest = c :: tail → isDigit c = false) :
    whole (c :: (ds ++ rest)) = .ok (c :: ds, rest) := by
  have hfirst := hds c List.mem_cons_self
  have hdigits := digits_append (fun x hx => hds x (List.mem_cons_of_mem _ hx)) hrest
  simp [whole, hc, hfirst, hdigits]

theorem whole_toDigits (n : Nat) {rest : List Char}
    (hrest : ∀ c tail, rest = c :: tail → isDigit c = false) :
    whole (Nat.toDigits 10 n ++ rest) = .ok (Nat.toDigits 10 n, rest) := by
  by_cases hn : n = 0
  · subst hn
    exact whole_zero hrest
  · obtain ⟨c, ds, h, hc⟩ := toDigits_eq_cons hn
    rw [h, List.cons_append]
    exact whole_cons hc (fun x hx => isDigit_of_mem_toDigits (n := n) (h ▸ hx)) hrest

theorem fraction_of_ne {rest : List Char} (hrest : ∀ c tail, rest = c :: tail → c ≠ '.') :
    fraction rest = .ok (none, rest) := by
  unfold fraction
  split
  · next text => exact absurd rfl (hrest '.' text rfl)
  · rfl

theorem exponent_of_ends {rest : List Char} (hrest : EndsNumeral rest) :
    exponent rest = .ok (none, rest) := by
  cases rest with
  | nil => rfl
  | cons c rest =>
    obtain ⟨-, -, he, hE⟩ := hrest c rest rfl
    simp [exponent, he, hE]

theorem minus_of_isDigit {c : Char} (hc : isDigit c = true) (rest : List Char) :
    minus (c :: rest) = (false, c :: rest) := by
  unfold minus
  split
  · next h =>
    obtain ⟨rfl, -⟩ := List.cons.inj h
    exact absurd hc (by decide)
  · rfl

theorem minus_toDigits (n : Nat) (rest : List Char) :
    minus (Nat.toDigits 10 n ++ rest) = (false, Nat.toDigits 10 n ++ rest) := by
  cases h : Nat.toDigits 10 n with
  | nil => exact absurd h Nat.toDigits_ne_nil
  | cons c ds =>
    exact minus_of_isDigit (isDigit_of_mem_toDigits (n := n) (h ▸ List.mem_cons_self)) _

/-- The text of an integer is a numeral of its sign and its digits. -/
theorem numeral_repr (n : Int) {rest : List Char} (hrest : EndsNumeral rest) :
    numeral (n.repr.toList ++ rest) =
      .ok (⟨decide (n < 0), Nat.toDigits 10 n.natAbs, none, none⟩, rest) := by
  have unsigned : ∀ {text : List Char} {negative : Bool},
      minus text = (negative, Nat.toDigits 10 n.natAbs ++ rest) →
        numeral text = .ok (⟨negative, Nat.toDigits 10 n.natAbs, none, none⟩, rest) := by
    intro text negative h
    have hwhole := whole_toDigits n.natAbs fun c tail h => (hrest c tail h).1
    have hfraction := fraction_of_ne fun c tail h => (hrest c tail h).2.1
    simp only [numeral, h, hwhole, hfraction, exponent_of_ends hrest, bind, Except.bind]
    rfl
  rw [Int.repr_eq_if]
  by_cases hn : 0 ≤ n
  · rw [if_pos hn, Nat.toList_repr, decide_eq_false (by omega)]
    have habs : n.toNat = n.natAbs := by omega
    rw [habs]
    exact unsigned (minus_toDigits _ _)
  · rw [if_neg hn, String.toList_append, Nat.toList_repr, decide_eq_true (by omega)]
    have habs : (-n).toNat = n.natAbs := by omega
    rw [habs]
    exact unsigned rfl

theorem gather_of_lt {ds : List Char} {significand : Nat}
    (h : Nat.ofDigitChars 10 ds significand < Numeral.significandBound) :
    Numeral.gather significand ds = (Nat.ofDigitChars 10 ds significand, []) := by
  induction ds generalizing significand with
  | nil => simp [Numeral.gather]
  | cons c ds ih =>
    have hnext : significand * 10 + Numeral.digitValue c =
        10 * significand + (c.toNat - '0'.toNat) := by
      rw [Numeral.digitValue, Nat.mul_comm]
    rw [Nat.ofDigitChars_cons, ← hnext] at h ⊢
    have hlt : significand * 10 + Numeral.digitValue c < Numeral.significandBound := by
      have hpos : 0 < 10 ^ ds.length := Nat.pow_pos (by decide)
      have hle := Nat.le_mul_of_pos_left (significand * 10 + Numeral.digitValue c) hpos
      rw [Nat.ofDigitChars_eq_ofDigitChars_zero] at h
      omega
    rw [Numeral.gather]
    simp only [hlt, ↓reduceIte]
    exact ih h

/-- Integers of at most 64 bits, with or without a sign. -/
def InBounds (n : Int) : Prop :=
  -(Numeral.negativeBound : Int) ≤ n ∧ n < (Numeral.significandBound : Int)

theorem inBounds_natCast {n : Nat} (hn : n < UInt64.size) : InBounds n := by
  have hbound : Numeral.significandBound = UInt64.size := rfl
  exact ⟨by omega, by omega⟩

theorem inBounds_int32 (n : Int32) : InBounds n.toInt := by
  have hle : -2147483648 ≤ n.toInt := n.le_toInt
  have hlt : n.toInt < 2147483648 := n.toInt_lt
  have hnegative : Numeral.negativeBound = 9223372036854775808 := rfl
  have hbound : Numeral.significandBound = 18446744073709551616 := rfl
  exact ⟨by omega, by omega⟩

theorem value_toDigits {n : Int} (hn : InBounds n) :
    (⟨decide (n < 0), Nat.toDigits 10 n.natAbs, none, none⟩ : Numeral).value = .ok (.int n) := by
  obtain ⟨hle, hlt⟩ := hn
  -- under a name of its own the cast of `natAbs` is not taken for an absolute value
  obtain ⟨m, hm⟩ : ∃ m, m = n.natAbs := ⟨_, rfl⟩
  rw [← hm]
  have hbounds : Numeral.negativeBound < Numeral.significandBound := by decide
  have hdigits : Nat.ofDigitChars 10 (Nat.toDigits 10 m) 0 < Numeral.significandBound := by
    rw [Nat.ofDigitChars_ten_toDigits]
    omega
  have hgather := gather_of_lt hdigits
  rw [Nat.ofDigitChars_ten_toDigits] at hgather
  unfold Numeral.value Numeral.scientific
  simp only [hgather, Option.getD_none, Numeral.gather]
  by_cases hneg : n < 0
  · have hbound : m ≠ 0 ∧ m ≤ Numeral.negativeBound := ⟨by omega, by omega⟩
    have habs : -(m : Int) = n := by omega
    simp [hneg, hbound, habs]
  · have habs : (m : Int) = n := by omega
    simp [hneg, habs]

/-- An integer of at most 64 bits is read as itself. -/
theorem number_repr {n : Int} (hn : InBounds n) {rest : List Char}
    (hrest : EndsNumeral rest) : number (n.repr.toList ++ rest) = .ok (.int n, rest) := by
  simp only [number, numeral_repr n hrest, value_toDigits hn, bind, Except.bind]
  rfl

end Treewalk.Lexeme
