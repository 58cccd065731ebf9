import Mathlib.Data.List.TakeWhile
import Treewalk.Proofs.Document.Grammar

/-!
# Lexemes against the grammar

For every part of a numeral or a string there are two lemmas: `…_of_text` says that what the grammar
derives is read, before any text that does not go on with it, and `text_of_…` that what is read is
derived by the grammar. Reading a string may also fail although it is in the grammar, if it has
half of a surrogate pair (`readsAs_characters`).
-/

namespace Treewalk

open Lexeme

namespace Grammar

/-- What reading comes to: it goes on with what is made of a text, or a leaf of the text is
refused and nothing is made. -/
inductive Outcome {β γ : Type} (leaves : List Leaf) (made : Option β) (next : β → Except Fault γ) :
    Except Fault γ → Prop
  | goes {v : β} (h : made = some v) : Outcome leaves made next (next v)
  | refused {leaf : Leaf} {e : Fault} (hleaf : leaf ∈ leaves) (he : leaf.Refused e.cause)
      (h : made = none) : Outcome leaves made next (.error e)

namespace Outcome

variable {β γ δ : Type} {leaves leaves' : List Leaf} {made : Option β} {next : β → Except Fault γ}
  {next' : δ → Except Fault γ} {x : Except Fault γ}

theorem mono (h : Outcome leaves made next x) (hleaves : leaves ⊆ leaves') :
    Outcome leaves' made next x := by
  cases h with
  | goes h => exact .goes h
  | refused hleaf he h => exact .refused (hleaves hleaf) he h

theorem map {f : β → δ} (h : Outcome leaves made next x) (hnext : ∀ v, next v = next' (f v)) :
    Outcome leaves (made.map f) next' x := by
  cases h with
  | goes h =>
    rw [hnext]
    exact .goes (by rw [h, Option.map_some])
  | refused hleaf he h => exact .refused hleaf he (by rw [h, Option.map_none])

theorem bind {f : β → Option δ} (h : Outcome leaves made next x)
    (h' : ∀ v, Outcome leaves' (f v) next' (next v)) :
    Outcome (leaves ++ leaves') (made.bind f) next' x := by
  cases h with
  | @goes v h =>
    rw [h, Option.bind_some]
    exact (h' v).mono (List.subset_append_right _ _)
  | refused hleaf he h =>
    exact .refused (List.mem_append_left _ hleaf) he (by rw [h, Option.bind_none])

/-- Anything that goes on and fails as `x` does has the same outcome. -/
theorem follow {y : Except Fault δ} {next' : β → Except Fault δ} (h : Outcome leaves made next x)
    (hgoes : ∀ v, x = next v → y = next' v) (hrefused : ∀ e, x = .error e → y = .error e) :
    Outcome leaves made next' y := by
  cases h with
  | goes h => exact hgoes _ rfl ▸ .goes h
  | refused hleaf he h => exact hrefused _ rfl ▸ .refused hleaf he h

end Outcome

/-! ## Blanks and digits -/

theorem isBlank_iff {c : Char} : isBlank c = true ↔ c ∈ [' ', '\t', '\n', '\r'] := by
  simp only [isBlank, Bool.or_eq_true, decide_eq_true_eq, List.mem_cons, List.not_mem_nil,
    or_false]
  tauto

theorem Blanks.isBlank {w : List Char} (hw : Blanks w) : ∀ c ∈ w, isBlank c = true :=
  fun c hc => isBlank_iff.2 (hw c hc)

theorem exists_blanks (input : List Char) : ∃ w, Blanks w ∧ input = w ++ skipBlanks input := by
  refine ⟨input.takeWhile Lexeme.isBlank, ?_, List.takeWhile_append_dropWhile.symm⟩
  intro c hc
  exact isBlank_iff.1 (List.mem_takeWhile_imp hc)

theorem isDigit_iff {c : Char} : isDigit c = true ↔ '0' ≤ c ∧ c ≤ '9' := by
  simp [isDigit]

theorem Digits.isDigit {ds : List Char} (h : Digits ds) : ∀ c ∈ ds, isDigit c = true :=
  fun c hc => isDigit_iff.2 (h.2 c hc)

theorem text_of_digits (text : List Char) :
    text = (digits text).1 ++ (digits text).2 ∧ ∀ c ∈ (digits text).1, '0' ≤ c ∧ c ≤ '9' := by
  refine ⟨List.takeWhile_append_dropWhile.symm, ?_⟩
  intro c hc
  exact isDigit_iff.1 (List.mem_takeWhile_imp hc)

/-! ## Numerals -/

theorem whole_of_text {ds rest : List Char} (h : WholeText ds)
    (hrest : ∀ c tail, rest = c :: tail → isDigit c = false) :
    whole (ds ++ rest) = .ok (ds, rest) := by
  cases h with
  | zero => exact whole_zero hrest
  | digits hc h => exact whole_cons hc h.isDigit hrest

theorem text_of_whole {text ds rest : List Char} (h : whole text = .ok (ds, rest)) :
    WholeText ds ∧ text = ds ++ rest := by
  cases text with
  | nil => cases h
  | cons c text =>
    simp only [whole] at h
    split at h
    · next hc =>
      subst hc
      split at h
      · split at h <;> cases h
        exact ⟨.zero, rfl⟩
      · cases h
        exact ⟨.zero, rfl⟩
    · next hc =>
      split at h
      · next hdigit =>
        cases h
        obtain ⟨htext, hds⟩ := text_of_digits text
        refine ⟨.digits hc ⟨List.cons_ne_nil _ _, ?_⟩, by rw [List.cons_append, ← htext]⟩
        exact List.forall_mem_cons.2 ⟨isDigit_iff.1 hdigit, hds⟩
      · cases h

theorem fraction_of_text {f : Option (List Char)} {text rest : List Char} (h : FractionText f text)
    (hrest : ∀ c tail, rest = c :: tail → isDigit c = false ∧ c ≠ '.') :
    fraction (text ++ rest) = .ok (f, rest) := by
  cases h with
  | absent => exact fraction_of_ne fun c tail htail => (hrest c tail htail).2
  | @digits ds h =>
    have hds := digits_append h.isDigit fun c tail htail => (hrest c tail htail).1
    rw [List.cons_append, fraction, hds]
    split
    · next heq => exact absurd (congrArg Prod.fst heq) h.1
    · next heq => cases heq; rfl

theorem text_of_fraction {f : Option (List Char)} {text rest : List Char}
    (h : fraction text = .ok (f, rest)) : ∃ front, FractionText f front ∧ text = front ++ rest := by
  unfold fraction at h
  split at h
  · next text =>
    split at h
    · cases h
    · next ds rest hne hds =>
      cases h
      obtain ⟨htext, hall⟩ := text_of_digits text
      rw [hds] at htext hall
      refine ⟨'.' :: ds, .digits ⟨?_, hall⟩, by rw [htext, List.cons_append]⟩
      rintro rfl
      exact hne rfl
  · cases h
    exact ⟨[], .absent, rfl⟩

theorem exponentSign_of_text {down : Bool} {sign ds : List Char} (hsign : SignText down sign)
    (hds : Digits ds) (rest : List Char) :
    exponentSign (sign ++ (ds ++ rest)) = (down, ds ++ rest) := by
  cases hsign with
  | absent =>
    obtain ⟨c, tail, rfl⟩ := List.exists_cons_of_ne_nil hds.1
    have hc := hds.2 c List.mem_cons_self
    unfold exponentSign
    split
    · next h =>
      obtain ⟨rfl, -⟩ := List.cons.inj h
      exact absurd hc (by decide)
    · next h =>
      obtain ⟨rfl, -⟩ := List.cons.inj h
      exact absurd hc (by decide)
    · rfl
  | plus => rfl
  | minus => rfl

theorem text_of_exponentSign (text : List Char) :
    ∃ sign, SignText (exponentSign text).1 sign ∧ text = sign ++ (exponentSign text).2 := by
  unfold exponentSign
  split
  · exact ⟨['+'], .plus, rfl⟩
  · exact ⟨['-'], .minus, rfl⟩
  · exact ⟨[], .absent, rfl⟩

theorem exponent_of_text {e : Option (Bool × List Char)} {text rest : List Char}
    (h : ExponentText e text) (hrest : EndsNumeral rest) :
    exponent (text ++ rest) = .ok (e, rest) := by
  cases h with
  | absent => exact exponent_of_ends hrest
  | @digits mark down sign ds hmark hsign h =>
    have hds := digits_append h.isDigit fun c tail htail => (hrest c tail htail).1
    have hs := exponentSign_of_text hsign h rest
    rw [List.cons_append, List.append_assoc, exponent, if_pos (by simpa using hmark), hs]
    simp only [hds]
    split
    · next heq => exact absurd (congrArg Prod.fst heq) h.1
    · next heq => cases heq; rfl

theorem text_of_exponent {e : Option (Bool × List Char)} {text rest : List Char}
    (h : exponent text = .ok (e, rest)) : ∃ front, ExponentText e front ∧ text = front ++ rest := by
  cases text with
  | nil =>
    cases h
    exact ⟨[], .absent, rfl⟩
  | cons c text =>
    simp only [exponent] at h
    split at h
    · next hmark =>
      obtain ⟨sign, hsign, htext⟩ := text_of_exponentSign text
      split at h
      · cases h
      · next ds rest hne hds =>
        cases h
        obtain ⟨hrest, hall⟩ := text_of_digits (exponentSign text).2
        rw [hds] at hrest hall
        refine ⟨c :: (sign ++ ds), .digits (by simpa using hmark) hsign ⟨?_, hall⟩, ?_⟩
        · rintro rfl
          exact hne rfl
        · rw [List.cons_append, List.append_assoc, ← hrest, ← htext]
    · cases h
      exact ⟨[], .absent, rfl⟩

theorem WholeText.exists_cons {ds : List Char} (h : WholeText ds) :
    ∃ c tail, ds = c :: tail ∧ isDigit c = true := by
  cases h with
  | zero => exact ⟨'0', [], rfl, rfl⟩
  | @digits c ds _ h => exact ⟨c, ds, rfl, h.isDigit c List.mem_cons_self⟩

/-- The first character of a numeral is a minus sign or a digit. -/
theorem NumeralText.exists_cons {n : Numeral} {text : List Char} (h : NumeralText n text) :
    ∃ c tail, text = c :: tail ∧ (c = '-' ∨ isDigit c = true) := by
  obtain ⟨hwhole, -, -⟩ := h
  obtain ⟨c, tail, rfl, hc⟩ := hwhole.exists_cons
  split
  · exact ⟨'-', _, rfl, .inl rfl⟩
  · exact ⟨c, _, rfl, .inr hc⟩

theorem numeral_of_text {n : Numeral} {text rest : List Char} (h : NumeralText n text)
    (hrest : EndsNumeral rest) : numeral (text ++ rest) = .ok (n, rest) := by
  obtain @⟨negative, w, f, e, _, _, hwhole, hfraction, hexponent⟩ := h
  have hexp : ∀ c tail, e ++ rest = c :: tail → isDigit c = false ∧ c ≠ '.' := by
    intro c tail h
    cases hexponent with
    | absent => exact ⟨(hrest c tail h).1, (hrest c tail h).2.1⟩
    | digits hmark _ _ =>
      obtain ⟨rfl, -⟩ := List.cons.inj h
      rcases hmark with rfl | rfl <;> decide
  have hfrac : ∀ c tail, f ++ (e ++ rest) = c :: tail → isDigit c = false := by
    intro c tail h
    cases hfraction with
    | absent => exact (hexp c tail h).1
    | digits _ =>
      obtain ⟨rfl, -⟩ := List.cons.inj h
      rfl
  have hminus : minus ((if negative then ['-'] else []) ++ (w ++ (f ++ (e ++ rest)))) =
      (negative, w ++ (f ++ (e ++ rest))) := by
    obtain ⟨c, tail, rfl, hc⟩ := hwhole.exists_cons
    cases negative with
    | true => rfl
    | false => exact minus_of_isDigit hc _
  simp only [numeral, List.append_assoc, hminus, whole_of_text hwhole hfrac,
    fraction_of_text hfraction hexp, exponent_of_text hexponent hrest, bind, Except.bind]
  rfl

theorem text_of_numeral {n : Numeral} {text rest : List Char} (h : numeral text = .ok (n, rest)) :
    ∃ front, NumeralText n front ∧ text = front ++ rest := by
  have hminus : text = (if (minus text).1 then ['-'] else []) ++ (minus text).2 := by
    unfold minus
    split <;> rfl
  unfold numeral at h
  cases hw : whole (minus text).2 with
  | error e => rw [hw] at h; cases h
  | ok w =>
    obtain ⟨hwhole, hwtext⟩ := text_of_whole hw
    cases hf : fraction w.2 with
    | error e => simp only [bind, Except.bind, hw, hf] at h; cases h
    | ok f =>
      obtain ⟨ftext, hfraction, hftext⟩ := text_of_fraction hf
      cases he : exponent f.2 with
      | error e => simp only [bind, Except.bind, hw, hf, he] at h; cases h
      | ok e =>
        obtain ⟨etext, hexponent, hetext⟩ := text_of_exponent he
        simp only [bind, Except.bind, hw, hf, he] at h
        cases h
        refine ⟨_, .parts hwhole hfraction hexponent, ?_⟩
        simp only [List.append_assoc]
        rw [← hetext, ← hftext, ← hwtext, ← hminus]

/-! ## Strings -/

/-- Only characters up to `f` have a hexadecimal value. -/
theorem bounds_of_hexValue? {c : Char} {n : Nat} (h : hexValue? c = some n) :
    c.toNat < 103 ∧ n < 16 := by
  have hle : ∀ a b : Char, a ≤ b ↔ a.toNat ≤ b.toNat := fun _ _ => Iff.rfl
  simp only [hexValue?, isDigit, Bool.and_eq_true, decide_eq_true_eq, hle, Char.reduceToNat] at h
  split at h
  · cases h; omega
  · split at h
    · cases h; omega
    · split at h
      · cases h; omega
      · cases h

theorem hexDigit_iff {c : Char} {n : Nat} : HexDigit c n ↔ hexValue? c = some n := by
  constructor
  · rintro ⟨hn, rfl | rfl⟩
    · exact hexValue?_digitChar n hn
    · revert n
      decide
  · intro h
    have hall : ∀ k < 103, ∀ n < 16, hexValue? (Char.ofNat k) = some n →
        Char.ofNat k = n.digitChar ∨ Char.ofNat k = n.digitChar.toUpper := by
      decide +kernel
    obtain ⟨hc, hn⟩ := bounds_of_hexValue? h
    have hchar := hall c.toNat hc n hn
    rw [Char.ofNat_toNat] at hchar
    exact ⟨hn, hchar h⟩

theorem shortEscape?_eq_some_iff {a c : Char} :
    shortEscape? a = some c ↔ (a, c) ∈ shortEscapes := by
  constructor
  · intro h
    unfold shortEscape? at h
    split at h <;> cases h <;> decide
  · intro h
    simp only [shortEscapes, List.mem_cons, Prod.mk.injEq, List.not_mem_nil, or_false] at h
    rcases h with ⟨rfl, rfl⟩ | ⟨rfl, rfl⟩ | ⟨rfl, rfl⟩ | ⟨rfl, rfl⟩ | ⟨rfl, rfl⟩ | ⟨rfl, rfl⟩ |
      ⟨rfl, rfl⟩ | ⟨rfl, rfl⟩ <;> rfl

theorem ne_u_of_mem_shortEscapes {a c : Char} (h : (a, c) ∈ shortEscapes) : a ≠ 'u' := by
  rintro rfl
  rw [← shortEscape?_eq_some_iff] at h
  cases h

theorem hexCode_of_text {n : Nat} {text : List Char} (h : PieceText (.code n) text) :
    ∃ tail, text = '\\' :: 'u' :: tail ∧ ∀ rest, hexCode (tail ++ rest) = .ok (n, rest) := by
  obtain _ | _ | @⟨a, b, c, d, k, l, m, n, ha, hb, hc, hd⟩ := h
  refine ⟨[a, b, c, d], rfl, fun rest => ?_⟩
  rw [hexDigit_iff] at ha hb hc hd
  simp only [List.cons_append, List.nil_append, hexCode, ha, hb, hc, hd]

theorem text_of_hexCode {n : Nat} {text rest : List Char} (h : hexCode text = .ok (n, rest)) :
    ∃ tail, PieceText (.code n) ('\\' :: 'u' :: tail) ∧ text = tail ++ rest := by
  unfold hexCode at h
  split at h
  · next a b c d tail =>
    split at h
    · next ha hb hc hd =>
      cases h
      rw [← hexDigit_iff] at ha hb hc hd
      exact ⟨[a, b, c, d], .code ha hb hc hd, rfl⟩
    · cases h
  · split at h <;> cases h

theorem text_of_escape {x : Escape} {text rest : List Char} (h : escape text = .ok (x, rest)) :
    ∃ p tail, PieceText p ('\\' :: tail) ∧ text = tail ++ rest := by
  cases text with
  | nil => cases h
  | cons a text =>
    simp only [escape] at h
    split at h
    · next ha =>
      subst ha
      split at h
      · next hx =>
        cases h
        obtain ⟨tail, hcode, rfl⟩ := text_of_hexCode hx
        exact ⟨_, 'u' :: tail, hcode, rfl⟩
      · cases h
    · split at h
      · next hshort =>
        cases h
        exact ⟨_, [a], .letter (shortEscape?_eq_some_iff.1 hshort), rfl⟩
      · cases h

/-- A character of a string stands as it is, or is escaped. -/
theorem PieceText.plain_or_escapeOf {c : Char} {text : List Char} (h : PieceText (.char c) text) :
    (text = [c] ∧ c ≠ '"' ∧ c ≠ '\\' ∧ ¬c < ' ') ∨ ∃ e, text = '\\' :: e ∧ EscapeOf c e := by
  cases h with
  | plain hcontrol hquote hslash => exact .inl ⟨rfl, hquote, hslash, Char.not_lt.2 hcontrol⟩
  | @letter a c h =>
    have hshort := shortEscape?_eq_some_iff.2 h
    exact .inr ⟨[a], rfl, escapeOf_letter hshort (ne_u_of_mem_shortEscapes h)⟩

theorem escape_of_code {n : Nat} {tail rest : List Char}
    (h : hexCode (tail ++ rest) = .ok (n, rest)) :
    escape ('u' :: (tail ++ rest)) = .ok (.code n, rest) := by
  simp [escape, h]

theorem skipString_of_text {ps : List Piece} {text : List Char} (h : StringText ps text)
    (rest : List Char) : skipString (text ++ '"' :: rest) = .ok rest := by
  induction h with
  | nil => rw [List.nil_append, skipString, if_pos rfl]
  | @cons p ps first text hp _ ih =>
    rw [List.append_assoc]
    cases p with
    | char c =>
      obtain ⟨rfl, hquote, hslash, hcontrol⟩ | ⟨e, rfl, he⟩ := hp.plain_or_escapeOf
      · rw [List.singleton_append, skipString, if_neg hquote, if_neg hslash, if_neg hcontrol, ih]
      · obtain ⟨⟨x, hx⟩, -⟩ := he (text ++ '"' :: rest)
        rw [List.cons_append, skipString_escape hx, ih]
    | code n =>
      obtain ⟨tail, rfl, htail⟩ := hexCode_of_text hp
      rw [List.cons_append, List.cons_append, skipString_escape (escape_of_code (htail _)), ih]

theorem text_of_skipString {input rest : List Char} (h : skipString input = .ok rest) :
    ∃ ps text, StringText ps text ∧ input = text ++ '"' :: rest := by
  fun_induction skipString input with
  | case1 => cases h
  | case2 => cases h; exact ⟨[], [], .nil, rfl⟩
  | case3 input x rest' he _ ih =>
    obtain ⟨ps, text, hps, rfl⟩ := ih h
    obtain ⟨p, tail, hp, rfl⟩ := text_of_escape he
    exact ⟨p :: ps, _, .cons hp hps, by simp⟩
  | case4 => cases h
  | case5 => cases h
  | case6 c input hquote hslash hcontrol ih =>
    obtain ⟨ps, text, hps, rfl⟩ := ih h
    exact ⟨.char c :: ps, _, .cons (.plain (Char.not_lt.1 hcontrol) hquote hslash) hps, rfl⟩

theorem text_of_codePoint {n : Nat} {input rest : List Char} {c : Char}
    (h : codePoint n input = .ok (c, rest)) :
    ∃ ps text, StringText ps text ∧ input = text ++ rest := by
  unfold codePoint at h
  split at h
  · cases h
  · split at h
    · split at h
      · split at h
        · next hx =>
          split at h
          · obtain ⟨tail, hcode, rfl⟩ := text_of_hexCode hx
            simp only [Except.ok.injEq, Prod.mk.injEq] at h
            exact ⟨[_], _, .cons hcode .nil, by simp [h.2]⟩
          · cases h
        · cases h
      · cases h
      · cases h
    · cases h; exact ⟨[], [], .nil, rfl⟩

theorem text_of_escaped {input rest : List Char} {c : Char} (h : escaped input = .ok (c, rest)) :
    ∃ ps text, StringText ps text ∧ '\\' :: input = text ++ rest := by
  unfold escaped at h
  split at h
  · next he =>
    cases h
    obtain ⟨p, tail, hp, rfl⟩ := text_of_escape he
    exact ⟨[p], _, .cons hp .nil, by simp⟩
  · next he =>
    obtain ⟨p, tail, hp, rfl⟩ := text_of_escape he
    obtain ⟨ps, text, hps, rfl⟩ := text_of_codePoint h
    exact ⟨p :: ps, _, .cons hp hps, by simp⟩
  · cases h

theorem StringText.append {ps qs : List Piece} {text text' : List Char} (hps : StringText ps text)
    (hqs : StringText qs text') : StringText (ps ++ qs) (text ++ text') := by
  induction hps with
  | nil => exact hqs
  | cons hp _ ih =>
    rw [List.append_assoc]
    exact .cons hp ih

theorem text_of_readString {front s : String} {input rest : List Char}
    (h : readString front input = .ok (s, rest)) :
    ∃ ps text, StringText ps text ∧ input = text ++ '"' :: rest := by
  fun_induction readString front input with
  | case1 => cases h
  | case2 => cases h; exact ⟨[], [], .nil, rfl⟩
  | case3 front input c rest' he _ ih =>
    obtain ⟨ps, text, hps, rfl⟩ := ih h
    obtain ⟨qs, text', hqs, htext⟩ := text_of_escaped he
    exact ⟨qs ++ ps, _, hqs.append hps, by rw [htext, List.append_assoc]⟩
  | case4 => cases h
  | case5 => cases h
  | case6 front c input hquote hslash hcontrol ih =>
    obtain ⟨ps, text, hps, rfl⟩ := ih h
    exact ⟨.char c :: ps, _, .cons (.plain (Char.not_lt.1 hcontrol) hquote hslash) hps, rfl⟩

theorem readString_char {c : Char} {text : List Char} (h : PieceText (.char c) text)
    (front : String) (rest : List Char) :
    readString front (text ++ rest) = readString (front.push c) rest := by
  obtain ⟨rfl, hquote, hslash, hcontrol⟩ | ⟨e, rfl, he⟩ := h.plain_or_escapeOf
  · rw [List.singleton_append, readString, if_neg hquote, if_neg hslash, if_neg hcontrol]
  · rw [List.cons_append, readString_escape (he _).2]

theorem readString_code {n : Nat} {text : List Char} (h : PieceText (.code n) text) (front : String)
    (rest : List Char) : readString front (text ++ rest) =
      (codePoint n rest).bind fun (c, rest) => readString (front.push c) rest := by
  obtain ⟨tail, rfl, htail⟩ := hexCode_of_text h
  have he : escaped ('u' :: (tail ++ rest)) = codePoint n rest := by
    rw [escaped, escape_of_code (htail rest)]
  rw [List.cons_append, List.cons_append, readString, if_neg (by decide), if_pos rfl, he]
  cases codePoint n rest <;> simp [Except.bind]

theorem isLowSurrogate_iff {n : Nat} : isLowSurrogate n = true ↔ 0xDC00 ≤ n ∧ n ≤ 0xDFFF := by
  simp [isLowSurrogate]

theorem isHighSurrogate_iff {n : Nat} : isHighSurrogate n = true ↔ 0xD800 ≤ n ∧ n < 0xDC00 := by
  simp only [isHighSurrogate, Bool.and_eq_true, decide_eq_true_eq]
  omega

theorem codePoint_of_pair {n m : Nat} {text : List Char} (h : PieceText (.code m) text)
    (hn : 0xD800 ≤ n ∧ n < 0xDC00) (hm : 0xDC00 ≤ m ∧ m ≤ 0xDFFF) (rest : List Char) :
    codePoint n (text ++ rest) =
      .ok (Char.ofNat (0x10000 + (n - 0xD800) * 0x400 + (m - 0xDC00)), rest) := by
  obtain ⟨tail, rfl, htail⟩ := hexCode_of_text h
  have hlow : ¬isLowSurrogate n = true := by
    rw [isLowSurrogate_iff]
    omega
  rw [← isHighSurrogate_iff] at hn
  rw [← isLowSurrogate_iff] at hm
  simp only [codePoint, hlow, hn, List.cons_append, htail, hm]
  rfl

/-- The cause of a fault is half of a surrogate pair. -/
def HalfPair (e : Fault) : Prop := e.cause = .loneSurrogate ∨ e.cause = .unfinishedSurrogate

/-- Half of a surrogate pair is refused if the other half does not follow. -/
theorem codePoint_of_unpaired {n : Nat} {ps : List Piece} {text : List Char}
    (hn : 0xD800 ≤ n ∧ n ≤ 0xDFFF) (hps : StringText ps text)
    (hpair : ∀ m qs, ps = .code m :: qs → ¬(n < 0xDC00 ∧ 0xDC00 ≤ m ∧ m ≤ 0xDFFF))
    (rest : List Char) : ∃ e, codePoint n (text ++ '"' :: rest) = .error e ∧ HalfPair e := by
  unfold codePoint
  split
  · exact ⟨_, rfl, .inl rfl⟩
  · next hlow =>
    rw [isLowSurrogate_iff] at hlow
    have hhigh : 0xD800 ≤ n ∧ n < 0xDC00 := by omega
    rw [if_pos (isHighSurrogate_iff.2 hhigh)]
    cases hps with
    | nil => exact ⟨_, rfl, .inr rfl⟩
    | @cons p ps first text hp _ =>
      cases p with
      | code m =>
        obtain ⟨tail, rfl, htail⟩ := hexCode_of_text hp
        have hm : ¬isLowSurrogate m = true := by
          rw [isLowSurrogate_iff]
          exact fun hm => hpair m ps rfl ⟨hhigh.2, hm⟩
        simp only [List.cons_append, List.append_assoc, htail, hm]
        exact ⟨_, rfl, .inl rfl⟩
      | char c =>
        -- no character is written with a backslash and a `u`
        have hfirst : ∀ tail, first ++ text ++ '"' :: rest ≠ '\\' :: 'u' :: tail := by
          intro tail h
          cases hp with
          | plain _ _ hslash => exact hslash (List.cons.inj h).1
          | letter hmem => exact ne_u_of_mem_shortEscapes hmem (List.cons.inj (List.cons.inj h).2).1
        split
        · next tail htail => exact absurd htail (hfirst tail)
        · exact ⟨_, rfl, .inr rfl⟩
        · exact ⟨_, rfl, .inr rfl⟩

/-- What reading a string comes to, if the characters in `front` stand before it. -/
def ReadsAs (front : String) (made : Option (List Char)) (rest : List Char)
    (x : Except Fault (String × List Char)) : Prop :=
  (∃ cs, made = some cs ∧ x = .ok (front ++ String.ofList cs, rest)) ∨
    made = none ∧ ∃ e, x = .error e ∧ HalfPair e

theorem ReadsAs.cons {front : String} {c : Char} {made : Option (List Char)} {rest : List Char}
    {x : Except Fault (String × List Char)} (h : ReadsAs (front.push c) made rest x) :
    ReadsAs front (made.map (c :: ·)) rest x := by
  obtain ⟨cs, rfl, rfl⟩ | ⟨rfl, he⟩ := h
  · exact .inl ⟨c :: cs, rfl, by rw [push_append_ofList]⟩
  · exact .inr ⟨rfl, he⟩

/-- A string is read as its characters, if it has them. -/
theorem readsAs_characters {ps : List Piece} {text : List Char} (h : StringText ps text)
    (front : String) (rest : List Char) :
    ReadsAs front (characters? ps) rest (readString front (text ++ '"' :: rest)) := by
  fun_induction characters? ps generalizing text front with
  | case1 =>
    cases h
    exact .inl ⟨[], rfl, by simp [readString]⟩
  | case2 c ps ih =>
    obtain _ | ⟨hp, hps⟩ := h
    rw [List.append_assoc, readString_char hp]
    exact (ih hps (front.push c)).cons
  | case3 n ps hn ih =>
    obtain _ | ⟨hp, hps⟩ := h
    rw [List.append_assoc, readString_code hp, codePoint_of_not_surrogate hn]
    exact (ih hps (front.push _)).cons
  | case4 n hn m ps hpair ih =>
    obtain _ | ⟨hp, _ | ⟨hq, hps⟩⟩ := h
    rw [List.append_assoc, List.append_assoc, readString_code hp,
      codePoint_of_pair hq (by omega) hpair.2]
    exact (ih hps (front.push _)).cons
  | case5 n hn m ps hpair =>
    obtain _ | ⟨hp, hps⟩ := h
    have hsurrogate : 0xD800 ≤ n ∧ n ≤ 0xDFFF := by omega
    obtain ⟨e, he, hhalf⟩ := codePoint_of_unpaired hsurrogate hps
      (by rintro _ _ ⟨⟩; exact hpair) rest
    rw [List.append_assoc, readString_code hp, he]
    exact .inr ⟨rfl, e, rfl, hhalf⟩
  | case6 n ps hn hpair =>
    obtain _ | ⟨hp, hps⟩ := h
    have hsurrogate : 0xD800 ≤ n ∧ n ≤ 0xDFFF := by omega
    obtain ⟨e, he, hhalf⟩ := codePoint_of_unpaired hsurrogate hps
      (fun m qs heq => absurd heq (hpair m qs)) rest
    rw [List.append_assoc, readString_code hp, he]
    exact .inr ⟨rfl, e, rfl, hhalf⟩

end Grammar

end Treewalk
