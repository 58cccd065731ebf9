import Treewalk.Proofs.Document.RoundTrip
import Treewalk.Proofs.Document.Spelling

/-!
# Accepted texts are texts of the grammar

The machine goes through a text once and has no more than the open containers to go by. What is
still to come is described by `Spelled`: what the mode asks for next, and then the end of every open
container, from the inside out (`Closes`). Each step of the machine takes some text off the front of
that (`spelled_of_value`, `spelled_of_member`, `spelled_of_close`), so a run that ends has gone
through all of it (`spelled_of_run`).
-/

namespace Treewalk

open Lexeme Grammar

namespace Grammar

theorem text_of_word {letters input rest : List Char} (h : word letters input = .ok rest) :
    input = letters ++ rest := by
  induction letters generalizing input with
  | nil => cases h; rfl
  | cons l letters ih =>
    cases input with
    | nil => cases h
    | cons c input =>
      rw [word] at h
      split at h
      · next hc => rw [hc, ih h, List.cons_append]
      · cases h

theorem exists_blanks_of_skipBlanks {input rest : List Char} (h : skipBlanks input = rest) :
    ∃ w, Blanks w ∧ input = w ++ rest := by
  obtain ⟨w, hw, hinput⟩ := exists_blanks input
  exact ⟨w, hw, by rw [← h, ← hinput]⟩

theorem Blanks.append {w w' : List Char} (hw : Blanks w) (hw' : Blanks w') : Blanks (w ++ w') := by
  intro c hc
  rcases List.mem_append.1 hc with hc | hc
  · exact hw c hc
  · exact hw' c hc

theorem NameText.blanks_append {ps : List Piece} {w name : List Char} (hw : Blanks w)
    (h : NameText ps name) : NameText ps (w ++ name) := by
  cases h with
  | quoted hw' hps hw'' =>
    rw [← List.append_assoc]
    exact .quoted (hw.append hw') hps hw''

theorem PhraseText.blanks_padded {f : Form} {w text : List Char} (hw : Blanks w)
    (h : PhraseText (.padded f) text) : PhraseText (.padded f) (w ++ text) := by
  cases h with
  | padded hw' h hw'' =>
    rw [← List.append_assoc]
    exact .padded (hw.append hw') h hw''

/-- Blanks may stand before the first item. -/
theorem PhraseText.blanks_items {fs : List Form} {w text : List Char} (hw : Blanks w)
    (h : PhraseText (.items fs) text) : PhraseText (.items fs) (w ++ text) := by
  cases h with
  | lastItem h => exact .lastItem (h.blanks_padded hw)
  | item h hs =>
    rw [← List.append_assoc]
    exact .item (h.blanks_padded hw) hs

/-- Blanks may stand before the first member. -/
theorem PhraseText.blanks_members {ms : List (List Piece × Form)} {w text : List Char}
    (hw : Blanks w) (h : PhraseText (.members ms) text) : PhraseText (.members ms) (w ++ text) := by
  cases h with
  | lastMember hname h =>
    rw [← List.append_assoc]
    exact .lastMember (hname.blanks_append hw) h
  | member hname h hs =>
    rw [← List.append_assoc]
    exact .member (hname.blanks_append hw) h hs

end Grammar

namespace Reader

variable {τ α : Type}

/-- Strings and numbers that the reader accepts are strings and numbers of the grammar. -/
structure Sound (r : Reader τ α) : Prop where
  string {input rest : List Char} {t : τ} (h : r.string input = .ok (t, rest)) :
    ∃ ps text, StringText ps text ∧ input = text ++ '"' :: rest
  number {input rest : List Char} {v : α} (h : r.number input = .ok (v, rest)) :
    ∃ n text, NumeralText n text ∧ input = text ++ rest

/-- After a complete value, the text holds the end of every open container, and then `rest`. -/
def Closes : List (Frame τ α) → List Char → List Char → Prop
  | [], input, rest => input = rest
  | .array _ :: outer, input, rest => ∃ w tail, Blanks w ∧ Closes outer tail rest ∧
      (input = w ++ ']' :: tail ∨
        ∃ fs text, PhraseText (.items fs) text ∧ input = w ++ ',' :: (text ++ ']' :: tail))
  | .object _ _ :: outer, input, rest => ∃ w tail, Blanks w ∧ Closes outer tail rest ∧
      (input = w ++ '}' :: tail ∨
        ∃ ms text, PhraseText (.members ms) text ∧ input = w ++ ',' :: (text ++ '}' :: tail))

/-- The text holds what the mode asks for and the end of every open container, and then `rest`. -/
def Spelled : Mode τ α → List (Frame τ α) → List Char → List Char → Prop
  | .value, open_, input, rest => ∃ f w text tail, Blanks w ∧ PhraseText (.value f) text ∧
      input = w ++ (text ++ tail) ∧ Closes open_ tail rest
  | .name _, open_, input, rest => ∃ ms text tail, PhraseText (.members ms) text ∧
      input = text ++ '}' :: tail ∧ Closes open_ tail rest
  | .complete _, open_, input, rest => Closes open_ input rest

variable {r : Reader τ α} {open_ outer : List (Frame τ α)} {input rest : List Char}
  {next : Mode τ α × List (Frame τ α) × List Char}

/-- Inside an array a value is the first of the items to come. -/
theorem items_of_spelled {before : List α}
    (h : Spelled .value (.array before :: outer) input rest) :
    ∃ fs text tail, PhraseText (.items fs) text ∧ input = text ++ ']' :: tail ∧
      Closes outer tail rest := by
  obtain ⟨f, w, text, tail, hw, hf, rfl, w', tail', hw', houter, hend⟩ := h
  have hpadded := PhraseText.padded hw hf hw'
  obtain rfl | ⟨fs, more, hfs, rfl⟩ := hend
  · exact ⟨[f], _, tail', .lastItem hpadded, by simp, houter⟩
  · exact ⟨f :: fs, _, tail', .item hpadded hfs, by simp, houter⟩

/-- Inside an object a value and the name before it are the first of the members to come. -/
theorem members_of_spelled {before : List (τ × α)} {t : τ} {ps : List Piece} {name : List Char}
    (hname : NameText ps name) (h : Spelled .value (.object before t :: outer) input rest) :
    ∃ ms text tail, PhraseText (.members ms) text ∧ name ++ ':' :: input = text ++ '}' :: tail ∧
      Closes outer tail rest := by
  obtain ⟨f, w, text, tail, hw, hf, rfl, w', tail', hw', houter, hend⟩ := h
  have hpadded := PhraseText.padded hw hf hw'
  obtain rfl | ⟨ms, more, hms, rfl⟩ := hend
  · exact ⟨[(ps, f)], _, tail', .lastMember hname hpadded, by simp, houter⟩
  · exact ⟨(ps, f) :: ms, _, tail', .member hname hpadded hms, by simp, houter⟩

theorem spelled_of_close {v : α} {frame : Frame τ α} (h : r.close v frame outer input = .ok next)
    (hnext : Spelled next.1 next.2.1 next.2.2 rest) : Closes (frame :: outer) input rest := by
  unfold close at h
  split at h
  · cases h
  · next items c tail hskip =>
    obtain ⟨w, hw, rfl⟩ := exists_blanks_of_skipBlanks hskip
    split at h
    · next hc =>
      subst hc
      cases h
      obtain ⟨fs, text, tail', hfs, rfl, houter⟩ := items_of_spelled hnext
      exact ⟨w, tail', hw, houter, .inr ⟨fs, text, hfs, rfl⟩⟩
    · split at h
      · next hc =>
        subst hc
        cases h
        exact ⟨w, tail, hw, hnext, .inl rfl⟩
      · cases h
  · cases h
  · next members name c tail hskip =>
    obtain ⟨w, hw, rfl⟩ := exists_blanks_of_skipBlanks hskip
    split at h
    · next hc =>
      subst hc
      cases h
      obtain ⟨ms, text, tail', hms, rfl, houter⟩ := hnext
      exact ⟨w, tail', hw, houter, .inr ⟨ms, text, hms, rfl⟩⟩
    · split at h
      · next hc =>
        subst hc
        cases h
        exact ⟨w, tail, hw, hnext, .inl rfl⟩
      · cases h

theorem spelled_of_member (hr : r.Sound) {members : List (τ × α)}
    (h : r.member members open_ input = .ok next)
    (hnext : Spelled next.1 next.2.1 next.2.2 rest) : Spelled (.name members) open_ input rest := by
  unfold member at h
  split at h
  · cases h
  · next c tail hskip =>
    obtain ⟨w, hw, rfl⟩ := exists_blanks_of_skipBlanks hskip
    split at h
    · next hc =>
      subst hc
      split at h
      · cases h
      · next t tail' hstring =>
        obtain ⟨ps, text, hps, rfl⟩ := hr.string hstring
        split at h
        · cases h
        · next c tail'' hskip' =>
          obtain ⟨w', hw', rfl⟩ := exists_blanks_of_skipBlanks hskip'
          split at h
          · next hc =>
            subst hc
            cases h
            obtain ⟨ms, members, tail, hms, heq, houter⟩ :=
              members_of_spelled (.quoted hw hps hw') hnext
            refine ⟨ms, members, tail, hms, ?_, houter⟩
            rw [← heq]
            simp
          · cases h
    · cases h

/-- After an opening bracket the container is empty, or something else than its end follows. -/
theorem opened_cases {closing : Char} {eof : Fault.Cause} {empty : α} {mode : Mode τ α}
    {inner : List (Frame τ α)} (h : opened closing eof empty mode inner outer input = .ok next) :
    ∃ w tail, Blanks w ∧ input = w ++ tail ∧
      ((∃ tail', tail = closing :: tail' ∧ next = (.complete empty, outer, tail')) ∨
        next = (mode, inner, tail)) := by
  unfold opened at h
  split at h
  · cases h
  · next c tail hskip =>
    obtain ⟨w, hw, rfl⟩ := exists_blanks_of_skipBlanks hskip
    split at h
    · next hc =>
      subst hc
      cases h
      exact ⟨w, _, hw, rfl, .inl ⟨tail, rfl, rfl⟩⟩
    · cases h
      exact ⟨w, _, hw, rfl, .inr rfl⟩

theorem spelled_of_value (hr : r.Sound) (h : r.value open_ input = .ok next)
    (hnext : Spelled next.1 next.2.1 next.2.2 rest) : Spelled .value open_ input rest := by
  unfold value at h
  split at h
  · cases h
  · next c tail hskip =>
    obtain ⟨w, hw, rfl⟩ := exists_blanks_of_skipBlanks hskip
    -- a value without parts ends where the next step goes on
    have leaf : ∀ {f : Form} {text tail' : List Char}, PhraseText (.value f) text →
        c :: tail = text ++ tail' → Closes open_ tail' rest →
        Spelled (Mode.value (τ := τ) (α := α)) open_ (w ++ c :: tail) rest := by
      intro f text tail' hf heq houter
      exact ⟨f, w, text, tail', hw, hf, by rw [heq], houter⟩
    split at h
    · next hc =>
      obtain ⟨tail', hword, rfl⟩ := exists_of_map_ok h
      exact leaf .nullWord (by rw [hc, text_of_word hword]; rfl) hnext
    split at h
    · next hc =>
      obtain ⟨tail', hword, rfl⟩ := exists_of_map_ok h
      exact leaf .trueWord (by rw [hc, text_of_word hword]; rfl) hnext
    split at h
    · next hc =>
      obtain ⟨tail', hword, rfl⟩ := exists_of_map_ok h
      exact leaf .falseWord (by rw [hc, text_of_word hword]; rfl) hnext
    split at h
    · obtain ⟨⟨v, tail'⟩, hnumber, rfl⟩ := exists_of_map_ok h
      obtain ⟨n, text, hn, heq⟩ := hr.number hnumber
      exact leaf (.number hn) heq hnext
    split at h
    · next hc =>
      obtain ⟨⟨t, tail'⟩, hstring, rfl⟩ := exists_of_map_ok h
      obtain ⟨ps, text, hps, heq⟩ := hr.string hstring
      exact leaf (.string hps) (by rw [hc, heq]; simp) hnext
    split at h
    · next hc =>
      subst hc
      obtain ⟨w', tail, hw', rfl, ⟨tail', rfl, rfl⟩ | rfl⟩ := opened_cases h
      · exact leaf (.emptyArray hw') (by simp) hnext
      · obtain ⟨fs, text, tail', hfs, rfl, houter⟩ := items_of_spelled hnext
        exact leaf (.array (hfs.blanks_items hw')) (by simp) houter
    split at h
    · next hc =>
      subst hc
      obtain ⟨w', tail, hw', rfl, ⟨tail', rfl, rfl⟩ | rfl⟩ := opened_cases h
      · exact leaf (.emptyObject hw') (by simp) hnext
      · obtain ⟨ms, text, tail', hms, rfl, houter⟩ := hnext
        exact leaf (.object (hms.blanks_members hw')) (by simp) houter
    · cases h

theorem spelled_of_run (hr : r.Sound) {mode : Mode τ α} {v : α}
    (h : r.run mode open_ input = .ok (v, rest)) : Spelled mode open_ input rest := by
  fun_induction run r mode open_ input with
  | case1 open_ input next hstep ih => exact spelled_of_value hr hstep (ih h)
  | case2 => cases h
  | case3 open_ input members next hstep ih => exact spelled_of_member hr hstep (ih h)
  | case4 => cases h
  | case5 input v frame outer next hstep ih => exact spelled_of_close hstep (ih h)
  | case6 => cases h
  | case7 input v =>
    cases h
    rfl

/-- A text that a reader accepts is one value of the grammar with blanks around it. -/
theorem Sound.text_of_read (hr : r.Sound) {v : α} (h : r.read input = .ok v) :
    ∃ f, DocumentText f input := by
  unfold read at h
  split at h
  · cases h
  · next rest hrun =>
    obtain ⟨f, w, text, tail, hw, hf, rfl, rfl⟩ := spelled_of_run hr hrun
    split at h
    · next hskip =>
      obtain ⟨w', hw', rfl⟩ := exists_blanks_of_skipBlanks hskip
      rw [List.append_nil]
      exact ⟨f, .padded hw hf hw'⟩
    · cases h

end Reader

end Treewalk
