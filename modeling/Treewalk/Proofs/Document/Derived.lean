import Treewalk.Proofs.Document.RoundTrip
import Treewalk.Proofs.Document.Spelling

/-!
# Texts of the grammar are read

Of a form a reader makes something if it makes something of every leaf (`Reader.make`). What the
machine comes to on the text of a form is just that (`Realizes.outcome_read`): it ends with what is
made of the form, or it fails at a leaf that is refused. The proof is by induction on derivations.
`Takes` says what the machine does with the text of a phrase before any further text and with any
containers open, and there is one lemma for each rule of the grammar.
-/

namespace Treewalk

open Lexeme Grammar

/-! ## Beginnings and ends of texts -/

namespace Grammar

/-- Values start with a character that no container ends with. -/
theorem PhraseText.value_start {f : Form} {text : List Char} (h : PhraseText (.value f) text) :
    ∃ c tail, text = c :: tail ∧ isBlank c = false ∧ c ≠ ']' := by
  cases h with
  | nullWord => exact ⟨'n', _, rfl, by decide⟩
  | trueWord => exact ⟨'t', _, rfl, by decide⟩
  | falseWord => exact ⟨'f', _, rfl, by decide⟩
  | number h =>
    obtain ⟨c, tail, rfl, hc⟩ := h.exists_cons
    refine ⟨c, tail, rfl, ?_⟩
    rcases hc with rfl | hc
    · decide
    · refine ⟨isBlank_of_isDigit hc, ?_⟩
      rintro rfl
      revert hc
      decide
  | string h => exact ⟨'"', _, rfl, by decide⟩
  | emptyArray hw => exact ⟨'[', _, rfl, by decide⟩
  | array h => exact ⟨'[', _, rfl, by decide⟩
  | emptyObject hw => exact ⟨'{', _, rfl, by decide⟩
  | object h => exact ⟨'{', _, rfl, by decide⟩

theorem PhraseText.padded_start {f : Form} {text : List Char} (h : PhraseText (.padded f) text) :
    ∃ w c tail, Blanks w ∧ text = w ++ c :: tail ∧ isBlank c = false ∧ c ≠ ']' := by
  cases h with
  | padded hw h _ =>
    obtain ⟨c, tail, rfl, hc⟩ := h.value_start
    exact ⟨_, c, _, hw, by rw [List.cons_append], hc⟩

theorem PhraseText.items_start {fs : List Form} {text : List Char}
    (h : PhraseText (.items fs) text) :
    ∃ w c tail, Blanks w ∧ text = w ++ c :: tail ∧ isBlank c = false ∧ c ≠ ']' := by
  cases h with
  | lastItem h => exact h.padded_start
  | item h _ =>
    obtain ⟨w, c, tail, hw, rfl, hc⟩ := h.padded_start
    exact ⟨w, c, _, hw, by rw [List.append_assoc, List.cons_append], hc⟩

theorem PhraseText.members_start {ms : List (List Piece × Form)} {text : List Char}
    (h : PhraseText (.members ms) text) : ∃ w tail, Blanks w ∧ text = w ++ '"' :: tail := by
  cases h with
  | lastMember hname _ =>
    obtain ⟨hw, -, -⟩ := hname
    exact ⟨_, _, hw, by rw [List.append_assoc, List.cons_append]⟩
  | member hname _ _ =>
    obtain ⟨hw, -, -⟩ := hname
    exact ⟨_, _, hw, by rw [List.append_assoc, List.cons_append]⟩

theorem Blanks.endsNumeral {w rest : List Char} (hw : Blanks w) (hrest : EndsNumeral rest) :
    EndsNumeral (w ++ rest) := by
  cases w with
  | nil => exact hrest
  | cons c w =>
    refine endsNumeral_cons ?_ _
    have hc := hw c List.mem_cons_self
    simp only [List.mem_cons, List.not_mem_nil, or_false] at hc
    rcases hc with rfl | rfl | rfl | rfl <;> decide

end Grammar

namespace Reader

variable {τ α : Type}

/-! ## What a reader makes of a form -/

/-- What a reader makes of strings and numerals, of some of which it may make nothing. -/
structure Meaning (τ α : Type) where
  string : List Piece → Option τ
  number : Numeral → Option α

def make (r : Reader τ α) (m : Meaning τ α) : Form → Option α
  | .null => some r.null
  | .bool b => some (r.bool b)
  | .number n => m.number n
  | .string ps => (m.string ps).map r.text
  | .array fs => (items fs).map r.array
  | .object ms => (members ms).map r.object
where
  items : List Form → Option (List α)
    | [] => some []
    | f :: fs => (make r m f).bind fun v => (items fs).map (v :: ·)
  members : List (List Piece × Form) → Option (List (τ × α))
    | [] => some []
    | (ps, f) :: ms =>
      (m.string ps).bind fun t => (make r m f).bind fun v => (members ms).map ((t, v) :: ·)

/-- Of every string and numeral of the grammar the reader makes what `m` says. -/
structure Realizes (r : Reader τ α) (m : Meaning τ α) : Prop where
  string {ps : List Piece} {text : List Char} (h : StringText ps text) (rest : List Char) :
    Outcome [.string ps] (m.string ps) (fun t => .ok (t, rest)) (r.string (text ++ '"' :: rest))
  number {n : Numeral} {text : List Char} (h : NumeralText n text) {rest : List Char}
    (hrest : EndsNumeral rest) :
    Outcome [.numeral n] (m.number n) (fun v => .ok (v, rest)) (r.number (text ++ rest))

variable {r : Reader τ α} {m : Meaning τ α} {open_ outer : List (Frame τ α)}
  {input rest : List Char}

/-! ## Steps on texts of the grammar -/

theorem run_array_end {v : α} {before : List α} :
    r.run (.complete v) (.array before :: outer) (']' :: rest) =
      r.run (.complete (r.array (before.reverse ++ [v]))) outer rest := by
  rw [run_complete close_array_end, List.reverse_cons]

theorem run_object_end {v : α} {t : τ} {before : List (τ × α)} :
    r.run (.complete v) (.object before t :: outer) ('}' :: rest) =
      r.run (.complete (r.object (before.reverse ++ [(t, v)]))) outer rest := by
  rw [run_complete close_object_end, List.reverse_cons]

/-- After an opening bracket the items are read in a frame of their own. -/
theorem run_array {fs : List Form} {text : List Char} (h : PhraseText (.items fs) text) :
    r.run .value open_ ('[' :: (text ++ rest)) =
      r.run .value (.array [] :: open_) (text ++ rest) := by
  obtain ⟨w, c, tail, hw, rfl, hc, hclose⟩ := h.items_start
  rw [List.append_assoc, List.cons_append, run_value (value_array hw.isBlank hc hclose),
    run_value_blanks hw.isBlank]

theorem run_object {ms : List (List Piece × Form)} {text : List Char}
    (h : PhraseText (.members ms) text) :
    r.run .value open_ ('{' :: (text ++ rest)) = r.run (.name []) open_ (text ++ rest) := by
  obtain ⟨w, tail, hw, rfl⟩ := h.members_start
  rw [List.append_assoc, List.cons_append, run_value (value_object hw.isBlank),
    run_name_blanks hw.isBlank]

/-- A name and a colon lead to the value of a member. -/
theorem outcome_name (hr : r.Realizes m) {ps : List Piece} {name : List Char}
    (hname : NameText ps name) (before : List (τ × α)) :
    Outcome [.string ps] (m.string ps)
      (fun t => r.run .value (.object before t :: open_) rest)
      (r.run (.name before) open_ (name ++ ':' :: rest)) := by
  cases hname with
  | @quoted w text w' hw hps hw' =>
    simp only [List.append_assoc, List.cons_append]
    refine (hr.string hps (w' ++ ':' :: rest)).follow ?_ ?_
    · intro t ht
      exact run_name (member_name hw.isBlank hw'.isBlank ht)
    · intro e he
      rw [run_name_blanks hw.isBlank, run_name_eq]
      unfold member
      rw [skipBlanks_cons (by decide)]
      simp only [↓reduceIte, he]
      rfl

/-! ## Texts of the grammar are read -/

/-- What a reader makes of a phrase, whatever comes after it. In a container, which is what `items`
and `members` are about, something was made of what stands before. -/
def Takes (r : Reader τ α) (m : Meaning τ α) : Phrase → List Char → Prop
  | .value f, text => ∀ (open_ : List (Frame τ α)) (rest : List Char), EndsNumeral rest →
      Outcome f.leaves (r.make m f) (fun v => r.run (.complete v) open_ rest)
        (r.run .value open_ (text ++ rest))
  | .padded f, text => ∀ (frame : Frame τ α) (outer : List (Frame τ α)) (rest : List Char),
      EndsNumeral rest →
      Outcome f.leaves (r.make m f) (fun v => r.run (.complete v) (frame :: outer) rest)
        (r.run .value (frame :: outer) (text ++ rest))
  | .items fs, text => ∀ (before : List α) (open_ : List (Frame τ α)) (rest : List Char),
      Outcome (Form.leaves.ofItems fs) (make.items r m fs)
        (fun vs => r.run (.complete (r.array (before.reverse ++ vs))) open_ rest)
        (r.run .value (.array before :: open_) (text ++ ']' :: rest))
  | .members ms, text => ∀ (before : List (τ × α)) (open_ : List (Frame τ α)) (rest : List Char),
      Outcome (Form.leaves.ofMembers ms) (make.members r m ms)
        (fun vs => r.run (.complete (r.object (before.reverse ++ vs))) open_ rest)
        (r.run (.name before) open_ (text ++ '}' :: rest))

theorem takes_of_reads {f : Form} {text : List Char} {v : α} (h : r.Reads text v)
    (hv : r.make m f = some v) : r.Takes m (.value f) text := by
  intro open_ rest hrest
  rw [h open_ rest hrest]
  exact .goes hv

theorem takes_number (hr : r.Realizes m) {n : Numeral} {text : List Char} (h : NumeralText n text) :
    r.Takes m (.value (.number n)) text := by
  intro open_ rest hrest
  have hnumber := hr.number h hrest
  obtain ⟨c, tail, rfl, hc⟩ := h.exists_cons
  rw [make, Form.leaves]
  rw [List.cons_append] at hnumber ⊢
  refine hnumber.follow ?_ ?_
  · intro v hv
    rw [run_value_eq, value_number hc, hv]
    rfl
  · intro e he
    rw [run_value_eq, value_number hc, he]
    rfl

theorem takes_string (hr : r.Realizes m) {ps : List Piece} {text : List Char}
    (h : StringText ps text) : r.Takes m (.value (.string ps)) ('"' :: (text ++ ['"'])) := by
  intro open_ rest _
  rw [make, Form.leaves, List.cons_append, List.append_assoc, List.singleton_append]
  have hstring : Outcome [.string ps] (m.string ps)
      (fun t => r.run (.complete (r.text t)) open_ rest)
      (r.run .value open_ ('"' :: (text ++ '"' :: rest))) := by
    refine (hr.string h rest).follow ?_ ?_
    · intro t ht
      rw [run_value_eq, value_string, ht]
      rfl
    · intro e he
      rw [run_value_eq, value_string, he]
      rfl
  exact hstring.map fun _ => rfl

theorem takes_padded {f : Form} {w text w' : List Char} (hw : Blanks w)
    (h : r.Takes m (.value f) text) (hw' : Blanks w') :
    r.Takes m (.padded f) (w ++ (text ++ w')) := by
  intro frame outer rest hrest
  have hvalue := h (frame :: outer) (w' ++ rest) (hw'.endsNumeral hrest)
  simp only [run_complete_blanks hw'.isBlank] at hvalue
  rwa [List.append_assoc, List.append_assoc, run_value_blanks hw.isBlank]

theorem takes_array {fs : List Form} {text : List Char} (hfs : PhraseText (.items fs) text)
    (h : r.Takes m (.items fs) text) : r.Takes m (.value (.array fs)) ('[' :: (text ++ [']'])) := by
  intro open_ rest _
  rw [make, Form.leaves, List.cons_append, List.append_assoc, List.singleton_append, run_array hfs]
  exact (h [] open_ rest).map fun _ => rfl

theorem takes_object {ms : List (List Piece × Form)} {text : List Char}
    (hms : PhraseText (.members ms) text) (h : r.Takes m (.members ms) text) :
    r.Takes m (.value (.object ms)) ('{' :: (text ++ ['}'])) := by
  intro open_ rest _
  rw [make, Form.leaves, List.cons_append, List.append_assoc, List.singleton_append,
    run_object hms]
  exact (h [] open_ rest).map fun _ => rfl

theorem takes_lastItem {f : Form} {text : List Char} (h : r.Takes m (.padded f) text) :
    r.Takes m (.items [f]) text := by
  intro before open_ rest
  rw [make.items, Form.leaves.ofItems]
  refine (h (.array before) open_ (']' :: rest) (endsNumeral_cons (by decide) _)).bind ?_
  intro v
  rw [run_array_end, make.items]
  exact .goes rfl

theorem takes_item {f : Form} {fs : List Form} {text more : List Char}
    (h : r.Takes m (.padded f) text) (hs : r.Takes m (.items fs) more) :
    r.Takes m (.items (f :: fs)) (text ++ ',' :: more) := by
  intro before open_ rest
  rw [make.items, Form.leaves.ofItems, List.append_assoc, List.cons_append]
  refine (h (.array before) open_ _ (endsNumeral_cons (by decide) _)).bind ?_
  intro v
  rw [run_complete close_array_comma]
  exact (hs (v :: before) open_ rest).map fun vs => by simp

theorem takes_lastMember (hr : r.Realizes m) {ps : List Piece} {f : Form} {name text : List Char}
    (hname : NameText ps name) (h : r.Takes m (.padded f) text) :
    r.Takes m (.members [(ps, f)]) (name ++ ':' :: text) := by
  intro before open_ rest
  rw [make.members, Form.leaves.ofMembers, List.append_assoc, List.cons_append]
  refine (outcome_name hr hname before).bind fun t => ?_
  refine (h (.object before t) open_ ('}' :: rest) (endsNumeral_cons (by decide) _)).bind ?_
  intro v
  rw [run_object_end, make.members]
  exact .goes rfl

theorem takes_member (hr : r.Realizes m) {ps : List Piece} {f : Form}
    {ms : List (List Piece × Form)} {name text more : List Char} (hname : NameText ps name)
    (h : r.Takes m (.padded f) text) (hs : r.Takes m (.members ms) more) :
    r.Takes m (.members ((ps, f) :: ms)) (name ++ ':' :: (text ++ ',' :: more)) := by
  intro before open_ rest
  rw [make.members, Form.leaves.ofMembers]
  simp only [List.append_assoc, List.cons_append]
  refine (outcome_name hr hname before).bind fun t => ?_
  refine (h (.object before t) open_ _ (endsNumeral_cons (by decide) _)).bind ?_
  intro v
  rw [run_complete close_object_comma]
  exact (hs ((t, v) :: before) open_ rest).map fun vs => by simp

/-- Whatever the grammar derives is read, or refused because of one of its leaves. -/
theorem takes_of_text (hr : r.Realizes m) {p : Phrase} {text : List Char} (h : PhraseText p text) :
    r.Takes m p text := by
  induction h with
  | nullWord => exact takes_of_reads reads_null (by rw [make])
  | trueWord => exact takes_of_reads (reads_bool true) (by rw [make])
  | falseWord => exact takes_of_reads (reads_bool false) (by rw [make])
  | number h => exact takes_number hr h
  | string h => exact takes_string hr h
  | emptyArray hw =>
    exact takes_of_reads (reads_array_nil hw.isBlank) (by rw [make, make.items]; rfl)
  | array h ih => exact takes_array h ih
  | emptyObject hw =>
    exact takes_of_reads (reads_object_nil hw.isBlank) (by rw [make, make.members]; rfl)
  | object h ih => exact takes_object h ih
  | padded hw _ hw' ih => exact takes_padded hw ih hw'
  | lastItem _ ih => exact takes_lastItem ih
  | item _ _ ih ihs => exact takes_item ih ihs
  | lastMember hname _ ih => exact takes_lastMember hr hname ih
  | member hname _ _ ih ihs => exact takes_member hr hname ih ihs

/-- Reading a whole text comes to what is made of its form. -/
theorem Realizes.outcome_read (hr : r.Realizes m) {f : Form} (h : DocumentText f input) :
    Outcome f.leaves (r.make m f) .ok (r.read input) := by
  cases h with
  | @padded _ w text w' hw hf hw' =>
    have hvalue := takes_of_text hr hf [] w' (by simpa using hw'.endsNumeral endsNumeral_nil)
    refine hvalue.follow ?_ ?_
    · intro v hv
      have hend := skipBlanks_append hw'.isBlank []
      rw [List.append_nil] at hend
      rw [read, run_value_blanks hw.isBlank, hv, run]
      simp only [hend]
      rfl
    · intro e he
      rw [read, run_value_blanks hw.isBlank, he]

end Reader

end Treewalk
