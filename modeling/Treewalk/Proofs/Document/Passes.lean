import Treewalk.Proofs.Document.Accepted
import Treewalk.Proofs.Document.Derived
import Treewalk.Proofs.Document.Numeral

/-!
# The two passes over a text agree

A text is read twice, once for its form and once for its document. Both passes are the same machine,
so what was shown for every reader holds of both: what they accept is in the grammar (`Sound`), and
texts of the grammar are read (`Realizes`). The first pass makes something of every form
(`make_outline`), and the second makes what the form denotes (`make_full_iff`). Of members with one
name only the last is in the document, which is what sorting them does (`lastWins_sortMembers`).
The main statement is `Document.passes_agree`.
-/

namespace Treewalk

open Lexeme Grammar

/-! ## Repeated names -/

namespace Grammar

theorem getElem?_ofList (members : List (String × Document)) (name : String) :
    (Std.TreeMap.ofList members)[name]? = Document.member? name members.reverse := by
  rw [Std.TreeMap.ofList_eq_insertMany_empty, Std.TreeMap.getElem?_insertMany_list,
    Std.TreeMap.getElem?_emptyc, Option.or_none, List.findSomeRev?_eq_findSome?_reverse,
    Document.member?, List.lookup_eq_findSome?]
  congr 1
  funext m
  have hname : compare m.1 name = .eq ↔ (name == m.1) = true := by
    rw [compare_eq_iff_eq, beq_iff_eq, eq_comm]
  simp only [hname]

theorem ascending_sortMembers (members : List (String × Document)) :
    (Reader.sortMembers members).Pairwise fun a b => a.1 < b.1 :=
  Std.TreeMap.ordered_keys_toList.imp compare_lt_iff_lt.1

theorem distinct_of_ascending {members : List (String × Document)}
    (h : members.Pairwise fun a b => a.1 < b.1) : members.Pairwise fun a b => a.1 ≠ b.1 :=
  h.imp ne_of_lt

theorem lastWins_sortMembers (written : List (String × Document)) :
    LastWins written (Reader.sortMembers written) where
  ascending := ascending_sortMembers written
  last name := by
    apply Option.ext
    intro d
    rw [Document.member?_eq_some_iff (Document.pairwise_names_sortMembers written),
      Reader.sortMembers, Std.TreeMap.mem_toList_iff_getElem?_eq_some, getElem?_ofList]

/-- There is only one way to keep the last of each name in ascending order. -/
theorem LastWins.eq {written kept kept' : List (String × Document)} (h : LastWins written kept)
    (h' : LastWins written kept') : kept = kept' := by
  have hmem : ∀ m, m ∈ kept ↔ m ∈ kept' := by
    rintro ⟨name, d⟩
    rw [← Document.member?_eq_some_iff (distinct_of_ascending h.ascending),
      ← Document.member?_eq_some_iff (distinct_of_ascending h'.ascending), h.last, h'.last]
  have hnodup : ∀ {members : List (String × Document)},
      members.Pairwise (fun a b => a.1 < b.1) → members.Nodup := by
    intro members hmembers
    refine hmembers.imp ?_
    rintro a _ hlt rfl
    exact lt_irrefl _ hlt
  have hperm := (List.perm_ext_iff_of_nodup (hnodup h.ascending) (hnodup h'.ascending)).2 hmem
  refine hperm.eq_of_pairwise ?_ h.ascending h'.ascending
  intro a b _ _ hab hba
  exact absurd hab (lt_asymm hba)

/-! ## Numerals of a text -/

theorem WholeText.forall_digit {ds : List Char} (h : WholeText ds) :
    ∀ c ∈ ds, '0' ≤ c ∧ c ≤ '9' := by
  cases h with
  | zero => exact List.forall_mem_singleton.2 (by decide)
  | digits _ h => exact h.2

theorem FractionText.forall_digit {f : Option (List Char)} {text : List Char}
    (h : FractionText f text) : ∀ c ∈ f.getD [], '0' ≤ c ∧ c ≤ '9' := by
  cases h with
  | absent => exact List.forall_mem_nil _
  | digits h => exact h.2

/-- A rounded number is near the numeral that it was read from. -/
theorem NumeralText.isNear {n : Numeral} {text : List Char} (h : NumeralText n text) {x : Binary64}
    (hx : n.Denotes (.double x)) : n.IsNear x := by
  obtain ⟨hwhole, hfraction, -⟩ := h
  rw [← Numeral.value_eq_ok_iff] at hx
  exact Numeral.isNear_of_value hwhole.forall_digit hfraction.forall_digit hx

def Phrase.leaves : Phrase → List Leaf
  | value f => f.leaves
  | padded f => f.leaves
  | items fs => Form.leaves.ofItems fs
  | members ms => Form.leaves.ofMembers ms

theorem PhraseText.exists_numeralText {p : Phrase} {text : List Char} (h : PhraseText p text)
    {n : Numeral} (hn : .numeral n ∈ p.leaves) : ∃ numeral, NumeralText n numeral := by
  induction h with
  | nullWord => simp [Phrase.leaves, Form.leaves] at hn
  | trueWord => simp [Phrase.leaves, Form.leaves] at hn
  | falseWord => simp [Phrase.leaves, Form.leaves] at hn
  | @number _ text h =>
    simp only [Phrase.leaves, Form.leaves, List.mem_singleton, Leaf.numeral.injEq] at hn
    exact ⟨text, hn ▸ h⟩
  | string => simp [Phrase.leaves, Form.leaves] at hn
  | emptyArray => simp [Phrase.leaves, Form.leaves, Form.leaves.ofItems] at hn
  | array _ ih => exact ih (by simpa [Phrase.leaves, Form.leaves] using hn)
  | emptyObject => simp [Phrase.leaves, Form.leaves, Form.leaves.ofMembers] at hn
  | object _ ih => exact ih (by simpa [Phrase.leaves, Form.leaves] using hn)
  | padded _ _ _ ih => exact ih hn
  | lastItem _ ih => exact ih (by simpa [Phrase.leaves, Form.leaves.ofItems] using hn)
  | item _ _ ih ihs =>
    simp only [Phrase.leaves, Form.leaves.ofItems, List.mem_append] at hn
    exact hn.elim ih ihs
  | lastMember _ _ ih => exact ih (by simpa [Phrase.leaves, Form.leaves.ofMembers] using hn)
  | member _ _ _ ih ihs =>
    simp only [Phrase.leaves, Form.leaves.ofMembers, List.mem_append, List.mem_singleton,
      reduceCtorEq, false_or] at hn
    exact hn.elim ih ihs

end Grammar

/-! ## The two readers -/

namespace Reader

theorem outline_sound : outline.Sound where
  string h := by
    obtain ⟨tail, htail, heq⟩ := exists_of_map_ok h
    cases heq
    exact text_of_skipString htail
  number h := by
    obtain ⟨⟨n, tail⟩, htail, heq⟩ := exists_of_map_ok h
    cases heq
    obtain ⟨text, hn, htext⟩ := text_of_numeral htail
    exact ⟨n, text, hn, htext⟩

theorem number_of_ok {input rest : List Char} {n : Numeral} {v : Number}
    (h : numeral input = .ok (n, rest)) (hv : n.value = .ok v) :
    Lexeme.number input = .ok (v, rest) := by
  simp only [Lexeme.number, h, bind, Except.bind, hv]
  rfl

theorem number_of_error {input rest unread : List Char} {n : Numeral}
    (h : numeral input = .ok (n, rest)) (hv : n.value = .error unread) :
    Lexeme.number input = .error (Fault.here .numberOutOfRange (unread ++ rest)) := by
  simp only [Lexeme.number, h, bind, Except.bind, hv]
  rfl

theorem full_sound : full.Sound where
  string h := text_of_readString h
  number {input rest v} h := by
    obtain ⟨⟨value, tail⟩, htail, heq⟩ := exists_of_map_ok h
    cases heq
    cases hn : numeral input with
    | error e =>
      rw [Lexeme.number, hn] at htail
      cases htail
    | ok p =>
      obtain ⟨text, htext, hinput⟩ := text_of_numeral hn
      cases hv : p.1.value with
      | ok v =>
        rw [number_of_ok hn hv] at htail
        cases htail
        exact ⟨p.1, text, htext, hinput⟩
      | error unread =>
        rw [number_of_error hn hv] at htail
        cases htail

/-- The first pass makes the same of everything. -/
def outlineMeaning : Meaning Unit Unit where
  string _ := some ()
  number _ := some ()

theorem outline_realizes : outline.Realizes outlineMeaning where
  string {ps text} h rest := by
    have hskip : outline.string (text ++ '"' :: rest) = .ok ((), rest) := by
      simp [outline, skipString_of_text h, Except.map]
    rw [hskip]
    exact .goes rfl
  number {n text} h rest hrest := by
    have hnumeral : outline.number (text ++ rest) = .ok ((), rest) := by
      simp [outline, numeral_of_text h hrest, Except.map]
    rw [hnumeral]
    exact .goes rfl

/-- The second pass makes strings of their characters and numbers of the values of numerals. -/
def fullMeaning : Meaning String Document where
  string ps := (characters? ps).map String.ofList
  number n := n.value.toOption.map .number

theorem full_realizes : full.Realizes fullMeaning where
  string {ps text} h rest := by
    have hread : ReadsAs "" (characters? ps) rest (full.string (text ++ '"' :: rest)) :=
      readsAs_characters h "" rest
    obtain ⟨cs, hcs, heq⟩ | ⟨hnone, e, heq, hlone | hunfinished⟩ := hread
    · rw [heq, String.empty_append]
      exact .goes (by simp [fullMeaning, hcs])
    · rw [heq]
      refine .refused List.mem_cons_self ?_ (by simp [fullMeaning, hnone])
      rw [hlone]
      exact .lone hnone
    · rw [heq]
      refine .refused List.mem_cons_self ?_ (by simp [fullMeaning, hnone])
      rw [hunfinished]
      exact .unfinished hnone
  number {n text} h rest hrest := by
    have hn := numeral_of_text h hrest
    cases hv : n.value with
    | ok v =>
      have hnumber : full.number (text ++ rest) = .ok (.number v, rest) := by
        simp [full, number_of_ok hn hv, Except.map]
      rw [hnumber]
      exact .goes (by simp [fullMeaning, hv, Except.toOption])
    | error unread =>
      have hnumber : full.number (text ++ rest) =
          .error (Fault.here .numberOutOfRange (unread ++ rest)) := by
        simp [full, number_of_error hn hv, Except.map]
      rw [hnumber]
      refine .refused List.mem_cons_self (.tooLarge (Numeral.tooLarge_of_value_eq_error hv) ?_)
        (by simp [fullMeaning, hv, Except.toOption])
      intro v hdenotes
      rw [← Numeral.value_eq_ok_iff, hv] at hdenotes
      cases hdenotes

/-! ## What is made of a form -/

mutual

theorem make_outline : ∀ f : Form, outline.make outlineMeaning f = some ()
  | .null => by rw [make]
  | .bool b => by rw [make]
  | .number n => by rw [make]; rfl
  | .string ps => by rw [make]; rfl
  | .array fs => by
    rw [make]
    obtain ⟨vs, hvs⟩ := exists_items_outline fs
    rw [hvs]
    rfl
  | .object ms => by
    rw [make]
    obtain ⟨vs, hvs⟩ := exists_members_outline ms
    rw [hvs]
    rfl

theorem exists_items_outline :
    ∀ fs : List Form, ∃ vs, make.items outline outlineMeaning fs = some vs
  | [] => ⟨[], by rw [make.items]⟩
  | f :: fs => by
    obtain ⟨vs, hvs⟩ := exists_items_outline fs
    exact ⟨() :: vs, by rw [make.items, make_outline f, hvs]; rfl⟩

theorem exists_members_outline :
    ∀ ms : List (List Piece × Form), ∃ vs, make.members outline outlineMeaning ms = some vs
  | [] => ⟨[], by rw [make.members]⟩
  | (ps, f) :: ms => by
    obtain ⟨vs, hvs⟩ := exists_members_outline ms
    exact ⟨((), ()) :: vs, by rw [make.members, make_outline f, hvs]; rfl⟩

end

theorem fullMeaning_string_iff {ps : List Piece} {s : String} :
    fullMeaning.string ps = some s ↔ characters? ps = some s.toList := by
  simp only [fullMeaning, Option.map_eq_some_iff]
  constructor
  · rintro ⟨cs, hcs, rfl⟩
    rw [hcs, String.toList_ofList]
  · intro h
    exact ⟨s.toList, h, String.ofList_toList⟩

theorem fullMeaning_number_iff {n : Numeral} {d : Document} :
    fullMeaning.number n = some d ↔ ∃ v, n.Denotes v ∧ .number v = d := by
  simp only [fullMeaning, Option.map_eq_some_iff, ← Numeral.value_eq_ok_iff]
  cases n.value with
  | ok v => simp [Except.toOption]
  | error unread => simp [Except.toOption]

mutual

/-- The second pass makes of a form the document that it denotes. -/
theorem make_full_iff : ∀ (f : Form) (d : Document),
    full.make fullMeaning f = some d ↔ f.Denotes d
  | .null, d => by
    rw [make, Option.some_inj]
    exact ⟨fun h => h ▸ .null, fun h => by cases h; rfl⟩
  | .bool b, d => by
    rw [make, Option.some_inj]
    exact ⟨fun h => h ▸ .bool b, fun h => by cases h; rfl⟩
  | .number n, d => by
    rw [make, fullMeaning_number_iff]
    constructor
    · rintro ⟨v, hv, rfl⟩
      exact .number hv
    · rintro (_ | _ | ⟨hv⟩)
      exact ⟨_, hv, rfl⟩
  | .string ps, d => by
    rw [make, Option.map_eq_some_iff]
    constructor
    · rintro ⟨s, hs, rfl⟩
      have hdenotes := Form.Denotes.string (fullMeaning_string_iff.1 hs)
      rwa [String.ofList_toList] at hdenotes
    · intro h
      cases h with
      | string h => exact ⟨_, fullMeaning_string_iff.2 (by rwa [String.toList_ofList]), rfl⟩
  | .array fs, d => by
    rw [make, Option.map_eq_some_iff]
    constructor
    · rintro ⟨ds, hds, rfl⟩
      exact .array ((items_full_iff fs ds).1 hds)
    · intro h
      cases h with
      | array h => exact ⟨_, (items_full_iff fs _).2 h, rfl⟩
  | .object ms, d => by
    rw [make, Option.map_eq_some_iff]
    constructor
    · rintro ⟨written, hwritten, rfl⟩
      obtain ⟨hnames, hvalues⟩ := (members_full_iff ms written).1 hwritten
      exact .object hnames hvalues (lastWins_sortMembers written)
    · intro h
      cases h with
      | @object _ written kept hnames hvalues hkept =>
        refine ⟨written, (members_full_iff ms written).2 ⟨hnames, hvalues⟩, ?_⟩
        exact congrArg Document.object ((lastWins_sortMembers written).eq hkept)

theorem items_full_iff : ∀ (fs : List Form) (ds : List Document),
    make.items full fullMeaning fs = some ds ↔ List.Forall₂ Form.Denotes fs ds
  | [], ds => by
    rw [make.items, Option.some_inj, List.forall₂_nil_left_iff, eq_comm]
  | f :: fs, ds => by
    rw [make.items, List.forall₂_cons_left_iff]
    simp only [Option.bind_eq_some_iff, Option.map_eq_some_iff, make_full_iff f, items_full_iff fs]
    constructor
    · rintro ⟨d, hd, ds, hds, rfl⟩
      exact ⟨d, ds, hd, hds, rfl⟩
    · rintro ⟨d, ds, hd, hds, rfl⟩
      exact ⟨d, hd, ds, hds, rfl⟩

theorem members_full_iff : ∀ (ms : List (List Piece × Form)) (written : List (String × Document)),
    make.members full fullMeaning ms = some written ↔
      List.Forall₂ (fun m d => characters? m.1 = some d.1.toList) ms written ∧
        List.Forall₂ (fun m d => Form.Denotes m.2 d.2) ms written
  | [], written => by
    rw [make.members, Option.some_inj, List.forall₂_nil_left_iff, List.forall₂_nil_left_iff,
      and_self, eq_comm]
  | (ps, f) :: ms, written => by
    rw [make.members]
    simp only [Option.bind_eq_some_iff, Option.map_eq_some_iff, fullMeaning_string_iff,
      make_full_iff f, members_full_iff ms]
    constructor
    · rintro ⟨s, hs, d, hd, written, ⟨hnames, hvalues⟩, rfl⟩
      exact ⟨.cons hs hnames, .cons hd hvalues⟩
    · rintro ⟨hnames, hvalues⟩
      cases hnames with
      | @cons _ m _ written hs hnames =>
        obtain _ | ⟨hd, hvalues⟩ := hvalues
        exact ⟨m.1, hs, m.2, hd, written, ⟨hnames, hvalues⟩, rfl⟩

end

end Reader

/-! ## The passes agree -/

namespace Document

open Reader

theorem outline_read_iff {input : List Char} :
    outline.read input = .ok () ↔ ∃ f, DocumentText f input := by
  constructor
  · exact outline_sound.text_of_read
  · rintro ⟨f, hf⟩
    have hread := outline_realizes.outcome_read hf
    rw [make_outline] at hread
    generalize outline.read input = x at hread
    cases hread with
    | goes h => rfl
    | refused _ _ h => cases h

theorem full_read_iff {input : List Char} {f : Form} (hf : DocumentText f input) {d : Document} :
    full.read input = .ok d ↔ f.Denotes d := by
  rw [← make_full_iff]
  have hread := full_realizes.outcome_read hf
  generalize full.read input = x at hread
  cases hread with
  | goes h => rw [h, Option.some_inj, Except.ok.injEq]
  | refused _ _ h => simp [h]

theorem refused_of_full_read {input : List Char} {f : Form} (hf : DocumentText f input) {e : Fault}
    (h : full.read input = .error e) : ∃ leaf ∈ f.leaves, leaf.Refused e.cause := by
  have hread := full_realizes.outcome_read hf
  rw [h] at hread
  cases hread with
  | refused hleaf he _ => exact ⟨_, hleaf, he⟩

theorem isNear_of_mem_leaves {input : List Char} {f : Form} (hf : DocumentText f input)
    {n : Numeral} {x : Binary64} (hn : .numeral n ∈ f.leaves) (hx : n.Denotes (.double x)) :
    n.IsNear x := by
  obtain ⟨_, htext⟩ := PhraseText.exists_numeralText hf hn
  exact htext.isNear hx

theorem ofText_eq_ok_iff {text : String} {d : Document} : ofText text = .ok d ↔
    outline.read text.toList = .ok () ∧ full.read text.toList = .ok d := by
  cases houtline : outline.read text.toList with
  | error e => simp [ofText, houtline]
  | ok u =>
    cases hfull : full.read text.toList with
    | error e => simp [ofText, houtline, hfull, Except.mapError]
    | ok d => simp [ofText, houtline, hfull, Except.mapError]

/-- The first pass accepts just the texts of the grammar. What it does not accept, the second does
not accept either. Of a text of the grammar the second pass makes the document that the form of the
text denotes, in which rounded numbers are near their numerals; it fails only if there is none, and
then with a cause that says of some numeral or string why it stands for nothing. Hence a text has a
document just if the grammar gives it one. -/
theorem passes_agree (text : String) :
    (outline.read text.toList = .ok () ↔ ∃ f, DocumentText f text.toList) ∧
    ((∃ e, outline.read text.toList = .error e) → ∃ e, full.read text.toList = .error e) ∧
    (∀ f, DocumentText f text.toList →
      (∀ d, full.read text.toList = .ok d ↔ f.Denotes d) ∧
      (∀ n x, .numeral n ∈ f.leaves → n.Denotes (.double x) → n.IsNear x) ∧
      ∀ e, full.read text.toList = .error e → ∃ leaf ∈ f.leaves, leaf.Refused e.cause) ∧
    ∀ d, ofText text = .ok d ↔ ∃ f, DocumentText f text.toList ∧ f.Denotes d := by
  refine ⟨outline_read_iff, ?_, ?_, ?_⟩
  · rintro ⟨e, he⟩
    cases hfull : full.read text.toList with
    | error e => exact ⟨e, rfl⟩
    | ok d =>
      have houtline := outline_read_iff.2 (full_sound.text_of_read hfull)
      rw [he] at houtline
      cases houtline
  · intro f hf
    refine ⟨fun d => full_read_iff hf, fun n x => isNear_of_mem_leaves hf, ?_⟩
    exact fun e => refused_of_full_read hf
  · intro d
    rw [ofText_eq_ok_iff, outline_read_iff]
    constructor
    · rintro ⟨⟨f, hf⟩, hd⟩
      exact ⟨f, hf, (full_read_iff hf).1 hd⟩
    · rintro ⟨f, hf, hd⟩
      exact ⟨⟨f, hf⟩, (full_read_iff hf).2 hd⟩

/-- Of two members with one name the second is kept. -/
theorem passes_agree_of_repeated_name :
    ofText "\x7b\"a\":1,\"a\": []\x7d" = .ok (.object [("a", .array [])]) := by
  have hnil : Blanks [] := List.forall_mem_nil _
  have hspace : Blanks [' '] := List.forall_mem_singleton.2 List.mem_cons_self
  have hdigit : Digits ['1'] := ⟨by decide, List.forall_mem_singleton.2 (by decide)⟩
  have hname : NameText [.char 'a'] ['"', 'a', '"'] :=
    .quoted hnil (.cons (.plain (by decide) (by decide) (by decide)) .nil) hnil
  have hone : PhraseText (.padded (.number ⟨false, ['1'], none, none⟩)) ['1'] :=
    .padded hnil (.number (.parts (.digits (by decide) hdigit) .absent .absent)) hnil
  have hempty : PhraseText (.padded (.array [])) [' ', '[', ']'] :=
    .padded hspace (.emptyArray hnil) hnil
  have hint : (⟨false, ['1'], none, none⟩ : Numeral).Denotes (.int 1) :=
    .int ⟨rfl, rfl, ⟨by decide, by decide⟩, by decide⟩
  have hkept : LastWins [("a", .number (.int 1)), ("a", .array [])] [("a", .array [])] := by
    refine ⟨List.pairwise_singleton _ _, fun name => ?_⟩
    cases hname : name == "a" <;> simp [member?, List.lookup_cons, hname]
  refine ((passes_agree _).2.2.2 _).2 ⟨_,
    .padded hnil (.object (.member hname hone (.lastMember hname hempty))) hnil, ?_⟩
  exact .object (.cons rfl (.cons rfl .nil)) (.cons (.number hint) (.cons (.array .nil) .nil)) hkept

end Document

end Treewalk
