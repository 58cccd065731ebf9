import Treewalk.Proofs.Document.RoundTrip
import Treewalk.Proofs.Schema.Acceptance
import Treewalk.Schema.Encode

/-!
# Programs are decoded from what they are encoded as

The text of a program, in either layout, decodes to that program under every limit that its
expression keeps to, and every text that is accepted under a limit yields a program of which this
holds (`decode_print_encodeProgram`). Encoding puts members in the order of the fields and reading
sorts them by name, so it is the sorted document of a term that is shown to represent it
(`represents_sorted_encodeTerm`); what decoding does with it is known from the grammar.

Offsets of locations are read as numbers of 64 bits. `Term.InRange` asks this of all locations in a
term, those of its parameters included, and every decoded term has it.
-/

namespace Treewalk

namespace Term

/-- The locations of a term and of the parameters that it binds, without those of its parts. -/
def locations : Term → List Location
  | function parameters _ l => l :: parameters.map Parameter.location
  | letIn name _ _ l => [l, name.location]
  | t => [t.location]

theorem location_mem_locations (t : Term) : t.location ∈ t.locations := by
  cases t <;> exact List.mem_cons_self

/-- All locations in the term are in range. -/
def InRange (t : Term) : Prop := ∀ u : Term, u.OccursIn t → ∀ l ∈ u.locations, l.InRange

theorem inRange_iff {t : Term} :
    t.InRange ↔ (∀ l ∈ t.locations, l.InRange) ∧ ∀ u ∈ t.parts, u.InRange := by
  constructor
  · intro h
    exact ⟨h t .self, fun u hu v hv => h v (.part hu hv)⟩
  · rintro ⟨hown, hparts⟩ u hu
    cases hu with
    | self => exact hown
    | part hw hu => exact hparts _ hw u hu

end Term

def Program.InRange (p : Program) : Prop := p.expression.InRange ∧ p.location.InRange

namespace Schema

open Document (member? Exact Layout)

/-! ## Locations and parameters -/

theorem exact_encodeNat {n : Nat} (hn : n < UInt64.size) : (encodeNat n).Exact :=
  .number (Lexeme.inBounds_natCast hn)

theorem exact_encodeLocation {l : Location} (hl : l.InRange) : (encodeLocation l).Exact := by
  refine .object ?_
  simp only [List.forall_mem_cons]
  exact ⟨exact_encodeNat hl.1, exact_encodeNat hl.2, .text _, List.forall_mem_nil _⟩

theorem exact_encodeParameter {p : Parameter} (hp : p.location.InRange) :
    (encodeParameter p).Exact := by
  refine .object ?_
  simp only [List.forall_mem_cons]
  exact ⟨.text _, exact_encodeLocation hp, List.forall_mem_nil _⟩

theorem denotesLocation_sorted {l : Location} (hl : l.InRange) :
    DenotesLocation (encodeLocation l).sorted l := by
  obtain ⟨members, h, hm⟩ := Document.sorted_object_members
    [("start", encodeNat l.start), ("end", encodeNat l.stop), ("filename", .text l.filename)]
    (by simp)
  simp only [List.forall_mem_cons] at hm
  obtain ⟨hstart, hstop, hfilename, -⟩ := hm
  rw [encodeLocation, h]
  exact .object hstart hstop hfilename hl

theorem denotesParameter_sorted {p : Parameter} (hp : p.location.InRange) :
    DenotesParameter (encodeParameter p).sorted p := by
  obtain ⟨members, h, hm⟩ := Document.sorted_object_members
    [("text", .text p.name), ("location", encodeLocation p.location)] (by simp)
  simp only [List.forall_mem_cons] at hm
  obtain ⟨hname, hlocation, -⟩ := hm
  rw [encodeParameter, h]
  exact .object hname hlocation (denotesLocation_sorted hp)

theorem DenotesLocation.inRange {d : Document} {l : Location} (h : DenotesLocation d l) :
    l.InRange := by
  cases h with
  | object _ _ _ hlt => exact hlt
  | array hlt => exact hlt

theorem DenotesParameter.inRange {d : Document} {p : Parameter} (h : DenotesParameter d p) :
    p.location.InRange := by
  cases h with
  | object _ _ hd => exact hd.inRange
  | array hd => exact hd.inRange

/-! ## Terms -/

theorem eval_encodeAll (terms : List Term) (front : List Document) :
    (encodeAll terms front).eval encoding.answer = front.reverse ++ terms.map encodeTerm := by
  induction terms generalizing front with
  | nil => simp [encodeAll]
  | cons t rest ih =>
    simp only [encodeAll, Walk.bind_eq_bind, Walk.eval_bind, Walk.eval_ask, ih]
    simp [encodeTerm]

/-- The fields of a term between kind and location, with the documents of its parts. -/
def encodedParts (t : Term) : Members := (encodeParts t).eval encoding.answer

theorem encodeTerm_eq (t : Term) : encodeTerm t = encodeFields t (encodedParts t) :=
  (encoding.answer_eq t).trans (Walk.eval_bind _ _ _)

/-- The names in the document of a term differ. -/
theorem nodup_names (t : Term) :
    ("kind" :: ((encodedParts t).map Prod.fst ++ ["location"])).Nodup := by
  cases t <;> simp [encodedParts, encodeParts]

/-- A level of the document of a term is in the grammar if the fields of the term are. -/
theorem represents_sorted_of_fields {t : Term} (hl : t.location.InRange)
    (hfields : ∀ members, (∀ m ∈ encodedParts t, member? m.1 members = some m.2.sorted) →
      Fields Represents t members) : Represents (encodeTerm t).sorted t := by
  obtain ⟨members, h, hm⟩ := Document.sorted_object_members
    (("kind", .text t.kind.tag) :: (encodedParts t ++ [("location", encodeLocation t.location)]))
    (by simpa using nodup_names t)
  simp only [List.forall_mem_cons, List.forall_mem_append] at hm
  obtain ⟨hkind, hparts, hlocation, -⟩ := hm
  rw [encodeTerm_eq, encodeFields, h]
  exact .object hkind (hfields members hparts) hlocation (denotesLocation_sorted hl)

/-- The document of a term, as it is read back from a text, represents the term. -/
theorem represents_sorted_encodeTerm {t : Term} (ht : t.InRange) :
    Represents (encodeTerm t).sorted t := by
  induction t using Term.parts_induction with
  | h t ih =>
    obtain ⟨hown, hparts⟩ := Term.inRange_iff.1 ht
    refine represents_sorted_of_fields (hown _ t.location_mem_locations) fun members hm => ?_
    -- `hm` finds every field in the sorted object, and `part` covers those that are terms
    have part : ∀ u ∈ t.parts, Represents (encodeTerm u).sorted u :=
      fun u hu => ih u hu (hparts u hu)
    cases t <;>
      simp only [encodedParts, encodeParts, Walk.pure_eq_done, Walk.bind_eq_bind, Walk.eval_bind,
        Walk.eval_ask, Walk.eval_done, eval_encodeAll, List.forall_mem_cons] at hm <;>
      simp only [Term.parts, Term.locations, List.forall_mem_cons] at part hown
    case int => exact .int hm.1
    case str => exact .str hm.1
    case bool => exact .bool hm.1
    case var => exact .var hm.1
    case function parameters body l =>
      obtain ⟨hparameters, hvalue, -⟩ := hm
      rw [Document.sorted_array, List.map_map] at hparameters
      refine .function hparameters ?_ hvalue part.1
      rw [List.forall₂_map_left_iff, List.forall₂_same]
      exact fun p hp => denotesParameter_sorted (hown.2 _ (List.mem_map_of_mem hp))
    case call callee arguments l =>
      obtain ⟨hcallee, harguments, -⟩ := hm
      rw [Document.sorted_array, List.reverse_nil, List.nil_append, List.map_map] at harguments
      refine .call hcallee part.1 harguments ?_
      rw [List.forall₂_map_left_iff, List.forall₂_same]
      exact part.2
    case letIn name value next l =>
      obtain ⟨hname, hvalue, hnext, -⟩ := hm
      obtain ⟨hd, hd', -⟩ := part
      exact .letIn hname (denotesParameter_sorted hown.2.1) hvalue hd hnext hd'
    case cond condition yes no l =>
      obtain ⟨hcondition, hyes, hno, -⟩ := hm
      obtain ⟨hd, hd₁, hd₂, -⟩ := part
      exact .cond hcondition hd hyes hd₁ hno hd₂
    case binary lhs op rhs l =>
      obtain ⟨hlhs, hop, hrhs, -⟩ := hm
      exact .binary hop hlhs part.1 hrhs part.2.1
    case tuple a b l =>
      obtain ⟨hfirst, hsecond, -⟩ := hm
      exact .tuple hfirst part.1 hsecond part.2.1
    case print => exact .print hm.1 part.1
    case first => exact .first hm.1 part.1
    case second => exact .second hm.1 part.1

theorem exact_encodeTerm {t : Term} (ht : t.InRange) : (encodeTerm t).Exact := by
  induction t using Term.parts_induction with
  | h t ih =>
    obtain ⟨hown, hparts⟩ := Term.inRange_iff.1 ht
    have part : ∀ u ∈ t.parts, (encodeTerm u).Exact := fun u hu => ih u hu (hparts u hu)
    have hlocation := exact_encodeLocation (hown _ t.location_mem_locations)
    have hfields : ∀ m ∈ encodedParts t, m.2.Exact := by
      cases t <;>
        simp only [encodedParts, encodeParts, Walk.pure_eq_done, Walk.bind_eq_bind, Walk.eval_bind,
          Walk.eval_ask, Walk.eval_done, eval_encodeAll, List.forall_mem_cons] <;>
        simp only [Term.parts, Term.locations, List.forall_mem_cons] at part hown
      case int n l =>
        exact ⟨.number (Lexeme.inBounds_int32 n), List.forall_mem_nil _⟩
      case str => exact ⟨.text _, List.forall_mem_nil _⟩
      case bool => exact ⟨.bool _, List.forall_mem_nil _⟩
      case var => exact ⟨.text _, List.forall_mem_nil _⟩
      case function parameters body l =>
        refine ⟨.array ?_, part.1, List.forall_mem_nil _⟩
        rw [List.forall_mem_map]
        exact fun p hp => exact_encodeParameter (hown.2 _ (List.mem_map_of_mem hp))
      case call callee arguments l =>
        refine ⟨part.1, .array ?_, List.forall_mem_nil _⟩
        rw [List.reverse_nil, List.nil_append, List.forall_mem_map]
        exact part.2
      case letIn =>
        obtain ⟨hvalue, hnext, -⟩ := part
        exact ⟨exact_encodeParameter hown.2.1, hvalue, hnext, List.forall_mem_nil _⟩
      case cond =>
        obtain ⟨hcondition, hyes, hno, -⟩ := part
        exact ⟨hcondition, hyes, hno, List.forall_mem_nil _⟩
      case binary => exact ⟨part.1, .text _, part.2.1, List.forall_mem_nil _⟩
      case tuple => exact ⟨part.1, part.2.1, List.forall_mem_nil _⟩
      case print => exact ⟨part.1, List.forall_mem_nil _⟩
      case first => exact ⟨part.1, List.forall_mem_nil _⟩
      case second => exact ⟨part.1, List.forall_mem_nil _⟩
    rw [encodeTerm_eq, encodeFields]
    refine .object ?_
    simp only [List.forall_mem_cons, List.forall_mem_append]
    exact ⟨.text _, hfields, hlocation, List.forall_mem_nil _⟩

/-! ## What is decoded is in range -/

/-- The locations of parameters are in range where the fields are in the grammar. -/
theorem Fields.inRange_locations {R : Document → Term → Prop} {t : Term} {members : Members}
    (h : Fields R t members) (hl : t.location.InRange) : ∀ l ∈ t.locations, l.InRange := by
  cases h with
  | function _ hitems =>
    refine List.forall_mem_cons.2 ⟨hl, List.forall_mem_map.2 fun p hp => ?_⟩
    obtain ⟨i, hi, rfl⟩ := List.getElem_of_mem hp
    have hlen := hitems.length_eq
    exact ((List.forall₂_iff_get.1 hitems).2 i (by omega) hi).inRange
  | letIn _ hd =>
    exact List.forall_mem_cons.2 ⟨hl, List.forall_mem_singleton.2 hd.inRange⟩
  | int | str | bool | var | call | cond | binary | tuple | print | first | second =>
    exact List.forall_mem_singleton.2 hl

theorem Represents.inRange {d : Document} {t : Term} (h : Represents d t) : t.InRange := by
  induction hn : sizeOf d using Nat.strongRecOn generalizing d t with
  | _ n ih =>
    subst hn
    cases h with
    | object _ hfields _ hd =>
      have hparts := hfields.imp fun d u hlt _ hu => ih _ hlt hu rfl
      exact Term.inRange_iff.2 ⟨hfields.inRange_locations hd.inRange, hparts.forall_mem_parts⟩

/-! ## Programs -/

/-- A program document has a name, an expression within the limit, and perhaps a location. -/
theorem decodeProgram_object {limit : Nat} {members : Members} {p : Program} :
    decodeProgram limit (.object members) = .ok p ↔
      member? "name" members = some (.text p.name) ∧
      (∃ d, member? "expression" members = some d ∧ Decodes limit 0 d p.expression) ∧
      (member? "location" members = none ∧ p.location = ⟨0, 0, p.name⟩ ∨
        ∃ d, member? "location" members = some d ∧ DenotesLocation d p.location) := by
  constructor
  · intro h
    obtain ⟨name, hname, h₁⟩ := bind_eq_ok.1 h
    obtain ⟨d, hd, h₂⟩ := bind_eq_ok.1 h₁
    obtain ⟨expression, hexpression, h₃⟩ := bind_eq_ok.1 h₂
    obtain ⟨_, hname, hread⟩ := readField_eq_ok.1 hname
    obtain rfl := readText_eq_ok.1 hread
    rw [field_eq_ok] at hd
    cases hl : member? "location" members with
    | none =>
      simp only [hl] at h₃
      cases h₃
      exact ⟨hname, ⟨d, hd, hexpression⟩, .inl ⟨rfl, rfl⟩⟩
    | some l =>
      simp only [hl] at h₃
      obtain ⟨location, hlocation, h₄⟩ := bind_eq_ok.1 h₃
      cases h₄
      obtain ⟨_, hl', hread⟩ := readField_eq_ok.1 hlocation
      rw [hl] at hl'
      cases hl'
      exact ⟨hname, ⟨d, hd, hexpression⟩, .inr ⟨l, rfl, readLocation_eq_ok.1 hread⟩⟩
  · rintro ⟨hname, ⟨d, hd, hexpression⟩, hlocation⟩
    refine bind_eq_ok.2 ⟨p.name, readField_eq_ok.2 ⟨_, hname, readText_eq_ok.2 rfl⟩, ?_⟩
    refine bind_eq_ok.2 ⟨d, field_eq_ok.2 hd, bind_eq_ok.2 ⟨p.expression, hexpression, ?_⟩⟩
    rcases hlocation with ⟨hl, hstart⟩ | ⟨l, hl, hdenotes⟩
    · simp only [hl, ← hstart]
      rfl
    · simp only [hl]
      exact bind_eq_ok.2 ⟨_, readField_eq_ok.2 ⟨l, hl, readLocation_eq_ok.2 hdenotes⟩, rfl⟩

theorem decodeProgram_inRange {limit : Nat} {d : Document} {p : Program}
    (h : decodeProgram limit d = .ok p) : p.InRange ∧ p.expression.height ≤ limit := by
  cases d with
  | object members =>
    obtain ⟨-, ⟨d, -, hd⟩, hlocation⟩ := decodeProgram_object.1 h
    obtain ⟨hrepresents, hheight⟩ := decodes_iff_represents.1 hd
    refine ⟨⟨hrepresents.inRange, ?_⟩, by omega⟩
    rcases hlocation with ⟨-, hl⟩ | ⟨l, -, hl⟩
    · rw [hl]
      exact ⟨Nat.zero_lt_succ _, Nat.zero_lt_succ _⟩
    · exact hl.inRange
  | null | bool | number | text | array => cases h

theorem exact_encodeProgram {p : Program} (hp : p.InRange) : (encodeProgram p).Exact := by
  refine .object ?_
  simp only [List.forall_mem_cons]
  exact ⟨.text _, exact_encodeTerm hp.1, exact_encodeLocation hp.2, List.forall_mem_nil _⟩

theorem decodeProgram_sorted {limit : Nat} {p : Program} (hp : p.InRange)
    (hheight : p.expression.height ≤ limit) :
    decodeProgram limit (encodeProgram p).sorted = .ok p := by
  obtain ⟨members, h, hm⟩ := Document.sorted_object_members
    [("name", .text p.name), ("expression", encodeTerm p.expression),
      ("location", encodeLocation p.location)] (by simp)
  simp only [List.forall_mem_cons] at hm
  obtain ⟨hname, hexpression, hlocation, -⟩ := hm
  have hdecodes : Decodes limit 0 (encodeTerm p.expression).sorted p.expression :=
    decodes_iff_represents.2 ⟨represents_sorted_encodeTerm hp.1, by omega⟩
  rw [encodeProgram, h, decodeProgram_object]
  exact ⟨hname, ⟨_, hexpression, hdecodes⟩, .inr ⟨_, hlocation, denotesLocation_sorted hp.2⟩⟩

/-- The text of a program in range is decoded as the program, under a limit that it keeps to. -/
theorem decode_print {limit : Nat} {p : Program} (hp : p.InRange)
    (hheight : p.expression.height ≤ limit) (layout : Layout) :
    decode limit ((encodeProgram p).print layout) = .ok p := by
  rw [decode, Document.ofText_print (exact_encodeProgram hp) layout]
  exact decodeProgram_sorted hp hheight

/-- Decoding undoes encoding, in both layouts and under every limit that the program keeps to. So
the program of a text that is accepted can be written and decoded again under the same limit, which
gives the same program and the same text. -/
theorem decode_print_encodeProgram (limit : Nat) :
    (∀ p : Program, p.InRange → p.expression.height ≤ limit → ∀ layout : Layout,
      decode limit ((encodeProgram p).print layout) = .ok p) ∧
    (∀ (text : String) (p : Program), decode limit text = .ok p → ∀ layout : Layout,
      ∃ q, decode limit ((encodeProgram p).print layout) = .ok q ∧ q = p ∧
        (encodeProgram q).print layout = (encodeProgram p).print layout) := by
  refine ⟨fun p hp hheight layout => decode_print hp hheight layout, fun text p h layout => ?_⟩
  have hrange : p.InRange ∧ p.expression.height ≤ limit := by
    unfold decode at h
    split at h
    · exact decodeProgram_inRange h
    · cases h
  exact ⟨p, decode_print hrange.1 hrange.2 layout, rfl, rfl⟩

/-- A program with texts that have to be escaped, and numbers at the ends of their ranges. -/
def edges : Program where
  name := "\x00\n.é"
  expression :=
    .letIn ⟨"\"\\", ⟨18446744073709551615, 0, "\u2028"⟩⟩
      (.int (-2147483648) ⟨0, 18446744073709551615, ""⟩)
      (.call (.var "\"\\" ⟨1, 1, "/"⟩) [.str "\x1f😀" ⟨2, 2, "\t"⟩] ⟨3, 3, "\x7f"⟩) ⟨4, 4, ""⟩
  location := ⟨18446744073709551615, 18446744073709551615, "\x08"⟩

theorem decode_print_edges :
    edges.InRange ∧ decode 3 ((encodeProgram edges).print .compact) = .ok edges ∧
      decode 3 ((encodeProgram edges).print .indented) = .ok edges := by
  have hrange : edges.InRange := by
    refine ⟨Term.inRange_iff.2 ⟨by decide, ?_⟩, by decide⟩
    refine List.forall_mem_cons.2 ⟨?_, List.forall_mem_singleton.2 ?_⟩
    · exact Term.inRange_iff.2 ⟨by decide, List.forall_mem_nil _⟩
    · refine Term.inRange_iff.2 ⟨by decide, List.forall_mem_cons.2 ⟨?_, ?_⟩⟩
      · exact Term.inRange_iff.2 ⟨by decide, List.forall_mem_nil _⟩
      · refine List.forall_mem_singleton.2 ?_
        exact Term.inRange_iff.2 ⟨by decide, List.forall_mem_nil _⟩
  have hheight : edges.expression.height ≤ 3 := by decide
  exact ⟨hrange, (decode_print_encodeProgram 3).1 _ hrange hheight _,
    (decode_print_encodeProgram 3).1 _ hrange hheight _⟩

end Schema

end Treewalk
