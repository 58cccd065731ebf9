import Treewalk.Proofs.Schema.Grammar

/-!
# The decoder accepts exactly its grammar

For every document, limit and term: decoding gives the term if and only if the document represents
it and it nests at most as deep as the limit allows (`decodeTerm_eq_ok_iff`). Each reader of a field
has an equivalence of its own, and `decodes_iff` puts them together into one level of the grammar.
The induction over levels is on the size of the document.
-/

namespace Treewalk.Schema

open Document (member?)

/-! ## Fields that are not terms -/

theorem bind_eq_ok {ε α β : Type} {x : Except ε α} {f : α → Except ε β} {b : β} :
    x >>= f = .ok b ↔ ∃ a, x = .ok a ∧ f a = .ok b := by
  constructor
  · intro h
    cases x with
    | ok a => exact ⟨a, rfl, h⟩
    | error e => cases h
  · rintro ⟨a, rfl, h⟩
    exact h

theorem readInt32_eq_ok {d : Document} {n : Int32} :
    readInt32 d = .ok n ↔ d = .number (.int n.toInt) := by
  constructor
  · intro h
    unfold readInt32 at h
    split at h
    · next m =>
      split at h
      · next hm =>
        cases h
        rw [Int32.toInt_ofInt_of_le hm.1 hm.2]
      · cases h
    · cases h
  · rintro rfl
    have h₁ : -2147483648 ≤ n.toInt := n.le_toInt
    have h₂ : n.toInt < 2147483648 := n.toInt_lt
    simp [readInt32, h₁, h₂]

theorem readNat64_eq_ok {d : Document} {n : Nat} :
    readNat64 d = .ok n ↔ d = .number (.int n) ∧ n < UInt64.size := by
  have hsize : UInt64.size = 18446744073709551616 := rfl
  constructor
  · intro h
    unfold readNat64 at h
    split at h
    · next m =>
      split at h
      · next hm =>
        cases h
        rw [Int.toNat_of_nonneg hm.1]
        refine ⟨rfl, ?_⟩
        omega
      · cases h
    · cases h
  · rintro ⟨rfl, hn⟩
    have hlt : (n : Int) < 18446744073709551616 := by omega
    simp [readNat64, hlt]

theorem readBool_eq_ok {d : Document} {b : Bool} : readBool d = .ok b ↔ d = .bool b := by
  cases d <;> simp [readBool, wrongType]

theorem readString_eq_ok {d : Document} {s : String} : readString d = .ok s ↔ d = .text s := by
  cases d <;> simp [readString, wrongType]

theorem readText_eq_ok {d : Document} {s : String} : readText d = .ok s ↔ d = .text s := by
  cases d <;> simp [readText]

theorem require_eq_ok {α : Type} {name : String} {o : Option α} {a : α} :
    require name o = .ok a ↔ o = some a := by
  cases o <;> simp [require]

theorem readMember?_eq_ok_some {α : Type} {read : Document → Except Reason α} {name : String}
    {members : Members} {a : α} :
    readMember? read name members = .ok (some a) ↔
      ∃ d, member? name members = some d ∧ read d = .ok a := by
  unfold readMember?
  cases h : member? name members with
  | none => simp
  | some d => cases hd : read d <;> simp [Except.map, hd]

theorem readLocation_object {members : Members} {l : Location} :
    readLocation (.object members) = .ok l ↔ DenotesLocation (.object members) l := by
  constructor
  · intro h
    obtain ⟨stop, hstop, h₁⟩ := bind_eq_ok.1 h
    obtain ⟨filename, hfilename, h₂⟩ := bind_eq_ok.1 h₁
    obtain ⟨start, hstart, h₃⟩ := bind_eq_ok.1 h₂
    simp only [bind_eq_ok, require_eq_ok] at h₃
    obtain ⟨_, rfl, _, rfl, _, rfl, h₄⟩ := h₃
    cases h₄
    obtain ⟨_, hstop, hread⟩ := readMember?_eq_ok_some.1 hstop
    obtain ⟨rfl, hlt⟩ := readNat64_eq_ok.1 hread
    obtain ⟨_, hfilename, hread⟩ := readMember?_eq_ok_some.1 hfilename
    obtain rfl := readString_eq_ok.1 hread
    obtain ⟨_, hstart, hread⟩ := readMember?_eq_ok_some.1 hstart
    obtain ⟨rfl, hlt'⟩ := readNat64_eq_ok.1 hread
    exact .object hstart hstop hfilename ⟨hlt', hlt⟩
  · intro h
    cases h with
    | object hstart hstop hfilename hlt =>
      have h₁ := readMember?_eq_ok_some.2 ⟨_, hstart, readNat64_eq_ok.2 ⟨rfl, hlt.1⟩⟩
      have h₂ := readMember?_eq_ok_some.2 ⟨_, hstop, readNat64_eq_ok.2 ⟨rfl, hlt.2⟩⟩
      have h₃ := readMember?_eq_ok_some.2 ⟨_, hfilename, readString_eq_ok.2 rfl⟩
      rw [readLocation, h₁, h₂, h₃]
      rfl

theorem readLocation_array {items : List Document} {l : Location} :
    readLocation (.array items) = .ok l ↔ DenotesLocation (.array items) l := by
  constructor
  · intro h
    rcases items with _ | ⟨start, rest⟩
    · cases h
    obtain ⟨start', hstart, h₁⟩ := bind_eq_ok.1 h
    rcases rest with _ | ⟨stop, rest⟩
    · cases h₁
    obtain ⟨stop', hstop, h₂⟩ := bind_eq_ok.1 h₁
    rcases rest with _ | ⟨filename, rest⟩
    · cases h₂
    obtain ⟨filename', hfilename, h₃⟩ := bind_eq_ok.1 h₂
    rcases rest with _ | ⟨_, _⟩
    · cases h₃
      obtain ⟨rfl, hlt⟩ := readNat64_eq_ok.1 hstart
      obtain ⟨rfl, hlt'⟩ := readNat64_eq_ok.1 hstop
      obtain rfl := readString_eq_ok.1 hfilename
      exact .array (l := ⟨start', stop', filename'⟩) ⟨hlt, hlt'⟩
    · cases h₃
  · intro h
    cases h with
    | array hlt =>
      refine bind_eq_ok.2 ⟨_, readNat64_eq_ok.2 ⟨rfl, hlt.1⟩, ?_⟩
      refine bind_eq_ok.2 ⟨_, readNat64_eq_ok.2 ⟨rfl, hlt.2⟩, ?_⟩
      exact bind_eq_ok.2 ⟨_, readString_eq_ok.2 rfl, rfl⟩

theorem readLocation_eq_ok {d : Document} {l : Location} :
    readLocation d = .ok l ↔ DenotesLocation d l := by
  cases d with
  | object members => exact readLocation_object
  | array items => exact readLocation_array
  | null | bool | number | text => exact ⟨fun h => (by cases h), fun h => (by cases h)⟩

theorem readParameter_eq_ok {d : Document} {p : Parameter} :
    readParameter d = .ok p ↔ DenotesParameter d p := by
  constructor
  · intro h
    cases d with
    | object members =>
      obtain ⟨location, hlocation, h₁⟩ := bind_eq_ok.1 h
      obtain ⟨name, hname, h₂⟩ := bind_eq_ok.1 h₁
      simp only [bind_eq_ok, require_eq_ok] at h₂
      obtain ⟨_, rfl, _, rfl, h₃⟩ := h₂
      cases h₃
      obtain ⟨_, hlocation, hread⟩ := readMember?_eq_ok_some.1 hlocation
      obtain ⟨_, hname, hread'⟩ := readMember?_eq_ok_some.1 hname
      obtain rfl := readString_eq_ok.1 hread'
      exact .object hname hlocation (readLocation_eq_ok.1 hread)
    | array items =>
      rcases items with _ | ⟨name, rest⟩
      · cases h
      obtain ⟨name', hname, h₁⟩ := bind_eq_ok.1 h
      rcases rest with _ | ⟨location, rest⟩
      · cases h₁
      obtain ⟨location', hlocation, h₂⟩ := bind_eq_ok.1 h₁
      rcases rest with _ | ⟨_, _⟩
      · cases h₂
        obtain rfl := readString_eq_ok.1 hname
        exact .array (p := ⟨name', location'⟩) (readLocation_eq_ok.1 hlocation)
      · cases h₂
    | null | bool | number | text => cases h
  · intro h
    cases h with
    | object hname hlocation hd =>
      have h₁ := readMember?_eq_ok_some.2 ⟨_, hname, readString_eq_ok.2 rfl⟩
      have h₂ := readMember?_eq_ok_some.2 ⟨_, hlocation, readLocation_eq_ok.2 hd⟩
      rw [readParameter, h₁, h₂]
      rfl
    | array hd =>
      refine bind_eq_ok.2 ⟨_, readString_eq_ok.2 rfl, ?_⟩
      exact bind_eq_ok.2 ⟨_, readLocation_eq_ok.2 hd, rfl⟩

theorem mapM_eq_ok {ε α β : Type} {f : α → Except ε β} {xs : List α} {ys : List β} :
    xs.mapM f = .ok ys ↔ List.Forall₂ (fun x y => f x = .ok y) xs ys := by
  induction xs generalizing ys with
  | nil =>
    rw [List.forall₂_nil_left_iff]
    exact ⟨fun h => by cases h; rfl, fun h => by rw [h]; rfl⟩
  | cons x xs ih =>
    simp only [List.mapM_cons, bind_eq_ok, ih, List.forall₂_cons_left_iff]
    constructor
    · rintro ⟨y, hy, ys, hys, h⟩
      cases h
      exact ⟨y, ys, hy, hys, rfl⟩
    · rintro ⟨y, ys, hy, hys, rfl⟩
      exact ⟨y, hy, ys, hys, rfl⟩

theorem readParameters_eq_ok {d : Document} {ps : List Parameter} :
    readParameters d = .ok ps ↔
      ∃ items, d = .array items ∧ List.Forall₂ DenotesParameter items ps := by
  cases d with
  | array items =>
    simp only [readParameters, mapM_eq_ok, readParameter_eq_ok]
    simp
  | null | bool | number | text | object => simp [readParameters, wrongType]

theorem field_eq_ok {members : Members} {owner : Owner} {name : String} {d : Document} :
    field members owner name = .ok d ↔ member? name members = some d := by
  unfold field
  cases member? name members <;> simp

theorem readField_eq_ok {α : Type} {read : Document → Except Reason α} {members : Members}
    {owner : Owner} {name : String} {a : α} :
    readField read members owner name = .ok a ↔
      ∃ d, member? name members = some d ∧ read d = .ok a := by
  simp only [readField, bind_eq_ok, field_eq_ok]
  refine exists_congr fun d => and_congr_right fun _ => ?_
  cases read d <;> simp

theorem readKind_eq_ok {members : Members} {kind : Term.Kind} :
    readKind members = .ok kind ↔ member? "kind" members = some (.text kind.tag) := by
  constructor
  · intro h
    obtain ⟨tag, htag, h₁⟩ := bind_eq_ok.1 h
    obtain ⟨d, hd, hread⟩ := readField_eq_ok.1 htag
    obtain rfl := readText_eq_ok.1 hread
    cases hkind : Term.Kind.ofTag? tag with
    | none => rw [hkind] at h₁; cases h₁
    | some k =>
      rw [hkind] at h₁
      cases h₁
      rw [hd, Term.Kind.ofTag?_eq_some_iff.1 hkind]
  · intro h
    refine bind_eq_ok.2 ⟨kind.tag, readField_eq_ok.2 ⟨_, h, rfl⟩, ?_⟩
    rw [Term.Kind.ofTag?_tag]

theorem readOperator_eq_ok {members : Members} {op : Operator} :
    readOperator members = .ok op ↔ member? "op" members = some (.text op.tag) := by
  constructor
  · intro h
    obtain ⟨d, hd, h₁⟩ := bind_eq_ok.1 h
    rw [field_eq_ok] at hd
    cases d with
    | text tag =>
      cases hop : Operator.ofTag? tag with
      | none => simp only [hop] at h₁; cases h₁
      | some op' =>
        simp only [hop] at h₁
        cases h₁
        rw [hd, Operator.ofTag?_eq_some_iff.1 hop]
    | null | bool | number | array | object => cases h₁
  · intro h
    refine bind_eq_ok.2 ⟨_, field_eq_ok.2 h, ?_⟩
    simp only [Operator.ofTag?_tag]

/-! ## Steps of the decoder -/

section Result

variable {α β : Type} {limit depth : Nat} {members : Members}

/-- What a step of the decoder comes to. -/
def result (limit : Nat) (m : DecodeM α) : Except DecodeError α :=
  m.run.eval (decoding limit).answer

/-- The document is decoded to the term, inside `depth` others. -/
def Decodes (limit depth : Nat) (d : Document) (t : Term) : Prop :=
  (decoding limit).answer ⟨depth, d⟩ = .ok t

theorem result_pure (a : α) : result limit (pure a) = .ok a := rfl

theorem result_lift (e : Except DecodeError α) : result limit (liftM e : DecodeM α) = e := by
  cases e <;> rfl

theorem result_bind (m : DecodeM α) (f : α → DecodeM β) :
    result limit (m >>= f) = result limit m >>= fun a => result limit (f a) := by
  refine (Walk.eval_bind (decoding limit).answer m.run _).trans ?_
  unfold result
  cases m.run.eval (decoding limit).answer <;> rfl

theorem result_bind_eq_ok {m : DecodeM α} {f : α → DecodeM β} {b : β} :
    result limit (m >>= f) = .ok b ↔ ∃ a, result limit m = .ok a ∧ result limit (f a) = .ok b := by
  rw [result_bind, bind_eq_ok]

theorem result_child_eq_ok {kind : Term.Kind} {name : String} {t : Term} :
    result limit (child depth members kind name) = .ok t ↔
      ∃ d, member? name members = some d ∧ Decodes limit depth d t := by
  unfold child field
  cases member? name members with
  | none => exact ⟨fun h => (by cases h), fun ⟨_, h, _⟩ => (by cases h)⟩
  | some d =>
    simp only [Option.some.injEq, exists_eq_left']
    exact Iff.rfl

theorem result_decodeAll_eq_ok {items : List Document} {front ts : List Term} :
    result limit (decodeAll depth items front) = .ok ts ↔
      ∃ rest, ts = front.reverse ++ rest ∧ List.Forall₂ (Decodes limit depth) items rest := by
  induction items generalizing front with
  | nil =>
    simp only [List.forall₂_nil_left_iff, exists_eq_right, List.append_nil]
    exact ⟨fun h => (by cases h; rfl), fun h => (by rw [h]; rfl)⟩
  | cons d items ih =>
    simp only [decodeAll, result_bind_eq_ok, ih, List.forall₂_cons_left_iff]
    constructor
    · rintro ⟨t, ht, rest, rfl, hrest⟩
      exact ⟨t :: rest, by simp, t, rest, ht, hrest, rfl⟩
    · rintro ⟨_, rfl, t, rest, ht, hrest, rfl⟩
      exact ⟨t, ht, rest, by simp, hrest⟩

theorem result_arguments_eq_ok {ts : List Term} :
    result limit (arguments depth members) = .ok ts ↔
      ∃ items, member? "arguments" members = some (.array items) ∧
        List.Forall₂ (Decodes limit depth) items ts := by
  unfold arguments field
  cases member? "arguments" members with
  | none => exact ⟨fun h => (by cases h), fun ⟨_, h, _⟩ => (by cases h)⟩
  | some d =>
    cases d with
    | array items =>
      simp only [result_decodeAll_eq_ok, List.reverse_nil, List.nil_append, exists_eq_left',
        Option.some.injEq, Document.array.injEq]
    | null | bool | number | text | object =>
      exact ⟨fun h => (by cases h), fun ⟨_, h, _⟩ => (by cases h)⟩

/-- Parts that are decoded make a term of the given kind that has them in its fields. -/
theorem fields_of_parts {kind : Term.Kind} {make : Location → Term}
    (h : result limit (parts depth members kind) = .ok make) (l : Location) :
    (make l).kind = kind ∧ (make l).location = l ∧
      Fields (Decodes limit depth) (make l) members := by
  cases kind <;>
    simp only [parts, result_bind_eq_ok, result_lift, result_child_eq_ok, result_arguments_eq_ok,
      readField_eq_ok, readOperator_eq_ok, readInt32_eq_ok, readText_eq_ok, readBool_eq_ok,
      readParameter_eq_ok, readParameters_eq_ok, result_pure, Except.ok.injEq] at h
  case int =>
    obtain ⟨n, ⟨_, hvalue, rfl⟩, rfl⟩ := h
    exact ⟨rfl, rfl, .int hvalue⟩
  case str =>
    obtain ⟨text, ⟨_, hvalue, rfl⟩, rfl⟩ := h
    exact ⟨rfl, rfl, .str hvalue⟩
  case bool =>
    obtain ⟨b, ⟨_, hvalue, rfl⟩, rfl⟩ := h
    exact ⟨rfl, rfl, .bool hvalue⟩
  case var =>
    obtain ⟨name, ⟨_, htext, rfl⟩, rfl⟩ := h
    exact ⟨rfl, rfl, .var htext⟩
  case function =>
    obtain ⟨ps, ⟨_, hps, items, rfl, hitems⟩, body, ⟨_, hvalue, hbody⟩, rfl⟩ := h
    exact ⟨rfl, rfl, .function hps hitems hvalue hbody⟩
  case call =>
    obtain ⟨callee, ⟨_, hcallee, hd⟩, arguments, ⟨items, hitems, hds⟩, rfl⟩ := h
    exact ⟨rfl, rfl, .call hcallee hd hitems hds⟩
  case letIn =>
    obtain ⟨name, ⟨_, hname, hp⟩, value, ⟨_, hvalue, hd⟩, next, ⟨_, hnext, hd'⟩, rfl⟩ := h
    exact ⟨rfl, rfl, .letIn hname hp hvalue hd hnext hd'⟩
  case cond =>
    obtain ⟨condition, ⟨_, hc, hd⟩, yes, ⟨_, hyes, hd₁⟩, no, ⟨_, hno, hd₂⟩, rfl⟩ := h
    exact ⟨rfl, rfl, .cond hc hd hyes hd₁ hno hd₂⟩
  case binary =>
    obtain ⟨op, hop, lhs, ⟨_, hlhs, hd⟩, rhs, ⟨_, hrhs, hd'⟩, rfl⟩ := h
    exact ⟨rfl, rfl, .binary hop hlhs hd hrhs hd'⟩
  case tuple =>
    obtain ⟨a, ⟨_, ha, hd⟩, b, ⟨_, hb, hd'⟩, rfl⟩ := h
    exact ⟨rfl, rfl, .tuple ha hd hb hd'⟩
  case print =>
    obtain ⟨operand, ⟨_, hvalue, hd⟩, rfl⟩ := h
    exact ⟨rfl, rfl, .print hvalue hd⟩
  case first =>
    obtain ⟨operand, ⟨_, hvalue, hd⟩, rfl⟩ := h
    exact ⟨rfl, rfl, .first hvalue hd⟩
  case second =>
    obtain ⟨operand, ⟨_, hvalue, hd⟩, rfl⟩ := h
    exact ⟨rfl, rfl, .second hvalue hd⟩

theorem result_bind_of_ok {m : DecodeM α} {f : α → DecodeM β} {a : α} {b : β}
    (hm : result limit m = .ok a) (hf : result limit (f a) = .ok b) :
    result limit (m >>= f) = .ok b :=
  result_bind_eq_ok.2 ⟨a, hm, hf⟩

theorem result_readField {read : Document → Except Reason α} {owner : Owner} {name : String}
    {d : Document} {a : α} (hd : member? name members = some d) (ha : read d = .ok a) :
    result limit (liftM (readField read members owner name) : DecodeM α) = .ok a :=
  (result_lift _).trans (readField_eq_ok.2 ⟨d, hd, ha⟩)

theorem result_child {kind : Term.Kind} {name : String} {d : Document} {u : Term}
    (hd : member? name members = some d) (hu : Decodes limit depth d u) :
    result limit (child depth members kind name) = .ok u :=
  result_child_eq_ok.2 ⟨d, hd, hu⟩

/-- A term with its parts in the fields is made from what is decoded there. -/
theorem parts_of_fields {t : Term} (h : Fields (Decodes limit depth) t members) :
    ∃ make, result limit (parts depth members t.kind) = .ok make ∧ make t.location = t := by
  cases h with
  | int hvalue =>
    refine ⟨_, result_bind_of_ok (result_readField hvalue ?_) rfl, rfl⟩
    exact readInt32_eq_ok.2 rfl
  | str hvalue =>
    refine ⟨_, result_bind_of_ok (result_readField hvalue ?_) rfl, rfl⟩
    exact readText_eq_ok.2 rfl
  | bool hvalue =>
    refine ⟨_, result_bind_of_ok (result_readField hvalue ?_) rfl, rfl⟩
    exact readBool_eq_ok.2 rfl
  | var htext =>
    refine ⟨_, result_bind_of_ok (result_readField htext ?_) rfl, rfl⟩
    exact readText_eq_ok.2 rfl
  | function hparameters hitems hvalue hd =>
    have hread := readParameters_eq_ok.2 ⟨_, rfl, hitems⟩
    refine ⟨_, result_bind_of_ok (result_readField hparameters hread) ?_, rfl⟩
    exact result_bind_of_ok (result_child hvalue hd) rfl
  | call hcallee hd harguments hitems =>
    have hread := result_arguments_eq_ok.2 ⟨_, harguments, hitems⟩
    refine ⟨_, result_bind_of_ok (result_child hcallee hd) ?_, rfl⟩
    exact result_bind_of_ok hread rfl
  | letIn hname hd hvalue hd₁ hnext hd₂ =>
    have hread := readParameter_eq_ok.2 hd
    refine ⟨_, result_bind_of_ok (result_readField hname hread) ?_, rfl⟩
    refine result_bind_of_ok (result_child hvalue hd₁) ?_
    exact result_bind_of_ok (result_child hnext hd₂) rfl
  | cond hcondition hd hyes hd₁ hno hd₂ =>
    refine ⟨_, result_bind_of_ok (result_child hcondition hd) ?_, rfl⟩
    refine result_bind_of_ok (result_child hyes hd₁) ?_
    exact result_bind_of_ok (result_child hno hd₂) rfl
  | binary hop hlhs hd hrhs hd₁ =>
    have hread := readOperator_eq_ok.2 hop
    refine ⟨_, result_bind_of_ok ((result_lift _).trans hread) ?_, rfl⟩
    refine result_bind_of_ok (result_child hlhs hd) ?_
    exact result_bind_of_ok (result_child hrhs hd₁) rfl
  | tuple hfirst hd hsecond hd₁ =>
    refine ⟨_, result_bind_of_ok (result_child hfirst hd) ?_, rfl⟩
    exact result_bind_of_ok (result_child hsecond hd₁) rfl
  | print hvalue hd => exact ⟨_, result_bind_of_ok (result_child hvalue hd) rfl, rfl⟩
  | first hvalue hd => exact ⟨_, result_bind_of_ok (result_child hvalue hd) rfl, rfl⟩
  | second hvalue hd => exact ⟨_, result_bind_of_ok (result_child hvalue hd) rfl, rfl⟩

/-- One level of decoding is one level of the grammar, if the limit allows for it. -/
theorem decodes_iff {d : Document} {t : Term} :
    Decodes limit depth d t ↔ depth < limit ∧ ∃ members, d = .object members ∧
      member? "kind" members = some (.text t.kind.tag) ∧
      Fields (Decodes limit (depth + 1)) t members ∧
      ∃ l, member? "location" members = some l ∧ DenotesLocation l t.location := by
  have hbody : Decodes limit depth d t ↔ result limit (decodeBody limit ⟨depth, d⟩) = .ok t := by
    rw [Decodes, Traversal.answer_eq]
    exact Iff.rfl
  rw [hbody, decodeBody]
  by_cases hlimit : limit ≤ depth
  · rw [if_pos hlimit]
    exact ⟨fun h => (by cases h), fun h => absurd h.1 (Nat.not_lt_of_le hlimit)⟩
  rw [if_neg hlimit]
  cases d with
  | object members =>
    simp only [result_bind_eq_ok, result_lift, readKind_eq_ok, readField_eq_ok, readLocation_eq_ok,
      result_pure, Except.ok.injEq]
    constructor
    · rintro ⟨kind, hkind, make, hmake, l, ⟨d, hd, hl⟩, rfl⟩
      obtain ⟨hk, hloc, hfields⟩ := fields_of_parts hmake l
      refine ⟨Nat.lt_of_not_le hlimit, members, rfl, ?_, hfields, d, hd, ?_⟩
      · rw [hk, hkind]
      · rw [hloc]
        exact hl
    · rintro ⟨-, _, hmembers, hkind, hfields, d, hd, hl⟩
      cases hmembers
      obtain ⟨make, hmake, ht⟩ := parts_of_fields hfields
      exact ⟨t.kind, hkind, make, hmake, t.location, ⟨d, hd, hl⟩, ht⟩
  | null | bool | number | text | array =>
    refine ⟨fun h => (by cases h), ?_⟩
    rintro ⟨-, _, h, -⟩
    cases h

end Result

/-- Decoding inside `depth` other terms accepts what the grammar says, as far as the limit allows.
The induction is on the document, since what a field holds is smaller. -/
theorem decodes_iff_represents {limit depth : Nat} {d : Document} {t : Term} :
    Decodes limit depth d t ↔ Represents d t ∧ depth + t.height ≤ limit := by
  induction hn : sizeOf d using Nat.strongRecOn generalizing d t depth with
  | _ n ih =>
    subst hn
    rw [decodes_iff]
    constructor
    · rintro ⟨hlimit, members, rfl, hkind, hfields, l, hl, hloc⟩
      have hboth := hfields.imp fun d u hd _ hdec => (ih _ hd rfl).1 hdec
      refine ⟨.object hkind (hboth.imp fun _ _ _ _ h => h.1) hl hloc, ?_⟩
      have hparts := (hboth.imp fun _ _ _ _ h => h.2).forall_mem_parts
      obtain ⟨k, rfl⟩ : ∃ k, limit = depth + 1 + k := ⟨limit - (depth + 1), by omega⟩
      have := Term.height_le_succ_iff.2 fun u hu => Nat.le_of_add_le_add_left (hparts u hu)
      omega
    · rintro ⟨hrep, hheight⟩
      have hpos := t.height_pos
      cases hrep with
      | object hkind hfields hl hloc =>
        refine ⟨by omega, _, rfl, hkind, hfields.imp fun d u hd hu h => ?_, _, hl, hloc⟩
        obtain ⟨k, rfl⟩ : ∃ k, limit = depth + (k + 1) := ⟨limit - (depth + 1), by omega⟩
        have hu := Term.height_le_succ_iff.1 (Nat.le_of_add_le_add_left hheight) u hu
        exact (ih _ hd rfl).2 ⟨h, by omega⟩

/-- The decoder accepts exactly the documents of its grammar that nest at most as deep as it is told
to go, each as the term that it represents. -/
theorem decodeTerm_eq_ok_iff (limit : Nat) (d : Document) (t : Term) :
    decodeTerm limit d = .ok t ↔ Represents d t ∧ t.height ≤ limit := by
  have h : Decodes limit 0 d t ↔ Represents d t ∧ 0 + t.height ≤ limit := decodes_iff_represents
  rwa [Nat.zero_add] at h

end Treewalk.Schema
