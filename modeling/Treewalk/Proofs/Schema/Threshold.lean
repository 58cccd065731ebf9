import Mathlib
import Treewalk.Proofs.Schema.Acceptance

/-!
# The nesting limit of the decoder

For each document there is a number of levels at which the limit stops to matter: every limit below
it is reported as too low, and all others lead to one and the same result, be it a term or an error
of another kind (`exists_threshold`). Where the result is a term, that number is its height.

A report on nesting competes with all other errors in the order in which fields are read. What
decides is what comes first, so the threshold of two steps in a row is the higher one of theirs if
the first step succeeds, and that of the first step if it fails (`HasThreshold.bind`). Steps are
taken as functions of the depth they start at, because all parts of a term are read one level below
it, however many there are.
-/

namespace Treewalk.Schema

section Threshold

variable {α β : Type} {members : Members}

/-- Anything but a report on nesting. -/
def Settled (r : Except DecodeError α) : Prop := ∀ n, r ≠ .error (.nestingTooDeep n)

/-- The result `r`, if the limit leaves room for a number of levels. -/
def cutOff (limit levels : Nat) (r : Except DecodeError α) : Except DecodeError α :=
  if limit < levels then .error (.nestingTooDeep limit) else r

theorem cutOff_of_lt {limit levels : Nat} {r : Except DecodeError α} (h : limit < levels) :
    cutOff limit levels r = .error (.nestingTooDeep limit) :=
  if_pos h

theorem cutOff_of_le {limit levels : Nat} {r : Except DecodeError α} (h : levels ≤ limit) :
    cutOff limit levels r = r :=
  if_neg (Nat.not_lt_of_le h)

theorem cutOff_eq_ok_iff {limit levels : Nat} {r : Except DecodeError α} {a : α} :
    cutOff limit levels r = .ok a ↔ levels ≤ limit ∧ r = .ok a := by
  by_cases h : limit < levels
  · rw [cutOff_of_lt h]
    simp [Nat.not_le_of_lt h]
  · rw [cutOff_of_le (Nat.le_of_not_lt h)]
    simp [Nat.le_of_not_lt h]

theorem cutOff_eq_nestingTooDeep_iff {limit levels : Nat} {r : Except DecodeError α}
    (hr : Settled r) : cutOff limit levels r = .error (.nestingTooDeep limit) ↔ limit < levels := by
  constructor
  · intro h
    by_contra hlevels
    rw [cutOff_of_le (Nat.le_of_not_lt hlevels)] at h
    exact hr limit h
  · exact cutOff_of_lt

theorem cutOff_bind {limit levels : Nat} (r : Except DecodeError α)
    (f : α → Except DecodeError β) :
    cutOff limit levels r >>= f = cutOff limit levels (r >>= f) := by
  unfold cutOff
  split <;> rfl

/-- Of two thresholds the higher one counts. -/
theorem cutOff_cutOff {limit levels levels' : Nat} (r : Except DecodeError α) :
    cutOff limit levels (cutOff limit levels' r) = cutOff limit (max levels levels') r := by
  by_cases h : limit < levels
  · rw [cutOff_of_lt h, cutOff_of_lt (by omega)]
  · rw [cutOff_of_le (Nat.le_of_not_lt h)]
    by_cases h' : limit < levels'
    · rw [cutOff_of_lt h', cutOff_of_lt (by omega)]
    · rw [cutOff_of_le (by omega), cutOff_of_le (by omega)]

/-- A step takes a number of levels below the depth it starts at, and has one result under all
limits that leave room for them. -/
def HasThreshold (step : Nat → DecodeM α) : Prop :=
  ∃ levels r, Settled r ∧ ∀ limit depth, depth ≤ limit →
    result limit (step depth) = cutOff limit (depth + levels) r

/-! ## Readers of fields do not report on nesting -/

theorem settled_ok (a : α) : Settled (.ok a) := by
  intro n h
  cases h

/-- An error is what it is in a result of any type. -/
theorem Settled.error {e : DecodeError} (h : Settled (.error e : Except DecodeError α)) :
    Settled (.error e : Except DecodeError β) := by
  intro n he
  cases he
  exact h n rfl

theorem settled_bind {x : Except DecodeError α} {f : α → Except DecodeError β} (hx : Settled x)
    (hf : ∀ a, Settled (f a)) : Settled (x >>= f) := by
  intro n h
  cases x with
  | ok a => exact hf a n h
  | error e => exact hx.error n h

theorem settled_field (owner : Owner) (name : String) : Settled (field members owner name) := by
  intro n h
  unfold field at h
  split at h <;> cases h

theorem settled_readField (read : Document → Except Reason α) (owner : Owner) (name : String) :
    Settled (readField read members owner name) := by
  refine settled_bind (settled_field owner name) ?_
  intro d n h
  split at h <;> cases h

theorem settled_readKind : Settled (readKind members) := by
  refine settled_bind (settled_readField readText .term "kind") ?_
  intro tag n h
  split at h <;> cases h

theorem settled_readOperator : Settled (readOperator members) := by
  refine settled_bind (settled_field (.kind .binary) "op") ?_
  intro d n h
  cases d with
  | text tag =>
    dsimp only at h
    split at h <;> cases h
  | null | bool | number | array | object => cases h

/-! ## Steps of the decoder -/

/-- What is read of a document that the limit lets in, with the parts of its term at the given
depth. -/
def interior (depth : Nat) : Document → DecodeM Term
  | .object members => do
    let kind ← readKind members
    let make ← parts depth members kind
    return make (← readField readLocation members (.kind kind) "location")
  | _ => throw (.notAnObject .term)

theorem result_decodeAt (limit depth : Nat) (d : Document) :
    result limit (decodeAt depth d) =
      if limit ≤ depth then .error (.nestingTooDeep limit)
      else result limit (interior (depth + 1) d) := by
  refine (Traversal.answer_eq (decoding limit) ⟨depth, d⟩).trans ?_
  change result limit (decodeBody limit ⟨depth, d⟩) = _
  unfold decodeBody
  by_cases hlimit : limit ≤ depth
  · rw [if_pos hlimit, if_pos hlimit]
    rfl
  · rw [if_neg hlimit, if_neg hlimit]
    cases d <;> rfl

namespace HasThreshold

theorem lift {e : Except DecodeError α} (he : Settled e) :
    HasThreshold fun _ => (liftM e : DecodeM α) := by
  refine ⟨0, e, he, ?_⟩
  intro limit depth hdepth
  rw [result_lift, Nat.add_zero, cutOff_of_le hdepth]

theorem pure (a : α) : HasThreshold fun _ => (Pure.pure a : DecodeM α) :=
  lift (settled_ok a)

/-- The second step is of no account if the first one fails. -/
theorem bind {step : Nat → DecodeM α} {next : Nat → α → DecodeM β} (hstep : HasThreshold step)
    (hnext : ∀ a, HasThreshold fun depth => next depth a) :
    HasThreshold fun depth => step depth >>= next depth := by
  obtain ⟨levels, r, hr, hstep⟩ := hstep
  cases r with
  | error e =>
    refine ⟨levels, .error e, hr.error, ?_⟩
    intro limit depth hdepth
    rw [result_bind, hstep limit depth hdepth, cutOff_bind]
    rfl
  | ok a =>
    obtain ⟨levels', r', hr', hnext⟩ := hnext a
    refine ⟨max levels levels', r', hr', ?_⟩
    intro limit depth hdepth
    rw [result_bind, hstep limit depth hdepth, cutOff_bind]
    change cutOff limit (depth + levels) (result limit (next depth a)) = _
    rw [hnext limit depth hdepth, cutOff_cutOff, Nat.add_max_add_left]

variable (hd : ∀ d, sizeOf d < sizeOf (Document.object members) → HasThreshold (decodeAt · d))
include hd

theorem child (kind : Term.Kind) (name : String) :
    HasThreshold (Schema.child · members kind name) := by
  have hfield : Settled (field members (.kind kind) name) := settled_field _ _
  unfold Schema.child
  cases h : field members (.kind kind) name with
  | ok d => exact hd d (Document.sizeOf_member?_lt (field_eq_ok.1 h))
  | error e =>
    rw [h] at hfield
    exact lift hfield.error

omit hd in
theorem decodeAll {items : List Document} (hitems : ∀ d ∈ items, HasThreshold (decodeAt · d))
    (front : List Term) : HasThreshold (Schema.decodeAll · items front) := by
  induction items generalizing front with
  | nil => exact pure _
  | cons d items ih =>
    refine bind (hitems d List.mem_cons_self) ?_
    intro t
    exact ih (fun d hd => hitems d (List.mem_cons_of_mem _ hd)) (t :: front)

theorem arguments : HasThreshold (Schema.arguments · members) := by
  have hfield : Settled (field members (.kind .call) "arguments") := settled_field _ _
  unfold Schema.arguments
  cases h : field members (.kind .call) "arguments" with
  | ok d =>
    cases d with
    | array items =>
      refine decodeAll ?_ []
      intro d hitem
      have hsize := Document.sizeOf_member?_lt (field_eq_ok.1 h)
      exact hd d (Nat.lt_trans (Document.sizeOf_item_lt hitem) hsize)
    | null | bool | number | text | object =>
      refine lift ?_
      intro n h
      cases h
  | error e =>
    rw [h] at hfield
    exact lift hfield.error

theorem parts (kind : Term.Kind) : HasThreshold (Schema.parts · members kind) := by
  have hc := child hd
  cases kind with
  | int | str | bool | var => exact bind (lift (settled_readField _ _ _)) fun _ => pure _
  | function =>
    exact bind (lift (settled_readField _ _ _)) fun _ => bind (hc _ _) fun _ => pure _
  | call => exact bind (hc _ _) fun _ => bind (arguments hd) fun _ => pure _
  | letIn =>
    exact bind (lift (settled_readField _ _ _)) fun _ => bind (hc _ _) fun _ =>
      bind (hc _ _) fun _ => pure _
  | cond =>
    exact bind (hc _ _) fun _ => bind (hc _ _) fun _ => bind (hc _ _) fun _ => pure _
  | binary =>
    exact bind (lift settled_readOperator) fun _ => bind (hc _ _) fun _ =>
      bind (hc _ _) fun _ => pure _
  | tuple => exact bind (hc _ _) fun _ => bind (hc _ _) fun _ => pure _
  | print | first | second => exact bind (hc _ _) fun _ => pure _

end HasThreshold

theorem hasThreshold_interior {d : Document}
    (hd : ∀ d', sizeOf d' < sizeOf d → HasThreshold (decodeAt · d')) :
    HasThreshold (interior · d) := by
  cases d with
  | object members =>
    exact .bind (.lift settled_readKind) fun kind => .bind (.parts hd kind) fun _ =>
      .bind (.lift (settled_readField readLocation (.kind kind) "location")) fun _ => .pure _
  | null | bool | number | text | array =>
    refine .lift ?_
    intro n h
    cases h

/-- The induction is on the document: what a field holds is smaller, and starts a level deeper. -/
theorem hasThreshold_decodeAt (d : Document) : HasThreshold (decodeAt · d) := by
  induction hn : sizeOf d using Nat.strongRecOn generalizing d with
  | _ n ih =>
    subst hn
    obtain ⟨levels, r, hr, hresult⟩ := hasThreshold_interior fun d' hd' => ih _ hd' d' rfl
    refine ⟨levels + 1, r, hr, ?_⟩
    intro limit depth hdepth
    rw [result_decodeAt]
    by_cases hlimit : limit ≤ depth
    · rw [if_pos hlimit, cutOff_of_lt (by omega)]
    · rw [if_neg hlimit, hresult limit (depth + 1) (by omega), Nat.add_right_comm, Nat.add_assoc]

end Threshold

/-- Limits below some number of levels are reported as too low, and all others lead to the same
result. If that is a term, the number is its height. -/
theorem exists_threshold (d : Document) :
    ∃ levels r, Settled r ∧ (∀ limit, decodeTerm limit d = cutOff limit levels r) ∧
      ∀ t, r = .ok t → levels = t.height := by
  obtain ⟨levels, r, hr, hresult⟩ := hasThreshold_decodeAt d
  have hterm : ∀ limit, decodeTerm limit d = cutOff limit levels r := by
    intro limit
    refine (hresult limit 0 (Nat.zero_le limit)).trans ?_
    rw [Nat.zero_add]
  refine ⟨levels, r, hr, hterm, ?_⟩
  rintro t rfl
  -- The term is accepted by the limits from its height on, and by those from the threshold on.
  have haccepts : ∀ limit, levels ≤ limit ↔ Represents d t ∧ t.height ≤ limit := by
    intro limit
    have h : decodeTerm limit d = .ok t ↔ Represents d t ∧ 0 + t.height ≤ limit :=
      decodes_iff_represents
    rwa [Nat.zero_add, hterm, cutOff_eq_ok_iff, and_iff_left rfl] at h
  have hrepresents := ((haccepts levels).1 (Nat.le_refl levels)).1
  have hle := ((haccepts levels).1 (Nat.le_refl levels)).2
  have hge := (haccepts t.height).2 ⟨hrepresents, Nat.le_refl t.height⟩
  exact Nat.le_antisymm hge hle

/-- Lowering the limit changes nothing about a decoded document, valid or not, but that nesting may
be reported as too deep. That happens to all limits below one that depends on the document, and for
a term to those below its height. -/
theorem decodeTerm_of_limit_le {m n : Nat} (h : m ≤ n) (d : Document) :
    (decodeTerm m d = decodeTerm n d ∨ decodeTerm m d = .error (.nestingTooDeep m)) ∧
      (∀ t, decodeTerm n d = .ok t →
        (decodeTerm m d = .error (.nestingTooDeep m) ↔ m < t.height)) ∧
      ∃ levels, ∀ limit, decodeTerm limit d = .error (.nestingTooDeep limit) ↔ limit < levels := by
  obtain ⟨levels, r, hr, hresult, hheight⟩ := exists_threshold d
  have hdeep : ∀ limit, decodeTerm limit d = .error (.nestingTooDeep limit) ↔ limit < levels := by
    intro limit
    rw [hresult]
    exact cutOff_eq_nestingTooDeep_iff hr
  refine ⟨?_, ?_, levels, hdeep⟩
  · by_cases hm : m < levels
    · right
      exact (hdeep m).2 hm
    · left
      rw [hresult, hresult, cutOff_of_le (by omega), cutOff_of_le (by omega)]
  · intro t ht
    rw [hresult, cutOff_eq_ok_iff] at ht
    rw [hdeep, hheight t ht.2]

/-- The place of all terms in the documents below. -/
def wideCallLocation : String × Document :=
  ("location", .array [.number (.int 0), .number (.int 1), .text "wide"])

def numeral (n : Int) : Document :=
  .object [("kind", .text "Int"), wideCallLocation, ("value", .number (.int n))]

/-- A call with three arguments, of which the second is a pair. It nests three terms, and what is
wrong with the last argument is found after the pair. -/
def wideCall (last : Document) : Document :=
  .object [
    ("arguments", .array [
      numeral 1,
      .object [("first", numeral 2), ("kind", .text "Tuple"), wideCallLocation,
        ("second", numeral 3)],
      last]),
    ("callee", numeral 0),
    ("kind", .text "Call"),
    wideCallLocation]

theorem decodeTerm_wideCall_of_limit_le :
    (∃ t, decodeTerm 3 (wideCall (numeral 4)) = .ok t ∧
      decodeTerm 2 (wideCall (numeral 4)) = .error (.nestingTooDeep 2)) ∧
    decodeTerm 3 (wideCall .null) = .error (.notAnObject .term) ∧
    decodeTerm defaultNestingLimit (wideCall .null) = .error (.notAnObject .term) ∧
    decodeTerm 2 (wideCall .null) = .error (.nestingTooDeep 2) := by
  have hnull : decodeTerm 3 (wideCall .null) = .error (.notAnObject .term) := by cbv
  refine ⟨?_, hnull, ?_, by cbv⟩
  · obtain ⟨t, ht, hheight⟩ :
        ∃ t, decodeTerm 3 (wideCall (numeral 4)) = .ok t ∧ t.height = 3 := ⟨_, by cbv, by cbv⟩
    have hle : 2 ≤ 3 := by omega
    refine ⟨t, ht, ((decodeTerm_of_limit_le hle (wideCall (numeral 4))).2.1 t ht).2 ?_⟩
    omega
  · have hle : 3 ≤ defaultNestingLimit := by decide
    rcases (decodeTerm_of_limit_le hle (wideCall .null)).1 with h | h
    · rw [← h, hnull]
    · rw [hnull] at h
      cases h

end Treewalk.Schema
