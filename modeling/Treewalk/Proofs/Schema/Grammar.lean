import Mathlib.Data.List.Forall2
import Treewalk.Proofs.Subterm
import Treewalk.Schema.Decode

/-!
# The grammar of program documents

`Represents d t` says that the document `d` is one of the term `t`. It is stated without a reader
and without a limit: an object with the kind of the term, the fields of that kind (`Fields`) and the
location, whatever other members it has. `Fields R` is one level of the grammar, with any relation
`R` in the place of "represents" for the parts of the term, so that a reader can be compared with
the grammar level by level.
-/

namespace Treewalk

/-- Both offsets have at most 64 bits. -/
def Location.InRange (l : Location) : Prop := l.start < UInt64.size ∧ l.stop < UInt64.size

instance (l : Location) : Decidable l.InRange :=
  inferInstanceAs (Decidable (l.start < UInt64.size ∧ l.stop < UInt64.size))

namespace Schema

open Document (member?)

/-- Documents of locations: objects with the three parts, or arrays of them. -/
inductive DenotesLocation : Document → Location → Prop
  | object {members : Members} {l : Location}
      (hstart : member? "start" members = some (.number (.int l.start)))
      (hstop : member? "end" members = some (.number (.int l.stop)))
      (hfilename : member? "filename" members = some (.text l.filename))
      (hl : l.InRange) : DenotesLocation (.object members) l
  | array {l : Location} (hl : l.InRange) :
      DenotesLocation (.array [.number (.int l.start), .number (.int l.stop), .text l.filename]) l

/-- Documents of parameters: objects with a text and a location, or arrays of them. -/
inductive DenotesParameter : Document → Parameter → Prop
  | object {members : Members} {p : Parameter} {d : Document}
      (hname : member? "text" members = some (.text p.name))
      (hlocation : member? "location" members = some d) (hd : DenotesLocation d p.location) :
      DenotesParameter (.object members) p
  | array {p : Parameter} {d : Document} (hd : DenotesLocation d p.location) :
      DenotesParameter (.array [.text p.name, d]) p

/-- The members of an object hold the fields of a term apart from its location. Documents of its
parts are related to them by `R`. -/
inductive Fields (R : Document → Term → Prop) : Term → Members → Prop
  | int {members : Members} {n : Int32} {l : Location}
      (hvalue : member? "value" members = some (.number (.int n.toInt))) :
      Fields R (.int n l) members
  | str {members : Members} {s : String} {l : Location}
      (hvalue : member? "value" members = some (.text s)) : Fields R (.str s l) members
  | bool {members : Members} {b : Bool} {l : Location}
      (hvalue : member? "value" members = some (.bool b)) : Fields R (.bool b l) members
  | var {members : Members} {name : String} {l : Location}
      (htext : member? "text" members = some (.text name)) : Fields R (.var name l) members
  | function {members : Members} {items : List Document} {parameters : List Parameter}
      {d : Document} {body : Term} {l : Location}
      (hparameters : member? "parameters" members = some (.array items))
      (hitems : List.Forall₂ DenotesParameter items parameters)
      (hvalue : member? "value" members = some d) (hd : R d body) :
      Fields R (.function parameters body l) members
  | call {members : Members} {d : Document} {items : List Document} {callee : Term}
      {arguments : List Term} {l : Location} (hcallee : member? "callee" members = some d)
      (hd : R d callee) (harguments : member? "arguments" members = some (.array items))
      (hitems : List.Forall₂ R items arguments) : Fields R (.call callee arguments l) members
  | letIn {members : Members} {d d₁ d₂ : Document} {name : Parameter} {value next : Term}
      {l : Location} (hname : member? "name" members = some d) (hd : DenotesParameter d name)
      (hvalue : member? "value" members = some d₁) (hd₁ : R d₁ value)
      (hnext : member? "next" members = some d₂) (hd₂ : R d₂ next) :
      Fields R (.letIn name value next l) members
  | cond {members : Members} {d d₁ d₂ : Document} {condition yes no : Term} {l : Location}
      (hcondition : member? "condition" members = some d) (hd : R d condition)
      (hyes : member? "then" members = some d₁) (hd₁ : R d₁ yes)
      (hno : member? "otherwise" members = some d₂) (hd₂ : R d₂ no) :
      Fields R (.cond condition yes no l) members
  | binary {members : Members} {d d₁ : Document} {lhs rhs : Term} {op : Operator} {l : Location}
      (hop : member? "op" members = some (.text op.tag))
      (hlhs : member? "lhs" members = some d) (hd : R d lhs)
      (hrhs : member? "rhs" members = some d₁) (hd₁ : R d₁ rhs) :
      Fields R (.binary lhs op rhs l) members
  | tuple {members : Members} {d d₁ : Document} {a b : Term} {l : Location}
      (hfirst : member? "first" members = some d) (hd : R d a)
      (hsecond : member? "second" members = some d₁) (hd₁ : R d₁ b) :
      Fields R (.tuple a b l) members
  | print {members : Members} {d : Document} {operand : Term} {l : Location}
      (hvalue : member? "value" members = some d) (hd : R d operand) :
      Fields R (.print operand l) members
  | first {members : Members} {d : Document} {operand : Term} {l : Location}
      (hvalue : member? "value" members = some d) (hd : R d operand) :
      Fields R (.first operand l) members
  | second {members : Members} {d : Document} {operand : Term} {l : Location}
      (hvalue : member? "value" members = some d) (hd : R d operand) :
      Fields R (.second operand l) members

/-- Documents of terms. -/
inductive Represents : Document → Term → Prop
  | object {members : Members} {t : Term} {d : Document}
      (hkind : member? "kind" members = some (.text t.kind.tag))
      (hfields : Fields Represents t members)
      (hlocation : member? "location" members = some d) (hd : DenotesLocation d t.location) :
      Represents (.object members) t

namespace Fields

variable {R R' : Document → Term → Prop} {t : Term} {members : Members}

theorem forall₂_imp {items : List Document} {ts : List Term} (h : List.Forall₂ R items ts)
    (himp : ∀ d ∈ items, ∀ u ∈ ts, R d u → R' d u) : List.Forall₂ R' items ts := by
  induction h with
  | nil => exact .nil
  | cons hd _ ih =>
    refine .cons (himp _ List.mem_cons_self _ List.mem_cons_self hd) (ih ?_)
    intro d hd u hu
    exact himp d (List.mem_cons_of_mem _ hd) u (List.mem_cons_of_mem _ hu)

/-- The parts of a term are documents inside that of the term. -/
theorem imp (h : Fields R t members)
    (himp : ∀ d u, sizeOf d < sizeOf (Document.object members) → u ∈ t.parts → R d u → R' d u) :
    Fields R' t members := by
  have part : ∀ {name d u}, member? name members = some d → u ∈ t.parts → R d u → R' d u :=
    fun hmember hu hd => himp _ _ (Document.sizeOf_member?_lt hmember) hu hd
  cases h with
  | int hvalue => exact .int hvalue
  | str hvalue => exact .str hvalue
  | bool hvalue => exact .bool hvalue
  | var htext => exact .var htext
  | function hparameters hitems hvalue hd =>
    exact .function hparameters hitems hvalue (part hvalue (by simp [Term.parts]) hd)
  | call hcallee hd harguments hitems =>
    refine .call hcallee (part hcallee (by simp [Term.parts]) hd) harguments ?_
    refine forall₂_imp hitems fun d hd u hu => himp d u ?_ (List.mem_cons_of_mem _ hu)
    exact Nat.lt_trans (Document.sizeOf_item_lt hd) (Document.sizeOf_member?_lt harguments)
  | letIn hname hd hvalue hd₁ hnext hd₂ =>
    exact .letIn hname hd hvalue (part hvalue (by simp [Term.parts]) hd₁) hnext
      (part hnext (by simp [Term.parts]) hd₂)
  | cond hcondition hd hyes hd₁ hno hd₂ =>
    exact .cond hcondition (part hcondition (by simp [Term.parts]) hd) hyes
      (part hyes (by simp [Term.parts]) hd₁) hno (part hno (by simp [Term.parts]) hd₂)
  | binary hop hlhs hd hrhs hd₁ =>
    exact .binary hop hlhs (part hlhs (by simp [Term.parts]) hd) hrhs
      (part hrhs (by simp [Term.parts]) hd₁)
  | tuple hfirst hd hsecond hd₁ =>
    exact .tuple hfirst (part hfirst (by simp [Term.parts]) hd) hsecond
      (part hsecond (by simp [Term.parts]) hd₁)
  | print hvalue hd => exact .print hvalue (part hvalue (by simp [Term.parts]) hd)
  | first hvalue hd => exact .first hvalue (part hvalue (by simp [Term.parts]) hd)
  | second hvalue hd => exact .second hvalue (part hvalue (by simp [Term.parts]) hd)

/-- Every part of a term has a document. -/
theorem forall_mem_parts {P : Term → Prop} (h : Fields (fun _ u => P u) t members) :
    ∀ u ∈ t.parts, P u := by
  intro u hu
  cases h with
  | int | str | bool | var => cases hu
  | call hcallee hd harguments hitems =>
    rcases List.mem_cons.1 hu with rfl | hu
    · exact hd
    · obtain ⟨i, hi, rfl⟩ := List.getElem_of_mem hu
      have hlen := hitems.length_eq
      exact (List.forall₂_iff_get.1 hitems).2 i (by omega) hi
  | function | letIn | cond | binary | tuple | print | first | second =>
    simp only [Term.parts, List.mem_cons, List.not_mem_nil, or_false] at hu
    rcases hu with rfl | rfl | rfl <;> assumption

end Fields

end Schema

end Treewalk
