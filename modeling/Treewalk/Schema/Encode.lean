import Treewalk.Document.Printer
import Treewalk.Term

/-! # Encoding programs

The document of a program has its fields in a fixed order: the kind of a term first, its location
last. -/

namespace Treewalk.Schema

def encodeNat (n : Nat) : Document := .number (.int n)

def encodeLocation (l : Location) : Document :=
  .object [("start", encodeNat l.start), ("end", encodeNat l.stop), ("filename", .text l.filename)]

def encodeParameter (p : Parameter) : Document :=
  .object [("text", .text p.name), ("location", encodeLocation p.location)]

/-- The document of a term of which the fields between kind and location are given. -/
def encodeFields (t : Term) (fields : List (String × Document)) : Document :=
  .object (("kind", .text t.kind.tag) :: (fields ++ [("location", encodeLocation t.location)]))

abbrev Encoding := Walk fun _ : Term => Document

/-- The documents of terms, after those in `front`, the last of which stands first. -/
def encodeAll : List Term → List Document → Encoding (List Document)
  | [], front => return front.reverse
  | t :: rest, front => do
    let d ← Walk.ask t
    encodeAll rest (d :: front)

/-- The fields of a term between its kind and its location. -/
def encodeParts : Term → Encoding (List (String × Document))
  | .int n _ => return [("value", .number (.int n.toInt))]
  | .str s _ => return [("value", .text s)]
  | .bool b _ => return [("value", .bool b)]
  | .var name _ => return [("text", .text name)]
  | .function parameters body _ =>
    return [("parameters", .array (parameters.map encodeParameter)), ("value", ← Walk.ask body)]
  | .call callee arguments _ => do
    let callee ← Walk.ask callee
    return [("callee", callee), ("arguments", .array (← encodeAll arguments []))]
  | .letIn name value next _ => do
    let value ← Walk.ask value
    return [("name", encodeParameter name), ("value", value), ("next", ← Walk.ask next)]
  | .cond condition yes no _ => do
    let condition ← Walk.ask condition
    let yes ← Walk.ask yes
    return [("condition", condition), ("then", yes), ("otherwise", ← Walk.ask no)]
  | .binary lhs op rhs _ => do
    let lhs ← Walk.ask lhs
    return [("lhs", lhs), ("op", .text op.tag), ("rhs", ← Walk.ask rhs)]
  | .tuple first second _ => do
    let first ← Walk.ask first
    return [("first", first), ("second", ← Walk.ask second)]
  | .print operand _ => return [("value", ← Walk.ask operand)]
  | .first operand _ => return [("value", ← Walk.ask operand)]
  | .second operand _ => return [("value", ← Walk.ask operand)]

def encodeBody (t : Term) : Encoding Document := do
  return encodeFields t (← encodeParts t)

private theorem visits_encodeAll {p : Term → Prop} (terms : List Term) (hp : ∀ t ∈ terms, p t)
    (front : List Document) : (encodeAll terms front).Visits p := by
  induction terms generalizing front with
  | nil => trivial
  | cons t rest ih =>
    exact Walk.visits_bind (Walk.visits_ask.2 (hp t List.mem_cons_self)) fun d =>
      ih (fun t ht => hp t (List.mem_cons_of_mem _ ht)) _

private theorem visits_encodeParts (t : Term) :
    (encodeParts t).Visits fun q => sizeOf q < sizeOf t := by
  cases t with
  | int | str | bool | var => trivial
  | function parameters body _ =>
    exact Walk.visits_bind (Walk.visits_ask.2 (by simp +arith)) fun _ => trivial
  | call callee arguments _ =>
    refine Walk.visits_bind (Walk.visits_ask.2 (by simp +arith)) fun _ =>
      Walk.visits_bind (visits_encodeAll _ (fun t ht => ?_) _) fun _ => trivial
    have := List.sizeOf_lt_of_mem ht
    simp only [Term.call.sizeOf_spec]
    omega
  | letIn _ value next _ =>
    exact Walk.visits_bind (Walk.visits_ask.2 (by simp +arith)) fun _ =>
      Walk.visits_bind (Walk.visits_ask.2 (by simp +arith)) fun _ => trivial
  | cond c yes no _ =>
    exact Walk.visits_bind (Walk.visits_ask.2 (by simp +arith)) fun _ =>
      Walk.visits_bind (Walk.visits_ask.2 (by simp +arith)) fun _ =>
        Walk.visits_bind (Walk.visits_ask.2 (by simp +arith)) fun _ => trivial
  | binary lhs _ rhs _ =>
    exact Walk.visits_bind (Walk.visits_ask.2 (by simp +arith)) fun _ =>
      Walk.visits_bind (Walk.visits_ask.2 (by simp +arith)) fun _ => trivial
  | tuple a b _ =>
    exact Walk.visits_bind (Walk.visits_ask.2 (by simp +arith)) fun _ =>
      Walk.visits_bind (Walk.visits_ask.2 (by simp +arith)) fun _ => trivial
  | print | first | second =>
    exact Walk.visits_bind (Walk.visits_ask.2 (by simp +arith)) fun _ => trivial

/-- Encoding goes from a term to its parts. -/
def encoding : Traversal fun _ : Term => Document where
  body := encodeBody
  below a b := sizeOf a < sizeOf b
  below_wf := (measure fun t : Term => sizeOf t).wf
  visits_body t := Walk.visits_bind (visits_encodeParts t) fun _ => trivial

def encodeTerm (t : Term) : Document := encoding.answer t

def encodeProgram (p : Program) : Document :=
  .object [("name", .text p.name), ("expression", encodeTerm p.expression),
    ("location", encodeLocation p.location)]

end Treewalk.Schema
