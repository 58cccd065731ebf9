import Treewalk.Document.Reader
import Treewalk.Schema.Field
import Treewalk.Walk

/-! # Decoding programs

A term is an object with a `kind`, the fields of that kind, and a `location`. Fields are checked in
a fixed order, the first failure is reported, and the location comes last. Terms may nest up to a
given limit; what lies below a term that is too deep is not looked at. -/

namespace Treewalk.Schema

/-- The object that a field belongs to, as messages name it. -/
inductive Owner where
  | file
  | term
  | kind (k : Term.Kind)
  deriving DecidableEq

def Owner.name : Owner → String
  | file => "File"
  | term => "term"
  | kind k => k.tag

/-- Why a text is not a program. -/
inductive DecodeError where
  | malformed (error : SyntaxError)
  | notAnObject (owner : Owner)
  | missingField (owner : Owner) (field : String)
  | invalidField (owner : Owner) (field : String) (reason : Reason)
  | invalidTermKind (tag : String)
  | invalidOperator (text : String)
  | nestingTooDeep (limit : Nat)
  deriving DecidableEq

def DecodeError.message : DecodeError → String
  | malformed error => "malformed document: " ++ error.message
  | notAnObject owner => "expected " ++ owner.name ++ " to be an object"
  | missingField owner field => "missing field `" ++ field ++ "` in " ++ owner.name
  | invalidField owner field reason =>
    "invalid field `" ++ field ++ "` in " ++ owner.name ++ ": " ++ reason.message
  | invalidTermKind tag => "invalid term kind: " ++ tag
  | invalidOperator text => "invalid binary operator: " ++ text
  | nestingTooDeep limit => "document nested deeper than " ++ limit.repr ++ " terms"

abbrev Members := List (String × Document)

/-- A field that has to be there. -/
def field (members : Members) (owner : Owner) (name : String) : Except DecodeError Document :=
  match Document.member? name members with
  | some d => .ok d
  | none => .error (.missingField owner name)

/-- A field that is not a term. -/
def readField {α : Type} (read : Document → Except Reason α) (members : Members) (owner : Owner)
    (name : String) : Except DecodeError α := do
  let d ← field members owner name
  match read d with
  | .ok a => .ok a
  | .error reason => .error (.invalidField owner name reason)

/-- A text, with a message of its own if it is none. -/
def readText : Document → Except Reason String
  | .text s => .ok s
  | _ => .error .notAString

def readOperator (members : Members) : Except DecodeError Operator := do
  match ← field members (.kind .binary) "op" with
  | .text tag =>
    match Operator.ofTag? tag with
    | some op => .ok op
    | none => .error (.invalidOperator tag)
  | d => .error (.invalidOperator (d.print .compact))

def readKind (members : Members) : Except DecodeError Term.Kind := do
  let tag ← readField readText members .term "kind"
  match Term.Kind.ofTag? tag with
  | some kind => .ok kind
  | none => .error (.invalidTermKind tag)

/-! ## Terms -/

/-- A document to be read as a term, inside `depth` others. -/
structure DecodeJob where
  depth : Nat
  document : Document

abbrev DecodeM := ExceptT DecodeError (Walk fun _ : DecodeJob => Except DecodeError Term)

def decodeAt (depth : Nat) (d : Document) : DecodeM Term :=
  ExceptT.mk (Walk.ask ⟨depth, d⟩)

/-- A field that is a term. -/
def child (depth : Nat) (members : Members) (kind : Term.Kind) (name : String) : DecodeM Term := do
  match field members (.kind kind) name with
  | .ok d => decodeAt depth d
  | .error e => throw e

/-- The terms of an array, after those in `front`, the last of which stands first. -/
def decodeAll (depth : Nat) : List Document → List Term → DecodeM (List Term)
  | [], front => return front.reverse
  | d :: rest, front => do
    let t ← decodeAt depth d
    decodeAll depth rest (t :: front)

def arguments (depth : Nat) (members : Members) : DecodeM (List Term) := do
  match field members (.kind .call) "arguments" with
  | .ok (.array items) => decodeAll depth items []
  | .ok _ => throw (.invalidField (.kind .call) "arguments" .notTerms)
  | .error e => throw e

/-- The fields of a term of a given kind, apart from its location. -/
def parts (depth : Nat) (members : Members) : Term.Kind → DecodeM (Location → Term)
  | .int => return .int (← readField readInt32 members (.kind .int) "value")
  | .str => return .str (← readField readText members (.kind .str) "value")
  | .bool => return .bool (← readField readBool members (.kind .bool) "value")
  | .var => return .var (← readField readText members (.kind .var) "text")
  | .function => do
    let parameters ← readField readParameters members (.kind .function) "parameters"
    return .function parameters (← child depth members .function "value")
  | .call => do
    let callee ← child depth members .call "callee"
    return .call callee (← arguments depth members)
  | .letIn => do
    let name ← readField readParameter members (.kind .letIn) "name"
    let value ← child depth members .letIn "value"
    return .letIn name value (← child depth members .letIn "next")
  | .cond => do
    let condition ← child depth members .cond "condition"
    let yes ← child depth members .cond "then"
    return .cond condition yes (← child depth members .cond "otherwise")
  | .binary => do
    let op ← readOperator members
    let lhs ← child depth members .binary "lhs"
    return .binary lhs op (← child depth members .binary "rhs")
  | .tuple => do
    let first ← child depth members .tuple "first"
    return .tuple first (← child depth members .tuple "second")
  | .print => return .print (← child depth members .print "value")
  | .first => return .first (← child depth members .first "value")
  | .second => return .second (← child depth members .second "value")

/-- A term, whose parts are read one level deeper. -/
def decodeBody (limit : Nat) (job : DecodeJob) : DecodeM Term := do
  if limit ≤ job.depth then throw (.nestingTooDeep limit)
  else
    match job.document with
    | .object members =>
      let kind ← readKind members
      let make ← parts (job.depth + 1) members kind
      return make (← readField readLocation members (.kind kind) "location")
    | _ => throw (.notAnObject .term)

/-! ## Decoding goes from a document to what it holds -/

section Visits

variable {α β : Type} {p : DecodeJob → Prop}

private theorem visits_seq {m : DecodeM α} {f : α → DecodeM β} (hm : m.run.Visits p)
    (hf : ∀ a, (f a).run.Visits p) : (m >>= f).run.Visits p :=
  Walk.visits_bind hm fun
    | .ok a => hf a
    | .error _ => trivial

private theorem visits_lift (e : Except DecodeError α) : (liftM e : DecodeM α).run.Visits p := by
  cases e <;> trivial

private theorem visits_child {members : Members}
    (hp : ∀ depth d, sizeOf d < sizeOf (Document.object members) → p ⟨depth, d⟩) (depth : Nat)
    (kind : Term.Kind) (name : String) : (child depth members kind name).run.Visits p := by
  unfold child field
  cases h : Document.member? name members with
  | none => trivial
  | some d => exact Walk.visits_ask.2 (hp _ _ (Document.sizeOf_member?_lt h))

private theorem visits_decodeAll (depth : Nat) (items : List Document)
    (hp : ∀ d ∈ items, p ⟨depth, d⟩) (front : List Term) :
    (decodeAll depth items front).run.Visits p := by
  induction items generalizing front with
  | nil => trivial
  | cons d rest ih =>
    exact visits_seq (Walk.visits_ask.2 (hp d List.mem_cons_self)) fun t =>
      ih (fun d hd => hp d (List.mem_cons_of_mem _ hd)) _

private theorem visits_arguments {members : Members}
    (hp : ∀ depth d, sizeOf d < sizeOf (Document.object members) → p ⟨depth, d⟩) (depth : Nat) :
    (arguments depth members).run.Visits p := by
  unfold arguments field
  cases h : Document.member? "arguments" members with
  | none => trivial
  | some d =>
    cases d with
    | array items =>
      exact visits_decodeAll depth items (fun d hd => hp _ _ <|
        Nat.lt_trans (Document.sizeOf_item_lt hd) (Document.sizeOf_member?_lt h)) []
    | null | bool _ | number _ | text _ | object _ => trivial

private theorem visits_parts {members : Members}
    (hp : ∀ depth d, sizeOf d < sizeOf (Document.object members) → p ⟨depth, d⟩) (depth : Nat)
    (kind : Term.Kind) : (parts depth members kind).run.Visits p := by
  have hc := visits_child hp depth
  cases kind with
  | int | str | bool | var => exact visits_seq (visits_lift _) fun _ => trivial
  | function => exact visits_seq (visits_lift _) fun _ => visits_seq (hc _ _) fun _ => trivial
  | call =>
    exact visits_seq (hc _ _) fun _ => visits_seq (visits_arguments hp depth) fun _ => trivial
  | letIn =>
    exact visits_seq (visits_lift _) fun _ => visits_seq (hc _ _) fun _ =>
      visits_seq (hc _ _) fun _ => trivial
  | cond =>
    exact visits_seq (hc _ _) fun _ => visits_seq (hc _ _) fun _ =>
      visits_seq (hc _ _) fun _ => trivial
  | binary =>
    exact visits_seq (visits_lift _) fun _ => visits_seq (hc _ _) fun _ =>
      visits_seq (hc _ _) fun _ => trivial
  | tuple => exact visits_seq (hc _ _) fun _ => visits_seq (hc _ _) fun _ => trivial
  | print | first | second => exact visits_seq (hc _ _) fun _ => trivial

end Visits

/-- Decoding up to a limit on nesting. -/
def decoding (limit : Nat) : Traversal fun _ : DecodeJob => Except DecodeError Term where
  body job := (decodeBody limit job).run
  below a b := sizeOf a.document < sizeOf b.document
  below_wf := (measure fun j : DecodeJob => sizeOf j.document).wf
  visits_body := by
    intro ⟨depth, d⟩
    unfold decodeBody
    split
    · trivial
    · cases d with
      | object members =>
        exact visits_seq (visits_lift _) fun _ =>
          visits_seq (visits_parts (fun _ _ h => h) _ _) fun _ =>
            visits_seq (visits_lift _) fun _ => trivial
      | null | bool _ | number _ | text _ | array _ => trivial

/-- The term of a document, if terms in it nest up to `limit` deep. -/
def decodeTerm (limit : Nat) (d : Document) : Except DecodeError Term :=
  (decoding limit).answer ⟨0, d⟩

/-- The program of a document. Without a location of its own it stands at the start of its file. -/
def decodeProgram (limit : Nat) : Document → Except DecodeError Program
  | .object members => do
    let name ← readField readText members .file "name"
    let expression ← decodeTerm limit (← field members .file "expression")
    match Document.member? "location" members with
    | none => return ⟨name, expression, ⟨0, 0, name⟩⟩
    | some _ => return ⟨name, expression, ← readField readLocation members .file "location"⟩
  | _ => .error (.notAnObject .file)

/-- The program of a text. -/
def decode (limit : Nat) (text : String) : Except DecodeError Program :=
  match Document.ofText text with
  | .ok d => decodeProgram limit d
  | .error e => .error (.malformed e)

/-- Terms nest no deeper than this if nothing else is said. -/
def defaultNestingLimit : Nat := 100000

end Treewalk.Schema
