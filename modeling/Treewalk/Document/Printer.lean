import Treewalk.Binary64.Shortest
import Treewalk.Document.Basic
import Treewalk.Text.Quoted
import Treewalk.Walk

/-! # Writing a document

A document is written without blanks, or with each member and item on a line of its own, indented by
two spaces a level. Members are written in the order they stand in. -/

namespace Treewalk

def Number.text : Number → String
  | .int n => n.repr
  | .double x => x.text

namespace Document

inductive Layout where
  | compact
  | indented
  deriving DecidableEq

/-- What stands before an item or a closing bracket at a given level. -/
def Layout.lineBreak (layout : Layout) (level : Nat) : String :=
  match layout with
  | compact => ""
  | indented => String.ofList ('\n' :: List.replicate (2 * level) ' ')

/-- What stands between a name and its value. -/
def Layout.colon : Layout → String
  | compact => ":"
  | indented => ": "

/-- A document to be written after `front`, inside `level` containers. -/
structure PrintJob where
  document : Document
  level : Nat
  front : String

abbrev Printing := Walk fun _ : PrintJob => String

/-- Writes the rest of the items of an array, after a bracket or comma that is still due. -/
def printItems (layout : Layout) (level : Nat) (due : String) : List Document → String →
    Printing String
  | [], front => return front ++ layout.lineBreak level ++ "]"
  | d :: rest, front => do
    let front ← Walk.ask ⟨d, level + 1, front ++ due ++ layout.lineBreak (level + 1)⟩
    printItems layout level "," rest front

/-- Writes the rest of the members of an object, after a bracket or comma that is still due. -/
def printMembers (layout : Layout) (level : Nat) (due : String) : List (String × Document) →
    String → Printing String
  | [], front => return front ++ layout.lineBreak level ++ "\x7d"
  | (name, d) :: rest, front => do
    let front := front ++ due ++ layout.lineBreak (level + 1)
    let front := Text.appendQuoted Text.documentChar front name ++ layout.colon
    let front ← Walk.ask ⟨d, level + 1, front⟩
    printMembers layout level "," rest front

def printBody (layout : Layout) : PrintJob → Printing String
  | ⟨null, _, front⟩ => return front ++ "null"
  | ⟨bool b, _, front⟩ => return front ++ (if b then "true" else "false")
  | ⟨number n, _, front⟩ => return front ++ n.text
  | ⟨text s, _, front⟩ => return Text.appendQuoted Text.documentChar front s
  | ⟨array [], _, front⟩ => return front ++ "[]"
  | ⟨array items, level, front⟩ => printItems layout level "[" items front
  | ⟨object [], _, front⟩ => return front ++ "\x7b\x7d"
  | ⟨object members, level, front⟩ => printMembers layout level "\x7b" members front

private theorem visits_printItems {p : PrintJob → Prop} (layout : Layout) (level : Nat)
    (items : List Document) (hp : ∀ d ∈ items, ∀ l f, p ⟨d, l, f⟩) (due front : String) :
    (printItems layout level due items front).Visits p := by
  induction items generalizing due front with
  | nil => trivial
  | cons d rest ih =>
    exact Walk.visits_bind (Walk.visits_ask.2 (hp d List.mem_cons_self _ _)) fun front =>
      ih (fun d hd => hp d (List.mem_cons_of_mem _ hd)) _ front

private theorem visits_printMembers {p : PrintJob → Prop} (layout : Layout) (level : Nat)
    (members : List (String × Document)) (hp : ∀ m ∈ members, ∀ l f, p ⟨m.2, l, f⟩)
    (due front : String) : (printMembers layout level due members front).Visits p := by
  induction members generalizing due front with
  | nil => trivial
  | cons m rest ih =>
    exact Walk.visits_bind (Walk.visits_ask.2 (hp m List.mem_cons_self _ _)) fun front =>
      ih (fun m hm => hp m (List.mem_cons_of_mem _ hm)) _ front

/-- Writing goes from a document to what it holds. -/
def printing (layout : Layout) : Traversal fun _ : PrintJob => String where
  body := printBody layout
  below a b := sizeOf a.document < sizeOf b.document
  below_wf := (measure fun j : PrintJob => sizeOf j.document).wf
  visits_body := by
    intro ⟨d, level, front⟩
    cases d with
    | null | bool _ | number _ | text _ => trivial
    | array items =>
      cases items with
      | nil => trivial
      | cons d rest =>
        exact visits_printItems layout level _ (fun _ hd _ _ => sizeOf_item_lt hd) _ _
    | object members =>
      cases members with
      | nil => trivial
      | cons m rest =>
        refine visits_printMembers layout level _ (fun m hm _ _ => ?_) _ _
        have := List.sizeOf_lt_of_mem hm
        obtain ⟨name, d⟩ := m
        simp only [Prod.mk.sizeOf_spec, object.sizeOf_spec] at this ⊢
        omega

/-- The text of a document. -/
def print (layout : Layout) (d : Document) : String :=
  (printing layout).answer ⟨d, 0, ""⟩

end Document

end Treewalk
