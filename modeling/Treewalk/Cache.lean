import Std.Data.HashMap
import Std.Data.HashMap.Lemmas
import Treewalk.Value

/-! # The cache of calls

A call of a function on primitive arguments has a signature, a text made of what names the function
and of the texts of the arguments. The cache remembers results under their signatures and counts how
often it was asked with and without success. Two calls may share a signature: the text does not
tell the integer `1` from the text `"1"`, nor an argument with a comma from two arguments. -/

namespace Treewalk

/-- Separates the parts of a signature. -/
def Signature.delimiter : String := ","

/-- What stands for the function in a signature: the name it is called by, or the place of its
definition. -/
def Signature.ofCallee (callee : Term) (closure : Location) : String :=
  match callee with
  | .var name _ => name
  | _ => closure.start.repr ++ delimiter ++ closure.stop.repr

/-- The signature of a call, if every argument is primitive. -/
def signature? (callee : Term) (closure : Location) (arguments : List Value) : Option String :=
  arguments.foldlM
    (fun text v => v.primitiveText?.map fun t => text ++ t ++ Signature.delimiter)
    (Signature.ofCallee callee closure ++ Signature.delimiter)

structure Cache where
  entries : Std.HashMap String Value
  hits : Nat
  misses : Nat

namespace Cache

def empty : Cache := ⟨∅, 0, 0⟩

instance : EmptyCollection Cache := ⟨empty⟩

instance : Inhabited Cache := ⟨empty⟩

def size (c : Cache) : Nat := c.entries.size

/-- The result remembered under `key`, and the cache with the question counted. -/
def get? (c : Cache) (key : String) : Option Value × Cache :=
  match c.entries[key]? with
  | some v => (some v, { c with hits := c.hits + 1 })
  | none => (none, { c with misses := c.misses + 1 })

def insert (c : Cache) (key : String) (v : Value) : Cache :=
  { c with entries := c.entries.insert key v }

@[simp] theorem get?_fst (c : Cache) (key : String) : (c.get? key).1 = c.entries[key]? := by
  unfold get?
  split <;> simp_all

@[simp] theorem entries_get?_snd (c : Cache) (key : String) :
    (c.get? key).2.entries = c.entries := by
  unfold get?
  split <;> rfl

theorem get?_of_some {c : Cache} {key : String} {v : Value} (h : c.entries[key]? = some v) :
    (c.get? key).2 = { c with hits := c.hits + 1 } := by
  unfold get?
  rw [h]

theorem get?_of_none {c : Cache} {key : String} (h : c.entries[key]? = none) :
    (c.get? key).2 = { c with misses := c.misses + 1 } := by
  unfold get?
  rw [h]

@[simp] theorem entries_empty : (∅ : Cache).entries = ∅ := rfl

@[simp] theorem entries_insert (c : Cache) (key : String) (v : Value) :
    (c.insert key v).entries = c.entries.insert key v := rfl

/-- Forgets all results and counts. -/
def clear (_ : Cache) : Cache := empty

/-- The numbers of results, of hits and of misses. -/
def counts (c : Cache) : Nat × Nat × Nat := (c.size, c.hits, c.misses)

end Cache

end Treewalk
