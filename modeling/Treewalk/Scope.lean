import Std.Data.TreeMap
import Std.Data.TreeMap.Lemmas
import Treewalk.Value

/-! # Scopes

A scope maps names to values. It is a value itself: a call works on the caller's scope as it stood
when the call began, and what the call binds there never reaches the caller. -/

namespace Treewalk

structure Scope where
  bindings : Std.TreeMap String Value

namespace Scope

def empty : Scope := ⟨∅⟩

instance : EmptyCollection Scope := ⟨empty⟩

instance : Inhabited Scope := ⟨empty⟩

/-- The value bound to `name`. -/
def lookup? (s : Scope) (name : String) : Option Value := s.bindings[name]?

/-- Binds `name` to `v` in place of any earlier binding. -/
def bind (s : Scope) (name : String) (v : Value) : Scope := ⟨s.bindings.insert name v⟩

/-- The number of names bound. -/
def size (s : Scope) : Nat := s.bindings.size

/-- The bindings of a list, a later one in place of an earlier one. -/
def ofList (l : List (String × Value)) : Scope := l.foldl (fun s b => s.bind b.1 b.2) ∅

@[simp] theorem lookup?_empty (name : String) : (∅ : Scope).lookup? name = none :=
  Std.TreeMap.getElem?_emptyc

theorem lookup?_bind (s : Scope) (x : String) (v : Value) (y : String) :
    (s.bind x v).lookup? y = if x = y then some v else s.lookup? y := by
  simp only [lookup?, bind, Std.TreeMap.getElem?_insert, Std.LawfulEqCmp.compare_eq_iff_eq]

@[simp] theorem lookup?_bind_self (s : Scope) (x : String) (v : Value) :
    (s.bind x v).lookup? x = some v := by
  rw [lookup?_bind, if_pos rfl]

theorem lookup?_bind_of_ne (s : Scope) {x y : String} (h : x ≠ y) (v : Value) :
    (s.bind x v).lookup? y = s.lookup? y := by
  rw [lookup?_bind, if_neg h]

end Scope

end Treewalk
