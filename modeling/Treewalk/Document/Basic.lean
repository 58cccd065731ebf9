import Treewalk.Binary64

/-! # Documents

A document is a JSON value. The members of an object stand in a list; where they come from a text,
names are unique and in ascending order. -/

namespace Treewalk

/-- A number of a document. An integer is exact, any other number is rounded. -/
inductive Number where
  | int (n : Int)
  | double (x : Binary64)
  deriving DecidableEq, Inhabited

inductive Document where
  | null
  | bool (b : Bool)
  | number (n : Number)
  | text (s : String)
  | array (items : List Document)
  | object (members : List (String × Document))
  deriving Inhabited

namespace Document

/-- The member of an object with a given name. -/
def member? (name : String) (members : List (String × Document)) : Option Document :=
  members.lookup name

theorem mem_of_member? {name : String} {members : List (String × Document)} {d : Document}
    (h : member? name members = some d) : (name, d) ∈ members := by
  induction members with
  | nil => simp [member?] at h
  | cons m rest ih =>
    obtain ⟨k, v⟩ := m
    rw [member?, List.lookup_cons] at h
    split at h
    · next hk =>
      rw [eq_of_beq hk]
      simp_all
    · exact List.mem_cons_of_mem _ (ih h)

/-- What a member holds is smaller than the object. -/
theorem sizeOf_member?_lt {name : String} {members : List (String × Document)} {d : Document}
    (h : member? name members = some d) : sizeOf d < sizeOf (object members) := by
  have := List.sizeOf_lt_of_mem (mem_of_member? h)
  simp only [Prod.mk.sizeOf_spec, object.sizeOf_spec] at this ⊢
  omega

/-- An item is smaller than the array. -/
theorem sizeOf_item_lt {items : List Document} {d : Document} (h : d ∈ items) :
    sizeOf d < sizeOf (array items) := by
  have := List.sizeOf_lt_of_mem h
  simp only [array.sizeOf_spec]
  omega

end Document

end Treewalk
