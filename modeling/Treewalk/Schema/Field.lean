import Treewalk.Document.Printer
import Treewalk.Term

/-! # Fields of a program document

How the parts of a term that are not terms are read from a document: integers, booleans, texts,
locations and parameters. A location or parameter is an object, whose further members are ignored,
or an array of exactly its parts in their order. -/

namespace Treewalk.Schema

/-- What a field was expected to hold. -/
inductive Want where
  | int32 | nat64 | boolean | string | sequence | location | parameter
  deriving DecidableEq

def Want.text : Want → String
  | int32 => "i32"
  | nat64 => "usize"
  | boolean => "a boolean"
  | string => "a string"
  | sequence => "a sequence"
  | location => "struct RawLocation"
  | parameter => "struct RawParameter"

/-- The number of parts, for what may be given as an array of them. -/
def Want.partCount : Want → Nat
  | location => 3
  | parameter => 2
  | _ => 0

/-- What a document is, in a message on its not being what was expected. -/
inductive Got where
  | null
  | boolean (b : Bool)
  | number (n : Number)
  | string (s : String)
  | sequence
  | map
  deriving DecidableEq

def Got.ofDocument : Document → Got
  | .null => null
  | .bool b => boolean b
  | .number n => number n
  | .text s => string s
  | .array _ => sequence
  | .object _ => map

def Got.text : Got → String
  | null => "null"
  | boolean b => "boolean `" ++ (if b then "true" else "false") ++ "`"
  | number (.int n) => "integer `" ++ n.repr ++ "`"
  | number (.double x) => "floating point `" ++ x.text ++ "`"
  | string s => "string " ++ Text.shown s
  | sequence => "sequence"
  | map => "map"

/-- Why a field cannot be read. -/
inductive Reason where
  | notAString
  | notTerms
  | invalidType (got : Got) (want : Want)
  | outOfRange (n : Int) (want : Want)
  | missing (name : String)
  | tooFew (count : Nat) (want : Want)
  | tooMany (count : Nat)
  deriving DecidableEq

def Reason.message : Reason → String
  | notAString => "expected a string"
  | notTerms => "expected an array of terms"
  | invalidType got want => "invalid type: " ++ got.text ++ ", expected " ++ want.text
  | outOfRange n want => "invalid value: integer `" ++ n.repr ++ "`, expected " ++ want.text
  | missing name => "missing field `" ++ name ++ "`"
  | tooFew count want =>
    "invalid length " ++ count.repr ++ ", expected " ++ want.text ++ " with " ++
      want.partCount.repr ++ " elements"
  | tooMany count => "invalid length " ++ count.repr ++ ", expected fewer elements in array"

/-- The failure to read `d` as `want`. -/
def wrongType {α : Type} (d : Document) (want : Want) : Except Reason α :=
  .error (.invalidType (.ofDocument d) want)

def readInt32 : Document → Except Reason Int32
  | .number (.int n) =>
    if -2147483648 ≤ n ∧ n < 2147483648 then .ok (Int32.ofInt n) else .error (.outOfRange n .int32)
  | d => wrongType d .int32

def readNat64 : Document → Except Reason Nat
  | .number (.int n) =>
    if 0 ≤ n ∧ n < 18446744073709551616 then .ok n.toNat else .error (.outOfRange n .nat64)
  | d => wrongType d .nat64

def readBool : Document → Except Reason Bool
  | .bool b => .ok b
  | d => wrongType d .boolean

def readString : Document → Except Reason String
  | .text s => .ok s
  | d => wrongType d .string

/-- Reads a member if it is there. -/
def readMember? {α : Type} (read : Document → Except Reason α) (name : String)
    (members : List (String × Document)) : Except Reason (Option α) :=
  match Document.member? name members with
  | some d => (read d).map some
  | none => .ok none

/-- The value of a member that has to be there. -/
def require {α : Type} (name : String) : Option α → Except Reason α
  | some a => .ok a
  | none => .error (.missing name)

/-- A location. Members that are there are read in the order of their names before one is missed. -/
def readLocation : Document → Except Reason Location
  | .object members => do
    let stop ← readMember? readNat64 "end" members
    let filename ← readMember? readString "filename" members
    let start ← readMember? readNat64 "start" members
    return ⟨← require "start" start, ← require "end" stop, ← require "filename" filename⟩
  | .array [] => .error (.tooFew 0 .location)
  | .array (start :: rest) => do
    let start ← readNat64 start
    match rest with
    | [] => .error (.tooFew 1 .location)
    | stop :: rest =>
      let stop ← readNat64 stop
      match rest with
      | [] => .error (.tooFew 2 .location)
      | filename :: rest =>
        let filename ← readString filename
        if rest.isEmpty then return ⟨start, stop, filename⟩
        else .error (.tooMany (rest.length + 3))
  | d => wrongType d .location

/-- A parameter, read as a location is. -/
def readParameter : Document → Except Reason Parameter
  | .object members => do
    let location ← readMember? readLocation "location" members
    let name ← readMember? readString "text" members
    return ⟨← require "text" name, ← require "location" location⟩
  | .array [] => .error (.tooFew 0 .parameter)
  | .array (name :: rest) => do
    let name ← readString name
    match rest with
    | [] => .error (.tooFew 1 .parameter)
    | location :: rest =>
      let location ← readLocation location
      if rest.isEmpty then return ⟨name, location⟩ else .error (.tooMany (rest.length + 2))
  | d => wrongType d .parameter

def readParameters : Document → Except Reason (List Parameter)
  | .array items => items.mapM readParameter
  | d => wrongType d .sequence

end Treewalk.Schema
