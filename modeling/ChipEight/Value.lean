/-
# Values of a host

What a configuration file, a command line or a program around the machine hands
over: a value of any of the types below. The functions here say how such a value
is taken where the library wants something definite.

| wanted | taken from |
| --- | --- |
| a truth (`Value.isTrue`) | any value; empty and zero are false |
| a sequence (`Value.items?`) | a list, a text by its characters, a mapping by its keys |
| bytes (`Value.toBytes`) | a count of zero bytes, bytes, a sequence of small integers |
-/

import ChipEight.Numeral.Double
import ChipEight.Room
import ChipEight.Text

namespace ChipEight

/-- A value of one of the types that text formats know. Points in time carry
nothing, for nothing is ever read from them. -/
inductive Value
  | null
  | bool (b : Bool)
  | int (n : Int)
  | float (x : Float)
  | text (t : Text)
  | bytes (bs : List UInt8)
  | list (items : List Value)
  | set (items : List Value)
  | map (entries : List (Value × Value))
  | date
  | moment
  deriving Inhabited

namespace Value

/-- The name of a value's type in messages. -/
def typeName : Value → String
  | null => "NoneType"
  | bool _ => "bool"
  | int _ => "int"
  | float _ => "float"
  | text _ => "str"
  | bytes _ => "bytes"
  | list _ => "list"
  | set _ => "set"
  | map _ => "dict"
  | date => "datetime.date"
  | moment => "datetime.datetime"

/-- Neither empty nor zero. -/
def isTrue : Value → Bool
  | null => false
  | bool b => b
  | int n => n ≠ 0
  | float x => x != 0
  | text t => !t.isEmpty
  | bytes bs => !bs.isEmpty
  | list items => !items.isEmpty
  | set items => !items.isEmpty
  | map entries => !entries.isEmpty
  | date => true
  | moment => true

/-- The whole number that counts: an integer or a truth value. -/
def int? : Value → Option Int
  | int n => some n
  | bool b => some (if b then 1 else 0)
  | _ => none

/-- The members in order, if there are any to go through. -/
def items? : Value → Option (List Value)
  | text t => some (t.points.map fun p => text ⟨[p]⟩)
  | bytes bs => some (bs.map fun b => int b.toNat)
  | list items => some items
  | set items => some items
  | map entries => some (entries.map Prod.fst)
  | _ => none

/-- Why a value cannot be taken as what is wanted. -/
inductive Mismatch
  /-- It is of the wrong type. -/
  | wrongType
  /-- It is of the right type but out of range. -/
  | outOfRange
  /-- It is a number too large to count anything. -/
  | tooLarge
  /-- There is no room for what it counts. -/
  | noRoom
  deriving DecidableEq, Repr

/-- A whole number below 256 as a byte. -/
def toByte (v : Value) : Except Mismatch UInt8 :=
  match v.int? with
  | none => .error .wrongType
  | some n => if 0 ≤ n ∧ n < 256 then .ok (UInt8.ofInt n) else .error .outOfRange

/-- The most bytes in a row: a count of them and a head of 33 bytes can be counted
together. -/
def maxBytes : Nat := Room.maxCount - 33

/-- The number of zero bytes that an integer asks for. -/
def zeroCount (n : Int) : Except Mismatch Nat :=
  match Room.count n with
  | .error .negative => .error .outOfRange
  | .error _ => .error .tooLarge
  | .ok count =>
    if maxBytes < count then .error .tooLarge
    else if Room.most < count then .error .noRoom
    else .ok count

/-- The bytes of a count, of bytes or of a sequence of small integers. A text is
none of these. Where `enough` bytes are as good as more, no more zero bytes than that
are made. -/
def toBytes (enough : Nat) (v : Value) : Except Mismatch (List UInt8) :=
  match v with
  | bytes bs => .ok bs
  | text _ => .error .wrongType
  | _ =>
    match v.int? with
    | some n => (zeroCount n).map fun count => List.replicate (min count enough) 0
    | none =>
      match v.items? with
      | none => .error .wrongType
      | some items => items.mapM toByte

/-- The truth of each member, if the value has members. -/
def truths? (v : Value) : Option (List Bool) := v.items?.map (List.map isTrue)

/-- The number a value stands for, when it is finite: its sign and magnitude. -/
def ratio? : Value → Option (Bool × Nat × Nat)
  | int n => some (n < 0, n.natAbs, 1)
  | bool b => some (false, if b then 1 else 0, 1)
  | float x => (Numeral.Double.parts? x).map fun p => (p.negative, p.ratio)
  | _ => none

/-- Two signed quotients are the same number. -/
def sameRatio : Bool × Nat × Nat → Bool × Nat × Nat → Bool
  | (s, a, b), (t, c, d) => a * d == c * b && (s == t || a == 0)

/-- Two values that serve as the same symbol: equal texts, or equal numbers of
whatever type. A value that is not equal to itself is no symbol at all. -/
def sameSymbol (v w : Value) : Bool :=
  match v, w with
  | null, null => true
  | text s, text t => s == t
  | bytes a, bytes b => a == b
  | float x, float y => x == y
  | _, _ =>
    match v.ratio?, w.ratio? with
    | some p, some q => sameRatio p q
    | _, _ => false

instance : BEq Value := ⟨sameSymbol⟩

/-- The entries with another one, which takes the place of one of the same key. -/
def putEntry (entries : List (Value × Value)) (key v : Value) : List (Value × Value) :=
  if entries.any fun (known, _) => known == key then
    entries.map fun (known, old) => (known, if known == key then v else old)
  else entries ++ [(key, v)]

/-- The mapping of entries, of which the last of each key counts. -/
def ofEntries (entries : List (Value × Value)) : Value :=
  map (entries.foldl (fun acc (key, v) => putEntry acc key v) [])

/-- The value can stand as a symbol or as a key; collections that may change
cannot. -/
def isKey : Value → Bool
  | list _ | set _ | map _ => false
  | _ => true

end Value
end ChipEight
