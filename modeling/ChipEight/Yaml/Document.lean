/-
# The value of a document

Every node is made into a value by its tag. A collection is first made empty and
filled later, in the order in which collections are met, so that a node may contain
itself; what is found wrong first is what is reported (`Build.run`). Values are
then put together from the parts (`Build.value`), an inner occurrence of a node
inside itself standing empty.

Before a mapping is filled, each merge key in it is replaced by the pairs of the
mappings it names, which give way to the pairs written out.
-/

import ChipEight.Value
import ChipEight.Yaml.Graph

namespace ChipEight.Yaml

namespace Scalar

/-- The characters of a number without underscores and sign, and the sign. -/
def bareNumber (text : String) : Except ScalarError (Bool × List Char) :=
  match text.toList.filter (· ≠ '_') with
  | [] => .error .emptyNumber
  | '-' :: cs => .ok (true, cs)
  | '+' :: cs => .ok (false, cs)
  | cs => .ok (false, cs)

/-- The text in parts, cut at colons. -/
def parts (cs : List Char) : List (List Char) := cs.splitOn ':'

/-- An integer in a base. -/
def readBase (base : Nat) (cs : List Char) : Except ScalarError Int :=
  match Numeral.readIntBase base (Numeral.plain (String.ofList cs)) with
  | .ok n => .ok n
  | .error _ => .error .badNumber

/-- An integer: by its front in base 2, 16 or 8, by colons in base 60, else decimal. -/
def readInt (text : String) : Except ScalarError Int := do
  let (negative, cs) ← bareNumber text
  let n ← (match cs with
    | ['0'] => pure 0
    | '0' :: 'b' :: cs => readBase 2 cs
    | '0' :: 'x' :: cs => readBase 16 cs
    | '0' :: _ => readBase 8 cs
    | [] => throw .emptyNumber
    | cs => do
      if cs.contains ':' then
        let digits ← (parts cs).mapM (readBase 10)
        return digits.foldl (fun n digit => 60 * n + digit) 0
      else readBase 10 cs)
  return if negative then -n else n

/-- A real number in plain decimal. -/
def readDecimal (cs : List Char) : Except ScalarError Float :=
  match Numeral.readReal (String.ofList cs) with
  | some x => .ok x
  | none => .error .badNumber

/-- The sum of digits in base 60, the lowest first, from a power of 60 on. -/
def sumBase60 (total : Float) (power : Nat) : List Float → Except ScalarError Float
  | [] => .ok total
  | digit :: rest =>
    match Numeral.Double.ofInt? power with
    | none => .error .tooLarge
    | some weight => sumBase60 (total + digit * weight) (60 * power) rest

/-- A real number: infinity, no number, by colons in base 60, else decimal. -/
def readFloat (text : String) : Except ScalarError Float := do
  let (negative, cs) ← bareNumber (text.map Char.toLower)
  let sign : Float := if negative then -1 else 1
  if cs = ".inf".toList then return sign * Numeral.infinity
  else if cs = ".nan".toList then return Numeral.notANumber
  else if cs.contains ':' then
    return sign * (← sumBase60 0 1 (← (parts cs).mapM readDecimal).reverse)
  else return sign * (← readDecimal cs)

/-- A truth value. -/
def readBool (text : String) : Except ScalarError Bool :=
  let name := text.map Char.toLower
  if ["yes", "true", "on"].contains name then .ok true
  else if ["no", "false", "off"].contains name then .ok false
  else .error .badTruth

/-- A point in time. -/
def readTime (text : String) : Except ScalarError Value :=
  match Stamp.read false text.toList with
  | none => .error .noDate
  | some stamp =>
    if stamp.exists? then .ok (if stamp.clock?.isSome then .moment else .date)
    else .error .badDate

/-- The value of a character that carries six bits. -/
def sixBits? (c : Char) : Option Nat :=
  if 'A' ≤ c ∧ c ≤ 'Z' then some (c.toNat - 'A'.toNat)
  else if 'a' ≤ c ∧ c ≤ 'z' then some (c.toNat - 'a'.toNat + 26)
  else if '0' ≤ c ∧ c ≤ '9' then some (c.toNat - '0'.toNat + 52)
  else if c = '+' then some 62
  else if c = '/' then some 63
  else none

/-- The bytes of characters that carry six bits each. Other characters are passed
over; padding that completes a group of four ends the data, and a group must not
end in the middle. `place` counts the characters of the group, `carry` holds the
bits left over, and `pads` counts the padding just seen. -/
def readBinary (place carry pads : Nat) : List Char → Option (List UInt8)
  | [] => if place = 0 then some [] else none
  | c :: cs =>
    if c = '=' then
      if 2 ≤ place ∧ 4 ≤ place + pads + 1 then some []
      else readBinary place carry (if 2 ≤ place then pads + 1 else pads) cs
    else
      match sixBits? c with
      | none => readBinary place carry pads cs
      | some bits =>
        match place with
        | 0 => readBinary 1 bits 0 cs
        | 1 => (readBinary 2 (bits % 16) 0 cs).map (UInt8.ofNat (4 * carry + bits / 16) :: ·)
        | 2 => (readBinary 3 (bits % 4) 0 cs).map (UInt8.ofNat (16 * carry + bits / 4) :: ·)
        | _ => (readBinary 0 0 0 cs).map (UInt8.ofNat (64 * carry + bits) :: ·)

end Scalar

/-- A node made into a value: a scalar as it is, or the parts of a collection. -/
inductive Part
  | scalar (value : Value)
  | list (items : List Nat)
  | pairs (entries : List (Nat × Nat))
  | set (keys : List Nat)
  | map (entries : List (Nat × Nat))

/-- The nodes made so far, and the collections still to be filled. -/
structure Build where
  nodes : Array Node
  parts : Array (Option Part)
  /-- Collections met but not filled, in order. -/
  waiting : List Nat := []

/-- A step of the making. -/
abbrev Builder := StateT Build (Except Error)

namespace Build

/-- The node of a number. -/
def node (id : Nat) : Builder Node := do
  match (← get).nodes[id]? with
  | some n => return n
  | none => throw .malformed

/-- The text of a scalar. A mapping with a default key stands for the value of that
key. -/
def scalarText (id : Nat) : Nat → Builder Text
  | 0 => throw (.scalar .endless)
  | fuel + 1 => do
    match (← node id).content with
    | .scalar text => return text
    | .sequence _ => throw .malformed
    | .mapping pairs =>
      let nodes := (← get).nodes
      match pairs.find? fun (key, _) => nodes[key]?.any fun n => n.tag = .default with
      | some (_, value) => scalarText value fuel
      | none => throw .malformed

/-- A refused scalar as an error of the document. -/
def ofScalar {α : Type} : Except ScalarError α → Builder α
  | .ok a => return a
  | .error e => throw (.scalar e)

/-- The items of a node that must be a sequence. -/
def items (id : Nat) : Builder (List Nat) := do
  match (← node id).content with
  | .sequence items => return items
  | _ => throw .malformed

/-- The pairs of a node that must be a mapping. -/
def pairs (id : Nat) : Builder (List (Nat × Nat)) := do
  match (← node id).content with
  | .mapping pairs => return pairs
  | _ => throw .malformed

/-- Gives a mapping other pairs. -/
def setPairs (id : Nat) (pairs : List (Nat × Nat)) : Builder Unit :=
  modify fun b => { b with
    nodes := b.nodes.modify id fun n => { n with content := .mapping pairs } }

/-- Replaces the merge keys of a mapping by the pairs they name, and makes its
default keys plain text. The pairs from `index` on are still to be looked at, and
`merged` are the pairs found so far. -/
def flatten (id index : Nat) (merged : List (Nat × Nat)) : Nat → Builder Unit
  | 0 => throw .malformed
  | fuel + 1 => do
    let own ← pairs id
    match own[index]? with
    | none => if !merged.isEmpty then setPairs id (merged ++ own)
    | some (key, value) =>
      match (← node key).tag with
      | .merge =>
        setPairs id (own.eraseIdx index)
        let found ← (do
          match (← node value).content with
          | .mapping _ =>
            flatten value 0 [] fuel
            pairs value
          | .sequence subs =>
            let each ← subs.mapM fun sub => do
              discard (pairs sub)
              flatten sub 0 [] fuel
              pairs sub
            return each.reverse.flatten
          | .scalar _ => throw .malformed)
        flatten id index (merged ++ found) fuel
      | .default =>
        modify fun b => { b with nodes := b.nodes.modify key fun n => { n with tag := .text } }
        flatten id (index + 1) merged fuel
      | _ => flatten id (index + 1) merged fuel

/-- Notes what a node was made into. -/
def setPart (id : Nat) (part : Part) : Builder Unit :=
  modify fun b => { b with parts := b.parts.setIfInBounds id (some part) }

/-- Makes a collection empty, to be filled in its turn. -/
def postpone (id : Nat) (empty : Part) : Builder Unit := do
  setPart id empty
  modify fun b => { b with waiting := b.waiting ++ [id] }

/-- Makes a node, if it is not made yet. -/
def make (id : Nat) : Builder Unit := do
  if (← get).parts[id]?.any Option.isSome then return
  let n ← node id
  let text : Builder Text := do scalarText id ((← get).nodes.size + 1)
  let shown : Builder String := do return (← text).shown
  match n.tag with
  | .null => discard text; setPart id (.scalar .null)
  | .bool => setPart id (.scalar (.bool (← ofScalar (Scalar.readBool (← shown)))))
  | .int => setPart id (.scalar (.int (← ofScalar (Scalar.readInt (← shown)))))
  | .float => setPart id (.scalar (.float (← ofScalar (Scalar.readFloat (← shown)))))
  | .text => setPart id (.scalar (.text (← text)))
  | .binary =>
    let s ← shown
    if !s.toList.all fun c => c.toNat < 128 then throw .malformed
    match Scalar.readBinary 0 0 0 s.toList with
    | some bytes => setPart id (.scalar (.bytes bytes))
    | none => throw .malformed
  | .timestamp =>
    discard text
    match n.content with
    | .scalar s => setPart id (.scalar (← ofScalar (Scalar.readTime s.shown)))
    | _ => throw (.scalar .dateOfCollection)
  | .seq => postpone id (.list [])
  | .orderedMap | .pairs => postpone id (.pairs [])
  | .set => postpone id (.set [])
  | .map => postpone id (.map [])
  | .merge | .default | .other _ => throw .malformed

/-- A node that has been made can be a key. -/
def isKey (id : Nat) : Builder Bool := do
  match (← get).parts[id]? with
  | some (some (.scalar _)) => return true
  | _ => return false

/-- The pairs of a mapping after merging, with keys and values made. -/
def fillPairs (id : Nat) : Builder (List (Nat × Nat)) := do
  discard (pairs id)
  let b ← get
  let total : Nat := b.nodes.foldl (fun n node =>
    match node.content with
    | .mapping ps => n + ps.length + 1
    | _ => n + 1) 2
  flatten id 0 [] (total * total)
  let entries ← pairs id
  for (key, value) in entries do
    make key
    if !(← isKey key) then throw .malformed
    make value
  return entries

/-- Fills a collection. -/
def fill (id : Nat) : Builder Unit := do
  match (← node id).tag with
  | .seq =>
    let items ← items id
    for item in items do make item
    setPart id (.list items)
  | .map => setPart id (.map (← fillPairs id))
  | .set => setPart id (.set ((← fillPairs id).map Prod.fst))
  | _ =>
    let entries ← (← items id).mapM fun item => do
      match ← pairs item with
      | [(key, value)] =>
        make key
        make value
        return (key, value)
      | _ => throw .malformed
    setPart id (.pairs entries)

/-- Fills the waiting collections and those met on the way. -/
def fillAll : Nat → Builder Unit
  | 0 => return ()
  | fuel + 1 => do
    let b ← get
    match b.waiting with
    | [] => return ()
    | id :: rest =>
      set { b with waiting := rest }
      fill id
      fillAll fuel

/-- Makes everything that a node reaches. -/
def run (g : Graph) : Except Error Build := do
  let start : Build := ⟨g.nodes, Array.replicate g.nodes.size none, []⟩
  let ((), b) ← (do make g.root; fillAll (g.nodes.size + 1)).run start
  return b

/-- Values already put together. -/
abbrev Values := StateM (Array (Option Value))

/-- The value of a node, which is empty while it is put together. -/
def value (parts : Array (Option Part)) (id : Nat) : Nat → Values Value
  | 0 => return .null
  | fuel + 1 => do
    if let some (some v) := (← get)[id]? then return v
    let keep (v : Value) : Values Unit := modify fun vs => vs.setIfInBounds id (some v)
    let v ← (match parts[id]?.join with
      | none => pure .null
      | some (.scalar v) => pure v
      | some (.list ids) => do
        keep (.list [])
        return .list (← ids.mapM fun i => value parts i fuel)
      | some (.pairs entries) => do
        keep (.list [])
        return .list (← entries.mapM fun (k, w) => do
          return .list [← value parts k fuel, ← value parts w fuel])
      | some (.set ids) => do
        keep (.set [])
        return .set (← ids.mapM fun i => value parts i fuel)
      | some (.map entries) => do
        keep (.map [])
        return .ofEntries (← entries.mapM fun (k, w) => do
          return (← value parts k fuel, ← value parts w fuel)))
    keep v
    return v

end Build

/-- The value of the document in a text; null if there is none. -/
def load (text : String) : Except Error Value := do
  match ← Graph.ofTokens (Tokens.ofText text.toList) with
  | none => return .null
  | some g =>
    let b ← Build.run g
    return ((Build.value b.parts g.root (g.nodes.size + 1)).run
      (Array.replicate g.nodes.size none)).1

end ChipEight.Yaml
