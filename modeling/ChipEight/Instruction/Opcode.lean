/-
# The instruction set

Thirty-four operations, told apart by fixed nibbles of the word
(`Opcode.encoding`). An encoding fixes the leading nibble and then nothing
else, the low nibble, the low byte, or the whole word; no word fits two of
them. `Opcode.text` writes an instruction in assembly notation.
-/

import ChipEight.Instruction.Fields
import ChipEight.Numeral.Hex

namespace ChipEight

/-- The operations. -/
inductive Opcode
  | clear | ret | jump | call
  | skipEqByte | skipNeByte | skipEqReg | loadByte | addByte
  | copy | or | and | xor | add | sub | shiftRight | subFrom | shiftLeft
  | skipNeReg | loadIndex | jumpOffset | random | draw
  | skipPressed | skipReleased
  | readDelay | waitKey | setDelay | setSound | addIndex | glyph | decimal | store | load
  deriving DecidableEq, Repr

/-- Which nibbles of a word are fixed. -/
inductive Encoding
  /-- All four. -/
  | whole (kind x y n : Nat)
  /-- The leading one. -/
  | leading (kind : Nat)
  /-- The leading and the last one. -/
  | outer (kind n : Nat)
  /-- The leading one and the low byte. -/
  | outerByte (kind y n : Nat)
  deriving DecidableEq, Repr

/-- The fields have the fixed nibbles. -/
def Encoding.fits : Encoding → Fields → Bool
  | .whole kind x y n, f => f.kind.val = kind && f.x.val = x && f.y.val = y && f.n.val = n
  | .leading kind, f => f.kind.val = kind
  | .outer kind n, f => f.kind.val = kind && f.n.val = n
  | .outerByte kind y n, f => f.kind.val = kind && f.y.val = y && f.n.val = n

namespace Opcode

/-- The nibbles by which an operation is known. -/
def encoding : Opcode → Encoding
  | clear => .whole 0 0 0xE 0
  | ret => .whole 0 0 0xE 0xE
  | jump => .leading 1
  | call => .leading 2
  | skipEqByte => .leading 3
  | skipNeByte => .leading 4
  | skipEqReg => .outer 5 0
  | loadByte => .leading 6
  | addByte => .leading 7
  | copy => .outer 8 0
  | or => .outer 8 1
  | and => .outer 8 2
  | xor => .outer 8 3
  | add => .outer 8 4
  | sub => .outer 8 5
  | shiftRight => .outer 8 6
  | subFrom => .outer 8 7
  | shiftLeft => .outer 8 0xE
  | skipNeReg => .outer 9 0
  | loadIndex => .leading 0xA
  | jumpOffset => .leading 0xB
  | random => .leading 0xC
  | draw => .leading 0xD
  | skipPressed => .outerByte 0xE 9 0xE
  | skipReleased => .outerByte 0xE 0xA 1
  | readDelay => .outerByte 0xF 0 7
  | waitKey => .outerByte 0xF 0 0xA
  | setDelay => .outerByte 0xF 1 5
  | setSound => .outerByte 0xF 1 8
  | addIndex => .outerByte 0xF 1 0xE
  | glyph => .outerByte 0xF 2 9
  | decimal => .outerByte 0xF 3 3
  | store => .outerByte 0xF 5 5
  | load => .outerByte 0xF 6 5

/-- Every operation, in the order of the encodings. -/
def all : List Opcode :=
  [clear, ret, jump, call, skipEqByte, skipNeByte, skipEqReg, loadByte, addByte,
    copy, or, and, xor, add, sub, shiftRight, subFrom, shiftLeft,
    skipNeReg, loadIndex, jumpOffset, random, draw, skipPressed, skipReleased,
    readDelay, waitKey, setDelay, setSound, addIndex, glyph, decimal, store, load]

theorem mem_all (op : Opcode) : op ∈ all := by cases op <;> decide

/-- The operation of an instruction, if there is one. -/
def ofFields? (f : Fields) : Option Opcode :=
  all.find? fun op => op.encoding.fits f

/-- The operation of a word; only the low sixteen bits count. -/
def ofWord? (word : Int) : Option Opcode :=
  ofFields? (Fields.ofWord word)

theorem fits_of_ofWord? {word : Int} {op : Opcode} (h : ofWord? word = some op) :
    op.encoding.fits (Fields.ofWord word) = true := by
  rw [ofWord?, ofFields?] at h
  simpa only using List.find?_some h

/-- A register in assembly notation. -/
def registerText (r : Fin 16) : String := "V" ++ Numeral.hex 1 (r : Nat)

/-- An instruction in assembly notation. -/
def text (op : Opcode) (f : Fields) : String :=
  let x := registerText f.x
  let y := registerText f.y
  let xy (name : String) := name ++ " " ++ x ++ ", " ++ y
  let address := "0x" ++ Numeral.hex 3 f.nnn
  let byte := "0x" ++ Numeral.hex 2 f.nn
  match op with
  | clear => "CLS"
  | ret => "RET"
  | jump => "JP " ++ address
  | call => "CALL " ++ address
  | skipEqByte => "SE " ++ x ++ ", " ++ byte
  | skipNeByte => "SNE " ++ x ++ ", " ++ byte
  | skipEqReg => xy "SE"
  | loadByte => "LD " ++ x ++ ", " ++ byte
  | addByte => "ADD " ++ x ++ ", " ++ byte
  | copy => xy "LD"
  | or => xy "OR"
  | and => xy "AND"
  | xor => xy "XOR"
  | add => xy "ADD"
  | sub => xy "SUB"
  | shiftRight => "SHR " ++ x
  | subFrom => xy "SUBN"
  | shiftLeft => "SHL " ++ x
  | skipNeReg => xy "SNE"
  | loadIndex => "LD I, " ++ address
  | jumpOffset => "JP V0, " ++ address
  | random => "RND " ++ x ++ ", " ++ byte
  | draw => xy "DRW" ++ ", " ++ toString (f.n : Nat)
  | skipPressed => "SKP " ++ x
  | skipReleased => "SKNP " ++ x
  | readDelay => "LD " ++ x ++ ", DT"
  | waitKey => "LD " ++ x ++ ", K"
  | setDelay => "LD DT, " ++ x
  | setSound => "LD ST, " ++ x
  | addIndex => "ADD I, " ++ x
  | glyph => "LD F, " ++ x
  | decimal => "LD B, " ++ x
  | store => "LD [I], " ++ x
  | load => "LD " ++ x ++ ", [I]"

end Opcode

/-- The assembly text of a word; one that is no instruction shows as itself. -/
def disassemble (word : Int) : String :=
  match Opcode.ofWord? word with
  | some op => op.text (Fields.ofWord word)
  | none => "??? " ++ Numeral.hex 4 word

end ChipEight
