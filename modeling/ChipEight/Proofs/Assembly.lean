/-
# What an assembly text tells

The text of an instruction is a line of a mnemonic and operands (`Opcode.text_eq_line`). A
line falls apart into these at its blanks, without the commas (`Assembly.words_line`), and an
operand is known by how it is written (`Operand.text_injective`):

| operand | text | length |
| --- | --- | ---: |
| register | `V` and a digit | 2 |
| address | `0x` and three digits | 5 |
| byte | `0x` and two digits | 4 |
| count | decimal digits | 1, 2 |
| place | `I`, `[I]`, `DT`, `ST`, `K`, `F`, `B` | 1–3 |

The mnemonic and the kinds of the operands tell the operation (`Opcode.eq_of_kinds`), and what
an instruction does is up to the operands (`Machine.execute_congr`). The second register of a
shift is not among them, nor are the bits of a word above the sixteenth: they are not written
and nothing depends on them. A word of no operation is written whole.
-/

import ChipEight.Machine.Execute
import ChipEight.Proofs.Encodings
import ChipEight.Proofs.Hexadecimal

namespace ChipEight

open Numeral (hex hex_injective length_hex plain_hex)

/-! ## Lines and words -/

namespace Assembly

/-- A line of assembly. -/
def line (name : String) : List String → String
  | [] => name
  | operand :: rest => name ++ " " ++ ", ".intercalate (operand :: rest)

/-- The words of a text: what stands between the blanks, without the commas. -/
def words (text : String) : List (List Char) :=
  (text.toList.filter (· ≠ ',')).splitOn ' '

/-- A text of one word. -/
def Plain (text : String) : Prop := ∀ c ∈ text.toList, c ≠ ' ' ∧ c ≠ ','

instance (text : String) : Decidable (Plain text) := List.decidableBAll _ text.toList

theorem Plain.filter {text : String} (h : Plain text) :
    text.toList.filter (· ≠ ',') = text.toList :=
  List.filter_eq_self.2 fun c hc => decide_eq_true (h c hc).2

/-- Without the commas a list is parted by blanks alone. -/
theorem filter_intercalate {parts : List String} (h : ∀ part ∈ parts, Plain part) :
    (", ".intercalate parts).toList.filter (· ≠ ',') = (" ".intercalate parts).toList := by
  induction parts with
  | nil => rfl
  | cons part rest ih =>
    obtain ⟨hpart, hrest⟩ := List.forall_mem_cons.1 h
    cases rest with
    | nil => rw [String.intercalate_singleton, String.intercalate_singleton, hpart.filter]
    | cons next rest =>
      rw [String.intercalate_cons_cons, String.intercalate_cons_cons, String.toList_append,
        String.toList_append, List.filter_append, List.filter_append, hpart.filter, ih hrest,
        String.toList_append, String.toList_append]
      rfl

/-- **A line falls apart into its name and its operands.** -/
theorem words_line {name : String} {operands : List String} (hname : Plain name)
    (h : ∀ operand ∈ operands, Plain operand) :
    words (line name operands) = (name :: operands).map String.toList := by
  have hfilter : (line name operands).toList.filter (· ≠ ',')
      = [' '].intercalate ((name :: operands).map String.toList) := by
    cases operands with
    | nil => rw [line, hname.filter, List.map_singleton, List.intercalate_singleton]
    | cons operand rest =>
      rw [line, String.toList_append, List.filter_append, filter_intercalate h,
        String.toList_append, List.filter_append, hname.filter]
      simp
  have hparts : ∀ part ∈ name :: operands, Plain part := List.forall_mem_cons.2 ⟨hname, h⟩
  rw [words, hfilter, List.splitOn_intercalate ' ' _ (by simp)]
  intro part hpart hblank
  obtain ⟨part, hmem, rfl⟩ := List.mem_map.1 hpart
  exact (hparts part hmem ' ' hblank).1 rfl

/-- **Lines that are alike have their parts alike.** -/
theorem line_inj {name name' : String} {operands operands' : List String} (hname : Plain name)
    (hname' : Plain name') (h : ∀ operand ∈ operands, Plain operand)
    (h' : ∀ operand ∈ operands', Plain operand)
    (hline : line name operands = line name' operands') :
    name = name' ∧ operands = operands' := by
  have hwords : (name :: operands).map String.toList = (name' :: operands').map String.toList := by
    rw [← words_line hname h, ← words_line hname' h', hline]
  exact List.cons.inj ((List.map_inj_right fun _ _ h => String.toList_injective h).1 hwords)

end Assembly

open Assembly

/-! ## Operands -/

/-- The operands that no number goes with. -/
inductive Place
  | index | target | delay | sound | key | glyph | decimal
  deriving DecidableEq

namespace Place

/-- A place in assembly notation. -/
def text : Place → String
  | index => "I"
  | target => "[I]"
  | delay => "DT"
  | sound => "ST"
  | key => "K"
  | glyph => "F"
  | decimal => "B"

def all : List Place := [index, target, delay, sound, key, glyph, decimal]

theorem mem_all (p : Place) : p ∈ all := by cases p <;> decide

end Place

/-- An operand of an instruction. -/
inductive Operand
  | register (r : Fin 16)
  | address (a : Fin 4096)
  | byte (b : Fin 256)
  | count (n : Fin 16)
  | place (p : Place)
  deriving DecidableEq

namespace Operand

/-- An operand in assembly notation. -/
def text : Operand → String
  | register r => Opcode.registerText r
  | address a => "0x" ++ hex 3 (a : Nat)
  | byte b => "0x" ++ hex 2 (b : Nat)
  | count n => toString (n : Nat)
  | place p => p.text

/-- The operands other than addresses and bytes. -/
def short : List Operand :=
  (List.finRange 16).map register ++ (List.finRange 16).map count ++ Place.all.map place

theorem length_text_short : ∀ o ∈ short, o.text.toList.length ≤ 3 := by decide +kernel

theorem text_inj_short : ∀ o ∈ short, ∀ o' ∈ short, o.text = o'.text → o = o' := by
  decide +kernel

/-- The length of a text tells short operands, addresses and bytes apart. -/
theorem length_cases (o : Operand) :
    o ∈ short ∧ o.text.toList.length ≤ 3 ∨ (∃ a, o = address a ∧ o.text.toList.length = 5) ∨
      ∃ b, o = byte b ∧ o.text.toList.length = 4 := by
  have hshort (h : o ∈ short) : o ∈ short ∧ o.text.toList.length ≤ 3 :=
    ⟨h, length_text_short o h⟩
  cases o with
  | register r => exact .inl (hshort (by simp [short]))
  | count n => exact .inl (hshort (by simp [short]))
  | place p => exact .inl (hshort (by simp [short, p.mem_all]))
  | address a =>
    refine .inr (.inl ⟨a, rfl, ?_⟩)
    rw [text, String.toList_append, List.length_append, length_hex (by decide) a.isLt]
    rfl
  | byte b =>
    refine .inr (.inr ⟨b, rfl, ?_⟩)
    rw [text, String.toList_append, List.length_append, length_hex (by decide) b.isLt]
    rfl

/-- **An operand is known by its text.** -/
theorem text_injective : Function.Injective text := by
  intro o o' h
  have hsame : o.text.toList.length = o'.text.toList.length := by rw [h]
  obtain ⟨hshort, hlength⟩ | ⟨a, rfl, hlength⟩ | ⟨b, rfl, hlength⟩ := o.length_cases <;>
    obtain ⟨hshort', hlength'⟩ | ⟨a', rfl, hlength'⟩ | ⟨b', rfl, hlength'⟩ := o'.length_cases
  case inl.inl => exact text_inj_short o hshort o' hshort' h
  case inr.inl.inr.inl =>
    have hnumber := hex_injective 3 ((String.append_right_inj _).1 h)
    exact congrArg address (Fin.ext (by omega))
  case inr.inr.inr.inr =>
    have hnumber := hex_injective 2 ((String.append_right_inj _).1 h)
    exact congrArg byte (Fin.ext (by omega))
  all_goals omega

theorem plain_text (o : Operand) : Plain o.text := by
  have hshort : ∀ o ∈ short, Plain o.text := by decide +kernel
  have hnumber (width : Nat) (n : Int) : Plain ("0x" ++ hex width n) := by
    intro c hc
    rw [String.toList_append] at hc
    have hmark : Plain "0x" := by decide
    exact (List.mem_append.1 hc).elim (hmark c) plain_hex
  obtain ⟨ho, -⟩ | ⟨a, rfl, -⟩ | ⟨b, rfl, -⟩ := o.length_cases
  · exact hshort o ho
  · exact hnumber 3 a
  · exact hnumber 2 b

/-- What an operand is, apart from its number. -/
inductive Kind
  | register | address | byte | count
  | place (p : Place)
  deriving DecidableEq

/-- The kind of an operand. -/
def kind : Operand → Kind
  | register _ => .register
  | address _ => .address
  | byte _ => .byte
  | count _ => .count
  | place p => .place p

end Operand

/-! ## Instructions -/

namespace Opcode

variable {op op' : Opcode} {f f' : Fields}

/-- The name of an operation in assembly notation. -/
def mnemonic : Opcode → String
  | clear => "CLS"
  | ret => "RET"
  | jump | jumpOffset => "JP"
  | call => "CALL"
  | skipEqByte | skipEqReg => "SE"
  | skipNeByte | skipNeReg => "SNE"
  | loadByte | copy | loadIndex | readDelay | waitKey | setDelay | setSound
  | glyph | decimal | store | load => "LD"
  | addByte | add | addIndex => "ADD"
  | or => "OR"
  | and => "AND"
  | xor => "XOR"
  | sub => "SUB"
  | shiftRight => "SHR"
  | subFrom => "SUBN"
  | shiftLeft => "SHL"
  | random => "RND"
  | draw => "DRW"
  | skipPressed => "SKP"
  | skipReleased => "SKNP"

/-- What an instruction names besides its operation. -/
def operands (op : Opcode) (f : Fields) : List Operand :=
  let x := Operand.register f.x
  let y := Operand.register f.y
  let address := Operand.address ⟨f.nnn, f.nnn_lt⟩
  let byte := Operand.byte ⟨f.nn, f.nn_lt⟩
  match op with
  | clear | ret => []
  | jump | call => [address]
  | skipEqByte | skipNeByte | loadByte | addByte | random => [x, byte]
  | skipEqReg | skipNeReg | copy | or | and | xor | add | sub | subFrom => [x, y]
  | shiftRight | shiftLeft | skipPressed | skipReleased => [x]
  | loadIndex => [.place .index, address]
  | jumpOffset => [.register Machine.first, address]
  | draw => [x, y, .count f.n]
  | readDelay => [x, .place .delay]
  | waitKey => [x, .place .key]
  | setDelay => [.place .delay, x]
  | setSound => [.place .sound, x]
  | addIndex => [.place .index, x]
  | glyph => [.place .glyph, x]
  | decimal => [.place .decimal, x]
  | store => [.place .target, x]
  | load => [x, .place .target]

/-- **The text of an instruction is the line of its parts.** -/
theorem text_eq_line (op : Opcode) (f : Fields) :
    op.text f = line op.mnemonic ((op.operands f).map Operand.text) := by
  apply String.toList_injective
  cases op
  case jumpOffset =>
    have hfirst : (registerText Machine.first).toList = ['V', '0'] := by decide
    simp [text, mnemonic, operands, line, Operand.text, hfirst]
  all_goals simp [text, mnemonic, operands, line, Operand.text, Place.text]

theorem plain_mnemonic (op : Opcode) : Plain op.mnemonic := by cases op <;> decide

theorem plain_operands (op : Opcode) (f : Fields) :
    ∀ operand ∈ (op.operands f).map Operand.text, Plain operand :=
  List.forall_mem_map.2 fun o _ => o.plain_text

/-- The kinds of an operation's operands. -/
def kinds (op : Opcode) : List Operand.Kind := (op.operands (Fields.ofWord 0)).map Operand.kind

theorem map_kind_operands (op : Opcode) (f : Fields) :
    (op.operands f).map Operand.kind = op.kinds := by
  cases op <;> rfl

/-- **The mnemonic and the kinds of the operands tell the operation.** -/
theorem eq_of_kinds (hname : op.mnemonic = op'.mnemonic) (hkinds : op.kinds = op'.kinds) :
    op = op' := by
  have hall : ∀ op ∈ all, ∀ op' ∈ all, op.mnemonic = op'.mnemonic → op.kinds = op'.kinds →
      op = op' := by
    decide +kernel
  exact hall op op.mem_all op' op'.mem_all hname hkinds

/-- **Instructions of one text are of one operation and have the same operands.** -/
theorem text_inj (h : op.text f = op'.text f') :
    op = op' ∧ op.operands f = op'.operands f' := by
  rw [text_eq_line, text_eq_line] at h
  obtain ⟨hname, hoperands⟩ := line_inj op.plain_mnemonic op'.plain_mnemonic
    (op.plain_operands f) (op'.plain_operands f') h
  have hoperands := (List.map_inj_right fun _ _ h => Operand.text_injective h).1 hoperands
  refine ⟨eq_of_kinds hname ?_, hoperands⟩
  rw [← op.map_kind_operands f, hoperands, op'.map_kind_operands f']

/-- No instruction is written like a word of no operation. -/
theorem text_ne_unknown (op : Opcode) (f : Fields) (word : Int) :
    op.text f ≠ "??? " ++ hex 4 word := by
  have hunknown : "??? " ++ hex 4 word = line "???" [hex 4 word] := by
    rw [line, String.intercalate_singleton]
    rfl
  have hall : ∀ op ∈ all, op.mnemonic ≠ "???" := by decide
  rw [text_eq_line, hunknown]
  intro h
  exact hall op op.mem_all (line_inj op.plain_mnemonic (by decide) (op.plain_operands f)
    (List.forall_mem_singleton.2 fun _ => plain_hex) h).1

end Opcode

/-- **What an instruction does is up to its operands.** -/
theorem Machine.execute_congr (m : Machine) {op : Opcode} {f f' : Fields}
    (hf : op.encoding.fits f = true) (hf' : op.encoding.fits f' = true)
    (h : op.operands f = op.operands f') : m.execute op f = m.execute op f' := by
  cases op
  case setSound =>
    -- the last nibble may be looked at here, and is fixed
    simp only [Opcode.encoding, Encoding.fits, Bool.and_eq_true, decide_eq_true_iff] at hf hf'
    have hn : f.n = f'.n := Fin.ext (hf.2.trans hf'.2.symm)
    simp_all [Opcode.operands, execute]
  all_goals simp_all [Opcode.operands, execute, drawSprite]

/-- **The disassembly identifies the instruction.** A word is of one operation at most, so a
table of the operations finds it in whatever order they stand. Two words that are written
alike are the same word of no operation, or of one operation that does the same with either
of them to every machine. -/
theorem disassemble_identifies :
    (∀ (word : Int) (op op' : Opcode), op.Matches word → op'.Matches word → op = op') ∧
    (∀ table : List Opcode, table.Perm Opcode.all → ∀ word : Int,
      table.find? (fun op => op.Matches word) = Opcode.ofWord? word) ∧
    ∀ word word' : Int, disassemble word = disassemble word' →
      ((∀ op : Opcode, ¬ op.Matches word) ∧ (∀ op : Opcode, ¬ op.Matches word') ∧ word = word') ∨
      ∃ op : Opcode, op.Matches word ∧ op.Matches word' ∧ ∀ m : Machine,
        m.execute op (Fields.ofWord word) = m.execute op (Fields.ofWord word') := by
  refine ⟨fun word op op' h h' => ?_, fun table => Opcode.find?_of_perm, fun word word' h => ?_⟩
  · exact Opcode.eq_of_fits (Opcode.matches_iff_fits.1 h) (Opcode.matches_iff_fits.1 h')
  unfold disassemble at h
  cases hop : Opcode.ofWord? word <;> cases hop' : Opcode.ofWord? word' <;>
    simp only [hop, hop'] at h
  case none.none =>
    have hword := hex_injective 4 ((String.append_right_inj _).1 h)
    exact .inl ⟨Opcode.ofWord?_eq_none_iff.1 hop, Opcode.ofWord?_eq_none_iff.1 hop', hword⟩
  case none.some op' => exact absurd h.symm (op'.text_ne_unknown _ _)
  case some.none op => exact absurd h (op.text_ne_unknown _ _)
  case some.some op op' =>
    obtain ⟨rfl, hoperands⟩ := Opcode.text_inj h
    have hmatches := Opcode.ofWord?_eq_some_iff.1 hop
    have hmatches' := Opcode.ofWord?_eq_some_iff.1 hop'
    exact .inr ⟨op, hmatches, hmatches', fun m => m.execute_congr
      (Opcode.matches_iff_fits.1 hmatches) (Opcode.matches_iff_fits.1 hmatches') hoperands⟩

/-- Shifts of one register with different second registers, one of them a word of more than
sixteen bits. -/
theorem disassemble_identifies_shifts :
    Opcode.shiftRight.Matches 0x8126 ∧
    Opcode.all.reverse.find? (fun op => op.Matches 0x8126) = some .shiftRight ∧
    disassemble 0x8126 = disassemble 0x18136 ∧
    Opcode.shiftRight.Matches 0x18136 ∧ ∀ m : Machine,
      m.execute .shiftRight (Fields.ofWord 0x8126)
        = m.execute .shiftRight (Fields.ofWord 0x18136) := by
  obtain ⟨hunique, htable, htext⟩ := disassemble_identifies
  have hmatches : Opcode.shiftRight.Matches 0x8126 := by decide
  have hsame : disassemble 0x8126 = disassemble 0x18136 := by decide +kernel
  refine ⟨hmatches, ?_, hsame, ?_⟩
  · rw [htable _ (List.reverse_perm _)]
    decide
  · obtain ⟨hnone, -⟩ | ⟨op, hop, hop', heffect⟩ := htext _ _ hsame
    · exact absurd hmatches (hnone _)
    · obtain rfl := hunique _ _ _ hop hmatches
      exact ⟨hop', heffect⟩

end ChipEight
