/-
# The fields of an instruction word

| field | bits of the word | meaning |
| --- | --- | --- |
| `kind` | 12–15 | leading nibble |
| `x` | 8–11 | first register |
| `y` | 4–7 | second register |
| `n` | 0–3 | low nibble |
| `nn` | 0–7 | low byte |
| `nnn` | 0–11 | address |

A word is an integer of any size and sign; the fields look at its low sixteen
bits in two's complement.
-/

namespace ChipEight

/-- An instruction word taken apart. -/
structure Fields where
  kind : Fin 16
  x : Fin 16
  y : Fin 16
  n : Fin 16
  deriving DecidableEq, Repr

namespace Fields

/-- The low byte. -/
def nn (f : Fields) : Nat := 16 * f.y + f.n

/-- The low twelve bits. -/
def nnn (f : Fields) : Nat := 256 * f.x + 16 * f.y + f.n

theorem toNat_emod_lt (word : Int) (weight : Nat) : (word / weight % 16).toNat < 16 := by
  omega

/-- The nibble of `word` that starts at the bit whose weight is `weight`. -/
def nibble (word : Int) (weight : Nat) : Fin 16 :=
  ⟨(word / weight % 16).toNat, toNat_emod_lt word weight⟩

/-- The fields of a word. -/
def ofWord (word : Int) : Fields where
  kind := nibble word 4096
  x := nibble word 256
  y := nibble word 16
  n := nibble word 1

/-- The sixteen-bit word with these fields. -/
def toWord (f : Fields) : Nat := 4096 * f.kind + f.nnn

theorem nn_lt (f : Fields) : f.nn < 256 := by
  have := f.y.isLt; have := f.n.isLt; unfold nn; omega

theorem nnn_lt (f : Fields) : f.nnn < 4096 := by
  have := f.x.isLt; have := f.y.isLt; have := f.n.isLt; unfold nnn; omega

/-- **Nothing of the low sixteen bits is lost.** -/
theorem toWord_ofWord (word : Int) : ((ofWord word).toWord : Int) = word % 65536 := by
  simp only [toWord, nnn, ofWord, nibble]
  omega

end Fields
end ChipEight
