/-
# Byte memory

A flat store of bytes. Addresses are integers of any size: every access is
checked against both ends before it happens, nothing wraps and a refused access
changes nothing. What is reported is the least address of the range that lies
outside.
-/

import ChipEight.Numeral.Hex
import ChipEight.Room

namespace ChipEight

/-- A flat store of bytes. -/
structure Memory where
  cells : Array UInt8
  deriving DecidableEq, Repr

namespace Memory

/-- The number of cells. -/
def size (m : Memory) : Nat := m.cells.size

/-- An access that left the memory, at the first address outside. -/
structure OutOfBounds where
  address : Int
  size : Nat
  deriving DecidableEq, Repr

/-- A memory of `size` zero bytes. -/
def blank (size : Nat) : Memory := ⟨Array.replicate size 0⟩

/-- A memory of `size` zero bytes, if there is room for it. -/
def ofSize (size : Int) : Except Room.Error Memory := do
  let size ← Room.count size
  Room.take size
  return blank size

/-- The `count` cells from `address` on all exist. A count below one stands for
the two ends alone: the address is not negative and the range does not end
outside. -/
def check (m : Memory) (address count : Int) : Except OutOfBounds Unit :=
  if address < 0 then .error ⟨address, m.size⟩
  else if m.size < address + count then .error ⟨max address m.size, m.size⟩
  else .ok ()

/-- The byte at an address inside; zero elsewhere. -/
def byte (m : Memory) (address : Nat) : UInt8 := m.cells.getD address 0

/-- The byte at `address`. -/
def read (m : Memory) (address : Int) : Except OutOfBounds UInt8 := do
  m.check address 1
  return m.byte address.toNat

/-- The word at `address`, high byte first. -/
def readWord (m : Memory) (address : Int) : Except OutOfBounds Nat := do
  m.check address 2
  return 256 * (m.byte address.toNat).toNat + (m.byte (address.toNat + 1)).toNat

/-- The cells from `start` up to `stop`, where a negative `stop` counts back from
the end of the memory. -/
def slice (m : Memory) (start : Nat) (stop : Int) : List UInt8 :=
  let stop := if stop < 0 then stop + m.size else stop
  (m.cells.extract start stop.toNat).toList

/-- The `count` bytes from `address` on. -/
def readBlock (m : Memory) (address count : Int) : Except OutOfBounds (List UInt8) := do
  m.check address count
  return m.slice address.toNat (address + count)

/-- Stores a value modulo 256. -/
def write (m : Memory) (address value : Int) : Except OutOfBounds Memory := do
  m.check address 1
  return ⟨m.cells.setIfInBounds address.toNat (UInt8.ofInt value)⟩

/-- The cells with `data` in the place of as many from `address` on. Over the end there are
fewer to replace, and the cells become more. -/
def overlay (cells : Array UInt8) (address : Nat) (data : List UInt8) : Array UInt8 :=
  (cells.toList.take address ++ data ++ cells.toList.drop (address + data.length)).toArray

/-- Stores all of `data`, or nothing of it. -/
def load (m : Memory) (address : Int) (data : List UInt8) : Except OutOfBounds Memory := do
  m.check address data.length
  return ⟨overlay m.cells address.toNat data⟩

/-- The memory with every byte zero. -/
def clear (m : Memory) : Memory := blank m.size

@[simp] theorem size_blank (n : Nat) : (blank n).size = n := by simp [blank, size]

@[simp] theorem size_clear (m : Memory) : m.clear.size = m.size := size_blank _

/-- What is reported of the `count` cells from `address` on, in a memory of `size`
cells, if they do not all exist. -/
def refusal? (size address count : Nat) : Option OutOfBounds :=
  if size < address + count then some ⟨max address size, size⟩ else none

theorem refusal?_eq_none {size address count : Nat} :
    refusal? size address count = none ↔ address + count ≤ size := by
  simp [refusal?]

theorem check_eq (m : Memory) (address count : Nat) :
    m.check address count = (refusal? m.size address count).elim (.ok ()) .error := by
  have h₀ : ¬ (address : Int) < 0 := by omega
  unfold check refusal?
  rw [if_neg h₀]
  by_cases h : m.size < address + count
  · have h₁ : (m.size : Int) < address + count := by omega
    rw [if_pos h, if_pos h₁]; rfl
  · have h₁ : ¬ (m.size : Int) < address + count := by omega
    rw [if_neg h, if_neg h₁]; rfl

/-- What passes the check lies in the memory. -/
theorem fits_of_check {m : Memory} {address : Int} {count : Nat}
    (h : m.check address count = .ok ()) : address.toNat + count ≤ m.size := by
  unfold check at h
  split at h
  · cases h
  · split at h
    · cases h
    · omega

/-- The word at an address inside. -/
def word (m : Memory) (address : Nat) : Nat :=
  256 * (m.byte address).toNat + (m.byte (address + 1)).toNat

theorem readWord_eq (m : Memory) (address : Nat) :
    m.readWord address = (refusal? m.size address 2).elim (.ok (m.word address)) .error := by
  have h : m.check address 2 = _ := m.check_eq address 2
  rw [readWord, h]
  cases refusal? m.size address 2 <;> rfl

/-- Memories of one size with the same two bytes have the same word there. -/
theorem readWord_congr {m m' : Memory} {address : Nat} (hsize : m'.size = m.size)
    (h₀ : m'.byte address = m.byte address) (h₁ : m'.byte (address + 1) = m.byte (address + 1)) :
    m'.readWord address = m.readWord address := by
  have hword : m'.word address = m.word address := by rw [word, word, h₀, h₁]
  rw [readWord_eq, readWord_eq, hsize, hword]

theorem readWord_eq_ok {m : Memory} {address word : Nat} :
    m.readWord address = .ok word ↔ address + 2 ≤ m.size ∧ m.word address = word := by
  rw [readWord_eq, ← refusal?_eq_none]
  cases refusal? m.size address 2 with
  | none => exact ⟨fun h => ⟨rfl, Except.ok.inj h⟩, fun ⟨_, h⟩ => congrArg Except.ok h⟩
  | some e => exact ⟨fun h => (nomatch h), fun ⟨h, _⟩ => (nomatch h)⟩

/-- The `count` bytes from `address` on, as far as they exist. -/
def block (m : Memory) (address count : Nat) : List UInt8 :=
  (m.cells.extract address (address + count)).toList

theorem length_block {m : Memory} {address count : Nat} (h : address + count ≤ m.size) :
    (m.block address count).length = count := by
  rw [size] at h
  simp only [block, Array.length_toList, Array.size_extract]
  omega

theorem block_eq_map {m : Memory} {address count : Nat} (h : address + count ≤ m.size) :
    m.block address count = (List.range count).map fun i => m.byte (address + i) := by
  refine List.ext_getElem ?_ fun i hi _ => ?_
  · rw [length_block h, List.length_map, List.length_range]
  · rw [length_block h] at hi
    have hlt : address + i < m.cells.size := by
      rw [size] at h
      omega
    simp [block, byte, hlt]

theorem getD_block {m : Memory} {address count i : Nat} (hi : i < count)
    (h : address + count ≤ m.size) : (m.block address count).getD i 0 = m.byte (address + i) := by
  rw [block_eq_map h, List.getD_eq_getElem?_getD, List.getElem?_map,
    List.getElem?_range hi, Option.map_some, Option.getD_some]

/-- Memories with the same bytes from an address on have the same block there. -/
theorem block_congr {m m' : Memory} {address count : Nat} (h : address + count ≤ m.size)
    (h' : address + count ≤ m'.size)
    (hbyte : ∀ i < count, m'.byte (address + i) = m.byte (address + i)) :
    m'.block address count = m.block address count := by
  rw [block_eq_map h, block_eq_map h']
  exact List.map_congr_left fun i hi => hbyte i (List.mem_range.1 hi)

theorem slice_eq_block (m : Memory) (address count : Nat) :
    m.slice address (address + count) = m.block address count := by
  have h₀ : ¬ (address : Int) + count < 0 := by omega
  have h₁ : ((address : Int) + count).toNat = address + count := by omega
  rw [slice, if_neg h₀, h₁, block]

theorem readBlock_eq (m : Memory) (address count : Nat) :
    m.readBlock address count
      = (refusal? m.size address count).elim (.ok (m.block address count)) .error := by
  rw [readBlock, m.check_eq, Int.toNat_natCast, slice_eq_block]
  cases refusal? m.size address count <;> rfl

theorem readBlock_congr {m m' : Memory} {address count : Nat} (hsize : m'.size = m.size)
    (hbyte : ∀ i < count, m'.byte (address + i) = m.byte (address + i)) :
    m'.readBlock address count = m.readBlock address count := by
  rw [readBlock_eq, readBlock_eq, hsize]
  cases hr : refusal? m.size address count with
  | some e => rfl
  | none =>
    have hfits : address + count ≤ m.size := refusal?_eq_none.1 hr
    exact congrArg Except.ok (block_congr hfits (hsize ▸ hfits) hbyte)

theorem readBlock_eq_ok {m : Memory} {address count : Nat} {bytes : List UInt8} :
    m.readBlock address count = .ok bytes
      ↔ address + count ≤ m.size ∧ m.block address count = bytes := by
  rw [readBlock_eq, ← refusal?_eq_none]
  cases refusal? m.size address count with
  | none => exact ⟨fun h => ⟨rfl, Except.ok.inj h⟩, fun ⟨_, h⟩ => congrArg Except.ok h⟩
  | some e => exact ⟨fun h => (nomatch h), fun ⟨h, _⟩ => (nomatch h)⟩

theorem length_readBlock {m : Memory} {address count : Nat} {bytes : List UInt8}
    (h : m.readBlock address count = .ok bytes) : bytes.length = count := by
  obtain ⟨hfits, rfl⟩ := readBlock_eq_ok.1 h
  exact length_block hfits

theorem load_eq (m : Memory) (address : Nat) (data : List UInt8) :
    m.load address data
      = (refusal? m.size address data.length).elim (.ok ⟨overlay m.cells address data⟩) .error := by
  rw [load, m.check_eq]
  cases refusal? m.size address data.length <;> rfl

theorem byte_of_size_le {m : Memory} {address : Nat} (h : m.size ≤ address) :
    m.byte address = 0 := by
  rw [byte, Array.getD_eq_getD_getElem?, Array.getElem?_eq_none h, Option.getD_none]

@[simp] theorem byte_blank (size address : Nat) : (blank size).byte address = 0 := by
  rw [byte, blank, Array.getD_eq_getD_getElem?, Array.getElem?_replicate]
  split <;> rfl

theorem toList_overlay (cells : Array UInt8) (address : Nat) (data : List UInt8) :
    (overlay cells address data).toList
      = cells.toList.take address ++ data ++ cells.toList.drop (address + data.length) := rfl

theorem size_overlay {cells : Array UInt8} {address : Nat} {data : List UInt8}
    (h : address + data.length ≤ cells.size) : (overlay cells address data).size = cells.size := by
  simp only [overlay, List.size_toArray, List.length_append, List.length_take, List.length_drop,
    Array.length_toList]
  omega

theorem getD_overlay {cells : Array UInt8} {address : Nat} {data : List UInt8}
    (h : address + data.length ≤ cells.size) (i : Nat) :
    (overlay cells address data).getD i 0
      = if address ≤ i ∧ i < address + data.length then data.getD (i - address) 0
        else cells.getD i 0 := by
  have hfront : (cells.toList.take address).length = address := by
    rw [List.length_take, Array.length_toList]
    omega
  simp only [Array.getD_eq_getD_getElem?, ← Array.getElem?_toList, toList_overlay,
    List.getD_eq_getElem?_getD]
  by_cases hin : address ≤ i ∧ i < address + data.length
  · rw [if_pos hin, List.append_assoc, List.getElem?_append_right (by omega), hfront,
      List.getElem?_append_left (by omega)]
  · rw [if_neg hin]
    obtain hlow | hhigh : i < address ∨ address + data.length ≤ i := by omega
    · rw [List.append_assoc, List.getElem?_append_left (by omega), List.getElem?_take_of_lt hlow]
    · have hpast : address + data.length + (i - (address + data.length)) = i := by omega
      rw [List.getElem?_append_right (by rw [List.length_append]; omega), List.length_append,
        hfront, List.getElem?_drop, hpast]

theorem overlay_singleton {cells : Array UInt8} {address : Nat} (h : address < cells.size)
    (b : UInt8) : overlay cells address [b] = cells.setIfInBounds address b := by
  rw [← Array.toList_inj, toList_overlay, Array.toList_setIfInBounds,
    List.set_eq_take_append_cons_drop, if_pos (by simpa using h)]
  simp

/-- **Data that fits is loaded**, and shows in its own cells alone. -/
theorem load_of_fits {m : Memory} {address : Nat} {data : List UInt8}
    (h : address + data.length ≤ m.size) :
    ∃ m', m.load address data = .ok m' ∧ m'.size = m.size ∧
      ∀ i, m'.byte i = if address ≤ i ∧ i < address + data.length then data.getD (i - address) 0
        else m.byte i := by
  refine ⟨⟨overlay m.cells address data⟩, ?_, size_overlay h, getD_overlay h⟩
  rw [load_eq, refusal?_eq_none.2 h]
  rfl

theorem fits_of_load {m m' : Memory} {address : Nat} {data : List UInt8}
    (h : m.load address data = .ok m') : address + data.length ≤ m.size := by
  rw [load_eq] at h
  cases hr : refusal? m.size address data.length with
  | some e => rw [hr] at h; cases h
  | none => exact refusal?_eq_none.1 hr

theorem size_load {m m' : Memory} {address : Int} {data : List UInt8}
    (h : m.load address data = .ok m') : m'.size = m.size := by
  rw [load] at h
  cases hc : m.check address data.length with
  | error e => rw [hc] at h; cases h
  | ok u =>
    rw [hc] at h
    obtain rfl := Except.ok.inj h
    exact size_overlay (fits_of_check hc)

/-- **What a load leaves:** the data in its own cells, and elsewhere what was there. -/
theorem byte_load {m m' : Memory} {address : Nat} {data : List UInt8}
    (h : m.load address data = .ok m') (i : Nat) :
    m'.byte i = if address ≤ i ∧ i < address + data.length then data.getD (i - address) 0
      else m.byte i := by
  obtain ⟨m'', hl, -, hb⟩ := load_of_fits (fits_of_load h)
  obtain rfl := Except.ok.inj (hl.symm.trans h)
  exact hb i

theorem byte_load_add {m m' : Memory} {address i : Nat} {data : List UInt8}
    (h : m.load address data = .ok m') (hi : i < data.length) :
    m'.byte (address + i) = data.getD i 0 := by
  rw [byte_load h, if_pos (by omega), Nat.add_sub_cancel_left]

theorem byte_load_of_outside {m m' : Memory} {address a : Nat} {data : List UInt8}
    (h : m.load address data = .ok m') (ha : ¬ (address ≤ a ∧ a < address + data.length)) :
    m'.byte a = m.byte a :=
  (byte_load h a).trans (if_neg ha)

/-- Wording of an access that left the memory. -/
def OutOfBounds.message (e : OutOfBounds) : String :=
  "Address 0x" ++ Numeral.hex 1 e.address ++ " outside memory (size 0x"
    ++ Numeral.hex 1 e.size ++ ")"

end Memory
end ChipEight
