/-
# A memory is a map of bytes

Whatever is asked of a memory, it answers like a plain map from the addresses below its size
to bytes, all zero at first (`Memory.acts_as_byteMap`). `ByteMap.handle` is that map: an
access is refused if one of its addresses is not there, at the first such address, and
otherwise bytes are looked up one by one or put in a row.

A memory finds that address without going through the range: `Memory.check` compares the two
ends (`Memory.check_eq`). Once the check is passed, no access can fail and each keeps the
memory and the map alike (`Memory.Shows.perform`).

| request | addresses | answer | afterwards |
| --- | --- | --- | --- |
| read | one | its byte | as before |
| read a word | two | 256 times the first byte plus the second | as before |
| read a block | one or more | their bytes | as before |
| write | one | | the value modulo 256 is there |
| load | one or more | | the data is there |
| clear | none | | zero everywhere |
-/

import ChipEight.Memory
import ChipEight.Proofs.Service
import Mathlib.Order.Bounds.Basic

namespace ChipEight

namespace Memory

/-- What can be asked of a memory. A block has at least one byte, and so has data that is
loaded. -/
inductive Request
  | read (address : Int)
  | readWord (address : Int)
  | readBlock (address : Int) (count : Nat) (pos : 0 < count)
  | write (address value : Int)
  | load (address : Int) (data : List UInt8) (pos : 0 < data.length)
  | clear

/-- What a memory answers. -/
inductive Answer
  | done
  | byte (b : UInt8)
  | word (w : Nat)
  | block (bytes : List UInt8)
  deriving DecidableEq, Repr

/-- The `count` addresses from `start` on. -/
def span (start : Int) (count : Nat) : List Int := (List.range count).map fun i : Nat => start + i

namespace Request

/-- The first address of a request. -/
def start : Request → Int
  | read address | readWord address | readBlock address _ _ | write address _
  | load address _ _ => address
  | clear => 0

/-- How many addresses a request has. -/
def count : Request → Nat
  | read _ | write _ _ => 1
  | readWord _ => 2
  | readBlock _ count _ => count
  | load _ data _ => data.length
  | clear => 0

/-- The addresses of a request. -/
def addresses (r : Request) : List Int := span r.start r.count

theorem start_of_count_eq_zero {r : Request} (h : r.count = 0) : r.start = 0 := by
  cases r with
  | clear => rfl
  | readBlock _ _ pos | load _ _ pos => exact absurd h pos.ne'
  | _ => cases h

end Request

/-- A memory takes a request. -/
def handle : Handler Memory Request OutOfBounds Answer
  | m, .read address => (m.read address).map fun b => (.byte b, m)
  | m, .readWord address => (m.readWord address).map fun w => (.word w, m)
  | m, .readBlock address count _ => (m.readBlock address count).map fun bs => (.block bs, m)
  | m, .write address value => (m.write address value).map fun m' => (.done, m')
  | m, .load address data _ => (m.load address data).map fun m' => (.done, m')
  | m, .clear => .ok (.done, m.clear)

end Memory

/-- A plain map from the addresses below a bound to bytes. -/
abbrev ByteMap (n : Nat) := Fin n → UInt8

namespace ByteMap

open Memory (Request Answer OutOfBounds)

variable {n : Nat}

/-- The map is defined at an address. -/
abbrev Has (n : Nat) (address : Int) : Prop := 0 ≤ address ∧ address < n

/-- The first of some addresses at which the map is not defined. -/
def missing? (n : Nat) (addresses : List Int) : Option Int :=
  addresses.find? fun address => ¬ Has n address

/-- The byte at an address; zero where the map is not defined. -/
def get (f : ByteMap n) (address : Int) : UInt8 :=
  if h : Has n address then f ⟨address.toNat, by omega⟩ else 0

/-- The map with bytes put in a row from an address on. -/
def put (f : ByteMap n) (address : Int) (data : List UInt8) : ByteMap n := fun i =>
  if address ≤ i ∧ (i : Int) < address + data.length then data.getD (i - address).toNat 0 else f i

/-- What comes of a request whose addresses are all there. -/
def perform (f : ByteMap n) : Request → Answer × ByteMap n
  | .read address => (.byte (f.get address), f)
  | .readWord address =>
    (.word (256 * (f.get address).toNat + (f.get (address + 1)).toNat), f)
  | .readBlock address count _ => (.block ((Memory.span address count).map f.get), f)
  | .write address value => (.done, f.put address [UInt8.ofNat (value % 256).toNat])
  | .load address data _ => (.done, f.put address data)
  | .clear => (.done, fun _ => 0)

/-- A map takes a request. -/
def handle : Handler (ByteMap n) Request OutOfBounds Answer := fun f r =>
  match missing? n r.addresses with
  | some address => .error ⟨address, n⟩
  | none => .ok (f.perform r)

end ByteMap

namespace Memory

open ByteMap (Has missing?)

variable {n : Nat} {m : Memory} {f : ByteMap n} {start address : Int} {count : Nat}
  {data : List UInt8} {r : Request}

theorem mem_span : address ∈ span start count ↔ start ≤ address ∧ address < start + count := by
  simp only [span, List.mem_map, List.mem_range]
  constructor
  · rintro ⟨i, hi, rfl⟩
    omega
  · rintro ⟨hle, hlt⟩
    exact ⟨(address - start).toNat, by omega, by omega⟩

/-! ### The check -/

/-- **The first missing address of a range, from its ends:** the start if that is below zero,
and else the start or the size, whichever comes later. -/
theorem missing?_span (n : Nat) (start : Int) (count : Nat) :
    missing? n (span start count) =
      if count = 0 then none
      else if start < 0 then some start
      else if n < start + count then some (max start n)
      else none := by
  induction count with
  | zero => rfl
  | succ count ih =>
    have hsnoc : span start (count + 1) = span start count ++ [start + count] := by
      rw [span, List.range_succ, List.map_append, List.map_singleton, span]
    have hlast : missing? n [start + count]
        = if 0 ≤ start + count ∧ start + count < n then none else some (start + count) := by
      simp only [missing?, Has, List.find?_singleton, decide_not, Bool.not_eq_true',
        decide_eq_false_iff_not, ite_not]
    have happend : missing? n (span start count ++ [start + count])
        = (missing? n (span start count)).or (missing? n [start + count]) := List.find?_append
    rw [hsnoc, happend, ih, hlast]
    -- the last address matters only if all before it are there
    split_ifs <;> simp only [Option.none_or, Option.some_or, Option.some.injEq, reduceCtorEq] <;>
      omega

/-- **The first missing address is the least one**, if one is missing at all. -/
theorem missing?_eq_some_iff :
    missing? n (span start count) = some address ↔
      IsLeast {a | a ∈ span start count ∧ ¬ Has n a} address := by
  simp only [missing?_span, mem_span, Has]
  constructor
  · intro h
    split_ifs at h <;> cases h
    all_goals
      refine ⟨⟨⟨?_, ?_⟩, ?_⟩, fun a ha => ?_⟩
      · omega
      · omega
      · omega
      · obtain ⟨⟨_, _⟩, _⟩ := ha
        omega
  · rintro ⟨⟨⟨hle, hlt⟩, hmissing⟩, hleast⟩
    have hcount : ¬ count = 0 := by omega
    rw [if_neg hcount]
    by_cases hneg : start < 0
    · have hmem : start ≤ start ∧ start < start + count := by omega
      have hstart : address ≤ start := hleast ⟨hmem, by omega⟩
      rw [if_pos hneg, show start = address by omega]
    · have hmem : start ≤ max start n ∧ max start n < start + count := by omega
      have hmax : address ≤ max start n := hleast ⟨hmem, by omega⟩
      rw [if_neg hneg, if_pos (by omega), show max start n = address by omega]

theorem missing?_eq_none_iff {addresses : List Int} :
    missing? n addresses = none ↔ ∀ a ∈ addresses, Has n a := by
  simp [missing?]

/-- **A check of the two ends finds the first missing address.** -/
theorem check_eq_missing? (m : Memory) (h : count = 0 → start = 0) :
    m.check start count
      = (missing? m.size (span start count)).elim (.ok ()) fun a => .error ⟨a, m.size⟩ := by
  rw [missing?_span, check]
  obtain rfl | hpos := Nat.eq_zero_or_pos count
  · obtain rfl := h rfl
    rw [if_neg (by decide), if_neg (by simp), if_pos rfl]
    rfl
  · rw [if_neg hpos.ne']
    split_ifs <;> rfl

/-- What comes of a request that passes the check. -/
def perform (m : Memory) : Request → Answer × Memory
  | .read address => (.byte (m.byte address.toNat), m)
  | .readWord address =>
    (.word (256 * (m.byte address.toNat).toNat + (m.byte (address.toNat + 1)).toNat), m)
  | .readBlock address count _ => (.block (m.slice address.toNat (address + count)), m)
  | .write address value => (.done, ⟨m.cells.setIfInBounds address.toNat (UInt8.ofInt value)⟩)
  | .load address data _ => (.done, ⟨overlay m.cells address.toNat data⟩)
  | .clear => (.done, m.clear)

/-- **Every request is a check and then what cannot fail.** -/
theorem handle_eq (m : Memory) (r : Request) :
    m.handle r = (m.check r.start r.count).map fun _ => m.perform r := by
  have hbind {α β : Type} (g : α → β) (a : α) (c : Except OutOfBounds Unit) :
      (c >>= fun _ => .ok a).map g = c.map fun _ => g a := by
    cases c <;> rfl
  cases r with
  | clear => rw [Request.start, Request.count, check_eq_missing? m fun _ => rfl]; rfl
  | _ => exact hbind ..

theorem handle_eq_missing? (m : Memory) (r : Request) :
    m.handle r = match missing? m.size r.addresses with
      | some a => .error ⟨a, m.size⟩
      | none => .ok (m.perform r) := by
  rw [handle_eq, check_eq_missing? m Request.start_of_count_eq_zero]
  unfold Request.addresses
  cases missing? m.size (span r.start r.count) <;> rfl

/-! ### The bytes -/

/-- A memory shows a map: its addresses are those of the map, and so are its bytes. -/
structure Shows (m : Memory) (f : ByteMap n) : Prop where
  size : m.size = n
  byte : ∀ i : Fin n, m.byte i = f i

theorem shows_blank (n : Nat) : Shows (blank n) (fun _ : Fin n => 0) :=
  ⟨size_blank n, fun _ => byte_blank _ _⟩

namespace Shows

theorem get (h : Shows m f) (ha : Has n address) : m.byte address.toNat = f.get address := by
  rw [ByteMap.get, dif_pos ha]
  exact h.byte ⟨address.toNat, by omega⟩

theorem slice (h : Shows m f) (hstart : 0 ≤ start) (hfits : start + count ≤ n) :
    m.slice start.toNat (start + count) = (span start count).map f.get := by
  obtain ⟨k, rfl⟩ := Int.eq_ofNat_of_zero_le hstart
  have hblock : k + count ≤ m.size := by rw [h.size]; omega
  rw [Int.toNat_natCast, slice_eq_block, block_eq_map hblock, span, List.map_map]
  refine List.map_congr_left fun i hi => ?_
  have hi : i < count := List.mem_range.1 hi
  have hget : m.byte ((k : Int) + i).toNat = f.get (k + i) := h.get (by omega)
  rwa [show ((k : Int) + i).toNat = k + i by omega] at hget

theorem overlay (h : Shows m f) (hstart : 0 ≤ start) (hfits : start + data.length ≤ n) :
    Shows ⟨overlay m.cells start.toNat data⟩ (f.put start data) := by
  obtain ⟨k, rfl⟩ := Int.eq_ofNat_of_zero_le hstart
  have hsize : m.cells.size = n := h.size
  have hload : k + data.length ≤ m.cells.size := by omega
  refine ⟨(size_overlay hload).trans hsize, fun i => ?_⟩
  rw [Memory.byte, Int.toNat_natCast, getD_overlay hload, ByteMap.put]
  by_cases hi : (k : Int) ≤ i ∧ (i : Int) < k + data.length
  · rw [if_pos (by omega), if_pos hi]
    congr 1
    omega
  · rw [if_neg (by omega), if_neg hi]
    exact h.byte i

theorem write (h : Shows m f) (value : Int) (ha : Has n address) :
    Shows ⟨m.cells.setIfInBounds address.toNat (UInt8.ofInt value)⟩
      (f.put address [UInt8.ofNat (value % 256).toNat]) := by
  have hfits : address + [UInt8.ofNat (value % 256).toNat].length ≤ n := by
    rw [List.length_singleton]
    omega
  have hinside : address.toNat < m.cells.size := by
    have hsize : m.cells.size = n := h.size
    omega
  rw [← overlay_singleton hinside]
  exact h.overlay ha.1 hfits

/-- **What passes the check keeps the memory and the map alike**, and both answer the
same. -/
theorem perform (h : Shows m f) (hr : ∀ a ∈ r.addresses, Has n a) :
    (m.perform r).1 = (f.perform r).1 ∧ Shows (m.perform r).2 (f.perform r).2 := by
  have hends (hpos : 0 < r.count) : Has n r.start ∧ r.start + r.count ≤ n := by
    have hfirst := hr r.start (mem_span.2 (by omega))
    have hlast := hr (r.start + r.count - 1) (mem_span.2 (by omega))
    exact ⟨hfirst, by omega⟩
  cases r with
  | read address => exact ⟨congrArg Answer.byte (h.get (hends Nat.one_pos).1), h⟩
  | readWord address =>
    obtain ⟨hhigh, hfits⟩ : Has n address ∧ address + (2 : Nat) ≤ n := hends Nat.two_pos
    have hlow : m.byte (address + 1).toNat = f.get (address + 1) := h.get (by omega)
    rw [show (address + 1).toNat = address.toNat + 1 by omega] at hlow
    refine ⟨?_, h⟩
    rw [Memory.perform, ByteMap.perform, h.get hhigh, hlow]
  | readBlock address count pos =>
    obtain ⟨hfirst, hfits⟩ := hends pos
    exact ⟨congrArg Answer.block (h.slice hfirst.1 hfits), h⟩
  | write address value => exact ⟨rfl, h.write value (hends Nat.one_pos).1⟩
  | load address data pos =>
    obtain ⟨hfirst, hfits⟩ := hends pos
    exact ⟨rfl, h.overlay hfirst.1 hfits⟩
  | clear => exact ⟨rfl, (size_clear m).trans h.size, fun _ => byte_blank _ _⟩

end Shows

/-- **A memory takes every request like the map that it shows.** -/
theorem refines_byteMap (n : Nat) :
    Handler.Refines handle (ByteMap.handle (n := n)) Shows := by
  intro m f h r
  rw [handle_eq_missing?, h.size, ByteMap.handle]
  cases hmissing : missing? n r.addresses with
  | some address => exact .refused _
  | none =>
    obtain ⟨hanswer, hafter⟩ := h.perform (missing?_eq_none_iff.1 hmissing)
    have hpair : m.perform r = ((f.perform r).1, (m.perform r).2) := by rw [← hanswer]
    rw [hpair]
    exact .answered _ hafter

/-! ### Refusals -/

/-- **A request is refused** at the least of its addresses that are missing. -/
theorem handle_eq_error_iff {e : OutOfBounds} :
    m.handle r = .error e ↔
      e.size = m.size ∧ IsLeast {a | a ∈ r.addresses ∧ ¬ Has m.size a} e.address := by
  have hleast : missing? m.size r.addresses = some e.address ↔
      IsLeast {a | a ∈ r.addresses ∧ ¬ Has m.size a} e.address := missing?_eq_some_iff
  rw [handle_eq_missing?, ← hleast]
  cases missing? m.size r.addresses with
  | none => simp
  | some a =>
    obtain ⟨address, size⟩ := e
    simp only [Except.error.injEq, OutOfBounds.mk.injEq, Option.some.injEq]
    exact ⟨fun ⟨ha, hsize⟩ => ⟨hsize.symm, ha⟩, fun ⟨hsize, ha⟩ => ⟨ha, hsize.symm⟩⟩

/-- A request is refused exactly if one of its addresses is missing. -/
theorem exists_handle_eq_error_iff :
    (∃ e, m.handle r = .error e) ↔ ∃ a ∈ r.addresses, ¬ Has m.size a := by
  have hrefused : (∃ e, m.handle r = .error e) ↔ ¬ missing? m.size r.addresses = none := by
    rw [handle_eq_missing?]
    cases missing? m.size r.addresses <;> simp
  rw [hrefused, missing?_eq_none_iff]
  simp only [not_forall, exists_prop]

end Memory

/-! ### Data that was loaded -/

namespace ByteMap

open Memory (Request Answer span mem_span missing?_eq_none_iff)

variable {n : Nat} {f : ByteMap n} {address a : Int} {data : List UInt8} {r : Request}

theorem serve_of_has (h : ∀ a ∈ r.addresses, Has n a) :
    handle.serve f r = (.ok (f.perform r).1, (f.perform r).2) := by
  rw [Handler.serve, handle, missing?_eq_none_iff.2 h]

theorem get_put (f : ByteMap n) (address : Int) (data : List UInt8) (ha : Has n a) :
    (f.put address data).get a = if address ≤ a ∧ a < address + data.length
      then data.getD (a - address).toNat 0 else f.get a := by
  obtain ⟨k, rfl⟩ := Int.eq_ofNat_of_zero_le ha.1
  rw [get, dif_pos ha, get, dif_pos ha, put]
  rfl

/-- **Data that was put in a row shows in its own addresses.** -/
theorem map_get_put (h : ∀ a ∈ span address data.length, Has n a) :
    (span address data.length).map (f.put address data).get = data := by
  refine List.ext_getElem (by simp [span]) fun i hi hi' => ?_
  have hget : (f.put address data).get (address + i) = data.getD i 0 := by
    rw [get_put f address data (h _ (mem_span.2 (by omega))), if_pos (by omega)]
    congr 1
    omega
  simpa [span, hi'] using hget

/-- **Data that was put in a row shows nowhere else.** -/
theorem serve_read_put (ha : a ∉ span address data.length) :
    (handle.serve (f.put address data) (.read a)).1 = (handle.serve f (.read a)).1 := by
  rw [mem_span] at ha
  unfold Handler.serve handle
  cases hmissing : missing? n (Request.read a).addresses with
  | some b => rfl
  | none =>
    have hmem : a ∈ span a 1 := mem_span.2 (by omega)
    have hget := get_put f address data (missing?_eq_none_iff.1 hmissing a hmem)
    rw [if_neg ha] at hget
    exact congrArg (fun b => Except.ok (Answer.byte b)) hget

end ByteMap

namespace Memory

open ByteMap (Has)

variable {n : Nat} {m : Memory} {f : ByteMap n} {address : Int} {data : List UInt8}

/-- Data whose addresses are all there is loaded into the memory as it is put into the
map. -/
theorem Shows.serve_load (h : Shows m f) (hin : ∀ a ∈ span address data.length, Has n a)
    (pos : 0 < data.length) :
    Shows (handle.serve m (.load address data pos)).2 (f.put address data) := by
  have hput : (ByteMap.handle.serve f (.load address data pos)).2 = f.put address data := by
    rw [ByteMap.serve_of_has (r := .load address data pos) hin]
    rfl
  rw [← hput]
  exact ((refines_byteMap n).serve h (.load address data pos)).2

/-- **A memory acts as a map of bytes** under every history of requests. What is refused is
what leaves the addresses of the map; it is reported at the least address that does, and
nothing has changed. Data that was loaded shows back as a block and nowhere else. -/
theorem acts_as_byteMap (n : Nat) (rs : List Request) :
    (∀ m, ofSize n = .ok m → m = blank n) ∧
    handle.answers (blank n) rs = ByteMap.handle.answers (fun _ : Fin n => 0) rs ∧
    let m := handle.after (blank n) rs
    m.size = n ∧ (∀ i : Fin n, m.byte i = ByteMap.handle.after (fun _ => 0) rs i) ∧
      (∀ r, (∃ e, (handle.serve m r).1 = .error e) ↔ ∃ a ∈ r.addresses, ¬ Has n a) ∧
      (∀ r e, (handle.serve m r).1 = .error e →
        (e.size = n ∧ IsLeast {a | a ∈ r.addresses ∧ ¬ Has n a} e.address) ∧
          (handle.serve m r).2 = m) ∧
      ∀ address data pos, (∀ a ∈ span address data.length, Has n a) →
        let m' := (handle.serve m (.load address data pos)).2
        (handle.serve m' (.readBlock address data.length pos)).1 = .ok (.block data) ∧
          ∀ a ∉ span address data.length,
            (handle.serve m' (.read a)).1 = (handle.serve m (.read a)).1 := by
  obtain ⟨hanswers, hshows⟩ := (refines_byteMap n).run (shows_blank n) rs
  have hsize := hshows.size
  refine ⟨fun m => Room.eq_of_made, hanswers, hsize, hshows.byte, fun r => ?_, fun r e he => ?_,
    fun address data pos hin => ?_⟩
  · have hrefused := exists_handle_eq_error_iff (m := handle.after (blank n) rs) (r := r)
    rw [hsize] at hrefused
    simpa only [Handler.serve_eq_error_iff] using hrefused
  · have hleast := handle_eq_error_iff.1 (Handler.serve_eq_error_iff.1 he)
    rw [hsize] at hleast
    exact ⟨hleast, Handler.serve_of_refused he⟩
  · have hloaded := hshows.serve_load hin pos
    constructor
    · have hblock := ((refines_byteMap n).serve hloaded (.readBlock address data.length pos)).1
      rw [ByteMap.serve_of_has (r := .readBlock address data.length pos) hin] at hblock
      have hdata := ByteMap.map_get_put (f := ByteMap.handle.after (fun _ => 0) rs) hin
      exact hblock.trans (congrArg (fun bs => Except.ok (Answer.block bs)) hdata)
    · intro a ha
      have hread := ((refines_byteMap n).serve hshows (.read a)).1
      have hread' := ((refines_byteMap n).serve hloaded (.read a)).1
      rw [hread', hread, ByteMap.serve_read_put ha]

/-- Four bytes: the second is written, the last two are loaded, and then there is no room for
two bytes at the last. -/
theorem acts_as_byteMap_overTheEnd :
    let m := handle.after (blank 4) [.write 1 0x1FF, .load 2 [0xA2, 0x03] Nat.two_pos]
    let m' := (handle.serve m (.load 2 [0xB4, 0x05] Nat.two_pos)).2
    (handle.serve m (.load 3 [1, 2] Nat.two_pos)).1 = .error ⟨4, 4⟩ ∧
      (handle.serve m (.load 3 [1, 2] Nat.two_pos)).2 = m ∧
      (∀ a ∈ span 2 2, Has 4 a) ∧
      (handle.serve m' (.readBlock 2 2 Nat.two_pos)).1 = .ok (.block [0xB4, 0x05]) ∧
      (handle.serve m' (.read 1)).1 = .ok (.byte 0xFF) := by
  obtain ⟨-, -, -, -, -, hrefused, hloaded⟩ :=
    acts_as_byteMap 4 [.write 1 0x1FF, .load 2 [0xA2, 0x03] Nat.two_pos]
  have herror : (handle.serve (handle.after (blank 4)
      [.write 1 0x1FF, .load 2 [0xA2, 0x03] Nat.two_pos]) (.load 3 [1, 2] Nat.two_pos)).1
      = .error ⟨4, 4⟩ := rfl
  have hin : ∀ a ∈ span 2 2, Has 4 a := by decide
  obtain ⟨hblock, helsewhere⟩ := hloaded 2 [0xB4, 0x05] Nat.two_pos hin
  exact ⟨herror, (hrefused _ _ herror).2, hin, hblock, helsewhere 1 (by decide)⟩

end Memory
end ChipEight
