import Mathlib.Data.List.Basic
import Mathlib.Data.UInt

set_option autoImplicit false

namespace Hes

abbrev Bytes := List UInt8

instance : LawfulBEq Bytes := inferInstance

/-- Memory beyond the received bytes reads as zero: every receive buffer is cleared first. -/
def byteAt (buff : Bytes) (index : Nat) : UInt8 := buff.getD index 0

/-- The `length` bytes from `start` on, as a pointer and a count select them. -/
def slice (buff : Bytes) (start length : Nat) : Bytes :=
  (List.range length).map fun index => byteAt buff (start + index)

@[simp]
theorem slice_length (buff : Bytes) (start length : Nat) :
    (slice buff start length).length = length := by
  simp [slice]

theorem slice_whole (buff : Bytes) : slice buff 0 buff.length = buff := by
  apply List.ext_getElem
  next => simp
  next =>
    intro index inside within
    simp [slice, byteAt, List.getD_eq_getElem?_getD, within]

theorem byteAt_append_right (before rest : Bytes) (index : Nat) :
    byteAt (before ++ rest) (before.length + index) = byteAt rest index := by
  simp only [byteAt, List.getD_eq_getElem?_getD]
  rw [List.getElem?_append_right (by omega), Nat.add_sub_cancel_left]

theorem byteAt_append_left (bytes rest : Bytes) (index : Nat) (inside : index < bytes.length) :
    byteAt (bytes ++ rest) index = byteAt bytes index := by
  simp [byteAt, List.getD_eq_getElem?_getD, List.getElem?_append_left inside]

theorem slice_append_right (before rest : Bytes) (start length : Nat) :
    slice (before ++ rest) (before.length + start) length = slice rest start length := by
  simp [slice, Nat.add_assoc, byteAt_append_right]

theorem slice_append_whole (bytes rest : Bytes) : slice (bytes ++ rest) 0 bytes.length = bytes := by
  conv => rhs; rw [← slice_whole bytes]
  refine List.map_congr_left ?_
  intro index inside
  simp [byteAt_append_left bytes rest index (List.mem_range.mp inside)]

theorem byteAt_beyond (buff : Bytes) (index : Nat) (beyond : buff.length ≤ index) :
    byteAt buff index = 0 := by
  simp [byteAt, List.getD_eq_getElem?_getD, beyond]

theorem byteAt_slice (buff : Bytes) (start length index : Nat) (inside : index < length) :
    byteAt (slice buff start length) index = byteAt buff (start + index) := by
  simp [byteAt, slice, List.getD_eq_getElem?_getD, inside]

theorem slice_congr (first second : Bytes) (start place length : Nat)
    (same : ∀ index < length, byteAt first (start + index) = byteAt second (place + index)) :
    slice first start length = slice second place length := by
  apply List.map_congr_left
  intro index inside
  exact same index (List.mem_range.mp inside)

theorem slice_append (buffer : Bytes) (start first second : Nat) :
    slice buffer start (first + second) = slice buffer start first ++ slice buffer (start + first) second := by
  simp [slice, List.range_add, Nat.add_assoc]

def bigEndian (bytes : Bytes) : Nat :=
  bytes.foldl (fun value byte => value * 256 + byte.toNat) 0

/-- A `uint16_t` sum of which the low byte is kept. -/
def calculateChecksum (buff : Bytes) (start length : Nat) : UInt8 :=
  UInt8.ofNat (((slice buff start length).map UInt8.toNat).sum % 2 ^ 16)

end Hes
