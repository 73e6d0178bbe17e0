/-!
# Input/ByteOrder — numbers of several bytes

A chunk file declares the order in which it writes the bytes of a number.  `value` and `bytes` are
the two directions of a positional system to the base 256, with the digits in either order.
-/

namespace LuaChunk

/-- The order of the bytes of a number: least significant first, or last. -/
inductive ByteOrder where
  | little
  | big
  deriving DecidableEq, Repr, Inhabited

namespace ByteOrder

/-- The number whose digits, least significant first, are these bytes. -/
def ascending : List UInt8 → Nat
  | [] => 0
  | b :: bs => b.toNat + 256 * ascending bs

/-- The number that bytes in this order stand for. -/
def value : ByteOrder → List UInt8 → Nat
  | .little, bytes => ascending bytes
  | .big, bytes => ascending bytes.reverse

/-- The low `width` digits of a number, least significant first. -/
def digits : Nat → Nat → List UInt8
  | 0, _ => []
  | width + 1, n => UInt8.ofNat n :: digits width (n / 256)

/-- A number as `width` bytes in this order. -/
def bytes : ByteOrder → Nat → Nat → List UInt8
  | .little, width, n => digits width n
  | .big, width, n => (digits width n).reverse

theorem length_digits (width n : Nat) : (digits width n).length = width := by
  induction width generalizing n with
  | zero => rfl
  | succ width ih => rw [digits, List.length_cons, ih]

theorem length_bytes (order : ByteOrder) (width n : Nat) :
    (order.bytes width n).length = width := by
  cases order <;> simp [bytes, length_digits]

/-- A number's digits are the bytes that it was read from. -/
theorem digits_ascending (bs : List UInt8) : digits bs.length (ascending bs) = bs := by
  induction bs with
  | nil => rfl
  | cons b bs ih =>
    have hb : b.toNat < 256 := b.toNat_lt
    have hlow : UInt8.ofNat (b.toNat + 256 * ascending bs) = b := by
      apply UInt8.toNat_inj.mp
      simp only [UInt8.toNat_ofNat']
      omega
    have hhigh : (b.toNat + 256 * ascending bs) / 256 = ascending bs := by omega
    rw [List.length_cons, ascending, digits, hlow, hhigh, ih]

/-- **Bytes that were read in an order are written back in it.** -/
theorem bytes_value (order : ByteOrder) (bs : List UInt8) :
    order.bytes bs.length (order.value bs) = bs := by
  cases order with
  | little => exact digits_ascending bs
  | big =>
    have h := digits_ascending bs.reverse
    rw [List.length_reverse] at h
    rw [value, bytes, h, List.reverse_reverse]

end ByteOrder

end LuaChunk
