import Mathlib.Algebra.Group.Nat.Defs

/-! Unsigned numbers in memory. A little-endian machine stores the lowest byte
first; the byte swap that turns its words into network order and back is the
same function both ways. -/
namespace BeeSdk.ByteOrder

/-- The number whose bytes lie in memory, the lowest first. -/
def loadLittle (bytes : List UInt8) : Nat :=
  bytes.foldr (fun byte value => byte.toNat + 256 * value) 0

/-- The number whose bytes are given from the highest. -/
def loadBig (bytes : List UInt8) : Nat :=
  bytes.foldl (fun value byte => 256 * value + byte.toNat) 0

/-- The lowest bytes of a number, the lowest first. -/
def storeLittle : Nat → Nat → List UInt8
  | 0, _ => []
  | count + 1, value => UInt8.ofNat value :: storeLittle count (value / 256)

/-- A word of `count` bytes with its bytes in the other order. -/
def swapBytes (count value : Nat) : Nat := loadLittle (storeLittle count value).reverse

/-- `ntohs` and `htons`. -/
def ntohs (value : Nat) : Nat := swapBytes 2 value

/-- `ntohl` and `htonl`. -/
def ntohl (value : Nat) : Nat := swapBytes 4 value

/-- `_ntohll`, which swaps the bytes of each half where it stands. -/
def ntohll (value : Nat) : Nat := ntohl (value / 2 ^ 32) * 2 ^ 32 + ntohl (value % 2 ^ 32)

/-- An `int32_t` where a `size_t` is expected. -/
def toSizeT (number : Int32) : Nat := number.toInt64.toUInt64.toNat

@[simp] theorem loadLittle_nil : loadLittle [] = 0 := rfl

@[simp] theorem loadLittle_cons (byte : UInt8) (bytes : List UInt8) :
    loadLittle (byte :: bytes) = byte.toNat + 256 * loadLittle bytes := rfl

@[simp] theorem storeLittle_length (count value : Nat) : (storeLittle count value).length = count := by
  induction count generalizing value with
  | zero => rfl
  | succ count ih => rw [storeLittle, List.length_cons, ih]

theorem loadLittle_lt (bytes : List UInt8) : loadLittle bytes < 256 ^ bytes.length := by
  induction bytes with
  | nil => exact Nat.one_pos
  | cons byte bytes ih =>
    have bound : byte.toNat < 256 := byte.toNat_lt
    rw [loadLittle_cons, List.length_cons, Nat.pow_succ]
    omega

/-- What lies in memory is stored again by the number loaded from it. -/
theorem store_load (bytes : List UInt8) : storeLittle bytes.length (loadLittle bytes) = bytes := by
  induction bytes with
  | nil => rfl
  | cons byte bytes ih =>
    have bound : byte.toNat < 256 := byte.toNat_lt
    have high : (byte.toNat + 256 * loadLittle bytes) / 256 = loadLittle bytes := by omega
    rw [loadLittle_cons, List.length_cons, storeLittle, high, ih]
    congr 1
    apply UInt8.toNat_inj.mp
    rw [UInt8.toNat_ofNat']
    omega

/-- A number that fits is loaded again from where it was stored. -/
theorem load_store (fits : value < 256 ^ count) : loadLittle (storeLittle count value) = value := by
  induction count generalizing value with
  | zero =>
    rw [Nat.pow_zero] at fits
    rw [storeLittle, loadLittle_nil]
    omega
  | succ count ih =>
    rw [Nat.pow_succ] at fits
    rw [storeLittle, loadLittle_cons, ih (by omega), UInt8.toNat_ofNat']
    omega

theorem loadBig_eq (bytes : List UInt8) : loadBig bytes = loadLittle bytes.reverse := by
  rw [loadBig, loadLittle, List.foldr_reverse]
  congr 1
  funext value byte
  omega

theorem loadLittle_append (low high : List UInt8) :
    loadLittle (low ++ high) = loadLittle low + 256 ^ low.length * loadLittle high := by
  induction low with
  | nil => rw [List.nil_append, List.length_nil, Nat.pow_zero, Nat.one_mul, loadLittle_nil,
      Nat.zero_add]
  | cons byte low ih =>
    rw [List.cons_append, loadLittle_cons, loadLittle_cons, ih, List.length_cons, Nat.pow_succ,
      Nat.mul_add, ← Nat.mul_assoc, Nat.mul_comm 256 (256 ^ low.length), Nat.add_assoc]

theorem loadBig_append (high low : List UInt8) :
    loadBig (high ++ low) = loadBig low + 256 ^ low.length * loadBig high := by
  rw [loadBig_eq, List.reverse_append, loadLittle_append, List.length_reverse, ← loadBig_eq,
    ← loadBig_eq]

/-- A loaded word with its bytes swapped is the number in network order. -/
theorem swapBytes_load (bytes : List UInt8) :
    swapBytes bytes.length (loadLittle bytes) = loadBig bytes := by
  rw [swapBytes, store_load, loadBig_eq]

theorem loadBig_lt (bytes : List UInt8) : loadBig bytes < 256 ^ bytes.length := by
  rw [loadBig_eq, ← List.length_reverse]
  exact loadLittle_lt _

theorem swapBytes_lt (count value : Nat) : swapBytes count value < 256 ^ count := by
  have bound := loadLittle_lt (storeLittle count value).reverse
  rwa [List.length_reverse, storeLittle_length] at bound

/-- Swapped twice a word is what it was. -/
theorem swapBytes_swapBytes (fits : value < 256 ^ count) :
    swapBytes count (swapBytes count value) = value := by
  have stored : storeLittle count (swapBytes count value) = (storeLittle count value).reverse := by
    have again := store_load (storeLittle count value).reverse
    rwa [List.length_reverse, storeLittle_length] at again
  rw [swapBytes, stored, List.reverse_reverse, load_store fits]

private theorem toSizeT_extends (count : UInt32) :
    toSizeT count.toInt32 = (count.toBitVec.signExtend 64).toNat := rfl

/-- A number below 2^31 keeps its value. -/
theorem toSizeT_small {count : UInt32} (small : count.toNat < 2 ^ 31) :
    toSizeT count.toInt32 = count.toNat := by
  have positive : count.toBitVec.msb = false := by
    rw [BitVec.msb_eq_decide]
    simp only [decide_eq_false_iff_not]
    have same : count.toBitVec.toNat = count.toNat := rfl
    omega
  have bound := count.toNat_lt
  have same : count.toBitVec.toNat = count.toNat := rfl
  rw [toSizeT_extends, BitVec.toNat_signExtend, positive, if_neg Bool.false_ne_true,
    BitVec.toNat_setWidth, same, Nat.mod_eq_of_lt (by omega), Nat.add_zero]

/-- Any other becomes one that no memory has. -/
theorem toSizeT_large {count : UInt32} (large : 2 ^ 31 ≤ count.toNat) :
    2 ^ 32 ≤ toSizeT count.toInt32 := by
  have negative : count.toBitVec.msb = true := by
    rw [BitVec.msb_eq_decide]
    simp only [decide_eq_true_eq]
    have same : count.toBitVec.toNat = count.toNat := rfl
    omega
  rw [toSizeT_extends, BitVec.toNat_signExtend, negative, if_pos rfl]
  omega

end BeeSdk.ByteOrder
