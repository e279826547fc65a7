import Mathlib.Data.String.Basic
import SteelProxy.Library.VarInt

/-!
# Fields of a binary format

Strings as their UTF-8 bytes behind a 32-bit length (`writeString`), and numbers of a fixed width,
the highest byte first (`writeBigEndian`). Each reader returns the bytes that follow the field,
and reading what was written gives back the field and the rest, whatever follows; a sequence of
fields is read by reading one after the other.
-/

set_option autoImplicit false

namespace SteelProxy.Library.Wire

/-! ## UTF-8 -/

/-- The UTF-8 bytes of a string. -/
def bytesOf (s : String) : List UInt8 := s.toUTF8.data.toList

/-- The string that the bytes encode. -/
def decodeUtf8 (bs : List UInt8) : Option String := String.fromUTF8? ⟨bs.toArray⟩

theorem fromUTF8?_eq_some_iff {b : ByteArray} {s : String} :
    String.fromUTF8? b = some s ↔ b = s.toUTF8 := by
  constructor
  · intro h
    unfold String.fromUTF8? at h
    split at h
    · cases h
      rfl
    · cases h
  · rintro rfl
    exact dif_pos s.isValidUTF8

theorem decodeUtf8_eq_some_iff {bs : List UInt8} {s : String} :
    decodeUtf8 bs = some s ↔ bs = bytesOf s := by
  rw [decodeUtf8, fromUTF8?_eq_some_iff, bytesOf, ByteArray.ext_iff]
  constructor
  · intro h
    rw [← h]
  · intro h
    rw [h]

theorem length_bytesOf (s : String) : (bytesOf s).length = s.utf8ByteSize := by
  rw [bytesOf, Array.length_toList]
  rfl

/-- A character takes at most four bytes. -/
theorem length_bytesOf_le (s : String) : (bytesOf s).length ≤ 4 * s.toList.length := by
  rw [length_bytesOf, ← String.utf8Len_toList]
  induction s.toList with
  | nil => exact Nat.le_refl _
  | cons c cs ih =>
      have hc := c.utf8Size_le_four
      rw [String.utf8Len_cons, List.length_cons]
      omega

/-! ## Strings behind their length -/

/-- A string behind its length in bytes, a signed 32-bit number. -/
def writeString (s : String) : List UInt8 :=
  VarInt.write (Int32.ofNat (bytesOf s).length) ++ bytesOf s

/-- Read a string behind its length, with the bytes that follow. -/
def readString (bs : List UInt8) : Option (String × List UInt8) :=
  match VarInt.read bs with
  | none => none
  | some (len, rest) =>
      if 0 ≤ len ∧ len.toNatClampNeg ≤ rest.length then
        (decodeUtf8 (rest.take len.toNatClampNeg)).map fun s => (s, rest.drop len.toNatClampNeg)
      else
        none

theorem le_ofNat_of_lt {n : Nat} (h : n < 2 ^ 31) : 0 ≤ Int32.ofNat n := by
  rw [Int32.le_iff_toInt_le, Int32.toInt_ofNat_of_lt h]
  exact Int.natCast_nonneg n

/-- Reading a string that was written, for a length that fits. -/
theorem readString_writeString {s : String} (h : (bytesOf s).length < 2 ^ 31)
    (rest : List UInt8) : readString (writeString s ++ rest) = some (s, rest) := by
  have hlen : (Int32.ofNat (bytesOf s).length).toNatClampNeg = (bytesOf s).length :=
    Int32.toNatClampNeg_ofNat_of_lt h
  have hdecode : decodeUtf8 (bytesOf s) = some s := decodeUtf8_eq_some_iff.2 rfl
  simp [readString, writeString, VarInt.read_write, le_ofNat_of_lt h, hlen, hdecode]

/-! ## Numbers of a fixed width -/

/-- The `k` lowest bytes of a number, the highest first. -/
def writeBigEndian : Nat → Nat → List UInt8
  | 0, _ => []
  | k + 1, v => UInt8.ofNat (v / 256 ^ k) :: writeBigEndian k (v % 256 ^ k)

/-- Read a number of `k` bytes. -/
def readBigEndian : Nat → List UInt8 → Option (Nat × List UInt8)
  | 0, bs => some (0, bs)
  | _ + 1, [] => none
  | k + 1, b :: bs => (readBigEndian k bs).map fun p => (b.toNat * 256 ^ k + p.1, p.2)

theorem readBigEndian_writeBigEndian {k v : Nat} (hv : v < 256 ^ k) (rest : List UInt8) :
    readBigEndian k (writeBigEndian k v ++ rest) = some (v, rest) := by
  induction k generalizing v with
  | zero =>
      have hzero : v = 0 := by simpa using hv
      rw [hzero]
      rfl
  | succ k ih =>
      have hpos : 0 < 256 ^ k := Nat.pow_pos (by decide)
      -- the first byte is the quotient, the later bytes are the remainder
      have hbyte : v / 256 ^ k < 2 ^ 8 := by
        apply Nat.div_lt_of_lt_mul
        rw [Nat.pow_succ] at hv
        omega
      rw [writeBigEndian, List.cons_append, readBigEndian, ih (Nat.mod_lt v hpos),
        UInt8.toNat_ofNat_of_lt' hbyte, Option.map_some, Nat.div_add_mod']

end SteelProxy.Library.Wire
