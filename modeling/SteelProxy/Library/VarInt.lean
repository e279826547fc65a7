import Mathlib.Algebra.Group.Nat.Defs
import Mathlib.Data.Nat.Basic
import Mathlib.Tactic.Common

/-!
# 32-bit variable-length integers

An integer is written in groups of seven bits, the lowest first, with the high bit of a byte set
when another group follows. A 32-bit value takes at most five groups, and a reader gives up after
the fifth; bits beyond the 32nd are dropped. Reading what was written gives back the value and
the bytes that follow (`read_write`).
-/

set_option autoImplicit false

namespace SteelProxy.Library.VarInt

/-- The groups of a number, at most `k + 1`. -/
def writeGroups : Nat → Nat → List UInt8
  | 0, v => [UInt8.ofNat v]
  | k + 1, v =>
      if v < 128 then [UInt8.ofNat v]
      else UInt8.ofNat (v % 128 + 128) :: writeGroups k (v / 128)

/-- The number in at most `k` groups, with the bytes that follow. -/
def readGroups : Nat → List UInt8 → Option (Nat × List UInt8)
  | 0, _ => none
  | _ + 1, [] => none
  | k + 1, b :: bs =>
      if b.toNat < 128 then some (b.toNat, bs)
      else (readGroups k bs).map fun p => (b.toNat % 128 + 128 * p.1, p.2)

/-- Write a signed 32-bit integer by its two's complement. -/
def write (i : Int32) : List UInt8 := writeGroups 4 i.toUInt32.toNat

/-- Read a signed 32-bit integer. -/
def read (bs : List UInt8) : Option (Int32 × List UInt8) :=
  (readGroups 5 bs).map fun p => ((UInt32.ofNat p.1).toInt32, p.2)

/-- A group without the high bit is the last one. -/
theorem readGroups_last {v : Nat} (hv : v < 128) (k : Nat) (rest : List UInt8) :
    readGroups (k + 1) (UInt8.ofNat v :: rest) = some (v, rest) := by
  have hbyte : v < 2 ^ 8 := by omega
  rw [readGroups, UInt8.toNat_ofNat_of_lt' hbyte, if_pos hv]

theorem readGroups_writeGroups {k v : Nat} (hv : v < 128 ^ (k + 1)) (rest : List UInt8) :
    readGroups (k + 1) (writeGroups k v ++ rest) = some (v, rest) := by
  induction k generalizing v with
  | zero => exact readGroups_last (by omega) 0 rest
  | succ k ih =>
      rw [writeGroups]
      by_cases hsmall : v < 128
      · rw [if_pos hsmall]
        exact readGroups_last hsmall (k + 1) rest
      · rw [if_neg hsmall, List.cons_append, readGroups]
        have hdiv : v / 128 < 128 ^ (k + 1) := by
          rw [Nat.pow_succ] at hv
          apply Nat.div_lt_of_lt_mul
          omega
        -- the first byte has the high bit set, so the reader goes on with the groups of `v / 128`
        have hbyte : v % 128 + 128 < 2 ^ 8 := by omega
        have hvalue : (v % 128 + 128) % 128 + 128 * (v / 128) = v := by omega
        rw [UInt8.toNat_ofNat_of_lt' hbyte, if_neg (by omega), ih hdiv, Option.map_some, hvalue]

/-- Reading what was written. -/
theorem read_write (i : Int32) (rest : List UInt8) : read (write i ++ rest) = some (i, rest) := by
  have hlt : i.toUInt32.toNat < 128 ^ 5 := lt_trans i.toUInt32.toNat_lt (by decide)
  rw [read, write, readGroups_writeGroups hlt, Option.map_some]
  simp

end SteelProxy.Library.VarInt
