/-
This file models the libraries `BytesLib` and `BytesArrayUtils`, which read
addresses, fees and booleans out of tightly packed bytes, and the packed
encoding of such values. A packed value has no length in front of it and no
padding, so it is read back by its offset alone. Offsets into an array never
wrap around.
-/

import IndexProtocol.Lib.SafeMath
import IndexProtocol.Library.Words

namespace IndexProtocol

open Revert

/-! ### The packed encoding -/

def packAddress (value : Address) : Bytes := Words.ofNat 20 value.toNat

def packUint24 (value : BitVec 24) : Bytes := Words.ofNat 3 value.toNat

def packBool (value : Bool) : Bytes := [if value then 1 else 0]

@[simp] theorem length_packAddress (value : Address) : (packAddress value).length = 20 :=
  Words.length_ofNat 20 _

@[simp] theorem length_packUint24 (value : BitVec 24) : (packUint24 value).length = 3 :=
  Words.length_ofNat 3 _

@[simp] theorem length_packBool (value : Bool) : (packBool value).length = 1 := rfl

theorem packAddress_injective : Function.Injective packAddress := fun first second same =>
  BitVec.eq_of_toNat_eq ((Words.ofNat_inj first.isLt second.isLt).mp same)

theorem packUint24_injective : Function.Injective packUint24 := fun first second same =>
  BitVec.eq_of_toNat_eq ((Words.ofNat_inj first.isLt second.isLt).mp same)

/-! ### Reading -/

namespace BytesLib

def slice (bytes : Bytes) (start length : Nat) : Outcome Bytes := do
  require (length ≤ length + 31) "slice_overflow"
  require (start ≤ start + length) "slice_overflow"
  require (start + length ≤ bytes.length) "slice_outOfBounds"
  pure ((bytes.drop start).take length)

def toAddress (bytes : Bytes) (start : Nat) : Outcome Address := do
  require (start ≤ start + 20) "toAddress_overflow"
  require (start + 20 ≤ bytes.length) "toAddress_outOfBounds"
  pure (BitVec.ofNat 160 (Words.toNat ((bytes.drop start).take 20)))

/-- The bytes in front of the end are sliced off it. -/
theorem slice_prefix (initial final : Bytes) :
    slice (initial ++ final) 0 initial.length = .ok initial := by
  simp only [slice, bind_eq_ok, require_eq_ok, pure_eq_ok, exists_const]
  exact ⟨by omega, by omega, by simp, by simp⟩

/-- A packed address is read back from the offset it was written at. -/
theorem toAddress_packed (initial final : Bytes) (value : Address) :
    toAddress (initial ++ (packAddress value ++ final)) initial.length = .ok value := by
  simp only [toAddress, bind_eq_ok, require_eq_ok, pure_eq_ok, exists_const]
  refine ⟨by omega, by simp, ?_⟩
  rw [List.drop_left, List.take_append_of_le_length (length_packAddress value).ge,
    List.take_of_length_le (length_packAddress value).le]
  exact Words.ofNat_toNat_ofNat (by decide) value

end BytesLib

namespace BytesArrayUtils

def toBool (bytes : Bytes) (start : Nat) : Outcome Bool := do
  require (start ≤ start + 1) "toBool_overflow"
  require (start + 1 ≤ bytes.length) "toBool_outOfBounds"
  let value := Words.toNat ((bytes.drop start).take 1)
  require (value ≤ 1) "Invalid bool data"
  pure (if value = 0 then false else true)

/-- A packed boolean is read back from the offset it was written at. -/
theorem toBool_packed (initial : Bytes) (value : Bool) :
    toBool (initial ++ packBool value) initial.length = .ok value := by
  simp only [toBool, bind_eq_ok, require_eq_ok, pure_eq_ok, exists_const, List.drop_left]
  refine ⟨by omega, by simp, ?_⟩
  cases value
  · exact ⟨by decide, by decide⟩
  · exact ⟨by decide, by decide⟩

end BytesArrayUtils

end IndexProtocol
