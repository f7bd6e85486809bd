/-
This file models the encoding of static values in call data: every value takes a
word of thirty-two bytes, and a boolean is a word that is zero or one. Reading a
list of values that is too short, or a boolean that is neither, reverts.
-/

import IndexProtocol.Lib.SafeMath
import IndexProtocol.Library.Words

namespace IndexProtocol

open Revert

namespace AbiCoder

/-- The `uint256` at a word. -/
def uint256 (data : Bytes) (index : Nat) : Nat := Words.toNat (Words.word 32 index data)

def decodeBool (data : Bytes) (index : Nat) : Outcome Bool := do
  require (uint256 data index ≤ 1) "invalid boolean"
  pure (decide (uint256 data index = 1))

/-- The data must hold all the words that are read. -/
def validateLength (data : Bytes) (words : Nat) : Outcome Unit :=
  require (32 * words ≤ data.length) "calldata too short"

def encodeUint256 (value : Nat) : Bytes := Words.ofNat 32 value

def encodeBool (value : Bool) : Bytes := encodeUint256 (if value then 1 else 0)

theorem uint256_lt (data : Bytes) (index : Nat) : uint256 data index < 2 ^ 256 :=
  Words.toNat_word_lt data 32 index

section RoundTrip

variable (value index : Nat) (rest : Bytes)

@[simp] theorem length_encodeUint256 : (encodeUint256 value).length = 32 :=
  Words.length_ofNat 32 value

/-- A value that fits is read back from the word it starts with. -/
theorem uint256_encode (fits : value < 2 ^ 256) :
    uint256 (encodeUint256 value ++ rest) 0 = value := by
  unfold uint256
  rw [Words.word_zero_append 32 _ _ (length_encodeUint256 value), encodeUint256,
    Words.toNat_ofNat]
  exact Nat.mod_eq_of_lt fits

theorem uint256_encode_succ :
    uint256 (encodeUint256 value ++ rest) (index + 1) = uint256 rest index := by
  unfold uint256
  rw [Words.word_succ_append 32 _ _ (length_encodeUint256 value)]

theorem uint256_encode_last (fits : value < 2 ^ 256) :
    uint256 (encodeUint256 value) 0 = value := by
  have whole := uint256_encode value [] fits
  rwa [List.append_nil] at whole

/-- A boolean is read back from the word it starts with. -/
theorem decodeBool_encode (flag : Bool) : decodeBool (encodeBool flag ++ rest) 0 = .ok flag := by
  have small : (if flag then 1 else 0) < 2 ^ 256 := by split <;> decide
  unfold decodeBool encodeBool
  rw [uint256_encode _ _ small]
  cases flag <;> rfl

theorem decodeBool_encode_succ :
    decodeBool (encodeUint256 value ++ rest) (index + 1) = decodeBool rest index := by
  unfold decodeBool
  rw [uint256_encode_succ]

end RoundTrip

end AbiCoder

end IndexProtocol
