/-
This file collects the rules for numbers stored as bytes, most significant byte
first: what a list of bytes stands for, the bytes of a number in a fixed width,
and reading the word at an index of a longer list. A number that fits its width
is read back from its bytes, and records of one width that are packed without
separators are told apart by what they are packed into.
-/

import Mathlib.Data.List.Induction
import Mathlib.Algebra.Order.Group.Nat

namespace Words

/-! ### Bytes as numbers -/

/-- The number a list of bytes stands for. -/
def toNat (bytes : List (BitVec 8)) : Nat :=
  bytes.foldl (fun value byte => value * 256 + byte.toNat) 0

/-- The last bytes of a number, in the given width. -/
def ofNat : Nat → Nat → List (BitVec 8)
  | 0, _ => []
  | width + 1, value => ofNat width (value / 256) ++ [BitVec.ofNat 8 value]

/-- The word at an index, shorter where the list ends. -/
def word (width index : Nat) (bytes : List (BitVec 8)) : List (BitVec 8) :=
  (bytes.drop (width * index)).take width

section Laws

variable (bytes : List (BitVec 8)) (width value : Nat)

@[simp] theorem toNat_nil : toNat [] = 0 := rfl

@[simp] theorem toNat_append_singleton (byte : BitVec 8) :
    toNat (bytes ++ [byte]) = toNat bytes * 256 + byte.toNat := by
  unfold toNat
  rw [List.foldl_append]
  rfl

theorem toNat_lt : toNat bytes < 256 ^ bytes.length := by
  induction bytes using List.reverseRecOn with
  | nil => exact Nat.one_pos
  | append_singleton rest byte inductionHypothesis =>
    have small := byte.isLt
    rw [toNat_append_singleton, List.length_append, List.length_singleton, pow_succ]
    omega

@[simp] theorem length_ofNat : (ofNat width value).length = width := by
  induction width generalizing value with
  | zero => rfl
  | succ width inductionHypothesis =>
    rw [ofNat, List.length_append, inductionHypothesis, List.length_singleton]

/-- The bytes of a number stand for it up to the width. -/
theorem toNat_ofNat : toNat (ofNat width value) = value % 256 ^ width := by
  induction width generalizing value with
  | zero => rw [ofNat, toNat_nil, pow_zero, Nat.mod_one]
  | succ width inductionHypothesis =>
    have byte : value % 2 ^ 8 = value % 256 := rfl
    rw [ofNat, toNat_append_singleton, inductionHypothesis, BitVec.toNat_ofNat, byte,
      pow_succ' 256, Nat.mod_mul]
    omega

theorem length_word_le (index : Nat) : (word width index bytes).length ≤ width :=
  List.length_take_le _ _

theorem toNat_word_lt (index : Nat) : toNat (word width index bytes) < 256 ^ width :=
  (toNat_lt _).trans_le (Nat.pow_le_pow_right (by decide) (length_word_le bytes width index))

/-- The first word of a list that starts with it. -/
theorem word_zero_append (first rest : List (BitVec 8)) (length : first.length = width) :
    word width 0 (first ++ rest) = first := by
  unfold word
  rw [Nat.mul_zero, List.drop_zero, List.take_append_of_le_length length.ge, ← length,
    List.take_length]

/-- The later words of a list that starts with a word are those of the rest. -/
theorem word_succ_append (first rest : List (BitVec 8)) (length : first.length = width)
    (index : Nat) : word width (index + 1) (first ++ rest) = word width index rest := by
  unfold word
  rw [Nat.mul_add, Nat.mul_one, Nat.add_comm, ← List.drop_drop, ← length, List.drop_left]

/-- A number that fits the width is told apart from every other one by its bytes. -/
theorem ofNat_inj {width first second : Nat} (firstFits : first < 256 ^ width)
    (secondFits : second < 256 ^ width) :
    ofNat width first = ofNat width second ↔ first = second := by
  refine ⟨fun same => ?_, fun same => congrArg _ same⟩
  have numbers := congrArg toNat same
  rwa [toNat_ofNat, toNat_ofNat, Nat.mod_eq_of_lt firstFits, Nat.mod_eq_of_lt secondFits]
    at numbers

/-- A bit vector whose width is a number of bytes is read back from them. -/
theorem ofNat_toNat_ofNat {bits width : Nat} (whole : 2 ^ bits = 256 ^ width)
    (value : BitVec bits) : BitVec.ofNat bits (toNat (ofNat width value.toNat)) = value := by
  rw [toNat_ofNat, ← whole, Nat.mod_eq_of_lt value.isLt, BitVec.ofNat_toNat, BitVec.setWidth_eq]

end Laws

/-! ### Records of one width -/

section Records

variable {Record Byte : Type} {encode : Record → List Byte} {width : Nat}

theorem length_flatMap_of_width (fixed : ∀ record, (encode record).length = width)
    (records : List Record) : (records.flatMap encode).length = width * records.length := by
  induction records with
  | nil => rfl
  | cons record rest inductionHypothesis =>
    rw [List.flatMap_cons, List.length_append, fixed, inductionHypothesis, List.length_cons,
      Nat.mul_succ, Nat.add_comm]

/-- Records of one width that are written one after the other are told apart by their bytes. -/
theorem flatMap_injective_of_width (positive : 0 < width)
    (fixed : ∀ record, (encode record).length = width) (injective : Function.Injective encode) :
    Function.Injective fun records : List Record => records.flatMap encode := by
  intro first second same
  have length := congrArg List.length same
  simp only [length_flatMap_of_width fixed] at length
  have count := Nat.eq_of_mul_eq_mul_left positive length
  clear length
  induction first generalizing second with
  | nil => exact (List.eq_nil_of_length_eq_zero count.symm).symm
  | cons record rest inductionHypothesis =>
    cases second with
    | nil => cases count
    | cons other others =>
      obtain ⟨head, tail⟩ := List.append_inj same ((fixed record).trans (fixed other).symm)
      rw [injective head, inductionHypothesis tail (Nat.succ.inj count)]

end Records

end Words
