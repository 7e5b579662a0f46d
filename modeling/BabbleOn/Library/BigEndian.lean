import Mathlib.Data.List.Basic
import Mathlib.Tactic.Ring

namespace BigEndian

variable {w k : Nat}

def encode (w k : Nat) (x : BitVec w) : List (BitVec 8) :=
  (List.range k).map fun i => (x.sshiftRight (8 * (k - 1 - i))).setWidth 8

def decode (w k : Nat) (b : Nat → BitVec 8) : BitVec w :=
  (List.range k).foldl (fun n i => n ||| (b i).setWidth w <<< (8 * (k - 1 - i))) 0#w

@[simp] theorem encode_length (x : BitVec w) : (encode w k x).length = k := by
  simp [encode]

theorem getElem?_encode (x : BitVec w) {i : Nat} (hi : i < k) :
    (encode w k x)[i]? = some ((x.sshiftRight (8 * (k - 1 - i))).setWidth 8) := by
  simp [encode, hi]

theorem foldl_or_bit (l : List Nat) (f : Nat → BitVec w) (a : BitVec w) (j : Nat) :
    (l.foldl (fun n i => n ||| f i) a).getLsbD j =
      (a.getLsbD j || l.any fun i => (f i).getLsbD j) := by
  induction l generalizing a with
  | nil => simp
  | cons i l ih => simp [ih, Bool.or_assoc]

theorem placed_bit (b : BitVec 8) (s : Nat) {j : Nat} (hj : j < w) :
    (b.setWidth w <<< s).getLsbD j = (decide (s ≤ j) && b.getLsbD (j - s)) := by
  rw [BitVec.getLsbD_shiftLeft, BitVec.getLsbD_setWidth]
  have hs : j - s < w := by omega
  by_cases h : s ≤ j <;> simp [hj, hs, h]

theorem decode_bit (hw : w = 8 * k) (b : Nat → BitVec 8) {j : Nat} (hj : j < w) :
    (decode w k b).getLsbD j = (b (k - 1 - j / 8)).getLsbD (j % 8) := by
  have hk : k - 1 - j / 8 < k := by omega
  have hs : 8 * (k - 1 - (k - 1 - j / 8)) = 8 * (j / 8) := by omega
  unfold decode
  rw [foldl_or_bit, BitVec.getLsbD_zero, Bool.false_or, Bool.eq_iff_iff, List.any_eq_true]
  constructor
  · rintro ⟨i, hi, hb⟩
    rw [placed_bit _ _ hj, Bool.and_eq_true, decide_eq_true_eq] at hb
    obtain ⟨hle, hbit⟩ := hb
    have hlt : j - 8 * (k - 1 - i) < 8 := BitVec.lt_of_getLsbD hbit
    have hik : i < k := List.mem_range.mp hi
    have hi' : i = k - 1 - j / 8 := by omega
    have hm : j - 8 * (k - 1 - i) = j % 8 := by omega
    rwa [hm, hi'] at hbit
  · intro hbit
    refine ⟨k - 1 - j / 8, List.mem_range.mpr hk, ?_⟩
    rw [placed_bit _ _ hj, hs, Bool.and_eq_true, decide_eq_true_eq]
    have hm : j - 8 * (j / 8) = j % 8 := by omega
    exact ⟨by omega, by rwa [hm]⟩

theorem decode_reverse (b : Nat → BitVec 8) :
    (List.range k).reverse.foldl (fun n i => n ||| (b i).setWidth w <<< (8 * (k - 1 - i))) 0#w =
      decode w k b := by
  apply BitVec.eq_of_getLsbD_eq
  intro j _
  rw [decode, foldl_or_bit, foldl_or_bit, List.any_reverse]

theorem decode_congr {b c : Nat → BitVec 8} (h : ∀ i < k, b i = c i) :
    decode w k b = decode w k c := by
  unfold decode
  apply List.foldl_ext
  intro n i hi
  rw [h i (List.mem_range.mp hi)]

theorem shifted_byte_bit (hw : w = 8 * k) (x : BitVec w) {i m : Nat} (hi : i < k) (hm : m < 8) :
    ((x.sshiftRight (8 * (k - 1 - i))).setWidth 8).getLsbD m =
      x.getLsbD (8 * (k - 1 - i) + m) := by
  rw [BitVec.getLsbD_setWidth, BitVec.getLsbD_sshiftRight]
  have h : 8 * (k - 1 - i) + m < w := by omega
  have hmw : ¬ w ≤ m := by omega
  simp [hm, h, hmw]

theorem decode_encode (hw : w = 8 * k) (x : BitVec w) :
    decode w k (fun i => (encode w k x).getD i 0#8) = x := by
  apply BitVec.eq_of_getLsbD_eq
  intro j hj
  have hi : k - 1 - j / 8 < k := by omega
  rw [decode_bit hw _ hj, List.getD_eq_getElem?_getD, getElem?_encode x hi, Option.getD_some,
    shifted_byte_bit hw x hi (Nat.mod_lt _ (by omega))]
  congr 1
  omega

theorem encode_decode (hw : w = 8 * k) (bs : List (BitVec 8)) (hl : bs.length = k) :
    encode w k (decode w k fun i => bs.getD i 0#8) = bs := by
  apply List.ext_getElem?
  intro i
  by_cases hi : i < k
  · rw [getElem?_encode _ hi, List.getElem?_eq_getElem (by omega)]
    congr 1
    apply BitVec.eq_of_getLsbD_eq
    intro m hm
    rw [shifted_byte_bit hw _ hi hm, decode_bit hw _ (by omega)]
    have h1 : k - 1 - (8 * (k - 1 - i) + m) / 8 = i := by omega
    have h2 : (8 * (k - 1 - i) + m) % 8 = m := by omega
    rw [h1, h2, List.getD_eq_getElem?_getD, List.getElem?_eq_getElem (by omega), Option.getD_some]
  · rw [List.getElem?_eq_none (by simpa using Nat.not_lt.mp hi),
      List.getElem?_eq_none (by omega)]

theorem encode_injective (hw : w = 8 * k) {x y : BitVec w} (h : encode w k x = encode w k y) :
    x = y := by
  rw [← decode_encode hw x, ← decode_encode hw y, h]

end BigEndian

namespace SignedWords

theorem toInt_ofNat {w n : Nat} (hn : 2 * n < 2 ^ w) : (BitVec.ofNat w n).toInt = n := by
  have hb : (BitVec.ofNat w n).toNat = n := by
    rw [BitVec.toNat_ofNat, Nat.mod_eq_of_lt (by omega)]
  rw [BitVec.toInt_eq_toNat_of_lt (by omega), hb]

theorem toInt_ofNat_small {n : Nat} (hn : n < 2 ^ 31) : (BitVec.ofNat 32 n).toInt = n :=
  toInt_ofNat (by omega)

theorem toInt_ofNat_long {n : Nat} (hn : n < 2 ^ 63) : (BitVec.ofNat 64 n).toInt = n :=
  toInt_ofNat (by omega)

end SignedWords
