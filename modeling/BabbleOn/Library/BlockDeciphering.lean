import Mathlib.Logic.Equiv.Defs
import BabbleOn.Library.CipherBlockChaining

namespace CipherBlockChaining

variable {size : Nat}

def front (text : List (BitVec 8)) : Block size := Vector.ofFn fun i => text.getD i 0#8

def unchain (cipher : Equiv.Perm (Block size)) :
    Nat → Block size → List (BitVec 8) → List (BitVec 8) × Block size
  | 0, previous, _ => ([], previous)
  | n + 1, previous, text =>
    let next := unchain cipher n (front text) (text.drop size)
    ((mix previous (cipher.symm (front text)).toList).toList ++ next.1, next.2)

def unpad (size : Nat) (text : List (BitVec 8)) : Option (List (BitVec 8)) :=
  let last := text.getLastD 0#8
  if 0 < last.toNat ∧ last.toNat ≤ size ∧
      text.drop (text.length - last.toNat) = List.replicate last.toNat last
  then some (text.take (text.length - last.toNat)) else none

def recover (cipher : Equiv.Perm (Block size)) (iv : Block size) (text : List (BitVec 8)) :
    Option (List (BitVec 8)) :=
  if text.length % size = 0 then unpad size (unchain cipher (text.length / size) iv text).1 else none

-- a block that may be the last one is kept, its padding is to be taken off
def Stream.reveal (cipher : Equiv.Perm (Block size)) (s : Stream size) (text : List (BitVec 8)) :
    List (BitVec 8) × Stream size :=
  let all := s.buffered ++ text
  let count := (all.length - size) / size
  let out := unchain cipher count s.previous all
  (out.1, ⟨out.2, all.drop (size * count)⟩)

def Stream.complete (cipher : Equiv.Perm (Block size)) (s : Stream size) (text : List (BitVec 8)) :
    Option (List (BitVec 8)) :=
  recover cipher s.previous (s.buffered ++ text)

section Blocks

variable {cipher : Equiv.Perm (Block size)} {previous iv : Block size} {text more : List (BitVec 8)}

theorem front_toList (h : size ≤ text.length) :
    (front text : Block size).toList = text.take size := by
  apply List.ext_getElem
  · rw [Vector.length_toList, List.length_take_of_le h]
  · intro i hi _
    rw [Vector.length_toList] at hi
    simp only [front, Vector.getElem_toList, Vector.getElem_ofFn, List.getElem_take]
    exact List.getD_eq_getElem _ _ (Nat.lt_of_lt_of_le hi h)

theorem front_append (block : Block size) : front (block.toList ++ more) = block := by
  apply Vector.ext
  intro i hi
  rw [front, Vector.getElem_ofFn, List.getD_append _ _ _ _ (by rwa [Vector.length_toList]),
    List.getD_eq_getElem _ _ (by rwa [Vector.length_toList]), Vector.getElem_toList]

theorem mix_mix (previous : Block size) (text : List (BitVec 8)) :
    mix previous (mix previous text).toList = front text := by
  apply Vector.ext
  intro i hi
  rw [mix, Vector.getElem_ofFn, List.getD_eq_getElem _ _ (by rwa [Vector.length_toList]),
    Vector.getElem_toList, mix, Vector.getElem_ofFn, front, Vector.getElem_ofFn, ← BitVec.xor_assoc,
    BitVec.xor_self, BitVec.zero_xor]

theorem unchain_length (n : Nat) : (unchain cipher n previous text).1.length = size * n := by
  induction n generalizing previous text with
  | zero => rfl
  | succ n ih =>
    rw [unchain, List.length_append, ih, Vector.length_toList, Nat.mul_succ, Nat.add_comm]

theorem unchain_add (m n : Nat) : unchain cipher (m + n) previous text =
    let start := unchain cipher m previous text
    let rest := unchain cipher n start.2 (text.drop (size * m))
    (start.1 ++ rest.1, rest.2) := by
  induction m generalizing previous text with
  | zero => simp [unchain]
  | succ m ih =>
    rw [Nat.succ_add, unchain, unchain, ih, List.drop_drop]
    dsimp only
    rw [List.append_assoc, Nat.mul_succ, Nat.add_comm size]

theorem front_prefix (h : size ≤ text.length) : (front (text ++ more) : Block size) = front text := by
  unfold front
  congr 1
  funext i
  rw [List.getD_append _ _ _ _ (Nat.lt_of_lt_of_le i.isLt h)]

theorem unchain_append {n : Nat} (h : size * n ≤ text.length) :
    unchain cipher n previous (text ++ more) = unchain cipher n previous text := by
  induction n generalizing previous text with
  | zero => rfl
  | succ n ih =>
    rw [Nat.mul_succ] at h
    have hdrop : size * n ≤ (text.drop size).length := by
      rw [List.length_drop]
      omega
    rw [unchain, unchain, front_prefix (by omega), List.drop_append_of_le_length (by omega), ih hdrop]

theorem take_succ_blocks (n : Nat) :
    text.take (size * (n + 1)) = text.take size ++ (text.drop size).take (size * n) := by
  rw [Nat.mul_succ, Nat.add_comm, List.take_add]

theorem unchain_chain {n : Nat} (h : size * n ≤ text.length) (more : List (BitVec 8)) :
    unchain cipher n previous ((chain cipher n previous text).1 ++ more) =
      (text.take (size * n), (chain cipher n previous text).2) := by
  induction n generalizing previous text with
  | zero => simp [unchain, chain]
  | succ n ih =>
    rw [Nat.mul_succ] at h
    have hdrop : size * n ≤ (text.drop size).length := by
      rw [List.length_drop]
      omega
    have hblock : (cipher (mix previous text)).toList.length = size := Vector.length_toList
    rw [unchain, chain]
    dsimp only
    rw [List.append_assoc, front_append, cipher.symm_apply_apply, mix_mix, front_toList (by omega),
      List.drop_append_of_le_length (Nat.le_of_eq hblock.symm),
      List.drop_of_length_le (Nat.le_of_eq hblock), List.nil_append, ih hdrop, take_succ_blocks]

end Blocks

section Padding

variable {text plain : List (BitVec 8)}

theorem pad_count (hsize : 0 < size) :
    0 < size - text.length % size ∧ size - text.length % size ≤ size := by
  have hlt := Nat.mod_lt text.length hsize
  omega

theorem pad_length (hsize : 0 < size) :
    (pad size text).length = size * (text.length / size + 1) := by
  have hlt := Nat.mod_lt text.length hsize
  have hdiv := Nat.div_add_mod text.length size
  rw [pad, List.length_append, List.length_replicate, Nat.mul_succ]
  omega

theorem unpad_pad (hsize : 0 < size) (hbyte : size < 256) (text : List (BitVec 8)) :
    unpad size (pad size text) = some text := by
  obtain ⟨hpos, hle⟩ := @pad_count size text hsize
  rw [unpad, pad]
  generalize size - text.length % size = count at hpos hle
  obtain ⟨k, rfl⟩ := Nat.exists_eq_succ_of_ne_zero (Nat.ne_of_gt hpos)
  have hlast : (text ++ List.replicate (k + 1) (BitVec.ofNat 8 (k + 1))).getLastD 0#8 =
      BitVec.ofNat 8 (k + 1) := by
    rw [List.replicate_succ', ← List.append_assoc, List.getLastD_concat]
  have hnat : (BitVec.ofNat 8 (k + 1)).toNat = k + 1 := by
    rw [BitVec.toNat_ofNat]
    omega
  have hlen : (text ++ List.replicate (k + 1) (BitVec.ofNat 8 (k + 1))).length - (k + 1) =
      text.length := by
    rw [List.length_append, List.length_replicate, Nat.add_sub_cancel]
  rw [hlast, hnat, hlen, List.drop_left, List.take_left, if_pos ⟨hpos, hle, rfl⟩]

theorem unpad_append {start : List (BitVec 8)} (h : size ≤ text.length) :
    unpad size (start ++ text) = (unpad size text).map (start ++ ·) := by
  rcases List.eq_nil_or_concat text with rfl | ⟨init, last, rfl⟩
  · have hnone : size = 0 := Nat.le_zero.mp h
    subst hnone
    have hnot (n : Nat) : ¬ (0 < n ∧ n ≤ 0) := by omega
    simp only [unpad, ← and_assoc, hnot, false_and, if_false, Option.map_none]
  · rw [List.concat_eq_append] at h ⊢
    simp only [unpad, ← List.append_assoc, List.getLastD_concat]
    rw [List.append_assoc]
    by_cases hle : last.toNat ≤ size
    · have hcut : (start ++ (init ++ [last])).length - last.toNat =
          start.length + ((init ++ [last]).length - last.toNat) := by
        rw [List.length_append]
        omega
      rw [hcut, List.drop_append, List.take_append]
      simp only [Nat.le_add_right, List.drop_of_length_le, List.nil_append, Nat.add_sub_cancel_left,
        List.take_of_length_le]
      split <;> rfl
    · rw [if_neg fun hpadded => hle hpadded.2.1, if_neg fun hpadded => hle hpadded.2.1, Option.map_none]

end Padding

section Recovery

variable {cipher : Equiv.Perm (Block size)} {iv : Block size} {text plain : List (BitVec 8)}

theorem recover_whole (hsize : 0 < size) (hbyte : size < 256) (plain : List (BitVec 8)) :
    recover cipher iv (whole cipher iv plain) = some plain := by
  have hlen : (whole cipher iv plain).length = size * (plain.length / size + 1) := whole_length plain
  have hpad := @pad_length size plain hsize
  have hback := @unchain_chain _ cipher iv _ _ (Nat.le_of_eq hpad.symm) []
  rw [List.append_nil, List.take_of_length_le (Nat.le_of_eq hpad)] at hback
  rw [recover, hlen, if_pos (Nat.mul_mod_right _ _), Nat.mul_div_cancel_left _ hsize, whole, hback,
    unpad_pad hsize hbyte]

theorem complete_reveal (hsize : 0 < size) (s : Stream size) (text more : List (BitVec 8)) :
    ((s.reveal cipher text).2.complete cipher more).map ((s.reveal cipher text).1 ++ ·) =
      s.complete cipher (text ++ more) := by
  have hall : s.buffered ++ (text ++ more) = s.buffered ++ text ++ more := by
    rw [List.append_assoc]
  rw [Stream.complete, Stream.complete, hall]
  simp only [Stream.reveal]
  generalize s.buffered ++ text = all
  have hcut : size * ((all.length - size) / size) ≤ all.length := by
    have hle := Nat.mul_div_le (all.length - size) size
    omega
  generalize hcount : (all.length - size) / size = count at hcut
  have hsplit : (all ++ more).length = size * count + (all.drop (size * count) ++ more).length := by
    rw [List.length_append, List.length_append, List.length_drop]
    omega
  have hmod : (all ++ more).length % size = (all.drop (size * count) ++ more).length % size := by
    rw [hsplit, Nat.mul_add_mod]
  have hdiv : (all ++ more).length / size =
      count + (all.drop (size * count) ++ more).length / size := by
    rw [hsplit, Nat.mul_add_div hsize]
  have hdrop : (all ++ more).drop (size * count) = all.drop (size * count) ++ more :=
    List.drop_append_of_le_length hcut
  rw [recover, recover, hmod]
  split
  · rename_i hwhole
    rw [hdiv, unchain_add, hdrop]
    dsimp only
    rw [unchain_append hcut]
    rcases Nat.eq_zero_or_pos (all.drop (size * count) ++ more).length with hnone | hpos
    · have hzero : count = 0 := by
        rw [List.length_append, List.length_drop] at hnone
        have hle := Nat.mul_div_le (all.length - size) size
        rw [hcount] at hle
        rcases Nat.eq_zero_or_pos count with hzero | hsome
        · exact hzero
        · have hone : size * 1 ≤ size * count := Nat.mul_le_mul_left size hsome
          omega
      subst hzero
      simp only [unchain, List.nil_append, Option.map_id']
    · refine (unpad_append ?_).symm
      rw [unchain_length, Nat.mul_div_cancel' (Nat.dvd_of_mod_eq_zero hwhole)]
      exact Nat.le_of_dvd hpos (Nat.dvd_of_mod_eq_zero hwhole)
  · rfl

end Recovery

end CipherBlockChaining
