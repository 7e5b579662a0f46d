import Mathlib.Data.List.GetD

namespace CipherBlockChaining

abbrev Block (size : Nat) : Type := Vector (BitVec 8) size

variable {size : Nat}

def mix (previous : Block size) (text : List (BitVec 8)) : Block size :=
  Vector.ofFn fun i => previous[i] ^^^ text.getD i 0#8

def chain (cipher : Block size → Block size) :
    Nat → Block size → List (BitVec 8) → List (BitVec 8) × Block size
  | 0, previous, _ => ([], previous)
  | n + 1, previous, text =>
    let block := cipher (mix previous text)
    let next := chain cipher n block (text.drop size)
    (block.toList ++ next.1, next.2)

def pad (size : Nat) (text : List (BitVec 8)) : List (BitVec 8) :=
  let count := size - text.length % size
  text ++ List.replicate count (BitVec.ofNat 8 count)

def whole (cipher : Block size → Block size) (iv : Block size) (text : List (BitVec 8)) :
    List (BitVec 8) :=
  (chain cipher (text.length / size + 1) iv (pad size text)).1

structure Stream (size : Nat) where
  previous : Block size
  buffered : List (BitVec 8)

def Stream.update (cipher : Block size → Block size) (s : Stream size) (text : List (BitVec 8)) :
    List (BitVec 8) × Stream size :=
  let all := s.buffered ++ text
  let out := chain cipher (all.length / size) s.previous all
  (out.1, ⟨out.2, all.drop (size * (all.length / size))⟩)

def Stream.finish (cipher : Block size → Block size) (s : Stream size) (text : List (BitVec 8)) :
    List (BitVec 8) :=
  whole cipher s.previous (s.buffered ++ text)

variable {cipher : Block size → Block size} {previous iv : Block size} {text more : List (BitVec 8)}

theorem mix_append (h : size ≤ text.length) : mix previous (text ++ more) = mix previous text := by
  unfold mix
  congr 1
  funext i
  rw [List.getD_append _ _ _ _ (Nat.lt_of_lt_of_le i.isLt h)]

theorem chain_length (n : Nat) : (chain cipher n previous text).1.length = size * n := by
  induction n generalizing previous text with
  | zero => rfl
  | succ n ih =>
    rw [chain, List.length_append, ih, Vector.length_toList, Nat.mul_succ, Nat.add_comm]

theorem chain_append {n : Nat} (h : size * n ≤ text.length) :
    chain cipher n previous (text ++ more) = chain cipher n previous text := by
  induction n generalizing previous text with
  | zero => rfl
  | succ n ih =>
    rw [Nat.mul_succ] at h
    have hdrop : size * n ≤ (text.drop size).length := by
      rw [List.length_drop]
      omega
    rw [chain, chain, mix_append (by omega), List.drop_append_of_le_length (by omega), ih hdrop]

theorem chain_add (m n : Nat) : chain cipher (m + n) previous text =
    let front := chain cipher m previous text
    let back := chain cipher n front.2 (text.drop (size * m))
    (front.1 ++ back.1, back.2) := by
  induction m generalizing previous text with
  | zero => simp [chain]
  | succ m ih =>
    rw [Nat.succ_add, chain, chain, ih, List.drop_drop]
    dsimp only
    rw [List.append_assoc, Nat.mul_succ, Nat.add_comm size]

theorem pad_append {n : Nat} (h : text.length = size * n) :
    pad size (text ++ more) = text ++ pad size more := by
  have hmod : (text ++ more).length % size = more.length % size := by
    rw [List.length_append, h, Nat.mul_add_mod]
  simp only [pad, hmod, List.append_assoc]

theorem whole_length (text : List (BitVec 8)) :
    (whole cipher iv text).length = size * (text.length / size + 1) :=
  chain_length _

theorem whole_append (hsize : 0 < size) {n : Nat} (h : text.length = size * n) :
    whole cipher iv (text ++ more) =
      (chain cipher n iv text).1 ++ whole cipher (chain cipher n iv text).2 more := by
  have hcount : (text ++ more).length / size + 1 = n + (more.length / size + 1) := by
    rw [List.length_append, h, Nat.mul_add_div hsize, Nat.add_assoc]
  unfold whole
  rw [hcount, pad_append h, chain_add]
  dsimp only
  rw [chain_append (Nat.le_of_eq h.symm), List.drop_append_of_le_length (Nat.le_of_eq h.symm),
    List.drop_of_length_le (Nat.le_of_eq h), List.nil_append]

theorem finish_update (hsize : 0 < size) (s : Stream size) (text more : List (BitVec 8)) :
    (s.update cipher text).1 ++ (s.update cipher text).2.finish cipher more =
      s.finish cipher (text ++ more) := by
  have hle : size * ((s.buffered ++ text).length / size) ≤ (s.buffered ++ text).length :=
    Nat.mul_div_le _ size
  generalize hn : (s.buffered ++ text).length / size = n at hle
  have hfront : ((s.buffered ++ text).take (size * n)).length = size * n :=
    List.length_take_of_le hle
  have hall : s.buffered ++ (text ++ more) = (s.buffered ++ text).take (size * n) ++
      ((s.buffered ++ text).drop (size * n) ++ more) := by
    rw [← List.append_assoc, ← List.append_assoc, List.take_append_drop]
  have hchain : chain cipher n s.previous (s.buffered ++ text) =
      chain cipher n s.previous ((s.buffered ++ text).take (size * n)) := by
    rw [← chain_append (Nat.le_of_eq hfront.symm), List.take_append_drop]
  rw [Stream.finish, Stream.finish, hall, whole_append hsize hfront]
  simp only [Stream.update, hn, hchain]

end CipherBlockChaining
