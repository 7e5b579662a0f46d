import Mathlib.Data.List.Induction
import Mathlib.Data.Nat.Digits.Defs

namespace Hexadecimal

-- the last `k` base 16 digits, the most significant first
def fixed : Nat → Nat → List Nat
  | 0, _ => []
  | k + 1, n => fixed k (n / 16) ++ [n % 16]

@[simp] theorem fixed_length (k n : Nat) : (fixed k n).length = k := by
  induction k generalizing n with
  | zero => rfl
  | succ k ih => simp [fixed, ih]

theorem fixed_zero (k : Nat) : fixed k 0 = List.replicate k 0 := by
  induction k with
  | zero => rfl
  | succ k ih => rw [fixed, ih, List.replicate_succ']

theorem fixed_lt {k n d : Nat} (h : d ∈ fixed k n) : d < 16 := by
  induction k generalizing n with
  | zero => simp [fixed] at h
  | succ k ih =>
    rcases List.mem_append.mp h with h | h
    · exact ih h
    · rw [List.mem_singleton.mp h]
      exact Nat.mod_lt n (by decide)

theorem leftpad_digits {k n : Nat} (hn : n < 16 ^ k) :
    List.leftpad k 0 (Nat.digits 16 n).reverse = fixed k n := by
  induction k generalizing n with
  | zero =>
    obtain rfl : n = 0 := by simpa using hn
    rfl
  | succ k ih =>
    rcases Nat.eq_zero_or_pos n with rfl | hpos
    · rw [fixed_zero]
      simp [List.leftpad]
    · have hdiv : n / 16 < 16 ^ k := by
        rw [Nat.pow_succ] at hn
        exact Nat.div_lt_of_lt_mul (by omega)
      rw [fixed, ← ih hdiv, Nat.digits_def' (by decide) hpos, List.reverse_cons]
      simp only [List.leftpad, List.length_append, List.length_reverse, List.length_singleton,
        List.append_assoc, Nat.add_sub_add_right]

def ofBytes (l : List (BitVec 8)) : Nat := l.foldl (fun n b => n * 256 + b.toNat) 0

theorem ofBytes_concat (l : List (BitVec 8)) (b : BitVec 8) :
    ofBytes (l ++ [b]) = ofBytes l * 256 + b.toNat := by
  simp [ofBytes]

theorem ofBytes_lt (l : List (BitVec 8)) : ofBytes l < 16 ^ (2 * l.length) := by
  induction l using List.reverseRecOn with
  | nil => decide
  | append_singleton l b ih =>
    have hb := b.isLt
    rw [ofBytes_concat, List.length_append, List.length_singleton, Nat.mul_add, Nat.pow_add]
    omega

theorem fixed_ofBytes (l : List (BitVec 8)) :
    fixed (2 * l.length) (ofBytes l) = l.flatMap fun b => [b.toNat / 16, b.toNat % 16] := by
  induction l using List.reverseRecOn with
  | nil => rfl
  | append_singleton l b ih =>
    have hb := b.isLt
    have hdiv : (ofBytes l * 256 + b.toNat) / 16 / 16 = ofBytes l := by omega
    have hhigh : (ofBytes l * 256 + b.toNat) / 16 % 16 = b.toNat / 16 := by omega
    have hlow : (ofBytes l * 256 + b.toNat) % 16 = b.toNat % 16 := by omega
    rw [ofBytes_concat, List.length_append, List.length_singleton, Nat.mul_add, List.flatMap_append,
      ← ih]
    simp only [fixed, hdiv, hhigh, hlow, List.append_assoc, List.flatMap_cons, List.flatMap_nil,
      List.cons_append, List.nil_append]

end Hexadecimal
