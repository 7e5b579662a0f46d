import Mathlib.Data.List.Basic
import Mathlib.Tactic.Ring

namespace Pieces

variable {α : Type}

def pieces (w n : Nat) (l : List α) : List (List α) :=
  (List.range n).map fun i => (l.drop (w * i)).take w

@[simp] theorem pieces_length (w n : Nat) (l : List α) : (pieces w n l).length = n := by
  simp [pieces]

theorem pieces_succ (w n : Nat) (l : List α) :
    pieces w (n + 1) l = l.take w :: pieces w n (l.drop w) := by
  unfold pieces
  rw [List.range_succ_eq_map, List.map_cons, List.map_map]
  congr 1
  apply List.map_congr_left
  intro i _
  rw [Function.comp_apply, List.drop_drop, Nat.mul_succ, Nat.add_comm]

theorem pieces_flatten_take (w n : Nat) (l : List α) : (pieces w n l).flatten = l.take (w * n) := by
  induction n generalizing l with
  | zero => simp [pieces]
  | succ n ih =>
    rw [pieces_succ, List.flatten_cons, ih, Nat.mul_succ, Nat.add_comm, List.take_add]

theorem pieces_flatten {w n : Nat} {l : List α} (h : l.length ≤ w * n) :
    (pieces w n l).flatten = l := by
  rw [pieces_flatten_take, List.take_of_length_le h]

theorem length_of_mem_pieces {w n : Nat} {l p : List α} (h : w * n ≤ l.length)
    (hp : p ∈ pieces w n l) : p.length = w := by
  obtain ⟨i, hi, rfl⟩ := List.mem_map.mp hp
  have hi' : i + 1 ≤ n := List.mem_range.mp hi
  have hmul : w * (i + 1) ≤ w * n := Nat.mul_le_mul_left w hi'
  rw [Nat.mul_succ] at hmul
  rw [List.length_take, List.length_drop]
  omega

end Pieces
