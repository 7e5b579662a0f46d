import Mathlib.Data.List.Basic
import Mathlib.Algebra.Order.Group.Nat

namespace LineWrap

variable {α β : Type}

def wrapFrom (width : Nat) (sep : α) (start : Nat) (l : List α) : List α :=
  (l.zipIdx start).flatMap fun (c, i) => if i % width = 0 then [sep, c] else [c]

def wrap (width : Nat) (sep : α) (l : List α) : List α := wrapFrom width sep 0 l

def lineCount (width n : Nat) : Nat := (n + (width - 1)) / width

variable {width start : Nat} {sep : α}

theorem wrapFrom_cons (c : α) (l : List α) : wrapFrom width sep start (c :: l) =
    (if start % width = 0 then [sep, c] else [c]) ++ wrapFrom width sep (start + 1) l := by
  rw [wrapFrom, List.zipIdx_cons, List.flatMap_cons]
  rfl

theorem wrapFrom_append (l l' : List α) : wrapFrom width sep start (l ++ l') =
    wrapFrom width sep start l ++ wrapFrom width sep (start + l.length) l' := by
  rw [wrapFrom, List.zipIdx_append, List.flatMap_append]
  rfl

theorem map_wrapFrom (f : α → β) (l : List α) :
    (wrapFrom width sep start l).map f = wrapFrom width (f sep) start (l.map f) := by
  induction l generalizing start with
  | nil => rfl
  | cons c l ih =>
    rw [List.map_cons, wrapFrom_cons, wrapFrom_cons, List.map_append, ih]
    split <;> rfl

theorem filter_wrapFrom [DecidableEq α] {l : List α} (h : sep ∉ l) :
    (wrapFrom width sep start l).filter (· ≠ sep) = l := by
  induction l generalizing start with
  | nil => rfl
  | cons c l ih =>
    have hkeep : c ≠ sep := fun heq => h (heq ▸ List.mem_cons_self)
    have hl : sep ∉ l := fun hmem => h (List.mem_cons_of_mem c hmem)
    rw [wrapFrom_cons, List.filter_append, ih hl]
    split <;> simp [hkeep]

theorem lineCount_succ (hw : 0 < width) (n : Nat) :
    lineCount width (n + 1) = lineCount width n + if n % width = 0 then 1 else 0 := by
  have hnext : n + 1 + (width - 1) = n + (width - 1) + 1 := Nat.add_right_comm n 1 _
  have hwhole : n + (width - 1) + 1 = n + width := by omega
  rw [lineCount, lineCount, hnext, Nat.succ_div, hwhole]
  simp only [Nat.dvd_iff_mod_eq_zero, Nat.add_mod_right]

theorem wrapFrom_length (hw : 0 < width) (l : List α) :
    (wrapFrom width sep start l).length + lineCount width start =
      l.length + lineCount width (start + l.length) := by
  induction l generalizing start with
  | nil => simp [wrapFrom]
  | cons c l ih =>
    have hrest := @ih (start + 1)
    rw [lineCount_succ hw] at hrest
    rw [wrapFrom_cons, List.length_append, List.length_cons, ← Nat.add_assoc, Nat.add_right_comm start]
    split at hrest <;> simp_all <;> omega

theorem wrap_length (hw : 0 < width) (l : List α) :
    (wrap width sep l).length = l.length + lineCount width l.length := by
  have hnone : lineCount width 0 = 0 := Nat.div_eq_of_lt (by omega)
  have h := @wrapFrom_length α width 0 sep hw l
  rwa [hnone, Nat.add_zero, Nat.zero_add] at h

theorem lineCount_mul (hw : 0 < width) (j : Nat) : lineCount width (width * j) = j := by
  rw [lineCount, Nat.mul_add_div hw, Nat.div_eq_of_lt (by omega), Nat.add_zero]

theorem getElem?_wrap (hw : 0 < width) {l : List α} {j : Nat} (hj : width * j < l.length) :
    (wrap width sep l)[(width + 1) * j]? = some sep := by
  obtain ⟨c, rest, hrest⟩ := List.exists_cons_of_length_pos
    (show 0 < (l.drop (width * j)).length by rw [List.length_drop]; omega)
  have htake : (l.take (width * j)).length = width * j := List.length_take_of_le (Nat.le_of_lt hj)
  have hlength := @wrap_length α width sep hw (l.take (width * j))
  rw [htake, lineCount_mul hw, ← Nat.succ_mul] at hlength
  have hsplit : wrap width sep l =
      wrap width sep (l.take (width * j)) ++ (sep :: c :: wrapFrom width sep (width * j + 1) rest) := by
    conv_lhs => rw [wrap, ← List.take_append_drop (width * j) l]
    rw [wrapFrom_append, htake, Nat.zero_add, hrest, wrapFrom_cons, if_pos (Nat.mul_mod_right _ _)]
    rfl
  rw [hsplit, ← hlength, List.getElem?_append_right (Nat.le_refl _), Nat.sub_self]
  rfl

end LineWrap
