import Mathlib.Data.List.Basic

namespace SegmentedStream

structure Stream (β : Type) where
  pending : List β
  answers : List (Option Nat)

variable {β : Type}

def Stream.recv (s : Stream β) (n : Nat) : Option (List β) × Stream β :=
  match s.answers with
  | [] => (some (s.pending.take n), { s with pending := s.pending.drop n })
  | none :: rest => (none, { s with answers := rest })
  | some k :: rest =>
    (some (s.pending.take (min (max 1 k) n)), ⟨s.pending.drop (min (max 1 k) n), rest⟩)

def Stream.Live (s : Stream β) : Prop := none ∉ s.answers

theorem recv_take {s s' : Stream β} {n : Nat} {chunk : List β}
    (h : s.recv n = (some chunk, s')) :
    ∃ k ≤ n, (0 < n → 0 < k) ∧ chunk = s.pending.take k ∧ s'.pending = s.pending.drop k := by
  obtain ⟨pending, answers⟩ := s
  rcases answers with _ | ⟨_ | k, rest⟩
  · cases h
    exact ⟨n, Nat.le_refl n, id, rfl, rfl⟩
  · simp [Stream.recv] at h
  · cases h
    exact ⟨min (max 1 k) n, Nat.min_le_right _ _, by omega, rfl, rfl⟩

theorem recv_length {s s' : Stream β} {n : Nat} {chunk : List β}
    (h : s.recv n = (some chunk, s')) : chunk.length ≤ n := by
  obtain ⟨k, hk, _, rfl, _⟩ := recv_take h
  exact Nat.le_trans (List.length_take_le k _) hk

theorem recv_live {s : Stream β} (hs : s.Live) (n : Nat) :
    ∃ chunk s', s.recv n = (some chunk, s') ∧ s'.Live := by
  obtain ⟨pending, answers⟩ := s
  rcases answers with _ | ⟨_ | k, rest⟩
  · exact ⟨_, _, rfl, hs⟩
  · simp [Stream.Live] at hs
  · exact ⟨_, _, rfl, fun h => hs (List.mem_cons_of_mem _ h)⟩

def Stream.fill (s : Stream β) (want : Nat) : Option (List β) × Stream β :=
  match s.recv want with
  | (none, s') => (none, s')
  | (some chunk, s') =>
    if _h : 0 < chunk.length ∧ chunk.length < want then
      match s'.fill (want - chunk.length) with
      | (none, s'') => (none, s'')
      | (some more, s'') => (some (chunk ++ more), s'')
    else (some chunk, s')
termination_by want
decreasing_by omega

theorem take_append_take_drop (l : List β) {k n : Nat} (h : k ≤ n) :
    l.take k ++ (l.drop k).take (n - k) = l.take n := by
  conv_rhs => rw [← Nat.add_sub_cancel' h, List.take_add]

theorem fill_take {s s' : Stream β} {n : Nat} {l : List β} (h : s.fill n = (some l, s')) :
    l = s.pending.take n ∧ s'.pending = s.pending.drop n := by
  induction n using Nat.strongRecOn generalizing s s' l with
  | ind n ih =>
    rw [Stream.fill] at h
    rcases hr : s.recv n with ⟨_ | chunk, s₁⟩
    · rw [hr] at h
      cases h
    · obtain ⟨k, hkn, hk0, rfl, hdrop⟩ := recv_take hr
      rw [hr] at h
      dsimp only at h
      by_cases hmore : 0 < (s.pending.take k).length ∧ (s.pending.take k).length < n
      · have hk : (s.pending.take k).length ≤ k := List.length_take_le k _
        rw [dif_pos hmore] at h
        rcases hf : s₁.fill (n - (s.pending.take k).length) with ⟨_ | more, s₂⟩
        · rw [hf] at h
          cases h
        · rw [hf] at h
          cases h
          obtain ⟨rfl, hp⟩ := ih _ (by omega) hf
          rw [hp, hdrop]
          rcases Nat.le_total k s.pending.length with hle | hle
          · have hlen : (s.pending.take k).length = k := by simp [hle]
            rw [hlen, take_append_take_drop _ hkn, List.drop_drop, Nat.add_sub_cancel' hkn]
            exact ⟨rfl, rfl⟩
          · have hn : s.pending.length ≤ n := Nat.le_trans hle hkn
            simp [List.take_of_length_le hle, List.take_of_length_le hn,
              List.drop_eq_nil_of_le hle, List.drop_eq_nil_of_le hn]
      · -- nothing more to wait for: the request is complete or the stream has ended
        rw [dif_neg hmore] at h
        cases h
        rw [List.length_take] at hmore
        rcases Nat.eq_or_lt_of_le hkn with rfl | hlt
        · exact ⟨rfl, hdrop⟩
        · have hend : s.pending = [] := List.length_eq_zero_iff.mp (by omega)
          rw [hdrop, hend]
          simp

theorem fill_live {s : Stream β} (hs : s.Live) (n : Nat) :
    ∃ l s', s.fill n = (some l, s') ∧ s'.Live := by
  induction n using Nat.strongRecOn generalizing s with
  | ind n ih =>
    obtain ⟨chunk, s₁, hr, hs₁⟩ := recv_live hs n
    rw [Stream.fill, hr]
    dsimp only
    split
    · obtain ⟨more, s₂, hf, hs₂⟩ := ih (n - chunk.length) (by omega) hs₁
      rw [hf]
      exact ⟨_, _, rfl, hs₂⟩
    · exact ⟨_, _, rfl, hs₁⟩

theorem fill_prefix {s : Stream β} (hs : s.Live) {l rest : List β} (h : s.pending = l ++ rest) :
    ∃ s', s'.Live ∧ s'.pending = rest ∧ s.fill l.length = (some l, s') := by
  obtain ⟨l', s', hf, hs'⟩ := fill_live hs l.length
  obtain ⟨rfl, hp⟩ := fill_take hf
  rw [h, List.drop_left] at hp
  rw [h, List.take_left] at hf
  exact ⟨s', hs', hp, hf⟩

end SegmentedStream
