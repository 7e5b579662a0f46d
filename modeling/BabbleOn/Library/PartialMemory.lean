import BabbleOn.Library.ProgramLogic

namespace PartialMemory

variable {ε σ α β : Type}

abbrev Memory (β : Type) := Nat → Option β

def ofList (l : List β) : Memory β := fun i => l[i]?

def Spans (m : Memory β) (len pos : Nat) (l : List β) : Prop :=
  pos + l.length ≤ len ∧ ∀ i < l.length, m (pos + i) = l[i]?

theorem spans_ofList (l : List β) : Spans (ofList l) l.length 0 l :=
  ⟨by omega, fun i _ => by simp [ofList]⟩

theorem spans_append {m : Memory β} {len pos : Nat} {xs ys : List β} :
    Spans m len pos (xs ++ ys) ↔ Spans m len pos xs ∧ Spans m len (pos + xs.length) ys := by
  unfold Spans
  constructor
  · rintro ⟨hl, h⟩
    rw [List.length_append] at hl h
    refine ⟨⟨by omega, fun i hi => ?_⟩, by omega, fun i hi => ?_⟩
    · rw [h i (by omega), List.getElem?_append_left hi]
    · rw [Nat.add_assoc, h (xs.length + i) (by omega), List.getElem?_append_right (by omega),
        Nat.add_sub_cancel_left]
  · rintro ⟨⟨_, hx⟩, hl, hy⟩
    rw [List.length_append]
    refine ⟨by omega, fun i hi => ?_⟩
    by_cases hxi : i < xs.length
    · rw [hx i hxi, List.getElem?_append_left hxi]
    · have hs := hy (i - xs.length) (by omega)
      rw [Nat.add_assoc, Nat.add_sub_cancel' (by omega)] at hs
      rw [hs, List.getElem?_append_right (by omega)]

theorem spans_head {m : Memory β} {len pos : Nat} {b : β} {l : List β}
    (h : Spans m len pos (b :: l)) : m pos = some b := by
  simpa using h.2 0 (by simp)

theorem spans_tail {m : Memory β} {len pos : Nat} {b : β} {l : List β}
    (h : Spans m len pos (b :: l)) : Spans m len (pos + 1) l := by
  have hsplit : Spans m len pos ([b] ++ l) := h
  exact (spans_append.mp hsplit).2

theorem spans_cons {m : Memory β} {len pos : Nat} {b : β} {l : List β} (hb : m pos = some b)
    (h : Spans m len (pos + 1) l) : Spans m len pos (b :: l) := by
  have hroom := h.1
  have hone : Spans m len pos [b] := by
    refine ⟨by rw [List.length_singleton]; omega, fun i hi => ?_⟩
    obtain rfl : i = 0 := by simpa using hi
    exact hb
  exact spans_append.mpr ⟨hone, h⟩

theorem spans_mono {m : Memory β} {len len' pos : Nat} {l : List β} (h : Spans m len pos l)
    (hl : pos + l.length ≤ len') : Spans m len' pos l :=
  ⟨hl, h.2⟩

theorem spans_unique {m : Memory β} {len len' pos : Nat} {l l' : List β} (h : Spans m len pos l)
    (h' : Spans m len' pos l') (hl : l.length = l'.length) : l = l' := by
  apply List.ext_getElem?
  intro i
  by_cases hi : i < l.length
  · rw [← h.2 i hi, h'.2 i (hl ▸ hi)]
  · rw [List.getElem?_eq_none (by omega), List.getElem?_eq_none (by omega)]

def window (m : Memory β) (pos pos' : Nat) : Memory β := fun i =>
  if pos ≤ i ∧ i < pos' then m i else none

theorem spans_window {m : Memory β} {len pos : Nat} {l : List β} (h : Spans m len pos l) :
    Spans (window m pos (pos + l.length)) len pos l := by
  refine ⟨h.1, fun i hi => ?_⟩
  rw [window, if_pos (by omega)]
  exact h.2 i hi

def fetch (oob : Nat → ε) (m : Memory β) (i : Nat) : EStateM ε σ β :=
  match m i with
  | some b => pure b
  | none => throw (oob i)

theorem fetch_ok {oob : Nat → ε} {m : Memory β} {i : Nat} {b : β} (h : m i = some b) (s : σ) :
    (fetch oob m i).run s = .ok b s := by
  simp only [fetch, h, Execution.run_pure]

theorem fetch_eq_ok {oob : Nat → ε} {m : Memory β} {i : Nat} {b : β} {s s' : σ}
    (h : (fetch oob m i).run s = .ok b s') : m i = some b ∧ s' = s := by
  unfold fetch at h
  cases hm : m i with
  | none =>
    rw [hm] at h
    cases h
  | some c =>
    rw [hm] at h
    cases h
    exact ⟨rfl, rfl⟩

def copy (oob : Nat → ε) (m : Memory β) : Nat → EStateM ε Nat (List β)
  | 0 => pure []
  | n + 1 => do
    let pos ← get
    let b ← fetch oob m pos
    set (pos + 1)
    let rest ← copy oob m n
    pure (b :: rest)

theorem copy_spans {oob : Nat → ε} {m : Memory β} {len : Nat} {l : List β} {pos : Nat}
    (h : Spans m len pos l) : (copy oob m l.length).run pos = .ok l (pos + l.length) := by
  induction l generalizing pos with
  | nil => rfl
  | cons b l ih =>
    simp only [List.length_cons, copy]
    rw [Execution.bind_ok (Execution.run_get pos),
      Execution.bind_ok (fetch_ok (spans_head h) pos),
      Execution.bind_ok (Execution.run_set pos (pos + 1)),
      Execution.bind_ok (ih (spans_tail h)), Execution.run_pure]
    congr 1
    omega

def gather (oob : Nat → ε) (m : Memory β) (pos : Nat) (put : α → Nat → β → α) (order : List Nat)
    (a : α) : EStateM ε σ α :=
  order.foldlM (fun a i => do
    let b ← fetch oob m (pos + i)
    pure (put a i b)) a

theorem gather_ok {oob : Nat → ε} {m : Memory β} {pos : Nat} {put : α → Nat → β → α}
    {order : List Nat} {b : Nat → β} (h : ∀ i ∈ order, m (pos + i) = some (b i)) (a : α) (s : σ) :
    (gather oob m pos put order a).run s =
      .ok (order.foldl (fun a i => put a i (b i)) a) s := by
  induction order generalizing a with
  | nil => rfl
  | cons i order ih =>
    have hi := h i (by simp)
    have hrest := ih (fun j hj => h j (by simp [hj]))
    simp only [gather, List.foldlM_cons, List.foldl_cons] at hrest ⊢
    rw [bind_assoc, Execution.bind_ok (fetch_ok hi s), pure_bind]
    exact hrest (put a i (b i))

theorem foldl_push (f : Nat → β) (order : List Nat) (a : List β) :
    order.foldl (fun l i => l ++ [f i]) a = a ++ order.map f := by
  induction order generalizing a with
  | nil => simp
  | cons i order ih => simp [ih]

def slice (oob : Nat → ε) (m : Memory β) (pos n : Nat) : EStateM ε σ (List β) :=
  gather oob m pos (fun l _ b => l ++ [b]) (List.range n) []

theorem slice_spans (oob : Nat → ε) {m : Memory β} {len pos : Nat} {l : List β}
    (h : Spans m len pos l) (s : σ) : (slice oob m pos l.length).run s = .ok l s := by
  cases l with
  | nil => rfl
  | cons b₀ l =>
    have hread : ∀ i ∈ List.range (b₀ :: l).length,
        m (pos + i) = some ((b₀ :: l).getD i b₀) := by
      intro i hi
      have hi' : i < (b₀ :: l).length := List.mem_range.mp hi
      rw [h.2 i hi', List.getD_eq_getElem?_getD, List.getElem?_eq_getElem hi', Option.getD_some]
    rw [slice, gather_ok hread, foldl_push, List.nil_append]
    congr 1
    apply List.ext_getElem?
    intro i
    by_cases hi : i < (b₀ :: l).length
    · rw [List.getElem?_map, List.getElem?_range hi, Option.map_some, List.getD_eq_getElem?_getD,
        List.getElem?_eq_getElem hi, Option.getD_some]
    · rw [List.getElem?_eq_none (by simpa using hi), List.getElem?_eq_none (by omega)]

theorem gather_reads {oob : Nat → ε} {m : Memory β} {pos : Nat} {put : α → Nat → β → α}
    {order : List Nat} {a r : α} {s s' : σ}
    (h : (gather oob m pos put order a).run s = .ok r s') :
    ∀ i ∈ order, (m (pos + i)).isSome := by
  induction order generalizing a with
  | nil => simp
  | cons i order ih =>
    simp only [gather, List.foldlM_cons, bind_assoc, pure_bind] at h ih
    obtain ⟨b, t, hb, hrest⟩ := Execution.bind_eq_ok.mp h
    unfold fetch at hb
    cases hm : m (pos + i) with
    | none => rw [hm] at hb; cases hb
    | some c =>
      rw [hm] at hb
      cases hb
      intro j hj
      rcases List.mem_cons.mp hj with rfl | hj
      · simp [hm]
      · exact ih hrest j hj

theorem prefix_of_spans {l p : List β} (h : Spans (ofList p) p.length 0 l) :
    ∃ tail, p = l ++ tail := by
  refine ⟨p.drop l.length, ?_⟩
  have htake : p.take l.length = l := by
    apply List.ext_getElem?
    intro i
    by_cases hi : i < l.length
    · rw [List.getElem?_take_of_lt hi, ← h.2 i hi, Nat.zero_add, ofList]
    · rw [List.getElem?_eq_none (by rw [List.length_take]; omega), List.getElem?_eq_none (by omega)]
  conv_lhs => rw [← List.take_append_drop l.length p, htake]

theorem spans_exists {m : Memory β} {pos n : Nat} (h : ∀ i < n, (m (pos + i)).isSome) :
    ∃ l, l.length = n ∧ Spans m (pos + n) pos l := by
  induction n with
  | zero => exact ⟨[], rfl, by simp [Spans]⟩
  | succ n ih =>
    obtain ⟨l, rfl, hl⟩ := ih fun i hi => h i (by omega)
    obtain ⟨b, hb⟩ := Option.isSome_iff_exists.mp (h l.length (by omega))
    refine ⟨l ++ [b], by simp, spans_append.mpr ⟨⟨by omega, hl.2⟩, Nat.le_refl _, ?_⟩⟩
    intro i hi
    obtain rfl : i = 0 := by simpa using hi
    exact hb

theorem slice_eq_ok {oob : Nat → ε} {m : Memory β} {pos n : Nat} {bytes : List β} {s s' : σ}
    (h : (slice oob m pos n).run s = .ok bytes s') :
    bytes.length = n ∧ Spans m (pos + n) pos bytes ∧ s' = s := by
  obtain ⟨l, rfl, hl⟩ := spans_exists fun i hi => gather_reads h i (List.mem_range.mpr hi)
  rw [slice_spans oob hl s] at h
  cases h
  exact ⟨rfl, hl, rfl⟩

theorem copy_eq_ok {oob : Nat → ε} {m : Memory β} {pos pos' n : Nat} {bytes : List β}
    (h : (copy oob m n).run pos = .ok bytes pos') :
    bytes.length = n ∧ Spans m (pos + n) pos bytes ∧ pos' = pos + n := by
  induction n generalizing pos bytes with
  | zero =>
    cases h
    exact ⟨rfl, by simp [Spans], rfl⟩
  | succ n ih =>
    rw [copy, Execution.bind_ok (Execution.run_get pos)] at h
    obtain ⟨b, s, hb, h⟩ := Execution.bind_eq_ok.mp h
    obtain ⟨hb, rfl⟩ := fetch_eq_ok hb
    rw [Execution.bind_ok (Execution.run_set _ _)] at h
    obtain ⟨rest, s, hrest, h⟩ := Execution.bind_eq_ok.mp h
    cases h
    obtain ⟨rfl, hspan, rfl⟩ := ih hrest
    refine ⟨rfl, spans_cons hb ?_, by omega⟩
    rwa [Nat.add_assoc, Nat.add_comm 1] at hspan

theorem slice_ofList {oob : Nat → ε} {l bytes : List β} {n : Nat} {s s' : σ}
    (h : (slice oob (ofList l) 0 n).run s = .ok bytes s') :
    n ≤ l.length ∧ bytes = l.take n ∧ s' = s := by
  have hn : n ≤ l.length := by
    by_contra hlt
    have hsome := gather_reads h l.length (List.mem_range.mpr (by omega))
    simp [ofList] at hsome
  have hspan : Spans (ofList l) l.length 0 (l.take n) := by
    have hall := spans_ofList l
    rw [← List.take_append_drop n l] at hall
    simpa using (spans_append.mp hall).1
  have hlen : (l.take n).length = n := by simp [hn]
  have hrun := slice_spans oob hspan s
  rw [hlen, h] at hrun
  cases hrun
  exact ⟨hn, rfl, rfl⟩

def Readable (m : Memory β) (len : Nat) : Prop := ∀ i < len, (m i).isSome

theorem readable_ofList (l : List β) : Readable (ofList l) l.length := by
  intro i hi
  rw [ofList, List.getElem?_eq_getElem hi]
  rfl

section Ends
open ProgramLogic

variable {oob : Nat → ε} {m : Memory β} {len : Nat} {E : ε → σ → Prop} {P : σ → Prop}

theorem ends_fetch {i : Nat} (h : (m i).isSome) : Ends E P (fetch oob m i) fun _ => P := by
  obtain ⟨b, hb⟩ := Option.isSome_iff_exists.mp h
  intro s hs
  rw [fetch_ok hb]
  exact hs

theorem ends_gather {pos : Nat} {put : α → Nat → β → α} {order : List Nat} (a : α)
    (h : ∀ i ∈ order, (m (pos + i)).isSome) : Ends E P (gather oob m pos put order a) fun _ => P := by
  induction order generalizing a with
  | nil => exact ends_pure fun _ hs => hs
  | cons i order ih =>
    rw [gather, List.foldlM_cons, bind_assoc]
    refine ends_bind (ends_fetch (h i (by simp))) fun b => ?_
    rw [pure_bind]
    exact ih _ fun j hj => h j (by simp [hj])

theorem throws_gather {pos : Nat} {put : α → Nat → β → α} {order : List Nat} (a : α) :
    Throws (fun e => ∃ i, e = oob i) P (gather oob m pos put order a) fun _ => P := by
  induction order generalizing a with
  | nil => exact throws_pure fun _ hs => hs
  | cons i order ih =>
    rw [gather, List.foldlM_cons, bind_assoc]
    refine throws_bind (R := fun _ => P) ?_ fun b => ?_
    · unfold fetch
      cases m (pos + i) with
      | none => exact throws_throw fun _ _ => ⟨_, rfl⟩
      | some b => exact throws_pure fun _ hs => hs
    · rw [pure_bind]
      exact ih _

theorem slice_eq_error {pos n : Nat} {s s' : σ} {e : ε}
    (h : (slice oob m pos n).run s = .error e s') : ∃ i, e = oob i :=
  (throws_gather (P := fun _ => True) []).error trivial h

theorem ends_slice (hm : Readable m len) {pos n : Nat} (h : pos + n ≤ len) :
    Ends E P (slice oob m pos n) fun _ => P :=
  ends_gather _ fun _ hi => hm _ (Nat.lt_of_lt_of_le (Nat.add_lt_add_left (List.mem_range.mp hi) pos) h)

theorem ends_copy {E : ε → Nat → Prop} (hm : Readable m len) (n : Nat) :
    Ends E (fun pos => pos + n ≤ len) (copy oob m n) fun _ pos => pos ≤ len := by
  induction n with
  | zero => exact ends_pure fun _ h => h
  | succ n ih =>
    intro pos hpos
    obtain ⟨b, hb⟩ := Option.isSome_iff_exists.mp (hm pos (by omega))
    have hrest : Ends E (fun p => p + n ≤ len) (do
        let rest ← copy oob m n
        pure (b :: rest)) fun _ pos => pos ≤ len :=
      ends_bind ih fun rest => ends_pure fun _ h => h
    rw [copy, Execution.bind_ok (Execution.run_get pos), Execution.bind_ok (fetch_ok hb pos),
      Execution.bind_ok (Execution.run_set pos _)]
    exact hrest (pos + 1) (by omega)

end Ends

end PartialMemory
