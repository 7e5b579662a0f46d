import BabbleOn.Library.Execution

namespace ProgramLogic
open Execution

variable {ε σ α β : Type}

-- from `P` the program ends with `Q`, or throws as `E` allows, the state at the throw included
def Ends (E : ε → σ → Prop) (P : σ → Prop) (m : EStateM ε σ α) (Q : α → σ → Prop) : Prop :=
  ∀ s, P s → match m.run s with
    | .ok a s' => Q a s'
    | .error e s' => E e s'

section Ends

variable {E E' : ε → σ → Prop} {P P' : σ → Prop} {Q Q' : α → σ → Prop}

theorem Ends.ok {m : EStateM ε σ α} (h : Ends E P m Q) {s s' : σ} {a : α} (hs : P s)
    (hrun : m.run s = .ok a s') : Q a s' := by
  have hm := h s hs
  rwa [hrun] at hm

theorem Ends.error {m : EStateM ε σ α} (h : Ends E P m Q) {s s' : σ} {e : ε} (hs : P s)
    (hrun : m.run s = .error e s') : E e s' := by
  have hm := h s hs
  rwa [hrun] at hm

theorem Ends.consequence {m : EStateM ε σ α} (h : Ends E P m Q) (hP : ∀ s, P' s → P s)
    (hQ : ∀ a s, Q a s → Q' a s) (hE : ∀ e s, E e s → E' e s) : Ends E' P' m Q' := by
  intro s hs
  cases hrun : m.run s with
  | ok a s' => exact hQ a s' (h.ok (hP s hs) hrun)
  | error e s' => exact hE e s' (h.error (hP s hs) hrun)

theorem ends_pure {a : α} (h : ∀ s, P s → Q a s) : Ends E P (pure a : EStateM ε σ α) Q := h

theorem ends_throw {e : ε} (h : ∀ s, P s → E e s) : Ends E P (throw e : EStateM ε σ α) Q := h

theorem ends_get : Ends E P (get : EStateM ε σ σ) fun a s => a = s ∧ P s :=
  fun _ hs => ⟨rfl, hs⟩

theorem ends_set {t : σ} {Q : PUnit → σ → Prop} (h : ∀ s, P s → Q ⟨⟩ t) :
    Ends E P (set t : EStateM ε σ PUnit) Q := h

theorem ends_bind {m : EStateM ε σ α} {f : α → EStateM ε σ β} {R : α → σ → Prop}
    {Q : β → σ → Prop} (hm : Ends E P m R) (hf : ∀ a, Ends E (R a) (f a) Q) :
    Ends E P (m >>= f) Q := by
  intro s hs
  cases hrun : m.run s with
  | ok a s' =>
    rw [bind_ok hrun]
    exact hf a s' (hm.ok hs hrun)
  | error e s' =>
    rw [bind_error hrun]
    exact hm.error hs hrun

theorem ends_ite {c : Prop} [Decidable c] {m m' : EStateM ε σ α} (h : c → Ends E P m Q)
    (h' : ¬ c → Ends E P m' Q) : Ends E P (if c then m else m') Q := by
  split
  · exact h ‹_›
  · exact h' ‹_›

theorem ends_forM {f : α → EStateM ε σ PUnit} {l : List α}
    (h : ∀ a ∈ l, Ends E P (f a) fun _ => P) : Ends E P (forM l f) fun _ => P := by
  induction l with
  | nil => exact ends_pure fun _ hs => hs
  | cons a l ih =>
    rw [List.forM_cons]
    exact ends_bind (h a (by simp)) fun _ => ih fun b hb => h b (by simp [hb])

section Building

variable {E : ε → Building σ → Prop} {P : Building σ → Prop}

theorem ends_field {read : EStateM ε Nat α} {set : α → EStateM ε σ Unit} {Q : Unit → Building σ → Prop}
    (h : ∀ t, Ends (fun e p => E e ⟨t, p⟩) (fun p => P ⟨t, p⟩) read fun a p =>
      Ends (fun e t' => E e ⟨t', p⟩) (fun t' => t' = t) (set a) fun u t' => Q u ⟨t', p⟩) :
    Ends E P (field read set) Q := by
  intro b hb
  simp only [EStateM.run, field]
  cases hr : read.run b.pos with
  | error e p =>
    have he := (h b.this).error hb hr
    simp only [EStateM.run] at hr
    simp only [hr]
    exact he
  | ok a p =>
    have hset := (h b.this).ok hb hr
    simp only [EStateM.run] at hr
    simp only [hr]
    cases hs : (set a).run b.this with
    | error e t =>
      have he := hset.error rfl hs
      simp only [EStateM.run] at hs
      simp only [hs]
      exact he
    | ok u t =>
      have hq := hset.ok rfl hs
      simp only [EStateM.run] at hs
      simp only [hs]
      exact hq

theorem ends_atPos {read : EStateM ε Nat α} {Q : α → Building σ → Prop}
    (h : ∀ t, Ends (fun e p => E e ⟨t, p⟩) (fun p => P ⟨t, p⟩) read fun a p => Q a ⟨t, p⟩) :
    Ends E P (atPos read) Q := by
  intro b hb
  simp only [EStateM.run, atPos]
  cases hr : read.run b.pos with
  | error e p =>
    have he := (h b.this).error hb hr
    simp only [EStateM.run] at hr
    simp only [hr]
    exact he
  | ok a p =>
    have hq := (h b.this).ok hb hr
    simp only [EStateM.run] at hr
    simp only [hr]
    exact hq

theorem ends_onThis {m : EStateM ε σ α} {Q : α → Building σ → Prop}
    (h : ∀ p, Ends (fun e t => E e ⟨t, p⟩) (fun t => P ⟨t, p⟩) m fun a t => Q a ⟨t, p⟩) :
    Ends E P (onThis m) Q := by
  intro b hb
  simp only [EStateM.run, onThis]
  cases hr : m.run b.this with
  | error e t =>
    have he := (h b.pos).error hb hr
    simp only [EStateM.run] at hr
    simp only [hr]
    exact he
  | ok a t =>
    have hq := (h b.pos).ok hb hr
    simp only [EStateM.run] at hr
    simp only [hr]
    exact hq

theorem ends_reading {fresh : σ} {body : EStateM ε (Building σ) Unit} {E : ε → Nat → Prop}
    {P : Nat → Prop} {Q : σ → Nat → Prop}
    (h : Ends (fun e b => E e b.pos) (fun b => P b.pos) body fun _ b => Q b.this b.pos) :
    Ends E P (reading fresh body) Q := by
  intro p hp
  simp only [EStateM.run, reading]
  cases hr : body.run ⟨fresh, p⟩ with
  | error e b =>
    have he := h.error hp hr
    simp only [EStateM.run] at hr
    simp only [hr]
    exact he
  | ok u b =>
    have hb := h.ok hp hr
    simp only [EStateM.run] at hr
    simp only [hr]
    exact hb

end Building

end Ends

-- from `P` the program ends with `Q`, or fails in a state where `I` holds
def Keeps (I P : σ → Prop) (m : EStateM ε σ α) (Q : α → σ → Prop) : Prop :=
  ∀ s, P s → match m.run s with
    | .ok a s' => Q a s'
    | .error _ s' => I s'

variable {I P P' : σ → Prop} {Q Q' : α → σ → Prop}

theorem keeps_iff_ends {m : EStateM ε σ α} : Keeps I P m Q ↔ Ends (fun _ s => I s) P m Q := .rfl

theorem Keeps.ok {m : EStateM ε σ α} (h : Keeps I P m Q) {s s' : σ} {a : α} (hs : P s)
    (hrun : m.run s = .ok a s') : Q a s' :=
  (keeps_iff_ends.mp h).ok hs hrun

theorem Keeps.error {m : EStateM ε σ α} (h : Keeps I P m Q) {s s' : σ} {e : ε} (hs : P s)
    (hrun : m.run s = .error e s') : I s' :=
  (keeps_iff_ends.mp h).error hs hrun

theorem Keeps.consequence {m : EStateM ε σ α} (h : Keeps I P m Q) (hP : ∀ s, P' s → P s)
    (hQ : ∀ a s, Q a s → Q' a s) : Keeps I P' m Q' :=
  (keeps_iff_ends.mp h).consequence hP hQ fun _ _ hI => hI

theorem Keeps.weaken {I' : σ → Prop} {m : EStateM ε σ α} (h : Keeps I P m Q)
    (hI : ∀ s, I s → I' s) : Keeps I' P m Q :=
  (keeps_iff_ends.mp h).consequence (fun _ hs => hs) (fun _ _ hQ => hQ) fun _ s hs => hI s hs

theorem Keeps.and {I' : σ → Prop} {m : EStateM ε σ α} (h : Keeps I P m Q) (h' : Keeps I' P' m Q') :
    Keeps (fun s => I s ∧ I' s) (fun s => P s ∧ P' s) m fun a s => Q a s ∧ Q' a s := by
  intro s hs
  cases hrun : m.run s with
  | ok a s' => exact ⟨h.ok hs.1 hrun, h'.ok hs.2 hrun⟩
  | error e s' => exact ⟨h.error hs.1 hrun, h'.error hs.2 hrun⟩

theorem Keeps.after {m : EStateM ε σ α} (h : Keeps I P m fun _ => I) {s : σ} (hs : P s) :
    I (after (m.run s)) := by
  cases hrun : m.run s with
  | ok a s' => exact h.ok hs hrun
  | error e s' => exact h.error hs hrun

theorem keeps_pure {a : α} (h : ∀ s, P s → Q a s) : Keeps I P (pure a : EStateM ε σ α) Q := h

theorem keeps_throw {e : ε} (h : ∀ s, P s → I s) : Keeps I P (throw e : EStateM ε σ α) Q := h

theorem keeps_bind {m : EStateM ε σ α} {f : α → EStateM ε σ β} {R : α → σ → Prop}
    {Q : β → σ → Prop} (hm : Keeps I P m R) (hf : ∀ a, Keeps I (R a) (f a) Q) :
    Keeps I P (m >>= f) Q :=
  ends_bind hm hf

theorem keeps_assume {φ : Prop} {m : EStateM ε σ α} (h : φ → Keeps I P m Q) :
    Keeps I (fun s => φ ∧ P s) m Q :=
  fun s hs => h hs.1 s hs.2

theorem keeps_forM {f : α → EStateM ε σ PUnit} {l : List α}
    (h : ∀ a ∈ l, Keeps I P (f a) fun _ => P) : Keeps I P (forM l f) fun _ => P :=
  ends_forM h

section Leaves

variable {τ : Type} {p : σ → τ}

def Leaves (p : σ → τ) (m : EStateM ε σ α) : Prop := ∀ s, p (after (m.run s)) = p s

theorem leaves_pure (a : α) : Leaves p (pure a : EStateM ε σ α) := fun _ => rfl

theorem leaves_throw (e : ε) : Leaves p (throw e : EStateM ε σ α) := fun _ => rfl

theorem leaves_get : Leaves p (get : EStateM ε σ σ) := fun _ => rfl

theorem leaves_modify {f : σ → σ} (h : ∀ s, p (f s) = p s) :
    Leaves p (modify f : EStateM ε σ PUnit) := h

theorem leaves_ofExcept (r : Except ε α) : Leaves p (ofExcept r : EStateM ε σ α) := by
  cases r with
  | ok a => exact leaves_pure a
  | error e => exact leaves_throw e

theorem Leaves.ok {m : EStateM ε σ α} (h : Leaves p m) {s s' : σ} {a : α} (hrun : m.run s = .ok a s') :
    p s' = p s := by
  have hm := h s
  rwa [hrun] at hm

theorem Leaves.error {m : EStateM ε σ α} (h : Leaves p m) {s s' : σ} {e : ε}
    (hrun : m.run s = .error e s') : p s' = p s := by
  have hm := h s
  rwa [hrun] at hm

theorem Leaves.map {υ : Type} {m : EStateM ε σ α} (h : Leaves p m) (f : τ → υ) :
    Leaves (fun s => f (p s)) m := fun s => congrArg f (h s)

theorem leaves_bind {m : EStateM ε σ α} {f : α → EStateM ε σ β} (hm : Leaves p m)
    (hf : ∀ a, Leaves p (f a)) : Leaves p (m >>= f) := by
  intro s
  cases hrun : m.run s with
  | ok a s' => rw [bind_ok hrun, hf a s', hm.ok hrun]
  | error e s' =>
    rw [bind_error hrun]
    exact hm.error hrun

theorem Leaves.keeps {m : EStateM ε σ α} (h : Leaves p m) {J : τ → Prop} :
    Keeps (fun s => J (p s)) (fun s => J (p s)) m fun _ s => J (p s) := by
  intro s hs
  cases hrun : m.run s with
  | ok a s' => rwa [← h.ok hrun] at hs
  | error e s' => rwa [← h.error hrun] at hs

theorem leaves_ite {c : Prop} [Decidable c] {m m' : EStateM ε σ α} (h : c → Leaves p m)
    (h' : ¬ c → Leaves p m') : Leaves p (if c then m else m') := by
  split
  · exact h ‹_›
  · exact h' ‹_›

end Leaves

section Throws

def Throws (E : ε → Prop) (P : σ → Prop) (m : EStateM ε σ α) (Q : α → σ → Prop) : Prop :=
  ∀ s, P s → match m.run s with
    | .ok a s' => Q a s'
    | .error e _ => E e

variable {E : ε → Prop}

theorem throws_iff_ends {m : EStateM ε σ α} : Throws E P m Q ↔ Ends (fun e _ => E e) P m Q := .rfl

theorem Ends.throws {m : EStateM ε σ α} {E' : ε → σ → Prop} (h : Ends E' P m Q)
    (hE : ∀ e s, E' e s → E e) : Throws E P m Q :=
  Ends.consequence h (fun _ hs => hs) (fun _ _ hQ => hQ) hE

theorem Throws.error {m : EStateM ε σ α} (h : Throws E P m Q) {s s' : σ} {e : ε} (hs : P s)
    (hrun : m.run s = .error e s') : E e :=
  (throws_iff_ends.mp h).error hs hrun

theorem Throws.consequence {m : EStateM ε σ α} (h : Throws E P m Q) (hP : ∀ s, P' s → P s)
    (hQ : ∀ a s, Q a s → Q' a s) : Throws E P' m Q' :=
  (throws_iff_ends.mp h).consequence hP hQ fun _ _ hE => hE

theorem throws_pure {a : α} (h : ∀ s, P s → Q a s) : Throws E P (pure a : EStateM ε σ α) Q := h

theorem throws_throw {e : ε} (h : ∀ s, P s → E e) : Throws E P (throw e : EStateM ε σ α) Q := h

theorem throws_get : Throws E P (get : EStateM ε σ σ) fun a s => a = s ∧ P s :=
  fun _ hs => ⟨rfl, hs⟩

theorem throws_modify {f : σ → σ} {Q : PUnit → σ → Prop} (h : ∀ s, P s → Q ⟨⟩ (f s)) :
    Throws E P (modify f : EStateM ε σ PUnit) Q := h

theorem throws_set {t : σ} {Q : PUnit → σ → Prop} (h : ∀ s, P s → Q ⟨⟩ t) :
    Throws E P (set t : EStateM ε σ PUnit) Q := h

theorem throws_bind {m : EStateM ε σ α} {f : α → EStateM ε σ β} {R : α → σ → Prop}
    {Q : β → σ → Prop} (hm : Throws E P m R) (hf : ∀ a, Throws E (R a) (f a) Q) :
    Throws E P (m >>= f) Q :=
  ends_bind hm hf

theorem throws_ite {c : Prop} [Decidable c] {m m' : EStateM ε σ α} (h : c → Throws E P m Q)
    (h' : ¬ c → Throws E P m' Q) : Throws E P (if c then m else m') Q :=
  ends_ite h h'

theorem throws_forM {f : α → EStateM ε σ PUnit} {l : List α}
    (h : ∀ a ∈ l, Throws E P (f a) fun _ => P) : Throws E P (forM l f) fun _ => P :=
  ends_forM h

theorem throws_setIf {ok : α → Bool} {e : ε} {put : α → σ → σ} (he : E e) (a : α) :
    Throws E P (setIf ok e put a) fun _ _ => True :=
  throws_ite (fun _ => throws_modify fun _ _ => trivial) fun _ => throws_throw fun _ _ => he

variable {R : Nat → Prop}

theorem throws_field {read : EStateM ε Nat α} {set : α → EStateM ε σ Unit}
    (hread : Throws E R read fun _ => R) (hset : ∀ a, Throws E (fun _ => True) (set a) fun _ _ => True) :
    Throws E (fun b : Building σ => R b.pos) (field read set) fun _ b => R b.pos :=
  ends_field fun _ => Ends.consequence hread (fun _ hp => hp)
    (fun a _ hp => Ends.consequence (hset a) (fun _ _ => trivial) (fun _ _ _ => hp) fun _ _ he => he)
    fun _ _ he => he

theorem throws_atPos {read : EStateM ε Nat α} {Q : α → Nat → Prop} (hread : Throws E R read Q) :
    Throws E (fun b : Building σ => R b.pos) (atPos read) fun a b => Q a b.pos :=
  ends_atPos fun _ => hread

theorem throws_onThis {m : EStateM ε σ α} (hm : Throws E (fun _ => True) m fun _ _ => True) :
    Throws E (fun b : Building σ => R b.pos) (onThis m) fun _ b => R b.pos := by
  refine ends_onThis fun p t hp => ?_
  have hkept : Ends (fun e _ => E e) (fun _ => True) m fun _ _ => R p :=
    Ends.consequence hm (fun _ _ => trivial) (fun _ _ _ => hp) fun _ _ he => he
  exact hkept t trivial

theorem throws_constructAt (R : Nat → Prop) {fresh : σ} {pos : Nat}
    {body : EStateM ε (Building σ) Unit} {Q : Unit → Building σ → Prop} {e : ε}
    (he : (constructAt fresh pos body).1 = .error e) (hp : R pos)
    (h : Throws E (fun b : Building σ => R b.pos) body Q) : E e := by
  unfold constructAt at he
  cases hr : body.run ⟨fresh, pos⟩ with
  | error e' b =>
    rw [hr] at he
    cases he
    exact h.error hp hr
  | ok u b =>
    rw [hr] at he
    cases he

theorem throws_construct {fresh : σ} {body : EStateM ε σ Unit} {e : ε}
    (he : construct fresh body = .error e) (h : Throws E (fun _ => True) body fun _ _ => True) :
    E e := by
  unfold construct at he
  cases hr : body.run fresh with
  | error e' s =>
    rw [hr] at he
    cases he
    exact h.error trivial hr
  | ok u s =>
    rw [hr] at he
    cases he

end Throws

end ProgramLogic

namespace History

variable {ε : Type}

def Gated (permitted : List ε → ε → Prop) (es : List ε) : Prop :=
  ∀ before e after, es = before ++ e :: after → permitted before e

variable {permitted : List ε → ε → Prop} {es : List ε}

theorem gated_nil : Gated permitted [] := by
  intro before e after h
  simp at h

theorem gated_concat {e : ε} (hes : Gated permitted es) (he : permitted es e) :
    Gated permitted (es ++ [e]) := by
  intro before e' after h
  rcases List.eq_nil_or_concat after with rfl | ⟨after', last, rfl⟩
  · obtain ⟨rfl, heq⟩ := List.append_inj' h rfl
    cases heq
    exact he
  · rw [List.concat_eq_append, ← List.cons_append, ← List.append_assoc] at h
    exact hes before e' after' (List.append_inj' h rfl).1

theorem gated_of_append {more : List ε} (h : Gated permitted (es ++ more)) : Gated permitted es := by
  intro before e after hes
  refine h before e (after ++ more) ?_
  rw [hes, List.append_assoc, List.cons_append]

end History
