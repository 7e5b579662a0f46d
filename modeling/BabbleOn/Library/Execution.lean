import Mathlib.Data.List.Basic

namespace Execution

variable {ε σ α β : Type}

theorem bind_ok {x : EStateM ε σ α} {f : α → EStateM ε σ β} {s s' : σ} {a : α}
    (h : x.run s = .ok a s') : (x >>= f).run s = (f a).run s' := by
  rw [EStateM.run_bind, h]

theorem bind_error {x : EStateM ε σ α} {f : α → EStateM ε σ β} {s s' : σ} {e : ε}
    (h : x.run s = .error e s') : (x >>= f).run s = .error e s' := by
  rw [EStateM.run_bind, h]

theorem bind_congr_ok {x : EStateM ε σ α} {f g : α → EStateM ε σ β} {s : σ}
    (h : ∀ a s', x.run s = .ok a s' → (f a).run s' = (g a).run s') :
    (x >>= f).run s = (x >>= g).run s := by
  cases hx : x.run s with
  | ok a s' => rw [bind_ok hx, bind_ok hx, h a s' hx]
  | error e s' => rw [bind_error hx, bind_error hx]

theorem bind_congr_run {x y : EStateM ε σ α} {s : σ} (h : x.run s = y.run s)
    (f : α → EStateM ε σ β) : (x >>= f).run s = (y >>= f).run s := by
  rw [EStateM.run_bind, EStateM.run_bind, h]

theorem bind_eq_ok {x : EStateM ε σ α} {f : α → EStateM ε σ β} {s s'' : σ} {b : β} :
    (x >>= f).run s = .ok b s'' ↔ ∃ a s', x.run s = .ok a s' ∧ (f a).run s' = .ok b s'' := by
  cases h : x.run s with
  | ok a s' => simp [bind_ok h]
  | error e s' => simp [bind_error h]

@[simp] theorem run_pure (a : α) (s : σ) : (pure a : EStateM ε σ α).run s = .ok a s := rfl

@[simp] theorem run_throw (e : ε) (s : σ) : (throw e : EStateM ε σ α).run s = .error e s := rfl

@[simp] theorem run_get (s : σ) : (get : EStateM ε σ σ).run s = .ok s s := rfl

@[simp] theorem run_set (s t : σ) : (set t : EStateM ε σ PUnit).run s = .ok ⟨⟩ t := rfl

@[simp] theorem run_modify (f : σ → σ) (s : σ) :
    (modify f : EStateM ε σ PUnit).run s = .ok ⟨⟩ (f s) := rfl

theorem tryCatch_ok {x : EStateM ε σ α} {handler : ε → EStateM ε σ α} {s s' : σ} {a : α}
    (h : x.run s = .ok a s') : (tryCatch x handler).run s = .ok a s' := by
  change EStateM.tryCatch x handler s = .ok a s'
  rw [EStateM.run] at h
  simp only [EStateM.tryCatch, h]

theorem tryCatch_error {x : EStateM ε σ α} {handler : ε → EStateM ε σ α} {s s' : σ} {e : ε}
    (h : x.run s = .error e s') : (tryCatch x handler).run s = (handler e).run s' := by
  change EStateM.tryCatch x handler s = (handler e).run s'
  rw [EStateM.run] at h
  simp only [EStateM.tryCatch, h]
  rfl

theorem throwIf_congr {p : Prop} [Decidable p] {e : ε} {x y : EStateM ε σ α} {s : σ}
    (h : ¬ p → x.run s = y.run s) :
    (if p then throw e else x).run s = (if p then throw e else y).run s := by
  by_cases hp : p
  · rw [if_pos hp, if_pos hp]
  · rw [if_neg hp, if_neg hp, h hp]

theorem throwIf_eq_ok {p : Prop} [Decidable p] {e : ε} {x : EStateM ε σ α} {s s' : σ} {a : α} :
    (if p then throw e else x).run s = .ok a s' ↔ ¬ p ∧ x.run s = .ok a s' := by
  by_cases hp : p
  · simp [hp]
  · simp [hp]

theorem forM_ok {f : α → EStateM ε σ PUnit} {l : List α} {s : σ}
    (h : ∀ a ∈ l, (f a).run s = .ok ⟨⟩ s) : (forM l f).run s = .ok ⟨⟩ s := by
  induction l with
  | nil => rfl
  | cons a l ih =>
    rw [List.forM_cons, bind_ok (h a (by simp))]
    exact ih fun b hb => h b (by simp [hb])

theorem forM_outcome {f : α → EStateM ε σ PUnit} {l : List α} {s : σ} {e : ε}
    (h : ∀ a ∈ l, (f a).run s = .ok ⟨⟩ s ∨ (f a).run s = .error e s) :
    (forM l f).run s = .ok ⟨⟩ s ∨ (forM l f).run s = .error e s := by
  induction l with
  | nil => exact .inl rfl
  | cons a l ih =>
    rw [List.forM_cons]
    rcases h a (by simp) with ha | ha
    · rw [bind_ok ha]
      exact ih fun b hb => h b (by simp [hb])
    · exact .inr (bind_error ha)

theorem forM_eq_ok {f : α → EStateM ε σ PUnit} {P : α → Prop}
    (hf : ∀ a s s', (f a).run s = .ok ⟨⟩ s' → P a ∧ s' = s) {l : List α} {s s' : σ}
    (h : (forM l f).run s = .ok ⟨⟩ s') : (∀ a ∈ l, P a) ∧ s' = s := by
  induction l generalizing s with
  | nil =>
    cases h
    exact ⟨by simp, rfl⟩
  | cons a l ih =>
    rw [List.forM_cons] at h
    obtain ⟨_, t, ha, hrest⟩ := bind_eq_ok.mp h
    obtain ⟨hP, rfl⟩ := hf a s t ha
    obtain ⟨hall, rfl⟩ := ih hrest
    exact ⟨by simpa using ⟨hP, hall⟩, rfl⟩

def after : EStateM.Result ε σ α → σ
  | .ok _ s => s
  | .error _ s => s

def setIf (ok : α → Bool) (e : ε) (put : α → σ → σ) (a : α) : EStateM ε σ Unit :=
  if ok a then modify (put a) else throw e

theorem setIf_ok {ok : α → Bool} {e : ε} {put : α → σ → σ} {a : α} (h : ok a = true) (s : σ) :
    (setIf ok e put a).run s = .ok () (put a s) := by
  rw [setIf, if_pos h, run_modify]

theorem setIf_error {ok : α → Bool} {e : ε} {put : α → σ → σ} {a : α} (h : ok a = false) (s : σ) :
    (setIf ok e put a).run s = .error e s := by
  rw [setIf, if_neg (by simp [h]), run_throw]

theorem setIf_eq_ok {ok : α → Bool} {e : ε} {put : α → σ → σ} {a : α} {s s' : σ} :
    (setIf ok e put a).run s = .ok () s' ↔ ok a = true ∧ s' = put a s := by
  cases h : ok a with
  | true => simp [setIf_ok h, eq_comm]
  | false => simp [setIf_error h]

theorem map_eq_ok {f : α → β} {x : Except ε α} {b : β} (h : x.map f = .ok b) :
    ∃ a, x = .ok a ∧ f a = b := by
  cases x with
  | error e => cases h
  | ok a =>
    cases h
    exact ⟨a, rfl, rfl⟩

theorem map_eq_error {f : α → β} {x : Except ε α} {e : ε} (h : x.map f = .error e) :
    x = .error e := by
  cases x with
  | error e' =>
    cases h
    rfl
  | ok a => cases h

def construct (fresh : σ) (body : EStateM ε σ Unit) : Except ε σ :=
  match body.run fresh with
  | .ok _ s => .ok s
  | .error e _ => .error e

theorem construct_eq_ok {fresh s : σ} {body : EStateM ε σ Unit} :
    construct fresh body = .ok s ↔ body.run fresh = .ok () s := by
  unfold construct
  cases h : body.run fresh <;> simp

def withState {τ : Type} (start : τ) (m : EStateM ε τ α) : EStateM ε σ α :=
  match m.run start with
  | .ok a _ => pure a
  | .error e _ => throw e

theorem withState_ok {τ : Type} {start t : τ} {m : EStateM ε τ α} {a : α}
    (h : m.run start = .ok a t) (s : σ) : (withState start m).run s = .ok a s := by
  simp only [withState, h, run_pure]

theorem withState_error {τ : Type} {start t : τ} {m : EStateM ε τ α} {e : ε}
    (h : m.run start = .error e t) (s : σ) : (withState start m).run s = .error e s := by
  simp only [withState, h, run_throw]

structure Building (σ : Type) where
  this : σ
  pos : Nat

def field (read : EStateM ε Nat α) (set : α → EStateM ε σ Unit) : EStateM ε (Building σ) Unit :=
  fun b => match read.run b.pos with
    | .error e p => .error e { b with pos := p }
    | .ok a p => match (set a).run b.this with
      | .error e t => .error e ⟨t, p⟩
      | .ok _ t => .ok () ⟨t, p⟩

theorem field_ok {read : EStateM ε Nat α} {set : α → EStateM ε σ Unit} {t t' : σ} {p p' : Nat}
    {a : α} (hr : read.run p = .ok a p') (hs : (set a).run t = .ok () t') :
    (field read set).run ⟨t, p⟩ = .ok () ⟨t', p'⟩ := by
  simp only [EStateM.run, field] at hr hs ⊢
  simp only [hr, hs]

theorem field_error {read : EStateM ε Nat α} {set : α → EStateM ε σ Unit} {t : σ} {p p' : Nat}
    {e : ε} (hr : read.run p = .error e p') :
    (field read set).run ⟨t, p⟩ = .error e ⟨t, p'⟩ := by
  simp only [EStateM.run, field] at hr ⊢
  simp only [hr]

theorem field_eq_ok {read : EStateM ε Nat α} {set : α → EStateM ε σ Unit} {b b' : Building σ} :
    (field read set).run b = .ok () b' ↔
      ∃ a, read.run b.pos = .ok a b'.pos ∧ (set a).run b.this = .ok () b'.this := by
  constructor
  · intro h
    simp only [EStateM.run, field] at h
    rcases hr : read b.pos with ⟨a, p⟩ | ⟨e, p⟩
    · rw [hr] at h
      rcases hs : set a b.this with ⟨⟨⟩, t⟩ | ⟨e, t⟩
      · simp only [hs] at h
        cases h
        exact ⟨a, hr, hs⟩
      · simp only [hs] at h
        cases h
    · rw [hr] at h
      cases h
  · rintro ⟨a, hr, hs⟩
    exact field_ok hr hs

def onThis (m : EStateM ε σ α) : EStateM ε (Building σ) α := fun b =>
  match m.run b.this with
  | .error e t => .error e { b with this := t }
  | .ok a t => .ok a { b with this := t }

theorem onThis_ok {m : EStateM ε σ α} {t t' : σ} {a : α} {p : Nat} (h : m.run t = .ok a t') :
    (onThis m).run ⟨t, p⟩ = .ok a ⟨t', p⟩ := by
  simp only [EStateM.run, onThis] at h ⊢
  simp only [h]

theorem onThis_eq_ok {m : EStateM ε σ α} {b b' : Building σ} {a : α} :
    (onThis m).run b = .ok a b' ↔ m.run b.this = .ok a b'.this ∧ b'.pos = b.pos := by
  constructor
  · intro h
    simp only [EStateM.run, onThis] at h ⊢
    rcases hm : m b.this with ⟨a', t⟩ | ⟨e, t⟩
    · rw [hm] at h
      cases h
      exact ⟨rfl, rfl⟩
    · rw [hm] at h
      cases h
  · rintro ⟨hm, hp⟩
    obtain ⟨t', p'⟩ := b'
    cases hp
    exact onThis_ok hm

def atPos (read : EStateM ε Nat α) : EStateM ε (Building σ) α := fun b =>
  match read.run b.pos with
  | .error e p => .error e { b with pos := p }
  | .ok a p => .ok a { b with pos := p }

theorem atPos_ok {read : EStateM ε Nat α} {t : σ} {p p' : Nat} {a : α}
    (h : read.run p = .ok a p') : (atPos read).run ⟨t, p⟩ = .ok a ⟨t, p'⟩ := by
  simp only [EStateM.run, atPos] at h ⊢
  simp only [h]

theorem atPos_eq_ok {read : EStateM ε Nat α} {b b' : Building σ} {a : α} :
    (atPos read).run b = .ok a b' ↔ read.run b.pos = .ok a b'.pos ∧ b'.this = b.this := by
  constructor
  · intro h
    simp only [EStateM.run, atPos] at h ⊢
    rcases hr : read b.pos with ⟨a', p⟩ | ⟨e, p⟩
    · rw [hr] at h
      cases h
      exact ⟨rfl, rfl⟩
    · rw [hr] at h
      cases h
  · rintro ⟨hr, ht⟩
    obtain ⟨t', p'⟩ := b'
    cases ht
    exact atPos_ok hr

def reading (fresh : σ) (body : EStateM ε (Building σ) Unit) : EStateM ε Nat σ := fun pos =>
  match body.run ⟨fresh, pos⟩ with
  | .ok _ b => .ok b.this b.pos
  | .error e b => .error e b.pos

theorem reading_ok {fresh t : σ} {p p' : Nat} {body : EStateM ε (Building σ) Unit}
    (h : body.run ⟨fresh, p⟩ = .ok () ⟨t, p'⟩) : (reading fresh body).run p = .ok t p' := by
  simp only [EStateM.run, reading] at h ⊢
  simp only [h]

theorem reading_eq_ok {fresh t : σ} {p p' : Nat} {body : EStateM ε (Building σ) Unit} :
    (reading fresh body).run p = .ok t p' ↔ body.run ⟨fresh, p⟩ = .ok () ⟨t, p'⟩ := by
  constructor
  · intro h
    simp only [EStateM.run, reading] at h ⊢
    rcases hb : body ⟨fresh, p⟩ with ⟨⟨⟩, b⟩ | ⟨e, b⟩
    · rw [hb] at h
      cases h
      rfl
    · rw [hb] at h
      cases h
  · exact reading_ok

def constructAt (fresh : σ) (pos : Nat) (body : EStateM ε (Building σ) Unit) : Except ε σ × Nat :=
  match body.run ⟨fresh, pos⟩ with
  | .ok _ b => (.ok b.this, b.pos)
  | .error e b => (.error e, b.pos)

theorem constructAt_ok {fresh t : σ} {p p' : Nat} {body : EStateM ε (Building σ) Unit}
    (h : body.run ⟨fresh, p⟩ = .ok () ⟨t, p'⟩) : constructAt fresh p body = (.ok t, p') := by
  simp only [constructAt, h]

theorem constructAt_fst {fresh t : σ} {p p' : Nat} {body : EStateM ε (Building σ) Unit}
    (h : body.run ⟨fresh, p⟩ = .ok () ⟨t, p'⟩) : (constructAt fresh p body).1 = .ok t := by
  rw [constructAt_ok h]

theorem constructAt_fst_eq_ok {fresh t : σ} {p : Nat} {body : EStateM ε (Building σ) Unit} :
    (constructAt fresh p body).1 = .ok t ↔ ∃ p', body.run ⟨fresh, p⟩ = .ok () ⟨t, p'⟩ := by
  constructor
  · intro h
    unfold constructAt at h
    rcases hb : body.run ⟨fresh, p⟩ with ⟨⟨⟩, b⟩ | ⟨e, b⟩
    · rw [hb] at h
      cases h
      exact ⟨b.pos, rfl⟩
    · rw [hb] at h
      cases h
  · rintro ⟨p', hb⟩
    exact constructAt_fst hb

theorem constructAt_error {fresh t : σ} {p p' : Nat} {e : ε} {body : EStateM ε (Building σ) Unit}
    (h : body.run ⟨fresh, p⟩ = .error e ⟨t, p'⟩) :
    constructAt fresh p body = (.error e, p') := by
  simp only [constructAt, h]

end Execution
