import Mathlib.Logic.Function.Basic
import Mathlib.Logic.Relation
import BabbleOn.Library.Execution

namespace Interaction
open Execution Relation

-- a program that asks the outside one request after the other; an answer may be an exception
inductive Program (Req : Type) (Ans : Req → Type) (ε α : Type) where
  | done (a : α)
  | thrown (e : ε)
  | ask (req : Req) (next : Except ε (Ans req) → Program Req Ans ε α)

variable {Req : Type} {Ans : Req → Type} {ε σ α β : Type}

namespace Program

def andThen : Program Req Ans ε α → (α → Program Req Ans ε β) → Program Req Ans ε β
  | .done a, f => f a
  | .thrown e, _ => .thrown e
  | .ask req next, f => .ask req fun r => (next r).andThen f

instance : Monad (Program Req Ans ε) where
  pure := .done
  bind := andThen

def rescue : Program Req Ans ε α → (ε → Program Req Ans ε α) → Program Req Ans ε α
  | .done a, _ => .done a
  | .thrown e, handler => handler e
  | .ask req next, handler => .ask req fun r => (next r).rescue handler

instance : MonadExceptOf ε (Program Req Ans ε) where
  throw := .thrown
  tryCatch := rescue

def request (req : Req) : Program Req Ans ε (Ans req) :=
  .ask req fun
    | .ok a => .done a
    | .error e => .thrown e

def Each (φ : (req : Req) → (Except ε (Ans req) → Program Req Ans ε α) → Prop) :
    Program Req Ans ε α → Prop
  | .done _ => True
  | .thrown _ => True
  | .ask req next => φ req next ∧ ∀ r, (next r).Each φ

def Asks (φ : Req → Prop) : Program Req Ans ε α → Prop := Each fun req _ => φ req

theorem Each.mono {φ ψ : (req : Req) → (Except ε (Ans req) → Program Req Ans ε α) → Prop}
    {p : Program Req Ans ε α} (h : p.Each φ) (himp : ∀ req next, φ req next → ψ req next) :
    p.Each ψ := by
  induction p with
  | done a => trivial
  | thrown e => trivial
  | ask req next ih => exact ⟨himp req next h.1, fun r => ih r (h.2 r)⟩

theorem each_bind {φ : (req : Req) → (Except ε (Ans req) → Program Req Ans ε β) → Prop}
    {p : Program Req Ans ε α} {f : α → Program Req Ans ε β}
    (hp : p.Each fun req next => φ req fun r => next r >>= f) (hf : ∀ a, (f a).Each φ) :
    (p >>= f).Each φ := by
  induction p with
  | done a => exact hf a
  | thrown e => trivial
  | ask req next ih => exact ⟨hp.1, fun r => ih r (hp.2 r)⟩

theorem asks_request {φ : Req → Prop} (req : Req) (h : φ req) :
    (request req : Program Req Ans ε (Ans req)).Asks φ := by
  refine ⟨h, fun r => ?_⟩
  cases r <;> trivial

theorem asks_bind {φ : Req → Prop} {p : Program Req Ans ε α} {f : α → Program Req Ans ε β}
    (hp : p.Asks φ) (hf : ∀ a, (f a).Asks φ) : (p >>= f).Asks φ := each_bind hp hf

theorem asks_forM {φ : Req → Prop} {f : β → Program Req Ans ε PUnit} (h : ∀ b, (f b).Asks φ)
    (l : List β) : (forM l f : Program Req Ans ε PUnit).Asks φ := by
  induction l with
  | nil => trivial
  | cons b l ih =>
    rw [List.forM_cons]
    exact asks_bind (h b) fun _ => ih

theorem asks_ite {φ : Req → Prop} {c : Prop} [Decidable c] {p q : Program Req Ans ε α}
    (hp : p.Asks φ) (hq : q.Asks φ) : (if c then p else q).Asks φ := by
  split
  · exact hp
  · exact hq

theorem asks_tryCatch {φ : Req → Prop} {p : Program Req Ans ε α}
    {handler : ε → Program Req Ans ε α} (hp : p.Asks φ) (hhandler : ∀ e, (handler e).Asks φ) :
    (tryCatch p handler).Asks φ := by
  induction p with
  | done a => trivial
  | thrown e => exact hhandler e
  | ask req next ih => exact ⟨hp.1, fun r => ih r (hp.2 r)⟩

end Program

def respond (m : EStateM ε σ α) (s : σ) : Except ε α × σ :=
  match m.run s with
  | .ok a s' => (.ok a, s')
  | .error e s' => (.error e, s')

theorem respond_ok {m : EStateM ε σ α} {s s' : σ} {a : α} (h : m.run s = .ok a s') :
    respond m s = (.ok a, s') := by
  rw [respond, h]

theorem respond_error {m : EStateM ε σ α} {s s' : σ} {e : ε} (h : m.run s = .error e s') :
    respond m s = (.error e, s') := by
  rw [respond, h]

theorem respond_congr {m m' : EStateM ε σ α} {s : σ} (h : m.run s = m'.run s) :
    respond m s = respond m' s := by
  rw [respond, respond, h]

section Interpretation

variable (answer : (req : Req) → EStateM ε σ (Ans req))

def interpret : Program Req Ans ε α → EStateM ε σ α
  | .done a => pure a
  | .thrown e => throw e
  | .ask req next => fun s =>
    (interpret (next (respond (answer req) s).1)).run (respond (answer req) s).2

theorem interpret_ask_run (req : Req) (next : Except ε (Ans req) → Program Req Ans ε α) (s : σ) :
    (interpret answer (.ask req next)).run s =
      (interpret answer (next (respond (answer req) s).1)).run (respond (answer req) s).2 := rfl

@[simp] theorem interpret_pure (a : α) : interpret answer (pure a) = pure a := rfl

@[simp] theorem interpret_throw (e : ε) :
    interpret answer (throw e : Program Req Ans ε α) = throw e := rfl

@[simp] theorem interpret_bind (p : Program Req Ans ε α) (f : α → Program Req Ans ε β) :
    interpret answer (p >>= f) = interpret answer p >>= fun a => interpret answer (f a) := by
  induction p with
  | done a => rfl
  | thrown e => rfl
  | ask req next ih =>
    funext s
    have hnext := congrFun (ih (respond (answer req) s).1) (respond (answer req) s).2
    exact hnext

@[simp] theorem interpret_request (req : Req) :
    interpret answer (Program.request req) = answer req := by
  funext s
  change (interpret answer (Program.request req)).run s = (answer req).run s
  rw [Program.request, interpret_ask_run]
  cases h : (answer req).run s with
  | ok a s' =>
    rw [respond_ok h]
    rfl
  | error e s' =>
    rw [respond_error h]
    rfl

theorem interpret_tryCatch_run (p : Program Req Ans ε α) (handler : ε → Program Req Ans ε α) (s : σ) :
    (interpret answer (tryCatch p handler)).run s =
      match (interpret answer p).run s with
      | .ok a s' => .ok a s'
      | .error e s' => (interpret answer (handler e)).run s' := by
  induction p generalizing s with
  | done a => rfl
  | thrown e => rfl
  | ask req next ih => exact ih (respond (answer req) s).1 (respond (answer req) s).2

@[simp] theorem interpret_ite {c : Prop} [Decidable c] (p q : Program Req Ans ε α) :
    interpret answer (if c then p else q) = if c then interpret answer p else interpret answer q := by
  split <;> rfl

@[simp] theorem interpret_forM (f : β → Program Req Ans ε PUnit) (l : List β) :
    interpret answer (forM l f) = forM l fun b => interpret answer (f b) := by
  induction l with
  | nil => rfl
  | cons b l ih => rw [List.forM_cons, List.forM_cons, interpret_bind, ih]

-- where a run of `p` from `s` is after some of its requests
inductive Reached (p : Program Req Ans ε α) (s : σ) : Program Req Ans ε α → σ → Prop
  | start : Reached p s p s
  | next {req : Req} {next : Except ε (Ans req) → Program Req Ans ε α} {t : σ}
      (before : Reached p s (.ask req next) t) :
      Reached p s (next (respond (answer req) t).1) (respond (answer req) t).2

variable {answer}
variable {p q : Program Req Ans ε α} {s t : σ}

theorem Reached.run_eq (h : Reached answer p s q t) :
    (interpret answer p).run s = (interpret answer q).run t := by
  induction h with
  | start => rfl
  | next _ ih => rw [ih, interpret_ask_run]

theorem Reached.trans {q' : Program Req Ans ε α} {u : σ} (h : Reached answer p s q t)
    (h' : Reached answer q t q' u) : Reached answer p s q' u := by
  induction h' with
  | start => exact h
  | next _ ih => exact .next ih

theorem reached_of_run {p : Program Req Ans ε α} {a : α} (h : (interpret answer p).run s = .ok a t) :
    Reached answer p s (.done a) t := by
  induction p generalizing s with
  | done a' =>
    cases h
    exact .start
  | thrown e => cases h
  | ask req next ih =>
    rw [interpret_ask_run] at h
    exact (Reached.next .start).trans (ih _ h)

theorem Reached.bind {p : Program Req Ans ε α} {f : α → Program Req Ans ε β} {a : α}
    {q : Program Req Ans ε β} {u : σ} (h : Reached answer p s (.done a) t)
    (h' : Reached answer (f a) t q u) : Reached answer (p >>= f) s q u := by
  have hinner : ∀ {p' : Program Req Ans ε α} {t' : σ}, Reached answer p s p' t' →
      Reached answer (p >>= f) s (p' >>= f) t' := by
    intro p' t' hp'
    induction hp' with
    | start => exact .start
    | next _ ih => exact .next ih
  exact (hinner h).trans h'

theorem Reached.under_bind {p p' : Program Req Ans ε α} (f : α → Program Req Ans ε β)
    (h : Reached answer p s p' t) : Reached answer (p >>= f) s (p' >>= f) t := by
  induction h with
  | start => exact .start
  | next _ ih => exact .next ih

theorem Reached.under_tryCatch (handler : ε → Program Req Ans ε α) (h : Reached answer p s q t) :
    Reached answer (tryCatch p handler) s (tryCatch q handler) t := by
  induction h with
  | start => exact .start
  | next _ ih => exact .next ih

theorem Reached.each {φ : (req : Req) → (Except ε (Ans req) → Program Req Ans ε α) → Prop}
    (h : Reached answer p s q t) (hp : p.Each φ) : q.Each φ := by
  induction h with
  | start => exact hp
  | next _ ih => exact ih.2 _

theorem Reached.bind_cases {p : Program Req Ans ε α} {f : α → Program Req Ans ε β}
    {q : Program Req Ans ε β} (h : Reached answer (p >>= f) s q t) :
    (∃ p', Reached answer p s p' t ∧ q = p' >>= f) ∨
      ∃ a u, Reached answer p s (.done a) u ∧ Reached answer (f a) u q t := by
  induction h with
  | start => exact .inl ⟨p, .start, rfl⟩
  | @next req next t _ ih =>
    rcases ih with ⟨p', hp', hq⟩ | ⟨a, u, hdone, hrest⟩
    · cases p' with
      | done a =>
        have hrest : Reached answer (f a) t (.ask req next) t := by
          rw [hq]
          exact .start
        exact .inr ⟨a, t, hp', .next hrest⟩
      | thrown e => cases hq
      | ask req' next' =>
        cases hq
        exact .inl ⟨_, .next hp', rfl⟩
    · exact .inr ⟨a, u, hdone, .next hrest⟩

theorem Reached.bind_past {φ : Req → Prop} {p : Program Req Ans ε α} {f : α → Program Req Ans ε β}
    {req : Req} {next : Except ε (Ans req) → Program Req Ans ε β}
    (h : Reached answer (p >>= f) s (.ask req next) t) (hp : p.Asks φ) (hreq : ¬ φ req) :
    ∃ a u, Reached answer p s (.done a) u ∧ Reached answer (f a) u (.ask req next) t := by
  rcases h.bind_cases with ⟨p', hp', hq⟩ | hpast
  · cases p' with
    | done a =>
      have hrest : Reached answer (f a) t (.ask req next) t := by
        rw [hq]
        exact .start
      exact ⟨a, t, hp', hrest⟩
    | thrown e => cases hq
    | ask req' next' =>
      cases hq
      exact absurd (hp'.each hp).1 hreq
  · exact hpast

theorem Reached.bind_done {p : Program Req Ans ε α} {f : α → Program Req Ans ε β} {b : β}
    (h : Reached answer (p >>= f) s (.done b) t) :
    ∃ a u, Reached answer p s (.done a) u ∧ Reached answer (f a) u (.done b) t := by
  rcases h.bind_cases with ⟨p', hp', hq⟩ | hpast
  · cases p' with
    | done a =>
      have hrest : Reached answer (f a) t (.done b) t := by
        rw [hq]
        exact .start
      exact ⟨a, t, hp', hrest⟩
    | thrown e => cases hq
    | ask req' next' => cases hq
  · exact hpast

theorem Reached.request_cases {req : Req} {q : Program Req Ans ε (Ans req)}
    (h : Reached answer (Program.request req) s q t) :
    q = Program.request req ∧ t = s ∨
      (∃ a, q = .done a ∧ (answer req).run s = .ok a t) ∨
        ∃ e, q = .thrown e ∧ (answer req).run s = .error e t := by
  induction h with
  | start => exact .inl ⟨rfl, rfl⟩
  | @next req' next u _ ih =>
    rcases ih with ⟨hasks, hu⟩ | ⟨a, hdone, _⟩ | ⟨e, hthrown, _⟩
    · cases hasks
      rw [hu]
      cases hrun : (answer req).run s with
      | ok a s' =>
        rw [respond_ok hrun]
        exact .inr (.inl ⟨a, rfl, rfl⟩)
      | error e s' =>
        rw [respond_error hrun]
        exact .inr (.inr ⟨e, rfl, rfl⟩)
    · cases hdone
    · cases hthrown

theorem Reached.thrown_cases {e : ε} (h : Reached answer (.thrown e) s q t) :
    q = .thrown e ∧ t = s := by
  induction h with
  | start => exact ⟨rfl, rfl⟩
  | next _ ih => cases ih.1

theorem Reached.done_cases {a : α} (h : Reached answer (.done a) s q t) : q = .done a ∧ t = s := by
  induction h with
  | start => exact ⟨rfl, rfl⟩
  | next _ ih => cases ih.1

theorem Reached.done_run {a : α} (h : Reached answer p s (.done a) t) :
    (interpret answer p).run s = .ok a t := h.run_eq

theorem Reached.grows {R : σ → σ → Prop} (hrefl : ∀ s, R s s)
    (htrans : ∀ {s t u}, R s t → R t u → R s u)
    (hgrows : ∀ (req : Req) (s : σ), R s (respond (answer req) s).2) (h : Reached answer p s q t) :
    R s t := by
  induction h with
  | start => exact hrefl s
  | @next req next t _ ih => exact htrans ih (hgrows req t)

theorem interpret_grows {R : σ → σ → Prop} (hrefl : ∀ s, R s s)
    (htrans : ∀ {s t u}, R s t → R t u → R s u)
    (hgrows : ∀ (req : Req) (s : σ), R s (respond (answer req) s).2) (p : Program Req Ans ε α) (s : σ) :
    R s (after ((interpret answer p).run s)) := by
  induction p generalizing s with
  | done a => exact hrefl s
  | thrown e => exact hrefl s
  | ask req next ih =>
    rw [interpret_ask_run]
    exact htrans (hgrows req s) (ih _ _)

end Interpretation

-- answers that change with the number of requests made, so that two of them can be joined there
structure Oracle (W Req : Type) (Ans : Req → Type) (ε σ : Type) where
  answer : W → (req : Req) → EStateM ε σ (Ans req)
  clock : σ → Nat
  splice : W → Nat → W → W
  tick : ∀ w req s, clock s < clock (respond (answer w req) s).2
  answer_before : ∀ w n w' req s, clock s < n →
    (answer (splice w n w') req).run s = (answer w req).run s
  answer_at : ∀ w n w' req s, clock s = n →
    (answer (splice w n w') req).run s = (answer w' req).run s

section Oracle

variable {W ι τ : Type} {O : Oracle W Req Ans ε σ}
variable {p q : Program Req Ans ε α} {s t : σ}

theorem Reached.splice {w : W} (h : Reached (O.answer w) p s q t) (w' : W) {n : Nat}
    (hn : O.clock t ≤ n) : Reached (O.answer (O.splice w n w')) p s q t := by
  induction h with
  | start => exact .start
  | @next req next t before ih =>
    have htick := O.tick w req t
    have hsame : respond (O.answer (O.splice w n w') req) t = respond (O.answer w req) t :=
      respond_congr (O.answer_before w n w' req t (by omega))
    rw [← hsame]
    exact .next (ih (by omega))

theorem Reached.extend {w : W} {req : Req} {next : Except ε (Ans req) → Program Req Ans ε α}
    (h : Reached (O.answer w) p s (.ask req next) t) (w' : W) :
    Reached (O.answer (O.splice w (O.clock t) w')) p s (next (respond (O.answer w' req) t).1)
      (respond (O.answer w' req) t).2 := by
  have hsame : respond (O.answer (O.splice w (O.clock t) w') req) t = respond (O.answer w' req) t :=
    respond_congr (O.answer_at w _ w' req t rfl)
  rw [← hsame]
  exact .next (h.splice w' (Nat.le_refl _))

structure Pool (ι τ σ : Type) (Req : Type) (Ans : Req → Type) (ε α : Type) where
  shared : τ
  own : ι → σ
  program : ι → Program Req Ans ε α

variable [DecidableEq ι]

-- an exception that is `fatal` ends all the programs, not only the one that throws it
def Running (fatal : ε → Prop) (P : Pool ι τ σ Req Ans ε α) : Prop :=
  ∀ j e, P.program j = .thrown e → ¬ fatal e

-- `meets i d w req s d'` has what program `i` in state `s` may meet when it asks `req`
inductive Step (O : Oracle W Req Ans ε σ) (meets : ι → τ → W → Req → σ → τ → Prop)
    (outside : τ → τ → Prop) (fatal : ε → Prop) (P : Pool ι τ σ Req Ans ε α) :
    Pool ι τ σ Req Ans ε α → Prop
  | act (i : ι) (w : W) (d : τ) {req : Req} {next : Except ε (Ans req) → Program Req Ans ε α}
      (running : Running fatal P) (asks : P.program i = .ask req next)
      (met : meets i P.shared w req (P.own i) d) :
      Step O meets outside fatal P
        ⟨d, Function.update P.own i (respond (O.answer w req) (P.own i)).2,
          Function.update P.program i (next (respond (O.answer w req) (P.own i)).1)⟩
  | outside (d : τ) (h : outside P.shared d) : Step O meets outside fatal P { P with shared := d }

variable {meets : ι → τ → W → Req → σ → τ → Prop} {outside : τ → τ → Prop} {fatal : ε → Prop}
variable {P Q : Pool ι τ σ Req Ans ε α}

def Reaches (O : Oracle W Req Ans ε σ) (meets : ι → τ → W → Req → σ → τ → Prop)
    (outside : τ → τ → Prop) (fatal : ε → Prop) :
    Pool ι τ σ Req Ans ε α → Pool ι τ σ Req Ans ε α → Prop :=
  ReflTransGen (Step O meets outside fatal)

theorem Running.program {i : ι} (h : Running fatal P) (hothers : ∀ j, j ≠ i → Q.program j = P.program j)
    (hi : ∀ e, Q.program i = .thrown e → ¬ fatal e) : Running fatal Q := by
  intro j e he
  by_cases hj : j = i
  · subst hj
    exact hi e he
  · exact h j e (hothers j hj ▸ he)

theorem Reaches.invariant {I : Pool ι τ σ Req Ans ε α → Prop} (h : Reaches O meets outside fatal P Q)
    (hstart : I P) (hstep : ∀ P' Q', Reaches O meets outside fatal P P' → I P' →
      Step O meets outside fatal P' Q' → I Q') : I Q := by
  induction h with
  | refl => exact hstart
  | tail before step ih => exact hstep _ _ before ih step

theorem Step.shared_grows {R : τ → τ → Prop} (hmeets : ∀ {i d w req s d'}, meets i d w req s d' → R d d')
    (houtside : ∀ {d d'}, outside d d' → R d d') (h : Step O meets outside fatal P Q) :
    R P.shared Q.shared := by
  cases h with
  | act _ _ _ _ _ met => exact hmeets met
  | outside _ h => exact houtside h

theorem Step.own_grows {R : σ → σ → Prop} (hrefl : ∀ s, R s s)
    (hgrows : ∀ (w : W) (req : Req) (s : σ), R s (respond (O.answer w req) s).2)
    (h : Step O meets outside fatal P Q) (i : ι) : R (P.own i) (Q.own i) := by
  cases h with
  | act j w d _ asks met =>
    by_cases hj : i = j
    · subst hj
      simp only [Function.update_self]
      exact hgrows w _ _
    · simp only [Function.update_of_ne hj]
      exact hrefl _
  | outside d h => exact hrefl _

-- a world that `serves` a shared state is one whose answers may all have come from it or before it
structure Served (serves : ι → τ → W → Prop) (O : Oracle W Req Ans ε σ)
    (meets : ι → τ → W → Req → σ → τ → Prop) (outside : τ → τ → Prop) : Prop where
  met : ∀ {i d w req s d'}, meets i d w req s d' → serves i d w
  kept : ∀ {i j d w w' req s d'}, meets j d w' req s d' → serves i d w → serves i d' w
  kept_outside : ∀ {i d w d'}, outside d d' → serves i d w → serves i d' w
  spliced : ∀ {i d w w'} (n : Nat), serves i d w → serves i d w' → serves i d (O.splice w n w')

theorem Reaches.alone {serves : ι → τ → W → Prop} (hserved : Served serves O meets outside)
    (h : Reaches O meets outside fatal P Q) {i : ι} (hstart : ∃ w, serves i P.shared w) :
    ∃ w, serves i Q.shared w ∧
      Reached (O.answer w) (P.program i) (P.own i) (Q.program i) (Q.own i) := by
  induction h with
  | refl =>
    obtain ⟨w, hw⟩ := hstart
    exact ⟨w, hw, .start⟩
  | @tail P' Q' _ step ih =>
    obtain ⟨w, hw, hreached⟩ := ih
    cases step with
    | act j w' d _ asks met =>
      by_cases hj : i = j
      · subst hj
        rw [asks] at hreached
        simp only [Function.update_self]
        exact ⟨_, hserved.kept met (hserved.spliced _ hw (hserved.met met)), hreached.extend w'⟩
      · simp only [Function.update_of_ne hj]
        exact ⟨w, hserved.kept met hw, hreached⟩
    | outside d h => exact ⟨w, hserved.kept_outside h hw, hreached⟩

theorem Reached.reaches {i : ι} {w : W} {q : Program Req Ans ε α} {t : σ}
    (hrunning : Running fatal P) (hmet : ∀ req s, meets i P.shared w req s P.shared)
    (h : Reached (O.answer w) (P.program i) (P.own i) q t) :
    Reaches O meets outside fatal P
      ⟨P.shared, Function.update P.own i t, Function.update P.program i q⟩ := by
  induction h with
  | start =>
    rw [Function.update_eq_self, Function.update_eq_self]
    exact .refl
  | @next req next t _ ih =>
    refine ih.tail ?_
    have hasking : Running fatal (Pool.mk P.shared (Function.update P.own i t)
        (Function.update P.program i (.ask req next))) := by
      refine hrunning.program (i := i) (fun j hj => Function.update_of_ne hj _ _) fun e he => ?_
      dsimp only at he
      rw [Function.update_self] at he
      cases he
    have hstep : Step O meets outside fatal
        ⟨P.shared, Function.update P.own i t, Function.update P.program i (.ask req next)⟩ _ :=
      .act i w P.shared hasking (Function.update_self _ _ _) (hmet _ _)
    simp only [Function.update_self, Function.update_idem] at hstep
    exact hstep

end Oracle

end Interaction
