import Mathlib.Data.List.Basic

namespace Runs

variable {σ α : Type}

-- `step s a` is `none` where the action is not possible
inductive Run (step : σ → α → Option σ) (allowed : σ → α → Prop) (s : σ) : σ → Prop
  | start : Run step allowed s s
  | next {t u : σ} {a : α} (before : Run step allowed s t) (ok : allowed t a) (act : step t a = some u) :
      Run step allowed s u

def Reaches (step : σ → α → Option σ) : σ → σ → Prop := Run step fun _ _ => True

variable {step : σ → α → Option σ} {allowed : σ → α → Prop} {s t : σ}

theorem Run.invariant {I : σ → Prop} (h : Run step allowed s t) (hs : I s)
    (hstep : ∀ t a u, I t → allowed t a → step t a = some u → I u) : I t := by
  induction h with
  | start => exact hs
  | next _ ok act ih => exact hstep _ _ _ ih ok act

theorem Run.trans {u : σ} (h : Run step allowed s t) (h' : Run step allowed t u) :
    Run step allowed s u := by
  induction h' with
  | start => exact h
  | next _ ok act ih => exact .next ih ok act

def perform (step : σ → α → Option σ) (s : σ) (actions : List α) : Option σ := actions.foldlM step s

def Along (P : σ → Prop) (step : σ → α → Option σ) : σ → List α → Prop
  | s, [] => P s
  | s, a :: actions => P s ∧ ∀ t, step s a = some t → Along P step t actions

def EachStep (allowed : σ → α → Prop) (step : σ → α → Option σ) : σ → List α → Prop
  | _, [] => True
  | s, a :: actions => allowed s a ∧ ∀ t, step s a = some t → EachStep allowed step t actions

theorem eachStep_cons {a : α} {actions : List α} (hact : step s a = some t) :
    EachStep allowed step s (a :: actions) ↔ allowed s a ∧ EachStep allowed step t actions := by
  rw [EachStep, hact]
  simp

theorem eachStep_none {a : α} {actions : List α} (hact : step s a = none) :
    EachStep allowed step s (a :: actions) ↔ allowed s a := by
  rw [EachStep, hact]
  simp

instance EachStep.decidable [∀ s a, Decidable (allowed s a)] :
    ∀ s actions, Decidable (EachStep allowed step s actions)
  | _, [] => .isTrue trivial
  | s, a :: actions =>
    match hact : step s a with
    | none => decidable_of_iff _ (eachStep_none hact).symm
    | some t =>
      have := EachStep.decidable t actions
      decidable_of_iff _ (eachStep_cons hact).symm

theorem along_iff {P : σ → Prop}
    (hstep : ∀ s a t, P s → step s a = some t → (P t ↔ allowed s a)) {actions : List α}
    (hrun : perform step s actions = some t) :
    Along P step s actions ↔ P s ∧ EachStep allowed step s actions := by
  induction actions generalizing s with
  | nil => exact ⟨fun hP => ⟨hP, trivial⟩, And.left⟩
  | cons a actions ih =>
    rw [perform, List.foldlM_cons] at hrun
    obtain ⟨u, hact, hrest⟩ := Option.bind_eq_some_iff.mp hrun
    have hnext (Q : σ → Prop) : (∀ t, step s a = some t → Q t) ↔ Q u := by
      rw [hact]
      simp
    rw [Along, EachStep, hnext, hnext, ih hrest]
    constructor
    · rintro ⟨hP, hu, heach⟩
      exact ⟨hP, (hstep s a u hP hact).mp hu, heach⟩
    · rintro ⟨hP, hallowed, heach⟩
      exact ⟨hP, (hstep s a u hP hact).mpr hallowed, heach⟩

theorem along_and {P I : σ → Prop} (hI : ∀ s a t, I s → step s a = some t → I t) {actions : List α}
    (hs : I s) : Along (fun s => I s ∧ P s) step s actions ↔ Along P step s actions := by
  induction actions generalizing s with
  | nil => exact and_iff_right hs
  | cons a actions ih =>
    rw [Along, Along, and_iff_right hs]
    refine and_congr_right fun _ => forall_congr' fun t => ?_
    exact forall_congr' fun hact => ih (hI s a t hs hact)

theorem run_perform {actions : List α} (h : perform step s actions = some t)
    (hallowed : EachStep allowed step s actions) : Run step allowed s t := by
  induction actions generalizing s with
  | nil =>
    cases h
    exact .start
  | cons a actions ih =>
    rw [perform, List.foldlM_cons] at h
    obtain ⟨u, hact, hrest⟩ := Option.bind_eq_some_iff.mp h
    exact (Run.next .start hallowed.1 hact).trans (ih hrest (hallowed.2 u hact))

theorem eachStep_true (actions : List α) : EachStep (fun _ _ => True) step s actions := by
  induction actions generalizing s with
  | nil => trivial
  | cons a actions ih => exact ⟨trivial, fun _ _ => ih⟩

theorem reaches_perform {actions : List α} (h : perform step s actions = some t) : Reaches step s t :=
  run_perform h (eachStep_true actions)

end Runs

namespace Table

variable {α : Type}

theorem getElem?_insert {rows : List α} {new row : α} {i : Nat}
    (h : (rows ++ [new])[i]? = some row) : rows[i]? = some row ∨ i = rows.length ∧ row = new := by
  rcases Nat.lt_trichotomy i rows.length with hlt | rfl | hgt
  · rw [List.getElem?_append_left hlt] at h
    exact .inl h
  · rw [List.getElem?_concat_length] at h
    exact .inr ⟨rfl, (Option.some.inj h).symm⟩
  · rw [List.getElem?_eq_none (by rw [List.length_append]; exact hgt)] at h
    cases h

theorem getElem?_kept {rows : List α} (new : α) {row : α} {i : Nat} (h : rows[i]? = some row) :
    (rows ++ [new])[i]? = some row := by
  rw [List.getElem?_append_left (List.getElem?_eq_some_iff.mp h).1, h]

end Table
