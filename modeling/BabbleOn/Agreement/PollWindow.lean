import BabbleOn.Library.Runs

namespace Agreement
open Runs Table

namespace Polling

structure StoredRow where
  timestamp : Nat
  deriving DecidableEq, Repr

-- what the server keeps of the stamp, and what its query compares it with
def seconds (millis : Nat) : Nat := millis / 1000

def StoredRow.storedSecond (row : StoredRow) : Nat := seconds row.timestamp

def WAIT_TIME : Nat := 5000

-- `polling` holds between writing a poll and setting `lastPollTime`; a row is known by its place in
-- `stored`, and `answers` has the rows returned to each answered poll
structure State where
  currentTimeMillis : Nat
  created : Nat
  lastPollTime : Nat
  polling : Bool
  sent : List Nat
  stored : List StoredRow
  inFlight : List Nat
  answers : List (List Nat)
  deriving DecidableEq, Repr

inductive Action where
  | advance (millis : Nat)
  | send
  | store (i : Nat)
  | pollServer
  | setLastPollTime
  | answerPoll
  deriving DecidableEq, Repr

def start (now : Nat) : State := ⟨now, now, now, false, [], [], [], []⟩

-- when the poller is created, messages may be on their way and in the table already
structure Initial (s : State) : Prop where
  created : s.created = s.currentTimeMillis
  lastPollTime : s.lastPollTime = s.currentTimeMillis
  polling : s.polling = false
  sent : ∀ timestamp ∈ s.sent, timestamp ≤ s.currentTimeMillis
  stored : ∀ row ∈ s.stored, row.timestamp ≤ s.currentTimeMillis
  inFlight : s.inFlight = []
  answers : s.answers = []

theorem initial_start (now : Nat) : Initial (start now) :=
  ⟨rfl, rfl, rfl, by simp [start], by simp [start], rfl, rfl⟩

def matching (stored : List StoredRow) (pollTime : Nat) : List Nat :=
  (List.range stored.length).filter fun i =>
    stored[i]?.any fun row => decide (row.storedSecond > seconds pollTime)

def step (s : State) : Action → Option State
  | .advance millis => some { s with currentTimeMillis := s.currentTimeMillis + millis }
  | .send => some { s with sent := s.sent ++ [s.currentTimeMillis] }
  | .store i =>
    match s.sent[i]? with
    | none => none
    | some timestamp =>
      some { s with sent := s.sent.eraseIdx i, stored := s.stored ++ [⟨timestamp⟩] }
  | .pollServer =>
    if s.polling = false ∧ s.currentTimeMillis > s.lastPollTime + WAIT_TIME then
      some { s with polling := true, inFlight := s.inFlight ++ [s.lastPollTime] }
    else none
  | .setLastPollTime =>
    if s.polling = true then
      some { s with polling := false, lastPollTime := s.currentTimeMillis }
    else none
  | .answerPoll =>
    match s.inFlight with
    | [] => none
    | pollTime :: inFlight =>
      some { s with inFlight := inFlight, answers := s.answers ++ [matching s.stored pollTime] }

def Returned (s : State) (i : Nat) : Prop := ∃ answer ∈ s.answers, i ∈ answer

def NoneLost (s : State) : Prop :=
  ∀ i row, s.stored[i]? = some row → s.created < row.timestamp →
    Returned s i ∨ (∃ pollTime ∈ s.inFlight, row.storedSecond > seconds pollTime) ∨
      row.storedSecond > seconds s.lastPollTime

def NoneTwice (s : State) : Prop := s.answers.Pairwise List.Disjoint

def oldestWindow (s : State) : Nat := s.inFlight.head?.getD s.lastPollTime

-- a message is stored in time, and none between the answer to a poll and `setLastPollTime`
def Timely (s : State) : Action → Prop
  | .store i => ∀ timestamp, s.sent[i]? = some timestamp → s.created < timestamp →
      seconds (oldestWindow s) < seconds timestamp
  | .setLastPollTime => s.inFlight ≠ [] ∨
      ∀ i row, s.stored[i]? = some row → s.created < row.timestamp → Returned s i
  | _ => True

instance (s : State) : (a : Action) → Decidable (Timely s a)
  | .store i => inferInstanceAs (Decidable (∀ timestamp ∈ s.sent[i]?, s.created < timestamp →
      seconds (oldestWindow s) < seconds timestamp))
  | .setLastPollTime => decidable_of_iff (s.inFlight ≠ [] ∨ ∀ i < s.stored.length,
      ∀ row ∈ s.stored[i]?, s.created < row.timestamp → ∃ answer ∈ s.answers, i ∈ answer)
      (or_congr_right ⟨fun h i row hrow => h i (List.getElem?_eq_some_iff.mp hrow).1 row hrow,
        fun h i _ row hrow => h i row hrow⟩)
  | .advance _ => .isTrue trivial
  | .send => .isTrue trivial
  | .pollServer => .isTrue trivial
  | .answerPoll => .isTrue trivial

def nextWindow (s : State) : Option Nat :=
  (s.inFlight.tail ++ if s.polling then [] else [s.lastPollTime]).head?

def Prompt (s : State) : Action → Prop
  | .answerPoll => ∀ window, nextWindow s = some window → ∀ row ∈ s.stored,
      row.storedSecond ≤ seconds window
  | _ => True

instance (s : State) : (a : Action) → Decidable (Prompt s a)
  | .answerPoll => inferInstanceAs (Decidable (∀ window ∈ nextWindow s, ∀ row ∈ s.stored,
      row.storedSecond ≤ seconds window))
  | .advance _ => .isTrue trivial
  | .send => .isTrue trivial
  | .store _ => .isTrue trivial
  | .pollServer => .isTrue trivial
  | .setLastPollTime => .isTrue trivial

theorem mem_matching {stored : List StoredRow} {pollTime i : Nat} :
    i ∈ matching stored pollTime ↔
      ∃ row, stored[i]? = some row ∧ seconds pollTime < row.storedSecond := by
  rw [matching, List.mem_filter, List.mem_range]
  constructor
  · rintro ⟨hi, hany⟩
    rw [List.getElem?_eq_getElem hi] at hany ⊢
    exact ⟨_, rfl, of_decide_eq_true hany⟩
  · rintro ⟨row, hrow, hlt⟩
    refine ⟨(List.getElem?_eq_some_iff.mp hrow).1, ?_⟩
    rw [hrow]
    exact decide_eq_true hlt

inductive Stepped (s : State) : Action → State → Prop
  | advance (millis : Nat) :
      Stepped s (.advance millis) { s with currentTimeMillis := s.currentTimeMillis + millis }
  | send : Stepped s .send { s with sent := s.sent ++ [s.currentTimeMillis] }
  | store {i timestamp : Nat} (h : s.sent[i]? = some timestamp) :
      Stepped s (.store i) { s with
        sent := s.sent.eraseIdx i, stored := s.stored ++ [⟨timestamp⟩] }
  | pollServer (h : s.polling = false) (hwait : s.lastPollTime + WAIT_TIME < s.currentTimeMillis) :
      Stepped s .pollServer { s with polling := true, inFlight := s.inFlight ++ [s.lastPollTime] }
  | setLastPollTime (h : s.polling = true) :
      Stepped s .setLastPollTime { s with polling := false, lastPollTime := s.currentTimeMillis }
  | answerPoll {pollTime : Nat} {inFlight : List Nat} (h : s.inFlight = pollTime :: inFlight) :
      Stepped s .answerPoll { s with
        inFlight := inFlight, answers := s.answers ++ [matching s.stored pollTime] }

theorem stepped {s t : State} {a : Action} (h : step s a = some t) : Stepped s a t := by
  cases a with
  | advance millis =>
    cases h
    exact .advance millis
  | send =>
    cases h
    exact .send
  | store i =>
    simp only [step] at h
    split at h
    · cases h
    · rename_i timestamp hi
      cases h
      exact .store hi
  | pollServer =>
    simp only [step] at h
    split at h
    · rename_i hp
      cases h
      exact .pollServer hp.1 hp.2
    · cases h
  | setLastPollTime =>
    simp only [step] at h
    split at h
    · rename_i hp
      cases h
      exact .setLastPollTime hp
    · cases h
  | answerPoll =>
    simp only [step] at h
    split at h
    · cases h
    · rename_i hflight
      cases h
      exact .answerPoll hflight

structure Ordered (s : State) : Prop where
  stored : ∀ row ∈ s.stored, row.timestamp ≤ s.currentTimeMillis
  sent : ∀ timestamp ∈ s.sent, timestamp ≤ s.currentTimeMillis
  last : s.lastPollTime ≤ s.currentTimeMillis
  flight : ∀ pollTime ∈ s.inFlight, pollTime ≤ s.lastPollTime
  sorted : s.inFlight.Pairwise (· ≤ ·)

theorem seconds_mono {m n : Nat} (h : m ≤ n) : seconds m ≤ seconds n := Nat.div_le_div_right h

theorem ordered_step {s t : State} {a : Action} (h : Ordered s) (hstep : step s a = some t) :
    Ordered t := by
  obtain ⟨hstored, hsent, hlast, hflight, hsorted⟩ := h
  cases stepped hstep with
  | advance millis =>
    exact ⟨fun row hrow => Nat.le_add_right_of_le (hstored row hrow),
      fun ts hts => Nat.le_add_right_of_le (hsent ts hts), Nat.le_add_right_of_le hlast, hflight, hsorted⟩
  | send =>
    refine ⟨hstored, fun ts hts => ?_, hlast, hflight, hsorted⟩
    rcases List.mem_append.mp hts with hold | hnew
    · exact hsent ts hold
    · exact Nat.le_of_eq (List.mem_singleton.mp hnew)
  | @store i timestamp hi =>
    refine ⟨fun row hrow => ?_, fun ts hts => hsent ts (List.mem_of_mem_eraseIdx hts), hlast, hflight,
      hsorted⟩
    rcases List.mem_append.mp hrow with hold | hnew
    · exact hstored row hold
    · rw [List.mem_singleton.mp hnew]
      exact hsent timestamp (List.mem_of_getElem? hi)
  | pollServer hp hwait =>
    refine ⟨hstored, hsent, hlast, fun q hq => ?_, List.pairwise_append.mpr
      ⟨hsorted, List.pairwise_singleton _ _, fun q hq r hr => ?_⟩⟩
    · rcases List.mem_append.mp hq with hold | hnew
      · exact hflight q hold
      · exact Nat.le_of_eq (List.mem_singleton.mp hnew)
    · rw [List.mem_singleton.mp hr]
      exact hflight q hq
  | setLastPollTime hp =>
    exact ⟨hstored, hsent, Nat.le_refl _, fun q hq => Nat.le_trans (hflight q hq) hlast, hsorted⟩
  | answerPoll hq =>
    rw [hq] at hflight hsorted
    exact ⟨hstored, hsent, hlast, fun q hmem => hflight q (List.mem_cons_of_mem _ hmem),
      hsorted.of_cons⟩

theorem returned_answer {s : State} {pollTime i : Nat} {inFlight : List Nat}
    (h : Returned { s with
      inFlight := inFlight, answers := s.answers ++ [matching s.stored pollTime] } i) :
    Returned s i ∨ i ∈ matching s.stored pollTime := by
  obtain ⟨answer, hmem, hi⟩ := h
  rcases List.mem_append.mp hmem with hold | hnew
  · exact .inl ⟨answer, hold, hi⟩
  · rw [List.mem_singleton.mp hnew] at hi
    exact .inr hi

structure Sound (s : State) : Prop where
  ordered : Ordered s
  inTable : ∀ i, Returned s i → i < s.stored.length
  justSent : s.polling = true → s.inFlight ≠ [] → s.inFlight.getLast? = some s.lastPollTime

theorem sound_initial {s : State} (h : Initial s) : Sound s where
  ordered := by
    refine ⟨h.stored, h.sent, Nat.le_of_eq h.lastPollTime, ?_, ?_⟩
    · simp [h.inFlight]
    · rw [h.inFlight]
      exact .nil
  inTable := by
    rintro i ⟨answer, hmem, _⟩
    rw [h.answers] at hmem
    cases hmem
  justSent := by
    intro hp
    rw [h.polling] at hp
    cases hp

theorem sound_step {s t : State} {a : Action} (h : Sound s) (hstep : step s a = some t) : Sound t := by
  have hordered := ordered_step h.ordered hstep
  cases stepped hstep with
  | advance millis => exact ⟨hordered, h.inTable, h.justSent⟩
  | send => exact ⟨hordered, h.inTable, h.justSent⟩
  | store hi =>
    refine ⟨hordered, fun i hret => ?_, h.justSent⟩
    rw [List.length_append]
    exact Nat.lt_add_right _ (h.inTable i hret)
  | pollServer hp hwait => exact ⟨hordered, h.inTable, fun _ _ => by simp⟩
  | setLastPollTime hp => exact ⟨hordered, h.inTable, fun h => by cases h⟩
  | answerPoll hflight =>
    refine ⟨hordered, fun i hret => ?_, fun hp hne => ?_⟩
    · rcases returned_answer hret with hold | hnew
      · exact h.inTable i hold
      · obtain ⟨row, hrow, _⟩ := mem_matching.mp hnew
        exact (List.getElem?_eq_some_iff.mp hrow).1
    · have hlast := h.justSent hp (by simp [hflight])
      rwa [hflight, List.getLast?_cons_of_ne_nil hne] at hlast

theorem Ordered.oldest_le {s : State} (h : Ordered s) :
    (∀ pollTime ∈ s.inFlight, oldestWindow s ≤ pollTime) ∧ oldestWindow s ≤ s.lastPollTime := by
  have hsorted := h.sorted
  have hbound := h.flight
  rw [oldestWindow]
  cases hflight : s.inFlight with
  | nil => exact ⟨fun q hq => (by cases hq), Nat.le_refl _⟩
  | cons window rest =>
    rw [hflight] at hsorted hbound
    refine ⟨fun q hq => ?_, hbound window List.mem_cons_self⟩
    rcases List.mem_cons.mp hq with rfl | hmem
    · exact Nat.le_refl _
    · exact List.rel_of_pairwise_cons hsorted hmem

theorem noneLost_initial {s : State} (h : Initial s) : NoneLost s := by
  intro i row hrow hcreated
  have hpast := h.stored row (List.mem_of_getElem? hrow)
  rw [h.created] at hcreated
  exact absurd hcreated (Nat.not_lt.mpr hpast)

theorem NoneLost.answer {s : State} (h : NoneLost s) {pollTime : Nat} {inFlight : List Nat}
    (hflight : s.inFlight = pollTime :: inFlight) :
    NoneLost { s with
      inFlight := inFlight, answers := s.answers ++ [matching s.stored pollTime] } := by
  intro i row hrow hcreated
  rcases h i row hrow hcreated with ⟨answer, hmem, hi⟩ | ⟨q, hq, hlt⟩ | hlt
  · exact .inl ⟨answer, List.mem_append_left _ hmem, hi⟩
  · rw [hflight] at hq
    rcases List.mem_cons.mp hq with rfl | hq
    · exact .inl ⟨_, List.mem_append_right _ (List.mem_singleton.mpr rfl),
        mem_matching.mpr ⟨row, hrow, hlt⟩⟩
    · exact .inr (.inl ⟨q, hq, hlt⟩)
  · exact .inr (.inr hlt)

theorem NoneLost.store {s : State} (h : NoneLost s) {i timestamp : Nat}
    (htimely : s.created < timestamp → seconds (oldestWindow s) < seconds timestamp) :
    NoneLost { s with sent := s.sent.eraseIdx i, stored := s.stored ++ [⟨timestamp⟩] } := by
  intro j row hrow hcreated
  rcases getElem?_insert hrow with hold | ⟨_, rfl⟩
  · exact h j row hold hcreated
  · have hwindow := htimely hcreated
    unfold oldestWindow at hwindow
    cases hflight : s.inFlight with
    | nil =>
      rw [hflight] at hwindow
      exact .inr (.inr hwindow)
    | cons pollTime inFlight =>
      rw [hflight] at hwindow
      exact .inr (.inl ⟨pollTime, List.mem_cons_self, hwindow⟩)

theorem NoneLost.stored_timely {s : State} (hsound : Sound s) {i timestamp : Nat}
    (h : NoneLost { s with sent := s.sent.eraseIdx i, stored := s.stored ++ [⟨timestamp⟩] })
    (hcreated : s.created < timestamp) : seconds (oldestWindow s) < seconds timestamp := by
  obtain ⟨hflight, hlast⟩ := hsound.ordered.oldest_le
  rcases h s.stored.length ⟨timestamp⟩ List.getElem?_concat_length hcreated with hret | ⟨q, hq, hlt⟩ | hlt
  · exact absurd (hsound.inTable _ hret) (Nat.lt_irrefl _)
  · exact Nat.lt_of_le_of_lt (seconds_mono (hflight q hq)) hlt
  · exact Nat.lt_of_le_of_lt (seconds_mono hlast) hlt

theorem NoneLost.window {s : State} (hsound : Sound s) (h : NoneLost s) (hp : s.polling = true)
    (hok : Timely s .setLastPollTime) :
    NoneLost { s with polling := false, lastPollTime := s.currentTimeMillis } := by
  intro i row hrow hcreated
  rcases hok with hflight | hall
  · rcases h i row hrow hcreated with hret | hq | hlt
    · exact .inl hret
    · exact .inr (.inl hq)
    · exact .inr (.inl ⟨_, List.mem_of_getLast? (hsound.justSent hp hflight), hlt⟩)
  · exact .inl (hall i row hrow hcreated)

theorem NoneLost.window_timely {s : State} (hsound : Sound s)
    (h : NoneLost { s with polling := false, lastPollTime := s.currentTimeMillis }) :
    Timely s .setLastPollTime := by
  by_cases hflight : s.inFlight = []
  · refine .inr fun i row hrow hcreated => ?_
    rcases h i row hrow hcreated with hret | ⟨q, hq, _⟩ | hlt
    · exact hret
    · rw [hflight] at hq
      cases hq
    · -- no stamp is later than the clock
      have hpast := hsound.ordered.stored row (List.mem_of_getElem? hrow)
      exact absurd hlt (Nat.not_lt.mpr (seconds_mono hpast))
  · exact .inl hflight

theorem noneLost_step_iff {s t : State} {a : Action} (hsound : Sound s) (h : NoneLost s)
    (hstep : step s a = some t) : NoneLost t ↔ Timely s a := by
  cases stepped hstep with
  | advance millis => exact ⟨fun _ => trivial, fun _ => h⟩
  | send => exact ⟨fun _ => trivial, fun _ => h⟩
  | @store i timestamp hi =>
    refine ⟨fun hkept timestamp' hi' hcreated => ?_, fun hok => h.store (hok _ hi)⟩
    cases hi.symm.trans hi'
    exact hkept.stored_timely hsound hcreated
  | pollServer hp hwait =>
    refine ⟨fun _ => trivial, fun _ i row hrow hcreated => ?_⟩
    rcases h i row hrow hcreated with hret | ⟨q, hq, hlt⟩ | hlt
    · exact .inl hret
    · exact .inr (.inl ⟨q, List.mem_append_left _ hq, hlt⟩)
    · exact .inr (.inr hlt)
  | setLastPollTime hp => exact ⟨fun hkept => hkept.window_timely hsound, h.window hsound hp⟩
  | answerPoll hflight => exact ⟨fun _ => trivial, fun _ => h.answer hflight⟩

theorem none_lost_iff_timely {s₀ s : State} (h₀ : Initial s₀) {actions : List Action}
    (hrun : perform step s₀ actions = some s) :
    Along NoneLost step s₀ actions ↔ EachStep Timely step s₀ actions := by
  have hstep : ∀ s a t, Sound s ∧ NoneLost s → step s a = some t →
      (Sound t ∧ NoneLost t ↔ Timely s a) := fun s a t h hact =>
    (and_iff_right (sound_step h.1 hact)).trans (noneLost_step_iff h.1 h.2 hact)
  rw [← along_and (I := Sound) (fun _ _ _ h hact => sound_step h hact) (sound_initial h₀),
    along_iff hstep hrun]
  exact and_iff_right ⟨sound_initial h₀, noneLost_initial h₀⟩

def oldRow : State := { start 10000 with stored := [⟨9000⟩] }

theorem oldRow_initial : Initial oldRow := by
  refine ⟨rfl, rfl, rfl, fun _ h => (by cases h), fun row hrow => ?_, rfl, rfl⟩
  rw [List.mem_singleton.mp hrow]
  decide

def answeredInTime : List Action :=
  [.advance 6000, .send, .store 0, .pollServer, .answerPoll, .setLastPollTime]

theorem next_second_kept : (perform step oldRow answeredInTime).map State.answers = some [[1]] ∧
    Along NoneLost step oldRow answeredInTime :=
  ⟨by decide, (none_lost_iff_timely oldRow_initial
    (show perform step oldRow answeredInTime = some _ from rfl)).mpr (by decide)⟩

theorem same_second_lost : ∃ s, Reaches step (start 10000) s ∧ ¬ NoneLost s := by
  have hrun : perform step (start 10000) [.advance 500, .send, .store 0] = some
      { start 10000 with currentTimeMillis := 10500, stored := [⟨10500⟩] } := rfl
  refine ⟨_, reaches_perform hrun, fun hnone => ?_⟩
  rcases hnone 0 ⟨10500⟩ rfl (show 10000 < 10500 by decide) with ⟨_, hmem, _⟩ | ⟨_, hmem, _⟩ | hlt
  · cases hmem
  · cases hmem
  · exact absurd hlt (show ¬ seconds 10500 > seconds 10000 by decide)

structure Single (s : State) : Prop where
  sound : Sound s
  noneTwice : NoneTwice s
  behind : ∀ i row, Returned s i → s.stored[i]? = some row →
    (∀ pollTime ∈ s.inFlight, row.storedSecond ≤ seconds pollTime) ∧
      (s.polling = false → row.storedSecond ≤ seconds s.lastPollTime)

theorem Prompt.behind {s : State} (hordered : Ordered s) {pollTime : Nat} {inFlight : List Nat}
    (hflight : s.inFlight = pollTime :: inFlight) (hprompt : Prompt s .answerPoll) {row : StoredRow}
    (hrow : row ∈ s.stored) :
    (∀ q ∈ inFlight, row.storedSecond ≤ seconds q) ∧
      (s.polling = false → row.storedSecond ≤ seconds s.lastPollTime) := by
  have hsorted := hordered.sorted
  have hbound := hordered.flight
  rw [hflight] at hsorted hbound
  cases inFlight with
  | nil =>
    refine ⟨fun q hq => (by cases hq), fun hp => hprompt s.lastPollTime ?_ row hrow⟩
    rw [nextWindow, hflight, hp]
    rfl
  | cons window rest =>
    have hfirst : row.storedSecond ≤ seconds window := by
      refine hprompt window ?_ row hrow
      rw [nextWindow, hflight]
      rfl
    refine ⟨fun q hq => ?_, fun _ => ?_⟩
    · rcases List.mem_cons.mp hq with rfl | hmem
      · exact hfirst
      · exact Nat.le_trans hfirst (seconds_mono (List.rel_of_pairwise_cons hsorted.of_cons hmem))
    · exact Nat.le_trans hfirst (seconds_mono (hbound window (by simp)))

theorem Single.answer {s : State} (h : Single s) {pollTime : Nat} {inFlight : List Nat}
    (hflight : s.inFlight = pollTime :: inFlight) (hprompt : Prompt s .answerPoll)
    (hsound : Sound { s with
      inFlight := inFlight, answers := s.answers ++ [matching s.stored pollTime] }) :
    Single { s with
      inFlight := inFlight, answers := s.answers ++ [matching s.stored pollTime] } := by
  refine ⟨hsound, ?_, fun i row hret hrow => ?_⟩
  · refine List.pairwise_append.mpr ⟨h.noneTwice, List.pairwise_singleton _ _, ?_⟩
    intro answer hmem new hnew i hi hi'
    rw [List.mem_singleton.mp hnew] at hi'
    obtain ⟨row, hrow, hlt⟩ := mem_matching.mp hi'
    have hbehind := (h.behind i row ⟨answer, hmem, hi⟩ hrow).1 pollTime (by simp [hflight])
    exact absurd hlt (Nat.not_lt.mpr hbehind)
  · rcases returned_answer hret with hold | hnew
    · obtain ⟨hbehind, hnow⟩ := h.behind i row hold hrow
      exact ⟨fun q hq => hbehind q (by simp [hflight, hq]), hnow⟩
    · exact hprompt.behind h.sound.ordered hflight (List.mem_of_getElem? hrow)

theorem single_step {s t : State} {a : Action} (h : Single s) (hok : Prompt s a)
    (hstep : step s a = some t) : Single t := by
  have hsound := sound_step h.sound hstep
  cases stepped hstep with
  | advance millis => exact ⟨hsound, h.noneTwice, h.behind⟩
  | send => exact ⟨hsound, h.noneTwice, h.behind⟩
  | store hi =>
    refine ⟨hsound, h.noneTwice, fun i row hret hrow => ?_⟩
    have hlt := h.sound.inTable i hret
    rcases getElem?_insert hrow with hold | ⟨rfl, _⟩
    · exact h.behind i row hret hold
    · exact absurd hlt (Nat.lt_irrefl _)
  | pollServer hp hwait =>
    refine ⟨hsound, h.noneTwice, fun i row hret hrow => ⟨fun q hq => ?_, fun hn => ?_⟩⟩
    · obtain ⟨hbehind, hnow⟩ := h.behind i row hret hrow
      rcases List.mem_append.mp hq with hold | hnew
      · exact hbehind q hold
      · rw [List.mem_singleton.mp hnew]
        exact hnow hp
    · cases hn
  | setLastPollTime hp =>
    refine ⟨hsound, h.noneTwice, fun i row hret hrow => ⟨(h.behind i row hret hrow).1, fun _ => ?_⟩⟩
    exact seconds_mono (h.sound.ordered.stored row (List.mem_of_getElem? hrow))
  | answerPoll hflight => exact h.answer hflight hok hsound

theorem single_initial {s : State} (h : Initial s) : Single s where
  sound := sound_initial h
  noneTwice := by
    rw [NoneTwice, h.answers]
    exact .nil
  behind := by
    rintro i row ⟨answer, hmem, _⟩
    rw [h.answers] at hmem
    cases hmem

theorem none_twice_when_prompt {s₀ s : State} (h₀ : Initial s₀) (h : Run step Prompt s₀ s) :
    NoneTwice s :=
  (h.invariant (single_initial h₀) fun _ _ _ hs hok hstep => single_step hs hok hstep).noneTwice

def promptly : List Action :=
  [.advance 2000, .send, .store 0, .advance 3001, .pollServer, .setLastPollTime, .answerPoll,
    .advance 1000, .send, .store 0, .advance 4002, .pollServer, .setLastPollTime, .answerPoll]

theorem one_answer_kept : NoneTwice { start 0 with
    currentTimeMillis := 10003, lastPollTime := 10003, stored := [⟨2000⟩, ⟨6001⟩],
    answers := [[0], [1]] } := by
  have hrun : perform step (start 0) promptly = some { start 0 with
      currentTimeMillis := 10003, lastPollTime := 10003, stored := [⟨2000⟩, ⟨6001⟩],
      answers := [[0], [1]] } := by decide
  exact none_twice_when_prompt (initial_start 0) (run_perform hrun (by decide))

theorem late_answer_twice : ∃ s, Reaches step (start 0) s ∧ ¬ NoneTwice s := by
  have hrun : perform step (start 0) [.advance 5001, .pollServer, .setLastPollTime, .advance 1999, .send,
      .store 0, .answerPoll, .advance 3002, .pollServer, .answerPoll] = some { start 0 with
        currentTimeMillis := 10002, lastPollTime := 5001, polling := true, stored := [⟨7000⟩],
        answers := [[0], [0]] } := by decide
  refine ⟨_, reaches_perform hrun, fun htwice => ?_⟩
  have hpair : [[0], [0]].Pairwise List.Disjoint := htwice
  have hdisjoint : List.Disjoint [0] [0] := List.rel_of_pairwise_cons hpair (List.mem_singleton.mpr rfl)
  exact hdisjoint (List.mem_singleton.mpr rfl) (List.mem_singleton.mpr rfl)

end Polling

end Agreement
