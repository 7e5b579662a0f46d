import Mathlib.Logic.Function.Basic
import BabbleOn.Library.Runs
import BabbleOn.Server.MessageStore

namespace Server
open Execution Runs Table

namespace MessageIds

structure Transaction where
  handler : Nat
  message_id : Option Nat
  deriving DecidableEq, Repr

-- `row` is where the handler's own text went; the code itself does not keep it
inductive Phase where
  | ready
  | stored (row : Nat)
  | found (row : Nat) (message_id : Option Nat)
  | completed (row : Nat) (message_id : Option Nat)
  | failed
  deriving DecidableEq, Repr

def Phase.row? : Phase → Option Nat
  | ready => none
  | stored row => some row
  | found row _ => some row
  | completed row _ => some row
  | failed => none

-- a row of `messages` is known by its place, and `phase` has every run of a handler on any connection
structure State where
  messages : List Str
  transactions : List Transaction
  phase : Nat → Phase

inductive Action where
  | insertMessage (k : Nat)
  | selectMessageId (k : Nat)
  | insertTransaction (k : Nat)
  | sqlException (k : Nat)
  deriving DecidableEq, Repr

def start (messages : List Str) : State := ⟨messages, [], fun _ => .ready⟩

def messageIds (messages : List Str) (text : Str) : List Nat :=
  (List.range messages.length).filter fun i => messages[i]? = some text

def lastId (ids : List Nat) : Option Nat := ids.foldl (fun _ id => some id) none

def State.become (s : State) (k : Nat) (p : Phase) : State :=
  { s with phase := Function.update s.phase k p }

-- `text k` is the `receivedDecryptedMessage` of handler `k`
def step (text : Nat → Str) (s : State) : Action → Option State
  | .insertMessage k =>
    match s.phase k with
    | .ready =>
      some (State.become { s with messages := s.messages ++ [text k] } k (.stored s.messages.length))
    | _ => none
  | .selectMessageId k =>
    match s.phase k with
    | .stored row => some (s.become k (.found row (lastId (messageIds s.messages (text k)))))
    | _ => none
  | .insertTransaction k =>
    match s.phase k with
    | .found row id =>
      some (State.become { s with transactions := s.transactions ++ [⟨k, id⟩] } k (.completed row id))
    | _ => none
  | .sqlException k =>
    match s.phase k with
    | .completed _ _ => none
    | .failed => none
    | _ => some (s.become k .failed)

structure OwnMessages (s : State) : Prop where
  own : ∀ t ∈ s.transactions, ∃ row, (s.phase t.handler).row? = some row ∧ t.message_id = some row
  unshared : s.transactions.Pairwise fun t u => t.message_id ≠ u.message_id
  referenced : ∀ k row id, s.phase k = .completed row id → ⟨k, some row⟩ ∈ s.transactions

-- when a handler selects, no equal text has been inserted after its own
def Undisturbed (text : Nat → Str) (s : State) : Action → Prop
  | .selectMessageId k => ∀ row, s.phase k = .stored row →
      ∀ i, row < i → s.messages[i]? ≠ some (text k)
  | _ => True

@[simp] theorem become_messages (s : State) (k : Nat) (p : Phase) :
    (s.become k p).messages = s.messages := rfl

@[simp] theorem become_transactions (s : State) (k : Nat) (p : Phase) :
    (s.become k p).transactions = s.transactions := rfl

theorem become_phase (s : State) (k : Nat) (p : Phase) (j : Nat) :
    (s.become k p).phase j = if j = k then p else s.phase j := by
  exact Function.update_apply s.phase k p j

@[simp] theorem become_phase_self (s : State) (k : Nat) (p : Phase) : (s.become k p).phase k = p := by
  rw [become_phase, if_pos rfl]

theorem become_phase_ne {s : State} {j k : Nat} (h : j ≠ k) (p : Phase) :
    (s.become k p).phase j = s.phase j := by
  rw [become_phase, if_neg h]

theorem lastId_concat (ids : List Nat) (id : Nat) : lastId (ids ++ [id]) = some id := by
  rw [lastId, List.foldl_append]
  rfl

theorem lastId_eq (ids : List Nat) : lastId ids = ids.getLast? := by
  rcases List.eq_nil_or_concat ids with rfl | ⟨ids, id, rfl⟩
  · rfl
  · rw [List.concat_eq_append, lastId_concat, List.getLast?_concat]

-- the three steps are the statements of one run of `storeMessage` on the shared tables
theorem storeMessage_steps {w : World} {first : SPChatMsgMessage} {text : Str} {c c' : Conn}
    (h : (storeMessage w first text).run c = .ok () c') {messages : List Str}
    (hselect : (w.selectMessageId (c.calls + 3) text).rows =
      (messageIds messages text).map fun i : Nat => decimal (i + 1)) :
    ∃ sender_id received_id, c'.events = c.events ++ [.executed (.messages text),
      .executed (.transactions sender_id received_id
        (((lastId (messageIds messages text)).map fun i : Nat => decimal (i + 1)).getD [])
        (seconds first.time))] := by
  obtain ⟨sender_id, received_id, hevents⟩ := storeMessage_eq_ok h
  rw [hselect, lastString_eq, List.getLast?_map, ← lastId_eq] at hevents
  exact ⟨sender_id, received_id, hevents⟩

theorem lastId_newest {messages : List Str} {text : Str} {row : Nat}
    (hrow : messages[row]? = some text) (hnewest : ∀ i, row < i → messages[i]? ≠ some text) :
    lastId (messageIds messages text) = some row := by
  obtain ⟨n, hn⟩ := Nat.exists_eq_add_of_lt (List.getElem?_eq_some_iff.mp hrow).1
  have hlater : ((List.range n).map (row + 1 + ·)).filter
      (fun i => messages[i]? = some text) = [] := by
    refine List.filter_eq_nil_iff.mpr fun i hi => ?_
    obtain ⟨j, _, rfl⟩ := List.mem_map.mp hi
    simpa using hnewest (row + 1 + j) (by omega)
  rw [messageIds, show messages.length = row + 1 + n by omega, List.range_add, List.filter_append,
    hlater, List.append_nil, List.range_succ, List.filter_append]
  rw [show [row].filter (fun i => messages[i]? = some text) = [row] by simp [hrow], lastId_concat]

inductive Stepped (text : Nat → Str) (s : State) : Action → State → Prop
  | insertMessage {k : Nat} (h : s.phase k = .ready) :
      Stepped text s (.insertMessage k)
        (State.become { s with messages := s.messages ++ [text k] } k (.stored s.messages.length))
  | selectMessageId {k row : Nat} (h : s.phase k = .stored row) :
      Stepped text s (.selectMessageId k)
        (s.become k (.found row (lastId (messageIds s.messages (text k)))))
  | insertTransaction {k row : Nat} {id : Option Nat} (h : s.phase k = .found row id) :
      Stepped text s (.insertTransaction k)
        (State.become { s with transactions := s.transactions ++ [⟨k, id⟩] } k (.completed row id))
  | sqlException {k : Nat} (h : ∀ row id, s.phase k ≠ .completed row id) :
      Stepped text s (.sqlException k) (s.become k .failed)

theorem stepped {text : Nat → Str} {s t : State} {a : Action} (h : step text s a = some t) :
    Stepped text s a t := by
  cases a with
  | insertMessage k =>
    simp only [step] at h
    split at h
    · rename_i hready
      cases h
      exact .insertMessage hready
    · cases h
  | selectMessageId k =>
    simp only [step] at h
    split at h
    · rename_i hstored
      cases h
      exact .selectMessageId hstored
    · cases h
  | insertTransaction k =>
    simp only [step] at h
    split at h
    · rename_i hfound
      cases h
      exact .insertTransaction hfound
    · cases h
  | sqlException k =>
    simp only [step] at h
    split at h
    · cases h
    · cases h
    · rename_i hcompleted _
      cases h
      exact .sqlException hcompleted

structure Placed (text : Nat → Str) (s : State) : Prop where
  texts : ∀ k row, (s.phase k).row? = some row → s.messages[row]? = some (text k)
  apart : ∀ j k row, (s.phase j).row? = some row → (s.phase k).row? = some row → j = k

structure Ledger (s : State) : Prop where
  found : ∀ k row id, s.phase k = .found row id → id = some row
  written : ∀ t ∈ s.transactions, ∃ row, s.phase t.handler = .completed row (some row) ∧
    t.message_id = some row
  once : s.transactions.Pairwise fun t u => t.handler ≠ u.handler
  referenced : ∀ k row id, s.phase k = .completed row id → ⟨k, some row⟩ ∈ s.transactions

variable {text : Nat → Str} {s t : State}

theorem Placed.become (h : Placed text s) {k : Nat} {p : Phase}
    (hrow : ∀ row, p.row? = some row → (s.phase k).row? = some row) :
    Placed text (s.become k p) := by
  have hkept : ∀ j row, ((s.become k p).phase j).row? = some row → (s.phase j).row? = some row := by
    intro j row hj
    rw [become_phase] at hj
    split at hj
    · rename_i heq
      rw [heq]
      exact hrow row hj
    · exact hj
  exact ⟨fun j row hj => h.texts j row (hkept j row hj),
    fun i j row hi hj => h.apart i j row (hkept i row hi) (hkept j row hj)⟩

theorem Placed.insert (h : Placed text s) (k : Nat) :
    Placed text (State.become { s with messages := s.messages ++ [text k] } k
      (.stored s.messages.length)) := by
  have hcase : ∀ j row, ((State.become { s with messages := s.messages ++ [text k] } k
      (.stored s.messages.length)).phase j).row? = some row →
        (j = k ∧ row = s.messages.length) ∨ (s.phase j).row? = some row ∧ row < s.messages.length := by
    intro j row hj
    rw [become_phase] at hj
    split at hj
    · rename_i heq
      exact .inl ⟨heq, (Option.some.inj hj).symm⟩
    · exact .inr ⟨hj, (List.getElem?_eq_some_iff.mp (h.texts j row hj)).1⟩
  refine ⟨fun j row hj => ?_, fun i j row hi hj => ?_⟩
  · rcases hcase j row hj with ⟨rfl, rfl⟩ | ⟨hold, _⟩
    · exact List.getElem?_concat_length
    · exact getElem?_kept _ (h.texts j row hold)
  · rcases hcase i row hi with ⟨rfl, rfl⟩ | ⟨hold, hlt⟩
    · rcases hcase j _ hj with ⟨rfl, _⟩ | ⟨_, hlt⟩
      · rfl
      · exact absurd hlt (Nat.lt_irrefl _)
    · rcases hcase j row hj with ⟨_, rfl⟩ | ⟨hold', _⟩
      · exact absurd hlt (Nat.lt_irrefl _)
      · exact h.apart i j row hold hold'

theorem placed_start (text : Nat → Str) (messages : List Str) : Placed text (start messages) where
  texts _ _ h := by cases h
  apart _ _ _ h := by cases h

theorem placed_step {a : Action} (h : Placed text s) (hstep : step text s a = some t) :
    Placed text t := by
  cases stepped hstep with
  | insertMessage _ => exact h.insert _
  | selectMessageId hk => exact h.become fun row hrow => by rw [hk]; exact hrow
  | @insertTransaction k row id hk =>
    have hwritten : Placed text (s.become k (.completed row id)) :=
      h.become fun row hrow => by rw [hk]; exact hrow
    exact ⟨hwritten.texts, hwritten.apart⟩
  | sqlException _ => exact h.become nofun

theorem ledger_start (messages : List Str) : Ledger (start messages) where
  found _ _ _ h := by cases h
  written _ h := by cases h
  once := .nil
  referenced _ _ _ h := by cases h

theorem Ledger.absent (h : Ledger s) {k : Nat} (hk : ∀ row id, s.phase k ≠ .completed row id)
    {u : Transaction} (hu : u ∈ s.transactions) : u.handler ≠ k := by
  rintro rfl
  obtain ⟨row, hcompleted, _⟩ := h.written u hu
  exact hk _ _ hcompleted

theorem Ledger.become (h : Ledger s) {k : Nat} {p : Phase}
    (hk : ∀ row id, s.phase k ≠ .completed row id) (hp : ∀ row id, p ≠ .completed row id)
    (hfound : ∀ row id, p = .found row id → id = some row) : Ledger (s.become k p) := by
  refine ⟨fun j row id hj => ?_, fun u hu => ?_, h.once, fun j row id hj => ?_⟩
  · rw [become_phase] at hj
    split at hj
    · exact hfound row id hj
    · exact h.found j row id hj
  · rw [become_phase_ne (h.absent hk hu)]
    exact h.written u hu
  · rw [become_phase] at hj
    split at hj
    · exact absurd hj (hp row id)
    · exact h.referenced j row id hj

theorem Ledger.insert (h : Ledger s) {k row : Nat} {id : Option Nat} (hk : s.phase k = .found row id) :
    Ledger (State.become { s with transactions := s.transactions ++ [⟨k, id⟩] } k
      (.completed row id)) := by
  obtain rfl := h.found k row id hk
  have habsent : ∀ u ∈ s.transactions, u.handler ≠ k :=
    fun u hu => h.absent (by rw [hk]; nofun) hu
  refine ⟨fun j row' id hj => ?_, fun u hu => ?_, ?_, fun j row' id hj => ?_⟩
  · rw [become_phase] at hj
    split at hj
    · cases hj
    · exact h.found j row' id hj
  · rcases List.mem_append.mp hu with hold | hnew
    · rw [become_phase_ne (habsent u hold)]
      exact h.written u hold
    · rw [List.mem_singleton.mp hnew]
      exact ⟨row, become_phase_self _ _ _, rfl⟩
  · refine List.pairwise_append.mpr ⟨h.once, List.pairwise_singleton _ _, fun u hu v hv => ?_⟩
    rw [List.mem_singleton.mp hv]
    exact habsent u hu
  · rw [become_phase] at hj
    split at hj
    · rename_i heq
      cases hj
      rw [heq]
      exact List.mem_append_right _ (List.mem_singleton.mpr rfl)
    · exact List.mem_append_left _ (h.referenced j row' id hj)

theorem ledger_step {a : Action} (hplaced : Placed text s) (h : Ledger s) (hok : Undisturbed text s a)
    (hstep : step text s a = some t) : Ledger t := by
  cases stepped hstep with
  | @insertMessage k hk =>
    have hsame : Ledger { s with messages := s.messages ++ [text k] } :=
      ⟨h.found, h.written, h.once, h.referenced⟩
    exact hsame.become (fun _ _ => by dsimp only; rw [hk]; nofun) nofun nofun
  | @selectMessageId k row hk =>
    have hrow : s.messages[row]? = some (text k) := hplaced.texts k row (by rw [hk]; rfl)
    refine h.become (fun _ _ => by rw [hk]; nofun) nofun fun row' id hp => ?_
    rw [lastId_newest hrow (hok row hk)] at hp
    cases hp
    rfl
  | insertTransaction hk => exact h.insert hk
  | sqlException hk => exact h.become hk nofun nofun

theorem own_messages (hplaced : Placed text s) (h : Ledger s) : OwnMessages s where
  own u hu := by
    obtain ⟨row, hcompleted, hid⟩ := h.written u hu
    exact ⟨row, by rw [hcompleted]; rfl, hid⟩
  unshared := by
    refine h.once.imp_of_mem fun {u v} hu hv hne heq => hne ?_
    obtain ⟨row, hu', hid⟩ := h.written u hu
    obtain ⟨row', hv', hid'⟩ := h.written v hv
    rw [hid, hid'] at heq
    cases heq
    exact hplaced.apart _ _ row (by rw [hu']; rfl) (by rw [hv']; rfl)
  referenced := h.referenced

theorem own_messages_when_undisturbed {messages : List Str}
    (h : Run (step text) (Undisturbed text) (start messages) s) : OwnMessages s := by
  have hboth : Placed text s ∧ Ledger s :=
    h.invariant (I := fun s => Placed text s ∧ Ledger s)
      ⟨placed_start text messages, ledger_start messages⟩
      fun _ _ _ hs hok hstep => ⟨placed_step hs.1 hstep, ledger_step hs.1 hs.2 hok hstep⟩
  exact own_messages hboth.1 hboth.2

def greetings (k : Nat) : Str := if k = 0 then ascii "hi" else ascii "yo"

theorem interleaved_own :
    ∃ s, perform (step greetings) (start []) [.insertMessage 0, .insertMessage 1, .selectMessageId 0,
      .insertTransaction 0] = some s ∧ OwnMessages s := by
  have hinserted : Run (step greetings) (Undisturbed greetings) (start []) _ :=
    .next (.next .start (show Undisturbed greetings _ (.insertMessage 0) from trivial) rfl)
      (show Undisturbed greetings _ (.insertMessage 1) from trivial) rfl
  have hnewest : ∀ i, 0 < i → [ascii "hi", ascii "yo"][i]? ≠ some (ascii "hi") := by
    intro i hi
    cases i with
    | zero => cases hi
    | succ i =>
      cases i with
      | zero => decide
      | succ i => nofun
  have hselected : Run (step greetings) (Undisturbed greetings) (start []) _ :=
    .next hinserted (show Undisturbed greetings _ (.selectMessageId 0) from
      fun row hrow => by cases hrow; exact hnewest) rfl
  have hwritten : Run (step greetings) (Undisturbed greetings) (start []) _ :=
    .next hselected (show Undisturbed greetings _ (.insertTransaction 0) from trivial) rfl
  exact ⟨_, rfl, own_messages_when_undisturbed hwritten⟩

def sameText : Nat → Str := fun _ => ascii "hi"

theorem equal_texts_confused :
    ∃ s, Reaches (step sameText) (start []) s ∧ ¬ OwnMessages s := by
  have hrun : ∃ s, perform (step sameText) (start []) [.insertMessage 0, .insertMessage 1,
      .selectMessageId 0, .selectMessageId 1, .insertTransaction 0, .insertTransaction 1] = some s ∧
      s.transactions = [⟨0, some 1⟩, ⟨1, some 1⟩] := ⟨_, rfl, rfl⟩
  obtain ⟨s, hs, htransactions⟩ := hrun
  refine ⟨s, reaches_perform hs, fun hown => ?_⟩
  have hpair := hown.unshared
  rw [htransactions] at hpair
  exact List.rel_of_pairwise_cons hpair (List.mem_singleton.mpr rfl) rfl

end MessageIds

end Server
