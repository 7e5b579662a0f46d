import BabbleOn.Client.FrameBoundary
import BabbleOn.Client.SessionFlags

namespace Client
open Execution ProgramLogic Runs

variable {κ α : Type}

namespace Session

structure Polled (f₀ f : Flags) : Prop where
  authenticated : f.authenticated = f₀.authenticated
  hasExchangedKeys : f.hasExchangedKeys = f₀.hasExchangedKeys
  poller : f.poller = f₀.poller
  keysSent : f.keysSent = f₀.keysSent
  pollers : ∀ (i : Nat) (thread : PollThread), f.pollers[i]? = some thread →
    thread.serverConnected = true →
    ∃ thread₀ : PollThread, f₀.pollers[i]? = some thread₀ ∧ thread₀.serverConnected = true

theorem Polled.refl (f : Flags) : Polled f f := ⟨rfl, rfl, rfl, rfl, fun _ thread h h' => ⟨thread, h, h'⟩⟩

abbrev KeepsPolled (f₀ : Flags) (m : Handler κ α) : Prop :=
  Keeps (fun s => Polled f₀ (flags s)) (fun s => Polled f₀ (flags s)) m
    fun _ s => Polled f₀ (flags s)

theorem setPoller_polled {f₀ : Flags} (i : Nat) {change : PollThread → PollThread}
    (hchange : ∀ thread, (change thread).serverConnected = true → thread.serverConnected = true) :
    KeepsPolled f₀ (setPoller i change : Handler κ Unit) := by
  intro s h
  refine ⟨h.authenticated, h.hasExchangedKeys, h.poller, h.keysSent, fun j thread hj hrunning => ?_⟩
  rw [show (flags _).pollers = s.pollers.modify i change from rfl, List.getElem?_modify] at hj
  obtain ⟨thread', hj', hthread⟩ := Option.map_eq_some_iff.mp hj
  refine h.pollers j thread' hj' ?_
  split at hthread
  · rw [← hthread] at hrunning
    exact hchange thread' hrunning
  · rw [← hthread] at hrunning
    exact hrunning

theorem setServerConnected_polled {f₀ : Flags} (i : Nat) :
    KeepsPolled f₀ (setServerConnected i false : Handler κ Unit) :=
  setPoller_polled i fun _ h => by cases h

theorem pollServer_polled {f₀ : Flags} (w : Machine κ) (timestamp : BitVec 64) :
    KeepsPolled f₀ (pollServer w timestamp) := by
  refine keeps_bind leaves_get.keeps fun s => ?_
  split
  · exact keeps_pure fun _ h => h
  · refine keeps_bind (external_leaves _).keeps fun now =>
      keeps_bind (leaves_ofExcept _).keeps fun poll => ?_
    split
    · exact (encode_leaves w rfl).keeps
    · exact keeps_bind (orNull_leaves _).keeps fun i => setServerConnected_polled i

theorem keeps_logged {P : Session κ → Prop} {m : Handler κ Unit} (h : Keeps P P m fun _ => P) :
    Keeps P P (logged m) fun _ => P := by
  intro s hs
  have hm := h s hs
  simp only [EStateM.run, logged] at hm ⊢
  rcases hrun : m s with ⟨a, s'⟩ | ⟨e, s'⟩
  · rw [hrun] at hm
    exact hm
  · rw [hrun] at hm
    cases e <;> exact hm

theorem poll_polled {f₀ : Flags} (w : Machine κ) (i : Nat) (lastPollTime : BitVec 64) :
    KeepsPolled f₀ (poll w i lastPollTime) := by
  refine keeps_bind (external_leaves _).keeps fun now => ?_
  split
  · exact keeps_logged (keeps_bind (pollServer_polled w lastPollTime) fun _ =>
      keeps_bind (external_leaves _).keeps fun _ => setPoller_polled i fun _ h => h)
  · exact keeps_pure fun _ h => h

inductive Disturbing (w : Machine κ) (s : Session κ) : Prop
  | header {e : JavaThrow} {s₁ : Session κ}
      (herror : (reading BabbleOnMessage.ofStream).run s = .error e s₁)
  | unknown {m : BabbleOnMessage} {s₁ : Session κ}
      (hhead : (reading BabbleOnMessage.ofStream).run s = .ok m s₁)
      (htype : MessageType.getMessageType m.messageType = none)
  | handler {m : BabbleOnMessage} {type : Byte} {e : JavaThrow} {s₁ s₂ : Session κ}
      (hhead : (reading BabbleOnMessage.ofStream).run s = .ok m s₁)
      (htype : MessageType.getMessageType m.messageType = some type)
      (herror : (handle w type).run s₁ = .error e s₂)

theorem returns_false {m : Handler κ α} {b : Bool} {s s' : Session κ}
    (h : (do let _ ← m; pure false : Handler κ Bool).run s = .ok b s') : b = false := by
  obtain ⟨_, _, _, hpure⟩ := bind_eq_ok.mp h
  cases hpure
  rfl

theorem handle_false {w : Machine κ} {type : Byte} {b : Bool} {s s' : Session κ}
    (h : (handle w type).run s = .ok b s') : b = false := by
  unfold handle at h
  split at h
  · obtain ⟨_, _, _, hrest⟩ := bind_eq_ok.mp h
    exact returns_false hrest
  · split at h
    · exact returns_false h
    · split at h
      · obtain ⟨_, _, _, hrest⟩ := bind_eq_ok.mp h
        exact returns_false hrest
      · split at h
        · obtain ⟨_, _, _, h⟩ := bind_eq_ok.mp h
          obtain ⟨_, _, _, h⟩ := bind_eq_ok.mp h
          obtain ⟨_, _, _, h⟩ := bind_eq_ok.mp h
          exact returns_false h
        · cases h
          rfl

theorem dispatch_error {w : Machine κ} {s : Session κ} (h : Disturbing w s) :
    ∃ e s', (dispatch w).run s = .error e s' := by
  unfold dispatch
  cases h with
  | header herror => exact ⟨_, _, bind_error herror⟩
  | unknown hhead htype =>
    rw [bind_ok hhead, htype]
    exact ⟨_, _, rfl⟩
  | handler hhead htype herror =>
    rw [bind_ok hhead, htype]
    exact ⟨_, _, herror⟩

theorem dispatch_ok {w : Machine κ} {s : Session κ} (h : ¬ Disturbing w s) :
    ∃ s', (dispatch w).run s = .ok false s' := by
  unfold dispatch
  rcases hhead : (reading BabbleOnMessage.ofStream).run s with ⟨m, s₁⟩ | ⟨e, s₁⟩
  · rw [bind_ok hhead]
    cases htype : MessageType.getMessageType m.messageType with
    | none => exact absurd (.unknown hhead htype) h
    | some type =>
      rcases hhandle : (handle w type).run s₁ with ⟨b, s₂⟩ | ⟨e, s₂⟩
      · obtain rfl := handle_false hhandle
        exact ⟨s₂, rfl⟩
      · exact absurd (.handler hhead htype hhandle) h
  · exact absurd (.header hhead) h

end Session

namespace ReaderThread

open Session

theorem run_frame (w : Machine κ) (t : ReaderThread κ) :
    (run w t).frame = t.frame ∨ (run w t).frame = after ((dispatch w).run t.frame) := by
  unfold run
  split
  · exact .inl rfl
  · right
    rcases (dispatch w).run t.frame with ⟨b, s⟩ | ⟨e, s⟩
    · rfl
    · cases e <;> rfl

theorem step_read {w : Machine κ} {t t' : ReaderThread κ} (h : step w t .read = some t') :
    Moves w t.frame t'.frame := by
  simp only [step] at h
  split at h
  · cases h
    rcases run_frame w t with hframe | hframe
    · rw [hframe]
      exact .same rfl
    · rw [hframe]
      exact dispatch_moves w t.frame
  · cases h

theorem step_ready {w : Machine κ} {t : ReaderThread κ}
    (h : t.alive = true ∧ t.exited = false ∧ t.frame.stream ≠ []) :
    step w t .read = some (run w t) := by
  rw [step, if_pos h]

theorem read_spins {w : Machine κ} {t t' : ReaderThread κ} (hworking : t.working = true)
    (h : step w t .read = some t') : t'.frame = t.frame := by
  simp only [step] at h
  split at h
  · cases h
    simp only [run, hworking, if_true]
  · cases h

theorem step_poll {w : Machine κ} {t t' : ReaderThread κ} {i : Nat} (h : step w t (.poll i) = some t') :
    t'.working = t.working ∧ t'.alive = t.alive ∧ t'.exited = t.exited ∧
      Polled (flags t.frame) (flags t'.frame) := by
  simp only [step] at h
  split at h
  · split at h
    · cases h
    · rename_i lastPollTime _ _
      have hpoll := poll_polled w i lastPollTime t.frame (Polled.refl (flags t.frame))
      rcases hrun : (poll w i lastPollTime).run t.frame with ⟨a, s⟩ | ⟨e, s⟩
      · rw [hrun] at h hpoll
        cases h
        exact ⟨rfl, rfl, rfl, hpoll⟩
      · rw [hrun] at h hpoll
        cases h
        exact ⟨rfl, rfl, rfl, (setServerConnected_polled i).after hpoll⟩
  · cases h

-- a client before its first frame, somebody having entered a name
structure Fresh (t : ReaderThread κ) : Prop where
  working : t.working = false
  alive : t.alive = true
  exited : t.exited = false
  authenticated : t.frame.authenticated = false
  hasExchangedKeys : t.frame.hasExchangedKeys = false
  username : t.frame.username.isSome = true
  serverPubKey : t.frame.serverPubKey = none
  out : t.frame.out = some []
  poller : t.frame.poller = none
  pollers : t.frame.pollers = []

def Listening (t : ReaderThread κ) : Prop := t.working = false ∧ t.alive = true

theorem run_listening {w : Machine κ} {t : ReaderThread κ} (ht : t.working = false)
    (h : ¬ Disturbing w t.frame) : ∃ frame, run w t = { t with frame := frame } := by
  obtain ⟨s, hrun⟩ := dispatch_ok h
  refine ⟨s, ?_⟩
  simp only [run, ht, hrun, Bool.false_eq_true, if_false]

theorem run_silenced {w : Machine κ} {t : ReaderThread κ} (h : Disturbing w t.frame) :
    (run w t).working = true := by
  obtain ⟨e, s, hrun⟩ := dispatch_error h
  unfold run
  split
  · assumption
  · rw [hrun]
    cases e <;> rfl

theorem exited_dead {w : Machine κ} {t₀ t : ReaderThread κ} (h₀ : Fresh t₀) (h : Reaches (step w) t₀ t) :
    t.exited = true → t.alive = false := by
  refine h.invariant (I := fun t => t.exited = true → t.alive = false)
    (fun h => by rw [h₀.exited] at h; cases h) fun t a u ht _ hact => ?_
  cases a with
  | read =>
    simp only [step] at hact
    split at hact
    · rename_i hready
      cases hact
      unfold run
      split
      · exact ht
      · rcases (dispatch w).run t.frame with ⟨b, s⟩ | ⟨e, s⟩
        · exact ht
        · cases e <;> first | exact ht | exact fun _ => rfl
    · cases hact
  | poll i =>
    obtain ⟨_, halive, hexited, _⟩ := step_poll hact
    rw [halive, hexited]
    exact ht

theorem listening_iff {w : Machine κ} {t₀ : ReaderThread κ} (h₀ : Fresh t₀) :
    (∀ t, Reaches (step w) t₀ t → Listening t) ↔
      ∀ t, Reaches (step w) t₀ t → t.frame.stream ≠ [] → ¬ Disturbing w t.frame := by
  constructor
  · intro h t ht hstream hdisturbing
    obtain ⟨_, halive⟩ := h t ht
    have hexited : t.exited = false := by
      by_contra hne
      have hdead := exited_dead h₀ ht (by simpa using hne)
      rw [halive] at hdead
      cases hdead
    have hnext : step w t .read = some (run w t) := step_ready ⟨halive, hexited, hstream⟩
    have hworking := (h _ (.next ht trivial hnext)).1
    exact absurd (run_silenced hdisturbing) (by rw [hworking]; decide)
  · intro h t ht
    refine (ht.invariant (I := fun t => Reaches (step w) t₀ t ∧ Listening t)
      ⟨.start, h₀.working, h₀.alive⟩ fun t a u hI _ hact => ⟨.next hI.1 trivial hact, ?_⟩).2
    obtain ⟨ht, hworking, halive⟩ := hI
    cases a with
    | read =>
      simp only [step] at hact
      split at hact
      · rename_i hready
        obtain ⟨frame, hrun⟩ := run_listening hworking (h t ht hready.2.2)
        cases hact
        rw [hrun]
        exact ⟨hworking, halive⟩
      · cases hact
    | poll i =>
      obtain ⟨hsame, hlive, _, _⟩ := step_poll hact
      exact ⟨hsame.trans hworking, hlive.trans halive⟩

def KeyInOrder (s : Session κ) : Prop :=
  s.hasExchangedKeys = true ∨ symmetricKeys (s.out.getD []) ≠ [] → s.authenticated = true

theorem keyInOrder_flags {s : Session κ} : KeyInOrder s ↔
    ((flags s).hasExchangedKeys = true ∨ (flags s).keysSent ≠ [] → (flags s).authenticated = true) :=
  Iff.rfl

theorem key_after_password {w : Machine κ} {t₀ t : ReaderThread κ} (h₀ : Fresh t₀)
    (h : Run (step w) (fun t a => a = .read → t.working = false → KeyNext w t.frame →
      t.frame.authenticated = true) t₀ t) : KeyInOrder t.frame := by
  refine h.invariant (I := fun t => KeyInOrder t.frame) ?_ fun t a u ht hallowed hact => ?_
  · rintro (hkeys | hsent)
    · rw [h₀.hasExchangedKeys] at hkeys
      cases hkeys
    · rw [h₀.out] at hsent
      exact absurd rfl hsent
  · cases a with
    | read =>
      by_cases hworking : t.working = true
      · rw [read_spins hworking hact]
        exact ht
      cases step_read hact with
      | same hsame =>
        rw [keyInOrder_flags, hsame]
        exact ht
      | authenticates hauth =>
        rw [keyInOrder_flags, hauth]
        exact fun _ => rfl
      | starts _ _ now hstarts =>
        rw [keyInOrder_flags, hstarts]
        exact ht
      | sendsKey hnext hauth _ _ =>
        exact fun _ => hauth.trans (hallowed rfl (Bool.eq_false_iff.mpr hworking) hnext)
    | poll i =>
      obtain ⟨_, _, _, hpolled⟩ := step_poll hact
      rw [keyInOrder_flags, hpolled.hasExchangedKeys, hpolled.keysSent, hpolled.authenticated]
      exact ht

def OnePoller (s : Session κ) : Prop :=
  ∀ (i : Nat) (thread : PollThread), s.pollers[i]? = some thread → thread.serverConnected = true →
    s.poller = some i

theorem OnePoller.congr {s s' : Session κ} (h : OnePoller s) (hpoller : s'.poller = s.poller)
    (hpollers : s'.pollers = s.pollers) : OnePoller s' := by
  intro i thread hi hrunning
  rw [hpollers] at hi
  rw [hpoller]
  exact h i thread hi hrunning

theorem onePoller_start {pollers : List PollThread} (now : BitVec 64)
    (hnone : ∀ thread ∈ pollers, thread.serverConnected = false) {i : Nat} {thread : PollThread}
    (h : (pollers ++ [⟨now, true⟩])[i]? = some thread) (hrunning : thread.serverConnected = true) :
    some pollers.length = some i := by
  rcases Table.getElem?_insert h with hold | ⟨rfl, _⟩
  · rw [hnone thread (List.mem_of_getElem? hold)] at hrunning
    cases hrunning
  · rfl

theorem one_poller {w : Machine κ} {t₀ t : ReaderThread κ} (h₀ : Fresh t₀)
    (h : Run (step w) (fun t a => a = .read → t.working = false → SuccessNext t.frame →
      t.frame.hasExchangedKeys = true → ∀ thread ∈ t.frame.pollers, thread.serverConnected = false)
      t₀ t) : OnePoller t.frame := by
  refine h.invariant (I := fun t => OnePoller t.frame) ?_ fun t a u ht hallowed hact => ?_
  · intro i thread hi
    rw [h₀.pollers] at hi
    cases hi
  · cases a with
    | read =>
      by_cases hworking : t.working = true
      · rw [read_spins hworking hact]
        exact ht
      cases step_read hact with
      | same hsame =>
        exact ht.congr (congrArg Flags.poller hsame) (congrArg Flags.pollers hsame)
      | authenticates hsame =>
        exact ht.congr (congrArg Flags.poller hsame) (congrArg Flags.pollers hsame)
      | starts hnext hkeys now hstarts =>
        intro i thread hi hrunning
        rw [show u.frame.pollers = _ from congrArg Flags.pollers hstarts] at hi
        rw [show u.frame.poller = _ from congrArg Flags.poller hstarts]
        exact onePoller_start now (hallowed rfl (Bool.eq_false_iff.mpr hworking) hnext hkeys) hi hrunning
      | sendsKey _ _ hpoller hpollers => exact ht.congr hpoller hpollers
    | poll i =>
      obtain ⟨_, _, _, hpolled⟩ := step_poll hact
      intro j thread hj hrunning
      obtain ⟨thread₀, hj₀, hrunning₀⟩ := hpolled.pollers j thread hj hrunning
      exact hpolled.poller.trans (ht j thread₀ hj₀ hrunning₀)

theorem reading_header {type : Byte} {payload rest : Bytes} (hn : payload.length < 2 ^ 63)
    {s : Session κ} (hs : s.stream = Client.frame type payload ++ rest) :
    (Session.reading BabbleOnMessage.ofStream).run s =
      .ok ⟨type, BitVec.ofNat 64 payload.length⟩ { s with stream := payload ++ rest } := by
  have hhead := BabbleOnMessage.ofStream_length type (BitVec.ofNat 64 payload.length) (payload ++ rest)
  rw [SignedWords.toInt_ofNat_long hn, if_neg (by omega), ← List.append_assoc] at hhead
  simp only [EStateM.run, Session.reading] at hhead ⊢
  rw [hs, Client.frame, BabbleOnMessage.writeHeader, hhead]

theorem not_keyNext {w : Machine κ} {type : Byte} (htype : type ≠ MessageType.LoginMessage)
    {payload rest : Bytes} (hn : payload.length < 2 ^ 63) {s : Session κ}
    (hs : s.stream = Client.frame type payload ++ rest) : ¬ KeyNext w s := by
  rintro ⟨s₁, _, _, ⟨len, hhead⟩, _⟩
  rw [reading_header hn hs] at hhead
  cases hhead
  exact htype rfl

section Example

def machine : Machine Unit where
  cipher := noText
  initDecrypt := fun _ => some ()
  digest := fun _ => List.replicate 32 0#8
  generateNonce := fun _ => 0#64
  currentTimeMillis := fun _ => 0#64
  decodeKey := anyKey
  generatePublic := some
  wrap := fun _ _ _ => some (List.replicate 128 7#8)
  writeFails := fun _ => false
  date := fun _ => []
  newline := []

def client (stream : Bytes) : ReaderThread Unit where
  working := false
  alive := true
  exited := false
  frame := {
    authenticated := false
    username := some (java "bob")
    input := some []
    serverPubKey := none
    localPublicKey := some someKey
    localPrivateKey := some someKey
    symmetricKey := some someKey
    cipherSymmetricIn := none
    stream := stream
    out := some []
    poller := none
    pollers := []
    hasExchangedKeys := false
    incomingMessageBox := []
    shown := []
    calls := 0 }

theorem client_fresh (stream : Bytes) : Fresh (client stream) :=
  ⟨rfl, rfl, rfl, rfl, rfl, rfl, rfl, rfl, rfl, rfl⟩

def passwordAccepted : Bytes := Client.frame MessageType.ACKMessage [10#8]

def success : Bytes := Client.frame MessageType.ACKMessage [0#8]

def publicKey : Bytes := Client.frame MessageType.LoginMessage
  (writeInt 0#32 ++ 1#8 :: List.replicate LoginMessage.KEY_LEN 65#8)

def badName : Bytes := Client.frame MessageType.LoginMessage (writeInt 0xFFFFFFFF#32)

def unknownType : Bytes := Client.frame 9#8 []

end Example

theorem bad_frames_silence :
    ¬ (∀ t, Reaches (step machine) (client (badName ++ success)) t → Listening t) ∧
      ¬ ∀ t, Reaches (step machine) (client (unknownType ++ success)) t → Listening t := by
  have hbad : ((perform (step machine) (client (badName ++ success)) [.read]).map fun t =>
      (t.working, t.frame.stream)) = some (true, success) := by decide +kernel
  have hunknown : ((perform (step machine) (client (unknownType ++ success)) [.read]).map fun t =>
      (t.alive, t.frame.stream)) = some (false, success) := by decide +kernel
  refine ⟨fun h => ?_, fun h => ?_⟩
  · obtain ⟨t, ht, hworking⟩ := Option.map_eq_some_iff.mp hbad
    rw [Prod.mk.injEq, (h t (reaches_perform ht)).1] at hworking
    cases hworking.1
  · obtain ⟨t, ht, halive⟩ := Option.map_eq_some_iff.mp hunknown
    rw [Prod.mk.injEq, (h t (reaches_perform ht)).2] at halive
    cases halive.1

theorem key_before_password :
    ¬ ∀ t, Reaches (step machine) (client publicKey) t → KeyInOrder t.frame := by
  intro h
  have hsent : ((perform (step machine) (client publicKey) [.read]).map fun t =>
      (t.frame.hasExchangedKeys, t.frame.authenticated)) = some (true, false) := by decide +kernel
  obtain ⟨t, ht, hflags⟩ := Option.map_eq_some_iff.mp hsent
  rw [Prod.mk.injEq] at hflags
  have hauth := h t (reaches_perform ht) (.inl hflags.1)
  rw [hflags.2] at hauth
  cases hauth

theorem two_pollers : ¬ ∀ t, Reaches (step machine)
    (client (passwordAccepted ++ (publicKey ++ (success ++ success)))) t → OnePoller t.frame := by
  intro h
  have hstarted : ((perform (step machine)
      (client (passwordAccepted ++ (publicKey ++ (success ++ success))))
      [.read, .read, .read, .read]).map fun t =>
        (t.frame.pollers, t.frame.poller)) = some ([⟨0#64, true⟩, ⟨0#64, true⟩], some 1) := by
    decide +kernel
  obtain ⟨t, ht, hflags⟩ := Option.map_eq_some_iff.mp hstarted
  rw [Prod.mk.injEq] at hflags
  have hfirst := h t (reaches_perform ht) 0 ⟨0#64, true⟩ (by rw [hflags.1]; rfl) rfl
  rw [hflags.2] at hfirst
  cases hfirst

theorem poll_none {w : Machine κ} {t : ReaderThread κ} (h : t.frame.pollers = []) (i : Nat) :
    step w t (.poll i) = none := by
  simp only [step, h, List.getElem?_nil]

theorem success_reaches {t : ReaderThread Unit} (h : Reaches (step machine) (client success) t) :
    t = client success ∨ t.frame.stream = [] ∧ t.frame.pollers = [] := by
  refine h.invariant (I := fun t => t = client success ∨ t.frame.stream = [] ∧ t.frame.pollers = [])
    (.inl rfl) fun t a u ht _ hact => .inr ?_
  rcases ht with rfl | ⟨hstream, hpollers⟩
  · cases a with
    | read =>
      rw [step_ready (by decide +kernel)] at hact
      cases hact
      exact ⟨by decide +kernel, by decide +kernel⟩
    | poll i =>
      rw [poll_none rfl] at hact
      cases hact
  · cases a with
    | read =>
      simp only [step, hstream, ne_eq, not_true_eq_false, and_false, if_false] at hact
      cases hact
    | poll i =>
      rw [poll_none hpollers] at hact
      cases hact

theorem success_undisturbed : ¬ Disturbing machine (client success).frame := by
  intro h
  obtain ⟨e, s, herror⟩ := dispatch_error h
  have hok : (match (dispatch machine).run (client success).frame with
    | .ok _ _ => true
    | .error _ _ => false) = true := by decide +kernel
  rw [herror] at hok
  cases hok

theorem success_listened : ∃ t, Reaches (step machine) (client success) t ∧ t.frame.stream = [] ∧
    Listening t := by
  have hread : Reaches (step machine) (client success) (run machine (client success)) :=
    .next .start trivial (step_ready (by decide +kernel))
  refine ⟨_, hread, by decide +kernel, ?_⟩
  refine (listening_iff (client_fresh success)).mpr (fun t ht hstream => ?_) _ hread
  rcases success_reaches ht with rfl | ⟨hempty, _⟩
  · exact success_undisturbed
  · exact absurd hempty hstream

theorem key_sent_after_password :
    ∃ t : ReaderThread Unit, t.frame.hasExchangedKeys = true ∧ KeyInOrder t.frame := by
  have hstream : (client (passwordAccepted ++ publicKey)).frame.stream =
      Client.frame MessageType.ACKMessage [10#8] ++ publicKey := rfl
  have hread : step machine (client (passwordAccepted ++ publicKey)) .read =
      some (run machine (client (passwordAccepted ++ publicKey))) :=
    step_ready (by decide +kernel)
  have hread' : step machine (run machine (client (passwordAccepted ++ publicKey))) .read =
      some (run machine (run machine (client (passwordAccepted ++ publicKey)))) :=
    step_ready (by decide +kernel)
  exact ⟨_, by decide +kernel, key_after_password (client_fresh _) (.next (.next .start
    (fun _ _ hkey => absurd hkey (not_keyNext (by decide) (by decide) hstream)) hread)
    (fun _ _ _ => by decide +kernel) hread')⟩

theorem poller_started :
    ∃ t : ReaderThread Unit, t.frame.pollers = [⟨0#64, true⟩] ∧ OnePoller t.frame := by
  have hread : step machine (client (publicKey ++ success)) .read =
      some (run machine (client (publicKey ++ success))) :=
    step_ready (by decide +kernel)
  have hread' : step machine (run machine (client (publicKey ++ success))) .read =
      some (run machine (run machine (client (publicKey ++ success)))) :=
    step_ready (by decide +kernel)
  exact ⟨_, by decide +kernel, one_poller (client_fresh _) (.next (.next .start
    (fun _ _ _ _ => by decide +kernel) hread) (fun _ _ _ _ => by decide +kernel) hread')⟩

end ReaderThread

end Client
