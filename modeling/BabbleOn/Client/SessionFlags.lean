import BabbleOn.Library.ProgramLogic
import BabbleOn.Library.Runs
import BabbleOn.Client.Session

namespace Client
open Execution ProgramLogic Runs

variable {κ α : Type}

namespace Session

def symmetricKeys (out : List Written) : List LoginMessage :=
  out.filterMap fun
    | .login m => if m.keyType = KeyType.SYMMETRIC.ordinal then some m else none
    | _ => none

structure Flags where
  authenticated : Bool
  hasExchangedKeys : Bool
  poller : Option Nat
  pollers : List PollThread
  keysSent : List LoginMessage

def flags (s : Session κ) : Flags :=
  ⟨s.authenticated, s.hasExchangedKeys, s.poller, s.pollers, symmetricKeys (s.out.getD [])⟩

theorem external_leaves (f : Nat → α) : Leaves flags (external f : Handler κ α) := fun _ => rfl

theorem reading_leaves (m : Input α) : Leaves flags (reading m : Handler κ α) := by
  intro s
  simp only [EStateM.run, reading]
  cases m s.stream <;> rfl

theorem decrypting_leaves (m : EStateM JavaThrow (Reader κ) α) : Leaves flags (decrypting m) := by
  intro s
  simp only [EStateM.run, decrypting]
  split
  · rfl
  · split <;> rfl

theorem showMessageDialog_leaves (message : String) :
    Leaves flags (showMessageDialog message : Handler κ Unit) := leaves_modify fun _ => rfl

theorem after_logged (m : Handler κ Unit) (s : Session κ) :
    after ((logged m).run s) = after (m.run s) := by
  simp only [EStateM.run, logged]
  rcases m s with ⟨a, s'⟩ | ⟨e, s'⟩
  · rfl
  · cases e <;> rfl

theorem logged_leaves {τ : Type} {p : Session κ → τ} {m : Handler κ Unit} (h : Leaves p m) :
    Leaves p (logged m) := by
  intro s
  rw [after_logged]
  exact h s

theorem exiting_leaves {m : Handler κ Unit} (h : Leaves flags m) : Leaves flags (exiting m) := by
  intro s
  have hm := h s
  simp only [EStateM.run, exiting] at hm ⊢
  rcases hrun : m s with ⟨a, s'⟩ | ⟨e, s'⟩
  · rw [hrun] at hm
    exact hm
  · rw [hrun] at hm
    cases e <;> exact hm

theorem orNull_leaves (a : Option α) : Leaves flags (orNull a : Handler κ α) := by
  cases a with
  | none => exact leaves_throw _
  | some a => exact leaves_pure a

theorem encode_leaves (w : Machine κ) {message : Written} (h : symmetricKeys [message] = []) :
    Leaves flags (encode w message) := by
  intro s
  unfold encode
  rw [bind_ok (run_get s)]
  cases hout : s.out with
  | none => rfl
  | some out =>
    rw [bind_ok (show (orNull (some out) : Handler κ (List Written)).run s = .ok out s from rfl),
      bind_ok (show (external w.writeFails).run s = .ok _ _ from rfl)]
    split
    · rfl
    · simp only [flags, run_modify, after, hout, Option.getD_some, symmetricKeys,
        List.filterMap_append] at h ⊢
      rw [h, List.append_nil]

theorem encodeLogin_leaves (w : Machine κ) {m : LoginMessage}
    (h : m.keyType ≠ KeyType.SYMMETRIC.ordinal) : Leaves flags (encodeLogin w m) :=
  leaves_bind (leaves_ofExcept _) fun _ => encode_leaves w (by simp [symmetricKeys, h])

theorem setPanes_leaves (w : Machine κ) : Leaves flags (setPanes w) :=
  leaves_bind (showMessageDialog_leaves _) fun _ => by
    intro s
    rw [bind_ok (run_get s)]
    cases w.initDecrypt s.symmetricKey <;> rfl

theorem sendPublicKey_leaves (w : Machine κ) : Leaves flags (sendPublicKey w) :=
  leaves_bind leaves_get fun s => leaves_ite (fun _ => logged_leaves
    (leaves_bind (orNull_leaves _) fun username => by
      cases hnew : LoginMessage.new (BitVec.ofNat 32 username.length) (some username) .ASYMMETRIC
        s.localPublicKey with
      | error e => exact leaves_throw e
      | ok m =>
        obtain ⟨_, _, _, _, _, _, _, hkey, _⟩ := LoginMessage.new_inv hnew
        exact encodeLogin_leaves w (by rw [hkey]; decide)))
    fun _ => leaves_pure _

theorem showError_leaves (err : Errors) : Leaves flags (showError err : Handler κ Unit) := by
  cases err <;> first | exact showMessageDialog_leaves _ | exact leaves_pure _

theorem sendResponse_leaves (w : Machine κ) (frame : Bytes) (input : Option Bytes) :
    Leaves flags (sendResponse w frame input) :=
  leaves_ite (fun _ => showMessageDialog_leaves _) fun _ =>
    leaves_bind (encode_leaves w rfl) fun _ => leaves_modify fun _ => rfl

theorem answerChallenge_leaves (w : Machine κ) : Leaves flags (answerChallenge w) := by
  refine leaves_bind leaves_get fun s => ?_
  cases s.username with
  | none =>
    exact leaves_bind (reading_leaves _) fun _ =>
      leaves_ite (fun _ => showMessageDialog_leaves _) fun _ => leaves_throw _
  | some username =>
    exact leaves_bind (external_leaves _) fun _ =>
      leaves_bind (reading_leaves _) fun r => sendResponse_leaves w r.1 r.2

theorem handleChallenge_leaves (w : Machine κ) : Leaves flags (handleChallenge w) :=
  leaves_bind (answerChallenge_leaves w) fun _ => leaves_pure _

theorem readServerPublic_leaves (w : Machine κ) (loginResponse : LoginMessage) :
    Leaves flags (readServerPublic w loginResponse) :=
  leaves_ite (fun _ => leaves_throw _) fun _ => leaves_bind (orNull_leaves _) fun _ =>
    leaves_bind (leaves_ofExcept _) fun key => by
      cases w.generatePublic key with
      | none => exact leaves_pure _
      | some serverPubKey => exact leaves_modify fun _ => rfl

theorem createCipher_leaves (w : Machine κ) : Leaves flags (createCipher w) := by
  intro s
  unfold createCipher
  rw [bind_ok (run_get s)]
  split
  · cases w.initDecrypt s.symmetricKey <;> rfl
  · rfl

theorem handlePollResponse_leaves (w : Machine κ) : Leaves flags (handlePollResponse w) :=
  leaves_bind (createCipher_leaves w) fun _ => leaves_bind (external_leaves _) fun _ =>
    leaves_bind (decrypting_leaves _) fun _ => leaves_bind (leaves_modify fun _ => rfl) fun _ =>
      leaves_pure _

def NextFrame (s : Session κ) (type : Byte) (s₁ : Session κ) : Prop :=
  ∃ len, (reading BabbleOnMessage.ofStream).run s = .ok ⟨type, len⟩ s₁

-- the byte 0: success, and not from a client
def SuccessNext (s : Session κ) : Prop :=
  ∃ s₁ ack s₂, NextFrame s MessageType.ACKMessage s₁ ∧
    (reading ACKMessage.ofStream).run s₁ = .ok ack s₂ ∧ ack.getErr = .ok .SUCCESS ∧
    ack.sender ≠ ACKMessage.CLIENT

def KeyNext (w : Machine κ) (s : Session κ) : Prop :=
  ∃ s₁ login s₂, NextFrame s MessageType.LoginMessage s₁ ∧
    (reading (LoginMessage.ofStream w.decodeKey)).run s₁ = .ok login s₂ ∧
    login.keyType = KeyType.ASYMMETRIC.ordinal ∧ login.username = SERVER_NAME

inductive Moves (w : Machine κ) (s s' : Session κ) : Prop
  | same (h : flags s' = flags s)
  | authenticates (h : flags s' = { flags s with authenticated := true })
  | starts (hnext : SuccessNext s) (hkeys : s.hasExchangedKeys = true) (now : BitVec 64)
      (h : flags s' = { flags s with
        poller := some s.pollers.length, pollers := s.pollers ++ [⟨now, true⟩] })
  | sendsKey (hnext : KeyNext w s) (hauth : s'.authenticated = s.authenticated)
      (hpoller : s'.poller = s.poller) (hpollers : s'.pollers = s.pollers)

theorem acceptPassword_flags (w : Machine κ) (s : Session κ) :
    flags (after ((acceptPassword w).run s)) = { flags s with authenticated := true } :=
  leaves_bind (exiting_leaves (setPanes_leaves w)) (fun _ => sendPublicKey_leaves w)
    { s with authenticated := true }

theorem answerACK_flags (w : Machine κ) (ack : ACKMessage) (s : Session κ) :
    flags (after ((answerACK w ack).run s)) = flags s ∨
    flags (after ((answerACK w ack).run s)) = { flags s with authenticated := true } ∨
    (ack.getErr = .ok .SUCCESS ∧ ack.sender ≠ ACKMessage.CLIENT ∧ s.hasExchangedKeys = true ∧
      ∃ now, flags (after ((answerACK w ack).run s)) = { flags s with
        poller := some s.pollers.length, pollers := s.pollers ++ [⟨now, true⟩] }) := by
  unfold answerACK
  cases herr : ack.getErr with
  | error e => exact .inl rfl
  | ok err =>
    rw [bind_ok (show (ofExcept (Except.ok err : Except JavaThrow Errors) : Handler κ Errors).run s =
      .ok err s from rfl), bind_ok (run_get s)]
    split
    · exact .inr (.inl (acceptPassword_flags w s))
    · split
      · exact .inl (showError_leaves err s)
      · split
        · exact .inl rfl
        · rename_i hclient
          by_cases hstart : .SUCCESS = err ∧ s.hasExchangedKeys = true
          · obtain ⟨rfl, hkeys⟩ := hstart
            refine .inr (.inr ⟨rfl, fun h => hclient h.symm, hkeys, w.currentTimeMillis s.calls, ?_⟩)
            have hrun : (startPolling w .SUCCESS).run s = .ok () { s with
                poller := some s.pollers.length
                pollers := s.pollers ++ [⟨w.currentTimeMillis s.calls, true⟩]
                calls := s.calls + 1 } := by
              unfold startPolling
              rw [bind_ok (run_get s), if_pos ⟨rfl, hkeys⟩]
              rfl
            rw [bind_ok hrun]
            rfl
          · have hrun : (startPolling w err).run s = .ok () s := by
              unfold startPolling
              rw [bind_ok (run_get s), if_neg hstart]
              rfl
            rw [bind_ok hrun]
            exact .inl (leaves_ite (fun _ => showMessageDialog_leaves _) (fun _ => leaves_pure _) s)

def Flags.latches (f : Flags) : Bool × Option Nat × List PollThread :=
  (f.authenticated, f.poller, f.pollers)

abbrev latches (s : Session κ) : Bool × Option Nat × List PollThread := (flags s).latches

theorem encode_latches (w : Machine κ) (message : Written) : Leaves latches (encode w message) :=
  leaves_bind leaves_get fun _ => leaves_bind ((orNull_leaves _).map _) fun _ =>
    leaves_bind ((external_leaves _).map _) fun _ =>
      leaves_ite (fun _ => leaves_throw _) fun _ => leaves_modify fun _ => rfl

theorem sendSymmetricKey_latches (w : Machine κ) : Leaves latches (sendSymmetricKey w) := by
  refine leaves_bind leaves_get fun s => ?_
  split
  · split
    · exact leaves_pure _
    · refine logged_leaves (leaves_bind ((orNull_leaves _).map _) fun username =>
        leaves_bind (leaves_ofExcept _) fun l => leaves_bind ?_ fun _ => leaves_modify fun _ => rfl)
      exact leaves_bind (leaves_ofExcept _) fun _ => encode_latches w _
  · exact leaves_pure _

theorem answerLogin_moves (w : Machine κ) (login : LoginMessage) (s : Session κ) :
    flags (after ((answerLogin w login).run s)) = flags s ∨
    (login.keyType = KeyType.ASYMMETRIC.ordinal ∧ login.username = SERVER_NAME ∧
      latches (after ((answerLogin w login).run s)) = latches s) := by
  unfold answerLogin
  split
  · rename_i hkey
    by_cases hname : SERVER_NAME ≠ login.username
    · left
      unfold readServerPublic
      rw [if_pos hname]
      rfl
    · exact .inr ⟨hkey, (not_not.mp hname).symm, leaves_bind ((readServerPublic_leaves w login).map _)
        (fun _ => sendSymmetricKey_latches w) s⟩
  · exact .inl rfl

theorem after_then {m : Handler κ Unit} (b : Bool) (s : Session κ) :
    after ((do m; pure b : Handler κ Bool).run s) = after (m.run s) := by
  cases hrun : m.run s with
  | ok a s' => rw [bind_ok hrun]; rfl
  | error e s' => rw [bind_error hrun]; rfl

theorem handle_moves (w : Machine κ) {s s₁ : Session κ} {type : Byte} (hnext : NextFrame s type s₁) :
    Moves w s (after ((handle w type).run s₁)) := by
  obtain ⟨len, hhead⟩ := hnext
  have hread : flags s₁ = flags s := (reading_leaves _).ok hhead
  unfold handle
  split
  · rename_i htype
    subst htype
    unfold handleACK
    rcases hack : (reading ACKMessage.ofStream).run s₁ with ⟨ack, s₂⟩ | ⟨e, s₂⟩
    · have hread₂ : flags s₂ = flags s := ((reading_leaves _).ok hack).trans hread
      rw [bind_ok hack, after_then]
      rcases answerACK_flags w ack s₂ with h | h | ⟨herr, hsender, hkeys, now, h⟩
      · exact .same (h.trans hread₂)
      · exact .authenticates (by rw [h, hread₂])
      · have hpollers : s₂.pollers = s.pollers := congrArg Flags.pollers hread₂
        exact .starts ⟨s₁, ack, s₂, ⟨len, hhead⟩, hack, herr, hsender⟩
          ((congrArg Flags.hasExchangedKeys hread₂).symm.trans hkeys) now (by rw [h, hread₂, hpollers])
    · rw [bind_error hack]
      exact .same (((reading_leaves _).error hack).trans hread)
  · split
    · exact .same ((handleChallenge_leaves w s₁).trans hread)
    · split
      · rename_i htype
        subst htype
        unfold handleLogin
        rcases hlogin : (reading (LoginMessage.ofStream w.decodeKey)).run s₁ with ⟨login, s₂⟩ | ⟨e, s₂⟩
        · have hread₂ : flags s₂ = flags s := ((reading_leaves _).ok hlogin).trans hread
          rw [bind_ok hlogin, after_then]
          rcases answerLogin_moves w login s₂ with h | ⟨hkey, hname, h⟩
          · exact .same (h.trans hread₂)
          · have hsame : latches _ = latches s := h.trans (congrArg Flags.latches hread₂)
            simp only [latches, Flags.latches, flags, Prod.mk.injEq] at hsame
            exact .sendsKey ⟨s₁, login, s₂, ⟨len, hhead⟩, hlogin, hkey, hname⟩ hsame.1 hsame.2.1
              hsame.2.2
        · rw [bind_error hlogin]
          exact .same (((reading_leaves _).error hlogin).trans hread)
      · split
        · exact .same ((handlePollResponse_leaves w s₁).trans hread)
        · exact .same hread

theorem dispatch_moves (w : Machine κ) (s : Session κ) :
    Moves w s (after ((dispatch w).run s)) := by
  unfold dispatch
  rcases hhead : (reading BabbleOnMessage.ofStream).run s with ⟨m, s₁⟩ | ⟨e, s₁⟩
  · rw [bind_ok hhead]
    cases htype : MessageType.getMessageType m.messageType with
    | none => exact .same ((reading_leaves _).ok hhead)
    | some type =>
      have hsame : m.messageType = type := by
        unfold MessageType.getMessageType at htype
        split at htype
        · exact Option.some.inj htype
        · cases htype
      exact handle_moves w ⟨m.messageLen, by rw [hhead, ← hsame]⟩
  · rw [bind_error hhead]
    exact .same ((reading_leaves _).error hhead)

end Session

end Client
