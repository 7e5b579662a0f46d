import BabbleOn.Library.ProgramLogic
import BabbleOn.Library.Runs
import BabbleOn.Server.SessionOpening

namespace Server
open Execution ProgramLogic Runs SegmentedStream

def round (w : World) (endTime : Int) (originalUser keyString : Str) : Thread Unit := do
  let now ← external w.time
  if endTime < now then throw .returned
  else do
    let msgs ← decode w
    handle w originalUser keyString msgs

def nextRound (w : World) (endTime : Int) (originalUser keyString : Str) (c : Conn) (_ : Unit) :
    Option Conn :=
  match (round w endTime originalUser keyString).run c with
  | .ok _ c' => some c'
  | .error _ _ => none

-- the clock at the call after `decode` is the time at which the frame was received
structure Receives (w : World) (endTime : Int) (c : Conn) (m : SPChatMessage) (c' : Conn) : Prop where
  passed : ¬ endTime < w.time c.calls
  decoded : (decode w).run { c with calls := c.calls + 1 } = .ok m c'

def Late (w : World) (endTime : Int) (c' : Conn) : Prop := endTime < w.time c'.calls

-- nothing is asked of the database or the socket, and nothing is sent or stored
def Refused (w : World) (originalUser keyString : Str) (m : SPChatMessage) (c' : Conn) : Prop :=
  after ((handle w originalUser keyString m).run c') = c'

def ExpiredRefused (w : World) (endTime : Int) (originalUser keyString : Str) (c₀ : Conn) : Prop :=
  ∀ c, Reaches (nextRound w endTime originalUser keyString) c₀ c → ∀ m c',
    Receives w endTime c m c' → Late w endTime c' → Refused w originalUser keyString m c'

def ActsOn (originalUser : Str) : SPChatMessage → Prop
  | .poll newPoll => newPoll.username = originalUser ∧ 0 ≤ newPoll.time.toInt
  | .pollResponse pollRspns => ∃ first rest, pollRspns.msgList = first :: rest ∧
      first.sender = originalUser
  | _ => False

theorem serve_succ (w : World) (endTime : Int) (originalUser keyString : Str) (n : Nat) (c : Conn) :
    (serve w endTime originalUser keyString (n + 1)).run c =
      (round w endTime originalUser keyString >>= fun _ =>
        serve w endTime originalUser keyString n).run c := by
  rw [serve, Body.serve, round, bind_assoc]
  dsimp only [answer]
  rw [bind_ok (external_run _ c), bind_ok (external_run _ c)]
  split
  · rfl
  · rw [bind_assoc]

section Calls

variable {w : World} {α β : Type} {n : Nat}

abbrev Past (n : Nat) (c : Conn) : Prop := n < c.calls

abbrev KeepsPast (n : Nat) (m : Thread α) : Prop := Keeps (Past n) (Past n) m fun _ => Past n

abbrev Asks (n : Nat) (m : Thread α) : Prop := Keeps (Past n) (fun c => n ≤ c.calls) m fun _ => Past n

theorem external_asks (f : Nat → α) : Asks n (external f) := fun _ h => Nat.lt_succ_of_le h

theorem Asks.keeps {m : Thread α} (h : Asks n m) : KeepsPast n m :=
  h.consequence (fun _ hc => Nat.le_of_lt hc) fun _ _ hc => hc

theorem Asks.bind {m : Thread α} {f : α → Thread β} (hm : Asks n m) (hf : ∀ a, KeepsPast n (f a)) :
    Asks n (m >>= f) := keeps_bind hm hf

theorem throw_past (e : Stop) : KeepsPast n (throw e : Thread α) := keeps_throw fun _ h => h

theorem record_past (e : Event) : KeepsPast n (record e) := fun _ h => h

theorem built_past (r : Except Fault α) : KeepsPast n (built r) := by
  cases r with
  | ok a => exact keeps_pure fun _ h => h
  | error e => exact throw_past _

theorem send_past (m : SPChatMessage) : KeepsPast n (send w m) :=
  keeps_bind (external_asks _).keeps fun fails => by
    split
    · exact throw_past _
    · exact record_past _

theorem execute_asks (statement : Insert) : Asks n (execute w statement) :=
  (external_asks _).bind fun fails => by
    split
    · exact throw_past _
    · exact record_past _

theorem executeQuery_past (f : Nat → Answer α) : KeepsPast n (executeQuery (external f)) :=
  keeps_bind (external_asks _).keeps fun res => by
    split
    · exact throw_past _
    · exact keeps_pure fun _ h => h

theorem sendRow_past (keyString : Str) (newPoll : SPChatPoll) (row : Row) :
    KeepsPast n (sendRow w keyString newPoll row) :=
  keeps_bind (external_asks _).keeps fun _ => keeps_bind (built_past _) fun _ =>
    keeps_bind (built_past _) fun _ => keeps_bind (built_past _) fun _ => send_past _

theorem storeMessage_asks (first : SPChatMsgMessage) (text : Str) :
    Asks n (storeMessage w first text) := by
  unfold storeMessage Body.storeMessage Body.laterStatements
  dsimp only [answer]
  exact (execute_asks _).bind fun _ => keeps_bind (executeQuery_past _) fun _ =>
    keeps_bind (executeQuery_past _) fun _ => keeps_bind (executeQuery_past _) fun _ =>
      (execute_asks _).keeps

theorem catchSQLException_asks {m : Thread Unit} (h : Asks n m) : Asks n (catchSQLException m) := by
  intro c hc
  cases hrun : m.run c with
  | ok a c' =>
    rw [catchSQLException_ok hrun]
    exact h.ok hc hrun
  | error e c' =>
    have hpast := h.error hc hrun
    rw [catchSQLException_error hrun]
    by_cases he : e = .sql
    · rw [if_pos he]
      exact hpast
    · rw [if_neg he]
      exact hpast

theorem getTime_ok {newPoll : SPChatPoll} (h : 0 ≤ newPoll.time.toInt) :
    newPoll.getTime = .ok newPoll.time := if_pos (decide_eq_true h)

theorem answerPoll_asks {originalUser keyString : Str} {newPoll : SPChatPoll}
    (hu : newPoll.username = originalUser) (htime : 0 ≤ newPoll.time.toInt) :
    Asks n (answerPoll w originalUser keyString newPoll) := by
  unfold answerPoll Body.answerPoll
  dsimp only [answer]
  rw [if_neg (not_not.mpr hu), getTime_ok htime]
  exact keeps_bind (keeps_pure fun _ h => h) fun _ => (external_asks _).bind fun res =>
    keeps_forM fun row _ => sendRow_past _ _ row

theorem handle_asks {originalUser keyString : Str} {m : SPChatMessage} (h : ActsOn originalUser m) :
    Asks n (handle w originalUser keyString m) := by
  cases m with
  | poll newPoll => exact answerPoll_asks h.1 h.2
  | pollResponse pollRspns =>
    obtain ⟨first, rest, hlist, hsender⟩ := h
    unfold handle Body.handle Body.receivePollResponse
    dsimp only
    rw [hlist]
    dsimp only
    rw [if_neg (not_not.mpr hsender)]
    exact catchSQLException_asks (storeMessage_asks first _)
  | _ => exact h.elim

end Calls

theorem handle_refused {w : World} {originalUser keyString : Str} {m : SPChatMessage}
    (h : ¬ ActsOn originalUser m) (c : Conn) : Refused w originalUser keyString m c := by
  unfold Refused handle Body.handle
  cases m with
  | poll newPoll =>
    dsimp only
    unfold Body.answerPoll
    dsimp only [answer]
    split
    · rfl
    · rename_i hu
      have htime : newPoll.getTime = .error (.spchat NEGATIVE_NUM_EXCEPTION) :=
        if_neg fun htime => h ⟨not_not.mp hu, of_decide_eq_true htime⟩
      rw [htime]
      rfl
  | pollResponse pollRspns =>
    dsimp only
    unfold Body.receivePollResponse
    dsimp only
    split
    · rfl
    · rename_i first rest hlist
      rw [if_pos fun hsender => h ⟨first, rest, hlist, hsender⟩]
      rfl
  | _ => rfl

theorem refused_iff (w : World) (originalUser keyString : Str) (m : SPChatMessage) (c : Conn) :
    Refused w originalUser keyString m c ↔ ¬ ActsOn originalUser m := by
  refine ⟨fun hrefused hacts => ?_, fun h => handle_refused h c⟩
  have hpast : Past c.calls (after ((handle w originalUser keyString m).run c)) :=
    (handle_asks hacts).after (Nat.le_refl c.calls)
  rw [hrefused] at hpast
  exact absurd hpast (Nat.lt_irrefl _)

theorem expired_refused_iff (w : World) (endTime : Int) (originalUser keyString : Str) (c₀ : Conn) :
    ExpiredRefused w endTime originalUser keyString c₀ ↔
      ∀ c, Reaches (nextRound w endTime originalUser keyString) c₀ c → ∀ m c',
        Receives w endTime c m c' → Late w endTime c' → ¬ ActsOn originalUser m :=
  forall₂_congr fun _ _ => forall₂_congr fun m c' => forall₂_congr fun _ _ =>
    refused_iff w originalUser keyString m c'

-- SHA-256 of sixteen zero bytes and the password `pw`
def zeroDigest : Str := [0x4b#8, 0xc1#8, 0x9d#8, 0x7a#8, 0x67#8, 0x5e#8, 0x71#8, 0x4e#8,
  0x1f#8, 0xd4#8, 0x71#8, 0x5a#8, 0xa9#8, 0xc1#8, 0xf9#8, 0xb9#8,
  0x36#8, 0xbc#8, 0x28#8, 0x50#8, 0xb9#8, 0xd8#8, 0x76#8, 0xc1#8,
  0xd0#8, 0x56#8, 0x38#8, 0xd4#8, 0xe0#8, 0xbb#8, 0xb6#8, 0x3e#8]

def pemKey : Str :=
  SPChatLogin.ASYMMETRIC_HEADER ++ List.replicate 64 (chr 'A') ++ [chr '\n'] ++
    List.replicate 64 (chr 'A') ++ [chr '\n'] ++ List.replicate 64 (chr 'A') ++ [chr '\n'] ++
      List.replicate 24 (chr 'A') ++ [chr '\n'] ++ ascii "-----END PUBLIC KEY-----"

def lateWorld : World := { World.quiet with
  time := fun i => if i < 12 then 0 else 5000
  SHA256 := fun _ i => zeroDigest.getD i 0#8
  PEM_Save := pemKey
  decryptor := fun _ => some (List.replicate 16 7#8)
  selectPassword := fun _ _ => ⟨[ascii "pw"], false⟩ }

def bobLogin : SPChatLogin := ⟨ascii "bob", SPChatLogin.NO_KEY, [], []⟩

def bobResponse : SPChatResponse :=
  ⟨hex fun i => zeroDigest.getD i 0#8, ascii "bob", List.replicate 8 0#8⟩

def bobKey : SPChatLogin :=
  ⟨ascii "bob", SPChatLogin.ENCRYPTED_SYM_KEY, [], List.replicate 128 7#8⟩

def bobLatePoll : SPChatPoll := ⟨ascii "bob", 0#64⟩

def lateConn : Conn where
  sock := ⟨(SPChatMessage.login bobLogin).encode littleEndianHost ++
    ((SPChatMessage.response bobResponse).encode littleEndianHost ++
      ((SPChatMessage.login bobLogin).encode littleEndianHost ++ (keyFrame bobKey ++
        ((SPChatMessage.poll bobLatePoll).encode littleEndianHost ++ [])))), []⟩
  calls := 1
  events := []

theorem bobLogin_deliverable : Deliverable (.login bobLogin) :=
  .login (.noKey (by decide)) SPChatLogin.noKey_ne_symmetric

theorem late_poll_answered :
    (∀ i j, i ≤ j → lateWorld.time i ≤ lateWorld.time j) ∧ ∃ c₁ c,
      (authenticate lateWorld).run lateConn = .ok (ascii "bob") c₁ ∧
      (exchangeKeys lateWorld).run c₁ = .ok (List.replicate 16 7#8) c ∧
      ¬ ExpiredRefused lateWorld (lateWorld.time 0 + 1000) (ascii "bob") (List.replicate 16 7#8) c := by
  refine ⟨fun i j hij => ?_, ?_⟩
  · simp only [lateWorld]
    split <;> split <;> omega
  · have hsend : ∀ i, lateWorld.sendFails i = false := fun _ => rfl
    have hresponse : bobResponse.WellFormed := ⟨by decide, rfl⟩
    have hkey : bobKey.WellFormed := .symmetric (by decide) rfl
    have hpem : SPChatLogin.pemLayout pemKey = true := by decide +kernel
    obtain ⟨sock₁, hlive₁, hrest₁, hrun₁⟩ := authenticate_run hsend (c := lateConn)
      (by simp [Stream.Live, lateConn]) bobLogin_deliverable (by decide) hresponse (by decide) rfl
      (show (lateWorld.selectPassword _ _).rows.getLast? = some (ascii "pw") from rfl) (by decide) rfl
    obtain ⟨c₁, hsock₁, hcalls₁, hrun₁⟩ : ∃ c₁ : Conn, c₁.sock = sock₁ ∧ c₁.calls = 7 ∧
        (authenticate lateWorld).run lateConn = .ok (ascii "bob") c₁ := ⟨_, rfl, rfl, hrun₁⟩
    rw [← hsock₁] at hlive₁ hrest₁
    obtain ⟨sock₂, hlive₂, hrest₂, hrun₂⟩ := exchangeKeys_run hsend hlive₁ bobLogin_deliverable
      (by decide) (SPChatLogin.new_asymmetric (by decide) (by decide +kernel) hpem [0#8]) hkey
      (by decide +kernel) hrest₁ (show lateWorld.decryptor _ = some (List.replicate 16 7#8) from rfl) rfl
    obtain ⟨c₂, hsock₂, hcalls₂, hrun₂⟩ : ∃ c₂ : Conn, c₂.sock = sock₂ ∧ c₂.calls = 11 ∧
        (exchangeKeys lateWorld).run c₁ = .ok (List.replicate 16 7#8) c₂ :=
      ⟨_, rfl, congrArg (fun n => n + 4) hcalls₁, hrun₂⟩
    rw [← hsock₂] at hlive₂ hrest₂
    refine ⟨c₁, c₂, hrun₁, hrun₂, fun hexpired => ?_⟩
    obtain ⟨sock₃, _, _, hdecode⟩ := receive_message (w := lateWorld) (m := .poll bobLatePoll)
      (c := ⟨c₂.sock, c₂.calls + 1, c₂.events⟩) hlive₂
      (.poll (show validUsername (ascii "bob") = true by decide)) trivial (by decide) hrest₂
    have hpassed : ¬ lateWorld.time 0 + 1000 < lateWorld.time c₂.calls := by
      rw [hcalls₂]
      decide
    have hlate : lateWorld.time 0 + 1000 < lateWorld.time (c₂.calls + 1 + 1) := by
      rw [hcalls₂]
      decide
    have hrefused := hexpired _ .start (.poll bobLatePoll) _ ⟨hpassed, hdecode⟩ hlate
    exact (refused_iff _ _ _ _ _).mp hrefused ⟨rfl, by decide⟩

end Server
