import BabbleOn.Server.Connection

namespace Server
open Execution SegmentedStream

def stored (events : List Event) : List Str :=
  events.filterMap fun
    | .executed (.messages text) => some text
    | _ => none

theorem stored_append (es es' : List Event) : stored (es ++ es') = stored es ++ stored es' :=
  List.filterMap_append

def userId (w : World) (call : Nat) (email : Str) : Str := lastString [] (w.selectUserId call email).rows

def laterFails (w : World) (first : SPChatMsgMessage) (text : Str) (calls : Nat) : Bool :=
  (w.selectUserId (calls + 1) first.sender).failed || (w.selectUserId (calls + 2) first.receiver).failed ||
    (w.selectMessageId (calls + 3) text).failed || w.executeFails (calls + 4)

def transaction (w : World) (first : SPChatMsgMessage) (text : Str) (calls : Nat) : Insert :=
  .transactions (userId w (calls + 1) first.sender) (userId w (calls + 2) first.receiver)
    (lastString [] (w.selectMessageId (calls + 3) text).rows) (seconds first.time)

-- every statement commits on its own, so a failure leaves what the ones before it wrote
inductive StoreOutcome (w : World) (first : SPChatMsgMessage) (text : Str) (c : Conn) :
    EStateM.Result Stop Conn Unit → Prop
  | refused {calls : Nat} (hinsert : w.executeFails c.calls = true) :
      StoreOutcome w first text c (.error .sql ⟨c.sock, calls, c.events⟩)
  | orphaned {calls : Nat} (hinsert : w.executeFails c.calls = false)
      (hlater : laterFails w first text c.calls = true) :
      StoreOutcome w first text c
        (.error .sql ⟨c.sock, calls, c.events ++ [.executed (.messages text)]⟩)
  | completed {calls : Nat} (hinsert : w.executeFails c.calls = false)
      (hlater : laterFails w first text c.calls = false) :
      StoreOutcome w first text c (.ok () ⟨c.sock, calls, c.events ++
        [.executed (.messages text), .executed (transaction w first text c.calls)]⟩)

variable {w : World}

theorem execute_failed {c : Conn} (h : w.executeFails c.calls = true) (statement : Insert) :
    (execute w statement).run c = .error .sql { c with calls := c.calls + 1 } := by
  unfold execute
  rw [bind_ok (external_run _ c), h]
  rfl

theorem execute_done {c : Conn} (h : w.executeFails c.calls = false) (statement : Insert) :
    (execute w statement).run c =
      .ok () ⟨c.sock, c.calls + 1, c.events ++ [.executed statement]⟩ := by
  unfold execute
  rw [bind_ok (external_run _ c), h]
  rfl

theorem executeQuery_failed {α : Type} {f : Nat → Answer α} {c : Conn} (h : (f c.calls).failed = true) :
    (executeQuery (external f)).run c = .error .sql { c with calls := c.calls + 1 } := by
  unfold executeQuery
  rw [bind_ok (external_run f c), if_pos h]
  rfl

theorem executeQuery_answered {α : Type} {f : Nat → Answer α} {c : Conn}
    (h : (f c.calls).failed = false) :
    (executeQuery (external f)).run c = .ok (f c.calls).rows { c with calls := c.calls + 1 } := by
  unfold executeQuery
  rw [bind_ok (external_run f c), if_neg (by simp [h])]
  rfl

theorem laterStatements_run (first : SPChatMsgMessage) (text : Str) (sock : Stream Byte)
    (calls : Nat) (events : List Event) :
    (laterFails w first text calls = true ∧ ∃ calls', (laterStatements w first text).run
        ⟨sock, calls + 1, events⟩ = .error .sql ⟨sock, calls', events⟩) ∨
      laterFails w first text calls = false ∧ ∃ calls', (laterStatements w first text).run
        ⟨sock, calls + 1, events⟩ =
          .ok () ⟨sock, calls', events ++ [.executed (transaction w first text calls)]⟩ := by
  unfold laterStatements Body.laterStatements
  dsimp only [answer]
  cases hsender : (w.selectUserId (calls + 1) first.sender).failed with
  | true => exact .inl ⟨by simp [laterFails, hsender], _, bind_error (executeQuery_failed hsender)⟩
  | false =>
  rw [bind_ok (executeQuery_answered hsender)]
  cases hreceiver : (w.selectUserId (calls + 2) first.receiver).failed with
  | true => exact .inl ⟨by simp [laterFails, hreceiver], _, bind_error (executeQuery_failed hreceiver)⟩
  | false =>
  rw [bind_ok (executeQuery_answered hreceiver)]
  cases hmessage : (w.selectMessageId (calls + 3) text).failed with
  | true => exact .inl ⟨by simp [laterFails, hmessage], _, bind_error (executeQuery_failed hmessage)⟩
  | false =>
  rw [bind_ok (executeQuery_answered hmessage)]
  cases hinsert : w.executeFails (calls + 4) with
  | true => exact .inl ⟨by simp [laterFails, hinsert], _, execute_failed hinsert _⟩
  | false =>
    have hlater : laterFails w first text calls = false := by
      simp [laterFails, hsender, hreceiver, hmessage, hinsert]
    exact .inr ⟨hlater, _, execute_done hinsert _⟩

theorem storeMessage_outcome (w : World) (first : SPChatMsgMessage) (text : Str) (c : Conn) :
    StoreOutcome w first text c ((storeMessage w first text).run c) := by
  have hsplit : storeMessage w first text =
      execute w (.messages text) >>= fun _ => laterStatements w first text := rfl
  rw [hsplit]
  cases hinsert : w.executeFails c.calls with
  | true =>
    rw [bind_error (execute_failed hinsert _)]
    exact .refused hinsert
  | false =>
    rw [bind_ok (execute_done hinsert _)]
    rcases laterStatements_run first text c.sock c.calls (c.events ++ [.executed (.messages text)])
      with ⟨hlater, calls', hrun⟩ | ⟨hlater, calls', hrun⟩
    · rw [hrun]
      exact .orphaned hinsert hlater
    · rw [hrun, List.append_assoc]
      exact .completed hinsert hlater

theorem storeMessage_eq_ok {first : SPChatMsgMessage} {text : Str} {c c' : Conn}
    (h : (storeMessage w first text).run c = .ok () c') :
    ∃ sender_id received_id, c'.events = c.events ++ [.executed (.messages text),
      .executed (.transactions sender_id received_id
        (lastString [] (w.selectMessageId (c.calls + 3) text).rows) (seconds first.time))] := by
  have houtcome := storeMessage_outcome w first text c
  rw [h] at houtcome
  cases houtcome
  exact ⟨_, _, rfl⟩

theorem storeMessage_stores {c : Conn} (hexecute : w.executeFails c.calls = false)
    (first : SPChatMsgMessage) (text : Str) :
    ∃ c', (catchSQLException (storeMessage w first text)).run c = .ok () c' ∧ c'.sock = c.sock ∧
      stored c'.events = stored c.events ++ [text] := by
  have houtcome := storeMessage_outcome w first text c
  cases hrun : (storeMessage w first text).run c with
  | ok u c' =>
    rw [hrun] at houtcome
    cases houtcome
    exact ⟨_, catchSQLException_ok hrun, rfl, stored_append _ _⟩
  | error e c' =>
    rw [hrun] at houtcome
    cases houtcome with
    | refused hinsert =>
      rw [hexecute] at hinsert
      cases hinsert
    | orphaned _ _ =>
      have hcaught := catchSQLException_error hrun
      rw [if_pos rfl] at hcaught
      exact ⟨_, hcaught, rfl, stored_append _ _⟩

theorem receivePollResponse_stores (c : Conn) (hexecute : w.executeFails c.calls = false)
    {originalUser : Str} (keyString : Str) {pollRspns : SPChatPollResponse} {first : SPChatMsgMessage}
    {rest : List SPChatMsgMessage} (hlist : pollRspns.msgList = first :: rest)
    (hsender : first.sender = originalUser) :
    ∃ c', (receivePollResponse w originalUser keyString pollRspns).run c = .ok () c' ∧
      c'.sock = c.sock ∧ stored c'.events = stored c.events ++
        [pollRspns.msgList.flatMap fun msg => w.aesDecrypt msg.message keyString ivString] := by
  unfold receivePollResponse Body.receivePollResponse
  rw [List.flatMap_eq_foldl]
  dsimp only
  rw [hlist]
  dsimp only
  rw [if_neg (not_not.mpr hsender)]
  exact storeMessage_stores hexecute first _

end Server
