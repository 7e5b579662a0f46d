import BabbleOn.Server.MessageDelivery
import BabbleOn.Server.MessageStore

namespace Server
open Execution

-- a row of `transactions` with what the joins add to it; `from_unixtime` and `UNIX_TIMESTAMP` are inverse
structure StoredMessage where
  text : Str
  sender : Str
  receiver : Str
  timestamp : Int
  deriving DecidableEq, Repr

def recorded (first : SPChatMsgMessage) (text : Str) : StoredMessage where
  text := text
  sender := first.sender
  receiver := first.receiver
  timestamp := first.time.toInt.tdiv 1000

-- WHERE UNIX_TIMESTAMP(timestamp) > ? AND y.email = ?
structure Queried (table : List StoredMessage) (newPoll : SPChatPoll) (res : Answer Row) : Prop where
  rows : ∀ row ∈ res.rows, ∃ s ∈ table, newPoll.time.toInt.tdiv 1000 < s.timestamp ∧
    s.receiver = newPoll.username ∧ row.text = s.text ∧ row.sender = s.sender

def storedFrame (w : World) (keyString : Str) (newPoll : SPChatPoll) (s : StoredMessage) :
    SPChatPollResponse where
  username := s.sender
  msgList := [⟨s.sender, newPoll.username, w.aesEncrypt s.text keyString ivString,
    BitVec.ofNat 64 s.text.length, 1#32, 1#32, newPoll.time⟩]
  listNum := 1#32
  totalList := 1#32

def SendTimeKept (s : StoredMessage) (pollRspns : SPChatPollResponse) : Prop :=
  ∀ msg ∈ pollRspns.msgList, msg.time.toInt.tdiv 1000 = s.timestamp

variable {w : World} {originalUser keyString : Str} {newPoll : SPChatPoll}

theorem recorded_statement (first : SPChatMsgMessage) (text : Str) (calls : Nat) :
    transaction w first text calls = .transactions (userId w (calls + 1) (recorded first text).sender)
      (userId w (calls + 2) (recorded first text).receiver)
      (lastString [] (w.selectMessageId (calls + 3) text).rows)
      (decimal (recorded first text).timestamp) := rfl

theorem built_error {α : Type} {r : Except Fault α} {e : Fault} (h : r = .error e) (c : Conn) :
    (built r : Thread α).run c = .error (.fault e) c := by
  rw [h]
  rfl

theorem getTime_eq_ok {time : BitVec 64} (h : newPoll.getTime = .ok time) : time = newPoll.time := by
  unfold SPChatPoll.getTime at h
  split at h
  · cases h
    rfl
  · cases h

theorem send_refused {c : Conn} (h : w.sendFails c.calls = true) (m : SPChatMessage) :
    (send w m).run c = .error (.fault (.socket SEND_FAILED)) { c with calls := c.calls + 1 } := by
  unfold send
  rw [bind_ok (external_run _ c), h, if_pos rfl, run_throw]

theorem sendRow_events (row : Row) (c : Conn) :
    (∃ e, ∃ c', (sendRow w keyString newPoll row).run c = .error e c' ∧ c'.events = c.events) ∨
      ∃ c', (sendRow w keyString newPoll row).run c = .ok () c' ∧
        c'.events = c.events ++ [.sent (.pollResponse (rowFrame w keyString newPoll row))] := by
  unfold sendRow Body.sendRow
  dsimp only [answer]
  rw [bind_ok (external_run _ c)]
  cases htime : newPoll.getTime with
  | error e => exact .inl ⟨_, _, bind_error (built_error rfl _), rfl⟩
  | ok time =>
  obtain rfl := getTime_eq_ok htime
  rw [bind_ok (built_ok rfl _)]
  cases hmsg : SPChatMsgMessage.new (w.objectTime c.calls) row.sender newPoll.username
      (w.aesEncrypt row.text keyString ivString) (BitVec.ofNat 64 row.text.length) 1#32 1#32
      newPoll.time with
  | error e => exact .inl ⟨_, _, bind_error (built_error rfl _), rfl⟩
  | ok msg =>
  obtain ⟨_, rfl, hwell⟩ := SPChatMsgMessage.new_eq_ok.mp hmsg
  have hresponse := built_ok (@rowFrame_new w keyString newPoll row hwell.sender)
  rw [bind_ok (built_ok rfl _)]
  cases hsend : w.sendFails (c.calls + 1) with
  | true => exact .inl ⟨_, _, (bind_ok (hresponse _)).trans (send_refused hsend _), rfl⟩
  | false => exact .inr ⟨_, (bind_ok (hresponse _)).trans (send_ok hsend _), rfl⟩

theorem sendRows_events (rows : List Row) (c : Conn) :
    ∃ answered, answered <+: rows ∧
      (after ((forM rows (sendRow w keyString newPoll)).run c)).events = c.events ++
        answered.map fun row => .sent (.pollResponse (rowFrame w keyString newPoll row)) := by
  induction rows generalizing c with
  | nil => exact ⟨[], List.nil_prefix, by simp [after]⟩
  | cons row rows ih =>
    rw [List.forM_cons]
    rcases @sendRow_events w keyString newPoll row c with
      ⟨e, c', hrun, hevents⟩ | ⟨c', hrun, hevents⟩
    · refine ⟨[], List.nil_prefix, ?_⟩
      rw [bind_error hrun, List.map_nil, List.append_nil]
      exact hevents
    · obtain ⟨answered, hprefix, hrest⟩ := ih c'
      refine ⟨row :: answered, List.prefix_cons_inj row |>.mpr hprefix, ?_⟩
      rw [bind_ok hrun, hrest, hevents, List.map_cons, List.append_assoc, List.singleton_append]

theorem answerPoll_events (c : Conn) :
    ∃ answered, answered <+: (w.selectMessages c.calls (seconds newPoll.time) newPoll.username).rows ∧
      (after ((answerPoll w originalUser keyString newPoll).run c)).events = c.events ++
        answered.map fun row => .sent (.pollResponse (rowFrame w keyString newPoll row)) := by
  unfold answerPoll Body.answerPoll
  dsimp only [answer]
  split
  · exact ⟨[], List.nil_prefix, by simp [after]⟩
  · cases htime : newPoll.getTime with
    | error e =>
      refine ⟨[], List.nil_prefix, ?_⟩
      rw [bind_error (built_error rfl _), List.map_nil, List.append_nil]
      rfl
    | ok time =>
      obtain rfl := getTime_eq_ok htime
      rw [bind_ok (built_ok rfl _), bind_ok (external_run _ c)]
      exact sendRows_events _ _

theorem Queried.returned {table : List StoredMessage} {res : Answer Row}
    (hdb : Queried table newPoll res) {answered : List Row} (hsub : answered ⊆ res.rows) :
    ∃ returned : List StoredMessage,
      (∀ s ∈ returned, s ∈ table ∧ newPoll.time.toInt.tdiv 1000 < s.timestamp) ∧
      answered.map (rowFrame w keyString newPoll) = returned.map (storedFrame w keyString newPoll) := by
  induction answered with
  | nil => exact ⟨[], by simp, rfl⟩
  | cons row answered ih =>
    obtain ⟨s, hs, hlater, -, htext, hsender⟩ := hdb.rows row (hsub List.mem_cons_self)
    obtain ⟨returned, hall, hmap⟩ := ih fun r hr => hsub (List.mem_cons_of_mem _ hr)
    refine ⟨s :: returned, List.forall_mem_cons.mpr ⟨⟨hs, hlater⟩, hall⟩, ?_⟩
    have hframe : rowFrame w keyString newPoll row = storedFrame w keyString newPoll s := by
      rw [rowFrame, storedFrame, htext, hsender]
    rw [List.map_cons, List.map_cons, hmap, hframe]

theorem not_sendTimeKept {s : StoredMessage} (hlater : newPoll.time.toInt.tdiv 1000 < s.timestamp) :
    ¬ SendTimeKept s (storedFrame w keyString newPoll s) := by
  intro hkept
  have hpollTime : newPoll.time.toInt.tdiv 1000 = s.timestamp := hkept _ List.mem_cons_self
  omega

theorem send_time_lost (w : World) (originalUser keyString : Str) (newPoll : SPChatPoll) (c : Conn)
    (table : List StoredMessage)
    (hdb : Queried table newPoll
      (w.selectMessages c.calls (seconds newPoll.time) newPoll.username)) :
    ∃ returned : List StoredMessage, (∀ s ∈ returned, s ∈ table) ∧
      (after ((answerPoll w originalUser keyString newPoll).run c)).events = c.events ++
        returned.map (fun s => .sent (.pollResponse (storedFrame w keyString newPoll s))) ∧
      ∀ s ∈ returned, ¬ SendTimeKept s (storedFrame w keyString newPoll s) := by
  obtain ⟨answered, hprefix, hevents⟩ := @answerPoll_events w originalUser keyString newPoll c
  obtain ⟨returned, hall, hmap⟩ := @Queried.returned w keyString newPoll table _ hdb answered
    hprefix.sublist.subset
  refine ⟨returned, fun s hs => (hall s hs).1, ?_, fun s hs => not_sendTimeKept (hall s hs).2⟩
  have hsent := congrArg (List.map fun frame => Event.sent (.pollResponse frame)) hmap
  rw [List.map_map, List.map_map] at hsent
  rw [hevents]
  exact congrArg (c.events ++ ·) hsent

def sentByBob : StoredMessage :=
  recorded ⟨ascii "bob", ascii "amy", [], 2#64, 1#32, 1#32, 5999#64⟩ (ascii "hi")

def pollOfAmy : SPChatPoll := ⟨ascii "amy", 4000#64⟩

def bobStored : World := { World.quiet with
  selectMessages := fun _ _ _ => ⟨[⟨ascii "hi", ascii "amy", ascii "bob", ascii "5"⟩], false⟩ }

theorem bobStored_lost : Queried [sentByBob] pollOfAmy
      (bobStored.selectMessages 0 (seconds pollOfAmy.time) pollOfAmy.username) ∧
    ∃ returned : List StoredMessage, (∀ s ∈ returned, s ∈ [sentByBob]) ∧
      (after ((answerPoll bobStored (ascii "amy") [] pollOfAmy).run ⟨⟨[], []⟩, 0, []⟩)).events = [] ++
        returned.map (fun s => .sent (.pollResponse (storedFrame bobStored [] pollOfAmy s))) ∧
      ∀ s ∈ returned, ¬ SendTimeKept s (storedFrame bobStored [] pollOfAmy s) := by
  have hdb : Queried [sentByBob] pollOfAmy
      (bobStored.selectMessages 0 (seconds pollOfAmy.time) pollOfAmy.username) :=
    ⟨List.forall_mem_singleton.mpr ⟨sentByBob, List.mem_singleton_self _, by decide, by decide,
      by decide, by decide⟩⟩
  exact ⟨hdb, send_time_lost bobStored (ascii "amy") [] pollOfAmy ⟨⟨[], []⟩, 0, []⟩ [sentByBob] hdb⟩

theorem bobs_time_replaced :
    (after ((answerPoll bobStored (ascii "amy") [] pollOfAmy).run ⟨⟨[], []⟩, 0, []⟩)).events =
        [.sent (.pollResponse (storedFrame bobStored [] pollOfAmy sentByBob))] ∧
      ¬ SendTimeKept sentByBob (storedFrame bobStored [] pollOfAmy sentByBob) := by
  refine ⟨by decide, not_sendTimeKept ?_⟩
  decide

end Server
