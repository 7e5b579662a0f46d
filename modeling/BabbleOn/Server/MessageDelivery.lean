import BabbleOn.Server.Connection

namespace Server
open Execution SignedWords

def rowFrame (w : World) (keyString : Str) (newPoll : SPChatPoll) (row : Row) : SPChatPollResponse where
  username := row.sender
  msgList := [⟨row.sender, newPoll.username, w.aesEncrypt row.text keyString ivString,
    BitVec.ofNat 64 row.text.length, 1#32, 1#32, newPoll.time⟩]
  listNum := 1#32
  totalList := 1#32

-- `garbage` is what the member `time` of the new entry holds before it is set
structure Answerable (row : Row) (garbage : BitVec 64) : Prop where
  text : row.text.length ≤ SPChatMsgMessage.MAX_MESSAGE_LENGTH
  sender : validUsername row.sender = true
  garbage : 0 ≤ garbage.toInt

structure AnswersAll (w : World) (originalUser keyString : Str) (newPoll : SPChatPoll)
    (rows : List Row) (conn : Conn) : Prop where
  answered : ∃ conn', (answerPoll w originalUser keyString newPoll).run conn = .ok () conn' ∧
    conn'.events = conn.events ++
      rows.map fun row => .sent (.pollResponse (rowFrame w keyString newPoll row))

section Rows

variable {w : World} {originalUser keyString : Str} {newPoll : SPChatPoll}

theorem rowFrame_new {row : Row} (h : validUsername row.sender = true) :
    SPChatPollResponse.new row.sender (rowFrame w keyString newPoll row).msgList 1#32 1#32 =
      .ok (rowFrame w keyString newPoll row) :=
  SPChatPollResponse.new_eq_ok.mpr ⟨⟨h, by decide, by decide⟩, rfl⟩

theorem sendRow_eq_ok (hsend : ∀ i, w.sendFails i = false) (hpoll : newPoll.WellFormed)
    (htime : 0 ≤ newPoll.time.toInt) {row : Row} (hlen : row.text.length < 2 ^ 63) {c c' : Conn} :
    (sendRow w keyString newPoll row).run c = .ok () c' ↔ Answerable row (w.objectTime c.calls) ∧
      c' = ⟨c.sock, c.calls + 2,
        c.events ++ [.sent (.pollResponse (rowFrame w keyString newPoll row))]⟩ := by
  have hgetTime : newPoll.getTime = .ok newPoll.time := if_pos (decide_eq_true htime)
  have hsize : (BitVec.ofNat 64 row.text.length).toInt = row.text.length := toInt_ofNat_long hlen
  constructor
  · intro h
    unfold sendRow Body.sendRow at h
    dsimp only [answer] at h
    rw [bind_ok (external_run _ c), bind_ok (built_ok hgetTime _)] at h
    obtain ⟨msg, c₁, hmsg, h⟩ := bind_eq_ok.mp h
    cases hnew : SPChatMsgMessage.new (w.objectTime c.calls) row.sender newPoll.username
        (w.aesEncrypt row.text keyString ivString) (BitVec.ofNat 64 row.text.length) 1#32 1#32
        newPoll.time with
    | error e =>
      rw [hnew] at hmsg
      cases hmsg
    | ok built =>
      rw [hnew] at hmsg
      cases hmsg
      obtain ⟨hgarbage, rfl, hwf⟩ := SPChatMsgMessage.new_eq_ok.mp hnew
      have hresponse := built_ok (@rowFrame_new w keyString newPoll row hwf.sender)
      replace h := (bind_ok (hresponse _)).symm.trans h
      rw [send_ok (hsend _)] at h
      cases h
      have htext := hwf.decryptMsgLen
      rw [hsize] at htext
      exact ⟨⟨by omega, hwf.sender, hgarbage⟩, rfl⟩
  · rintro ⟨hrow, rfl⟩
    have htext := hrow.text
    have hnew : SPChatMsgMessage.new (w.objectTime c.calls) row.sender newPoll.username
        (w.aesEncrypt row.text keyString ivString) (BitVec.ofNat 64 row.text.length) 1#32 1#32
        newPoll.time = .ok _ :=
      SPChatMsgMessage.new_eq_ok.mpr ⟨hrow.garbage, rfl, hrow.sender, hpoll,
        by dsimp only; rw [hsize]; omega, by dsimp only; decide, htime⟩
    unfold sendRow Body.sendRow
    dsimp only [answer]
    rw [bind_ok (external_run _ c), bind_ok (built_ok hgetTime _), bind_ok (built_ok hnew _)]
    refine (bind_ok (built_ok (rowFrame_new hrow.sender) _)).trans ?_
    rw [send_ok (hsend _)]

theorem sendRows_eq_ok (hsend : ∀ i, w.sendFails i = false) (hpoll : newPoll.WellFormed)
    (htime : 0 ≤ newPoll.time.toInt) {rows : List Row} (hlen : ∀ row ∈ rows, row.text.length < 2 ^ 63)
    {c c' : Conn} :
    (forM rows (sendRow w keyString newPoll)).run c = .ok () c' ↔
      (∀ j row, rows[j]? = some row → Answerable row (w.objectTime (c.calls + 2 * j))) ∧
      c' = ⟨c.sock, c.calls + 2 * rows.length,
        c.events ++ rows.map fun row => .sent (.pollResponse (rowFrame w keyString newPoll row))⟩ := by
  induction rows generalizing c c' with
  | nil =>
    rw [List.forM_nil, run_pure]
    simp only [List.getElem?_nil, reduceCtorEq, false_imp_iff, implies_true, true_and,
      List.length_nil, Nat.mul_zero, Nat.add_zero, List.map_nil, List.append_nil,
      EStateM.Result.ok.injEq]
    exact eq_comm
  | cons row rows ih =>
    have hrest : ∀ r ∈ rows, r.text.length < 2 ^ 63 := fun r h => hlen r (by simp [h])
    rw [List.forM_cons]
    constructor
    · intro h
      obtain ⟨_, c₁, hrow, h⟩ := bind_eq_ok.mp h
      obtain ⟨hanswerable, rfl⟩ := (sendRow_eq_ok hsend hpoll htime (hlen row (by simp))).mp hrow
      obtain ⟨hall, rfl⟩ := (ih hrest).mp h
      refine ⟨?_, ?_⟩
      · rintro (_ | j) r hr
        · cases hr
          exact hanswerable
        · have hj := hall j r hr
          rwa [show c.calls + 2 + 2 * j = c.calls + 2 * (j + 1) by omega] at hj
      · rw [List.map_cons, List.length_cons, List.append_assoc, List.singleton_append,
          show c.calls + 2 + 2 * rows.length = c.calls + 2 * (rows.length + 1) by omega]
    · rintro ⟨hall, rfl⟩
      have hrow : (sendRow w keyString newPoll row).run c = .ok () _ :=
        (sendRow_eq_ok hsend hpoll htime (hlen row (by simp))).mpr ⟨hall 0 row rfl, rfl⟩
      rw [bind_ok hrow]
      refine (ih hrest).mpr ⟨?_, ?_⟩
      · intro j r hr
        have hj := hall (j + 1) r hr
        rwa [show c.calls + 2 * (j + 1) = c.calls + 2 + 2 * j by omega] at hj
      · rw [List.map_cons, List.length_cons, List.append_assoc, List.singleton_append,
          show c.calls + 2 + 2 * rows.length = c.calls + 2 * (rows.length + 1) by omega]

theorem answerPoll_run (huser : newPoll.username = originalUser) (htime : 0 ≤ newPoll.time.toInt)
    (c : Conn) :
    (answerPoll w originalUser keyString newPoll).run c =
      (forM (w.selectMessages c.calls (seconds newPoll.time) newPoll.username).rows
        (sendRow w keyString newPoll)).run { c with calls := c.calls + 1 } := by
  have hgetTime : newPoll.getTime = .ok newPoll.time := if_pos (decide_eq_true htime)
  unfold answerPoll Body.answerPoll
  dsimp only [answer]
  rw [if_neg (not_not.mpr huser), bind_ok (built_ok hgetTime c), bind_ok (external_run _ c)]

end Rows

end Server
