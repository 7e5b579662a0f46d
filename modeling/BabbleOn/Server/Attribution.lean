import BabbleOn.Server.ConcurrentServer

namespace Server
open Execution ProgramLogic History

-- `text` and `time` are what a received frame of `u` to `receiver` comes to under `key`
structure Submitted (aesDecrypt : Str → Str → Str → Str) (u key receiver text time : Str)
    (es : List Event) : Prop where
  received : ∃ pollRspns first rest, .received (.pollResponse pollRspns) ∈ es ∧
    pollRspns.msgList = first :: rest ∧ first.sender = u ∧ first.receiver = receiver ∧
    time = seconds first.time ∧
    text = pollRspns.msgList.foldl (fun message msg =>
      message ++ aesDecrypt msg.message key ivString) []

def Attributed (w : World) (before : List Event) : Event → Prop
  | .executed (.transactions sender_id received_id message_id time) =>
    ∃ u key receiver text, InSession w u key before ∧
      Submitted w.aesDecrypt u key receiver text time before ∧
      (∃ i, sender_id = lastString [] (w.selectUserId i u).rows) ∧
      (∃ i, received_id = lastString [] (w.selectUserId i receiver).rows) ∧
      ∃ i, message_id = lastString [] (w.selectMessageId i text).rows
  | _ => True

theorem Submitted.append {aesDecrypt : Str → Str → Str → Str} {u key receiver text time : Str}
    {es : List Event} (h : Submitted aesDecrypt u key receiver text time es) (more : List Event) :
    Submitted aesDecrypt u key receiver text time (es ++ more) := by
  obtain ⟨pollRspns, first, rest, hmem, hrest⟩ := h
  exact ⟨pollRspns, first, rest, List.mem_append_left _ hmem, hrest⟩

section Exchanges

variable {w : World} {J : List Event → Prop}
variable (hreceived : ∀ es m, J es → J (es ++ [.received m]))
variable (hsent : ∀ es m, J es → J (es ++ [.sent m]))
include hsent

theorem checkPassword_exchanges (challenge : Fin 8 → Byte) (username : Str)
    (response : SPChatResponse) :
    Keeps (On J) (On J) (checkPassword w challenge username response) fun _ => On J := by
  unfold checkPassword Body.checkPassword
  dsimp only [answer]
  refine keeps_bind (external_keeps _) fun res => keeps_assume fun _ => ?_
  split
  · exact keeps_bind (sendACK_keeps (fun _ h => h) fun es h => hsent es _ h) fun _ =>
      keeps_throw fun _ h => h
  · split
    · exact sendACK_keeps (fun _ h => h) fun es h => hsent es _ h
    · exact keeps_throw fun _ h => h

theorem sendRow_exchanges (key : Str) (newPoll : SPChatPoll) (row : Row) :
    Keeps (On J) (On J) (sendRow w key newPoll row) fun _ => On J := by
  refine keeps_bind (external_keeps _) fun objectTime => keeps_assume fun _ => ?_
  refine keeps_bind (built_keeps (fun _ h => h) _) fun t => keeps_assume fun _ => ?_
  refine keeps_bind (built_keeps (fun _ h => h) _) fun msg => keeps_assume fun _ => ?_
  refine keeps_bind (built_keeps (fun _ h => h) _) fun m => keeps_assume fun _ => ?_
  exact send_keeps (fun _ h => h) fun es h => hsent es _ h

theorem answerPoll_exchanges (u key : Str) (newPoll : SPChatPoll) :
    Keeps (On J) (On J) (answerPoll w u key newPoll) fun _ => On J := by
  unfold answerPoll Body.answerPoll
  dsimp only [answer]
  split
  · exact keeps_throw fun _ h => h
  · refine keeps_bind (built_keeps (fun _ h => h) _) fun t => keeps_assume fun _ => ?_
    refine keeps_bind (external_keeps _) fun res => keeps_assume fun _ => ?_
    exact keeps_forM fun row _ => sendRow_exchanges hsent key newPoll row

include hreceived

theorem authenticate_exchanges :
    Keeps (On J) (On J) (authenticate w) fun _ => On J := by
  refine keeps_bind (decode_keeps (K := fun _ => J) (fun _ h => h) fun es m h => hreceived es m h)
    fun msg => ?_
  cases msg with
  | login login =>
    refine keeps_bind (external_keeps _) fun c => keeps_assume fun _ => ?_
    refine keeps_bind (built_keeps (fun _ h => h) _) fun m => keeps_assume fun _ => ?_
    refine keeps_bind (send_keeps (fun _ h => h) fun es h => hsent es _ h) fun _ => ?_
    refine keeps_bind (decode_keeps (K := fun _ => J) (fun _ h => h) fun es m h => hreceived es m h)
      fun msg2 => ?_
    cases msg2 with
    | response response =>
      exact keeps_bind (checkPassword_exchanges hsent c login.username response) fun _ =>
        keeps_pure fun _ h => h
    | login => exact keeps_throw fun _ h => h
    | challenge => exact keeps_throw fun _ h => h
    | ack => exact keeps_throw fun _ h => h
    | poll => exact keeps_throw fun _ h => h
    | pollResponse => exact keeps_throw fun _ h => h
  | challenge => exact keeps_throw fun _ h => h
  | ack => exact keeps_throw fun _ h => h
  | response => exact keeps_throw fun _ h => h
  | poll => exact keeps_throw fun _ h => h
  | pollResponse => exact keeps_throw fun _ h => h

theorem exchangeKeys_exchanges :
    Keeps (On J) (On J) (exchangeKeys w) fun _ => On J := by
  refine keeps_bind (decode_keeps (K := fun _ => J) (fun _ h => h) fun es m h => hreceived es m h)
    fun msg => ?_
  cases msg with
  | login login =>
    refine keeps_bind (built_keeps (fun _ h => h) _) fun m => keeps_assume fun _ => ?_
    refine keeps_bind (send_keeps (fun _ h => h) fun es h => hsent es _ h) fun _ => ?_
    refine keeps_bind (decode_keeps (K := fun _ => J) (fun _ h => h) fun es m h => hreceived es m h)
      fun msg2 => ?_
    cases msg2 with
    | login loginNew =>
      dsimp only
      split
      · exact keeps_throw fun _ h => h
      · split
        · exact keeps_bind (sendACK_keeps (fun _ h => h) fun es h => hsent es _ h) fun _ =>
            keeps_pure fun _ h => h
        · exact keeps_throw fun _ h => h
    | challenge => exact keeps_throw fun _ h => h
    | ack => exact keeps_throw fun _ h => h
    | response => exact keeps_throw fun _ h => h
    | poll => exact keeps_throw fun _ h => h
    | pollResponse => exact keeps_throw fun _ h => h
  | challenge => exact keeps_throw fun _ h => h
  | ack => exact keeps_throw fun _ h => h
  | response => exact keeps_throw fun _ h => h
  | poll => exact keeps_throw fun _ h => h
  | pollResponse => exact keeps_throw fun _ h => h

end Exchanges

section Attributing

variable {w : World} {u key : Str}

structure Attributing (w : World) (u key : Str) (es : List Event) : Prop where
  session : InSession w u key es
  attributed : Gated (Attributed w) es

theorem Attributing.concat {es : List Event} (h : Attributing w u key es) {e : Event}
    (he : Attributed w es e) : Attributing w u key (es ++ [e]) :=
  ⟨h.session.append [e], gated_concat h.attributed he⟩

theorem catchSQLException_from {J K : List Event → Prop} {m : Thread Unit}
    (h : Keeps (On J) (On K) m fun _ => On J) :
    Keeps (On J) (On K) (catchSQLException m) fun _ => On J := by
  intro c hc
  cases hrun : m.run c with
  | ok a c' =>
    rw [catchSQLException_ok hrun]
    exact h.ok hc hrun
  | error e c' =>
    have hend := h.error hc hrun
    rw [catchSQLException_error hrun]
    by_cases he : e = .sql
    · rw [if_pos he]
      exact hend
    · rw [if_neg he]
      exact hend

theorem storeMessage_attributing {first : SPChatMsgMessage} {text : Str} (hu : first.sender = u) :
    Keeps (On (Attributing w u key))
      (On fun es => Attributing w u key es ∧
        Submitted w.aesDecrypt u key first.receiver text (seconds first.time) es)
      (storeMessage w first text) fun _ => On (Attributing w u key) := by
  have hself : ∀ es, (Attributing w u key es ∧
      Submitted w.aesDecrypt u key first.receiver text (seconds first.time) es) →
      Attributing w u key es := fun _ h => h.1
  unfold storeMessage Body.storeMessage Body.laterStatements
  dsimp only [answer]
  refine keeps_bind (execute_keeps (K := fun es => Attributing w u key es ∧
    Submitted w.aesDecrypt u key first.receiver text (seconds first.time) es) hself
    fun es h => ⟨h.1.concat trivial, h.2.append _⟩) fun _ => ?_
  refine keeps_bind (executeQuery_keeps hself _) fun senders => keeps_assume fun ⟨i, hi⟩ => ?_
  refine keeps_bind (executeQuery_keeps hself _) fun receivers => keeps_assume fun ⟨j, hj⟩ => ?_
  refine keeps_bind (executeQuery_keeps hself _) fun messages => keeps_assume fun ⟨k, hk⟩ => ?_
  refine execute_keeps hself fun es h => h.1.concat ?_
  exact ⟨u, key, first.receiver, text, h.1.session, h.2, ⟨i, by rw [hi, hu]⟩, ⟨j, by rw [hj]⟩,
    ⟨k, by rw [hk]⟩⟩

theorem receivePollResponse_attributing (pollRspns : SPChatPollResponse) :
    Keeps (On (Attributing w u key))
      (On fun es => Attributing w u key es ∧ .received (.pollResponse pollRspns) ∈ es)
      (receivePollResponse w u key pollRspns) fun _ => On (Attributing w u key) := by
  unfold receivePollResponse Body.receivePollResponse
  dsimp only
  split
  · exact keeps_throw fun _ h => h.1
  · rename_i first rest hlist
    split
    · exact keeps_throw fun _ h => h.1
    · rename_i hu
      have hsender := not_not.mp hu
      refine catchSQLException_from ((storeMessage_attributing hsender).consequence (fun c hc => ?_)
        fun _ _ h => h)
      exact ⟨hc.1, pollRspns, first, rest, hc.2, hlist, hsender, rfl, rfl, by rw [hlist]⟩

theorem handle_attributing (msgs : SPChatMessage) :
    Keeps (On (Attributing w u key))
      (On fun es => Attributing w u key es ∧ .received msgs ∈ es)
      (handle w u key msgs) fun _ => On (Attributing w u key) := by
  cases msgs with
  | poll newPoll =>
    exact (answerPoll_exchanges (fun es m h => h.concat trivial) u key newPoll).consequence
      (fun _ h => h.1) fun _ _ h => h
  | pollResponse pollRspns => exact receivePollResponse_attributing pollRspns
  | login => exact keeps_pure fun _ h => h.1
  | challenge => exact keeps_pure fun _ h => h.1
  | ack => exact keeps_pure fun _ h => h.1
  | response => exact keeps_pure fun _ h => h.1

theorem serve_attributing (endTime : Int) (rounds : Nat) :
    Keeps (On (Attributing w u key)) (On (Attributing w u key)) (serve w endTime u key rounds)
      fun _ => On (Attributing w u key) := by
  induction rounds with
  | zero => exact keeps_pure fun _ h => h
  | succ rounds ih =>
    refine keeps_bind (external_keeps _) fun now => keeps_assume fun _ => ?_
    split
    · exact keeps_throw fun _ h => h
    · refine keeps_bind (decode_keeps (K := fun m es => Attributing w u key es ∧ .received m ∈ es)
        (fun _ h => h) fun es m h => ⟨h.concat trivial, by simp⟩) fun msgs => ?_
      exact keeps_bind (handle_attributing msgs) fun _ => ih

theorem clientConnectStart_attributing (w : World) (rounds : Nat) :
    Keeps (On (Gated (Attributed w))) (On (· = [])) (clientConnectStart w rounds) fun _ =>
      On (Gated (Attributed w)) := by
  have hreceived : ∀ es m, Gated (Attributed w) es → Gated (Attributed w) (es ++ [.received m]) :=
    fun es m h => gated_concat h trivial
  have hsent : ∀ es m, Gated (Attributed w) es → Gated (Attributed w) (es ++ [.sent m]) :=
    fun es m h => gated_concat h trivial
  refine keeps_bind (external_keeps _) fun now => keeps_assume fun _ => ?_
  refine keeps_bind (R := fun u => On fun es => Opened w u es ∧ Gated (Attributed w) es) ?_ fun u =>
    keeps_bind (R := fun key => On (Attributing w u key)) ?_ fun key => ?_
  · have hboth := authenticate_keeps.and (authenticate_exchanges (w := w) hreceived hsent)
    refine (hboth.weaken fun _ h => h.2).consequence (fun c hc => ⟨hc, ?_⟩) fun _ _ h => h
    rw [On, show c.events = [] from hc]
    exact gated_nil
  · have hboth := (exchangeKeys_keeps (u := u)).and (exchangeKeys_exchanges (w := w) hreceived hsent)
    exact (hboth.weaken fun _ h => h.2).consequence (fun _ h => h) fun _ _ h => ⟨h.1.session, h.2⟩
  · exact ((serve_attributing _ rounds).weaken fun _ h => h.attributed).consequence (fun _ h => h)
      fun _ _ h => h.attributed

end Attributing

end Server
