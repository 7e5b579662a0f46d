import BabbleOn.Library.Interaction
import BabbleOn.Server.AuthenticationGate

namespace Server
open Execution Interaction Program

namespace Dialogue

-- the thread cut where it meets the outside
abbrev Dialog := Program Request Request.Answered Stop

abbrev ofWorld (w : World) : Code := w.toCode

def ask (req : Request) : Dialog req.Answered := request req

abbrev time : Dialog Int := ask .time
abbrev RAND_bytes : Dialog (Fin 8 → Byte) := ask .RAND_bytes
abbrev objectTime : Dialog (BitVec 64) := ask .objectTime
abbrev decode : Dialog SPChatMessage := ask .decode
abbrev send (m : SPChatMessage) : Dialog Unit := ask (.send m)
abbrev execute (statement : Insert) : Dialog Unit := ask (.execute statement)
abbrev selectPassword (username : Str) : Dialog (Answer Str) := ask (.selectPassword username)
abbrev selectUserId (email : Str) : Dialog (Answer Str) := ask (.selectUserId email)
abbrev selectMessageId (text : Str) : Dialog (Answer Str) := ask (.selectMessageId text)

abbrev selectMessages (time username : Str) : Dialog (Answer Row) :=
  ask (.selectMessages time username)

section Asked

variable (code : Code)

abbrev sendACK : ErrorType → Dialog Unit := Body.sendACK ask

abbrev checkPassword : (Fin 8 → Byte) → Str → SPChatResponse → Dialog Unit :=
  Body.checkPassword code ask

abbrev authenticate : Dialog Str := Body.authenticate code ask

abbrev exchangeKeys : Dialog Str := Body.exchangeKeys code ask

abbrev sendRow : Str → SPChatPoll → Row → Dialog Unit := Body.sendRow code ask

abbrev answerPoll : Str → Str → SPChatPoll → Dialog Unit := Body.answerPoll code ask

abbrev laterStatements : SPChatMsgMessage → Str → Dialog Unit := Body.laterStatements ask

abbrev storeMessage : SPChatMsgMessage → Str → Dialog Unit := Body.storeMessage ask

abbrev receivePollResponse : Str → Str → SPChatPollResponse → Dialog Unit :=
  Body.receivePollResponse code ask

abbrev handle : Str → Str → SPChatMessage → Dialog Unit := Body.handle code ask

abbrev serve : Int → Str → Str → Nat → Dialog Unit := Body.serve code ask

abbrev clientConnectStart : Nat → Dialog Unit := Body.clientConnectStart code ask

end Asked

section Interpretation

variable (w : World)

-- the type of the answer is computed from the request, which indexing would not see through
@[simp] theorem interpret_ask (req : Request) :
    @interpret _ _ _ _ (no_index req.Answered) (answer w) (ask req) = answer w req :=
  interpret_request _ req

theorem interpret_decode : interpret (answer w) decode = Server.decode w := interpret_ask w .decode

@[simp] theorem interpret_built {α : Type} (r : Except Fault α) :
    interpret (answer w) (built r) = built r := by
  cases r <;> rfl

@[simp] theorem interpret_executeQuery {α : Type} (query : Dialog (Answer α)) :
    interpret (answer w) (executeQuery query) = executeQuery (interpret (answer w) query) := by
  simp only [executeQuery, interpret_bind, interpret_ite, interpret_throw, interpret_pure]

theorem interpret_catchSQLException (body : Dialog Unit) :
    interpret (answer w) (catchSQLException body) =
      catchSQLException (interpret (answer w) body) := by
  funext c
  change (interpret (answer w) (catchSQLException body)).run c =
    (catchSQLException (interpret (answer w) body)).run c
  rw [catchSQLException, interpret_tryCatch_run]
  cases hrun : (interpret (answer w) body).run c with
  | ok a c' => rw [catchSQLException_ok hrun]
  | error e c' =>
    rw [catchSQLException_error hrun]
    change (interpret (answer w) (if e = .sql then pure () else throw e)).run c' = _
    rw [interpret_ite]
    split <;> rfl

@[simp] theorem interpret_sendACK (error : ErrorType) :
    interpret (answer w) (sendACK error) = Server.sendACK w error := by
  simp only [Body.sendACK, interpret_bind, interpret_built, interpret_ask]

@[simp] theorem interpret_checkPassword (challenge : Fin 8 → Byte) (username : Str)
    (response : SPChatResponse) :
    interpret (answer w) (checkPassword (ofWorld w) challenge username response) =
      Server.checkPassword w challenge username response := by
  simp only [Body.checkPassword, interpret_bind, interpret_ask, interpret_ite, interpret_sendACK,
    interpret_throw]

theorem interpret_authenticate :
    interpret (answer w) (authenticate (ofWorld w)) = Server.authenticate w := by
  simp only [authenticate, Body.authenticate, interpret_bind, interpret_ask]
  refine bind_congr fun msg => ?_
  cases msg with
  | login login =>
    simp only [interpret_bind, interpret_ask, interpret_built]
    refine bind_congr fun challenge => bind_congr fun m => bind_congr fun _ => bind_congr fun msg2 => ?_
    cases msg2 with
    | response response => simp only [interpret_bind, interpret_checkPassword, interpret_pure]
    | login => rfl
    | challenge => rfl
    | ack => rfl
    | poll => rfl
    | pollResponse => rfl
  | challenge => rfl
  | ack => rfl
  | response => rfl
  | poll => rfl
  | pollResponse => rfl

theorem interpret_exchangeKeys :
    interpret (answer w) (exchangeKeys (ofWorld w)) = Server.exchangeKeys w := by
  simp only [exchangeKeys, Body.exchangeKeys, interpret_bind, interpret_ask]
  refine bind_congr fun msg => ?_
  cases msg with
  | login login =>
    simp only [interpret_bind, interpret_ask, interpret_built]
    refine bind_congr fun m => bind_congr fun _ => bind_congr fun msg2 => ?_
    cases msg2 with
    | login loginNew =>
      dsimp only
      cases w.decryptor loginNew.encSymKey with
      | none => rfl
      | some key =>
        simp only [interpret_ite, interpret_bind, interpret_sendACK, interpret_pure,
          interpret_throw]
    | challenge => rfl
    | ack => rfl
    | response => rfl
    | poll => rfl
    | pollResponse => rfl
  | challenge => rfl
  | ack => rfl
  | response => rfl
  | poll => rfl
  | pollResponse => rfl

@[simp] theorem interpret_sendRow (keyString : Str) (newPoll : SPChatPoll) (row : Row) :
    interpret (answer w) (sendRow (ofWorld w) keyString newPoll row) =
      Server.sendRow w keyString newPoll row := by
  simp only [sendRow, Body.sendRow, interpret_bind, interpret_ask, interpret_built]

theorem interpret_answerPoll (originalUser keyString : Str) (newPoll : SPChatPoll) :
    interpret (answer w) (answerPoll (ofWorld w) originalUser keyString newPoll) =
      Server.answerPoll w originalUser keyString newPoll := by
  simp only [answerPoll, Body.answerPoll, interpret_ite, interpret_bind, interpret_ask,
    interpret_built, interpret_throw, interpret_forM, interpret_sendRow]

theorem interpret_storeMessage (first : SPChatMsgMessage) (text : Str) :
    interpret (answer w) (storeMessage first text) = Server.storeMessage w first text := by
  simp only [storeMessage, Body.storeMessage, Body.laterStatements, interpret_bind, interpret_ask,
    interpret_executeQuery]

theorem interpret_receivePollResponse (originalUser keyString : Str) (pollRspns : SPChatPollResponse) :
    interpret (answer w) (receivePollResponse (ofWorld w) originalUser keyString pollRspns) =
      Server.receivePollResponse w originalUser keyString pollRspns := by
  unfold receivePollResponse Server.receivePollResponse Body.receivePollResponse
  cases pollRspns.msgList with
  | nil => rfl
  | cons first rest =>
    dsimp only
    rw [interpret_ite, interpret_throw, interpret_catchSQLException, interpret_storeMessage]

theorem interpret_handle (originalUser keyString : Str) (msgs : SPChatMessage) :
    interpret (answer w) (handle (ofWorld w) originalUser keyString msgs) =
      Server.handle w originalUser keyString msgs := by
  cases msgs with
  | poll newPoll => exact interpret_answerPoll w originalUser keyString newPoll
  | pollResponse pollRspns => exact interpret_receivePollResponse w originalUser keyString pollRspns
  | login => rfl
  | challenge => rfl
  | ack => rfl
  | response => rfl

theorem interpret_serve (endTime : Int) (originalUser keyString : Str) (rounds : Nat) :
    interpret (answer w) (serve (ofWorld w) endTime originalUser keyString rounds) =
      Server.serve w endTime originalUser keyString rounds := by
  induction rounds with
  | zero => rfl
  | succ rounds ih =>
    simp only [serve, Body.serve, interpret_bind, interpret_ask, interpret_ite, interpret_throw,
      interpret_handle, ih]

-- answered one request after the other, the thread is the one that runs in one piece
theorem interpret_clientConnectStart (rounds : Nat) :
    interpret (answer w) (clientConnectStart (ofWorld w) rounds) =
      Server.clientConnectStart w rounds := by
  simp only [clientConnectStart, Server.clientConnectStart, Body.clientConnectStart, ofWorld,
    interpret_bind, interpret_ask, interpret_authenticate, interpret_exchangeKeys, interpret_serve]

theorem serve_reached {w : World} {endTime : Int} {u key : Str} {n : Nat} {c c' : Conn}
    {msgs : SPChatMessage} (htime : w.time c.calls ≤ endTime)
    (hdecode : (Server.decode w).run { c with calls := c.calls + 1 } = .ok msgs c') :
    Reached (answer w) (serve (ofWorld w) endTime u key (n + 1)) c
      (handle (ofWorld w) u key msgs >>= fun _ => serve (ofWorld w) endTime u key n) c' := by
  have hnow : Reached (answer w) time c (.done (w.time c.calls)) { c with calls := c.calls + 1 } :=
    reached_of_run (by rw [interpret_ask]; rfl)
  refine hnow.bind ?_
  rw [if_neg (Int.not_lt.mpr htime)]
  rw [← interpret_decode] at hdecode
  exact (reached_of_run hdecode).bind .start

end Interpretation

end Dialogue

end Server
