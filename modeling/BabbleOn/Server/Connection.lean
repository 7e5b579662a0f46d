import Mathlib.Data.List.GetD
import Mathlib.Logic.Function.Basic
import BabbleOn.Server.SPChatFrame

namespace Server
open Execution SegmentedStream

inductive Insert where
  | messages (text : Str)
  | transactions (sender_id received_id message_id time : Str)
  deriving DecidableEq, Repr

inductive Event where
  | received (m : SPChatMessage)
  | sent (m : SPChatMessage)
  | executed (statement : Insert)
  deriving DecidableEq, Repr

-- `returned` is a `delete sock; return NULL` in the body, `sql` never leaves its try block,
-- `undefined` is the first element of an empty vector
inductive Stop where
  | returned
  | fault (f : Fault)
  | cryptopp
  | sql
  | undefined
  deriving DecidableEq, Repr

structure Row where
  text : Str
  receiver : Str
  sender : Str
  timestamp : Str
  deriving DecidableEq, Repr

structure Answer (α : Type) where
  rows : List α
  failed : Bool

abbrev Digest := Fin 32 → Byte

-- where a connection meets the outside: between two requests other connections may run
inductive Request where
  | time
  | RAND_bytes
  | objectTime
  | decode
  | send (m : SPChatMessage)
  | execute (statement : Insert)
  | selectPassword (username : Str)
  | selectMessages (time username : Str)
  | selectUserId (email : Str)
  | selectMessageId (text : Str)
  deriving DecidableEq, Repr

abbrev Request.Answered : Request → Type
  | time => Int
  | RAND_bytes => Fin 8 → Byte
  | objectTime => BitVec 64
  | decode => SPChatMessage
  | send _ => Unit
  | execute _ => Unit
  | selectPassword _ => Answer Str
  | selectMessages _ _ => Answer Row
  | selectUserId _ => Answer Str
  | selectMessageId _ => Answer Str

-- what a connection computes without asking; the key pair is the connection's own
structure Code where
  array : Nat → Byte
  SHA256 : Str → Digest
  PEM_Save : Str
  decryptor : Str → Option Str
  aesEncrypt : Str → Str → Str → Str
  aesDecrypt : Str → Str → Str → Str

-- all that a connection meets outside its own code; the number counts the calls it has made
structure World extends Code where
  host : Host
  garbage : Nat → Garbage
  objectTime : Nat → BitVec 64
  time : Nat → Int
  RAND_bytes : Nat → Fin 8 → Byte
  sendFails : Nat → Bool
  executeFails : Nat → Bool
  selectPassword : Nat → Str → Answer Str
  selectMessages : Nat → Str → Str → Answer Row
  selectUserId : Nat → Str → Answer Str
  selectMessageId : Nat → Str → Answer Str

-- nothing fails, nothing is stored and the clocks stand still
def World.quiet : World where
  host := littleEndianHost
  garbage := fun _ => ⟨fun _ => 0#8, fun _ => 0#64⟩
  objectTime := fun _ => 0#64
  array := fun _ => 0#8
  time := fun _ => 0
  RAND_bytes := fun _ _ => 0#8
  SHA256 := fun _ _ => 0#8
  PEM_Save := []
  decryptor := fun _ => none
  aesEncrypt := fun _ _ _ => []
  aesDecrypt := fun _ _ _ => []
  sendFails := fun _ => false
  executeFails := fun _ => false
  selectPassword := fun _ _ => ⟨[], false⟩
  selectMessages := fun _ _ _ => ⟨[], false⟩
  selectUserId := fun _ _ => ⟨[], false⟩
  selectMessageId := fun _ _ => ⟨[], false⟩

structure Conn where
  sock : Stream Byte
  calls : Nat
  events : List Event

abbrev Thread := EStateM Stop Conn

def ivString : Str := ascii "QtIkUCmeW0XTCybi"
def keysize : Nat := 16
def SEND_FAILED : String := "Send failed (send())"

def external {α : Type} (f : Nat → α) : Thread α := do
  let c ← get
  set { c with calls := c.calls + 1 }
  pure (f c.calls)

def record (e : Event) : Thread Unit := modify fun c => { c with events := c.events ++ [e] }

def decode (w : World) : Thread SPChatMessage := do
  let g ← external w.garbage
  let c ← get
  match (SPChatMessage.decode w.host g).run ⟨c.sock, []⟩ with
  | .ok m p => do
    set { c with sock := p.sock }
    record (.received m)
    pure m
  | .error e p => do
    set { c with sock := p.sock }
    throw (.fault e)

def send (w : World) (m : SPChatMessage) : Thread Unit := do
  let fails ← external w.sendFails
  if fails then throw (.fault (.socket SEND_FAILED)) else record (.sent m)

def execute (w : World) (statement : Insert) : Thread Unit := do
  let fails ← external w.executeFails
  if fails then throw .sql else record (.executed statement)

def answer (w : World) : (req : Request) → Thread req.Answered
  | .time => external w.time
  | .RAND_bytes => external w.RAND_bytes
  | .objectTime => external w.objectTime
  | .decode => decode w
  | .send m => send w m
  | .execute statement => execute w statement
  | .selectPassword username => external fun i => w.selectPassword i username
  | .selectMessages time username => external fun i => w.selectMessages i time username
  | .selectUserId email => external fun i => w.selectUserId i email
  | .selectMessageId text => external fun i => w.selectMessageId i text

def lastString (start : Str) (rows : List Str) : Str := rows.foldl (fun _ row => row) start

def writeLoop (array : Nat → Byte) (start stop : Nat) (src : Nat → Byte) : Nat → Byte :=
  (List.range' start (stop - start)).foldl (fun array i => Function.update array i (src (i - start)))
    array

def concatenateMe (array : Nat → Byte) (challenge : Fin 8 → Byte) (nonceVector password : Str) : Str :=
  let challengeSize := 8
  let passwordSize := password.length
  let nonceSize := nonceVector.length
  let sizeConc := challengeSize + passwordSize + nonceSize
  let array := writeLoop array 0 challengeSize fun i => (List.ofFn challenge).getD i 0#8
  let array := writeLoop array challengeSize (challengeSize + nonceSize) fun j =>
    nonceVector.getD j 0#8
  let array := writeLoop array (challengeSize + nonceSize) sizeConc fun j => password.getD j 0#8
  (List.range sizeConc).map array

def hexDigit (n : Nat) : Byte := BitVec.ofNat 8 (if n < 10 then 48 + n else 87 + n)

def sprintf02x (b : Byte) : Str := [hexDigit (b.toNat / 16), hexDigit (b.toNat % 16)]

def hex (digest : Digest) : Str := (List.ofFn digest).flatMap sprintf02x

def sha256_varbytes (code : Code) (string : Str) : Str := hex (code.SHA256 string)

def decimal (n : Int) : Str := ascii (toString n)

def seconds (time : BitVec 64) : Str := decimal (time.toInt.tdiv 1000)

section Body

variable {m : Type → Type} [Monad m] [MonadExceptOf Stop m] {α : Type}

def built : Except Fault α → m α
  | .ok a => pure a
  | .error e => throw (.fault e)

def executeQuery (query : m (Answer α)) : m (List α) := do
  let res ← query
  if res.failed then throw .sql else pure res.rows

def catchSQLException (body : m Unit) : m Unit :=
  tryCatch body fun e => if e = .sql then pure () else throw e

namespace Body

variable (code : Code) (ask : (req : Request) → m req.Answered)

def sendACK (error : ErrorType) : m Unit := do
  let ack ← built (SPChatACK.new error .SERVER)
  ask (.send (.ack ack))

def checkPassword (challenge : Fin 8 → Byte) (username : Str) (response : SPChatResponse) :
    m Unit := do
  let res : Answer Str ← ask (.selectPassword username)
  let password := lastString [] res.rows
  if password = [] then do
    sendACK ask .DEFAULT_ERROR
    throw .returned
  else
    let buffer := sha256_varbytes code (concatenateMe code.array challenge response.nonce password)
    if response.hash = buffer then sendACK ask .PASSWORD_AUTH else throw .returned

def authenticate : m Str := do
  let msg : SPChatMessage ← ask .decode
  match msg with
  | .login login => do
    let challenge : Fin 8 → Byte ← ask .RAND_bytes
    let spChatChallenge ← built (SPChatChallenge.new (List.ofFn challenge))
    ask (.send (.challenge spChatChallenge))
    let msg2 : SPChatMessage ← ask .decode
    match msg2 with
    | .response response => do
      checkPassword code ask challenge login.username response
      pure login.username
    | _ => throw .returned
  | _ => throw .returned

-- the NUL that ends the copied key is part of what the constructor may read
def exchangeKeys : m Str := do
  let msg : SPChatMessage ← ask .decode
  match msg with
  | .login _ => do
    let server2Client ← built (SPChatLogin.new [] SPChatLogin.ASYMMETRIC_KEY (code.PEM_Save ++ [0#8])
      (BitVec.ofNat 32 SPChatLogin.ASYMMETRIC_LENGTH))
    ask (.send (.login server2Client))
    let msgNewLogin : SPChatMessage ← ask .decode
    match msgNewLogin with
    | .login loginNew =>
      match code.decryptor loginNew.encSymKey with
      | none => throw .cryptopp
      | some decryptedSymKey =>
        if decryptedSymKey.length = keysize then do
          sendACK ask .SUCCESS
          pure decryptedSymKey
        else throw .returned
    | _ => throw .returned
  | _ => throw .returned

def sendRow (keyString : Str) (newPoll : SPChatPoll) (row : Row) : m Unit := do
  let objectTime : BitVec 64 ← ask .objectTime
  let time ← built newPoll.getTime
  let msg ← built (SPChatMsgMessage.new objectTime row.sender newPoll.username
    (code.aesEncrypt row.text keyString ivString) (BitVec.ofNat 64 row.text.length) 1#32 1#32 time)
  let pollRspns ← built (SPChatPollResponse.new row.sender [msg] 1#32 1#32)
  ask (.send (.pollResponse pollRspns))

def answerPoll (originalUser keyString : Str) (newPoll : SPChatPoll) : m Unit :=
  if newPoll.username ≠ originalUser then throw .returned
  else do
    let time ← built newPoll.getTime
    let res : Answer Row ← ask (.selectMessages (seconds time) newPoll.username)
    forM res.rows (sendRow code ask keyString newPoll)

-- the four statements after `INSERT INTO messages`
def laterStatements (first : SPChatMsgMessage) (receivedDecryptedMessage : Str) : m Unit := do
  let senders : List Str ← executeQuery (ask (.selectUserId first.sender))
  let receivers : List Str ← executeQuery (ask (.selectUserId first.receiver))
  let messages : List Str ← executeQuery (ask (.selectMessageId receivedDecryptedMessage))
  ask (.execute (.transactions (lastString [] senders) (lastString [] receivers)
    (lastString [] messages) (seconds first.time)))

def storeMessage (first : SPChatMsgMessage) (receivedDecryptedMessage : Str) : m Unit := do
  ask (.execute (.messages receivedDecryptedMessage))
  laterStatements ask first receivedDecryptedMessage

def receivePollResponse (originalUser keyString : Str) (pollRspns : SPChatPollResponse) : m Unit :=
  let receivedDecryptedMessage := pollRspns.msgList.foldl (fun message msg =>
    message ++ code.aesDecrypt msg.message keyString ivString) []
  match pollRspns.msgList with
  | [] => throw .undefined
  | first :: _ =>
    if first.sender ≠ originalUser then throw .returned
    else catchSQLException (storeMessage ask first receivedDecryptedMessage)

-- any other message is printed and skipped
def handle (originalUser keyString : Str) : SPChatMessage → m Unit
  | .poll newPoll => answerPoll code ask originalUser keyString newPoll
  | .pollResponse pollRspns => receivePollResponse code ask originalUser keyString pollRspns
  | _ => pure ()

def serve (endTime : Int) (originalUser keyString : Str) : Nat → m Unit
  | 0 => pure ()
  | n + 1 => do
    let now : Int ← ask .time
    if endTime < now then throw .returned
    else do
      let msgs : SPChatMessage ← ask .decode
      handle code ask originalUser keyString msgs
      serve endTime originalUser keyString n

-- the first `rounds` rounds of the endless loop; every exception that is caught ends the thread
def clientConnectStart (rounds : Nat) : m Unit := do
  let now : Int ← ask .time
  let originalUser ← authenticate code ask
  let keyString ← exchangeKeys code ask
  serve code ask (now + 1000) originalUser keyString rounds

end Body

end Body

section Answered

variable (w : World)

abbrev sendACK : ErrorType → Thread Unit := Body.sendACK (answer w)

abbrev checkPassword : (Fin 8 → Byte) → Str → SPChatResponse → Thread Unit :=
  Body.checkPassword w.toCode (answer w)

abbrev authenticate : Thread Str := Body.authenticate w.toCode (answer w)

abbrev exchangeKeys : Thread Str := Body.exchangeKeys w.toCode (answer w)

abbrev sendRow : Str → SPChatPoll → Row → Thread Unit := Body.sendRow w.toCode (answer w)

abbrev answerPoll : Str → Str → SPChatPoll → Thread Unit := Body.answerPoll w.toCode (answer w)

abbrev laterStatements : SPChatMsgMessage → Str → Thread Unit := Body.laterStatements (answer w)

abbrev storeMessage : SPChatMsgMessage → Str → Thread Unit := Body.storeMessage (answer w)

abbrev receivePollResponse : Str → Str → SPChatPollResponse → Thread Unit :=
  Body.receivePollResponse w.toCode (answer w)

abbrev handle : Str → Str → SPChatMessage → Thread Unit := Body.handle w.toCode (answer w)

abbrev serve : Int → Str → Str → Nat → Thread Unit := Body.serve w.toCode (answer w)

abbrev clientConnectStart : Nat → Thread Unit := Body.clientConnectStart w.toCode (answer w)

end Answered

theorem external_run {α : Type} (f : Nat → α) (c : Conn) :
    (external f).run c = .ok (f c.calls) { c with calls := c.calls + 1 } := rfl

theorem built_ok {α : Type} {r : Except Fault α} {a : α} (h : r = .ok a) (c : Conn) :
    (built r : Thread α).run c = .ok a c := by
  rw [h]
  rfl

theorem send_ok {w : World} {c : Conn} (h : w.sendFails c.calls = false) (m : SPChatMessage) :
    (send w m).run c = .ok () ⟨c.sock, c.calls + 1, c.events ++ [.sent m]⟩ := by
  unfold send
  rw [bind_ok (external_run _ c), h, if_neg (by simp)]
  rfl

theorem sendACK_ok {w : World} {c : Conn} (h : w.sendFails c.calls = false) (error : ErrorType) :
    (sendACK w error).run c =
      .ok () ⟨c.sock, c.calls + 1, c.events ++ [.sent (.ack ⟨.SERVER, error⟩)]⟩ := by
  unfold sendACK Body.sendACK
  rw [bind_ok (built_ok (SPChatACK.new_ok error .SERVER) c)]
  exact send_ok h _

theorem catchSQLException_ok {m : Thread Unit} {c c' : Conn} (h : m.run c = .ok () c') :
    (catchSQLException m).run c = .ok () c' := by
  unfold catchSQLException
  rw [tryCatch_ok h]

theorem catchSQLException_error {m : Thread Unit} {e : Stop} {c c' : Conn}
    (h : m.run c = .error e c') :
    (catchSQLException m).run c = if e = .sql then .ok () c' else .error e c' := by
  unfold catchSQLException
  rw [tryCatch_error h]
  split <;> rfl

theorem serve_received {w : World} {endTime : Int} {originalUser keyString : Str} {c c' : Conn}
    {msgs : SPChatMessage} (htime : w.time c.calls ≤ endTime)
    (hdecode : (decode w).run { c with calls := c.calls + 1 } = .ok msgs c') (n : Nat) :
    (serve w endTime originalUser keyString (n + 1)).run c =
      (handle w originalUser keyString msgs >>= fun _ =>
        serve w endTime originalUser keyString n).run c' := by
  rw [serve, Body.serve]
  dsimp only [answer]
  rw [bind_ok (external_run w.time c), if_neg (Int.not_lt.mpr htime), bind_ok hdecode]

theorem foldl_update {α : Type} (g : Nat → α) (l : List Nat) (array : Nat → α) (j : Nat) :
    l.foldl (fun array i => Function.update array i (g i)) array j =
      if j ∈ l then g j else array j := by
  induction l generalizing array with
  | nil => simp
  | cons i l ih =>
    rw [List.foldl_cons, ih]
    by_cases hj : j = i
    · subst hj
      simp
    · simp [hj]

theorem writeLoop_apply (array : Nat → Byte) (start stop : Nat) (src : Nat → Byte) (j : Nat) :
    writeLoop array start stop src j =
      if start ≤ j ∧ j < stop then src (j - start) else array j := by
  have hmem : j ∈ List.range' start (stop - start) ↔ start ≤ j ∧ j < stop := by
    rw [List.mem_range'_1]
    omega
  rw [writeLoop, foldl_update fun i => src (i - start)]
  simp only [hmem]

theorem concatenateMe_eq (array : Nat → Byte) (challenge : Fin 8 → Byte) (nonce password : Str) :
    concatenateMe array challenge nonce password = List.ofFn challenge ++ nonce ++ password := by
  have hc : (List.ofFn challenge).length = 8 := List.length_ofFn
  apply List.ext_getElem
  · simp only [concatenateMe, List.length_map, List.length_range, List.length_append, hc]
    omega
  · intro i hi hi'
    simp only [concatenateMe, List.length_map, List.length_range] at hi
    rw [← List.getD_eq_getElem (List.ofFn challenge ++ nonce ++ password) 0#8 hi']
    simp only [concatenateMe, List.getElem_map, List.getElem_range, writeLoop_apply]
    rcases Nat.lt_or_ge i 8 with h8 | h8
    · rw [if_neg (by omega), if_neg (by omega), if_pos (by omega), Nat.sub_zero,
        List.append_assoc, List.getD_append _ _ _ _ (by omega)]
    · rcases Nat.lt_or_ge i (8 + nonce.length) with hn | hn
      · rw [if_neg (by omega), if_pos (by omega), List.append_assoc,
          List.getD_append_right _ _ _ _ (by omega), List.getD_append _ _ _ _ (by omega), hc]
      · have hl : (List.ofFn challenge ++ nonce).length = 8 + nonce.length := by
          rw [List.length_append, hc]
        rw [if_pos (by omega), List.getD_append_right _ _ _ _ (by omega), hl]

theorem lastString_eq (start : Str) (rows : List Str) :
    lastString start rows = rows.getLast?.getD start := by
  rw [lastString]
  induction rows generalizing start with
  | nil => rfl
  | cons row rows ih =>
    rw [List.foldl_cons, ih]
    cases rows with
    | nil => rfl
    | cons row' rows => simp [List.getLast?_cons]

theorem checkPassword_run {w : World} {challenge : Fin 8 → Byte} {username pw : Str}
    {response : SPChatResponse} {c : Conn}
    (hpw : (w.selectPassword c.calls username).rows.getLast? = some pw) (hne : pw ≠ []) :
    (checkPassword w challenge username response).run c =
      if response.hash = hex (w.SHA256 (List.ofFn challenge ++ response.nonce ++ pw)) then
        (sendACK w .PASSWORD_AUTH).run { c with calls := c.calls + 1 }
      else .error .returned { c with calls := c.calls + 1 } := by
  have hlast : lastString [] (w.selectPassword c.calls username).rows = pw := by
    rw [lastString_eq, hpw, Option.getD_some]
  unfold checkPassword Body.checkPassword
  dsimp only [answer]
  rw [bind_ok (external_run _ c)]
  rw [hlast, if_neg hne, sha256_varbytes, concatenateMe_eq]
  split <;> rfl

theorem checkPassword_none {w : World} {challenge : Fin 8 → Byte} {username : Str}
    {response : SPChatResponse} {c c' : Conn}
    (hpw : lastString [] (w.selectPassword c.calls username).rows = []) :
    (checkPassword w challenge username response).run c ≠ .ok () c' := by
  intro h
  unfold checkPassword Body.checkPassword at h
  dsimp only [answer] at h
  rw [bind_ok (external_run _ c)] at h
  rw [if_pos hpw] at h
  obtain ⟨_, _, _, h⟩ := bind_eq_ok.mp h
  cases h

theorem checkPassword_eq_ok {w : World} {challenge : Fin 8 → Byte} {username : Str}
    {response : SPChatResponse} {c c' : Conn}
    (h : (checkPassword w challenge username response).run c = .ok () c') :
    ∃ pw, (w.selectPassword c.calls username).rows.getLast? = some pw ∧
      response.hash = hex (w.SHA256 (List.ofFn challenge ++ response.nonce ++ pw)) := by
  have hstored : lastString [] (w.selectPassword c.calls username).rows ≠ [] :=
    fun hnone => checkPassword_none hnone h
  rw [lastString_eq] at hstored
  cases hrows : (w.selectPassword c.calls username).rows.getLast? with
  | none =>
    rw [hrows] at hstored
    exact absurd rfl hstored
  | some pw =>
    rw [hrows, Option.getD_some] at hstored
    rw [checkPassword_run hrows hstored] at h
    refine ⟨pw, rfl, ?_⟩
    split at h
    · assumption
    · cases h

end Server
