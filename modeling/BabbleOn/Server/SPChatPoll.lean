import BabbleOn.Server.SPChatMessage

namespace Server
open Execution PartialMemory SignedWords

structure SPChatPoll where
  username : Str
  time : BitVec 64
  deriving DecidableEq, Repr

namespace SPChatPoll

def SPCHATPOLL_TYPE : Byte := 5#8

def fresh : SPChatPoll := ⟨[], 0#64⟩

def setUsername : Str → EStateM Fault SPChatPoll Unit :=
  setIf validUsername (.spchat BAD_USERNAME_EXCEPTION) fun username m =>
    { m with username := username }

def setTime (time : BitVec 64) : EStateM Fault SPChatPoll Unit := modify fun m => { m with time := time }

-- the setter takes any time; it is the getter that refuses a negative one
def getTime (m : SPChatPoll) : Except Fault (BitVec 64) :=
  if validPositiveNum m.time then .ok m.time else .error (.spchat NEGATIVE_NUM_EXCEPTION)

def new (username : Str) (time : BitVec 64) : Except Fault SPChatPoll :=
  construct fresh do
    setUsername username
    setTime time

def ofBuffer (h : Host) (buf : Buffer) (len : Nat) : Except Fault SPChatPoll :=
  Prod.fst <| constructAt fresh PAYLOAD_POSITION do
    field (decodeString h buf len) setUsername
    field (decodeLong h buf len) setTime

def encodeMiddle (h : Host) (m : SPChatPoll) : Str :=
  encodeString h m.username ++ encodeLong h m.time

def getPayloadLength (m : SPChatPoll) : Nat := INT_SIZE + m.username.length + LONG_SIZE

def WellFormed (m : SPChatPoll) : Prop := validUsername m.username = true

theorem setUsername_ok {username : Str} (hu : validUsername username = true) (m : SPChatPoll) :
    (setUsername username).run m = .ok () { m with username := username } :=
  setIf_ok hu m

theorem new_wellFormed {username : Str} {time : BitVec 64} {m : SPChatPoll}
    (h : new username time = .ok m) : WellFormed m := by
  obtain ⟨_, s, hu, hrest⟩ := bind_eq_ok.mp (construct_eq_ok.mp h)
  obtain ⟨hvalid, rfl⟩ := setIf_eq_ok.mp hu
  cases hrest
  exact hvalid

theorem ofBuffer_encodeMiddle {h : Host} {buf : Buffer} {len : Nat} {m : SPChatPoll} (hm : WellFormed m)
    (hlen : len < 2 ^ 31) (hs : Spans buf len 0 (encodeMiddle littleEndianHost m)) :
    ofBuffer h buf len = .ok m := by
  obtain ⟨hname, htime⟩ := spans_append.mp hs
  have hname := decodeString_spans h hlen hname
  have htime := decodeLong_spans h htime
  rw [encodeString_length] at htime
  apply constructAt_fst
  rw [PAYLOAD_POSITION, bind_ok (field_ok hname (setUsername_ok hm _))]
  exact field_ok htime (run_modify _ _)

theorem ofBuffer_eq_ok {h : Host} {buf : Buffer} {len : Nat} {m : SPChatPoll}
    (hok : ofBuffer h buf len = .ok m) :
    WellFormed m ∧ Spans buf len 0 (encodeMiddle littleEndianHost m) := by
  obtain ⟨p, hrun⟩ := constructAt_fst_eq_ok.mp hok
  obtain ⟨_, ⟨t, pos⟩, hname, hrun⟩ := bind_eq_ok.mp hrun
  obtain ⟨username, hread, hset⟩ := field_eq_ok.mp hname
  obtain ⟨hu, rfl⟩ := setIf_eq_ok.mp hset
  obtain ⟨huser, rfl⟩ := decodeString_eq_ok hread
  obtain ⟨time, hread, hset⟩ := field_eq_ok.mp hrun
  cases hset
  obtain ⟨htime, _⟩ := decodeLong_eq_ok hread
  exact ⟨hu, spans_append.mpr ⟨huser, by simpa [PAYLOAD_POSITION] using htime⟩⟩

theorem encodeMiddle_length (h : Host) (m : SPChatPoll) :
    (encodeMiddle h m).length = getPayloadLength m := by
  simp [encodeMiddle, getPayloadLength, INT_SIZE, LONG_SIZE]

end SPChatPoll

structure SPChatMsgMessage where
  sender : Str
  receiver : Str
  message : Str
  decryptMsgLen : BitVec 64
  msgNum : BitVec 32
  totalMsg : BitVec 32
  time : BitVec 64
  deriving DecidableEq, Repr

namespace SPChatMsgMessage

def MAX_MESSAGE_LENGTH : Nat := 500

-- `time` is the one member that is read before it is set, so it keeps what memory held
def fresh (time : BitVec 64) : SPChatMsgMessage := ⟨[], [], [], 0#64, 0#32, 0#32, time⟩

def setSender : Str → EStateM Fault SPChatMsgMessage Unit :=
  setIf validUsername (.spchat BAD_USERNAME_EXCEPTION) fun sender m => { m with sender := sender }

def setReceiver : Str → EStateM Fault SPChatMsgMessage Unit :=
  setIf validUsername (.spchat BAD_USERNAME_EXCEPTION) fun receiver m =>
    { m with receiver := receiver }

def setMessage (message : Str) : EStateM Fault SPChatMsgMessage Unit :=
  modify fun m => { m with message := message }

def setDecryptMsgLen : BitVec 64 → EStateM Fault SPChatMsgMessage Unit :=
  setIf (fun n => decide (n.toInt ≤ MAX_MESSAGE_LENGTH)) (.spchat MSG_LENGTH_EXCEPTION)
    fun decryptMsgLen m => { m with decryptMsgLen := decryptMsgLen }

-- the check is made on the member `time`, not on the argument
def setMsgNum (msgNum : BitVec 32) : EStateM Fault SPChatMsgMessage Unit := do
  let m ← get
  if validPositiveNum m.time then modify fun m => { m with msgNum := msgNum }
  else throw (.spchat NEGATIVE_NUM_EXCEPTION)

def setTotalMsg : BitVec 32 → EStateM Fault SPChatMsgMessage Unit :=
  setIf validPositiveNum (.spchat NEGATIVE_NUM_EXCEPTION) fun totalMsg m =>
    { m with totalMsg := totalMsg }

def setTime : BitVec 64 → EStateM Fault SPChatMsgMessage Unit :=
  setIf validPositiveNum (.spchat NEGATIVE_NUM_EXCEPTION) fun time m => { m with time := time }

def new (garbage : BitVec 64) (sender receiver message : Str) (decryptMsgLen : BitVec 64)
    (msgNum totalMsg : BitVec 32) (time : BitVec 64) : Except Fault SPChatMsgMessage :=
  construct (fresh garbage) do
    setSender sender
    setReceiver receiver
    setMessage message
    setDecryptMsgLen decryptMsgLen
    setMsgNum msgNum
    setTotalMsg totalMsg
    setTime time

def ofBuffer (h : Host) (buf : Buffer) (len : Nat) (garbage : BitVec 64) :
    EStateM Fault Nat SPChatMsgMessage :=
  reading (fresh garbage) do
    field (decodeString h buf len) setSender
    field (decodeString h buf len) setReceiver
    field (decodeString h buf len) setMessage
    field (decodeLong h buf len) setDecryptMsgLen
    field (decodeInt h buf len) setMsgNum
    field (decodeInt h buf len) setTotalMsg
    field (decodeLong h buf len) setTime

def encodeMessage (h : Host) (m : SPChatMsgMessage) : Str :=
  encodeString h m.sender ++ encodeString h m.receiver ++ encodeString h m.message ++
    encodeLong h m.decryptMsgLen ++ encodeInt h m.msgNum ++ encodeInt h m.totalMsg ++
    encodeLong h m.time

def getPayloadLength (m : SPChatMsgMessage) : Nat :=
  INT_SIZE + m.sender.length + INT_SIZE + m.receiver.length + INT_SIZE + m.message.length +
    LONG_SIZE + INT_SIZE + INT_SIZE + LONG_SIZE

structure WellFormed (m : SPChatMsgMessage) : Prop where
  sender : validUsername m.sender = true
  receiver : validUsername m.receiver = true
  decryptMsgLen : m.decryptMsgLen.toInt ≤ MAX_MESSAGE_LENGTH
  totalMsg : 0 ≤ m.totalMsg.toInt
  time : 0 ≤ m.time.toInt

theorem setSender_ok {s : Str} (h : validUsername s = true) (m : SPChatMsgMessage) :
    (setSender s).run m = .ok () { m with sender := s } :=
  setIf_ok h m

theorem setReceiver_ok {s : Str} (h : validUsername s = true) (m : SPChatMsgMessage) :
    (setReceiver s).run m = .ok () { m with receiver := s } :=
  setIf_ok h m

theorem setDecryptMsgLen_ok {n : BitVec 64} (h : n.toInt ≤ MAX_MESSAGE_LENGTH)
    (m : SPChatMsgMessage) : (setDecryptMsgLen n).run m = .ok () { m with decryptMsgLen := n } :=
  setIf_eq_ok.mpr ⟨decide_eq_true h, rfl⟩

theorem setMsgNum_eq_ok {n : BitVec 32} {m m' : SPChatMsgMessage} :
    (setMsgNum n).run m = .ok () m' ↔ 0 ≤ m.time.toInt ∧ m' = { m with msgNum := n } := by
  rw [setMsgNum, bind_ok (run_get m), validPositiveNum]
  by_cases h : m.time.toInt ≥ 0
  · rw [if_pos (decide_eq_true h), run_modify]
    simp [h, eq_comm]
  · rw [if_neg (by simpa using h), run_throw]
    simp [h]

theorem setMsgNum_ok {m : SPChatMsgMessage} (h : 0 ≤ m.time.toInt) (n : BitVec 32) :
    (setMsgNum n).run m = .ok () { m with msgNum := n } :=
  setMsgNum_eq_ok.mpr ⟨h, rfl⟩

theorem setTotalMsg_ok {n : BitVec 32} (h : 0 ≤ n.toInt) (m : SPChatMsgMessage) :
    (setTotalMsg n).run m = .ok () { m with totalMsg := n } :=
  setIf_eq_ok.mpr ⟨decide_eq_true h, rfl⟩

theorem setTime_ok {t : BitVec 64} (h : 0 ≤ t.toInt) (m : SPChatMsgMessage) :
    (setTime t).run m = .ok () { m with time := t } :=
  setIf_eq_ok.mpr ⟨decide_eq_true h, rfl⟩

theorem new_eq_ok {garbage : BitVec 64} {sender receiver message : Str} {decryptMsgLen : BitVec 64}
    {msgNum totalMsg : BitVec 32} {time : BitVec 64} {m : SPChatMsgMessage} :
    new garbage sender receiver message decryptMsgLen msgNum totalMsg time = .ok m ↔
      0 ≤ garbage.toInt ∧ m = ⟨sender, receiver, message, decryptMsgLen, msgNum, totalMsg, time⟩ ∧
        WellFormed m := by
  rw [new, construct_eq_ok]
  constructor
  · intro h
    obtain ⟨_, s, hs, h⟩ := bind_eq_ok.mp h
    obtain ⟨hsender, rfl⟩ := setIf_eq_ok.mp hs
    obtain ⟨_, s, hs, h⟩ := bind_eq_ok.mp h
    obtain ⟨hreceiver, rfl⟩ := setIf_eq_ok.mp hs
    rw [setMessage, bind_ok (run_modify _ _)] at h
    obtain ⟨_, s, hs, h⟩ := bind_eq_ok.mp h
    obtain ⟨hlen, rfl⟩ := setIf_eq_ok.mp hs
    obtain ⟨_, s, hs, h⟩ := bind_eq_ok.mp h
    obtain ⟨hgarbage, rfl⟩ := setMsgNum_eq_ok.mp hs
    obtain ⟨_, s, hs, h⟩ := bind_eq_ok.mp h
    obtain ⟨htotal, rfl⟩ := setIf_eq_ok.mp hs
    obtain ⟨htime, rfl⟩ := setIf_eq_ok.mp h
    exact ⟨hgarbage, rfl, hsender, hreceiver, of_decide_eq_true hlen, of_decide_eq_true htotal,
      of_decide_eq_true htime⟩
  · rintro ⟨hgarbage, rfl, hm⟩
    rw [bind_ok (setSender_ok hm.sender _), bind_ok (setReceiver_ok hm.receiver _), setMessage,
      bind_ok (run_modify _ _), bind_ok (setDecryptMsgLen_ok hm.decryptMsgLen _),
      bind_ok (setMsgNum_ok hgarbage _), bind_ok (setTotalMsg_ok hm.totalMsg _),
      setTime_ok hm.time]

@[simp] theorem encodeMessage_length (h : Host) (m : SPChatMsgMessage) :
    (encodeMessage h m).length = getPayloadLength m := by
  simp only [encodeMessage, getPayloadLength, List.length_append, encodeString_length,
    encodeLong_length, encodeInt_length, INT_SIZE, LONG_SIZE]
  omega

theorem ofBuffer_encodeMessage (h : Host) {buf : Buffer} {len pos : Nat} {garbage : BitVec 64}
    {m : SPChatMsgMessage} (hm : WellFormed m) (hg : 0 ≤ garbage.toInt) (hlen : len < 2 ^ 31)
    (hs : Spans buf len pos (encodeMessage littleEndianHost m)) :
    (ofBuffer h buf len garbage).run pos = .ok m (pos + getPayloadLength m) := by
  obtain ⟨hs, htime⟩ := spans_append.mp hs
  obtain ⟨hs, htotal⟩ := spans_append.mp hs
  obtain ⟨hs, hnum⟩ := spans_append.mp hs
  obtain ⟨hs, hdec⟩ := spans_append.mp hs
  obtain ⟨hs, hmsg⟩ := spans_append.mp hs
  obtain ⟨hsender, hreceiver⟩ := spans_append.mp hs
  have hsender := decodeString_spans h hlen hsender
  have hreceiver := decodeString_spans h hlen hreceiver
  have hmsg := decodeString_spans h hlen hmsg
  have hdec := decodeLong_spans h hdec
  have hnum := decodeInt_spans h hnum
  have htotal := decodeInt_spans h htotal
  have htime := decodeLong_spans h htime
  simp only [List.length_append, encodeString_length, encodeLong_length, encodeInt_length,
    ← Nat.add_assoc] at hsender hreceiver hmsg hdec hnum htotal htime
  apply reading_ok
  rw [bind_ok (field_ok hsender (setSender_ok hm.sender _)),
    bind_ok (field_ok hreceiver (setReceiver_ok hm.receiver _)),
    bind_ok (field_ok hmsg (run_modify _ _)),
    bind_ok (field_ok hdec (setDecryptMsgLen_ok hm.decryptMsgLen _)),
    bind_ok (field_ok hnum (setMsgNum_ok hg _)),
    bind_ok (field_ok htotal (setTotalMsg_ok hm.totalMsg _)),
    field_ok htime (setTime_ok hm.time _)]
  simp only [getPayloadLength, INT_SIZE, LONG_SIZE, ← Nat.add_assoc]

theorem ofBuffer_eq_ok {h : Host} {buf : Buffer} {len pos pos' : Nat} {garbage : BitVec 64}
    {m : SPChatMsgMessage} (hok : (ofBuffer h buf len garbage).run pos = .ok m pos') :
    0 ≤ garbage.toInt ∧ WellFormed m ∧ Spans buf len pos (encodeMessage littleEndianHost m) ∧
      pos' = pos + getPayloadLength m := by
  have hrun := reading_eq_ok.mp hok
  obtain ⟨_, ⟨t, q⟩, hfield, hrun⟩ := bind_eq_ok.mp hrun
  obtain ⟨sender, hread, hset⟩ := field_eq_ok.mp hfield
  obtain ⟨hsender, rfl⟩ := setIf_eq_ok.mp hset
  obtain ⟨hs₁, rfl⟩ := decodeString_eq_ok hread
  obtain ⟨_, ⟨t, q⟩, hfield, hrun⟩ := bind_eq_ok.mp hrun
  obtain ⟨receiver, hread, hset⟩ := field_eq_ok.mp hfield
  obtain ⟨hreceiver, rfl⟩ := setIf_eq_ok.mp hset
  obtain ⟨hs₂, rfl⟩ := decodeString_eq_ok hread
  obtain ⟨_, ⟨t, q⟩, hfield, hrun⟩ := bind_eq_ok.mp hrun
  obtain ⟨message, hread, hset⟩ := field_eq_ok.mp hfield
  cases hset
  obtain ⟨hs₃, rfl⟩ := decodeString_eq_ok hread
  obtain ⟨_, ⟨t, q⟩, hfield, hrun⟩ := bind_eq_ok.mp hrun
  obtain ⟨decryptMsgLen, hread, hset⟩ := field_eq_ok.mp hfield
  obtain ⟨hdec, rfl⟩ := setIf_eq_ok.mp hset
  obtain ⟨hs₄, rfl⟩ := decodeLong_eq_ok hread
  obtain ⟨_, ⟨t, q⟩, hfield, hrun⟩ := bind_eq_ok.mp hrun
  obtain ⟨msgNum, hread, hset⟩ := field_eq_ok.mp hfield
  obtain ⟨hgarbage, rfl⟩ := setMsgNum_eq_ok.mp hset
  obtain ⟨hs₅, rfl⟩ := decodeInt_eq_ok hread
  obtain ⟨_, ⟨t, q⟩, hfield, hrun⟩ := bind_eq_ok.mp hrun
  obtain ⟨totalMsg, hread, hset⟩ := field_eq_ok.mp hfield
  obtain ⟨htotal, rfl⟩ := setIf_eq_ok.mp hset
  obtain ⟨hs₆, rfl⟩ := decodeInt_eq_ok hread
  obtain ⟨time, hread, hset⟩ := field_eq_ok.mp hrun
  obtain ⟨htime, rfl⟩ := setIf_eq_ok.mp hset
  obtain ⟨hs₇, rfl⟩ := decodeLong_eq_ok hread
  refine ⟨hgarbage, ⟨hsender, hreceiver, of_decide_eq_true hdec, of_decide_eq_true htotal,
    of_decide_eq_true htime⟩, ?_, ?_⟩
  · simp only [encodeMessage, spans_append, List.length_append, encodeString_length,
      encodeLong_length, encodeInt_length, ← Nat.add_assoc]
    simp only [← Nat.add_assoc] at hs₂ hs₃ hs₄ hs₅ hs₆ hs₇
    exact ⟨⟨⟨⟨⟨⟨hs₁, hs₂⟩, hs₃⟩, hs₄⟩, hs₅⟩, hs₆⟩, hs₇⟩
  · simp only [getPayloadLength, INT_SIZE, LONG_SIZE]
    omega

end SPChatMsgMessage

structure SPChatPollResponse where
  username : Str
  msgList : List SPChatMsgMessage
  listNum : BitVec 32
  totalList : BitVec 32
  deriving DecidableEq, Repr

namespace SPChatPollResponse

def SPCHATPOLLRESPONSE_TYPE : Byte := 6#8

def fresh : SPChatPollResponse := ⟨[], [], 0#32, 0#32⟩

def setUsername : Str → EStateM Fault SPChatPollResponse Unit :=
  setIf validUsername (.spchat BAD_USERNAME_EXCEPTION) fun username m =>
    { m with username := username }

def setListNum : BitVec 32 → EStateM Fault SPChatPollResponse Unit :=
  setIf validPositiveNum (.spchat NEGATIVE_NUM_EXCEPTION) fun listNum m =>
    { m with listNum := listNum }

def setTotalList : BitVec 32 → EStateM Fault SPChatPollResponse Unit :=
  setIf validPositiveNum (.spchat NEGATIVE_NUM_EXCEPTION) fun totalList m =>
    { m with totalList := totalList }

def setMsgList (msgList : List SPChatMsgMessage) : EStateM Fault SPChatPollResponse Unit :=
  modify fun m => { m with msgList := msgList }

def pushMsg (msg : SPChatMsgMessage) : EStateM Fault SPChatPollResponse Unit :=
  modify fun m => { m with msgList := m.msgList ++ [msg] }

def new (username : Str) (msgList : List SPChatMsgMessage) (listNum totalList : BitVec 32) :
    Except Fault SPChatPollResponse :=
  construct fresh do
    setUsername username
    setListNum listNum
    setTotalList totalList
    setMsgList msgList

-- `garbage i` is what the member `time` of the i-th entry holds before the entry is read
def decodeMsgList (h : Host) (buf : Buffer) (len : Nat) (garbage : Nat → BitVec 64) :
    EStateM Fault (Building SPChatPollResponse) Unit := do
  let msgNum ← atPos (decodeInt h buf len)
  forM (List.range' 0 msgNum.toInt.toNat) fun i =>
    field (SPChatMsgMessage.ofBuffer h buf len (garbage i)) pushMsg

def ofBuffer (h : Host) (buf : Buffer) (len : Nat) (garbage : Nat → BitVec 64) :
    Except Fault SPChatPollResponse :=
  Prod.fst <| constructAt fresh PAYLOAD_POSITION do
    field (decodeString h buf len) setUsername
    field (decodeInt h buf len) setListNum
    field (decodeInt h buf len) setTotalList
    decodeMsgList h buf len garbage

def encodeMsgList (h : Host) (msgList : List SPChatMsgMessage) : Str :=
  encodeInt h (BitVec.ofNat 32 msgList.length) ++
    msgList.flatMap (SPChatMsgMessage.encodeMessage h)

def encodeMiddle (h : Host) (m : SPChatPollResponse) : Str :=
  encodeString h m.username ++ encodeInt h m.listNum ++ encodeInt h m.totalList ++
    encodeMsgList h m.msgList

def getPayloadLength (m : SPChatPollResponse) : Nat :=
  INT_SIZE + m.username.length + INT_SIZE + INT_SIZE + INT_SIZE +
    (m.msgList.map SPChatMsgMessage.getPayloadLength).sum

structure WellFormed (m : SPChatPollResponse) : Prop where
  username : validUsername m.username = true
  listNum : 0 ≤ m.listNum.toInt
  totalList : 0 ≤ m.totalList.toInt
  msgList : ∀ msg ∈ m.msgList, msg.WellFormed

theorem setUsername_ok {username : Str} (hu : validUsername username = true)
    (m : SPChatPollResponse) : (setUsername username).run m = .ok () { m with username := username } :=
  setIf_ok hu m

theorem setListNum_ok {n : BitVec 32} (h : 0 ≤ n.toInt) (m : SPChatPollResponse) :
    (setListNum n).run m = .ok () { m with listNum := n } :=
  setIf_eq_ok.mpr ⟨decide_eq_true h, rfl⟩

theorem setTotalList_ok {n : BitVec 32} (h : 0 ≤ n.toInt) (m : SPChatPollResponse) :
    (setTotalList n).run m = .ok () { m with totalList := n } :=
  setIf_eq_ok.mpr ⟨decide_eq_true h, rfl⟩

theorem pushMsg_ok (msg : SPChatMsgMessage) (m : SPChatPollResponse) :
    (pushMsg msg).run m = .ok () { m with msgList := m.msgList ++ [msg] } := rfl

theorem new_eq_ok {username : Str} {msgList : List SPChatMsgMessage} {listNum totalList : BitVec 32}
    {m : SPChatPollResponse} :
    new username msgList listNum totalList = .ok m ↔
      (validUsername username = true ∧ 0 ≤ listNum.toInt ∧ 0 ≤ totalList.toInt) ∧
        m = ⟨username, msgList, listNum, totalList⟩ := by
  rw [new, construct_eq_ok]
  constructor
  · intro h
    obtain ⟨_, s, hs, h⟩ := bind_eq_ok.mp h
    obtain ⟨hu, rfl⟩ := setIf_eq_ok.mp hs
    obtain ⟨_, s, hs, h⟩ := bind_eq_ok.mp h
    obtain ⟨hlist, rfl⟩ := setIf_eq_ok.mp hs
    obtain ⟨_, s, hs, h⟩ := bind_eq_ok.mp h
    obtain ⟨htotal, rfl⟩ := setIf_eq_ok.mp hs
    cases h
    exact ⟨⟨hu, of_decide_eq_true hlist, of_decide_eq_true htotal⟩, rfl⟩
  · rintro ⟨⟨hu, hlist, htotal⟩, rfl⟩
    rw [bind_ok (setUsername_ok hu _), bind_ok (setListNum_ok hlist _),
      bind_ok (setTotalList_ok htotal _), setMsgList, run_modify]

theorem entries_spans {h : Host} {buf : Buffer} {len : Nat} {garbage : Nat → BitVec 64}
    (hlen : len < 2 ^ 31) {msgs : List SPChatMsgMessage} (hm : ∀ msg ∈ msgs, msg.WellFormed)
    {pos : Nat} (i : Nat) (hg : ∀ k < msgs.length, 0 ≤ (garbage (i + k)).toInt)
    (m : SPChatPollResponse)
    (hs : Spans buf len pos (msgs.flatMap (SPChatMsgMessage.encodeMessage littleEndianHost))) :
    (forM (List.range' i msgs.length) fun i =>
        field (SPChatMsgMessage.ofBuffer h buf len (garbage i)) pushMsg).run ⟨m, pos⟩ =
      .ok () ⟨{ m with msgList := m.msgList ++ msgs },
        pos + (msgs.map SPChatMsgMessage.getPayloadLength).sum⟩ := by
  induction msgs generalizing pos i m with
  | nil => simp
  | cons msg msgs ih =>
    rw [List.flatMap_cons] at hs
    obtain ⟨hmsg, hrest⟩ := spans_append.mp hs
    have hfirst : 0 ≤ (garbage i).toInt := hg 0 (Nat.succ_pos _)
    have hread := SPChatMsgMessage.ofBuffer_encodeMessage h (hm msg (by simp)) hfirst hlen hmsg
    rw [SPChatMsgMessage.encodeMessage_length] at hrest
    simp only [List.length_cons, List.range'_succ, List.forM_cons]
    have hlater : ∀ k < msgs.length, 0 ≤ (garbage (i + 1 + k)).toInt := by
      intro k hk
      rw [Nat.add_assoc, Nat.add_comm 1]
      exact hg (k + 1) (Nat.succ_lt_succ hk)
    rw [bind_ok (field_ok hread (pushMsg_ok _ _)),
      ih (fun msg' h => hm msg' (by simp [h])) (i + 1) hlater _ hrest]
    simp [Nat.add_assoc]

@[simp] theorem flatMap_encodeMessage_length (h : Host) (msgs : List SPChatMsgMessage) :
    (msgs.flatMap (SPChatMsgMessage.encodeMessage h)).length =
      (msgs.map SPChatMsgMessage.getPayloadLength).sum := by
  induction msgs with
  | nil => rfl
  | cons msg msgs ih => simp [ih]

theorem encodeMiddle_length (h : Host) (m : SPChatPollResponse) :
    (encodeMiddle h m).length = getPayloadLength m := by
  simp only [encodeMiddle, encodeMsgList, getPayloadLength, List.length_append,
    encodeString_length, encodeInt_length, flatMap_encodeMessage_length, INT_SIZE]
  omega

theorem length_le_sum (msgs : List SPChatMsgMessage) :
    msgs.length ≤ (msgs.map SPChatMsgMessage.getPayloadLength).sum := by
  induction msgs with
  | nil => exact Nat.le_refl 0
  | cons msg msgs ih =>
    have hpos : 1 ≤ msg.getPayloadLength := by
      simp only [SPChatMsgMessage.getPayloadLength, INT_SIZE]
      omega
    simp only [List.length_cons, List.map_cons, List.sum_cons]
    omega

theorem decodeMsgList_spans {h : Host} {buf : Buffer} {len pos : Nat} {garbage : Nat → BitVec 64}
    (hlen : len < 2 ^ 31) {msgs : List SPChatMsgMessage}
    (hg : ∀ i < msgs.length, 0 ≤ (garbage i).toInt) (hm : ∀ msg ∈ msgs, msg.WellFormed)
    (m : SPChatPollResponse)
    (hs : Spans buf len pos (encodeMsgList littleEndianHost msgs)) :
    (decodeMsgList h buf len garbage).run ⟨m, pos⟩ =
      .ok () ⟨{ m with msgList := m.msgList ++ msgs },
        pos + 4 + (msgs.map SPChatMsgMessage.getPayloadLength).sum⟩ := by
  have hroom := hs.1
  have hmany := length_le_sum msgs
  obtain ⟨hcount, hentries⟩ := spans_append.mp hs
  simp only [encodeMsgList, List.length_append, encodeInt_length,
    flatMap_encodeMessage_length] at hroom hentries
  have hn : (BitVec.ofNat 32 msgs.length).toInt.toNat = msgs.length := by
    rw [toInt_ofNat_small (by omega), Int.toNat_natCast]
  unfold decodeMsgList
  rw [bind_ok (atPos_ok (decodeInt_spans h hcount)), hn]
  exact entries_spans hlen hm 0 (by simpa using hg) m hentries

theorem ofBuffer_encodeMiddle {h : Host} {buf : Buffer} {len : Nat} {garbage : Nat → BitVec 64}
    {m : SPChatPollResponse} (hg : ∀ i < m.msgList.length, 0 ≤ (garbage i).toInt) (hm : WellFormed m)
    (hlen : len < 2 ^ 31) (hs : Spans buf len 0 (encodeMiddle littleEndianHost m)) :
    ofBuffer h buf len garbage = .ok m := by
  obtain ⟨hs, hlist⟩ := spans_append.mp hs
  obtain ⟨hs, htotal⟩ := spans_append.mp hs
  obtain ⟨hname, hnum⟩ := spans_append.mp hs
  have hname := decodeString_spans h hlen hname
  have hnum := decodeInt_spans h hnum
  have htotal := decodeInt_spans h htotal
  simp only [List.length_append, encodeString_length, encodeInt_length,
    ← Nat.add_assoc] at hname hnum htotal hlist
  apply constructAt_fst
  rw [PAYLOAD_POSITION, bind_ok (field_ok hname (setUsername_ok hm.username _)),
    bind_ok (field_ok hnum (setListNum_ok hm.listNum _)),
    bind_ok (field_ok htotal (setTotalList_ok hm.totalList _)),
    decodeMsgList_spans hlen hg hm.msgList _ hlist]
  rfl

-- the count is compared with nothing, so a negative one is read as an empty list
def announced (h : Host) (m : SPChatPollResponse) (count : BitVec 32) : Str :=
  encodeString h m.username ++ encodeInt h m.listNum ++ encodeInt h m.totalList ++
    encodeInt h count ++ m.msgList.flatMap (SPChatMsgMessage.encodeMessage h)

theorem encodeMiddle_announced (h : Host) (m : SPChatPollResponse) :
    encodeMiddle h m = announced h m (BitVec.ofNat 32 m.msgList.length) := by
  simp only [encodeMiddle, encodeMsgList, announced, List.append_assoc]

theorem entries_eq_ok {h : Host} {buf : Buffer} {len : Nat} {garbage : Nat → BitVec 64} {n i pos : Nat}
    {m : SPChatPollResponse} {b : Building SPChatPollResponse}
    (hok : (forM (List.range' i n) fun i =>
        field (SPChatMsgMessage.ofBuffer h buf len (garbage i)) pushMsg).run ⟨m, pos⟩ = .ok () b)
    (hpos : pos ≤ len) :
    ∃ msgs : List SPChatMsgMessage, msgs.length = n ∧ b.this = { m with msgList := m.msgList ++ msgs } ∧
      (∀ msg ∈ msgs, msg.WellFormed) ∧ (∀ k < n, 0 ≤ (garbage (i + k)).toInt) ∧
        Spans buf len pos (msgs.flatMap (SPChatMsgMessage.encodeMessage littleEndianHost)) ∧
          b.pos = pos + (msgs.map SPChatMsgMessage.getPayloadLength).sum := by
  induction n generalizing i pos m with
  | zero =>
    cases hok
    exact ⟨[], rfl, by simp, by simp, by simp, ⟨hpos, nofun⟩, rfl⟩
  | succ n ih =>
    rw [List.range'_succ, List.forM_cons] at hok
    obtain ⟨_, ⟨t, q⟩, hfield, hrest⟩ := bind_eq_ok.mp hok
    obtain ⟨msg, hread, hset⟩ := field_eq_ok.mp hfield
    cases hset
    obtain ⟨hgarbage, hmsg, hspan, rfl⟩ := SPChatMsgMessage.ofBuffer_eq_ok hread
    rw [← SPChatMsgMessage.encodeMessage_length littleEndianHost] at hrest
    obtain ⟨msgs, rfl, hthis, hmsgs, hsettled, htail, hend⟩ := ih hrest hspan.1
    refine ⟨msg :: msgs, rfl, by simpa using hthis, by simpa using ⟨hmsg, hmsgs⟩, ?_,
      spans_append.mpr ⟨hspan, htail⟩, ?_⟩
    · intro k hk
      cases k with
      | zero => exact hgarbage
      | succ k =>
        have hlater := hsettled k (Nat.lt_of_succ_lt_succ hk)
        rwa [Nat.add_assoc, Nat.add_comm 1] at hlater
    · rw [hend, List.map_cons, List.sum_cons, SPChatMsgMessage.encodeMessage_length, Nat.add_assoc]

theorem ofBuffer_eq_ok {h : Host} {buf : Buffer} {len : Nat} {garbage : Nat → BitVec 64}
    {m : SPChatPollResponse} (hok : ofBuffer h buf len garbage = .ok m) :
    WellFormed m ∧ (∀ i < m.msgList.length, 0 ≤ (garbage i).toInt) ∧
      ∃ count : BitVec 32, m.msgList.length = count.toInt.toNat ∧
        Spans buf len 0 (announced littleEndianHost m count) := by
  obtain ⟨p, hrun⟩ := constructAt_fst_eq_ok.mp hok
  obtain ⟨_, ⟨t, pos⟩, hfield, hrun⟩ := bind_eq_ok.mp hrun
  obtain ⟨username, hread, hset⟩ := field_eq_ok.mp hfield
  obtain ⟨hu, rfl⟩ := setIf_eq_ok.mp hset
  obtain ⟨hs₁, rfl⟩ := decodeString_eq_ok hread
  obtain ⟨_, ⟨t, pos⟩, hfield, hrun⟩ := bind_eq_ok.mp hrun
  obtain ⟨listNum, hread, hset⟩ := field_eq_ok.mp hfield
  obtain ⟨hlist, rfl⟩ := setIf_eq_ok.mp hset
  obtain ⟨hs₂, rfl⟩ := decodeInt_eq_ok hread
  obtain ⟨_, ⟨t, pos⟩, hfield, hrun⟩ := bind_eq_ok.mp hrun
  obtain ⟨totalList, hread, hset⟩ := field_eq_ok.mp hfield
  obtain ⟨htotal, rfl⟩ := setIf_eq_ok.mp hset
  obtain ⟨hs₃, rfl⟩ := decodeInt_eq_ok hread
  obtain ⟨count, ⟨t, pos⟩, hcount, hrun⟩ := bind_eq_ok.mp hrun
  obtain ⟨hread, rfl⟩ := atPos_eq_ok.mp hcount
  obtain ⟨hs₄, rfl⟩ := decodeInt_eq_ok hread
  have hroom := hs₄.1
  rw [encodeInt_length] at hroom
  obtain ⟨msgs, hl, hthis, hmsgs, hsettled, hs₅, _⟩ := entries_eq_ok hrun hroom
  dsimp only at hthis
  rw [hthis]
  refine ⟨⟨hu, of_decide_eq_true hlist, of_decide_eq_true htotal, hmsgs⟩, ?_, count, hl, ?_⟩
  · intro i hi
    have hi' := hsettled i (hl ▸ hi)
    rwa [Nat.zero_add] at hi'
  · simp only [announced, spans_append, List.length_append, encodeString_length,
      encodeInt_length, ← Nat.add_assoc]
    simp only [PAYLOAD_POSITION, ← Nat.add_assoc] at hs₂ hs₃ hs₄ hs₅
    exact ⟨⟨⟨⟨hs₁, hs₂⟩, hs₃⟩, hs₄⟩, hs₅⟩

end SPChatPollResponse

end Server
