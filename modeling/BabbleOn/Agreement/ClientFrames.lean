import BabbleOn.Client.Messages
import BabbleOn.Client.MsgMessage
import BabbleOn.Server.SPChatFrame

namespace Agreement
open Execution PartialMemory SegmentedStream Client Server SignedWords

theorem header_bytes : getBytes Client.HEADER = Server.HEADER := by
  rw [getBytes_ascii BabbleOnMessage.header_ascii]
  decide

theorem writeHeader_frame (type : Client.Byte) (len : BitVec 64) :
    (BabbleOnMessage.mk type len).writeHeader = frameHeader type len := by
  rw [BabbleOnMessage.writeHeader, header_bytes]
  rfl

theorem writeInt_eq (n : BitVec 32) : writeInt n = encodeInt littleEndianHost n :=
  (encodeInt_little n).symm

theorem writeLong_eq (n : BitVec 64) : writeLong n = encodeLong littleEndianHost n :=
  (encodeLong_little n).symm

theorem int_of_length {x : BitVec 32} {n : Nat} (h : x.toInt = n) : x = BitVec.ofNat 32 n := by
  apply BitVec.eq_of_toNat_eq
  have hlt := x.isLt
  have hnat := toNat_of_toInt h
  rw [BitVec.toNat_ofNat, hnat]
  omega

theorem name_valid {name : JavaString} (h : matchesRegex name = true) :
    validUsername (getBytes name) = true := by
  rw [getBytes_ascii (matchesRegex_ascii h), validUsername, List.all_map, List.all_eq_true]
  intro c hc
  have hr := List.all_eq_true.mp h c hc
  have hb : (c.setWidth 8).toNat = c.toNat := by
    have hlt := matchesRegex_ascii h c hc
    rw [BitVec.toNat_setWidth]
    omega
  have heq (n : Nat) (hn : n < 128) : c.toNat = n → c.setWidth 8 = BitVec.ofNat 8 n := by
    rintro rfl
    exact BitVec.eq_of_toNat_eq (by rw [hb, BitVec.toNat_ofNat]; omega)
  simp only [regexChar, Bool.or_eq_true, Bool.and_eq_true, decide_eq_true_eq, beq_iff_eq] at hr
  simp only [Function.comp_apply, Bool.not_eq_true', Bool.and_eq_false_iff, Bool.not_eq_false',
    bne_eq_false_iff_eq, isalnum, hb, Bool.or_eq_true, Bool.and_eq_true, decide_eq_true_eq]
  rcases hr with (((((hr | hr) | hr) | hr) | hr) | hr) | hr
  · omega
  · omega
  · omega
  · exact .inl (.inr (heq 46 (by omega) hr))
  · exact .inl (.inl (.inl (.inr (heq 64 (by omega) hr))))
  · exact .inr (heq 95 (by omega) hr)
  · exact .inl (.inl (.inr (heq 45 (by omega) hr)))

theorem writeString {s : JavaString} (hs : IsAscii s) {len : BitVec 32} (hlen : len.toInt = s.length) :
    writeInt len ++ getBytes s = encodeString littleEndianHost (getBytes s) := by
  rw [encodeString, writeInt_eq, getBytes_length hs, ← int_of_length hlen]

inductive Entry : MsgMessage → Prop
  | mk {κ : Type} {now : BitVec 64} {encrypt : Cipher κ} {k k' : κ} {sLen rLen : BitVec 32}
      {sender receiver : JavaString} {text : Option JavaString} {messageLength : BitVec 64}
      {messageNumber totalMessages : BitVec 32} {timestamp : BitVec 64} {m : MsgMessage}
      (hnew : (MsgMessage.new now encrypt sLen (some sender) rLen (some receiver) text messageLength
        messageNumber totalMessages timestamp).run k = .ok m k')
      (hsender : matchesRegex sender = true) (hreceiver : matchesRegex receiver = true) : Entry m

inductive ClientMessage where
  | login (m : LoginMessage)
  | response (m : ResponseMessage)
  | poll (m : PollMessage)
  | pollResponse (m : PollResponseMessage)

namespace ClientMessage

def encode (clock : Nat → BitVec 64) : ClientMessage → Except JavaThrow Bytes
  | login m => m.encode
  | response m => .ok m.encode
  | poll m => .ok m.encode
  | pollResponse m => .ok (m.encode clock)

def entry (time : BitVec 64) (m : MsgMessage) : SPChatMsgMessage where
  sender := getBytes m.senderUsername
  receiver := getBytes m.receiverUsername
  message := m.encrypted
  decryptMsgLen := m.messageLenDecrypted
  msgNum := m.messageNumber
  totalMsg := m.totalMessages
  time := time

def counterpart (clock : Nat → BitVec 64) : ClientMessage → SPChatMessage
  | login m => .login {
      username := getBytes m.username
      keyType := m.keyType
      key := if m.keyType = KeyType.ASYMMETRIC.ordinal then getBytes (m.publicKeyStr.getD []) else []
      encSymKey := if m.keyType = KeyType.SYMMETRIC.ordinal then m.encodedKey.getD [] else [] }
  | response m => .response {
      hash := getBytes m.hash, username := getBytes m.username, nonce := writeLong m.nonce }
  | poll m => .poll { username := getBytes m.username, time := m.timestamp }
  | pollResponse m => .pollResponse {
      username := getBytes m.username
      msgList := m.newMessages.zipIdx.map fun (msg, i) => entry (clock i) msg
      listNum := m.listNumber
      totalList := m.totalLists }

def payloadSize : ClientMessage → Nat
  | login m => 4 + m.username.length + 1 +
      if m.keyType = KeyType.ASYMMETRIC.ordinal then 271
      else if m.keyType = KeyType.SYMMETRIC.ordinal then 128 else 0
  | response m => 4 + m.username.length + 4 + m.hash.length + 8
  | poll m => 4 + m.username.length + 8
  | pollResponse m => 4 + m.username.length + 4 + 4 + 4 +
      (m.newMessages.map MsgMessage.entryLength).sum

end ClientMessage

inductive Sendable : ClientMessage → Prop
  | loginNone {usernameLength : BitVec 32} {name : JavaString} {key : Option Key} {m : LoginMessage}
      (hnew : LoginMessage.new usernameLength (some name) .NONE key = .ok m)
      (hname : matchesRegex name = true) : Sendable (.login m)
  | loginAsymmetric {usernameLength : BitVec 32} {name s : JavaString} {key : Option Key}
      {m : LoginMessage} (hnew : LoginMessage.new usernameLength (some name) .ASYMMETRIC key = .ok m)
      (hname : matchesRegex name = true) (hkey : m.publicKeyStr = some s) (hlen : s.length = 271)
      (hpem : SPChatLogin.pemLayout (getBytes s) = true) : Sendable (.login m)
  | loginSymmetric {usernameLength : BitVec 32} {name : JavaString} {key : Option Key}
      {m : LoginMessage} {encodedKey : Bytes}
      (hnew : LoginMessage.new usernameLength (some name) .SYMMETRIC key = .ok m)
      (hname : matchesRegex name = true) (hlen : encodedKey.length = 128) :
      Sendable (.login (m.setEncodedKey encodedKey))
  | response {usernameLength fLen : BitVec 32} {name hash : JavaString} {nonce : BitVec 64}
      {m : ResponseMessage}
      (hnew : ResponseMessage.new usernameLength (some name) fLen (some hash) nonce = .ok m)
      (hname : matchesRegex name = true) (hhash : IsAscii hash) : Sendable (.response m)
  | poll {now : BitVec 64} {usernameLength : BitVec 32} {name : JavaString} {timestamp : BitVec 64}
      {m : PollMessage} (hnew : PollMessage.new now usernameLength (some name) timestamp = .ok m)
      (hname : matchesRegex name = true) : Sendable (.poll m)
  | pollResponse {usernameLength messageListSize listNumber totalLists : BitVec 32}
      {name : JavaString} {msgs : List MsgMessage} {m : PollResponseMessage}
      (hnew : PollResponseMessage.new usernameLength (some name) messageListSize listNumber totalLists
        (some msgs) = .ok m)
      (hname : matchesRegex name = true) (hmsgs : ∀ msg ∈ msgs, Entry msg)
      (hsize : messageListSize.toInt = msgs.length) : Sendable (.pollResponse m)

structure IsFrame (clock : Nat → BitVec 64) (m : ClientMessage) (bytes : Str) (t : Server.Byte)
    (len : BitVec 64) (payload : Str) : Prop where
  bytes_eq : bytes = frameHeader t len ++ payload
  size : payload.length = m.payloadSize
  short : m.payloadSize < 2 ^ 31 → len = BitVec.ofNat 64 m.payloadSize
  reads : payload.length < 2 ^ 31 → ∀ (h : Host) (g : Garbage), (∀ i, 0 ≤ (g.time i).toInt) →
    payloadConstructor h g t (ofList payload) payload.length =
      some (.ok (m.counterpart clock))
  long : 2 ^ 31 ≤ m.payloadSize →
    2 ^ 31 ≤ len.toInt ∨ len = 0#64 ∧ t = SPChatResponse.SPCHATRESPONSE_TYPE

theorem login_bytes {m : LoginMessage} {keyType : KeyType} {key : Bytes}
    (hbase : m.toBabbleOnMessage = ⟨MessageType.LoginMessage,
      BitVec.ofNat 64 (5 + m.username.length + keyType.getKeyLen.toNat)⟩)
    (hlen : m.usernameLength.toInt = m.username.length) (hname : matchesRegex m.username = true)
    (hkey : m.keyBytes = .ok key) :
    m.encode = .ok (frameHeader SPChatLogin.SPCHATLOGIN_TYPE
      (BitVec.ofNat 64 (5 + m.username.length + keyType.getKeyLen.toNat)) ++
        (encodeString littleEndianHost (getBytes m.username) ++ m.keyType :: key)) := by
  have hstring := writeString (matchesRegex_ascii hname) hlen
  rw [LoginMessage.encode, hkey, hbase, writeHeader_frame, ← hstring]
  simp only [List.append_assoc]
  rfl

theorem login_frame {clock : Nat → BitVec 64} {m : LoginMessage} {keyType : KeyType} {bytes : Str}
    (key : Bytes)
    (hbase : m.toBabbleOnMessage = ⟨MessageType.LoginMessage,
      BitVec.ofNat 64 (5 + m.username.length + keyType.getKeyLen.toNat)⟩)
    (hlen : m.usernameLength.toInt = m.username.length) (hle : m.username.length ≤ MAX_UNAME_LEN)
    (hname : matchesRegex m.username = true) (hkey : m.keyBytes = .ok key)
    (hkeyLen : key.length = keyType.getKeyLen.toNat)
    (hsize : (ClientMessage.login m).payloadSize = 5 + m.username.length + keyType.getKeyLen.toNat)
    (login : SPChatLogin) (hlogin : (ClientMessage.login m).counterpart clock = .login login)
    (hwf : login.WellFormed)
    (hlayout : login.layout littleEndianHost =
      encodeString littleEndianHost (getBytes m.username) ++ m.keyType :: key)
    (henc : m.encode = .ok bytes) :
    ∃ t len payload, IsFrame clock (.login m) bytes t len payload := by
  have hascii := getBytes_length (matchesRegex_ascii hname)
  have hbound : keyType.getKeyLen.toNat ≤ 271 := by cases keyType <;> decide
  unfold MAX_UNAME_LEN at hle
  rw [login_bytes hbase hlen hname hkey] at henc
  cases henc
  refine ⟨_, _, _, ⟨rfl, ?_, fun _ => by rw [hsize], ?_, fun hbig => by omega⟩⟩
  · rw [hsize, List.length_append, encodeString_length, List.length_cons, hascii, hkeyLen]
    omega
  · intro hshort h g _
    rw [hlogin]
    rw [← hlayout] at hshort ⊢
    exact congrArg (fun r => some (Except.map SPChatMessage.login r))
      (SPChatLogin.ofBuffer_layout hwf (spans_ofList _) hshort rfl)

theorem response_frame {clock : Nat → BitVec 64} {usernameLength fLen : BitVec 32}
    {name hash : JavaString} {nonce : BitVec 64} {m : ResponseMessage}
    (hnew : ResponseMessage.new usernameLength (some name) fLen (some hash) nonce = .ok m)
    (hname : matchesRegex name = true) (hhash : IsAscii hash) :
    ∃ t len payload, IsFrame clock (.response m) m.encode t len payload := by
  obtain ⟨name', hash', hn, hh, hl, hle, hf, rfl⟩ := ResponseMessage.new_eq_ok.mp hnew
  cases hn
  cases hh
  have hname' := matchesRegex_ascii hname
  refine ⟨SPChatResponse.SPCHATRESPONSE_TYPE, ResponseMessage.messageLenOf usernameLength fLen,
    SPChatResponse.encodeMiddle littleEndianHost ⟨getBytes hash, getBytes name, writeLong nonce⟩,
    ⟨?_, ?_, fun hshort => ?_, fun hshort h g _ => ?_, fun hbig => .inr ⟨?_, rfl⟩⟩⟩
  · simp only [ResponseMessage.encode, writeHeader_frame, SPChatResponse.encodeMiddle,
      ← writeString hname' hl, ← writeString hhash hf, List.append_assoc]
    rfl
  · rw [SPChatResponse.encodeMiddle_length _ (writeLong_length nonce)]
    simp only [SPChatResponse.getPayloadLength, ClientMessage.payloadSize, getBytes_length hname',
      getBytes_length hhash, INT_SIZE, LONG_SIZE]
  · have hsum : (ClientMessage.response ⟨⟨MessageType.ResponseMessage,
        ResponseMessage.messageLenOf usernameLength fLen⟩, usernameLength, name, fLen, hash,
        nonce⟩).payloadSize = 16 + name.length + hash.length := by
      simp only [ClientMessage.payloadSize]
      omega
    rw [hsum] at hshort ⊢
    exact ResponseMessage.messageLenOf_short hl hle hf hshort
  · exact congrArg (fun r => some (Except.map SPChatMessage.response r))
      (SPChatResponse.ofBuffer_encodeMiddle ⟨name_valid hname, writeLong_length nonce⟩ hshort
        (spans_ofList _))
  · simp only [ClientMessage.payloadSize] at hbig
    exact ResponseMessage.messageLenOf_wrapped hl hle hf (by omega)

theorem poll_frame {clock : Nat → BitVec 64} {now : BitVec 64} {usernameLength : BitVec 32}
    {name : JavaString} {timestamp : BitVec 64} {m : PollMessage}
    (hnew : PollMessage.new now usernameLength (some name) timestamp = .ok m)
    (hname : matchesRegex name = true) :
    ∃ t len payload, IsFrame clock (.poll m) m.encode t len payload := by
  obtain ⟨name', hn, hl, hle, _, _, rfl⟩ := PollMessage.new_eq_ok.mp hnew
  cases hn
  have hname' := matchesRegex_ascii hname
  have hsum : ∀ base, (ClientMessage.poll ⟨base, usernameLength, name, timestamp⟩).payloadSize =
      12 + name.length := by
    intro base
    simp only [ClientMessage.payloadSize]
    omega
  unfold MAX_UNAME_LEN at hle
  refine ⟨SPChatPoll.SPCHATPOLL_TYPE, BitVec.ofNat 64 (12 + name.length),
    SPChatPoll.encodeMiddle littleEndianHost ⟨getBytes name, timestamp⟩,
    ⟨?_, ?_, fun _ => by rw [hsum], fun hshort h g _ => ?_, fun hbig => ?_⟩⟩
  · simp only [PollMessage.encode, writeHeader_frame, SPChatPoll.encodeMiddle,
      ← writeString hname' hl, List.append_assoc]
    rfl
  · rw [SPChatPoll.encodeMiddle_length, hsum]
    simp only [SPChatPoll.getPayloadLength, getBytes_length hname', INT_SIZE, LONG_SIZE]
    omega
  · exact congrArg (fun r => some (Except.map SPChatMessage.poll r))
      (SPChatPoll.ofBuffer_encodeMiddle (m := ⟨getBytes name, timestamp⟩) (name_valid hname) hshort
        (spans_ofList _))
  · rw [hsum] at hbig
    omega

theorem Entry.sized {m : MsgMessage} (hm : Entry m) : m.Sized := by
  cases hm with
  | mk hnew _ _ => exact MsgMessage.new_sized hnew

theorem Entry.encode_eq {m : MsgMessage} (hm : Entry m) (time : BitVec 64) :
    m.encode time = SPChatMsgMessage.encodeMessage littleEndianHost (ClientMessage.entry time m) := by
  cases hm with
  | mk hnew hsender hreceiver =>
    obtain ⟨s, r, text, enc, hs, hr, rfl, ⟨hsl, _⟩, ⟨hrl, _⟩, _, _, _, _, rfl⟩ :=
      MsgMessage.new_eq_ok.mp hnew
    cases hs
    cases hr
    simp only [MsgMessage.encode, SPChatMsgMessage.encodeMessage, ClientMessage.entry,
      ← writeString (matchesRegex_ascii hsender) hsl, ← writeString (matchesRegex_ascii hreceiver) hrl]
    simp only [encodeString, writeInt_eq, writeLong_eq, List.append_assoc]

theorem Entry.wellFormed {m : MsgMessage} (hm : Entry m) {time : BitVec 64} (ht : 0 ≤ time.toInt) :
    (ClientMessage.entry time m).WellFormed := by
  cases hm with
  | mk hnew hsender hreceiver =>
    obtain ⟨s, r, text, enc, hs, hr, rfl, _, _, ⟨hml, hm⟩, _, hn, _, rfl⟩ :=
      MsgMessage.new_eq_ok.mp hnew
    cases hs
    cases hr
    unfold MsgMessage.MAX_MSG_LEN at hm
    refine ⟨name_valid hsender, name_valid hreceiver, ?_, ?_, ht⟩
    · simp only [ClientMessage.entry, SPChatMsgMessage.MAX_MESSAGE_LENGTH]
      omega
    · simp only [ClientMessage.entry]
      omega

theorem Entry.length {m : MsgMessage} (hm : Entry m) (time : BitVec 64) :
    (ClientMessage.entry time m).getPayloadLength = m.entryLength := by
  cases hm with
  | mk hnew hsender hreceiver =>
    obtain ⟨s, r, text, enc, hs, hr, rfl, _, _, _, _, _, _, rfl⟩ := MsgMessage.new_eq_ok.mp hnew
    cases hs
    cases hr
    simp only [SPChatMsgMessage.getPayloadLength, ClientMessage.entry, MsgMessage.entryLength,
      getBytes_length (matchesRegex_ascii hsender), getBytes_length (matchesRegex_ascii hreceiver),
      INT_SIZE, LONG_SIZE]
    omega

theorem entries_encode {msgs : List MsgMessage} (hm : ∀ msg ∈ msgs, Entry msg)
    (clock : Nat → BitVec 64) (i : Nat) :
    ((msgs.zipIdx i).flatMap fun (msg, i) => msg.encode (clock i)) =
      ((msgs.zipIdx i).map fun (msg, i) => ClientMessage.entry (clock i) msg).flatMap
        (SPChatMsgMessage.encodeMessage littleEndianHost) := by
  induction msgs generalizing i with
  | nil => rfl
  | cons msg msgs ih =>
    simp only [List.zipIdx_cons, List.flatMap_cons, List.map_cons]
    rw [(hm msg (by simp)).encode_eq, ih (fun m h => hm m (by simp [h]))]

theorem entries_sum {msgs : List MsgMessage} (hm : ∀ msg ∈ msgs, Entry msg)
    (clock : Nat → BitVec 64) (i : Nat) :
    (((msgs.zipIdx i).map fun (msg, i) => ClientMessage.entry (clock i) msg).map
      SPChatMsgMessage.getPayloadLength).sum = (msgs.map MsgMessage.entryLength).sum := by
  induction msgs generalizing i with
  | nil => rfl
  | cons msg msgs ih =>
    simp only [List.zipIdx_cons, List.map_cons, List.sum_cons]
    rw [(hm msg (by simp)).length, ih (fun m h => hm m (by simp [h]))]

theorem pollResponse_frame {clock : Nat → BitVec 64} (hclock : ∀ i, 0 ≤ (clock i).toInt)
    {usernameLength messageListSize listNumber totalLists : BitVec 32} {name : JavaString}
    {msgs : List MsgMessage} {m : PollResponseMessage}
    (hnew : PollResponseMessage.new usernameLength (some name) messageListSize listNumber totalLists
      (some msgs) = .ok m)
    (hname : matchesRegex name = true) (hmsgs : ∀ msg ∈ msgs, Entry msg)
    (hsize : messageListSize.toInt = msgs.length) :
    ∃ t len payload, IsFrame clock (.pollResponse m) (m.encode clock) t len payload := by
  obtain ⟨name', msgs', base, hn, hms, ⟨hl, hle⟩, hsz, hnum, _, hbase, rfl⟩ :=
    PollResponseMessage.new_eq_ok.mp hnew
  cases hn
  cases hms
  have hmany : msgs.length < 2 ^ 31 := by
    have hlt : messageListSize.toInt < 2 ^ 31 := BitVec.toInt_lt
    omega
  have hsized : ∀ msg ∈ msgs, msg.Sized := fun msg h => (hmsgs msg h).sized
  rw [PollResponseMessage.base_length hl hle hsized hmany] at hbase
  cases hbase
  have hname' := matchesRegex_ascii hname
  have hsum : ∀ base, (ClientMessage.pollResponse ⟨base, usernameLength, name, messageListSize,
      listNumber, totalLists, msgs⟩).payloadSize =
        16 + name.length + (msgs.map MsgMessage.entryLength).sum := by
    intro base
    simp only [ClientMessage.payloadSize]
    omega
  have hbound := MsgMessage.sum_bound hsized
  unfold MAX_UNAME_LEN at hle
  refine ⟨SPChatPollResponse.SPCHATPOLLRESPONSE_TYPE,
    BitVec.ofNat 64 (16 + name.length + (msgs.map MsgMessage.entryLength).sum),
    SPChatPollResponse.encodeMiddle littleEndianHost ⟨getBytes name,
      msgs.zipIdx.map fun (msg, i) => ClientMessage.entry (clock i) msg, listNumber, totalLists⟩,
    ⟨?_, ?_, fun _ => by rw [hsum], fun hshort h g hg => ?_, fun hbig => .inl ?_⟩⟩
  · simp only [PollResponseMessage.encode, writeHeader_frame, SPChatPollResponse.encodeMiddle,
      SPChatPollResponse.encodeMsgList, ← writeString hname' hl, entries_encode hmsgs,
      List.length_map, List.length_zipIdx, ← int_of_length hsize, List.append_assoc]
    rfl
  · rw [SPChatPollResponse.encodeMiddle_length, hsum]
    simp only [SPChatPollResponse.getPayloadLength, getBytes_length hname', entries_sum hmsgs,
      INT_SIZE]
    omega
  · refine congrArg (fun r => some (Except.map SPChatMessage.pollResponse r))
      (SPChatPollResponse.ofBuffer_encodeMiddle (fun i _ => hg i)
        ⟨name_valid hname, ?_, ?_, ?_⟩ hshort
        (spans_ofList _))
    · dsimp only
      omega
    · dsimp only
      omega
    · intro msg hmsg
      obtain ⟨⟨entry, i⟩, hentry, rfl⟩ := List.mem_map.mp hmsg
      exact (hmsgs entry (List.fst_mem_of_mem_zipIdx hentry)).wellFormed (hclock i)
  · rw [hsum] at hbig
    rw [toInt_ofNat_long (by omega)]
    omega

def DecodesTo (h : Host) (bytes : Str) (m : SPChatMessage) : Prop :=
  ∀ g : Garbage, (∀ i, 0 ≤ (g.time i).toInt) → ∀ rest answers, none ∉ answers →
    ∃ p, p.sock.Live ∧ p.sock.pending = rest ∧
      (SPChatMessage.decode h g).run ⟨⟨bytes ++ rest, answers⟩, []⟩ = .ok m p

theorem decodesTo_frame {h : Host} {t : Server.Byte} {payload : Str} {m : SPChatMessage}
    (hlen : payload.length < 2 ^ 31)
    (hm : ∀ g : Garbage, (∀ i, 0 ≤ (g.time i).toInt) →
      payloadConstructor h g t (ofList payload) payload.length = some (.ok m)) :
    DecodesTo h (frameHeader t (BitVec.ofNat 64 payload.length) ++ payload) m := by
  intro g hg rest answers hlive
  have hstream : frameHeader t (BitVec.ofNat 64 payload.length) ++ payload ++ rest =
      frameHeader t (BitVec.ofNat 64 payload.length) ++ (payload ++ rest) := List.append_assoc _ _ _
  obtain ⟨p, hlive', hrest, hrun⟩ := decode_frame h g
    (p := ⟨⟨frameHeader t (BitVec.ofNat 64 payload.length) ++ payload ++ rest, answers⟩, []⟩)
    hlive hstream hlen (hm g hg)
  exact ⟨p, hlive', hrest, hrun⟩

theorem sendable_frame {clock : Nat → BitVec 64} (hclock : ∀ i, 0 ≤ (clock i).toInt)
    {m : ClientMessage} (hm : Sendable m) {bytes : Bytes} (henc : m.encode clock = .ok bytes) :
    ∃ t len payload, IsFrame clock m bytes t len payload := by
  cases hm with
  | @loginNone _ _ _ m hnew hname =>
    obtain ⟨name, hn, hl, hle, hbase, hul, rfl, hkt, _⟩ := LoginMessage.new_inv hnew
    cases hn
    refine login_frame [] hbase (hul ▸ hl) hle hname ?_ rfl ?_
      ⟨getBytes m.username, SPChatLogin.NO_KEY, [], []⟩ ?_ (.noKey (name_valid hname)) ?_ henc
    · simp [LoginMessage.keyBytes, hkt, KeyType.ordinal]
      rfl
    · simp [ClientMessage.payloadSize, hkt, KeyType.ordinal, KeyType.getKeyLen]
      omega
    · simp [ClientMessage.counterpart, hkt, KeyType.ordinal, SPChatLogin.NO_KEY]
    · rw [hkt]
      rfl
  | @loginAsymmetric _ _ s _ m hnew hname hkey hlen hpem =>
    obtain ⟨name, hn, hl, hle, hbase, hul, rfl, hkt, hascii⟩ := LoginMessage.new_inv hnew
    cases hn
    have hbytes : (getBytes s).length = 271 := by rw [getBytes_length (hascii s hkey), hlen]
    refine login_frame (getBytes s) hbase (hul ▸ hl) hle hname ?_ hbytes ?_
      ⟨getBytes m.username, SPChatLogin.ASYMMETRIC_KEY, getBytes s, []⟩ ?_
      (.asymmetric (name_valid hname) hbytes hpem) ?_ henc
    · simp [LoginMessage.keyBytes, hkt, hkey]
      rfl
    · simp [ClientMessage.payloadSize, hkt, KeyType.getKeyLen]
      omega
    · simp [ClientMessage.counterpart, hkt, hkey, KeyType.ordinal, SPChatLogin.ASYMMETRIC_KEY]
    · rw [hkt, SPChatLogin.layout, List.append_nil]
      rfl
  | @loginSymmetric _ _ _ m encodedKey hnew hname hlen =>
    obtain ⟨name, hn, hl, hle, hbase, hul, rfl, hkt, _⟩ := LoginMessage.new_inv hnew
    cases hn
    refine login_frame (m := m.setEncodedKey encodedKey) encodedKey
      hbase (hul ▸ hl) hle hname ?_ hlen ?_
      ⟨getBytes m.username, SPChatLogin.ENCRYPTED_SYM_KEY, [], encodedKey⟩ ?_
      (.symmetric (name_valid hname) hlen) ?_ henc
    · simp [LoginMessage.keyBytes, LoginMessage.setEncodedKey, hkt, KeyType.ordinal]
      rfl
    · simp [ClientMessage.payloadSize, LoginMessage.setEncodedKey, hkt, KeyType.ordinal,
        KeyType.getKeyLen]
      omega
    · simp [ClientMessage.counterpart, LoginMessage.setEncodedKey, hkt, KeyType.ordinal,
        SPChatLogin.ENCRYPTED_SYM_KEY]
    · rw [SPChatLogin.layout, List.nil_append, LoginMessage.setEncodedKey, hkt]
      rfl
  | response hnew hname hhash =>
    cases henc
    exact response_frame hnew hname hhash
  | poll hnew hname =>
    cases henc
    exact poll_frame hnew hname
  | pollResponse hnew hname hmsgs hsize =>
    cases henc
    exact pollResponse_frame hclock hnew hname hmsgs hsize

theorem frame_decodes (h : Host) {clock : Nat → BitVec 64} {m : ClientMessage} {bytes : Str} {t : Server.Byte}
    {len : BitVec 64} {payload : Str} (hf : IsFrame clock m bytes t len payload)
    (hshort : m.payloadSize < 2 ^ 31) : DecodesTo h bytes (m.counterpart clock) := by
  have hlen : payload.length < 2 ^ 31 := by rw [hf.size]; exact hshort
  rw [hf.bytes_eq, hf.short hshort, ← hf.size]
  exact decodesTo_frame hlen (hf.reads hlen h)

theorem long_frame_refused (h : Host) {clock : Nat → BitVec 64} {m : ClientMessage} {bytes : Str}
    {t : Server.Byte} {len : BitVec 64} {payload : Str} (hf : IsFrame clock m bytes t len payload)
    (hlong : 2 ^ 31 ≤ m.payloadSize) (m' : SPChatMessage) : ¬ DecodesTo h bytes m' := by
  intro hdec
  obtain ⟨p, _, _, hrun⟩ := hdec ⟨fun _ => 0#8, fun _ => 0#64⟩ (by simp) [] [] (by simp)
  rw [List.append_nil, hf.bytes_eq] at hrun
  rcases hf.long hlong with hbig | ⟨hzero, htype⟩
  · exact decode_oversized h ⟨fun _ => 0#8, fun _ => 0#64⟩
      (p := ⟨⟨frameHeader t len ++ payload, []⟩, []⟩) rfl (.inr hbig) p m' hrun
  · subst hzero htype
    have hempty : frameHeader SPChatResponse.SPCHATRESPONSE_TYPE 0#64 ++ payload =
        frameHeader SPChatResponse.SPCHATRESPONSE_TYPE (BitVec.ofNat 64 ([] : Str).length) ++
          ([] ++ payload) := rfl
    exact decode_rejects h ⟨fun _ => 0#8, fun _ => 0#64⟩
      (p := ⟨⟨frameHeader SPChatResponse.SPCHATRESPONSE_TYPE 0#64 ++ payload, []⟩, []⟩)
      (by simp [Stream.Live]) hempty (by decide) rfl p m' hrun

theorem client_frame_decodes_iff {clock : Nat → BitVec 64} (hclock : ∀ i, 0 ≤ (clock i).toInt)
    {m : ClientMessage} (hm : Sendable m) {bytes : Bytes} (henc : m.encode clock = .ok bytes) :
    DecodesTo littleEndianHost bytes (m.counterpart clock) ↔ m.payloadSize < 2 ^ 31 := by
  obtain ⟨t, len, payload, hf⟩ := sendable_frame hclock hm henc
  constructor
  · intro hdec
    by_contra hlong
    exact long_frame_refused littleEndianHost hf (Nat.not_lt.mp hlong) _ hdec
  · exact frame_decodes littleEndianHost hf

def bobPolls : PollMessage := ⟨⟨MessageType.PollMessage, 15#64⟩, 3#32, java "bob", 1000#64⟩

theorem bob_polls :
    DecodesTo littleEndianHost bobPolls.encode ((ClientMessage.poll bobPolls).counterpart fun _ => 5000#64) := by
  have hnew : PollMessage.new 5000#64 3#32 (some (java "bob")) 1000#64 = .ok bobPolls :=
    PollMessage.new_eq_ok.mpr ⟨java "bob", rfl, by decide, by decide, by decide, by decide, rfl⟩
  exact (client_frame_decodes_iff (by simp) (.poll hnew (by decide)) rfl).mpr (by decide)

def repeated (u n : Nat) : ResponseMessage where
  messageType := MessageType.ResponseMessage
  messageLen := 0#64
  usernameLength := BitVec.ofNat 32 u
  username := List.replicate u 97#16
  hashLen := BitVec.ofNat 32 n
  hash := List.replicate n 97#16
  nonce := 0#64

theorem repeated_sendable {u n : Nat} (hu : u ≤ 64) (hn : n < 2 ^ 31) (hwrap : 2 ^ 31 ≤ 16 + u + n) :
    Sendable (.response (repeated u n)) := by
  have hname : (BitVec.ofNat 32 u).toInt = (List.replicate u 97#16).length := by
    rw [List.length_replicate, toInt_ofNat_small (by omega)]
  have hhash : (BitVec.ofNat 32 n).toInt = (List.replicate n 97#16).length := by
    rw [List.length_replicate, toInt_ofNat_small hn]
  have hle : (List.replicate u 97#16).length ≤ MAX_UNAME_LEN := by
    rw [List.length_replicate]
    exact hu
  have hnew : ResponseMessage.new (BitVec.ofNat 32 u) (some (List.replicate u 97#16))
      (BitVec.ofNat 32 n) (some (List.replicate n 97#16)) 0#64 = .ok (repeated u n) := by
    refine ResponseMessage.new_eq_ok.mpr ⟨_, _, rfl, rfl, hname, hle, hhash, ?_⟩
    rw [ResponseMessage.messageLenOf_wrapped hname hle hhash
      (by rw [List.length_replicate, List.length_replicate]; exact hwrap)]
    rfl
  refine .response hnew ?_ ?_
  · rw [matchesRegex, List.all_eq_true]
    intro c hc
    rw [List.eq_of_mem_replicate hc]
    rfl
  · intro c hc
    rw [List.eq_of_mem_replicate hc]
    decide

theorem repeated_refused {u n : Nat} (hu : u ≤ 64) (hn : n < 2 ^ 31) (hwrap : 2 ^ 31 ≤ 16 + u + n) :
    ¬ DecodesTo littleEndianHost (repeated u n).encode
      ((ClientMessage.response (repeated u n)).counterpart fun _ => 0#64) := by
  have hclock : ∀ i, 0 ≤ ((fun _ : Nat => 0#64) i).toInt := fun _ => Int.le_refl 0
  obtain ⟨t, len, payload, hf⟩ := sendable_frame hclock (repeated_sendable hu hn hwrap) rfl
  refine long_frame_refused littleEndianHost hf ?_ _
  simp only [ClientMessage.payloadSize, repeated, List.length_replicate]
  omega

theorem long_response_refused :
    ∃ m : ResponseMessage, m.username.length = 64 ∧ m.hash.length = 2 ^ 31 - 80 ∧
      Sendable (.response m) ∧
      ¬ DecodesTo littleEndianHost m.encode ((ClientMessage.response m).counterpart fun _ => 0#64) :=
  ⟨repeated 64 (2 ^ 31 - 80), List.length_replicate, List.length_replicate,
    repeated_sendable (by omega) (by omega) (by omega),
    repeated_refused (by omega) (by omega) (by omega)⟩

end Agreement
