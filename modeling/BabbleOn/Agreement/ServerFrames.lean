import BabbleOn.Agreement.ClientFrames
import BabbleOn.Client.ReaderThread
import BabbleOn.Server.SPChatStream

namespace Agreement
open Execution PartialMemory Client Server SignedWords

variable {κ : Type}

def SameText (s : JavaString) (b : Str) : Prop := s.map BitVec.toNat = b.map BitVec.toNat

theorem sameText_newString {b : Str} (h : ∀ x ∈ b, x.toNat < 128) : SameText (newString b) b := by
  rw [SameText, newString, List.map_map]
  apply List.map_congr_left
  intro x hx
  have hlt := h x hx
  rw [Function.comp_apply, if_pos hlt, BitVec.toNat_setWidth]
  omega

theorem validUsername_ascii {name : Str} (h : validUsername name = true) :
    ∀ x ∈ name, x.toNat < 128 := by
  intro x hx
  have hc := List.all_eq_true.mp h x hx
  simp only [Bool.not_eq_true', Bool.and_eq_false_iff, Bool.not_eq_false', bne_eq_false_iff_eq,
    isalnum, Bool.or_eq_true, Bool.and_eq_true, decide_eq_true_eq] at hc
  rcases hc with (((hc | rfl) | rfl) | rfl) | rfl
  · omega
  all_goals decide

inductive ServerFrame where
  | challenge (bytes : Str)
  | ack (error : ErrorType) (sender : SenderType)
  | login (key : Str)
  | pollResponse (sender receiver text : Str) (time : BitVec 64)

namespace ServerFrame

-- the arguments of the constructors are the ones `clientConnectStart` gives
def build (aesEncrypt : Str → Str) (garbage : BitVec 64) : ServerFrame → Except Fault SPChatMessage
  | challenge bytes => do
    let m ← SPChatChallenge.new bytes
    pure (.challenge m)
  | ack error sender => do
    let m ← SPChatACK.new error sender
    pure (.ack m)
  | login key => do
    let m ← SPChatLogin.new [] SPChatLogin.ASYMMETRIC_KEY key
      (BitVec.ofNat 32 SPChatLogin.ASYMMETRIC_LENGTH)
    pure (.login m)
  | pollResponse sender receiver text time => do
    let msg ← SPChatMsgMessage.new garbage sender receiver (aesEncrypt text)
      (BitVec.ofNat 64 text.length) 1#32 1#32 time
    let m ← SPChatPollResponse.new sender [msg] 1#32 1#32
    pure (.pollResponse m)

inductive Admissible (now : BitVec 64) : ServerFrame → Prop
  | challenge {bytes : Str} (hl : bytes.length = 8) : Admissible now (.challenge bytes)
  | ack (error : ErrorType) (sender : SenderType) : Admissible now (.ack error sender)
  | login {key : Str} {m m' : SPChatLogin} (hl : key.length = SPChatLogin.ASYMMETRIC_LENGTH)
      (hascii : ∀ x ∈ key, x.toNat < 128)
      (haccepted : (SPChatLogin.setAsymmetricKey key).run m = .ok () m') : Admissible now (.login key)
  | pollResponse {sender receiver text : Str} {time : BitVec 64}
      (hsender : validUsername sender = true) (hsenderLen : sender.length ≤ 64)
      (hreceiver : validUsername receiver = true) (hreceiverLen : receiver.length ≤ 64)
      (htext : text.length ≤ 500) (hascii : ∀ x ∈ text, x.toNat < 128)
      (htime : 0 ≤ time.toInt) (hnow : time.toInt ≤ now.toInt) :
      Admissible now (.pollResponse sender receiver text time)

-- what lies outside both programs: the decoder of PEM keys and the two AES libraries
def External (decodeKey : JavaString → Except JavaThrow Key) (c : Cipher κ) (k : κ)
    (aesEncrypt : Str → Str) : ServerFrame → Prop
  | login key => ∃ publicKey, decodeKey (newString key) = .ok publicKey
  | pollResponse _ _ text _ => MsgMessage.Decrypts c k (aesEncrypt text) text
  | _ => True

def enumerator : ErrorType → String
  | .SUCCESS => "SUCCESS"
  | .INVALID_MSG_TYPE => "INVALID_MSG_TYPE"
  | .INVALID_USERNAME_PASSWORD => "INVALID_USERNAME_PASSWORD"
  | .FORMATTING_ERROR => "FORMATTING_ERROR"
  | .DEFAULT_ERROR => "DEFAULT_ERROR"
  | .PASSWORD_AUTH => "PASSWORD_AUTH"

structure SameEntry (sender receiver text : Str) (time : BitVec 64) (m : MsgMessage) : Prop where
  senderUsername : SameText m.senderUsername sender
  receiverUsername : SameText m.receiverUsername receiver
  message : SameText m.message text
  messageLenDecrypted : m.messageLenDecrypted.toInt = text.length
  messageNumber : m.messageNumber = 1#32 ∧ m.totalMessages = 1#32
  timestamp : m.timestamp = time

def Recovered : ServerFrame → Incoming → Prop
  | challenge bytes, .challenge j => j.challenge = bytes
  | ack error sender, .ack j => j.error = enumerator error ∧ j.sender.toNat = sender.code
  | login key, .login j => j.username = [] ∧ j.keyType = KeyType.ASYMMETRIC.ordinal ∧
      ∃ s, j.publicKeyStr = some s ∧ SameText s key
  | pollResponse sender receiver text time, .pollResponse j => SameText j.username sender ∧
      ∃ m, j.newMessages = [m] ∧ SameEntry sender receiver text time m
  | _, _ => False

def isPollResponse : ServerFrame → Bool
  | pollResponse _ _ _ _ => true
  | _ => false

def ReadFrom (h : Host) (now : BitVec 64) (decodeKey : JavaString → Except JavaThrow Key)
    (c : Cipher κ) (k : κ) (m : SPChatMessage) (f : ServerFrame) : Prop :=
  ∀ rest, ∃ j k', (receive now decodeKey c).run ⟨m.encode h ++ rest, k⟩ =
    .ok (some j) ⟨rest, k'⟩ ∧ f.Recovered j

end ServerFrame

theorem encodeLong_read (h : Host) (n : BitVec 64) :
    encodeLong h n = writeLong (BigEndian.decode 64 8 fun i => (encodeLong h n).getD i 0#8) :=
  (BigEndian.encode_decode (show 64 = 8 * 8 from rfl) _ (encodeLong_length h n)).symm

theorem receive_header {h : Host} {m : SPChatMessage} {len : BitVec 64}
    (hlen : encodeLong h (BitVec.ofNat 64 m.getPayloadLength) = writeLong len) (rest : Bytes) (k : κ) :
    (fromInput BabbleOnMessage.ofStream).run ⟨m.encode h ++ rest, k⟩ =
      if 0 > len.toInt then
        .error (BabbleOnMessage.wrapped "Message length cannot be negative")
          ⟨m.encodeMiddle h ++ rest, k⟩
      else .ok ⟨m.getType, len⟩ ⟨m.encodeMiddle h ++ rest, k⟩ := by
  have hrun := BabbleOnMessage.ofStream_length m.getType len (m.encodeMiddle h ++ rest)
  rw [header_bytes, ← hlen, ← List.append_assoc] at hrun
  split
  · rename_i hneg
    rw [if_pos hneg] at hrun
    exact fromInput_error hrun k
  · rename_i hpos
    rw [if_neg hpos] at hrun
    exact fromInput_ok hrun k

theorem short_length (h : Host) {n : Nat} (hn : n = 1 ∨ n = 8 ∨ n = 276) :
    0 ≤ (BigEndian.decode 64 8 fun i => (encodeLong h (BitVec.ofNat 64 n)).getD i 0#8).toInt := by
  obtain ⟨_ | _⟩ := h <;> rcases hn with rfl | rfl | rfl <;> decide

theorem receive_short {h : Host} {m : SPChatMessage}
    (hn : m.getPayloadLength = 1 ∨ m.getPayloadLength = 8 ∨ m.getPayloadLength = 276)
    (rest : Bytes) (k : κ) : ∃ len, (fromInput BabbleOnMessage.ofStream).run ⟨m.encode h ++ rest, k⟩ =
      .ok ⟨m.getType, len⟩ ⟨m.encodeMiddle h ++ rest, k⟩ := by
  have hrun := receive_header (encodeLong_read h (BitVec.ofNat 64 m.getPayloadLength)) rest k
  rw [if_neg (Int.not_lt.mpr (short_length h hn))] at hrun
  exact ⟨_, hrun⟩

section Received

variable {h : Host} {now : BitVec 64} {decodeKey : JavaString → Except JavaThrow Key} {c : Cipher κ}
  {k : κ} {aesEncrypt : Str → Str} {garbage : BitVec 64} {m : SPChatMessage}

theorem challenge_received {bytes : Str} (hl : bytes.length = 8)
    (hsent : (ServerFrame.challenge bytes).build aesEncrypt garbage = .ok m) :
    (ServerFrame.challenge bytes).ReadFrom h now decodeKey c k m := by
  rw [ServerFrame.build, SPChatChallenge.new_ok hl] at hsent
  cases hsent
  intro rest
  obtain ⟨len, hhead⟩ := receive_short (h := h) (m := .challenge ⟨bytes⟩) (.inr (.inl rfl)) rest k
  have hread := ChallengeMessage.ofStream_bytes hl rest
  exact ⟨_, k, receive_challenge hhead (fromInput_ok hread k), rfl⟩

theorem ack_received {error : ErrorType} {sender : SenderType}
    (hsent : (ServerFrame.ack error sender).build aesEncrypt garbage = .ok m) :
    (ServerFrame.ack error sender).ReadFrom h now decodeKey c k m := by
  rw [ServerFrame.build, SPChatACK.new_ok] at hsent
  cases hsent
  intro rest
  obtain ⟨len, hhead⟩ := receive_short (h := h) (m := .ack ⟨sender, error⟩) (.inl rfl) rest k
  have hread := ACKMessage.ofStream_byte (BitVec.ofNat 8 (error.code <<< 1 ||| sender.code)) rest
  refine ⟨_, k, receive_ack hhead (fromInput_ok hread k), ?_⟩
  cases error <;> cases sender <;> exact ⟨rfl, rfl⟩

theorem login_new {key : Str} (hl : key.length = SPChatLogin.ASYMMETRIC_LENGTH)
    (hpem : SPChatLogin.pemLayout key = true) :
    SPChatLogin.new [] SPChatLogin.ASYMMETRIC_KEY key
        (BitVec.ofNat 32 SPChatLogin.ASYMMETRIC_LENGTH) =
      .ok ⟨[], SPChatLogin.ASYMMETRIC_KEY, key, []⟩ := by
  have hkey (m : SPChatLogin) : (SPChatLogin.keyBytes key
      (BitVec.ofNat 32 SPChatLogin.ASYMMETRIC_LENGTH)).run m = .ok key m := by
    have hslice := slice_spans Fault.outOfBounds (spans_ofList key) m
    rwa [hl] at hslice
  apply construct_eq_ok.mpr
  rw [bind_ok (SPChatLogin.setUsername_ok rfl _), bind_ok (hkey _), SPChatLogin.setKey,
    bind_ok (run_modify _ _), if_neg (by decide), if_pos (by decide), bind_ok (hkey _),
    bind_ok (SPChatLogin.setAsymmetricKey_ok hpem _), run_modify]

theorem login_middle (h : Host) (key : Str) :
    SPChatLogin.encodeMiddle h ⟨[], SPChatLogin.ASYMMETRIC_KEY, key, []⟩ =
      writeInt (BitVec.ofNat 32 0) ++ ([] ++ KeyType.ASYMMETRIC.ordinal :: key) := by
  have hzero : encodeInt h (BitVec.ofNat 32 0) = writeInt (BitVec.ofNat 32 0) := by
    obtain ⟨_ | _⟩ := h <;> decide
  rw [SPChatLogin.encodeMiddle, encodeString, if_pos (.inl rfl), List.append_assoc]
  exact congrArg (· ++ _) hzero

theorem login_received {key : Str} {l l' : SPChatLogin} {publicKey : Key}
    (hl : key.length = SPChatLogin.ASYMMETRIC_LENGTH) (hascii : ∀ x ∈ key, x.toNat < 128)
    (haccepted : (SPChatLogin.setAsymmetricKey key).run l = .ok () l')
    (hdecode : decodeKey (newString key) = .ok publicKey)
    (hsent : (ServerFrame.login key).build aesEncrypt garbage = .ok m) :
    (ServerFrame.login key).ReadFrom h now decodeKey c k m := by
  rw [ServerFrame.build, login_new hl (SPChatLogin.setAsymmetricKey_eq_ok haccepted).1] at hsent
  cases hsent
  intro rest
  obtain ⟨len, hhead⟩ := receive_short (h := h)
    (m := .login ⟨[], SPChatLogin.ASYMMETRIC_KEY, key, []⟩) (.inr (.inr rfl)) rest k
  have hnone : ([] : Bytes).length ≤ MAX_UNAME_LEN := Nat.zero_le _
  have hread := LoginMessage.ofStream_asymmetric hnone hl hdecode rest
  rw [SPChatMessage.encodeMiddle, login_middle, List.append_assoc, List.append_assoc,
    List.cons_append] at hhead
  exact ⟨_, k, receive_login hhead (fromInput_ok hread k), rfl, rfl, newString key, rfl,
    sameText_newString hascii⟩

def pollFrame (aesEncrypt : Str → Str) (sender receiver text : Str) (time : BitVec 64) :
    SPChatPollResponse where
  username := sender
  msgList := [⟨sender, receiver, aesEncrypt text, BitVec.ofNat 64 text.length, 1#32, 1#32, time⟩]
  listNum := 1#32
  totalList := 1#32

theorem pollResponse_build {sender receiver text : Str} {time : BitVec 64}
    (hsent : (ServerFrame.pollResponse sender receiver text time).build aesEncrypt garbage = .ok m) :
    m = .pollResponse (pollFrame aesEncrypt sender receiver text time) := by
  rw [ServerFrame.build] at hsent
  cases hmsg : SPChatMsgMessage.new garbage sender receiver (aesEncrypt text)
      (BitVec.ofNat 64 text.length) 1#32 1#32 time with
  | error e =>
    rw [hmsg] at hsent
    cases hsent
  | ok msg =>
    obtain ⟨_, rfl, _⟩ := SPChatMsgMessage.new_eq_ok.mp hmsg
    simp only [hmsg, bind, Except.bind] at hsent
    split at hsent
    · cases hsent
    · rename_i hnew
      obtain ⟨_, rfl⟩ := SPChatPollResponse.new_eq_ok.mp hnew
      cases hsent
      rfl

theorem pollFrame_middle (aesEncrypt : Str → Str) (sender receiver text : Str) (time : BitVec 64)
    (rest : Str) :
    (pollFrame aesEncrypt sender receiver text time).encodeMiddle littleEndianHost ++ rest =
      writeInt (BitVec.ofNat 32 sender.length) ++ (sender ++ (writeInt 1#32 ++ (writeInt 1#32 ++
        (writeInt 1#32 ++ (writeInt (BitVec.ofNat 32 sender.length) ++ (sender ++
        (writeInt (BitVec.ofNat 32 receiver.length) ++ (receiver ++
        (writeInt (BitVec.ofNat 32 (aesEncrypt text).length) ++ (aesEncrypt text ++
        (writeLong (BitVec.ofNat 64 text.length) ++ (writeInt 1#32 ++ (writeInt 1#32 ++
        (writeLong time ++ rest)))))))))))))) := by
  simp only [pollFrame, SPChatPollResponse.encodeMiddle, SPChatPollResponse.encodeMsgList,
    SPChatMsgMessage.encodeMessage, encodeString, ← writeInt_eq, ← writeLong_eq,
    List.flatMap_cons, List.flatMap_nil, List.append_nil, List.append_assoc, List.length_singleton]

theorem pollResponse_received {sender receiver text : Str} {time : BitVec 64}
    (hsender : validUsername sender = true) (hsenderLen : sender.length ≤ 64)
    (hreceiver : validUsername receiver = true) (hreceiverLen : receiver.length ≤ 64)
    (htext : text.length ≤ 500) (hascii : ∀ x ∈ text, x.toNat < 128) (htime : 0 ≤ time.toInt)
    (hnow : time.toInt ≤ now.toInt) (hdec : MsgMessage.Decrypts c k (aesEncrypt text) text) :
    (ServerFrame.pollResponse sender receiver text time).ReadFrom littleEndianHost now decodeKey c k
      (.pollResponse (pollFrame aesEncrypt sender receiver text time)) := by
  intro rest
  have hn : (pollFrame aesEncrypt sender receiver text time).getPayloadLength < 2 ^ 31 := by
    have hpadded := hdec.padded
    simp [pollFrame, SPChatPollResponse.getPayloadLength, SPChatMsgMessage.getPayloadLength,
      INT_SIZE, LONG_SIZE]
    omega
  have hhead := receive_header (m := .pollResponse (pollFrame aesEncrypt sender receiver text time))
    (writeLong_eq _).symm rest k
  rw [SPChatMessage.getPayloadLength, toInt_ofNat_long (by omega), if_neg (by omega),
    SPChatMessage.encodeMiddle, pollFrame_middle] at hhead
  obtain ⟨k', hentry⟩ := MsgMessage.ofStream_entry hsenderLen hreceiverLen hdec
    (by unfold MsgMessage.MAX_MSG_LEN MsgMessage.MAX_MSGS; omega) (show 0 < (1#32).toInt by decide)
    (Int.le_refl _) htime hnow rest
  have hread := PollResponseMessage.ofStream_single hsenderLen hentry
  have hname := sameText_newString (validUsername_ascii hsender)
  refine ⟨_, k', (receive_pollResponse hhead).trans (bind_ok hread), hname, _, rfl, ?_⟩
  exact ⟨hname, sameText_newString (validUsername_ascii hreceiver), sameText_newString hascii,
    toInt_ofNat_long (by omega), ⟨rfl, rfl⟩, rfl⟩

end Received

def bigEndianHost : Host := ⟨false⟩

theorem encodeInt_swapped {n : Nat} (hn : n < 65) :
    encodeInt bigEndianHost (BitVec.ofNat 32 n) = writeInt (BitVec.ofNat 32 (n * 2 ^ 24)) := by
  revert n
  decide

theorem swapped_large {n : Nat} (h0 : 0 < n) (hn : n < 65) :
    (MAX_UNAME_LEN : Int) < (BitVec.ofNat 32 (n * 2 ^ 24)).toInt ∧
      (PollResponseMessage.MAX_LISTS : Int) < (BitVec.ofNat 32 (n * 2 ^ 24)).toInt := by
  rw [toInt_ofNat_small (by omega), MAX_UNAME_LEN, PollResponseMessage.MAX_LISTS]
  omega

theorem ofStream_swapped {now : BitVec 64} {c : Cipher κ} {k : κ} {sender : Str}
    (hsender : sender.length ≤ 64) (tail : Bytes) :
    ∃ r, (PollResponseMessage.ofStream now (some c)).run ⟨encodeString bigEndianHost sender ++
        (encodeInt bigEndianHost 1#32 ++ tail), k⟩ = .error (.babble "Integer invalid") r := by
  rw [encodeString, encodeInt_swapped (by omega), List.append_assoc]
  have hone : encodeInt bigEndianHost 1#32 = writeInt (BitVec.ofNat 32 (1 * 2 ^ 24)) :=
    encodeInt_swapped (by omega)
  unfold PollResponseMessage.ofStream
  rcases Nat.eq_zero_or_pos sender.length with hempty | hpos
  · obtain rfl := List.length_eq_zero_iff.mp hempty
    have hlen (tail : Bytes) : (BabbleOnMessage.readInt MAX_UNAME_LEN).run (writeInt 0#32 ++ tail) =
        .ok 0#32 tail := BabbleOnMessage.readInt_append (by decide) (by decide) tail
    have hname (tail : Bytes) : (BabbleOnMessage.readStr 0#32).run ([] ++ tail) = .ok [] tail :=
      BabbleOnMessage.readStr_append (b := []) (by decide) tail
    rw [hone, List.length_nil, Nat.zero_mul, bind_ok (fromInput_ok (hlen _) k),
      bind_ok (fromInput_ok (hname _) k), if_neg (by decide),
      bind_error (fromInput_error (BabbleOnMessage.readInt_large
        (swapped_large (by omega) (by omega)).2 _) k)]
    exact ⟨_, rfl⟩
  · rw [bind_error (fromInput_error (BabbleOnMessage.readInt_large
      (swapped_large hpos (by omega)).1 _) k)]
    exact ⟨_, rfl⟩

theorem pollResponse_refused {now : BitVec 64} {decodeKey : JavaString → Except JavaThrow Key}
    {c : Cipher κ} {k : κ} {aesEncrypt : Str → Str} {sender receiver text : Str} {time : BitVec 64}
    (hsenderLen : sender.length ≤ 64) :
    ¬ (ServerFrame.pollResponse sender receiver text time).ReadFrom bigEndianHost now decodeKey c k
      (.pollResponse (pollFrame aesEncrypt sender receiver text time)) := by
  intro hread
  obtain ⟨j, k', hrun, _⟩ := hread []
  have hhead := receive_header (m := .pollResponse (pollFrame aesEncrypt sender receiver text time))
    (encodeLong_read bigEndianHost _) [] k
  split at hhead
  · rw [receive_broken hhead] at hrun
    cases hrun
  · rw [receive_pollResponse hhead, SPChatMessage.encodeMiddle, SPChatPollResponse.encodeMiddle,
      List.append_assoc, List.append_assoc, List.append_assoc] at hrun
    obtain ⟨_, _, hpoll, _⟩ := bind_eq_ok.mp hrun
    obtain ⟨r, hbad⟩ := ofStream_swapped hsenderLen _
    cases hbad.symm.trans hpoll

theorem server_frame_read_iff {now : BitVec 64} {f : ServerFrame} (hf : f.Admissible now)
    {decodeKey : JavaString → Except JavaThrow Key} {c : Cipher κ} {k : κ} {aesEncrypt : Str → Str}
    (hext : f.External decodeKey c k aesEncrypt) {garbage : BitVec 64} {m : SPChatMessage}
    (hsent : f.build aesEncrypt garbage = .ok m) (h : Host) :
    f.ReadFrom h now decodeKey c k m ↔ h.isLittleEndian = true ∨ f.isPollResponse = false := by
  cases hf with
  | challenge hl => exact iff_of_true (challenge_received hl hsent) (.inr rfl)
  | ack error sender => exact iff_of_true (ack_received hsent) (.inr rfl)
  | login hl hascii haccepted =>
    obtain ⟨publicKey, hdecode⟩ := hext
    exact iff_of_true (login_received hl hascii haccepted hdecode hsent) (.inr rfl)
  | pollResponse hsender hsenderLen hreceiver hreceiverLen htext hascii htime hnow =>
    rw [pollResponse_build hsent]
    obtain ⟨_ | _⟩ := h
    · exact iff_of_false (pollResponse_refused hsenderLen) (by simp [ServerFrame.isPollResponse])
    · exact iff_of_true (pollResponse_received hsender hsenderLen hreceiver hreceiverLen htext
        hascii htime hnow hext) (.inl rfl)

def hello : Str := ascii "hello"

-- AES-128-CBC of `hello` under the key 0123456789abcdef and the program's fixed IV
def helloEncrypted : Str :=
  [0x3f#8, 0x28#8, 0xd6#8, 0xe8#8, 0xd7#8, 0xe1#8, 0xe8#8, 0xe7#8,
    0x69#8, 0x98#8, 0xb3#8, 0x78#8, 0x6d#8, 0xa7#8, 0x8a#8, 0x1b#8]

def encryptHello (text : Str) : Str := if text = hello then helloEncrypted else []

def decryptHello : Cipher Unit where
  getBlockSize := 16
  update := fun k _ => (some [], k)
  doFinal := fun k b => (if b = helloEncrypted then some hello else none, k)
  positive := block_positive
  bounded := by
    intro k b out k' h
    simp only [Prod.mk.injEq, Option.ite_none_right_eq_some, Option.some.injEq] at h
    rw [← h.1.2]
    decide

theorem hello_decrypts : MsgMessage.Decrypts decryptHello () (encryptHello hello) hello :=
  ⟨rfl, rfl, [], (), hello, (), rfl, rfl, rfl⟩

theorem hello_admissible :
    (ServerFrame.pollResponse (ascii "bob") (ascii "amy") hello 1000#64).Admissible 5000#64 :=
  .pollResponse (by decide) (by decide) (by decide) (by decide) (by decide) (by decide) (by decide)
    (by decide)

theorem hello_sent :
    (ServerFrame.pollResponse (ascii "bob") (ascii "amy") hello 1000#64).build encryptHello 0#64 =
      .ok (.pollResponse (pollFrame encryptHello (ascii "bob") (ascii "amy") hello 1000#64)) := by
  decide

theorem hello_read :
    (ServerFrame.pollResponse (ascii "bob") (ascii "amy") hello 1000#64).ReadFrom littleEndianHost
      5000#64 (fun _ => .error .nullPointer) decryptHello ()
      (.pollResponse (pollFrame encryptHello (ascii "bob") (ascii "amy") hello 1000#64)) :=
  (server_frame_read_iff hello_admissible hello_decrypts hello_sent littleEndianHost).mpr (.inl rfl)

theorem hello_refused :
    (ServerFrame.pollResponse (ascii "bob") (ascii "amy") hello 1000#64).Admissible 5000#64 ∧
      MsgMessage.Decrypts decryptHello () (encryptHello hello) hello ∧
      (ServerFrame.pollResponse (ascii "bob") (ascii "amy") hello 1000#64).build encryptHello 0#64 =
        .ok (.pollResponse (pollFrame encryptHello (ascii "bob") (ascii "amy") hello 1000#64)) ∧
      ¬ (ServerFrame.pollResponse (ascii "bob") (ascii "amy") hello 1000#64).ReadFrom bigEndianHost
        5000#64 (fun _ => .error .nullPointer) decryptHello ()
        (.pollResponse (pollFrame encryptHello (ascii "bob") (ascii "amy") hello 1000#64)) :=
  ⟨hello_admissible, hello_decrypts, hello_sent, pollResponse_refused (by decide)⟩

end Agreement
