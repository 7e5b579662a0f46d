import BabbleOn.Client.ReaderThread

namespace Client
open Execution

inductive TwoWayMessage where
  | login (m : LoginMessage)
  | response (m : ResponseMessage)
  | poll (m : PollMessage)
  | ack (m : ACKMessage)

namespace TwoWayMessage

inductive Constructed (currentTimeMillis : BitVec 64) : TwoWayMessage → Prop
  | login {usernameLength : BitVec 32} {name : JavaString} {key : Option Key} {m : LoginMessage}
      (hnew : LoginMessage.new usernameLength (some name) .NONE key = .ok m) (hname : IsAscii name) :
      Constructed currentTimeMillis (.login m)
  | response {usernameLength fLen : BitVec 32} {name hash : JavaString} {nonce : BitVec 64}
      {m : ResponseMessage}
      (hnew : ResponseMessage.new usernameLength (some name) fLen (some hash) nonce = .ok m)
      (hname : IsAscii name) (hhash : IsAscii hash) : Constructed currentTimeMillis (.response m)
  | poll {usernameLength : BitVec 32} {name : JavaString} {timestamp : BitVec 64} {m : PollMessage}
      (hnew : PollMessage.new currentTimeMillis usernameLength (some name) timestamp = .ok m)
      (hname : IsAscii name) : Constructed currentTimeMillis (.poll m)
  | ack {errSender : Byte} {m : ACKMessage} (hnew : ACKMessage.new errSender = .ok m) :
      Constructed currentTimeMillis (.ack m)

def encode : TwoWayMessage → Except JavaThrow Bytes
  | login m => m.encode
  | response m => .ok m.encode
  | poll m => .ok m.encode
  | ack m => .ok m.encode

def toHeader : TwoWayMessage → BabbleOnMessage
  | login m => m.toBabbleOnMessage
  | response m => m.toBabbleOnMessage
  | poll m => m.toBabbleOnMessage
  | ack m => m.toBabbleOnMessage

def withHeader (header : BabbleOnMessage) : TwoWayMessage → TwoWayMessage
  | login m => login { m with toBabbleOnMessage := header }
  | response m => response { m with toBabbleOnMessage := header }
  | poll m => poll { m with toBabbleOnMessage := header }
  | ack m => ack { m with toBabbleOnMessage := header }

def ofStream (currentTimeMillis : BitVec 64) (decodeKey : JavaString → Except JavaThrow Key) :
    TwoWayMessage → Input TwoWayMessage
  | login _ => do
    let m ← LoginMessage.ofStream decodeKey
    pure (login m)
  | response _ => do
    let m ← ResponseMessage.ofStream
    pure (response m)
  | poll _ => do
    let m ← PollMessage.ofStream currentTimeMillis
    pure (poll m)
  | ack _ => do
    let m ← ACKMessage.ofStream
    pure (ack m)

def readBack (currentTimeMillis : BitVec 64) (decodeKey : JavaString → Except JavaThrow Key)
    (m : TwoWayMessage) : Input (BabbleOnMessage × TwoWayMessage) := do
  let header ← BabbleOnMessage.ofStream
  let m' ← m.ofStream currentTimeMillis decodeKey
  pure (header, m')

-- a stream constructor leaves its own `messageLen` 0; type and length are those of the header
def Restored (currentTimeMillis : BitVec 64) (decodeKey : JavaString → Except JavaThrow Key)
    (m : TwoWayMessage) : Prop :=
  ∃ bytes header m', m.encode = .ok bytes ∧
    (m.readBack currentTimeMillis decodeKey).run bytes = .ok (header, m') [] ∧
    m'.toHeader.messageType = m.toHeader.messageType ∧ m'.withHeader header = m

end TwoWayMessage

section Read

open BabbleOnMessage

variable {usernameLength fLen : BitVec 32} {name hash : JavaString} {now now' : BitVec 64}

theorem LoginMessage.ofStream_none {decodeKey : JavaString → Except JavaThrow Key}
    (hname : IsAscii name) (hlen : usernameLength.toInt = name.length)
    (hle : name.length ≤ MAX_UNAME_LEN) :
    (ofStream decodeKey).run (writeInt usernameLength ++ (getBytes name ++ [KeyType.NONE.ordinal])) =
      .ok ⟨⟨MessageType.LoginMessage, 0#64⟩, usernameLength, name, KeyType.NONE.ordinal, none, none,
        none⟩ [] := by
  have hvalid : validLength usernameLength MAX_UNAME_LEN = true := validLength_iff.mpr (by omega)
  unfold ofStream
  dsimp only
  rw [bind_ok (onIOException_ok (dsReadInt_append _ _) _), hvalid, if_neg (by decide),
    bind_ok (readStr_text hname hlen _), if_neg (not_not.mpr hlen),
    bind_ok (onIOException_ok (dsReadByte_append _ _) _), if_neg (by decide), if_neg (by decide)]
  rfl

theorem ResponseMessage.ofStream_text {nonce : BitVec 64} (hname : IsAscii name)
    (hlen : usernameLength.toInt = name.length) (hle : name.length ≤ MAX_UNAME_LEN)
    (hhash : IsAscii hash) (hf : fLen.toInt = hash.length) :
    ofStream.run (writeInt usernameLength ++ (getBytes name ++ (writeInt fLen ++ (getBytes hash ++
      (writeLong nonce ++ []))))) =
        .ok ⟨⟨MessageType.ResponseMessage, 0#64⟩, usernameLength, name, fLen, hash, nonce⟩ [] := by
  have hvalid : validLength usernameLength MAX_UNAME_LEN = true := validLength_iff.mpr (by omega)
  have hshort : fLen.toInt < 2 ^ 31 := BitVec.toInt_lt
  have hmax : hash.length ≤ MAX_VALUE := by
    unfold MAX_VALUE
    omega
  unfold ofStream
  rw [bind_ok (readInt_counted hlen hle (by decide) _), hvalid, if_neg (by decide),
    bind_ok (readStr_text hname hlen _), if_neg (not_not.mpr hlen),
    bind_ok (readInt_counted hf hmax (by decide) _), if_neg (by omega),
    bind_ok (readStr_text hhash hf _), if_neg (not_not.mpr hf), bind_ok (readLong_append _ _)]
  rfl

-- the check of the stream constructor is the other way round
theorem PollMessage.ofStream_text {timestamp : BitVec 64} (hname : IsAscii name)
    (hlen : usernameLength.toInt = name.length) (hle : name.length ≤ MAX_UNAME_LEN)
    (hnow : timestamp.toInt ≤ now'.toInt) :
    (ofStream now').run (writeInt usernameLength ++ (getBytes name ++ (writeLong timestamp ++ []))) =
      if 0 < timestamp.toInt then .error (.babble "Non-negative time not accepted") []
      else .ok ⟨⟨MessageType.PollMessage, 0#64⟩, usernameLength, name, timestamp⟩ [] := by
  have hvalid : validLength usernameLength MAX_UNAME_LEN = true := validLength_iff.mpr (by omega)
  unfold ofStream
  rw [bind_ok (readInt_counted hlen hle (by decide) _), hvalid, if_neg (by decide),
    bind_ok (readStr_text hname hlen _), if_neg (not_not.mpr hlen), bind_ok (readLong_append _ _),
    if_neg (by omega)]
  split <;> rfl

end Read

namespace TwoWayMessage

variable {now now' : BitVec 64} {decodeKey : JavaString → Except JavaThrow Key} {m m' : TwoWayMessage}

theorem readBack_header {payload : Bytes} (hlen : 0 ≤ m.toHeader.messageLen.toInt) :
    (m.readBack now decodeKey).run (m.toHeader.writeHeader ++ payload) =
      (do
        let m' ← m.ofStream now decodeKey
        pure (m.toHeader, m') : Input (BabbleOnMessage × TwoWayMessage)).run payload :=
  bind_ok (BabbleOnMessage.ofStream_header hlen _)

theorem restored_of_payload {payload : Bytes} (hlen : 0 ≤ m.toHeader.messageLen.toInt)
    (hencode : m.encode = .ok (m.toHeader.writeHeader ++ payload))
    (hread : (m.ofStream now decodeKey).run payload = .ok m' [])
    (htype : m'.toHeader.messageType = m.toHeader.messageType)
    (hfields : m'.withHeader m.toHeader = m) : Restored now decodeKey m := by
  refine ⟨_, m.toHeader, m', hencode, ?_, htype, hfields⟩
  rw [readBack_header hlen, bind_ok hread, run_pure]

theorem not_restored_of_throw {payload rest : Bytes} {e : JavaThrow}
    (hlen : 0 ≤ m.toHeader.messageLen.toInt)
    (hencode : m.encode = .ok (m.toHeader.writeHeader ++ payload))
    (hread : (m.ofStream now decodeKey).run payload = .error e rest) : ¬ Restored now decodeKey m := by
  rintro ⟨bytes, header, m', hbytes, hrun, -⟩
  rw [hencode] at hbytes
  cases hbytes
  rw [readBack_header hlen, bind_error hread] at hrun
  cases hrun

theorem poll_encode (p : PollMessage) : (TwoWayMessage.poll p).encode =
    .ok (p.writeHeader ++ (writeInt p.usernameLength ++ (getBytes p.username ++
      (writeLong p.timestamp ++ [])))) := by
  simp only [encode, PollMessage.encode, List.append_assoc, List.append_nil]

theorem poll_restored_iff {usernameLength : BitVec 32} {name : JavaString} {timestamp : BitVec 64}
    {p : PollMessage}
    (hnew : PollMessage.new now usernameLength (some name) timestamp = .ok p) (hname : IsAscii name)
    (hlater : now.toInt ≤ now'.toInt) : Restored now' decodeKey (.poll p) ↔ p.timestamp = 0#64 := by
  obtain ⟨_, hsome, hl, hle, h0, hnow, hp⟩ := PollMessage.new_eq_ok.mp hnew
  cases hsome
  have hlen : 0 ≤ (TwoWayMessage.poll p).toHeader.messageLen.toInt := by
    unfold MAX_UNAME_LEN at hle
    rw [toHeader, hp, SignedWords.toInt_ofNat_long (by omega)]
    omega
  have hread : (PollMessage.ofStream now').run (writeInt p.usernameLength ++ (getBytes p.username ++
      (writeLong p.timestamp ++ []))) =
        if 0 < p.timestamp.toInt then .error (.babble "Non-negative time not accepted") []
        else .ok ⟨⟨MessageType.PollMessage, 0#64⟩, p.usernameLength, p.username, p.timestamp⟩ [] := by
    rw [hp]
    exact PollMessage.ofStream_text hname hl hle (Int.le_trans hnow hlater)
  have hzero : p.timestamp = 0#64 ↔ ¬ 0 < p.timestamp.toInt := by
    have hsame : p.timestamp = timestamp := by rw [hp]
    rw [← BitVec.toInt_inj, BitVec.toInt_zero, hsame]
    omega
  rw [hzero]
  constructor
  · intro hrestored hpos
    rw [if_pos hpos] at hread
    exact not_restored_of_throw hlen (poll_encode p) (bind_error hread) hrestored
  · intro hnone
    rw [if_neg hnone] at hread
    refine restored_of_payload hlen (poll_encode p) (bind_ok hread) ?_ rfl
    rw [hp]
    rfl

theorem round_trip_iff (h : Constructed now m) (hlater : now.toInt ≤ now'.toInt) :
    Restored now' decodeKey m ↔ ∀ p, m = .poll p → p.timestamp = 0#64 := by
  cases h with
  | @login usernameLength name _ _ hnew hname =>
    obtain ⟨hl, hle, rfl⟩ := LoginMessage.new_none hnew
    have hlen : 0 ≤ (BitVec.ofNat 64 (5 + name.length)).toInt := by
      unfold MAX_UNAME_LEN at hle
      rw [SignedWords.toInt_ofNat_long (by omega)]
      omega
    refine iff_of_true (restored_of_payload hlen ?_
      (bind_ok (LoginMessage.ofStream_none hname hl hle)) rfl rfl) (by simp)
    rw [← List.append_assoc, ← List.append_assoc]
    rfl
  | @response usernameLength fLen name hash nonce _ hnew hname hhash =>
    obtain ⟨_, _, hsome, hsome', hl, hle, hf, rfl⟩ := ResponseMessage.new_eq_ok.mp hnew
    cases hsome
    cases hsome'
    refine iff_of_true ?_ (by simp)
    refine restored_of_payload (BabbleOnMessage.new_header (ResponseMessage.base_length
      usernameLength fLen)).2 ?_ (bind_ok (ResponseMessage.ofStream_text hname hl hle hhash hf)) rfl rfl
    simp only [encode, toHeader, ResponseMessage.encode, List.append_assoc, List.append_nil]
  | poll hnew hname =>
    rw [poll_restored_iff hnew hname hlater]
    simp
  | @ack errSender _ hnew =>
    cases hnew
    have hlen : 0 ≤ (1#64).toInt := by decide
    exact iff_of_true (restored_of_payload hlen rfl (bind_ok (ACKMessage.ofStream_byte errSender []))
      rfl rfl) (by simp)

def bob : JavaString := [98#16, 111#16, 98#16]

def bobPolls (timestamp : BitVec 64) : PollMessage :=
  ⟨⟨MessageType.PollMessage, BitVec.ofNat 64 (12 + bob.length)⟩, 3#32, bob, timestamp⟩

theorem bob_ascii : IsAscii bob := by simp [IsAscii, bob]

theorem bobPolls_new {timestamp : BitVec 64} (h0 : 0 ≤ timestamp.toInt) (hnow : timestamp.toInt ≤ now.toInt) :
    PollMessage.new now 3#32 (some bob) timestamp = .ok (bobPolls timestamp) :=
  PollMessage.new_eq_ok.mpr ⟨bob, rfl, by decide, by decide, h0, hnow, rfl⟩

def refuseKeys : JavaString → Except JavaThrow Key := fun _ => .error (.babble "Cannot decode key: null")

theorem bob_poll_restored : Restored 5000#64 refuseKeys (.poll (bobPolls 0#64)) := by
  refine (round_trip_iff (.poll (bobPolls_new (by decide)
    (show (0#64).toInt ≤ (2000#64).toInt by decide)) bob_ascii) (by decide)).mpr fun p hp => ?_
  cases hp
  rfl

theorem poll_not_read_back :
    Constructed 2000#64 (.poll (bobPolls 1000#64)) ∧
      ¬ Restored 5000#64 refuseKeys (.poll (bobPolls 1000#64)) := by
  have hnew : PollMessage.new 2000#64 3#32 (some bob) 1000#64 = .ok (bobPolls 1000#64) :=
    bobPolls_new (by decide) (by decide)
  refine ⟨.poll hnew bob_ascii, fun hrestored => ?_⟩
  exact absurd ((poll_restored_iff hnew bob_ascii (by decide)).mp hrestored) (by decide)

end TwoWayMessage

end Client
