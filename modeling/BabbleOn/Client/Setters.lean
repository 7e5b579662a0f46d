import BabbleOn.Client.MsgMessage
import BabbleOn.Client.Messages
import BabbleOn.Library.Runs

namespace Client
open Execution Runs

namespace LoginMessage

def setUsernameLen (unameLen : BitVec 32) : EStateM JavaThrow LoginMessage Unit :=
  if !validLength unameLen MAX_UNAME_LEN then
    throw (.babble "BabbleException: invalid username length")
  else modify fun m => { m with usernameLength := unameLen }

def setUsername : Option JavaString → EStateM JavaThrow LoginMessage Unit
  | none => throw .nullPointer
  | some uname => modify fun m => { m with username := uname }

-- the key type is set before the key is looked at
def setKey (keyType : KeyType) (key : Option JavaString) : EStateM JavaThrow LoginMessage Unit := do
  modify fun m => { m with keyType := keyType.ordinal }
  match key with
  | none => throw (.babble "Key of incorrect length")
  | some key =>
    if keyType.getKeyLen.toInt ≠ key.length then throw (.babble "Key of incorrect length")
    else modify fun m => { m with publicKeyStr := some key }

def setPubKey : Option JavaString → EStateM JavaThrow LoginMessage Unit := setKey .ASYMMETRIC

def setSymKey : Option JavaString → EStateM JavaThrow LoginMessage Unit := setKey .SYMMETRIC

end LoginMessage

-- `setHash` and the `setUsername` of a poll response take `null` too: that field as it is now
inductive Mutable where
  | login (m : LoginMessage)
  | response (m : ResponseMessage) (hash : Option JavaString)
  | pollResponse (m : PollResponseMessage) (username : Option JavaString)

inductive Setter where
  | setUsername (uname : Option JavaString)
  | setUsernameLen (unameLen : BitVec 32)
  | setPubKey (key : Option JavaString)
  | setSymKey (key : Option JavaString)
  | setEncodedKey (key : Option Bytes)
  | setHash (hash : Option JavaString)
  | setNonce (nonce : BitVec 64)

namespace Mutable

def returned {σ : Type} : EStateM.Result JavaThrow σ Unit → Option σ
  | .ok _ s => some s
  | .error _ _ => none

-- `none` where the setter throws, or the class has no such setter
def set : Mutable → Setter → Option Mutable
  | login m, .setUsername uname => (returned ((LoginMessage.setUsername uname).run m)).map login
  | login m, .setUsernameLen n => (returned ((LoginMessage.setUsernameLen n).run m)).map login
  | login m, .setPubKey key => (returned ((LoginMessage.setPubKey key).run m)).map login
  | login m, .setSymKey key => (returned ((LoginMessage.setSymKey key).run m)).map login
  | login m, .setEncodedKey key => some (login { m with encodedKey := key })
  | response m _, .setHash hash => some (response m hash)
  | response m hash, .setNonce nonce => some (response { m with nonce := nonce } hash)
  | pollResponse m _, .setUsername username => some (pollResponse m username)
  | _, _ => none

def encode (clock : Nat → BitVec 64) : Mutable → Except JavaThrow Bytes
  | login m => m.encode
  | response m (some hash) => pure ({ m with hash := hash } : ResponseMessage).encode
  | pollResponse m (some username) =>
    pure (({ m with username := username } : PollResponseMessage).encode clock)
  | _ => throw .nullPointer

def toHeader : Mutable → BabbleOnMessage
  | login m => m.toBabbleOnMessage
  | response m _ => m.toBabbleOnMessage
  | pollResponse m _ => m.toBabbleOnMessage

def strings : Mutable → List (BitVec 32 × JavaString)
  | login m => [(m.usernameLength, m.username)]
  | response m hash => [(m.usernameLength, m.username), (m.hashLen, hash.getD [])]
  | pollResponse m username => (m.usernameLength, username.getD []) ::
      m.newMessages.flatMap fun msg =>
        [(msg.senderUsernameLength, msg.senderUsername), (msg.receiverUsernameLength, msg.receiverUsername)]

structure Counted (m : Mutable) (bytes : Bytes) : Prop where
  messageLen : ∃ payload, bytes = m.toHeader.writeHeader ++ payload ∧
    m.toHeader.messageLen.toInt = payload.length
  prefixes : ∀ s ∈ m.strings, s.1.toInt = (getBytes s.2).length

def FrameOk (clock : Nat → BitVec 64) (m : Mutable) : Prop :=
  ∀ bytes, m.encode clock = .ok bytes → m.Counted bytes

end Mutable

def LoginMessage.Counts (m : LoginMessage) (username : JavaString) (key : Bytes) : Prop :=
  m.usernameLength.toInt = (getBytes username).length ∧
    m.messageLen.toInt = 5 + (getBytes username).length + key.length

def ResponseMessage.Counts (m : ResponseMessage) (hash : JavaString) : Prop :=
  m.usernameLength.toInt = (getBytes m.username).length ∧ m.hashLen.toInt = (getBytes hash).length ∧
    m.messageLen.toInt = 16 + (getBytes m.username).length + (getBytes hash).length

def MsgMessage.Counts (m : MsgMessage) : Prop :=
  m.senderUsernameLength.toInt = (getBytes m.senderUsername).length ∧
    m.receiverUsernameLength.toInt = (getBytes m.receiverUsername).length

def MsgMessage.writtenLength (m : MsgMessage) : Nat :=
  36 + (getBytes m.senderUsername).length + (getBytes m.receiverUsername).length + m.encrypted.length

def PollResponseMessage.Counts (m : PollResponseMessage) (username : JavaString) : Prop :=
  m.usernameLength.toInt = (getBytes username).length ∧ (∀ msg ∈ m.newMessages, msg.Counts) ∧
    m.messageLen.toInt =
      16 + (getBytes username).length + (m.newMessages.map MsgMessage.writtenLength).sum

theorem MsgMessage.encode_length (now : BitVec 64) (m : MsgMessage) :
    (m.encode now).length = m.writtenLength := by
  simp only [encode, List.length_append, writeInt_length, writeLong_length, writtenLength]
  omega

theorem MsgMessage.entries_length (clock : Nat → BitVec 64) (msgs : List MsgMessage) (n : Nat) :
    ((msgs.zipIdx n).flatMap fun (msg, i) => msg.encode (clock i)).length =
      (msgs.map writtenLength).sum := by
  induction msgs generalizing n with
  | nil => rfl
  | cons msg msgs ih =>
    rw [List.zipIdx_cons, List.flatMap_cons, List.length_append, ih, encode_length, List.map_cons,
      List.sum_cons]

inductive MsgMessage.Constructed : MsgMessage → Prop
  | mk {κ : Type} {now : BitVec 64} {encrypt : Cipher κ} {k k' : κ} {sLen rLen : BitVec 32}
      {sender receiver : JavaString} {text : Option JavaString} {messageLength : BitVec 64}
      {messageNumber totalMessages : BitVec 32} {timestamp : BitVec 64} {m : MsgMessage}
      (hnew : (MsgMessage.new now encrypt sLen (some sender) rLen (some receiver) text messageLength
        messageNumber totalMessages timestamp).run k = .ok m k')
      (hsender : IsAscii sender) (hreceiver : IsAscii receiver) : Constructed m

theorem MsgMessage.Constructed.sized {m : MsgMessage} (h : m.Constructed) : m.Sized := by
  obtain ⟨hnew, _, _⟩ := h
  exact new_sized hnew

theorem MsgMessage.Constructed.counts {m : MsgMessage} (h : m.Constructed) :
    m.Counts ∧ m.writtenLength = m.entryLength := by
  have hsized := h.sized
  obtain ⟨hnew, hsender, hreceiver⟩ := h
  obtain ⟨_, _, _, _, hs, hr, _, _, _, _, _, _, _, rfl⟩ := new_eq_ok.mp hnew
  cases hs
  cases hr
  have hsend := getBytes_length hsender
  have hreceive := getBytes_length hreceiver
  refine ⟨⟨?_, ?_⟩, ?_⟩
  · rw [hsized.sender, hsend]
  · rw [hsized.receiver, hreceive]
  · rw [writtenLength, entryLength, hsend, hreceive]
    dsimp only
    omega

namespace Mutable

theorem counted_iff {m : Mutable} {payload : Bytes} :
    m.Counted (m.toHeader.writeHeader ++ payload) ↔ m.toHeader.messageLen.toInt = payload.length ∧
      ∀ s ∈ m.strings, s.1.toInt = (getBytes s.2).length := by
  constructor
  · rintro ⟨⟨payload', hbytes, hlen⟩, hprefixes⟩
    rw [List.append_cancel_left hbytes]
    exact ⟨hlen, hprefixes⟩
  · rintro ⟨hlen, hprefixes⟩
    exact ⟨⟨payload, rfl, hlen⟩, hprefixes⟩

theorem frameOk_of_encode {clock : Nat → BitVec 64} {m : Mutable} {payload : Bytes}
    (h : m.encode clock = .ok (m.toHeader.writeHeader ++ payload)) :
    m.FrameOk clock ↔ m.toHeader.messageLen.toInt = payload.length ∧
      ∀ s ∈ m.strings, s.1.toInt = (getBytes s.2).length := by
  rw [FrameOk, h, ← counted_iff]
  simp

theorem frameOk_of_throw {clock : Nat → BitVec 64} {m : Mutable} {e : JavaThrow}
    (h : m.encode clock = .error e) : m.FrameOk clock := by
  intro bytes hbytes
  rw [h] at hbytes
  cases hbytes

variable {clock : Nat → BitVec 64}

theorem login_frameOk {m : LoginMessage} : (login m).FrameOk clock ↔
    ∀ key, m.keyBytes = .ok key → m.Counts m.username key := by
  cases hkey : m.keyBytes with
  | error e =>
    have hthrow : (login m).encode clock = .error e := by
      rw [encode, LoginMessage.encode, hkey]
      rfl
    simp [frameOk_of_throw hthrow]
  | ok key =>
    have hencode : (login m).encode clock = .ok ((login m).toHeader.writeHeader ++
        (writeInt m.usernameLength ++ (getBytes m.username ++ m.keyType :: key))) := by
      rw [encode, LoginMessage.encode, hkey, toHeader, ← List.append_assoc, ← List.append_assoc]
      rfl
    rw [frameOk_of_encode hencode]
    simp only [toHeader, strings, List.mem_singleton, forall_eq, List.length_append, writeInt_length,
      List.length_cons, Except.ok.injEq, forall_eq', LoginMessage.Counts]
    omega

theorem response_frameOk {m : ResponseMessage} {hash : Option JavaString} :
    (response m hash).FrameOk clock ↔ ∀ s, hash = some s → m.Counts s := by
  cases hash with
  | none => simp [frameOk_of_throw (show (response m none).encode clock = .error .nullPointer from rfl)]
  | some s =>
    have hencode : (response m (some s)).encode clock = .ok ((response m (some s)).toHeader.writeHeader ++
        (writeInt m.usernameLength ++ (getBytes m.username ++ (writeInt m.hashLen ++
          (getBytes s ++ writeLong m.nonce))))) := by
      simp only [encode, ResponseMessage.encode, toHeader, List.append_assoc]
      rfl
    rw [frameOk_of_encode hencode]
    simp only [toHeader, strings, List.mem_cons, List.not_mem_nil, or_false, forall_eq_or_imp, forall_eq,
      List.length_append, writeInt_length, writeLong_length, Option.some.injEq, forall_eq',
      ResponseMessage.Counts, Option.getD_some]
    omega

theorem pollResponse_frameOk {m : PollResponseMessage} {username : Option JavaString} :
    (pollResponse m username).FrameOk clock ↔ ∀ s, username = some s → m.Counts s := by
  cases username with
  | none =>
    simp [frameOk_of_throw (show (pollResponse m none).encode clock = .error .nullPointer from rfl)]
  | some s =>
    have hencode : (pollResponse m (some s)).encode clock =
        .ok ((pollResponse m (some s)).toHeader.writeHeader ++
          (writeInt m.usernameLength ++ (getBytes s ++ (writeInt m.listNumber ++
            (writeInt m.totalLists ++ (writeInt m.messageListSize ++
              m.newMessages.zipIdx.flatMap fun (msg, i) => msg.encode (clock i))))))) := by
      simp only [encode, PollResponseMessage.encode, toHeader, List.append_assoc]
      rfl
    rw [frameOk_of_encode hencode]
    simp only [toHeader, strings, List.mem_cons, forall_eq_or_imp, List.mem_flatMap, List.not_mem_nil,
      or_false, forall_exists_index, and_imp, List.length_append, writeInt_length,
      MsgMessage.entries_length, Option.some.injEq, forall_eq', PollResponseMessage.Counts,
      MsgMessage.Counts, Option.getD_some]
    constructor
    · rintro ⟨hlen, hname, hall⟩
      exact ⟨hname, fun msg hmsg => ⟨hall _ msg hmsg (.inl rfl), hall _ msg hmsg (.inr rfl)⟩, by omega⟩
    · rintro ⟨hname, hall, hlen⟩
      refine ⟨by omega, hname, ?_⟩
      rintro _ msg hmsg (rfl | rfl)
      · exact (hall msg hmsg).1
      · exact (hall msg hmsg).2

def Keeps : Mutable → Setter → Prop
  | login m, .setUsername uname => ∀ s, uname = some s → ∀ key, m.keyBytes = .ok key → m.Counts s key
  | login m, .setUsernameLen n => ∀ key, m.keyBytes = .ok key → n = m.usernameLength
  | login m, .setPubKey key => ∀ s, key = some s → m.Counts m.username (getBytes s)
  | login m, .setSymKey _ => ∀ key, m.encodedKey = some key → m.Counts m.username key
  | login m, .setEncodedKey key => m.keyType = KeyType.SYMMETRIC.ordinal →
      ∀ b, key = some b → m.Counts m.username b
  | response m _, .setHash hash => ∀ s, hash = some s → m.Counts s
  | pollResponse m _, .setUsername username => ∀ s, username = some s → m.Counts s
  | _, _ => True

theorem setKey_inv {keyType : KeyType} {key : Option JavaString} {m m' : LoginMessage}
    (h : returned ((LoginMessage.setKey keyType key).run m) = some m') :
    ∃ s, key = some s ∧ m' = { m with keyType := keyType.ordinal, publicKeyStr := some s } := by
  unfold LoginMessage.setKey at h
  rw [bind_ok (run_modify _ m)] at h
  cases key with
  | none => cases h
  | some s =>
    dsimp only at h
    split at h
    · cases h
    · cases h
      exact ⟨s, rfl, rfl⟩

theorem setUsername_inv {uname : Option JavaString} {m m' : LoginMessage}
    (h : returned ((LoginMessage.setUsername uname).run m) = some m') :
    ∃ s, uname = some s ∧ m' = { m with username := s } := by
  cases uname with
  | none => cases h
  | some s =>
    cases h
    exact ⟨s, rfl, rfl⟩

theorem setUsernameLen_inv {n : BitVec 32} {m m' : LoginMessage}
    (h : returned ((LoginMessage.setUsernameLen n).run m) = some m') :
    m' = { m with usernameLength := n } := by
  unfold LoginMessage.setUsernameLen at h
  split at h
  · cases h
  · cases h
    rfl

theorem keyBytes_symmetric {m : LoginMessage} (h : m.keyType = KeyType.SYMMETRIC.ordinal) {key : Bytes} :
    m.keyBytes = .ok key ↔ m.encodedKey = some key := by
  rw [LoginMessage.keyBytes, h, if_neg (by decide), if_pos rfl]
  cases m.encodedKey <;> simp [pure, Except.pure, throw, throwThe, MonadExceptOf.throw]

theorem keyBytes_encodedKey {m : LoginMessage} (h : m.keyType ≠ KeyType.SYMMETRIC.ordinal)
    (key : Option Bytes) : ({ m with encodedKey := key } : LoginMessage).keyBytes = m.keyBytes := by
  simp only [LoginMessage.keyBytes, if_neg h]

theorem login_keeps {m : LoginMessage} {m' : Mutable} {setter : Setter}
    (hok : (login m).FrameOk clock) (hset : (login m).set setter = some m') :
    m'.FrameOk clock ↔ (login m).Keeps setter := by
  rw [login_frameOk] at hok
  cases setter with
  | setUsername uname =>
    obtain ⟨m', hreturned, rfl⟩ := Option.map_eq_some_iff.mp hset
    obtain ⟨s, rfl, rfl⟩ := setUsername_inv hreturned
    rw [login_frameOk, Keeps]
    simp only [Option.some.injEq, forall_eq']
    exact Iff.rfl
  | setUsernameLen n =>
    obtain ⟨m', hreturned, rfl⟩ := Option.map_eq_some_iff.mp hset
    obtain rfl := setUsernameLen_inv hreturned
    rw [login_frameOk, Keeps]
    refine forall₂_congr fun key hkey => ?_
    obtain ⟨hname, hlen⟩ := hok key hkey
    constructor
    · rintro ⟨hnew, _⟩
      exact BitVec.eq_of_toInt_eq (hnew.trans hname.symm)
    · rintro rfl
      exact ⟨hname, hlen⟩
  | setPubKey key =>
    obtain ⟨m', hreturned, rfl⟩ := Option.map_eq_some_iff.mp hset
    obtain ⟨s, rfl, rfl⟩ := setKey_inv hreturned
    rw [login_frameOk, Keeps]
    simp only [Option.some.injEq, forall_eq']
    exact ⟨fun hall => hall _ rfl, fun hcounts key hkey => Except.ok.inj hkey ▸ hcounts⟩
  | setSymKey key =>
    obtain ⟨m', hreturned, rfl⟩ := Option.map_eq_some_iff.mp hset
    obtain ⟨s, rfl, rfl⟩ := setKey_inv hreturned
    rw [login_frameOk, Keeps]
    exact forall_congr' fun key => imp_congr (keyBytes_symmetric rfl) Iff.rfl
  | setEncodedKey key =>
    cases hset
    rw [login_frameOk, Keeps]
    by_cases htype : m.keyType = KeyType.SYMMETRIC.ordinal
    · rw [forall_prop_of_true htype]
      exact forall_congr' fun b =>
        imp_congr (keyBytes_symmetric (m := { m with encodedKey := key }) htype) Iff.rfl
    · rw [keyBytes_encodedKey htype]
      exact iff_of_true hok fun h => absurd h htype
  | setHash hash => cases hset
  | setNonce nonce => cases hset

theorem set_keeps {m m' : Mutable} {setter : Setter} (hok : m.FrameOk clock)
    (hset : m.set setter = some m') : m'.FrameOk clock ↔ m.Keeps setter := by
  cases m with
  | login m => exact login_keeps hok hset
  | response m hash =>
    cases setter with
    | setHash hash' =>
      cases hset
      exact response_frameOk
    | setNonce nonce =>
      cases hset
      rw [response_frameOk] at hok ⊢
      exact iff_of_true hok trivial
    | _ => cases hset
  | pollResponse m username =>
    cases setter with
    | setUsername username' =>
      cases hset
      exact pollResponse_frameOk
    | _ => cases hset

inductive Constructed : Mutable → Prop
  | login {usernameLength : BitVec 32} {name : JavaString} {keyType : KeyType} {key : Option Key}
      {m : LoginMessage} (hnew : LoginMessage.new usernameLength (some name) keyType key = .ok m)
      (hname : IsAscii name) : Constructed (.login m)
  | response {usernameLength fLen : BitVec 32} {name hash : JavaString} {nonce : BitVec 64}
      {m : ResponseMessage}
      (hnew : ResponseMessage.new usernameLength (some name) fLen (some hash) nonce = .ok m)
      (hname : IsAscii name) (hhash : IsAscii hash) : Constructed (.response m (some m.hash))
  | pollResponse {usernameLength messageListSize listNumber totalLists : BitVec 32}
      {name : JavaString} {msgs : List MsgMessage} {m : PollResponseMessage}
      (hnew : PollResponseMessage.new usernameLength (some name) messageListSize listNumber totalLists
        (some msgs) = .ok m)
      (hname : IsAscii name) (hmsgs : ∀ msg ∈ msgs, msg.Constructed) :
      Constructed (.pollResponse m (some m.username))

def Fits : Mutable → Prop
  | login m => ∀ s, m.publicKeyStr = some s → s.length = KeyType.ASYMMETRIC.getKeyLen.toNat
  | response m _ => 16 + m.username.length + m.hash.length < 2 ^ 31
  | pollResponse m _ =>
    16 + m.username.length + (m.newMessages.map MsgMessage.entryLength).sum < 2 ^ 63

theorem new_key {usernameLength : BitVec 32} {username : Option JavaString} {keyType : KeyType}
    {key : Option Key} {m : LoginMessage} (h : LoginMessage.new usernameLength username keyType key = .ok m) :
    m.encodedKey = none ∧ (m.publicKeyStr.isSome ↔ keyType = .ASYMMETRIC) := by
  obtain ⟨base, hnew, hcheck⟩ := BabbleOnMessage.new_any MessageType.LoginMessage
    (by decide) ((4#32 + usernameLength + 1#32 + keyType.getKeyLen).signExtend 64)
  simp only [LoginMessage.new, hnew, bind, Except.bind] at h
  split at h
  · cases h
  split at h
  · cases h
  split at h
  · cases h
  split at h
  · cases h
  · cases h
    exact ⟨rfl, by simp [LoginMessage.calculateKey]⟩
  · rename_i hnoKey hsomeKey
    cases h
    refine ⟨rfl, by simp, ?_⟩
    rintro rfl
    cases key with
    | none => exact (hnoKey rfl rfl).elim
    | some key => exact (hsomeKey key rfl rfl).elim

theorem login_fits {usernameLength : BitVec 32} {name : JavaString} {keyType : KeyType}
    {key : Option Key} {m : LoginMessage}
    (hnew : LoginMessage.new usernameLength (some name) keyType key = .ok m) (hname : IsAscii name) :
    (login m).FrameOk clock ↔ (login m).Fits := by
  obtain ⟨_, hsome, hl, hle, hbase, hlength, hname', hkeyType, hascii⟩ := LoginMessage.new_inv hnew
  cases hsome
  obtain ⟨hnone, hkey⟩ := new_key hnew
  have hlen : m.messageLen.toInt = 5 + name.length + keyType.getKeyLen.toNat := by
    have hshort : keyType.getKeyLen.toNat ≤ 271 := by cases keyType <;> decide
    unfold MAX_UNAME_LEN at hle
    rw [show m.messageLen = _ from congrArg BabbleOnMessage.messageLen hbase,
      SignedWords.toInt_ofNat_long (by omega)]
    omega
  have hcounts (key : Bytes) : m.Counts m.username key ↔ key.length = keyType.getKeyLen.toNat := by
    rw [LoginMessage.Counts, hname', getBytes_length hname, hlength, hlen]
    omega
  rw [login_frameOk, Fits]
  simp only [hcounts]
  cases keyType with
  | ASYMMETRIC =>
    obtain ⟨s, hs⟩ := Option.isSome_iff_exists.mp (hkey.mpr rfl)
    have hbytes : m.keyBytes = .ok (getBytes s) := by
      rw [LoginMessage.keyBytes, hkeyType, if_pos rfl, hs]
      rfl
    simp only [hbytes, hs, Except.ok.injEq, forall_eq', Option.some.injEq, getBytes_length (hascii s hs)]
  | SYMMETRIC =>
    have hthrow : m.keyBytes = .error .nullPointer := by
      rw [LoginMessage.keyBytes, hkeyType, if_neg (by decide), if_pos rfl, hnone]
      rfl
    have hstr : m.publicKeyStr = none := by simpa using hkey
    simp [hthrow, hstr]
  | NONE | DEFAULT =>
    have hempty : m.keyBytes = .ok [] := by
      rw [LoginMessage.keyBytes, hkeyType, if_neg (by decide), if_neg (by decide)]
      rfl
    have hstr : m.publicKeyStr = none := by simpa using hkey
    simp [hempty, hstr, KeyType.getKeyLen]

theorem response_fits {usernameLength fLen : BitVec 32} {name hash : JavaString} {nonce : BitVec 64}
    {m : ResponseMessage}
    (hnew : ResponseMessage.new usernameLength (some name) fLen (some hash) nonce = .ok m)
    (hname : IsAscii name) (hhash : IsAscii hash) :
    (response m (some m.hash)).FrameOk clock ↔ (response m (some m.hash)).Fits := by
  obtain ⟨_, _, hsome, hsome', hl, hle, hf, rfl⟩ := ResponseMessage.new_eq_ok.mp hnew
  cases hsome
  cases hsome'
  rw [response_frameOk, Fits]
  simp only [Option.some.injEq, forall_eq', ResponseMessage.Counts, getBytes_length hname,
    getBytes_length hhash]
  constructor
  · rintro ⟨-, -, hlen⟩
    by_contra hwrapped
    rw [ResponseMessage.messageLenOf_wrapped hl hle hf (by omega)] at hlen
    simp at hlen
    omega
  · intro hshort
    refine ⟨hl, hf, ?_⟩
    rw [ResponseMessage.messageLenOf_short hl hle hf hshort, SignedWords.toInt_ofNat_long (by omega)]
    omega

theorem pollResponse_fits {usernameLength messageListSize listNumber totalLists : BitVec 32}
    {name : JavaString} {msgs : List MsgMessage} {m : PollResponseMessage}
    (hnew : PollResponseMessage.new usernameLength (some name) messageListSize listNumber totalLists
      (some msgs) = .ok m) (hname : IsAscii name) (hmsgs : ∀ msg ∈ msgs, msg.Constructed) :
    (pollResponse m (some m.username)).FrameOk clock ↔ (pollResponse m (some m.username)).Fits := by
  obtain ⟨_, _, base, hsome, hsome', ⟨hl, hle⟩, _, _, _, hbase, rfl⟩ :=
    PollResponseMessage.new_eq_ok.mp hnew
  cases hsome
  cases hsome'
  have hwritten : msgs.map MsgMessage.writtenLength = msgs.map MsgMessage.entryLength :=
    List.map_congr_left fun msg hmsg => (hmsgs msg hmsg).counts.2
  rw [pollResponse_frameOk, Fits]
  simp only [Option.some.injEq, forall_eq', PollResponseMessage.Counts, getBytes_length hname, hwritten]
  constructor
  · rintro ⟨-, -, hlen⟩
    have hlt : base.messageLen.toInt < 2 ^ 63 := BitVec.toInt_lt
    omega
  · intro htotal
    rw [PollResponseMessage.base_total hl hle (fun msg hmsg => (hmsgs msg hmsg).sized) htotal] at hbase
    cases hbase
    refine ⟨hl, fun msg hmsg => (hmsgs msg hmsg).counts.1, ?_⟩
    rw [SignedWords.toInt_ofNat_long htotal]
    omega

theorem constructed_fits {m : Mutable} (h : m.Constructed) : m.FrameOk clock ↔ m.Fits := by
  cases h with
  | login hnew hname => exact login_fits hnew hname
  | response hnew hname hhash => exact response_fits hnew hname hhash
  | pollResponse hnew hname hmsgs => exact pollResponse_fits hnew hname hmsgs

theorem setters_iff {m m' : Mutable} (h : m.Constructed) {setters : List Setter}
    (hrun : perform set m setters = some m') (clock : Nat → BitVec 64) :
    Along (FrameOk clock) set m setters ↔ m.Fits ∧ EachStep Keeps set m setters := by
  rw [along_iff (fun _ _ _ => set_keeps) hrun, constructed_fits h]

def bob : JavaString := [98#16, 111#16, 98#16]

def amy : JavaString := [97#16, 109#16, 121#16]

def al : JavaString := [97#16, 108#16]

def bobLogin : LoginMessage :=
  ⟨⟨MessageType.LoginMessage, 8#64⟩, 3#32, bob, KeyType.NONE.ordinal, none, none, none⟩

theorem bobLogin_constructed : (login bobLogin).Constructed :=
  .login (show LoginMessage.new 3#32 (some bob) .NONE none = .ok bobLogin from rfl)
    (by simp [IsAscii, bob])

theorem amy_counted : Along (FrameOk fun _ => 5000#64) set (login bobLogin)
    [.setUsername (some amy), .setUsernameLen 3#32] := by
  have hrun : perform set (login bobLogin) [.setUsername (some amy), .setUsernameLen 3#32] =
      some (login { bobLogin with username := amy }) := rfl
  refine (setters_iff bobLogin_constructed hrun fun _ => 5000#64).mpr ⟨fun s hs => (by cases hs), ?_⟩
  have hcounts : Keeps (login bobLogin) (.setUsername (some amy)) := by
    intro s hs key hkey
    cases hs
    cases hkey
    exact ⟨by decide, by decide⟩
  refine ⟨hcounts, fun m hm => ?_⟩
  cases hm
  exact ⟨fun _ _ => rfl, fun _ _ => trivial⟩

theorem al_miscounted : (login bobLogin).Constructed ∧
    perform set (login bobLogin) [.setUsername (some al)] =
      some (login { bobLogin with username := al }) ∧
    ¬ (login { bobLogin with username := al }).FrameOk fun _ => 5000#64 := by
  refine ⟨bobLogin_constructed, rfl, fun hok => ?_⟩
  have hcounts := login_frameOk.mp hok [] rfl
  exact absurd hcounts.1 (by decide)

end Mutable

end Client
