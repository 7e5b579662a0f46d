import BabbleOn.Client.BabbleOnMessage

namespace Client
open Execution SignedWords

inductive KeyType where
  | NONE
  | ASYMMETRIC
  | SYMMETRIC
  | DEFAULT
  deriving DecidableEq, Repr

namespace KeyType

def ordinal : KeyType → Byte
  | NONE => 0#8
  | ASYMMETRIC => 1#8
  | SYMMETRIC => 2#8
  | DEFAULT => 3#8

def getKeyLen : KeyType → BitVec 32
  | NONE => 0#32
  | ASYMMETRIC => 271#32
  | SYMMETRIC => 128#32
  | DEFAULT => 0#32

end KeyType

-- a key as the Base64 encoder writes it: an alphabet of ASCII bytes
structure Key where
  encoded : Bytes
  ascii : ∀ b ∈ encoded, b.toNat < 128

structure LoginMessage extends BabbleOnMessage where
  usernameLength : BitVec 32
  username : JavaString
  keyType : Byte
  publicKeyStr : Option JavaString
  publicKey : Option Key
  encodedKey : Option Bytes

namespace LoginMessage

def KEY_FILE_HEADER : JavaString := java "-----BEGIN PUBLIC KEY-----"
def KEY_FILE_FOOTER : JavaString := java "\n-----END PUBLIC KEY-----"
def KEYSIZE : Nat := 220
def KEY_LEN : Nat := KEY_FILE_HEADER.length + KEYSIZE + KEY_FILE_FOOTER.length

def calculateKey (keyType : Byte) (key : Key) : Option JavaString :=
  if keyType = KeyType.ASYMMETRIC.ordinal then
    let pemCertPre := (newString key.encoded).zipIdx.flatMap fun (c, i) =>
      if i % 64 = 0 then java "\n" ++ [c] else [c]
    some (KEY_FILE_HEADER ++ pemCertPre ++ KEY_FILE_FOOTER)
  else if keyType = KeyType.SYMMETRIC.ordinal then some (newString key.encoded)
  else none

def new (usernameLength : BitVec 32) (username : Option JavaString) (keyType : KeyType)
    (publicKey : Option Key) : Except JavaThrow LoginMessage := do
  let base ← BabbleOnMessage.new MessageType.LoginMessage
    ((4#32 + usernameLength + 1#32 + keyType.getKeyLen).signExtend 64)
  let base := base.checkType MessageType.LoginMessage
  if !validLength usernameLength MAX_UNAME_LEN then throw (.babble "Invalid usernameLength")
  else match username with
  | none => throw (.babble "Invalid username")
  | some username =>
    if usernameLength.toInt ≠ username.length then throw (.babble "Invalid username")
    else match keyType, publicKey with
    | .ASYMMETRIC, none => throw (.babble "Invalid key")
    | .ASYMMETRIC, some key => pure ⟨base, usernameLength, username, keyType.ordinal,
        calculateKey keyType.ordinal key, some key, none⟩
    | _, _ => pure ⟨base, usernameLength, username, keyType.ordinal, none, none, none⟩

def setEncodedKey (m : LoginMessage) (key : Bytes) : LoginMessage := { m with encodedKey := some key }

def ofStream (decodeKey : JavaString → Except JavaThrow Key) : Input LoginMessage := do
  let base := BabbleOnMessage.sup.checkType MessageType.LoginMessage
  let usernameLength ← onIOException dsReadInt (.babble "Couldnt read len")
  if !validLength usernameLength MAX_UNAME_LEN then throw (.babble "Username Length invalid") else
  let username ← BabbleOnMessage.readStr usernameLength
  if usernameLength.toInt ≠ username.length then
    throw (.babble "Passed message len does not match actual message len") else
  let keyType ← onIOException dsReadByte (.babble "Key Type not read")
  if keyType.toInt ≥ KeyType.DEFAULT.ordinal.toInt then throw (.babble "Invalid Key Type")
  else if keyType = KeyType.ASYMMETRIC.ordinal then do
    let publicKeyStr ← BabbleOnMessage.readStr (BitVec.ofNat 32 KEY_LEN)
    match decodeKey publicKeyStr with
    | .error e => throw e
    | .ok publicKey =>
      pure ⟨base, usernameLength, username, keyType, some publicKeyStr, some publicKey, none⟩
  else pure ⟨base, usernameLength, username, keyType, none, none, none⟩

def keyBytes (m : LoginMessage) : Except JavaThrow Bytes :=
  if m.keyType = KeyType.ASYMMETRIC.ordinal then
    match m.publicKeyStr with
    | some s => pure (getBytes s)
    | none => throw .nullPointer
  else if m.keyType = KeyType.SYMMETRIC.ordinal then
    match m.encodedKey with
    | some k => pure k
    | none => throw .nullPointer
  else pure []

def encode (m : LoginMessage) : Except JavaThrow Bytes := do
  let key ← m.keyBytes
  pure (m.writeHeader ++ writeInt m.usernameLength ++ getBytes m.username ++ m.keyType :: key)

theorem calculateKey_ascii (keyType : Byte) {key : Key} {s : JavaString}
    (h : calculateKey keyType key = some s) : IsAscii s := by
  have hkey := newString_ascii key.ascii
  have hheader : IsAscii KEY_FILE_HEADER := by simp [IsAscii, KEY_FILE_HEADER, java]
  have hfooter : IsAscii KEY_FILE_FOOTER := by simp [IsAscii, KEY_FILE_FOOTER, java]
  have hpem : ∀ p ∈ (newString key.encoded).zipIdx,
      IsAscii (if p.2 % 64 = 0 then java "\n" ++ [p.1] else [p.1]) := by
    intro p hp
    have hc : p.1.toNat < 128 := hkey p.1 (List.fst_mem_of_mem_zipIdx hp)
    split <;> simp [IsAscii, java, hc]
  unfold calculateKey at h
  split_ifs at h
  · cases h
    exact isAscii_append.mpr ⟨isAscii_append.mpr ⟨hheader, isAscii_flatMap hpem⟩, hfooter⟩
  · cases h
    exact hkey

theorem base_length {keyType : KeyType} {usernameLength : BitVec 32} {n : Nat}
    (hn : usernameLength.toInt = n) (hle : n ≤ MAX_UNAME_LEN) :
    BabbleOnMessage.new MessageType.LoginMessage
        ((4#32 + usernameLength + 1#32 + keyType.getKeyLen).signExtend 64) =
      .ok ⟨MessageType.LoginMessage, BitVec.ofNat 64 (5 + n + keyType.getKeyLen.toNat)⟩ := by
  unfold MAX_UNAME_LEN at hle
  have hkey : keyType.getKeyLen.toNat ≤ 271 := by cases keyType <;> decide
  have hsum : (4#32 + usernameLength + 1#32 + keyType.getKeyLen).toNat =
      5 + n + keyType.getKeyLen.toNat := by
    have hnat := toNat_of_toInt hn
    simp only [BitVec.toNat_add, BitVec.toNat_ofNat, hnat]
    omega
  rw [signExtend_small hsum (by omega), BabbleOnMessage.new_short (by decide) (by omega)]

theorem new_inv {usernameLength : BitVec 32} {username : Option JavaString} {keyType : KeyType}
    {publicKey : Option Key} {m : LoginMessage}
    (h : new usernameLength username keyType publicKey = .ok m) :
    ∃ name, username = some name ∧ usernameLength.toInt = name.length ∧
      name.length ≤ MAX_UNAME_LEN ∧
      m.toBabbleOnMessage = ⟨MessageType.LoginMessage,
        BitVec.ofNat 64 (5 + name.length + keyType.getKeyLen.toNat)⟩ ∧
      m.usernameLength = usernameLength ∧ m.username = name ∧ m.keyType = keyType.ordinal ∧
      ∀ s, m.publicKeyStr = some s → IsAscii s := by
  obtain ⟨base, hnew, hcheck⟩ := BabbleOnMessage.new_any MessageType.LoginMessage
    (by decide) ((4#32 + usernameLength + 1#32 + keyType.getKeyLen).signExtend 64)
  simp only [new, hnew, bind, Except.bind, hcheck] at h
  split at h
  · cases h
  rename_i hv
  rw [Bool.not_eq_true', Bool.not_eq_false, validLength_iff] at hv
  split at h
  · cases h
  rename_i name
  split at h
  · cases h
  rename_i hl
  have hl := not_not.mp hl
  have hle : name.length ≤ MAX_UNAME_LEN := by omega
  rw [base_length hl hle] at hnew
  cases hnew
  refine ⟨name, rfl, hl, hle, ?_⟩
  split at h
  · cases h
  · cases h
    exact ⟨rfl, rfl, rfl, rfl, fun s hs => calculateKey_ascii KeyType.ASYMMETRIC.ordinal hs⟩
  · cases h
    exact ⟨rfl, rfl, rfl, rfl, fun s hs => by cases hs⟩

theorem new_none {usernameLength : BitVec 32} {name : JavaString} {publicKey : Option Key} {m : LoginMessage}
    (h : new usernameLength (some name) .NONE publicKey = .ok m) :
    usernameLength.toInt = name.length ∧ name.length ≤ MAX_UNAME_LEN ∧
      m = ⟨⟨MessageType.LoginMessage, BitVec.ofNat 64 (5 + name.length)⟩, usernameLength, name,
        KeyType.NONE.ordinal, none, none, none⟩ := by
  obtain ⟨base, hnew, hcheck⟩ := BabbleOnMessage.new_any MessageType.LoginMessage
    (by decide) ((4#32 + usernameLength + 1#32 + KeyType.NONE.getKeyLen).signExtend 64)
  simp only [new, hnew, bind, Except.bind, hcheck] at h
  split_ifs at h with hv hl
  rw [Bool.not_eq_true', Bool.not_eq_false, validLength_iff] at hv
  have hl := not_not.mp hl
  have hle : name.length ≤ MAX_UNAME_LEN := by omega
  rw [base_length hl hle] at hnew
  cases hnew
  cases h
  exact ⟨hl, hle, rfl⟩

end LoginMessage

structure ResponseMessage extends BabbleOnMessage where
  usernameLength : BitVec 32
  username : JavaString
  hashLen : BitVec 32
  hash : JavaString
  nonce : BitVec 64

namespace ResponseMessage

def new (usernameLength : BitVec 32) (username : Option JavaString) (fLen : BitVec 32)
    (hashF : Option JavaString) (nonce : BitVec 64) : Except JavaThrow ResponseMessage := do
  let base ← BabbleOnMessage.new MessageType.ResponseMessage
    ((4#32 * 2#32 + usernameLength + fLen + 8#32).signExtend 64)
  let base := base.checkType MessageType.ResponseMessage
  match hashF with
  | none => throw .nullPointer
  | some hash =>
    if fLen.toInt ≠ hash.length then throw (.babble "Invalid hash length")
    else if fLen.toInt ≠ hash.length then throw (.babble "Hash lens do not match")
    else if !validLength usernameLength MAX_UNAME_LEN then throw (.babble "Invalid usernameLength")
    else match username with
    | none => throw (.babble "Invalid username")
    | some username =>
      if usernameLength.toInt ≠ username.length then throw (.babble "Invalid username")
      else pure ⟨base, usernameLength, username, fLen, hash, nonce⟩

def encode (m : ResponseMessage) : Bytes :=
  m.writeHeader ++ writeInt m.usernameLength ++ getBytes m.username ++ writeInt m.hashLen ++
    getBytes m.hash ++ writeLong m.nonce

def ofStream : Input ResponseMessage := do
  let base := BabbleOnMessage.sup.checkType MessageType.ResponseMessage
  let usernameLength ← BabbleOnMessage.readInt MAX_UNAME_LEN
  if !validLength usernameLength MAX_UNAME_LEN then throw (.babble "Invalid usernameLength") else
  let username ← BabbleOnMessage.readStr usernameLength
  if usernameLength.toInt ≠ username.length then throw (.babble "Invalid username") else
  let hashLen ← BabbleOnMessage.readInt MAX_VALUE
  if 0 > hashLen.toInt then throw (.babble "Invalid functionLength") else
  let hash ← BabbleOnMessage.readStr hashLen
  if hashLen.toInt ≠ hash.length then throw (.babble "Hash length mismatch") else
  let nonce ← BabbleOnMessage.readLong
  pure ⟨base, usernameLength, username, hashLen, hash, nonce⟩

def messageLenOf (usernameLength fLen : BitVec 32) : BitVec 64 :=
  let len := (4#32 * 2#32 + usernameLength + fLen + 8#32).signExtend 64
  if len.toInt > 0 then len else 0#64

theorem base_length (usernameLength fLen : BitVec 32) :
    BabbleOnMessage.new MessageType.ResponseMessage
        ((4#32 * 2#32 + usernameLength + fLen + 8#32).signExtend 64) =
      .ok ⟨MessageType.ResponseMessage, messageLenOf usernameLength fLen⟩ := by
  rw [BabbleOnMessage.new, if_neg (by decide)]
  rfl

theorem new_eq_ok {usernameLength fLen : BitVec 32} {username hashF : Option JavaString}
    {nonce : BitVec 64} {m : ResponseMessage} :
    new usernameLength username fLen hashF nonce = .ok m ↔
      ∃ name hash, username = some name ∧ hashF = some hash ∧
        usernameLength.toInt = name.length ∧ name.length ≤ MAX_UNAME_LEN ∧
        fLen.toInt = hash.length ∧
        m = ⟨⟨MessageType.ResponseMessage, messageLenOf usernameLength fLen⟩, usernameLength, name,
          fLen, hash, nonce⟩ := by
  constructor
  · intro h
    simp only [new, base_length, bind, Except.bind] at h
    split at h
    · cases h
    rename_i hash
    split_ifs at h with hf hv
    rw [Bool.not_eq_true', Bool.not_eq_false, validLength_iff] at hv
    split at h
    · cases h
    rename_i name
    split_ifs at h with hl
    cases h
    exact ⟨name, hash, rfl, rfl, not_not.mp hl, by omega, not_not.mp hf, rfl⟩
  · rintro ⟨name, hash, rfl, rfl, hl, hle, hf, rfl⟩
    have hv : validLength usernameLength MAX_UNAME_LEN = true := validLength_iff.mpr (by omega)
    simp only [new, base_length, bind, Except.bind, hv, Bool.not_true, Bool.false_eq_true, if_false]
    rw [if_neg (not_not.mpr hf), if_neg (not_not.mpr hf), if_neg (not_not.mpr hl)]
    rfl

theorem sum_toNat {usernameLength fLen : BitVec 32} {u f : Nat} (hu : usernameLength.toInt = u)
    (hle : u ≤ MAX_UNAME_LEN) (hf : fLen.toInt = f) :
    (4#32 * 2#32 + usernameLength + fLen + 8#32).toNat = 16 + u + f := by
  have hflt : fLen.toInt < 2 ^ 31 := BitVec.toInt_lt
  unfold MAX_UNAME_LEN at hle
  simp only [BitVec.toNat_add, BitVec.toNat_mul, BitVec.toNat_ofNat, toNat_of_toInt hu,
    toNat_of_toInt hf]
  omega

theorem messageLenOf_short {usernameLength fLen : BitVec 32} {u f : Nat}
    (hu : usernameLength.toInt = u) (hle : u ≤ MAX_UNAME_LEN) (hf : fLen.toInt = f)
    (hsum : 16 + u + f < 2 ^ 31) :
    messageLenOf usernameLength fLen = BitVec.ofNat 64 (16 + u + f) := by
  unfold messageLenOf
  dsimp only
  rw [signExtend_small (sum_toNat hu hle hf) hsum, toInt_ofNat_long (by omega), if_pos (by omega)]

theorem messageLenOf_wrapped {usernameLength fLen : BitVec 32} {u f : Nat}
    (hu : usernameLength.toInt = u) (hle : u ≤ MAX_UNAME_LEN) (hf : fLen.toInt = f)
    (hsum : 2 ^ 31 ≤ 16 + u + f) : messageLenOf usernameLength fLen = 0#64 := by
  have hflt : fLen.toInt < 2 ^ 31 := BitVec.toInt_lt
  have hnat := sum_toNat hu hle hf
  unfold messageLenOf MAX_UNAME_LEN at *
  dsimp only
  rw [BitVec.toInt_signExtend_of_le (by omega), BitVec.toInt_eq_toNat_cond, if_neg (by omega)]

end ResponseMessage

structure PollMessage extends BabbleOnMessage where
  usernameLength : BitVec 32
  username : JavaString
  timestamp : BitVec 64

namespace PollMessage

def new (currentTimeMillis : BitVec 64) (usernameLength : BitVec 32) (username : Option JavaString)
    (timestamp : BitVec 64) : Except JavaThrow PollMessage := do
  let base ← BabbleOnMessage.new MessageType.PollMessage
    ((4#32 + usernameLength + 8#32).signExtend 64)
  let base := base.checkType MessageType.PollMessage
  if !validLength usernameLength MAX_UNAME_LEN then throw (.babble "Invalid usernameLength")
  else match username with
  | none => throw (.babble "Invalid username")
  | some username =>
    if usernameLength.toInt ≠ username.length then throw (.babble "Invalid username")
    else if timestamp.toInt > currentTimeMillis.toInt then
      throw (.babble "Cannot have future message time")
    else if 0 > timestamp.toInt then throw (.babble "Negative time not accepted")
    else pure ⟨base, usernameLength, username, timestamp⟩

def encode (m : PollMessage) : Bytes :=
  m.writeHeader ++ writeInt m.usernameLength ++ getBytes m.username ++ writeLong m.timestamp

def ofStream (currentTimeMillis : BitVec 64) : Input PollMessage := do
  let base := BabbleOnMessage.sup.checkType MessageType.PollMessage
  let usernameLength ← BabbleOnMessage.readInt MAX_UNAME_LEN
  if !validLength usernameLength MAX_UNAME_LEN then throw (.babble "Invalid usernameLength") else
  let username ← BabbleOnMessage.readStr usernameLength
  if usernameLength.toInt ≠ username.length then throw (.babble "Invalid username") else
  let timestamp ← BabbleOnMessage.readLong
  if timestamp.toInt > currentTimeMillis.toInt then
    throw (.babble "Cannot have future message time")
  else if 0 < timestamp.toInt then throw (.babble "Non-negative time not accepted")
  else pure ⟨base, usernameLength, username, timestamp⟩

theorem base_length {usernameLength : BitVec 32} {n : Nat} (hn : usernameLength.toInt = n)
    (hle : n ≤ MAX_UNAME_LEN) :
    BabbleOnMessage.new MessageType.PollMessage ((4#32 + usernameLength + 8#32).signExtend 64) =
      .ok ⟨MessageType.PollMessage, BitVec.ofNat 64 (12 + n)⟩ := by
  unfold MAX_UNAME_LEN at hle
  have hsum : (4#32 + usernameLength + 8#32).toNat = 12 + n := by
    simp only [BitVec.toNat_add, BitVec.toNat_ofNat, toNat_of_toInt hn]
    omega
  rw [signExtend_small hsum (by omega), BabbleOnMessage.new_short (by decide) (by omega)]

theorem new_eq_ok {now : BitVec 64} {usernameLength : BitVec 32} {username : Option JavaString}
    {timestamp : BitVec 64} {m : PollMessage} :
    new now usernameLength username timestamp = .ok m ↔
      ∃ name, username = some name ∧ usernameLength.toInt = name.length ∧
        name.length ≤ MAX_UNAME_LEN ∧ 0 ≤ timestamp.toInt ∧ timestamp.toInt ≤ now.toInt ∧
        m = ⟨⟨MessageType.PollMessage, BitVec.ofNat 64 (12 + name.length)⟩, usernameLength, name,
          timestamp⟩ := by
  constructor
  · intro h
    obtain ⟨base, hnew, hcheck⟩ := BabbleOnMessage.new_any MessageType.PollMessage
      (by decide) ((4#32 + usernameLength + 8#32).signExtend 64)
    simp only [new, hnew, bind, Except.bind, hcheck] at h
    split at h
    · cases h
    rename_i hv
    rw [Bool.not_eq_true', Bool.not_eq_false, validLength_iff] at hv
    split at h
    · cases h
    rename_i name
    split_ifs at h with hl hf hn
    have hl := not_not.mp hl
    have hle : name.length ≤ MAX_UNAME_LEN := by omega
    rw [base_length hl hle] at hnew
    cases hnew
    cases h
    exact ⟨name, rfl, hl, hle, by omega, by omega, rfl⟩
  · rintro ⟨name, rfl, hl, hle, h0, hnow, rfl⟩
    have hv : validLength usernameLength MAX_UNAME_LEN = true := validLength_iff.mpr (by omega)
    simp only [new, base_length hl hle, bind, Except.bind, hv, Bool.not_true, Bool.false_eq_true,
      if_false]
    rw [if_neg (by omega), if_neg (by omega), if_neg (by omega)]
    rfl

end PollMessage

structure ChallengeMessage extends BabbleOnMessage where
  challenge : Bytes

namespace ChallengeMessage

def CHALLENGE_LEN : Nat := 8

def readBytes : Nat → Input Bytes
  | 0 => pure []
  | n + 1 => do
    let b ← onIOException dsReadByte (.babble "Invalid challenge length")
    let rest ← readBytes n
    pure (b :: rest)

def ofStream : Input ChallengeMessage := do
  let base := BabbleOnMessage.sup.checkType MessageType.ChallengeMessage
  let challenge ← readBytes CHALLENGE_LEN
  pure ⟨base, challenge⟩

end ChallengeMessage

inductive Errors where
  | SUCCESS
  | INVALID_MSG_TYPE
  | INVALID_USERNAME_PASSWORD
  | FORMATTING_ERROR
  | DEFAULT_ERROR
  | PASSWORD_AUTH
  | INVALID_RECIPIENT
  | INVALID_ERROR
  deriving DecidableEq, Repr

namespace Errors

def values : List Errors :=
  [SUCCESS, INVALID_MSG_TYPE, INVALID_USERNAME_PASSWORD, FORMATTING_ERROR, DEFAULT_ERROR,
    PASSWORD_AUTH, INVALID_RECIPIENT, INVALID_ERROR]

def getErr : Errors → BitVec 32
  | SUCCESS => 0#32
  | INVALID_MSG_TYPE => 1#32
  | INVALID_USERNAME_PASSWORD => 2#32
  | FORMATTING_ERROR => 3#32
  | DEFAULT_ERROR => 4#32
  | PASSWORD_AUTH => 5#32
  | INVALID_RECIPIENT => 6#32
  | INVALID_ERROR => 99#32

def name : Errors → String
  | SUCCESS => "SUCCESS"
  | INVALID_MSG_TYPE => "INVALID_MSG_TYPE"
  | INVALID_USERNAME_PASSWORD => "INVALID_USERNAME_PASSWORD"
  | FORMATTING_ERROR => "FORMATTING_ERROR"
  | DEFAULT_ERROR => "DEFAULT_ERROR"
  | PASSWORD_AUTH => "PASSWORD_AUTH"
  | INVALID_RECIPIENT => "INVALID_RECIPIENT"
  | INVALID_ERROR => "INVALID_ERROR"

def getValue (e : BitVec 32) : String :=
  match values.find? fun er => er.getErr == e with
  | some er => er.name
  | none => INVALID_ERROR.name

end Errors

structure ACKMessage extends BabbleOnMessage where
  errSender : Byte
  error : String
  sender : BitVec 32
  deriving DecidableEq, Repr

namespace ACKMessage

def BINARY : BitVec 32 := 2#32

def findError (errSender : Byte) : BitVec 32 := errSender.signExtend 32 >>> 1

def new (errSender : Byte) : Except JavaThrow ACKMessage := do
  let base ← BabbleOnMessage.new MessageType.ACKMessage 1#64
  let base := base.checkType MessageType.ACKMessage
  pure ⟨base, errSender, Errors.getValue (findError errSender),
    (errSender.signExtend 32).srem BINARY⟩

def encode (m : ACKMessage) : Bytes := m.writeHeader ++ [m.errSender]

def ofStream : Input ACKMessage := do
  let base := BabbleOnMessage.sup.checkType MessageType.ACKMessage
  let errSender ← onIOException dsReadByte (.babble "Impropper message format")
  pure ⟨base, errSender, Errors.getValue (findError errSender),
    (errSender.signExtend 32).srem BINARY⟩

end ACKMessage

end Client
