import BabbleOn.Client.BabbleOnMessage

namespace Client
open Execution

-- `update` may give no array at all; `doFinal` may throw a padding or a block size exception
structure Cipher (κ : Type) where
  getBlockSize : Nat
  update : κ → Bytes → Option Bytes × κ
  doFinal : κ → Bytes → Option Bytes × κ
  positive : 0 < getBlockSize
  bounded : ∀ k b out k', doFinal k b = (some out, k') → out.length < 2 ^ 31

theorem block_positive : 0 < 16 := by decide

namespace Cipher

variable {κ : Type}

def step (f : κ → Option Bytes × κ) : EStateM JavaThrow κ (Option Bytes) := fun k =>
  .ok (f k).1 (f k).2

theorem step_run {f : κ → Option Bytes × κ} {k k' : κ} {out : Option Bytes} (h : f k = (out, k')) :
    (step f).run k = .ok out k' := by
  simp only [EStateM.run, step, h]

theorem step_inv {f : κ → Option Bytes × κ} {k k' : κ} {out : Option Bytes}
    (h : (step f).run k = .ok out k') : f k = (out, k') := by
  cases h
  rfl

end Cipher

structure Reader (κ : Type) where
  input : Bytes
  decrypt : κ

variable {κ : Type}

def fromInput {α : Type} (m : Input α) : EStateM JavaThrow (Reader κ) α := fun r =>
  match m.run r.input with
  | .ok a rest => .ok a { r with input := rest }
  | .error e rest => .error e { r with input := rest }

def fromCipher {α : Type} (m : EStateM JavaThrow κ α) : EStateM JavaThrow (Reader κ) α := fun r =>
  match m.run r.decrypt with
  | .ok a k => .ok a { r with decrypt := k }
  | .error e k => .error e { r with decrypt := k }

theorem fromInput_ok {α : Type} {m : Input α} {a : α} {input rest : Bytes} (h : m.run input = .ok a rest)
    (k : κ) : (fromInput m).run ⟨input, k⟩ = .ok a ⟨rest, k⟩ := by
  simp only [EStateM.run, fromInput] at h ⊢
  simp only [h]

theorem fromInput_error {α : Type} {m : Input α} {e : JavaThrow} {input rest : Bytes}
    (h : m.run input = .error e rest) (k : κ) :
    (fromInput m).run ⟨input, k⟩ = .error e ⟨rest, k⟩ := by
  simp only [EStateM.run, fromInput] at h ⊢
  simp only [h]

theorem fromInput_eq_ok {α : Type} {m : Input α} {input : Bytes} {k : κ} {a : α} {r : Reader κ} :
    (fromInput m).run ⟨input, k⟩ = .ok a r ↔ m.run input = .ok a r.input ∧ r.decrypt = k := by
  obtain ⟨rest, k'⟩ := r
  cases h : m.run input with
  | ok b left =>
    rw [fromInput_ok h]
    simp [and_assoc, eq_comm]
  | error e left =>
    rw [fromInput_error h]
    simp

theorem fromCipher_ok {α : Type} {m : EStateM JavaThrow κ α} {a : α} {k k' : κ}
    (h : m.run k = .ok a k') (input : Bytes) : (fromCipher m).run ⟨input, k⟩ = .ok a ⟨input, k'⟩ := by
  simp only [EStateM.run, fromCipher] at h ⊢
  simp only [h]

theorem fromCipher_eq_ok {α : Type} {m : EStateM JavaThrow κ α} {input : Bytes} {k : κ} {a : α}
    {r : Reader κ} :
    (fromCipher m).run ⟨input, k⟩ = .ok a r ↔ m.run k = .ok a r.decrypt ∧ r.input = input := by
  obtain ⟨rest, k'⟩ := r
  simp only [EStateM.run, fromCipher]
  cases h : m k with
  | ok b left =>
    constructor
    · intro hrun
      cases hrun
      exact ⟨rfl, rfl⟩
    · rintro ⟨hrun, rfl⟩
      cases hrun
      rfl
  | error e left => simp

structure MsgMessage extends BabbleOnMessage where
  senderUsernameLength : BitVec 32
  senderUsername : JavaString
  receiverUsernameLength : BitVec 32
  receiverUsername : JavaString
  messageLengthEncrypted : BitVec 32
  message : JavaString
  messageLenDecrypted : BitVec 64
  messageNumber : BitVec 32
  totalMessages : BitVec 32
  timestamp : BitVec 64
  encrypted : Bytes

namespace MsgMessage

def MAX_MSG_LEN : Nat := 15
def MAX_MSGS : Nat := 500

-- the third argument of `update` and of `doFinal` is a count, here always given as an end
def encryptLoop (c : Cipher κ) (chunk : Bytes) (write : Nat) : EStateM JavaThrow κ Nat := do
  if _h : write + c.getBlockSize < chunk.length then
    if write + (write + c.getBlockSize) > chunk.length then throw .illegalArgument
    else do
      let _ ← Cipher.step fun k => c.update k ((chunk.drop write).take (write + c.getBlockSize))
      encryptLoop c chunk (write + c.getBlockSize)
  else pure write
termination_by chunk.length - write
decreasing_by
  have := c.positive
  omega

def doEncryption (c : Cipher κ) (message : JavaString) : EStateM JavaThrow κ Bytes := do
  let chunk := getBytes message
  let write ← encryptLoop c chunk 0
  if write < chunk.length then
    if write + chunk.length > chunk.length then throw .illegalArgument
    else do
      let b ← Cipher.step fun k => c.doFinal k ((chunk.drop write).take chunk.length)
      match b with
      | some b => pure b
      | none => throw (.babble "Bad stuffs happening in messages")
  else pure []

def new (currentTimeMillis : BitVec 64) (encrypt : Cipher κ) (senderUsernameLength : BitVec 32)
    (senderUsername : Option JavaString) (receiverUsernameLength : BitVec 32)
    (receiverUsername message : Option JavaString) (messageLength : BitVec 64)
    (messageNumber totalMessages : BitVec 32) (timestamp : BitVec 64) :
    EStateM JavaThrow κ MsgMessage := do
  let base ← ofExcept (BabbleOnMessage.new MessageType.MsgMessage
    ((senderUsernameLength + receiverUsernameLength).signExtend 64 + messageLength + 8#64 * 2#64 +
      4#64 * 5#64))
  let base := base.checkType MessageType.MsgMessage
  if !validLength senderUsernameLength MAX_UNAME_LEN then
    throw (.babble "Invalid usernameLength") else
  match senderUsername with
  | none => throw (.babble "Invalid username")
  | some senderUsername =>
  if senderUsernameLength.toInt ≠ senderUsername.length then throw (.babble "Invalid username") else
  if !validLength receiverUsernameLength MAX_UNAME_LEN then
    throw (.babble "Invalid usernameLength") else
  match receiverUsername with
  | none => throw (.babble "Invalid username")
  | some receiverUsername =>
  if receiverUsernameLength.toInt ≠ receiverUsername.length then
    throw (.babble "Invalid username") else
  if 0 > messageLength.toInt ∨ (MAX_MSG_LEN : Int) < messageLength.toInt then
    throw (.babble "Invalid messageLength") else
  match message with
  | none => throw (.babble ("Invalid message length: " ++ toString messageLength.toInt ++ " v. 0"))
  | some message =>
  if messageLength.toInt ≠ message.length then
    throw (.babble ("Invalid message length: " ++ toString messageLength.toInt ++ " v. " ++
      toString message.length)) else
  let encrypted ← doEncryption encrypt message
  if totalMessages.toInt < messageNumber.toInt then
    throw (.babble ("Cannot have more than " ++ toString totalMessages.toInt ++ " messages"))
  else if 0 ≥ totalMessages.toInt ∨ 0 ≥ messageNumber.toInt then
    throw (.babble "Message count value invalid")
  else if timestamp.toInt > currentTimeMillis.toInt then
    throw (.babble "Cannot have future message time")
  else pure ⟨base, senderUsernameLength, senderUsername, receiverUsernameLength, receiverUsername,
    BitVec.ofNat 32 encrypted.length, message, messageLength, messageNumber, totalMessages,
    timestamp, encrypted⟩

def decryptLoop (decrypt : Cipher κ) (messageLengthEncrypted : Nat) (read : Nat) (chunk bs : Bytes) :
    EStateM JavaThrow (Reader κ) (Nat × Bytes × Bytes) := do
  if _h : read + decrypt.getBlockSize < messageLengthEncrypted then do
    let chunk ← fromInput (Client.read chunk)
    let out ← fromCipher (Cipher.step fun k => decrypt.update k chunk)
    match out with
    | none => throw .nullPointer
    | some out =>
      decryptLoop decrypt messageLengthEncrypted (read + decrypt.getBlockSize) chunk (bs ++ out)
  else pure (read, chunk, bs)
termination_by messageLengthEncrypted - read
decreasing_by
  have := decrypt.positive
  omega

def ofStream (currentTimeMillis : BitVec 64) (decrypt : Cipher κ) :
    EStateM JavaThrow (Reader κ) MsgMessage := do
  let base := BabbleOnMessage.sup.checkType MessageType.MsgMessage
  let senderUsernameLength ← fromInput (BabbleOnMessage.readInt MAX_UNAME_LEN)
  let senderUsername ← fromInput (BabbleOnMessage.readStr senderUsernameLength)
  if senderUsernameLength.toInt ≠ senderUsername.length then throw (.babble "Invalid username") else
  let receiverUsernameLength ← fromInput (BabbleOnMessage.readInt MAX_UNAME_LEN)
  let receiverUsername ← fromInput (BabbleOnMessage.readStr receiverUsernameLength)
  if receiverUsernameLength.toInt ≠ receiverUsername.length then
    throw (.babble "Invalid username") else
  let messageLengthEncrypted ← fromInput (BabbleOnMessage.readInt MAX_VALUE)
  let (read, chunk, bs) ← decryptLoop decrypt messageLengthEncrypted.toNat 0
    (List.replicate decrypt.getBlockSize 0#8) []
  let bs ←
    if read < messageLengthEncrypted.toNat then do
      let chunk ← fromInput (Client.read chunk)
      let out ← fromCipher (Cipher.step fun k => decrypt.doFinal k chunk)
      match out with
      | none => throw (.babble "Bad stuffs happening in messages: ")
      | some out => pure (bs ++ out)
    else pure bs
  let message := newString bs
  let messageLenDecrypted ← fromInput BabbleOnMessage.readLong
  if (message.length : Int) ≠ messageLenDecrypted.toInt ∨
      messageLenDecrypted.toInt > (MAX_MSG_LEN * MAX_MSGS : Nat) then
    throw (.babble ("Message lengths do not match: " ++ toString message.length ++ " : " ++
      toString messageLenDecrypted.toInt)) else
  let messageNumber ← fromInput (BabbleOnMessage.readInt MAX_VALUE)
  let totalMessages ← fromInput (BabbleOnMessage.readInt MAX_VALUE)
  if totalMessages.toInt < messageNumber.toInt then
    throw (.babble ("Cannot have more than " ++ toString totalMessages.toInt ++ " messages")) else
  if 0 ≥ totalMessages.toInt ∨ 0 ≥ messageNumber.toInt then
    throw (.babble "Message count value invalid") else
  let timestamp ← fromInput BabbleOnMessage.readLong
  if timestamp.toInt > currentTimeMillis.toInt then
    throw (.babble "Cannot have future message time")
  else if 0 > timestamp.toInt then throw (.babble "Non-negative time not accepted")
  else pure ⟨base, senderUsernameLength, senderUsername, receiverUsernameLength, receiverUsername,
    messageLengthEncrypted, message, messageLenDecrypted, messageNumber, totalMessages, timestamp, []⟩

def encode (currentTimeMillis : BitVec 64) (m : MsgMessage) : Bytes :=
  writeInt m.senderUsernameLength ++ getBytes m.senderUsername ++
    writeInt m.receiverUsernameLength ++ getBytes m.receiverUsername ++
    writeInt (BitVec.ofNat 32 m.encrypted.length) ++ m.encrypted ++
    writeLong m.messageLenDecrypted ++ writeInt m.messageNumber ++ writeInt m.totalMessages ++
    writeLong currentTimeMillis

def getLen (newMessages : List MsgMessage) : BitVec 64 :=
  newMessages.foldl (fun ret m => ret + m.senderUsernameLength.signExtend 64 +
    m.receiverUsernameLength.signExtend 64 + BitVec.ofNat 64 m.encrypted.length + 8#64 * 2#64 +
    4#64 * 5#64) 0#64

theorem doEncryption_short {c : Cipher κ} {message : JavaString}
    (hlen : (getBytes message).length ≤ c.getBlockSize) (hne : 0 < (getBytes message).length)
    {k k' : κ} {b : Bytes} (hfinal : c.doFinal k (getBytes message) = (some b, k')) :
    (doEncryption c message).run k = .ok b k' := by
  have hloop : (encryptLoop c (getBytes message) 0).run k = .ok 0 k := by
    rw [encryptLoop, dif_neg (by omega), run_pure]
  unfold doEncryption
  dsimp only
  rw [bind_ok hloop, if_pos hne, if_neg (by omega), List.drop_zero, List.take_length,
    bind_ok (Cipher.step_run hfinal), run_pure]

theorem doEncryption_bounded {c : Cipher κ} {message : JavaString} {k k' : κ} {b : Bytes}
    (h : (doEncryption c message).run k = .ok b k') : b.length < 2 ^ 31 := by
  obtain ⟨write, k₁, _, h⟩ := bind_eq_ok.mp h
  split at h
  · split at h
    · cases h
    · obtain ⟨out, k₂, hf, h⟩ := bind_eq_ok.mp h
      cases out with
      | none => cases h
      | some out =>
        cases h
        exact c.bounded _ _ _ _ (Cipher.step_inv hf)
  · cases h
    decide

def messageLenOf (senderUsernameLength receiverUsernameLength : BitVec 32)
    (messageLength : BitVec 64) : BitVec 64 :=
  let len := (senderUsernameLength + receiverUsernameLength).signExtend 64 + messageLength +
    8#64 * 2#64 + 4#64 * 5#64
  if len.toInt > 0 then len else 0#64

theorem base_length (senderUsernameLength receiverUsernameLength : BitVec 32)
    (messageLength : BitVec 64) :
    BabbleOnMessage.new MessageType.MsgMessage
        ((senderUsernameLength + receiverUsernameLength).signExtend 64 + messageLength +
          8#64 * 2#64 + 4#64 * 5#64) =
      .ok ⟨MessageType.MsgMessage,
        messageLenOf senderUsernameLength receiverUsernameLength messageLength⟩ := by
  rw [BabbleOnMessage.new, if_neg (by decide)]
  rfl

theorem new_eq_ok {now : BitVec 64} {encrypt : Cipher κ} {sLen rLen : BitVec 32}
    {sender receiver message : Option JavaString} {messageLength : BitVec 64}
    {messageNumber totalMessages : BitVec 32} {timestamp : BitVec 64} {k k' : κ} {m : MsgMessage} :
    (new now encrypt sLen sender rLen receiver message messageLength messageNumber totalMessages
        timestamp).run k = .ok m k' ↔
      ∃ s r text enc, sender = some s ∧ receiver = some r ∧ message = some text ∧
        (sLen.toInt = s.length ∧ s.length ≤ MAX_UNAME_LEN) ∧
        (rLen.toInt = r.length ∧ r.length ≤ MAX_UNAME_LEN) ∧
        (messageLength.toInt = text.length ∧ text.length ≤ MAX_MSG_LEN) ∧
        (doEncryption encrypt text).run k = .ok enc k' ∧
        (0 < messageNumber.toInt ∧ messageNumber.toInt ≤ totalMessages.toInt) ∧
        timestamp.toInt ≤ now.toInt ∧
        m = ⟨⟨MessageType.MsgMessage, messageLenOf sLen rLen messageLength⟩, sLen, s, rLen, r,
          BitVec.ofNat 32 enc.length, text, messageLength, messageNumber, totalMessages, timestamp,
          enc⟩ := by
  constructor
  · intro h
    rw [new, base_length, ofExcept, bind_ok (run_pure _ _)] at h
    dsimp only at h
    obtain ⟨hs, h⟩ := throwIf_eq_ok.mp h
    rw [Bool.not_eq_true', Bool.not_eq_false, validLength_iff] at hs
    cases sender with
    | none => cases h
    | some s =>
      obtain ⟨hsl, h⟩ := throwIf_eq_ok.mp h
      obtain ⟨hr, h⟩ := throwIf_eq_ok.mp h
      rw [Bool.not_eq_true', Bool.not_eq_false, validLength_iff] at hr
      cases receiver with
      | none => cases h
      | some r =>
        obtain ⟨hrl, h⟩ := throwIf_eq_ok.mp h
        obtain ⟨hm, h⟩ := throwIf_eq_ok.mp h
        cases message with
        | none => cases h
        | some text =>
          obtain ⟨hml, h⟩ := throwIf_eq_ok.mp h
          obtain ⟨enc, k₁, henc, h⟩ := bind_eq_ok.mp h
          obtain ⟨hn, h⟩ := throwIf_eq_ok.mp h
          obtain ⟨hp, h⟩ := throwIf_eq_ok.mp h
          obtain ⟨ht, h⟩ := throwIf_eq_ok.mp h
          cases h
          exact ⟨s, r, text, enc, rfl, rfl, rfl, ⟨not_not.mp hsl, by omega⟩,
            ⟨not_not.mp hrl, by omega⟩, ⟨not_not.mp hml, by omega⟩, henc, by omega, by omega, rfl⟩
  · rintro ⟨s, r, text, enc, rfl, rfl, rfl, ⟨hsl, hs⟩, ⟨hrl, hr⟩, ⟨hml, hm⟩, henc, hn, ht, rfl⟩
    have hsv : validLength sLen MAX_UNAME_LEN = true := validLength_iff.mpr (by omega)
    have hrv : validLength rLen MAX_UNAME_LEN = true := validLength_iff.mpr (by omega)
    rw [new, base_length, ofExcept, bind_ok (run_pure _ _)]
    simp only [hsv, hrv, Bool.not_true, Bool.false_eq_true, if_false]
    rw [if_neg (not_not.mpr hsl), if_neg (not_not.mpr hrl), if_neg (by omega),
      if_neg (not_not.mpr hml), bind_ok henc, if_neg (by omega), if_neg (by omega),
      if_neg (by omega)]
    rfl

def entryLength (m : MsgMessage) : Nat :=
  m.senderUsername.length + m.receiverUsername.length + m.encrypted.length + 36

structure Sized (m : MsgMessage) : Prop where
  sender : m.senderUsernameLength.toInt = m.senderUsername.length
  senderShort : m.senderUsername.length ≤ MAX_UNAME_LEN
  receiver : m.receiverUsernameLength.toInt = m.receiverUsername.length
  receiverShort : m.receiverUsername.length ≤ MAX_UNAME_LEN
  encrypted : m.encrypted.length < 2 ^ 31

theorem new_sized {now : BitVec 64} {encrypt : Cipher κ} {sLen rLen : BitVec 32}
    {sender receiver message : Option JavaString} {messageLength : BitVec 64}
    {messageNumber totalMessages : BitVec 32} {timestamp : BitVec 64} {k k' : κ} {m : MsgMessage}
    (h : (new now encrypt sLen sender rLen receiver message messageLength messageNumber totalMessages
      timestamp).run k = .ok m k') : Sized m := by
  obtain ⟨s, r, text, enc, rfl, rfl, rfl, hs, hr, _, henc, _, _, rfl⟩ := new_eq_ok.mp h
  exact ⟨hs.1, hs.2, hr.1, hr.2, doEncryption_bounded henc⟩

theorem Sized.term {m : MsgMessage} (hm : Sized m) (ret : Nat) :
    BitVec.ofNat 64 ret + m.senderUsernameLength.signExtend 64 +
        m.receiverUsernameLength.signExtend 64 + BitVec.ofNat 64 m.encrypted.length + 8#64 * 2#64 +
        4#64 * 5#64 = BitVec.ofNat 64 (ret + entryLength m) := by
  have hs := hm.senderShort
  have hr := hm.receiverShort
  unfold MAX_UNAME_LEN at hs hr
  rw [signExtend_small (toNat_of_toInt hm.sender) (by omega),
    signExtend_small (toNat_of_toInt hm.receiver) (by omega)]
  apply BitVec.eq_of_toNat_eq
  simp only [BitVec.toNat_add, BitVec.toNat_mul, BitVec.toNat_ofNat, entryLength]
  omega

theorem foldl_getLen {msgs : List MsgMessage} (hm : ∀ m ∈ msgs, Sized m) (ret : Nat) :
    msgs.foldl (fun ret m => ret + m.senderUsernameLength.signExtend 64 +
      m.receiverUsernameLength.signExtend 64 + BitVec.ofNat 64 m.encrypted.length + 8#64 * 2#64 +
      4#64 * 5#64) (BitVec.ofNat 64 ret) =
      BitVec.ofNat 64 (ret + (msgs.map entryLength).sum) := by
  induction msgs generalizing ret with
  | nil => rfl
  | cons m msgs ih =>
    rw [List.foldl_cons, (hm m (by simp)).term, ih (fun m' h => hm m' (by simp [h])),
      List.map_cons, List.sum_cons, Nat.add_assoc]

theorem getLen_sum {msgs : List MsgMessage} (hm : ∀ m ∈ msgs, Sized m) :
    getLen msgs = BitVec.ofNat 64 (msgs.map entryLength).sum := by
  have h := foldl_getLen hm 0
  rwa [Nat.zero_add] at h

theorem sum_bound {msgs : List MsgMessage} (hm : ∀ m ∈ msgs, Sized m) :
    (msgs.map entryLength).sum ≤ msgs.length * 2 ^ 32 := by
  induction msgs with
  | nil => exact Nat.le_refl 0
  | cons m msgs ih =>
    have hrest := ih fun m' h => hm m' (by simp [h])
    have hs := (hm m (by simp)).senderShort
    have hr := (hm m (by simp)).receiverShort
    have he := (hm m (by simp)).encrypted
    unfold MAX_UNAME_LEN at hs hr
    rw [List.map_cons, List.sum_cons, List.length_cons, entryLength]
    omega

end MsgMessage

structure PollResponseMessage extends BabbleOnMessage where
  usernameLength : BitVec 32
  username : JavaString
  messageListSize : BitVec 32
  listNumber : BitVec 32
  totalLists : BitVec 32
  newMessages : List MsgMessage

namespace PollResponseMessage

def MAX_LISTS : Nat := 100

def new (usernameLength : BitVec 32) (username : Option JavaString)
    (messageListSize listNumber totalLists : BitVec 32) (newMessages : Option (List MsgMessage)) :
    Except JavaThrow PollResponseMessage :=
  match newMessages with
  | none => throw .nullPointer
  | some newMessages => do
    let base ← BabbleOnMessage.new MessageType.PollResponseMessage
      ((4#32 * 4#32 + usernameLength).signExtend 64 + MsgMessage.getLen newMessages)
    let base := base.checkType MessageType.PollResponseMessage
    if !validLength usernameLength MAX_UNAME_LEN then throw (.babble "Invalid usernameLength")
    else match username with
    | none => throw (.babble "Invalid username")
    | some username =>
      if usernameLength.toInt ≠ username.length then throw (.babble "Invalid username")
      else if 0 > messageListSize.toInt then throw (.babble "Message size cannot be negative")
      else if listNumber.toInt > totalLists.toInt then
        throw (.babble "List number beyond total list limit")
      else if 0 ≥ listNumber.toInt ∨ 0 ≥ totalLists.toInt then
        throw (.babble "List number/TotalLists must be positive")
      else if newMessages.isEmpty then throw (.babble "No messages")
      else pure ⟨base, usernameLength, username, messageListSize, listNumber, totalLists,
        newMessages⟩

def readMessages (currentTimeMillis : BitVec 64) (decrypt : Cipher κ) :
    Nat → EStateM JavaThrow (Reader κ) (List MsgMessage)
  | 0 => pure []
  | n + 1 => do
    let m ← MsgMessage.ofStream currentTimeMillis decrypt
    let rest ← readMessages currentTimeMillis decrypt n
    pure (m :: rest)

def ofStream (currentTimeMillis : BitVec 64) (decrypt : Option (Cipher κ)) :
    EStateM JavaThrow (Reader κ) PollResponseMessage := do
  let base := BabbleOnMessage.sup.checkType MessageType.PollResponseMessage
  let usernameLength ← fromInput (BabbleOnMessage.readInt MAX_UNAME_LEN)
  let username ← fromInput (BabbleOnMessage.readStr usernameLength)
  if usernameLength.toInt ≠ username.length then throw (.babble "Invalid username") else
  let listNumber ← fromInput (BabbleOnMessage.readInt MAX_LISTS)
  let totalLists ← fromInput (BabbleOnMessage.readInt MAX_LISTS)
  if 0 ≥ listNumber.toInt ∨ 0 ≥ totalLists.toInt then
    throw (.babble "Message count value invalid") else
  if totalLists.toInt < listNumber.toInt then
    throw (.babble ("Cannot have more than " ++ toString totalLists.toInt ++ " lists")) else
  let messageListSize ← fromInput (BabbleOnMessage.readInt MAX_VALUE)
  match decrypt with
  | none => throw (.babble "Cannot decrypt")
  | some decrypt =>
    let newMessages ← readMessages currentTimeMillis decrypt messageListSize.toNat
    pure ⟨base, usernameLength, username, messageListSize, listNumber, totalLists, newMessages⟩

-- every entry asks for the time again when it is written
def encode (clock : Nat → BitVec 64) (m : PollResponseMessage) : Bytes :=
  m.writeHeader ++ writeInt m.usernameLength ++ getBytes m.username ++ writeInt m.listNumber ++
    writeInt m.totalLists ++ writeInt m.messageListSize ++
    m.newMessages.zipIdx.flatMap fun (msg, i) => msg.encode (clock i)

theorem base_total {usernameLength : BitVec 32} {n : Nat} (hn : usernameLength.toInt = n)
    (hle : n ≤ MAX_UNAME_LEN) {msgs : List MsgMessage} (hm : ∀ m ∈ msgs, m.Sized)
    (htotal : 16 + n + (msgs.map MsgMessage.entryLength).sum < 2 ^ 63) :
    BabbleOnMessage.new MessageType.PollResponseMessage
        ((4#32 * 4#32 + usernameLength).signExtend 64 + MsgMessage.getLen msgs) =
      .ok ⟨MessageType.PollResponseMessage,
        BitVec.ofNat 64 (16 + n + (msgs.map MsgMessage.entryLength).sum)⟩ := by
  unfold MAX_UNAME_LEN at hle
  have hsum : (4#32 * 4#32 + usernameLength).toNat = 16 + n := by
    simp only [BitVec.toNat_add, BitVec.toNat_mul, BitVec.toNat_ofNat, toNat_of_toInt hn]
    omega
  rw [signExtend_small hsum (by omega), MsgMessage.getLen_sum hm, ← BitVec.ofNat_add,
    BabbleOnMessage.new_short (by decide) htotal]

theorem base_length {usernameLength : BitVec 32} {n : Nat} (hn : usernameLength.toInt = n)
    (hle : n ≤ MAX_UNAME_LEN) {msgs : List MsgMessage} (hm : ∀ m ∈ msgs, m.Sized)
    (hmany : msgs.length < 2 ^ 31) :
    BabbleOnMessage.new MessageType.PollResponseMessage
        ((4#32 * 4#32 + usernameLength).signExtend 64 + MsgMessage.getLen msgs) =
      .ok ⟨MessageType.PollResponseMessage,
        BitVec.ofNat 64 (16 + n + (msgs.map MsgMessage.entryLength).sum)⟩ := by
  have hbound := MsgMessage.sum_bound hm
  refine base_total hn hle hm ?_
  unfold MAX_UNAME_LEN at hle
  omega

theorem new_eq_ok {usernameLength : BitVec 32} {username : Option JavaString}
    {messageListSize listNumber totalLists : BitVec 32} {newMessages : Option (List MsgMessage)}
    {m : PollResponseMessage} :
    new usernameLength username messageListSize listNumber totalLists newMessages = .ok m ↔
      ∃ name msgs base, username = some name ∧ newMessages = some msgs ∧
        (usernameLength.toInt = name.length ∧ name.length ≤ MAX_UNAME_LEN) ∧
        0 ≤ messageListSize.toInt ∧
        (0 < listNumber.toInt ∧ listNumber.toInt ≤ totalLists.toInt) ∧ msgs ≠ [] ∧
        BabbleOnMessage.new MessageType.PollResponseMessage
          ((4#32 * 4#32 + usernameLength).signExtend 64 + MsgMessage.getLen msgs) = .ok base ∧
        m = ⟨base, usernameLength, name, messageListSize, listNumber, totalLists, msgs⟩ := by
  constructor
  · intro h
    unfold new at h
    split at h
    · cases h
    rename_i msgs
    obtain ⟨base, hnew, hcheck⟩ := BabbleOnMessage.new_any
      MessageType.PollResponseMessage (by decide)
      ((4#32 * 4#32 + usernameLength).signExtend 64 + MsgMessage.getLen msgs)
    simp only [hnew, bind, Except.bind, hcheck] at h
    split at h
    · cases h
    rename_i hv
    rw [Bool.not_eq_true', Bool.not_eq_false, validLength_iff] at hv
    split at h
    · cases h
    rename_i name
    split_ifs at h with hl hsz hln hpos he
    cases h
    exact ⟨name, msgs, base, rfl, rfl, ⟨not_not.mp hl, by omega⟩, by omega, by omega,
      by simpa using he, hnew, rfl⟩
  · rintro ⟨name, msgs, base, rfl, rfl, ⟨hl, hle⟩, hsz, hnum, hne, hnew, rfl⟩
    have hv : validLength usernameLength MAX_UNAME_LEN = true := validLength_iff.mpr (by omega)
    have hcheck : base.checkType MessageType.PollResponseMessage = base := by
      obtain ⟨base', hnew', hcheck'⟩ := BabbleOnMessage.new_any
        MessageType.PollResponseMessage (by decide)
        ((4#32 * 4#32 + usernameLength).signExtend 64 + MsgMessage.getLen msgs)
      rw [hnew] at hnew'
      cases hnew'
      exact hcheck'
    simp only [new, hnew, bind, Except.bind, hcheck, hv, Bool.not_true, Bool.false_eq_true, if_false]
    rw [if_neg (not_not.mpr hl), if_neg (by omega), if_neg (by omega), if_neg (by omega),
      if_neg (by simpa using hne)]
    rfl

end PollResponseMessage

end Client
