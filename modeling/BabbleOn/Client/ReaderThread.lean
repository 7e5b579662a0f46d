import BabbleOn.Library.Pieces
import BabbleOn.Client.Messages
import BabbleOn.Client.MsgMessage

namespace Client
open Execution Pieces SignedWords

variable {κ : Type}

inductive Incoming where
  | ack (m : ACKMessage)
  | challenge (m : ChallengeMessage)
  | login (m : LoginMessage)
  | pollResponse (m : PollResponseMessage)

def readFor (currentTimeMillis : BitVec 64) (decodeKey : JavaString → Except JavaThrow Key)
    (cipherSymmetricIn : Cipher κ) (type : Byte) : EStateM JavaThrow (Reader κ) (Option Incoming) :=
  if type = MessageType.ACKMessage then do
    let m ← fromInput ACKMessage.ofStream
    pure (some (.ack m))
  else if type = MessageType.ChallengeMessage then do
    let m ← fromInput ChallengeMessage.ofStream
    pure (some (.challenge m))
  else if type = MessageType.LoginMessage then do
    let m ← fromInput (LoginMessage.ofStream decodeKey)
    pure (some (.login m))
  else if type = MessageType.PollResponseMessage then do
    let m ← PollResponseMessage.ofStream currentTimeMillis (some cipherSymmetricIn)
    pure (some (.pollResponse m))
  else pure none

-- a `switch` on `null` throws
def receive (currentTimeMillis : BitVec 64) (decodeKey : JavaString → Except JavaThrow Key)
    (cipherSymmetricIn : Cipher κ) : EStateM JavaThrow (Reader κ) (Option Incoming) := do
  let incoming ← fromInput BabbleOnMessage.ofStream
  match MessageType.getMessageType incoming.messageType with
  | none => throw .nullPointer
  | some type => readFor currentTimeMillis decodeKey cipherSymmetricIn type

section Dispatch

variable {now : BitVec 64} {decodeKey : JavaString → Except JavaThrow Key} {c : Cipher κ}
  {r r₁ r₂ : Reader κ} {len : BitVec 64}

theorem receive_known {type : Byte}
    (hhead : (fromInput BabbleOnMessage.ofStream).run r = .ok ⟨type, len⟩ r₁)
    (htype : MessageType.getMessageType type = some type) :
    (receive now decodeKey c).run r = (readFor now decodeKey c type).run r₁ := by
  unfold receive
  rw [bind_ok hhead]
  dsimp only
  rw [htype]

theorem receive_ack {m : ACKMessage}
    (hhead : (fromInput BabbleOnMessage.ofStream).run r = .ok ⟨MessageType.ACKMessage, len⟩ r₁)
    (hread : (fromInput ACKMessage.ofStream).run r₁ = .ok m r₂) :
    (receive now decodeKey c).run r = .ok (some (.ack m)) r₂ := by
  rw [receive_known hhead (by decide), readFor, if_pos rfl, bind_ok hread, run_pure]

theorem receive_challenge {m : ChallengeMessage}
    (hhead : (fromInput BabbleOnMessage.ofStream).run r = .ok ⟨MessageType.ChallengeMessage, len⟩ r₁)
    (hread : (fromInput ChallengeMessage.ofStream).run r₁ = .ok m r₂) :
    (receive now decodeKey c).run r = .ok (some (.challenge m)) r₂ := by
  rw [receive_known hhead (by decide), readFor, if_neg (by decide), if_pos rfl, bind_ok hread,
    run_pure]

theorem receive_login {m : LoginMessage}
    (hhead : (fromInput BabbleOnMessage.ofStream).run r = .ok ⟨MessageType.LoginMessage, len⟩ r₁)
    (hread : (fromInput (LoginMessage.ofStream decodeKey)).run r₁ = .ok m r₂) :
    (receive now decodeKey c).run r = .ok (some (.login m)) r₂ := by
  rw [receive_known hhead (by decide), readFor, if_neg (by decide), if_neg (by decide), if_pos rfl,
    bind_ok hread, run_pure]

theorem receive_pollResponse
    (hhead : (fromInput BabbleOnMessage.ofStream).run r =
      .ok ⟨MessageType.PollResponseMessage, len⟩ r₁) :
    (receive now decodeKey c).run r =
      (do
        let m ← PollResponseMessage.ofStream now (some c)
        pure (some (.pollResponse m)) : EStateM JavaThrow (Reader κ) (Option Incoming)).run r₁ := by
  rw [receive_known hhead (by decide), readFor, if_neg (by decide), if_neg (by decide),
    if_neg (by decide), if_pos rfl]

theorem receive_broken {e : JavaThrow}
    (hhead : (fromInput BabbleOnMessage.ofStream).run r = .error e r₁) :
    (receive now decodeKey c).run r = .error e r₁ :=
  bind_error hhead

end Dispatch

theorem ACKMessage.ofStream_byte (b : Byte) (rest : Bytes) :
    ACKMessage.ofStream.run (b :: rest) = .ok ⟨⟨MessageType.ACKMessage, 0#64⟩, b,
      Errors.getValue (findError b), (b.signExtend 32).srem BINARY⟩ rest :=
  bind_ok (onIOException_ok (dsReadByte_append b rest) _)

theorem ChallengeMessage.readBytes_append (l rest : Bytes) :
    (readBytes l.length).run (l ++ rest) = .ok l rest := by
  induction l with
  | nil => rfl
  | cons b l ih =>
    rw [List.length_cons, readBytes, List.cons_append,
      bind_ok (onIOException_ok (dsReadByte_append b (l ++ rest)) _), bind_ok ih, run_pure]

theorem ChallengeMessage.ofStream_bytes {challenge : Bytes} (h : challenge.length = CHALLENGE_LEN)
    (rest : Bytes) : ChallengeMessage.ofStream.run (challenge ++ rest) =
      .ok ⟨⟨MessageType.ChallengeMessage, 0#64⟩, challenge⟩ rest := by
  unfold ofStream
  rw [← h, bind_ok (readBytes_append challenge rest), run_pure]
  rfl

theorem name_int {name : Bytes} (h : name.length ≤ MAX_UNAME_LEN) :
    (BitVec.ofNat 32 name.length).toNat = name.length ∧
      (BitVec.ofNat 32 name.length).toInt = name.length := by
  unfold MAX_UNAME_LEN at h
  have hn : (BitVec.ofNat 32 name.length).toNat = name.length := by
    rw [BitVec.toNat_ofNat]
    omega
  exact ⟨hn, by rw [BitVec.toInt_eq_toNat_of_lt (by omega), hn]⟩

theorem readInt_name {name : Bytes} (h : name.length ≤ MAX_UNAME_LEN) (rest : Bytes) :
    (BabbleOnMessage.readInt MAX_UNAME_LEN).run (writeInt (BitVec.ofNat 32 name.length) ++ rest) =
      .ok (BitVec.ofNat 32 name.length) rest :=
  BabbleOnMessage.readInt_append ((name_int h).1.trans_le h) (by decide) rest

theorem readStr_name {name : Bytes} (h : name.length ≤ MAX_UNAME_LEN) (rest : Bytes) :
    (BabbleOnMessage.readStr (BitVec.ofNat 32 name.length)).run (name ++ rest) =
      .ok (newString name) rest :=
  BabbleOnMessage.readStr_append (Nat.lt_of_le_of_lt h (by decide)) rest

theorem name_length {name : Bytes} (h : name.length ≤ MAX_UNAME_LEN) :
    ¬ (BitVec.ofNat 32 name.length).toInt ≠ (newString name).length := by
  rw [newString_length, not_not]
  exact (name_int h).2

theorem readInt_nonneg {n : BitVec 32} (h : 0 ≤ n.toInt) (rest : Bytes) :
    (BabbleOnMessage.readInt MAX_VALUE).run (writeInt n ++ rest) = .ok n rest := by
  obtain ⟨m, hm⟩ := Int.eq_ofNat_of_zero_le h
  have hlt : n.toInt < 2 ^ 31 := BitVec.toInt_lt
  have hn := toNat_of_toInt hm
  refine BabbleOnMessage.readInt_append ?_ (by decide) rest
  unfold MAX_VALUE
  omega

theorem LoginMessage.ofStream_asymmetric {decodeKey : JavaString → Except JavaThrow Key}
    {name key : Bytes} {publicKey : Key} (hname : name.length ≤ MAX_UNAME_LEN)
    (hkey : key.length = KEY_LEN) (hdecode : decodeKey (newString key) = .ok publicKey)
    (rest : Bytes) :
    (LoginMessage.ofStream decodeKey).run (writeInt (BitVec.ofNat 32 name.length) ++
        (name ++ (KeyType.ASYMMETRIC.ordinal :: (key ++ rest)))) =
      .ok ⟨⟨MessageType.LoginMessage, 0#64⟩, BitVec.ofNat 32 name.length, newString name,
        KeyType.ASYMMETRIC.ordinal, some (newString key), some publicKey, none⟩ rest := by
  obtain ⟨_, hint⟩ := name_int hname
  have hvalid : validLength (BitVec.ofNat 32 name.length) MAX_UNAME_LEN = true :=
    validLength_iff.mpr (by omega)
  have hlt : name.length < 2 ^ 31 := by
    unfold MAX_UNAME_LEN at hname
    omega
  have hkeyShort : key.length < 2 ^ 31 := by
    rw [hkey]
    simp [KEY_LEN, KEY_FILE_HEADER, KEYSIZE, KEY_FILE_FOOTER, java]
  have hread := BabbleOnMessage.readStr_append hkeyShort rest
  rw [hkey] at hread
  have hsame : ¬ (BitVec.ofNat 32 name.length).toInt ≠ (newString name).length := by
    rw [newString_length]
    omega
  unfold ofStream
  dsimp only
  rw [bind_ok (onIOException_ok (dsReadInt_append _ _) _), hvalid, if_neg (by simp),
    bind_ok (BabbleOnMessage.readStr_append hlt _), if_neg hsame,
    bind_ok (onIOException_ok (dsReadByte_append _ _) _), if_neg (by decide), if_pos rfl,
    bind_ok hread, hdecode]
  rfl

def Cipher.updates (c : Cipher κ) : κ → List Bytes → Option (Bytes × κ)
  | k, [] => some ([], k)
  | k, b :: bs =>
    match c.update k b with
    | (none, _) => none
    | (some out, k') => (c.updates k' bs).map fun r => (out ++ r.1, r.2)

namespace MsgMessage

theorem decryptLoop_updates {c : Cipher κ} {blocks : List Bytes} {last rest : Bytes}
    (hblocks : ∀ b ∈ blocks, b.length = c.getBlockSize) {k k' : κ} {out : Bytes}
    (hup : c.updates k blocks = some (out, k')) {total read : Nat}
    (htotal : total = read + c.getBlockSize * blocks.length + c.getBlockSize) {chunk : Bytes}
    (hchunk : chunk.length = c.getBlockSize) (bs : Bytes) :
    ∃ chunk', chunk'.length = c.getBlockSize ∧
      (decryptLoop c total read chunk bs).run ⟨blocks.flatten ++ (last ++ rest), k⟩ =
        .ok (read + c.getBlockSize * blocks.length, chunk', bs ++ out) ⟨last ++ rest, k'⟩ := by
  have hpos := c.positive
  induction blocks generalizing read chunk bs k out with
  | nil =>
    cases hup
    refine ⟨chunk, hchunk, ?_⟩
    rw [decryptLoop, dif_neg (by simp [htotal]), run_pure]
    simp
  | cons b blocks ih =>
    have hb := hblocks b (by simp)
    simp only [Cipher.updates] at hup
    rcases hu : c.update k b with ⟨_ | out₁, k₁⟩
    · rw [hu] at hup
      cases hup
    · rw [hu] at hup
      obtain ⟨⟨out₂, k₂⟩, hrest, hout⟩ := Option.map_eq_some_iff.mp hup
      cases hout
      rw [List.length_cons, Nat.mul_succ] at htotal ⊢
      have htotal' : total = read + c.getBlockSize + c.getBlockSize * blocks.length +
          c.getBlockSize := by omega
      obtain ⟨chunk', hchunk', hrun⟩ := ih (fun b' h => hblocks b' (by simp [h])) hrest htotal' hb
        (bs ++ out₁)
      refine ⟨chunk', hchunk', ?_⟩
      have hread := fromInput_ok (read_append (hb.trans hchunk.symm)
        (blocks.flatten ++ (last ++ rest))) k
      rw [decryptLoop, dif_pos (by omega), List.flatten_cons, List.append_assoc, bind_ok hread,
        bind_ok (fromCipher_ok (Cipher.step_run hu) _)]
      dsimp only
      rw [hrun, List.append_assoc]
      congr 2
      omega

structure Decrypts (c : Cipher κ) (k : κ) (encrypted text : Bytes) : Prop where
  blockSize : c.getBlockSize = 16
  padded : encrypted.length = 16 * (text.length / 16 + 1)
  recovers : ∃ out k₁ fin k₂, c.updates k (pieces 16 (text.length / 16) encrypted) = some (out, k₁) ∧
    c.doFinal k₁ (encrypted.drop (16 * (text.length / 16))) = (some fin, k₂) ∧ out ++ fin = text

theorem ofStream_entry {now : BitVec 64} {c : Cipher κ} {k : κ} {sender receiver encrypted text : Bytes}
    {number total : BitVec 32} {timestamp : BitVec 64} (hsender : sender.length ≤ MAX_UNAME_LEN)
    (hreceiver : receiver.length ≤ MAX_UNAME_LEN) (hdec : Decrypts c k encrypted text)
    (htext : text.length ≤ MAX_MSG_LEN * MAX_MSGS) (hnumber : 0 < number.toInt)
    (htotal : number.toInt ≤ total.toInt) (htime : 0 ≤ timestamp.toInt)
    (hnow : timestamp.toInt ≤ now.toInt) (rest : Bytes) :
    ∃ k', (ofStream now c).run ⟨writeInt (BitVec.ofNat 32 sender.length) ++ (sender ++
        (writeInt (BitVec.ofNat 32 receiver.length) ++ (receiver ++
        (writeInt (BitVec.ofNat 32 encrypted.length) ++ (encrypted ++
        (writeLong (BitVec.ofNat 64 text.length) ++ (writeInt number ++ (writeInt total ++
        (writeLong timestamp ++ rest))))))))), k⟩ =
      .ok ⟨⟨MessageType.MsgMessage, 0#64⟩, BitVec.ofNat 32 sender.length, newString sender,
        BitVec.ofNat 32 receiver.length, newString receiver, BitVec.ofNat 32 encrypted.length,
        newString text, BitVec.ofNat 64 text.length, number, total, timestamp, []⟩ ⟨rest, k'⟩ := by
  obtain ⟨hblock, hpadded, out, k₁, fin, k₂, hup, hfinal, rfl⟩ := hdec
  obtain ⟨hsn, hsi⟩ := name_int hsender
  obtain ⟨hrn, hri⟩ := name_int hreceiver
  unfold MAX_MSG_LEN MAX_MSGS at htext
  have hlenc : 0 ≤ (BitVec.ofNat 32 encrypted.length).toInt := by
    rw [BitVec.toInt_eq_toNat_of_lt (by rw [BitVec.toNat_ofNat]; omega)]
    omega
  have hen : (BitVec.ofNat 32 encrypted.length).toNat = encrypted.length := by
    rw [BitVec.toNat_ofNat]
    omega
  have hlong : (BitVec.ofNat 64 (out ++ fin).length).toInt = (out ++ fin).length :=
    toInt_ofNat_long (by omega)
  have hfits : ¬ (((newString (out ++ fin)).length : Int) ≠
        (BitVec.ofNat 64 (out ++ fin).length).toInt ∨
      (BitVec.ofNat 64 (out ++ fin).length).toInt > (MAX_MSG_LEN * MAX_MSGS : Nat)) := by
    rw [newString_length, hlong, MAX_MSG_LEN, MAX_MSGS]
    omega
  have hpieces : ∀ b ∈ pieces 16 ((out ++ fin).length / 16) encrypted, b.length = c.getBlockSize := by
    intro b hb
    rw [hblock]
    exact length_of_mem_pieces (by omega) hb
  have htotalLen : encrypted.length = 0 + c.getBlockSize *
      (pieces 16 ((out ++ fin).length / 16) encrypted).length + c.getBlockSize := by
    rw [pieces_length, hblock]
    omega
  have hmore : 0 + c.getBlockSize * (pieces 16 ((out ++ fin).length / 16) encrypted).length <
      encrypted.length := by
    have hpos := c.positive
    omega
  have hlastLen : (encrypted.drop (16 * ((out ++ fin).length / 16))).length = c.getBlockSize := by
    rw [List.length_drop, hblock]
    omega
  have hsplit (tail : Bytes) : (pieces 16 ((out ++ fin).length / 16) encrypted).flatten ++
      (encrypted.drop (16 * ((out ++ fin).length / 16)) ++ tail) = encrypted ++ tail := by
    rw [pieces_flatten_take, ← List.append_assoc, List.take_append_drop]
  unfold ofStream
  rw [bind_ok (fromInput_ok (readInt_name hsender _) k),
    bind_ok (fromInput_ok (readStr_name hsender _) k), if_neg (name_length hsender),
    bind_ok (fromInput_ok (readInt_name hreceiver _) k),
    bind_ok (fromInput_ok (readStr_name hreceiver _) k), if_neg (name_length hreceiver),
    bind_ok (fromInput_ok (readInt_nonneg hlenc _) k), hen]
  obtain ⟨chunk, hchunk, hloop⟩ := decryptLoop_updates hpieces hup htotalLen
    (show (List.replicate c.getBlockSize 0#8).length = c.getBlockSize from List.length_replicate) []
  rw [hsplit] at hloop
  rw [bind_ok hloop]
  dsimp only
  have hlast := fromInput_ok (read_append (hlastLen.trans hchunk.symm) (writeLong
    (BitVec.ofNat 64 (out ++ fin).length) ++ (writeInt number ++ (writeInt total ++
      (writeLong timestamp ++ rest))))) k₁
  rw [if_pos hmore, bind_ok hlast, bind_ok (fromCipher_ok (Cipher.step_run hfinal) _)]
  dsimp only
  rw [bind_ok (run_pure _ _), List.nil_append,
    bind_ok (fromInput_ok (BabbleOnMessage.readLong_append _ _) k₂), if_neg hfits,
    bind_ok (fromInput_ok (readInt_nonneg (Int.le_of_lt hnumber) _) k₂),
    bind_ok (fromInput_ok (readInt_nonneg (Int.le_trans (Int.le_of_lt hnumber) htotal) _) k₂),
    if_neg (Int.not_lt.mpr htotal), if_neg (by omega),
    bind_ok (fromInput_ok (BabbleOnMessage.readLong_append _ _) k₂), if_neg (Int.not_lt.mpr hnow),
    if_neg (Int.not_lt.mpr htime)]
  exact ⟨k₂, rfl⟩

end MsgMessage

theorem PollResponseMessage.ofStream_single {now : BitVec 64} {c : Cipher κ} {k k' : κ}
    {name entry rest : Bytes} {m : MsgMessage} (hname : name.length ≤ MAX_UNAME_LEN)
    (hentry : (MsgMessage.ofStream now c).run ⟨entry, k⟩ = .ok m ⟨rest, k'⟩) :
    (PollResponseMessage.ofStream now (some c)).run ⟨writeInt (BitVec.ofNat 32 name.length) ++
        (name ++ (writeInt 1#32 ++ (writeInt 1#32 ++ (writeInt 1#32 ++ entry)))), k⟩ =
      .ok ⟨⟨MessageType.PollResponseMessage, 0#64⟩, BitVec.ofNat 32 name.length, newString name,
        1#32, 1#32, 1#32, [m]⟩ ⟨rest, k'⟩ := by
  have hlist (tail : Bytes) : (BabbleOnMessage.readInt MAX_LISTS).run (writeInt 1#32 ++ tail) =
      .ok 1#32 tail := BabbleOnMessage.readInt_append (by decide) (by decide) tail
  have hread : (PollResponseMessage.readMessages now c (1#32).toNat).run ⟨entry, k⟩ =
      .ok [m] ⟨rest, k'⟩ := bind_ok hentry
  unfold ofStream
  rw [bind_ok (fromInput_ok (readInt_name hname _) k),
    bind_ok (fromInput_ok (readStr_name hname _) k), if_neg (name_length hname),
    bind_ok (fromInput_ok (hlist _) k), bind_ok (fromInput_ok (hlist _) k), if_neg (by decide),
    if_neg (by decide), bind_ok (fromInput_ok (readInt_nonneg (by decide) _) k)]
  dsimp only
  rw [bind_ok hread, run_pure]
  rfl

end Client
