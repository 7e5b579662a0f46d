import BabbleOn.Client.FrameBoundary
import BabbleOn.Library.SegmentedStream

namespace Client
open Execution

-- what is there for the next `read`, by the number of bytes that are still to come
structure Segmentation where
  ready : Nat → Nat
  positive : ∀ left, 0 < ready left

namespace Segmentation

def received (seg : Segmentation) (n : Nat) : Input Bytes := do
  let input ← get
  set (input.drop (min (seg.ready input.length) n))
  pure (input.take (min (seg.ready input.length) n))

def read (seg : Segmentation) (chunk : Bytes) : Input Bytes := do
  let b ← seg.received chunk.length
  pure (b ++ chunk.drop b.length)

def readFully (seg : Segmentation) (n : Nat) : Input Bytes := do
  if n = 0 then pure []
  else do
    let b ← seg.received n
    if _h : b.length = 0 then throw .eof
    else do
      let rest ← readFully seg (n - b.length)
      pure (b ++ rest)
termination_by n

def dsReadInt (seg : Segmentation) : Input (BitVec 32) := do
  let b ← seg.readFully 4
  pure (BigEndian.decode 32 4 fun i => b.getD i 0#8)

def dsReadLong (seg : Segmentation) : Input (BitVec 64) := do
  let b ← seg.readFully 8
  pure (BigEndian.decode 64 8 fun i => b.getD i 0#8)

def readInt (seg : Segmentation) (maxValue : Nat) : Input (BitVec 32) := do
  let tempLen ← onIOException seg.dsReadInt (.babble "Integer could not be read")
  if 0 > tempLen.toInt ∨ (maxValue : Int) < tempLen.toInt then throw (.babble "Integer invalid")
  else pure tempLen

def readStr (seg : Segmentation) (len : BitVec 32) : Input JavaString :=
  if len.toInt < 0 then throw .negativeArraySize
  else do
    let b ← onIOException (seg.readFully len.toNat) (.babble "Could not read full string")
    pure (newString b)

def readLong (seg : Segmentation) : Input (BitVec 64) :=
  onIOException seg.dsReadLong (.babble "Bad message formatting")

theorem received_run (seg : Segmentation) (n : Nat) (input : Bytes) :
    (seg.received n).run input = .ok (input.take (min (seg.ready input.length) n))
      (input.drop (min (seg.ready input.length) n)) := rfl

theorem readFully_run (seg : Segmentation) (n : Nat) (input : Bytes) :
    (seg.readFully n).run input = (Client.readFully n).run input := by
  have hfully (n : Nat) (input : Bytes) : (Client.readFully n).run input =
      if input.length < n then .error .eof [] else .ok (input.take n) (input.drop n) := by
    unfold Client.readFully
    rw [bind_ok (run_get input)]
    split <;> rfl
  induction n using Nat.strongRecOn generalizing input with
  | ind n ih =>
    rw [readFully, hfully]
    by_cases hn : n = 0
    · subst hn
      rw [if_pos rfl, if_neg (Nat.not_lt_zero _)]
      rfl
    · have hready := seg.positive input.length
      rw [if_neg hn, bind_ok (received_run seg n input)]
      generalize hg : min (seg.ready input.length) n = got
      have hlength : (input.take got).length = min got input.length := List.length_take
      by_cases hend : (input.take got).length = 0
      · have hnil : input = [] := List.length_eq_zero_iff.mp (by omega)
        rw [dif_pos hend, run_throw, hnil, if_pos (by simpa using Nat.pos_of_ne_zero hn), List.drop_nil]
      · have hrest : (seg.readFully (n - (input.take got).length)).run (input.drop got) =
            if input.length < n then .error .eof [] else .ok ((input.drop got).take (n - got))
              (input.drop n) := by
          rw [ih _ (by omega), hfully, List.length_drop]
          rcases Nat.lt_or_ge input.length got with hlt | hle
          · rw [if_pos (by omega), if_pos (by omega)]
          · rw [hlength, Nat.min_eq_left hle, List.drop_drop, Nat.add_sub_cancel' (by omega)]
            exact if_congr (by omega) rfl rfl
        rw [dif_neg hend]
        split
        · rename_i hshort
          rw [if_pos hshort] at hrest
          rw [bind_error hrest]
        · rename_i hlong
          rw [if_neg hlong] at hrest
          rw [bind_ok hrest, run_pure, SegmentedStream.take_append_take_drop _ (by omega)]

theorem readFully_eq (seg : Segmentation) : seg.readFully = Client.readFully :=
  funext fun n => funext fun input => readFully_run seg n input

theorem readInt_eq (seg : Segmentation) : seg.readInt = BabbleOnMessage.readInt := by
  funext maxValue
  rw [readInt, dsReadInt, readFully_eq]
  rfl

theorem readStr_eq (seg : Segmentation) : seg.readStr = BabbleOnMessage.readStr := by
  funext len
  rw [readStr, readFully_eq]
  rfl

theorem readLong_eq (seg : Segmentation) : seg.readLong = BabbleOnMessage.readLong := by
  rw [readLong, dsReadLong, readFully_eq]
  rfl

def atOnce {κ : Type} (c : Cipher κ) : Segmentation := ⟨fun _ => c.getBlockSize, fun _ => c.positive⟩

theorem atOnce_read {κ : Type} {c : Cipher κ} {chunk : Bytes} (hchunk : chunk.length = c.getBlockSize) :
    (atOnce c).read chunk = Client.read chunk := by
  funext input
  have hgot : min ((atOnce c).ready input.length) chunk.length = chunk.length := by
    rw [atOnce, hchunk, Nat.min_self]
  have hread : ((atOnce c).read chunk).run input =
      .ok (input.take chunk.length ++ chunk.drop (input.take chunk.length).length)
        (input.drop chunk.length) := by
    rw [read, bind_ok (received_run _ _ input), run_pure, hgot]
  have hrest : chunk.drop (input.take chunk.length).length = chunk.drop input.length := by
    rw [List.length_take]
    rcases Nat.le_total chunk.length input.length with hle | hle
    · rw [Nat.min_eq_left hle, List.drop_length, List.drop_eq_nil_of_le hle]
    · rw [Nat.min_eq_right hle]
  rw [hrest] at hread
  exact hread

end Segmentation

variable {κ : Type}

namespace MsgMessage

def decryptSegments (seg : Segmentation) (decrypt : Cipher κ) (messageLengthEncrypted : Nat) (read : Nat)
    (chunk bs : Bytes) : EStateM JavaThrow (Reader κ) Bytes := do
  if _h : read + decrypt.getBlockSize < messageLengthEncrypted then do
    let chunk ← fromInput (seg.read chunk)
    let out ← fromCipher (Cipher.step fun k => decrypt.update k chunk)
    match out with
    | none => throw .nullPointer
    | some out =>
      decryptSegments seg decrypt messageLengthEncrypted (read + decrypt.getBlockSize) chunk (bs ++ out)
  else if read < messageLengthEncrypted then do
    let chunk ← fromInput (seg.read chunk)
    let out ← fromCipher (Cipher.step fun k => decrypt.doFinal k chunk)
    match out with
    | none => throw (.babble "Bad stuffs happening in messages: ")
    | some out => pure (bs ++ out)
  else pure bs
termination_by messageLengthEncrypted - read
decreasing_by
  have := decrypt.positive
  omega

def ofSegments (seg : Segmentation) (currentTimeMillis : BitVec 64) (decrypt : Cipher κ) :
    EStateM JavaThrow (Reader κ) MsgMessage := do
  let base := BabbleOnMessage.sup.checkType MessageType.MsgMessage
  let senderUsernameLength ← fromInput (seg.readInt MAX_UNAME_LEN)
  let senderUsername ← fromInput (seg.readStr senderUsernameLength)
  if senderUsernameLength.toInt ≠ senderUsername.length then throw (.babble "Invalid username") else
  let receiverUsernameLength ← fromInput (seg.readInt MAX_UNAME_LEN)
  let receiverUsername ← fromInput (seg.readStr receiverUsernameLength)
  if receiverUsernameLength.toInt ≠ receiverUsername.length then
    throw (.babble "Invalid username") else
  let messageLengthEncrypted ← fromInput (seg.readInt MAX_VALUE)
  let bs ← decryptSegments seg decrypt messageLengthEncrypted.toNat 0
    (List.replicate decrypt.getBlockSize 0#8) []
  let message := newString bs
  let messageLenDecrypted ← fromInput seg.readLong
  if (message.length : Int) ≠ messageLenDecrypted.toInt ∨
      messageLenDecrypted.toInt > (MAX_MSG_LEN * MAX_MSGS : Nat) then
    throw (.babble ("Message lengths do not match: " ++ toString message.length ++ " : " ++
      toString messageLenDecrypted.toInt)) else
  let messageNumber ← fromInput (seg.readInt MAX_VALUE)
  let totalMessages ← fromInput (seg.readInt MAX_VALUE)
  if totalMessages.toInt < messageNumber.toInt then
    throw (.babble ("Cannot have more than " ++ toString totalMessages.toInt ++ " messages")) else
  if 0 ≥ totalMessages.toInt ∨ 0 ≥ messageNumber.toInt then
    throw (.babble "Message count value invalid") else
  let timestamp ← fromInput seg.readLong
  if timestamp.toInt > currentTimeMillis.toInt then
    throw (.babble "Cannot have future message time")
  else if 0 > timestamp.toInt then throw (.babble "Non-negative time not accepted")
  else pure ⟨base, senderUsernameLength, senderUsername, receiverUsernameLength, receiverUsername,
    messageLengthEncrypted, message, messageLenDecrypted, messageNumber, totalMessages, timestamp, []⟩

end MsgMessage

namespace PollResponseMessage

def readSegments (seg : Segmentation) (currentTimeMillis : BitVec 64) (decrypt : Cipher κ) :
    Nat → EStateM JavaThrow (Reader κ) (List MsgMessage)
  | 0 => pure []
  | n + 1 => do
    let m ← MsgMessage.ofSegments seg currentTimeMillis decrypt
    let rest ← readSegments seg currentTimeMillis decrypt n
    pure (m :: rest)

def ofSegments (seg : Segmentation) (currentTimeMillis : BitVec 64) (decrypt : Option (Cipher κ)) :
    EStateM JavaThrow (Reader κ) PollResponseMessage := do
  let base := BabbleOnMessage.sup.checkType MessageType.PollResponseMessage
  let usernameLength ← fromInput (seg.readInt MAX_UNAME_LEN)
  let username ← fromInput (seg.readStr usernameLength)
  if usernameLength.toInt ≠ username.length then throw (.babble "Invalid username") else
  let listNumber ← fromInput (seg.readInt MAX_LISTS)
  let totalLists ← fromInput (seg.readInt MAX_LISTS)
  if 0 ≥ listNumber.toInt ∨ 0 ≥ totalLists.toInt then
    throw (.babble "Message count value invalid") else
  if totalLists.toInt < listNumber.toInt then
    throw (.babble ("Cannot have more than " ++ toString totalLists.toInt ++ " lists")) else
  let messageListSize ← fromInput (seg.readInt MAX_VALUE)
  match decrypt with
  | none => throw (.babble "Cannot decrypt")
  | some decrypt =>
    let newMessages ← readSegments seg currentTimeMillis decrypt messageListSize.toNat
    pure ⟨base, usernameLength, username, messageListSize, listNumber, totalLists, newMessages⟩

end PollResponseMessage

section Positions

variable {s : Bytes} {i : Nat} {k : κ} {r : Reader κ} {seg seg' : Segmentation} {c : Cipher κ}

theorem readInt_inv {maxValue : Nat} {n : BitVec 32}
    (h : (fromInput (BabbleOnMessage.readInt maxValue)).run ⟨s.drop i, k⟩ = .ok n r) :
    i + 4 ≤ s.length ∧ n = intAt s i ∧ 0 ≤ n.toInt ∧ r = ⟨s.drop (i + 4), k⟩ := by
  obtain ⟨hread, hk⟩ := fromInput_eq_ok.mp h
  by_cases hlength : i + 4 ≤ s.length
  · by_cases hvalid : validLength (intAt s i) maxValue = true
    · rw [readInt_at hlength hvalid] at hread
      cases r
      cases hread
      cases hk
      exact ⟨hlength, rfl, (validLength_iff.mp hvalid).1, rfl⟩
    · rw [readInt_refused hlength hvalid] at hread
      cases hread
  · have hshort : (readFully 4).run (s.drop i) = .error .eof [] :=
      readFully_short (by rw [List.length_drop]; omega)
    have hthrow : (BabbleOnMessage.readInt maxValue).run (s.drop i) = .error _ [] :=
      bind_error (onIOException_eof (bind_error hshort) _)
    rw [hthrow] at hread
    cases hread

theorem readLong_inv {n : BitVec 64}
    (h : (fromInput BabbleOnMessage.readLong).run ⟨s.drop i, k⟩ = .ok n r) :
    i + 8 ≤ s.length ∧ r = ⟨s.drop (i + 8), k⟩ := by
  obtain ⟨hread, hk⟩ := fromInput_eq_ok.mp h
  by_cases hlength : i + 8 ≤ s.length
  · rw [BabbleOnMessage.readLong, onIOException_ok (dsReadLong_at hlength)] at hread
    cases r
    cases hread
    cases hk
    exact ⟨hlength, rfl⟩
  · have hshort : (readFully 8).run (s.drop i) = .error .eof [] :=
      readFully_short (by rw [List.length_drop]; omega)
    have hthrow : dsReadLong.run (s.drop i) = .error .eof [] := bind_error hshort
    rw [BabbleOnMessage.readLong, onIOException_eof hthrow] at hread
    cases hread

theorem readStr_inv {len : BitVec 32} {text : JavaString} (hi : i ≤ s.length) (hlen : 0 ≤ len.toInt)
    (h : (fromInput (BabbleOnMessage.readStr len)).run ⟨s.drop i, k⟩ = .ok text r) :
    i + len.toNat ≤ s.length ∧ r = ⟨s.drop (i + len.toNat), k⟩ := by
  obtain ⟨hread, hk⟩ := fromInput_eq_ok.mp h
  by_cases hlength : i + len.toNat ≤ s.length
  · rw [readStr_at hlength hlen] at hread
    cases r
    cases hread
    cases hk
    exact ⟨hlength, rfl⟩
  · have hshort : (readFully len.toNat).run (s.drop i) = .error .eof [] :=
      readFully_short (by rw [List.length_drop]; omega)
    rw [BabbleOnMessage.readStr, if_neg (by omega), bind_error (onIOException_eof hshort _)] at hread
    cases hread

-- the rest of the array keeps what an earlier read put there
def refill (chunk input : Bytes) (got : Nat) : Bytes :=
  input.take got ++ chunk.drop (input.take got).length

theorem refill_length {chunk input : Bytes} {got : Nat} (h : got ≤ chunk.length) :
    (refill chunk input got).length = chunk.length := by
  rw [refill, List.length_append, List.length_drop, List.length_take]
  omega

theorem segment_read (seg : Segmentation) (chunk s : Bytes) (i : Nat) (k : κ) {got : Nat}
    (hgot : min (seg.ready (s.length - i)) chunk.length = got) :
    (fromInput (seg.read chunk)).run ⟨s.drop i, k⟩ =
      .ok (refill chunk (s.drop i) got) ⟨s.drop (i + got), k⟩ := by
  have hrun : (seg.received chunk.length).run (s.drop i) =
      .ok ((s.drop i).take got) (s.drop (i + got)) := by
    rw [Segmentation.received_run, List.length_drop, hgot, List.drop_drop]
  have hread : (seg.read chunk).run (s.drop i) =
      .ok (refill chunk (s.drop i) got) (s.drop (i + got)) := by
    rw [Segmentation.read, bind_ok hrun, run_pure, refill]
  exact fromInput_ok hread k

def BlocksWhole (seg : Segmentation) (blockSize total left : Nat) : Prop :=
  ∀ b, b * blockSize < total → blockSize ≤ seg.ready (left - b * blockSize)

def blockCount (blockSize total : Nat) : Nat := (total + blockSize - 1) / blockSize

theorem blocksWhole_more {blockSize total left : Nat} (hmore : blockSize < total) :
    BlocksWhole seg blockSize total left ↔ blockSize ≤ seg.ready left ∧
      BlocksWhole seg blockSize (total - blockSize) (left - blockSize) := by
  constructor
  · intro h
    refine ⟨by simpa using h 0 (by omega), fun b hb => ?_⟩
    have hnext := h (b + 1) (by rw [Nat.succ_mul]; omega)
    rwa [Nat.succ_mul, Nat.add_comm, Nat.sub_add_eq] at hnext
  · rintro ⟨hfirst, hrest⟩ (_ | b) hb
    · simpa using hfirst
    · rw [Nat.succ_mul] at hb ⊢
      rw [Nat.add_comm, Nat.sub_add_eq]
      exact hrest b (by omega)

theorem blocksWhole_last {blockSize total left : Nat} (hlast : total ≤ blockSize) (hpos : 0 < total) :
    BlocksWhole seg blockSize total left ↔ blockSize ≤ seg.ready left := by
  constructor
  · intro h
    simpa using h 0 (by omega)
  · rintro hfirst (_ | b) hb
    · simpa using hfirst
    · rw [Nat.succ_mul] at hb
      omega

theorem blockCount_more {blockSize total : Nat} (hpos : 0 < blockSize) (hmore : blockSize < total) :
    blockCount blockSize total = blockCount blockSize (total - blockSize) + 1 := by
  rw [blockCount, blockCount, ← Nat.add_div_right _ hpos]
  congr 1
  omega

theorem blockCount_last {blockSize total : Nat} (hlast : total ≤ blockSize) (hpos : 0 < total) :
    blockCount blockSize total = 1 :=
  Nat.div_eq_of_lt_le (by omega) (by omega)

theorem blockCount_zero {blockSize : Nat} (hpos : 0 < blockSize) : blockCount blockSize 0 = 0 :=
  Nat.div_eq_of_lt (by omega)

theorem cipher_step_inv {f : κ → Option Bytes × κ} {out : Option Bytes} {input : Bytes}
    (h : (fromCipher (Cipher.step f)).run ⟨input, k⟩ = .ok out r) :
    f k = (out, r.decrypt) ∧ r.input = input := by
  obtain ⟨hstep, hinput⟩ := fromCipher_eq_ok.mp h
  exact ⟨Cipher.step_inv hstep, hinput⟩

theorem decryptSegments_eq {total read : Nat} {chunk bs : Bytes} (hchunk : chunk.length = c.getBlockSize)
    (h : BlocksWhole seg c.getBlockSize (total - read) (s.length - i))
    (h' : BlocksWhole seg' c.getBlockSize (total - read) (s.length - i)) :
    (MsgMessage.decryptSegments seg c total read chunk bs).run ⟨s.drop i, k⟩ =
      (MsgMessage.decryptSegments seg' c total read chunk bs).run ⟨s.drop i, k⟩ := by
  have hpos := c.positive
  induction hn : total - read using Nat.strongRecOn generalizing read chunk bs i k with
  | ind n ih =>
    rw [MsgMessage.decryptSegments, MsgMessage.decryptSegments]
    by_cases hmore : read + c.getBlockSize < total
    · obtain ⟨hfirst, hrest⟩ := (blocksWhole_more (by omega)).mp h
      obtain ⟨hfirst', hrest'⟩ := (blocksWhole_more (by omega)).mp h'
      rw [dif_pos hmore, dif_pos hmore, bind_ok (segment_read seg chunk s i k rfl),
        bind_ok (segment_read seg' chunk s i k rfl), hchunk, Nat.min_eq_right hfirst,
        Nat.min_eq_right hfirst']
      rcases hu : c.update k (refill chunk (s.drop i) c.getBlockSize) with ⟨_ | out, k'⟩
      · rw [bind_ok (fromCipher_ok (Cipher.step_run hu) _), bind_ok (fromCipher_ok (Cipher.step_run hu) _)]
      · rw [bind_ok (fromCipher_ok (Cipher.step_run hu) _), bind_ok (fromCipher_ok (Cipher.step_run hu) _)]
        refine ih _ (by omega) ?_ ?_ ?_ rfl
        · rw [refill_length (by omega), hchunk]
        · rwa [Nat.sub_add_eq, Nat.sub_add_eq]
        · rwa [Nat.sub_add_eq, Nat.sub_add_eq]
    · rw [dif_neg hmore, dif_neg hmore]
      by_cases hlast : read < total
      · have hfirst := (blocksWhole_last (by omega) (by omega)).mp h
        have hfirst' := (blocksWhole_last (by omega) (by omega)).mp h'
        rw [if_pos hlast, if_pos hlast, bind_ok (segment_read seg chunk s i k rfl),
          bind_ok (segment_read seg' chunk s i k rfl), hchunk, Nat.min_eq_right hfirst,
          Nat.min_eq_right hfirst']
      · rw [if_neg hlast, if_neg hlast]

theorem decryptSegments_position {total read : Nat} {chunk bs text : Bytes}
    (hchunk : chunk.length = c.getBlockSize)
    (h : (MsgMessage.decryptSegments seg c total read chunk bs).run ⟨s.drop i, k⟩ = .ok text r) :
    ∃ j, r.input = s.drop j ∧ j ≤ i + blockCount c.getBlockSize (total - read) * c.getBlockSize ∧
      (j = i + blockCount c.getBlockSize (total - read) * c.getBlockSize ↔
        BlocksWhole seg c.getBlockSize (total - read) (s.length - i)) := by
  have hpos := c.positive
  induction hn : total - read using Nat.strongRecOn generalizing read chunk bs i k with
  | ind n ih =>
    rw [MsgMessage.decryptSegments] at h
    generalize hgot : min (seg.ready (s.length - i)) c.getBlockSize = got
    by_cases hmore : read + c.getBlockSize < total
    · rw [dif_pos hmore, bind_ok (segment_read seg chunk s i k (by rw [hchunk, hgot]))] at h
      obtain ⟨out, ⟨input, k'⟩, hstep, h⟩ := bind_eq_ok.mp h
      obtain ⟨hu, hinput⟩ := cipher_step_inv hstep
      dsimp only at hinput
      subst hinput
      cases out with
      | none => cases h
      | some out =>
        obtain ⟨j, hj, hle, hiff⟩ := ih _ (by omega) (by rw [refill_length (by omega), hchunk]) h rfl
        rw [Nat.sub_add_eq, Nat.sub_add_eq, hn] at hiff
        rw [Nat.sub_add_eq, hn] at hle
        rw [blocksWhole_more (by omega), blockCount_more hpos (by omega), Nat.succ_mul]
        refine ⟨j, hj, by omega, fun hall => ?_, fun ⟨hfirst, hrest⟩ => ?_⟩
        · have hfull : got = c.getBlockSize := by omega
          rw [hfull] at hiff
          exact ⟨by omega, hiff.mp (by omega)⟩
        · have hfull : got = c.getBlockSize := by omega
          rw [hfull] at hiff
          have hj := hiff.mpr hrest
          omega
    · rw [dif_neg hmore] at h
      by_cases hlast : read < total
      · rw [if_pos hlast, bind_ok (segment_read seg chunk s i k (by rw [hchunk, hgot]))] at h
        obtain ⟨out, ⟨input, k'⟩, hstep, h⟩ := bind_eq_ok.mp h
        obtain ⟨hf, hinput⟩ := cipher_step_inv hstep
        dsimp only at hinput
        subst hinput
        cases out with
        | none => cases h
        | some out =>
          cases h
          rw [blocksWhole_last (by omega) (by omega), blockCount_last (by omega) (by omega), Nat.one_mul]
          exact ⟨i + got, rfl, by omega, by omega⟩
      · rw [if_neg hlast] at h
        cases h
        have hzero : n = 0 := by omega
        subst hzero
        rw [blockCount_zero hpos, Nat.zero_mul]
        exact ⟨i, rfl, Nat.le_refl i, fun _ b hb => absurd hb (Nat.not_lt_zero _), fun _ => rfl⟩

end Positions

namespace MsgMessage

def receiverStart (s : Bytes) (i : Nat) : Nat := i + 4 + (intAt s i).toNat

def lengthStart (s : Bytes) (i : Nat) : Nat :=
  receiverStart s i + 4 + (intAt s (receiverStart s i)).toNat

def ciphertextLength (s : Bytes) (i : Nat) : Nat := (intAt s (lengthStart s i)).toNat

def entryEnd (blockSize : Nat) (s : Bytes) (i : Nat) : Nat :=
  lengthStart s i + 4 + blockCount blockSize (ciphertextLength s i) * blockSize + 24

def Whole (seg : Segmentation) (blockSize : Nat) (s : Bytes) (i : Nat) : Prop :=
  BlocksWhole seg blockSize (ciphertextLength s i) (s.length - (lengthStart s i + 4))

def bytesAsked (blockSize : Nat) (m : MsgMessage) : Nat :=
  36 + m.senderUsernameLength.toNat + m.receiverUsernameLength.toNat +
    blockCount blockSize m.messageLengthEncrypted.toNat * blockSize

section Entry

variable {s : Bytes} {i : Nat} {k : κ} {r : Reader κ} {seg seg' : Segmentation} {c : Cipher κ}
  {now : BitVec 64}

theorem ofSegments_eq (h : Whole seg c.getBlockSize s i)
    (h' : Whole seg' c.getBlockSize s i) :
    (ofSegments seg now c).run ⟨s.drop i, k⟩ = (ofSegments seg' now c).run ⟨s.drop i, k⟩ := by
  unfold ofSegments
  simp only [Segmentation.readInt_eq, Segmentation.readStr_eq, Segmentation.readLong_eq]
  refine bind_congr_ok fun senderLength _ hread => ?_
  obtain ⟨hlength, rfl, hnonneg, rfl⟩ := readInt_inv hread
  refine bind_congr_ok fun sender _ hread => ?_
  obtain ⟨hlength, rfl⟩ := readStr_inv hlength hnonneg hread
  refine throwIf_congr fun _ => ?_
  refine bind_congr_ok fun receiverLength _ hread => ?_
  obtain ⟨hlength, rfl, hnonneg, rfl⟩ := readInt_inv hread
  refine bind_congr_ok fun receiver _ hread => ?_
  obtain ⟨hlength, rfl⟩ := readStr_inv hlength hnonneg hread
  refine throwIf_congr fun _ => ?_
  refine bind_congr_ok fun encrypted _ hread => ?_
  obtain ⟨hlength, rfl, hnonneg, rfl⟩ := readInt_inv hread
  exact bind_congr_run (decryptSegments_eq List.length_replicate (Nat.sub_zero _ ▸ h)
    (Nat.sub_zero _ ▸ h')) _

theorem ofSegments_position {m : MsgMessage}
    (h : (ofSegments seg now c).run ⟨s.drop i, k⟩ = .ok m r) :
    ∃ j, r.input = s.drop j ∧ j ≤ s.length ∧ j ≤ entryEnd c.getBlockSize s i ∧
      (j = entryEnd c.getBlockSize s i ↔ Whole seg c.getBlockSize s i) ∧
      entryEnd c.getBlockSize s i = i + bytesAsked c.getBlockSize m := by
  unfold ofSegments at h
  simp only [Segmentation.readInt_eq, Segmentation.readStr_eq, Segmentation.readLong_eq] at h
  obtain ⟨senderLength, _, hread, h⟩ := bind_eq_ok.mp h
  obtain ⟨hlength, rfl, hnonneg, rfl⟩ := readInt_inv hread
  obtain ⟨sender, _, hread, h⟩ := bind_eq_ok.mp h
  obtain ⟨hlength, rfl⟩ := readStr_inv hlength hnonneg hread
  obtain ⟨_, h⟩ := throwIf_eq_ok.mp h
  obtain ⟨receiverLength, _, hread, h⟩ := bind_eq_ok.mp h
  obtain ⟨hlength, rfl, hnonneg, rfl⟩ := readInt_inv hread
  obtain ⟨receiver, _, hread, h⟩ := bind_eq_ok.mp h
  obtain ⟨hlength, rfl⟩ := readStr_inv hlength hnonneg hread
  obtain ⟨_, h⟩ := throwIf_eq_ok.mp h
  obtain ⟨encrypted, _, hread, h⟩ := bind_eq_ok.mp h
  obtain ⟨hlength, rfl, hnonneg, rfl⟩ := readInt_inv hread
  obtain ⟨text, ⟨input, k'⟩, hblocks, h⟩ := bind_eq_ok.mp h
  obtain ⟨j, hj, hle, hiff⟩ := decryptSegments_position List.length_replicate hblocks
  dsimp only at hj
  subst hj
  obtain ⟨messageLenDecrypted, _, hread, h⟩ := bind_eq_ok.mp h
  obtain ⟨hlength, rfl⟩ := readLong_inv hread
  obtain ⟨_, h⟩ := throwIf_eq_ok.mp h
  obtain ⟨messageNumber, _, hread, h⟩ := bind_eq_ok.mp h
  obtain ⟨hlength, rfl, hnonneg, rfl⟩ := readInt_inv hread
  obtain ⟨totalMessages, _, hread, h⟩ := bind_eq_ok.mp h
  obtain ⟨hlength, rfl, hnonneg, rfl⟩ := readInt_inv hread
  obtain ⟨_, h⟩ := throwIf_eq_ok.mp h
  obtain ⟨_, h⟩ := throwIf_eq_ok.mp h
  obtain ⟨timestamp, _, hread, h⟩ := bind_eq_ok.mp h
  obtain ⟨hlength, rfl⟩ := readLong_inv hread
  obtain ⟨_, h⟩ := throwIf_eq_ok.mp h
  obtain ⟨_, h⟩ := throwIf_eq_ok.mp h
  cases h
  rw [Nat.sub_zero] at hle hiff
  refine ⟨j + 8 + 4 + 4 + 8, rfl, hlength, ?_, ?_, ?_⟩
  · exact Nat.add_le_add_right hle 24
  · exact (Nat.add_right_cancel_iff (n := 24)).trans hiff
  · simp only [entryEnd, lengthStart, receiverStart, ciphertextLength, bytesAsked]
    omega

theorem read_length {chunk next : Bytes} {r r' : Reader κ}
    (h : (fromInput (Client.read chunk)).run r = .ok next r') : next.length = chunk.length := by
  obtain ⟨rest, k'⟩ := r'
  obtain ⟨hread, _⟩ := fromInput_eq_ok.mp h
  cases hread
  rw [List.length_append, List.length_take, List.length_drop]
  omega

theorem decryptSegments_atOnce {α : Type} {total read : Nat} {chunk bs : Bytes}
    (hchunk : chunk.length = c.getBlockSize) (g : Bytes → EStateM JavaThrow (Reader κ) α)
    (r : Reader κ) :
    (do
      let (read, chunk, bs) ← decryptLoop c total read chunk bs
      let bs ←
        if read < total then do
          let chunk ← fromInput (Client.read chunk)
          let out ← fromCipher (Cipher.step fun k => c.doFinal k chunk)
          match out with
          | none => throw (.babble "Bad stuffs happening in messages: ")
          | some out => pure (bs ++ out)
        else pure bs
      g bs : EStateM JavaThrow (Reader κ) α).run r =
      (decryptSegments (.atOnce c) c total read chunk bs >>= g).run r := by
  have hpos := c.positive
  induction hn : total - read using Nat.strongRecOn generalizing read chunk bs r with
  | ind n ih =>
    rw [decryptLoop, decryptSegments]
    by_cases hmore : read + c.getBlockSize < total
    · rw [dif_pos hmore, dif_pos hmore, Segmentation.atOnce_read hchunk, bind_assoc, bind_assoc]
      refine bind_congr_ok fun next r₁ hread => ?_
      have hnext := (read_length hread).trans hchunk
      rw [bind_assoc, bind_assoc]
      refine bind_congr_ok fun out r₂ _ => ?_
      cases out with
      | none => rfl
      | some out => exact ih _ (by omega) hnext r₂ rfl
    · rw [dif_neg hmore, dif_neg hmore, bind_ok (run_pure _ _), Segmentation.atOnce_read hchunk]
      dsimp only
      by_cases hlast : read < total
      · rw [if_pos hlast, if_pos hlast, bind_assoc]
        refine bind_congr_ok fun next r₁ _ => ?_
        rw [bind_assoc]
        refine bind_congr_ok fun out r₂ _ => ?_
        cases out <;> rfl
      · rw [if_neg hlast, if_neg hlast]

theorem ofSegments_atOnce (r : Reader κ) :
    (ofStream now c).run r = (ofSegments (.atOnce c) now c).run r := by
  unfold ofStream ofSegments
  simp only [Segmentation.readInt_eq, Segmentation.readStr_eq, Segmentation.readLong_eq]
  refine bind_congr_ok fun senderLength _ _ => bind_congr_ok fun sender _ _ => ?_
  refine throwIf_congr fun _ => ?_
  refine bind_congr_ok fun receiverLength _ _ => bind_congr_ok fun receiver _ _ => ?_
  refine throwIf_congr fun _ => ?_
  refine bind_congr_ok fun encrypted _ _ => ?_
  exact decryptSegments_atOnce List.length_replicate _ _

end Entry

end MsgMessage

namespace PollResponseMessage

def EntriesWhole (seg : Segmentation) (blockSize : Nat) (s : Bytes) : Nat → Nat → Prop
  | 0, _ => True
  | n + 1, i => MsgMessage.Whole seg blockSize s i ∧
      EntriesWhole seg blockSize s n (MsgMessage.entryEnd blockSize s i)

def Whole (seg : Segmentation) (blockSize : Nat) (s : Bytes) : Prop :=
  EntriesWhole seg blockSize s (intAt s (12 + (intAt s 0).toNat)).toNat (16 + (intAt s 0).toNat)

theorem whole_iff {seg : Segmentation} {blockSize : Nat} {s : Bytes} : Whole seg blockSize s ↔
    EntriesWhole seg blockSize s (intAt s (0 + 4 + (intAt s 0).toNat + 4 + 4)).toNat
      (0 + 4 + (intAt s 0).toNat + 4 + 4 + 4) := by
  rw [Whole, show 16 + (intAt s 0).toNat = 0 + 4 + (intAt s 0).toNat + 4 + 4 + 4 by omega,
    show 12 + (intAt s 0).toNat = 0 + 4 + (intAt s 0).toNat + 4 + 4 by omega]

section Entries

variable {s : Bytes} {i n : Nat} {k : κ} {r : Reader κ} {seg seg' : Segmentation} {c : Cipher κ}
  {now : BitVec 64}

theorem readSegments_eq (h : EntriesWhole seg c.getBlockSize s n i)
    (h' : EntriesWhole seg' c.getBlockSize s n i) :
    (readSegments seg now c n).run ⟨s.drop i, k⟩ = (readSegments seg' now c n).run ⟨s.drop i, k⟩ := by
  induction n generalizing i k with
  | zero => rfl
  | succ n ih =>
    unfold readSegments
    rw [EStateM.run_bind, EStateM.run_bind, ← MsgMessage.ofSegments_eq h.1 h'.1]
    cases hrun : (MsgMessage.ofSegments seg now c).run ⟨s.drop i, k⟩ with
    | error e r => rfl
    | ok m r =>
      obtain ⟨j, hj, _, _, hiff, _⟩ := MsgMessage.ofSegments_position hrun
      obtain ⟨input, k'⟩ := r
      dsimp only at hj ⊢
      rw [hj, hiff.mpr h.1]
      exact bind_congr_run (ih h.2 h'.2) _

theorem readSegments_position {ms : List MsgMessage} (hi : i ≤ s.length)
    (h : (readSegments seg now c n).run ⟨s.drop i, k⟩ = .ok ms r) :
    ∃ j, r.input = s.drop j ∧ j ≤ s.length ∧
      j ≤ i + (ms.map (MsgMessage.bytesAsked c.getBlockSize)).sum ∧
      (j = i + (ms.map (MsgMessage.bytesAsked c.getBlockSize)).sum ↔
        EntriesWhole seg c.getBlockSize s n i) := by
  induction n generalizing i k ms with
  | zero =>
    cases h
    exact ⟨i, rfl, hi, by simp, by simp [EntriesWhole]⟩
  | succ n ih =>
    unfold readSegments at h
    obtain ⟨m, ⟨input, k'⟩, hm, h⟩ := bind_eq_ok.mp h
    obtain ⟨rest, r', hrest, h⟩ := bind_eq_ok.mp h
    cases h
    obtain ⟨j, hj, hlength, hle, hiff, hend⟩ := MsgMessage.ofSegments_position hm
    dsimp only at hj
    subst hj
    obtain ⟨j', hj', hlength', hle', hiff'⟩ := ih hlength hrest
    rw [List.map_cons, List.sum_cons, EntriesWhole, ← hiff, hend]
    refine ⟨j', hj', hlength', by omega, fun hall => ?_, fun ⟨hfirst, hothers⟩ => ?_⟩
    · have hfirst : j = i + m.bytesAsked c.getBlockSize := by omega
      rw [← hfirst]
      exact ⟨rfl, hiff'.mp (by omega)⟩
    · rw [← hfirst] at hothers
      have hothers := hiff'.mpr hothers
      omega

theorem readSegments_atOnce (r : Reader κ) :
    (readMessages now c n).run r = (readSegments (.atOnce c) now c n).run r := by
  induction n generalizing r with
  | zero => rfl
  | succ n ih =>
    unfold readMessages readSegments
    refine (bind_congr_run (MsgMessage.ofSegments_atOnce r) _).trans ?_
    exact bind_congr_ok fun m r₁ _ => bind_congr_run (ih r₁) _

theorem entriesWhole_atOnce (c : Cipher κ) (s : Bytes) (n i : Nat) :
    EntriesWhole (.atOnce c) c.getBlockSize s n i := by
  induction n generalizing i with
  | zero => trivial
  | succ n ih => exact ⟨fun _ _ => Nat.le_refl _, ih _⟩

theorem ofSegments_atOnce (r : Reader κ) :
    (ofStream now (some c)).run r = (ofSegments (.atOnce c) now (some c)).run r := by
  unfold ofStream ofSegments
  simp only [Segmentation.readInt_eq, Segmentation.readStr_eq]
  refine bind_congr_ok fun usernameLength _ _ => bind_congr_ok fun username _ _ => ?_
  refine throwIf_congr fun _ => ?_
  refine bind_congr_ok fun listNumber _ _ => bind_congr_ok fun totalLists _ _ => ?_
  refine throwIf_congr fun _ => ?_
  refine throwIf_congr fun _ => ?_
  exact bind_congr_ok fun messageListSize r _ => bind_congr_run (readSegments_atOnce r) _

theorem ofSegments_eq (h : Whole seg c.getBlockSize s) (h' : Whole seg' c.getBlockSize s) :
    (ofSegments seg now (some c)).run ⟨s, k⟩ = (ofSegments seg' now (some c)).run ⟨s, k⟩ := by
  unfold ofSegments
  simp only [Segmentation.readInt_eq, Segmentation.readStr_eq]
  refine bind_congr_ok fun usernameLength _ hread => ?_
  obtain ⟨hlength, rfl, hnonneg, rfl⟩ := readInt_inv (i := 0) hread
  refine bind_congr_ok fun username _ hread => ?_
  obtain ⟨hlength, rfl⟩ := readStr_inv hlength hnonneg hread
  refine throwIf_congr fun _ => ?_
  refine bind_congr_ok fun listNumber _ hread => ?_
  obtain ⟨hlength, rfl, hnonneg, rfl⟩ := readInt_inv hread
  refine bind_congr_ok fun totalLists _ hread => ?_
  obtain ⟨hlength, rfl, hnonneg, rfl⟩ := readInt_inv hread
  refine throwIf_congr fun _ => ?_
  refine throwIf_congr fun _ => ?_
  refine bind_congr_ok fun messageListSize _ hread => ?_
  obtain ⟨hlength, rfl, hnonneg, rfl⟩ := readInt_inv hread
  exact bind_congr_run (readSegments_eq (whole_iff.mp h) (whole_iff.mp h')) _

def bytesAsked (blockSize : Nat) (m : PollResponseMessage) : Nat :=
  16 + m.usernameLength.toNat + (m.newMessages.map (MsgMessage.bytesAsked blockSize)).sum

theorem ofSegments_position {m : PollResponseMessage}
    (h : (ofSegments seg now (some c)).run ⟨s, k⟩ = .ok m r) :
    ∃ j, r.input = s.drop j ∧ j ≤ s.length ∧
      (j = bytesAsked c.getBlockSize m ↔ Whole seg c.getBlockSize s) := by
  unfold ofSegments at h
  simp only [Segmentation.readInt_eq, Segmentation.readStr_eq] at h
  obtain ⟨usernameLength, _, hread, h⟩ := bind_eq_ok.mp h
  obtain ⟨hlength, rfl, hnonneg, rfl⟩ := readInt_inv (i := 0) hread
  obtain ⟨username, _, hread, h⟩ := bind_eq_ok.mp h
  obtain ⟨hlength, rfl⟩ := readStr_inv hlength hnonneg hread
  obtain ⟨_, h⟩ := throwIf_eq_ok.mp h
  obtain ⟨listNumber, _, hread, h⟩ := bind_eq_ok.mp h
  obtain ⟨hlength, rfl, hnonneg, rfl⟩ := readInt_inv hread
  obtain ⟨totalLists, _, hread, h⟩ := bind_eq_ok.mp h
  obtain ⟨hlength, rfl, hnonneg, rfl⟩ := readInt_inv hread
  obtain ⟨_, h⟩ := throwIf_eq_ok.mp h
  obtain ⟨_, h⟩ := throwIf_eq_ok.mp h
  obtain ⟨messageListSize, _, hread, h⟩ := bind_eq_ok.mp h
  obtain ⟨hlength, rfl, hnonneg, rfl⟩ := readInt_inv hread
  obtain ⟨newMessages, r', hlist, h⟩ := bind_eq_ok.mp h
  cases h
  obtain ⟨j, hj, hlength, _, hiff⟩ := readSegments_position hlength hlist
  have hstart : 16 + (intAt s 0).toNat = 0 + 4 + (intAt s 0).toNat + 4 + 4 + 4 := by omega
  rw [bytesAsked, whole_iff, hstart]
  exact ⟨j, hj, hlength, hiff⟩

def SameResult (seg : Segmentation) (now : BitVec 64) (c : Cipher κ) (s : Bytes) (k : κ)
    (m : PollResponseMessage) (r : Reader κ) : Prop :=
  ∃ r', (ofSegments seg now (some c)).run ⟨s, k⟩ = .ok m r' ∧
    s.length - r'.input.length = s.length - r.input.length

theorem whole_of_sameResult {m : PollResponseMessage}
    (h : (ofStream now (some c)).run ⟨s, k⟩ = .ok m r) (hsame : SameResult seg now c s k m r) :
    Whole seg c.getBlockSize s := by
  rw [ofSegments_atOnce] at h
  obtain ⟨j, hj, hlength, hiff⟩ := ofSegments_position h
  obtain ⟨r', hrun, hconsumed⟩ := hsame
  obtain ⟨j', hj', hlength', hiff'⟩ := ofSegments_position hrun
  rw [hj, hj', List.length_drop, List.length_drop] at hconsumed
  have hposition : j' = j := by omega
  exact hiff'.mp (hposition.trans (hiff.mpr (entriesWhole_atOnce c s _ _)))

theorem segmented_iff {m : PollResponseMessage}
    (h : (ofStream now (some c)).run ⟨s, k⟩ = .ok m r) (seg : Segmentation) :
    SameResult seg now c s k m r ↔ Whole seg c.getBlockSize s := by
  refine ⟨whole_of_sameResult h, fun hall => ⟨r, ?_, rfl⟩⟩
  rw [ofSegments_eq hall (entriesWhole_atOnce c s _ _), ← ofSegments_atOnce, h]

end Entries

def block : Bytes := List.replicate 16 7#8

def hi : Bytes := [104#8, 105#8]

def decryptHi : Cipher Unit where
  getBlockSize := 16
  update := fun k _ => (some [], k)
  doFinal := fun k b => (if b = block then some hi else none, k)
  positive := block_positive
  bounded := by
    intro k b out k' h
    simp only [Prod.mk.injEq, Option.ite_none_right_eq_some, Option.some.injEq] at h
    rw [← h.1.2]
    decide

def bob : Bytes := [98#8, 111#8, 98#8]

def fromBob : Bytes :=
  writeInt 3#32 ++ (bob ++ (writeInt 1#32 ++ (writeInt 1#32 ++ (writeInt 1#32 ++
    (writeInt 3#32 ++ (bob ++ (writeInt 3#32 ++ (bob ++ (writeInt 16#32 ++ (block ++
      (writeLong 2#64 ++ (writeInt 1#32 ++ (writeInt 1#32 ++ (writeLong 1000#64 ++ []))))))))))))))

theorem fromBob_accepted : ∃ m r,
    (ofStream 5000#64 (some decryptHi)).run ⟨fromBob, ()⟩ = .ok m r := by
  have hdec : MsgMessage.Decrypts decryptHi () block hi := ⟨rfl, rfl, [], (), hi, (), rfl, rfl, rfl⟩
  obtain ⟨k', hentry⟩ := @MsgMessage.ofStream_entry Unit 5000#64 decryptHi () bob bob block hi 1#32 1#32
    1000#64 (by decide) (by decide) hdec (by decide) (by decide) (Int.le_refl _) (by decide) (by decide) []
  have hname : bob.length ≤ MAX_UNAME_LEN := by decide
  have hrun := ofStream_single hname hentry
  exact ⟨_, _, hrun⟩

def aroundBlock : Segmentation :=
  ⟨fun left => if left = 40 then 16 else 1, fun left => by split <;> decide⟩

def byteByByte : Segmentation := ⟨fun _ => 1, fun _ => Nat.one_pos⟩

theorem around_block : ∃ m r, (ofStream 5000#64 (some decryptHi)).run ⟨fromBob, ()⟩ = .ok m r ∧
    SameResult aroundBlock 5000#64 decryptHi fromBob () m r := by
  obtain ⟨m, r, hrun⟩ := fromBob_accepted
  refine ⟨m, r, hrun, (segmented_iff hrun aroundBlock).mpr ⟨?_, trivial⟩⟩
  have hlength : MsgMessage.ciphertextLength fromBob (16 + (intAt fromBob 0).toNat) = 16 := by decide
  have hleft : fromBob.length - (MsgMessage.lengthStart fromBob (16 + (intAt fromBob 0).toNat) + 4) = 40 := by
    decide
  rw [MsgMessage.Whole, hlength, hleft]
  exact (blocksWhole_last (by decide) (by decide)).mpr (by decide)

theorem block_in_bytes : ∃ m r, (ofStream 5000#64 (some decryptHi)).run ⟨fromBob, ()⟩ = .ok m r ∧
    ¬ SameResult byteByByte 5000#64 decryptHi fromBob () m r := by
  obtain ⟨m, r, hrun⟩ := fromBob_accepted
  refine ⟨m, r, hrun, fun hsame => ?_⟩
  have hfirst : decryptHi.getBlockSize ≤ 1 := (whole_of_sameResult hrun hsame).1 0 (by decide)
  exact absurd hfirst (by decide)

end PollResponseMessage

end Client
