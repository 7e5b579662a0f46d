import Mathlib.Algebra.Order.Floor.Div
import BabbleOn.Client.MsgMessage
import BabbleOn.Library.Pieces

namespace Client
open Execution Pieces SignedWords

structure Outgoing (κ : Type) where
  outMsgs : List MsgMessage
  encrypt : κ
  clockReads : Nat
  out : Bytes

namespace BabbleOnClient

variable {κ : Type}

def MAX_MSG_LEN : Nat := 15
def MAX_MSGS : Nat := 500

def int32 (n : Int) : Int := n.bmod (2 ^ 32)

def substring (s : JavaString) (beginIndex endIndex : Int) : Except JavaThrow JavaString :=
  if beginIndex < 0 ∨ endIndex > s.length ∨ beginIndex > endIndex then throw .stringIndexOutOfBounds
  else pure ((s.drop beginIndex.toNat).take (endIndex - beginIndex).toNat)

def currentTimeMillis (clock : Nat → BitVec 64) : EStateM JavaThrow (Outgoing κ) (BitVec 64) := do
  let s ← get
  set { s with clockReads := s.clockReads + 1 }
  pure (clock s.clockReads)

def withCipher {α : Type} (m : EStateM JavaThrow κ α) : EStateM JavaThrow (Outgoing κ) α := fun s =>
  match m.run s.encrypt with
  | .ok a k => .ok a { s with encrypt := k }
  | .error e k => .error e { s with encrypt := k }

def catchBabbleException (m : EStateM JavaThrow (Outgoing κ) Unit) :
    EStateM JavaThrow (Outgoing κ) Unit := fun s =>
  match m.run s with
  | .error (.babble _) s' => .ok () s'
  | r => r

def messages (length : Nat) : Nat := length ⌈/⌉ MAX_MSG_LEN

def messageLen (length i : Int) : Int :=
  if int32 (length - int32 (int32 (i - 1) * MAX_MSG_LEN)) < MAX_MSG_LEN then length.tmod MAX_MSG_LEN
  else MAX_MSG_LEN

def max (length i : Int) : Int :=
  if messageLen length i < MAX_MSG_LEN then length else int32 (MAX_MSG_LEN * i)

def messageBit (message : JavaString) (i : Int) : Except JavaThrow (JavaString × Int) := do
  let bit ← substring message (int32 (int32 (i - 1) * MAX_MSG_LEN)) (max message.length i)
  pure (bit, messageLen message.length i)

def addMessage (clock : Nat → BitVec 64) (c : Cipher κ) (username recipientUsername message : JavaString)
    (i : Nat) : EStateM JavaThrow (Outgoing κ) Unit := do
  let (messageBit, messageLen) ← ofExcept (messageBit message i)
  let timestamp ← currentTimeMillis clock
  let now ← currentTimeMillis clock
  let m ← withCipher (MsgMessage.new now c (BitVec.ofNat 32 username.length) (some username)
    (BitVec.ofNat 32 recipientUsername.length) (some recipientUsername) (some messageBit)
    (BitVec.ofInt 64 messageLen) (BitVec.ofNat 32 i) (BitVec.ofNat 32 (messages message.length))
    timestamp)
  modify fun s => { s with outMsgs := s.outMsgs ++ [m] }

-- `encode` reads the clock once for every entry it writes
def write (clock : Nat → BitVec 64) (sendMsg : PollResponseMessage) :
    EStateM JavaThrow (Outgoing κ) Unit :=
  modify fun s => { s with
    clockReads := s.clockReads + sendMsg.newMessages.length
    out := s.out ++ sendMsg.encode fun i => clock (s.clockReads + i) }

def sendMessage (clock : Nat → BitVec 64) (c : Cipher κ) (username message recipientUsername : JavaString) :
    EStateM JavaThrow (Outgoing κ) Unit := do
  forM (List.range' 1 (messages message.length)) (addMessage clock c username recipientUsername message)
  let s ← get
  if s.outMsgs.isEmpty then pure ()
  else do
    let sendMsg ← ofExcept (PollResponseMessage.new (BitVec.ofNat 32 username.length) (some username)
      (BitVec.ofNat 32 s.outMsgs.length) 1#32 1#32 (some s.outMsgs))
    write clock sendMsg
  modify fun s => { s with outMsgs := [] }

def recipients (recipientUsernames : List JavaString) : JavaString :=
  if recipientUsernames.length > 1 then
    java "**Group Message**\nTo: " ++ recipientUsernames.flatMap fun name => name ++ java "\n"
  else []

-- the listener of the send button; what is left out shows text or a dialog
def actionPerformed (clock : Nat → BitVec 64) (c : Cipher κ) (username : JavaString)
    (recipientUsernames : List JavaString) (text : JavaString) : EStateM JavaThrow (Outgoing κ) Unit :=
  if text.length > 0 ∧ text.length < MAX_MSG_LEN * MAX_MSGS then
    catchBabbleException
      (forM recipientUsernames (sendMessage clock c username (recipients recipientUsernames ++ text)))
  else pure ()

theorem int32_small {n : Int} (h0 : 0 ≤ n) (h : n < 2 ^ 31) : int32 n = n :=
  Int.bmod_eq_of_le (by omega) (by omega)

theorem messages_eq (n : Nat) : messages n = (n + 14) / 15 := by
  rw [messages, Nat.ceilDiv_eq_add_pred_div]
  rfl

theorem messages_bounds {n : Nat} (h : 0 < n) :
    15 * (messages n - 1) < n ∧ n ≤ 15 * messages n ∧ 0 < messages n := by
  rw [messages_eq]
  omega

def bit (message : JavaString) (j : Nat) : JavaString := (message.drop (15 * j)).take 15

theorem bit_length (message : JavaString) (j : Nat) :
    (bit message j).length = min 15 (message.length - 15 * j) := by
  rw [bit, List.length_take, List.length_drop]

theorem substring_ok {s : JavaString} {b e : Nat} (hbe : b ≤ e) (he : e ≤ s.length) :
    substring s b e = .ok ((s.drop b).take (e - b)) := by
  rw [substring, if_neg (by omega), Int.toNat_natCast, ← Int.natCast_sub hbe, Int.toNat_natCast]
  rfl

theorem messageBit_ok {message : JavaString} {j : Nat} (hj : 15 * j < message.length)
    (hlen : message.length < 2 ^ 31) :
    messageBit message ((j + 1 : Nat) : Int) = .ok (bit message j, (bit message j).length) := by
  have hstart : int32 (int32 (((j + 1 : Nat) : Int) - 1) * MAX_MSG_LEN) = ((15 * j : Nat) : Int) := by
    have hpred : int32 (((j + 1 : Nat) : Int) - 1) = j := by
      rw [int32_small (by omega) (by omega)]
      omega
    rw [hpred, MAX_MSG_LEN, int32_small (by omega) (by omega)]
    omega
  have hlength : messageLen message.length ((j + 1 : Nat) : Int) = (bit message j).length := by
    rw [messageLen, hstart, int32_small (by omega) (by omega), bit_length]
    unfold MAX_MSG_LEN
    split
    · rw [Int.tmod_eq_emod_of_nonneg (by omega)]
      omega
    · omega
  have hmax : max message.length ((j + 1 : Nat) : Int) =
      ((15 * j + (bit message j).length : Nat) : Int) := by
    rw [max, hlength, bit_length]
    unfold MAX_MSG_LEN
    split
    · omega
    · rw [int32_small (by omega) (by omega)]
      omega
  have hsub : substring message ((15 * j : Nat) : Int) ((15 * j + (bit message j).length : Nat) : Int) =
      .ok ((message.drop (15 * j)).take (15 * j + (bit message j).length - 15 * j)) :=
    substring_ok (by omega) (by rw [bit_length]; omega)
  rw [messageBit, hstart, hmax, hsub, hlength, Nat.add_sub_cancel_left]
  have hbit : (message.drop (15 * j)).take (bit message j).length = bit message j := by
    rw [bit_length, ← List.length_drop, ← List.take_eq_take_min]
    rfl
  rw [hbit]
  rfl

theorem currentTimeMillis_run (clock : Nat → BitVec 64) (s : Outgoing κ) :
    (currentTimeMillis clock).run s = .ok (clock s.clockReads)
      { s with clockReads := s.clockReads + 1 } := rfl

theorem withCipher_ok {α : Type} {m : EStateM JavaThrow κ α} {a : α} {k : κ} {s : Outgoing κ}
    (h : m.run s.encrypt = .ok a k) : (withCipher m).run s = .ok a { s with encrypt := k } := by
  simp only [EStateM.run, withCipher] at h ⊢
  simp only [h]

def fragment (encrypt : Bytes → Bytes) (username recipientUsername message : JavaString)
    (timestamp : BitVec 64) (j : Nat) : MsgMessage where
  messageType := MessageType.MsgMessage
  messageLen := MsgMessage.messageLenOf (BitVec.ofNat 32 username.length)
    (BitVec.ofNat 32 recipientUsername.length) (BitVec.ofInt 64 (bit message j).length)
  senderUsernameLength := BitVec.ofNat 32 username.length
  senderUsername := username
  receiverUsernameLength := BitVec.ofNat 32 recipientUsername.length
  receiverUsername := recipientUsername
  messageLengthEncrypted := BitVec.ofNat 32 (encrypt (getBytes (bit message j))).length
  message := bit message j
  messageLenDecrypted := BitVec.ofInt 64 (bit message j).length
  messageNumber := BitVec.ofNat 32 (j + 1)
  totalMessages := BitVec.ofNat 32 (messages message.length)
  timestamp := timestamp
  encrypted := encrypt (getBytes (bit message j))

section Sending

variable {clock : Nat → BitVec 64} {c : Cipher κ} {k : κ} {encrypt : Bytes → Bytes}
  {username recipientUsername message : JavaString}

structure Resets (c : Cipher κ) (k : κ) (encrypt : Bytes → Bytes) (message : JavaString) : Prop where
  blockSize : MAX_MSG_LEN ≤ c.getBlockSize
  doFinal : ∀ j < messages message.length, c.doFinal k (getBytes (bit message j)) =
    (some (encrypt (getBytes (bit message j))), k)

theorem fragment_new {now timestamp : BitVec 64} (hname : username.length ≤ MAX_UNAME_LEN)
    (hrecipient : recipientUsername.length ≤ MAX_UNAME_LEN) (hascii : IsAscii message)
    (hlen : message.length < 2 ^ 31) (hreset : Resets c k encrypt message) {j : Nat}
    (hj : 15 * j < message.length) (htime : timestamp.toInt ≤ now.toInt) :
    (MsgMessage.new now c (BitVec.ofNat 32 username.length) (some username)
      (BitVec.ofNat 32 recipientUsername.length) (some recipientUsername) (some (bit message j))
      (BitVec.ofInt 64 (bit message j).length) (BitVec.ofNat 32 (j + 1))
      (BitVec.ofNat 32 (messages message.length)) timestamp).run k =
        .ok (fragment encrypt username recipientUsername message timestamp j) k := by
  have hbit : IsAscii (bit message j) := fun x hx => hascii x
    (List.mem_of_mem_drop (List.mem_of_mem_take hx))
  have hsize := bit_length message j
  have hcount := messages_eq message.length
  have hbytes := getBytes_length hbit
  have hblock := hreset.blockSize
  unfold MAX_MSG_LEN at hblock
  unfold MAX_UNAME_LEN at hname hrecipient
  have henc := MsgMessage.doEncryption_short (by omega) (by omega) (hreset.doFinal j (by omega))
  refine MsgMessage.new_eq_ok.mpr ⟨username, recipientUsername, bit message j, _, rfl, rfl, rfl,
    ⟨toInt_ofNat_small (by omega), hname⟩, ⟨toInt_ofNat_small (by omega), hrecipient⟩,
    ⟨?_, ?_⟩, henc, ?_, htime, rfl⟩
  · rw [BitVec.ofInt_natCast, toInt_ofNat_long (by omega)]
  · rw [MsgMessage.MAX_MSG_LEN]
    omega
  · rw [toInt_ofNat_small (by omega), toInt_ofNat_small (by omega)]
    omega

theorem addMessage_run (hclock : ∀ i, (clock i).toInt ≤ (clock (i + 1)).toInt)
    (hname : username.length ≤ MAX_UNAME_LEN) (hrecipient : recipientUsername.length ≤ MAX_UNAME_LEN)
    (hascii : IsAscii message) (hlen : message.length < 2 ^ 31)
    (hreset : Resets c k encrypt message) {j : Nat} (hj : 15 * j < message.length)
    (outMsgs : List MsgMessage) (reads : Nat) (out : Bytes) :
    (addMessage clock c username recipientUsername message (j + 1)).run ⟨outMsgs, k, reads, out⟩ =
      .ok () ⟨outMsgs ++ [fragment encrypt username recipientUsername message (clock reads) j], k,
        reads + 2, out⟩ := by
  have hnew := fragment_new hname hrecipient hascii hlen hreset hj (hclock reads)
  unfold addMessage
  rw [messageBit_ok hj hlen]
  refine (bind_ok (run_pure _ _)).trans ?_
  rw [bind_ok (currentTimeMillis_run clock _), bind_ok (currentTimeMillis_run clock _),
    bind_ok (withCipher_ok hnew), run_modify]

def fragments (clock : Nat → BitVec 64) (encrypt : Bytes → Bytes)
    (username recipientUsername message : JavaString) (start reads count : Nat) : List MsgMessage :=
  (List.range count).map fun j =>
    fragment encrypt username recipientUsername message (clock (reads + 2 * j)) (start + j)

theorem fragments_succ (start reads count : Nat) :
    fragments clock encrypt username recipientUsername message start reads (count + 1) =
      fragment encrypt username recipientUsername message (clock reads) start ::
        fragments clock encrypt username recipientUsername message (start + 1) (reads + 2) count := by
  simp only [fragments, List.range_succ_eq_map, List.map_cons, List.map_map, Nat.mul_zero,
    Nat.add_zero]
  apply congrArg (List.cons _)
  apply List.map_congr_left
  intro j _
  rw [Function.comp_apply, show reads + 2 * (j + 1) = reads + 2 + 2 * j by omega,
    show start + (j + 1) = start + 1 + j by omega]

theorem addMessages_run (hclock : ∀ i, (clock i).toInt ≤ (clock (i + 1)).toInt)
    (hname : username.length ≤ MAX_UNAME_LEN) (hrecipient : recipientUsername.length ≤ MAX_UNAME_LEN)
    (hascii : IsAscii message) (hlen : message.length < 2 ^ 31)
    (hreset : Resets c k encrypt message) {start count : Nat}
    (hcount : start + count ≤ messages message.length) (outMsgs : List MsgMessage) (reads : Nat)
    (out : Bytes) :
    (forM (List.range' (start + 1) count) (addMessage clock c username recipientUsername message)).run
        ⟨outMsgs, k, reads, out⟩ =
      .ok () ⟨outMsgs ++ fragments clock encrypt username recipientUsername message start reads count,
        k, reads + 2 * count, out⟩ := by
  induction count generalizing start outMsgs reads with
  | zero => simp [fragments]
  | succ count ih =>
    have hj : 15 * start < message.length := by
      rw [messages_eq] at hcount
      omega
    rw [List.range'_succ, List.forM_cons,
      bind_ok (addMessage_run hclock hname hrecipient hascii hlen hreset hj outMsgs reads out),
      ih (by omega), fragments_succ, List.append_assoc, List.singleton_append,
      show reads + 2 + 2 * count = reads + 2 * (count + 1) by omega]

theorem sendMessage_run (hclock : ∀ i, (clock i).toInt ≤ (clock (i + 1)).toInt)
    (hname : username.length ≤ MAX_UNAME_LEN) (hrecipient : recipientUsername.length ≤ MAX_UNAME_LEN)
    (hascii : IsAscii message) (hlen : message.length < 2 ^ 31) (hne : message ≠ [])
    (hreset : Resets c k encrypt message) (reads : Nat) (out : Bytes) :
    ∃ sendMsg : PollResponseMessage,
      PollResponseMessage.new (BitVec.ofNat 32 username.length) (some username)
        (BitVec.ofNat 32 (messages message.length)) 1#32 1#32 (some (fragments clock encrypt username
          recipientUsername message 0 reads (messages message.length))) = .ok sendMsg ∧
      (sendMessage clock c username message recipientUsername).run ⟨[], k, reads, out⟩ =
        .ok () ⟨[], k, reads + 3 * messages message.length, out ++ sendMsg.encode fun i =>
          clock (reads + 2 * messages message.length + i)⟩ := by
  have hcount := messages_bounds (List.length_pos_iff.mpr hne)
  have hlength : (fragments clock encrypt username recipientUsername message 0 reads
      (messages message.length)).length = messages message.length := by
    rw [fragments, List.length_map, List.length_range]
  obtain ⟨base, hbase, _⟩ := BabbleOnMessage.new_any MessageType.PollResponseMessage (by decide)
    ((4#32 * 4#32 + BitVec.ofNat 32 username.length).signExtend 64 + MsgMessage.getLen (fragments clock
      encrypt username recipientUsername message 0 reads (messages message.length)))
  have hsize : (BitVec.ofNat 32 (messages message.length)).toInt = messages message.length :=
    toInt_ofNat_small (by omega)
  have hnonempty : fragments clock encrypt username recipientUsername message 0 reads
      (messages message.length) ≠ [] := List.ne_nil_of_length_pos (by omega)
  unfold MAX_UNAME_LEN at hname
  have hnew := PollResponseMessage.new_eq_ok.mpr ⟨username, _, base, rfl, rfl,
    ⟨toInt_ofNat_small (by omega), hname⟩, hsize ▸ Int.natCast_nonneg _,
    ⟨show 0 < (1#32).toInt by decide, Int.le_refl _⟩, hnonempty, hbase, rfl⟩
  refine ⟨_, hnew, ?_⟩
  have hloop := addMessages_run hclock hname hrecipient hascii hlen hreset
    (Nat.le_of_eq (Nat.zero_add _)) [] reads out
  unfold sendMessage
  rw [bind_ok hloop, List.nil_append, bind_ok (run_get _), if_neg (by simpa using hnonempty), hlength,
    hnew]
  refine (bind_ok (run_pure _ _)).trans ?_
  unfold write
  rw [bind_ok (run_modify _ _), run_modify, hlength,
    show reads + 2 * messages message.length + messages message.length =
      reads + 3 * messages message.length by omega]

structure IsFragment (c : Cipher κ) (k : κ) (username recipientUsername message : JavaString) (j : Nat)
    (m : MsgMessage) : Prop where
  bit : messageBit message (j + 1 : Nat) = .ok (m.message, m.message.length)
  short : 1 ≤ m.message.length ∧ m.message.length ≤ MAX_MSG_LEN
  built : ∃ now timestamp, (MsgMessage.new now c (BitVec.ofNat 32 username.length) (some username)
    (BitVec.ofNat 32 recipientUsername.length) (some recipientUsername) (some m.message)
    (BitVec.ofInt 64 m.message.length) (BitVec.ofNat 32 (j + 1))
    (BitVec.ofNat 32 (messages message.length)) timestamp).run k = .ok m k
  encrypted : c.doFinal k (getBytes m.message) = (some m.encrypted, k)
  number : m.messageNumber.toInt = j + 1
  total : m.totalMessages.toInt = messages message.length

structure Fragmented (c : Cipher κ) (k : κ) (username recipientUsername message : JavaString)
    (msgs : List MsgMessage) : Prop where
  count : msgs.length = messages message.length
  text : msgs.flatMap (·.message) = message
  each : ∀ j m, msgs[j]? = some m → IsFragment c k username recipientUsername message j m

structure Sent (clock : Nat → BitVec 64) (c : Cipher κ) (k : κ)
    (username message recipientUsername : JavaString) (sendMsg : PollResponseMessage) (frame : Bytes) :
    Prop where
  fragmented : Fragmented c k username recipientUsername message sendMsg.newMessages
  built : PollResponseMessage.new (BitVec.ofNat 32 username.length) (some username)
    (BitVec.ofNat 32 sendMsg.newMessages.length) 1#32 1#32 (some sendMsg.newMessages) = .ok sendMsg
  encoded : ∃ reads, frame = sendMsg.encode fun i => clock (reads + i)

theorem IsFragment.users {j : Nat} {m : MsgMessage}
    (h : IsFragment c k username recipientUsername message j m) :
    m.senderUsername = username ∧ m.receiverUsername = recipientUsername := by
  obtain ⟨now, timestamp, hnew⟩ := h.built
  obtain ⟨_, _, _, _, hs, hr, _, _, _, _, _, _, _, hm⟩ := MsgMessage.new_eq_ok.mp hnew
  rw [hm]
  exact ⟨(Option.some.inj hs).symm, (Option.some.inj hr).symm⟩

theorem fragments_messages (reads count : Nat) :
    (fragments clock encrypt username recipientUsername message 0 reads count).map (·.message) =
      pieces 15 count message := by
  rw [fragments, List.map_map, pieces]
  apply List.map_congr_left
  intro j _
  rw [Function.comp_apply, fragment, bit, Nat.zero_add]

theorem fragments_fragmented (hclock : ∀ i, (clock i).toInt ≤ (clock (i + 1)).toInt)
    (hname : username.length ≤ MAX_UNAME_LEN) (hrecipient : recipientUsername.length ≤ MAX_UNAME_LEN)
    (hascii : IsAscii message) (hlen : message.length < 2 ^ 31)
    (hreset : Resets c k encrypt message) (reads : Nat) :
    Fragmented c k username recipientUsername message
      (fragments clock encrypt username recipientUsername message 0 reads (messages message.length)) where
  count := by rw [fragments, List.length_map, List.length_range]
  text := by
    rw [List.flatMap_def, fragments_messages, pieces_flatten]
    rw [messages_eq]
    omega
  each := by
    intro j m hm
    have hcount := messages_eq message.length
    have hj : j < messages message.length := by
      have hlt := (List.getElem?_eq_some_iff.mp hm).1
      rwa [fragments, List.length_map, List.length_range] at hlt
    have hget : (fragments clock encrypt username recipientUsername message 0 reads
        (messages message.length))[j]? =
          some (fragment encrypt username recipientUsername message (clock (reads + 2 * j)) j) := by
      simp [fragments, hj]
    rw [hget] at hm
    cases hm
    have hsize := bit_length message j
    have hnew := fragment_new hname hrecipient hascii hlen hreset (show 15 * j < message.length by omega)
      (hclock (reads + 2 * j))
    refine ⟨messageBit_ok (by omega) hlen, ?_, ⟨_, _, hnew⟩, hreset.doFinal j hj, ?_,
      toInt_ofNat_small (by omega)⟩
    · simp only [fragment, MAX_MSG_LEN]
      omega
    · rw [fragment, toInt_ofNat_small (by omega)]
      rfl

theorem sendAll_run (hclock : ∀ i, (clock i).toInt ≤ (clock (i + 1)).toInt)
    (hname : username.length ≤ MAX_UNAME_LEN) (hascii : IsAscii message)
    (hlen : message.length < 2 ^ 31) (hne : message ≠ []) (hreset : Resets c k encrypt message)
    {recipientUsernames : List JavaString}
    (hrecipients : ∀ name ∈ recipientUsernames, name.length ≤ MAX_UNAME_LEN) (reads : Nat)
    (out : Bytes) :
    ∃ sent : List (PollResponseMessage × Bytes),
      List.Forall₂ (fun name p => Sent clock c k username message name p.1 p.2) recipientUsernames sent ∧
      (forM recipientUsernames (sendMessage clock c username message)).run ⟨[], k, reads, out⟩ =
        .ok () ⟨[], k, reads + 3 * messages message.length * recipientUsernames.length,
          out ++ sent.flatMap (·.2)⟩ := by
  induction recipientUsernames generalizing reads out with
  | nil => exact ⟨[], .nil, by simp⟩
  | cons name names ih =>
    obtain ⟨sendMsg, hnew, hrun⟩ := sendMessage_run hclock hname (hrecipients name (by simp)) hascii hlen
      hne hreset reads out
    obtain ⟨sent, hsent, hrest⟩ := ih (fun n h => hrecipients n (by simp [h]))
      (reads + 3 * messages message.length)
      (out ++ sendMsg.encode fun i => clock (reads + 2 * messages message.length + i))
    have hmsgs : sendMsg.newMessages = fragments clock encrypt username name message 0 reads
        (messages message.length) := by
      obtain ⟨_, _, _, _, hmsgs, _, _, _, _, _, rfl⟩ := PollResponseMessage.new_eq_ok.mp hnew
      cases hmsgs
      rfl
    have hfragmented := fragments_fragmented hclock hname (hrecipients name (by simp)) hascii hlen
      hreset reads
    rw [← hmsgs] at hnew hfragmented
    rw [← hfragmented.count] at hnew
    refine ⟨(sendMsg, sendMsg.encode fun i => clock (reads + 2 * messages message.length + i)) :: sent,
      .cons ⟨hfragmented, hnew, reads + 2 * messages message.length, rfl⟩ hsent, ?_⟩
    rw [List.forM_cons, bind_ok hrun, hrest, List.flatMap_cons, List.append_assoc, List.length_cons,
      Nat.mul_succ, Nat.add_assoc, Nat.add_comm (3 * messages message.length)]

end Sending

theorem catchBabbleException_ok {m : EStateM JavaThrow (Outgoing κ) Unit} {s s' : Outgoing κ}
    (h : m.run s = .ok () s') : (catchBabbleException m).run s = .ok () s' := by
  simp only [EStateM.run, catchBabbleException] at h ⊢
  simp only [h]

theorem actionPerformed_ok {clock : Nat → BitVec 64} {c : Cipher κ} {username text : JavaString}
    {recipientUsernames : List JavaString} {s s' : Outgoing κ} (hpos : 0 < text.length)
    (hshort : text.length < MAX_MSG_LEN * MAX_MSGS)
    (h : (forM recipientUsernames
      (sendMessage clock c username (recipients recipientUsernames ++ text))).run s = .ok () s') :
    (actionPerformed clock c username recipientUsernames text).run s = .ok () s' := by
  rw [actionPerformed, if_pos ⟨hpos, hshort⟩, catchBabbleException_ok h]

end BabbleOnClient

end Client
