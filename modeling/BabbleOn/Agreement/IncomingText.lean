import BabbleOn.Agreement.ServerFrames
import BabbleOn.Client.Decryption
import BabbleOn.Client.Session
import BabbleOn.Library.Runs
import BabbleOn.Server.Encryption
import BabbleOn.Server.MessageDelivery

namespace Agreement
open Execution ProgramLogic CipherBlockChaining Client Server SignedWords Runs

variable {κ : Type}

theorem symIv_eq : BabbleOnClient.symIv = front ivString := by decide

def shownText (machine : Machine κ) (sender text : Str) (time : BitVec 64) : JavaString :=
  java "From: " ++ newString sender ++ machine.newline ++
    (newString text ++ (machine.newline ++ machine.date time ++ machine.newline))

section Reading

variable {machine : Machine κ} {s : Session κ}

theorem reading_ok {α : Type} {m : Input α} {a : α} {rest : Bytes} (h : m.run s.stream = .ok a rest) :
    (Session.reading m).run s = .ok a { s with stream := rest } := by
  simp only [EStateM.run, Session.reading] at h ⊢
  simp only [h]

theorem decrypting_ok {α : Type} {m : EStateM JavaThrow (Reader κ) α} {a : α} {k k' : κ} {rest : Bytes}
    (hcipher : s.cipherSymmetricIn = some k) (h : m.run ⟨s.stream, k⟩ = .ok a ⟨rest, k'⟩) :
    (Session.decrypting m).run s = .ok a { s with stream := rest, cipherSymmetricIn := some k' } := by
  simp only [EStateM.run, Session.decrypting, hcipher] at h ⊢
  simp only [h]

theorem dispatch_pollResponse {rest body : Bytes} {len : BitVec 64} {k k' : κ}
    {resp : PollResponseMessage}
    (hhead : BabbleOnMessage.ofStream.run s.stream = .ok ⟨MessageType.PollResponseMessage, len⟩ body)
    (hcipher : s.cipherSymmetricIn = some k)
    (hbody : (PollResponseMessage.ofStream (machine.currentTimeMillis s.calls)
      (some machine.cipher)).run ⟨body, k⟩ = .ok resp ⟨rest, k'⟩) :
    (Session.dispatch machine).run s = .ok false { s with
      stream := rest
      cipherSymmetricIn := some k'
      calls := s.calls + 1
      incomingMessageBox := s.incomingMessageBox ++ Session.display machine s.username resp } := by
  have hcreate : (Session.createCipher machine).run { s with stream := body } =
      .ok () { s with stream := body } := by
    unfold Session.createCipher
    rw [bind_ok (run_get _), if_neg (by simp [hcipher])]
    rfl
  have hclock : (Session.external machine.currentTimeMillis : Handler κ (BitVec 64)).run
      { s with stream := body } = .ok (machine.currentTimeMillis s.calls)
        { s with stream := body, calls := s.calls + 1 } := rfl
  have hread := decrypting_ok (s := { s with stream := body, calls := s.calls + 1 }) hcipher hbody
  unfold Session.dispatch
  rw [bind_ok (reading_ok hhead)]
  dsimp only
  rw [show MessageType.getMessageType MessageType.PollResponseMessage =
    some MessageType.PollResponseMessage by decide]
  dsimp only
  rw [Session.handle, if_neg (by decide), if_neg (by decide), if_neg (by decide), if_pos rfl]
  unfold Session.handlePollResponse
  rw [bind_ok hcreate, bind_ok hclock, bind_ok hread, bind_ok (run_modify _ _), run_pure]

end Reading

-- a row that the client takes: its own limits on the names, and its character set
structure Readable (sender receiver text : Str) : Prop where
  sender : validUsername sender = true ∧ sender.length ≤ 64
  receiver : validUsername receiver = true ∧ receiver.length ≤ 64
  text : text.length ≤ 500 ∧ ∀ x ∈ text, x.toNat < 128

section Rows

variable {aes : Equiv.Perm (Block 16)} {iv : Block 16} {encrypt : Str → Str}
  {sender receiver text : Str} {time now : BitVec 64}

theorem pollFrame_header (time : BitVec 64) (hrow : Readable sender receiver text)
    (hwhole : ∀ b, (encrypt b).length = 16 * (b.length / 16 + 1)) (rest : Bytes) :
    ∃ len, BabbleOnMessage.ofStream.run ((SPChatMessage.pollResponse
        (pollFrame encrypt sender receiver text time)).encode littleEndianHost ++ rest) =
      .ok ⟨MessageType.PollResponseMessage, len⟩
        ((pollFrame encrypt sender receiver text time).encodeMiddle littleEndianHost ++ rest) := by
  have hn : (pollFrame encrypt sender receiver text time).getPayloadLength < 2 ^ 31 := by
    have hpadded := hwhole text
    have htext := hrow.text.1
    have hsender := hrow.sender.2
    have hreceiver := hrow.receiver.2
    simp only [pollFrame, SPChatPollResponse.getPayloadLength, SPChatMsgMessage.getPayloadLength,
      List.map_cons, List.map_nil, List.sum_cons, List.sum_nil, INT_SIZE, LONG_SIZE]
    omega
  have hhead := receive_header (m := .pollResponse (pollFrame encrypt sender receiver text time))
    (writeLong_eq _).symm rest ()
  rw [SPChatMessage.getPayloadLength, toInt_ofNat_long (by omega), if_neg (by omega),
    SPChatMessage.encodeMiddle] at hhead
  exact ⟨_, (fromInput_eq_ok.mp hhead).1⟩

theorem pollFrame_read (hrow : Readable sender receiver text)
    (hencrypt : encrypt text = whole aes iv text) (htime : 0 ≤ time.toInt)
    (hnow : time.toInt ≤ now.toInt) (machine : Machine (Stream 16)) (rest : Bytes) :
    ∃ resp, (PollResponseMessage.ofStream now (some (cipherSymmetricIn aes iv true))).run
        ⟨(pollFrame encrypt sender receiver text time).encodeMiddle littleEndianHost ++ rest,
          ⟨iv, []⟩⟩ = .ok resp ⟨rest, ⟨iv, []⟩⟩ ∧
      Session.display machine (some (newString receiver)) resp =
        shownText machine sender text time := by
  have htext := hrow.text.1
  have hdecrypts : MsgMessage.Decrypts (cipherSymmetricIn aes iv true) ⟨iv, []⟩ (encrypt text) text :=
    hencrypt ▸ (decrypts_whole_iff (by omega)).mpr (.inl rfl)
  obtain ⟨k', hentry⟩ := MsgMessage.ofStream_entry hrow.sender.2 hrow.receiver.2 hdecrypts
    (by unfold MsgMessage.MAX_MSG_LEN MsgMessage.MAX_MSGS; omega) (show 0 < (1#32).toInt by decide)
    (Int.le_refl _) htime hnow rest
  have hreturns : MsgMessage.Returns ⟨iv, []⟩ (MsgMessage.ofStream now (cipherSymmetricIn aes iv true)) :=
    MsgMessage.ofStream_returns (fun _ _ _ _ h => doFinal_start h) now
  have hstart : k' = ⟨iv, []⟩ := hreturns.ok (s := ⟨_, ⟨iv, []⟩⟩) (Eq.refl _) hentry
  rw [hstart] at hentry
  refine ⟨_, by rw [pollFrame_middle]; exact PollResponseMessage.ofStream_single hrow.sender.2 hentry,
    ?_⟩
  simp only [Session.display, shownText, List.flatMap_cons, List.flatMap_nil, List.append_nil,
    and_self, if_true]

end Rows

section Frames

variable {AES : Block 16 → Equiv.Perm (Block 16)} {w : World} {keyString : Str} {newPoll : SPChatPoll}
  {machine : Machine (Stream 16)} {t : ReaderThread (Stream 16)}

-- a reader between two frames, with the cipher at its start
structure Reading (username : Str) (t : ReaderThread (Stream 16)) : Prop where
  listening : t.working = false ∧ t.alive = true ∧ t.exited = false
  cipher : t.frame.cipherSymmetricIn = some ⟨BabbleOnClient.symIv, []⟩
  username : t.frame.username = some (newString username)

def rowBytes (AES : Block 16 → Equiv.Perm (Block 16)) (w : World) (keyString : Str)
    (newPoll : SPChatPoll) (row : Row) : Str :=
  (SPChatMessage.pollResponse (rowFrame (w.encrypting AES) keyString newPoll row)).encode
    littleEndianHost

def afterRows (machine : Machine (Stream 16)) (newPoll : SPChatPoll) (rows : List Row) (rest : Bytes)
    (t : ReaderThread (Stream 16)) : ReaderThread (Stream 16) :=
  { t with frame := { t.frame with
    stream := rest
    calls := t.frame.calls + rows.length
    incomingMessageBox := t.frame.incomingMessageBox ++
      rows.flatMap fun row => shownText machine row.sender row.text newPoll.time } }

theorem Reading.after {username : Str} (h : Reading username t)
    (rows : List Row) (rest : Bytes) : Reading username (afterRows machine newPoll rows rest t) :=
  ⟨h.listening, h.cipher, h.username⟩

def deliver {κ : Type} (t : ReaderThread κ) (bytes : Bytes) : ReaderThread κ :=
  { t with frame := { t.frame with stream := t.frame.stream ++ bytes } }

theorem Reading.deliver {username : Str} (h : Reading username t) (bytes : Bytes) :
    Reading username (deliver t bytes) :=
  ⟨h.listening, h.cipher, h.username⟩

theorem encode_ne_nil (m : SPChatMessage) (rest : Str) : m.encode littleEndianHost ++ rest ≠ [] := by
  have hheader : Server.HEADER ≠ [] := by decide
  simp [SPChatMessage.encode, SPChatMessage.encodeHeader, hheader]

theorem row_step {row : Row} (hcipher : machine.cipher =
      cipherSymmetricIn (AES (front keyString)) BabbleOnClient.symIv true)
    (htime : 0 ≤ newPoll.time.toInt)
    (hnow : newPoll.time.toInt ≤ (machine.currentTimeMillis t.frame.calls).toInt)
    (hrow : Readable row.sender newPoll.username row.text)
    (ht : Reading newPoll.username t) {rest : Bytes}
    (hstream : t.frame.stream = rowBytes AES w keyString newPoll row ++ rest) :
    ReaderThread.step machine t .read = some (afterRows machine newPoll [row] rest t) := by
  have hframe : rowFrame (w.encrypting AES) keyString newPoll row =
      pollFrame (fun text => aesEncrypt AES text keyString ivString) row.sender newPoll.username
        row.text newPoll.time := rfl
  obtain ⟨hworking, halive, hexited⟩ := ht.listening
  rw [rowBytes, hframe] at hstream
  obtain ⟨len, hhead⟩ := pollFrame_header newPoll.time hrow
    (fun text => aesEncrypt_length text keyString ivString) rest
  obtain ⟨resp, hread, hdisplay⟩ := @pollFrame_read (AES (front keyString)) BabbleOnClient.symIv
    (fun text => aesEncrypt AES text keyString ivString) _ _ _ _ _ hrow (by rw [symIv_eq]; rfl) htime
    hnow machine rest
  rw [← hstream] at hhead
  rw [← hcipher] at hread
  have hrun := dispatch_pollResponse hhead ht.cipher hread
  have hready : t.alive = true ∧ t.exited = false ∧ t.frame.stream ≠ [] :=
    ⟨halive, hexited, hstream ▸ encode_ne_nil _ rest⟩
  rw [ht.username, hdisplay] at hrun
  rw [ReaderThread.step, if_pos hready, ReaderThread.run]
  simp only [hrun, afterRows, List.flatMap_cons, List.flatMap_nil, List.append_nil,
    List.length_singleton, hworking, ht.cipher, ht.username, Bool.false_eq_true, if_false]

theorem rows_read {rows : List Row} (hcipher : machine.cipher =
      cipherSymmetricIn (AES (front keyString)) BabbleOnClient.symIv true)
    (htime : 0 ≤ newPoll.time.toInt)
    (hnow : ∀ k ≥ t.frame.calls, newPoll.time.toInt ≤ (machine.currentTimeMillis k).toInt)
    (hrows : ∀ row ∈ rows, Readable row.sender newPoll.username row.text)
    (ht : Reading newPoll.username t) {rest : Bytes}
    (hstream : t.frame.stream = rows.flatMap (rowBytes AES w keyString newPoll) ++ rest) :
    perform (ReaderThread.step machine) t (List.replicate rows.length .read) =
      some (afterRows machine newPoll rows rest t) := by
  induction rows generalizing t with
  | nil =>
    rw [List.flatMap_nil, List.nil_append] at hstream
    simp [perform, afterRows, ← hstream]
  | cons row rows ih =>
    rw [List.flatMap_cons, List.append_assoc] at hstream
    have hone := row_step hcipher htime (hnow _ (Nat.le_refl _)) (hrows row (by simp)) ht hstream
    have hmany := ih (t := afterRows machine newPoll [row]
      (rows.flatMap (rowBytes AES w keyString newPoll) ++ rest) t)
      (fun k hk => hnow k (Nat.le_trans (Nat.le_add_right _ _) hk))
      (fun r h => hrows r (by simp [h])) (ht.after _ _) rfl
    rw [List.length_cons, List.replicate_succ, perform, List.foldlM_cons, hone]
    refine hmany.trans ?_
    simp only [afterRows, List.flatMap_cons, List.flatMap_nil, List.append_nil, List.append_assoc,
      List.length_cons, List.length_nil, Nat.zero_add, Nat.add_assoc, Nat.add_comm 1]

end Frames

end Agreement
