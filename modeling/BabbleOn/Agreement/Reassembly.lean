import Mathlib.Tactic.IntervalCases
import BabbleOn.Agreement.ClientFrames
import BabbleOn.Client.OutgoingMessage
import BabbleOn.Server.MessageStore

namespace Agreement
open Execution SegmentedStream SignedWords Client BabbleOnClient Server

section Server

variable {w : World} {originalUser keyString text : Str}

theorem decode_received (hgarbage : ∀ i j, 0 ≤ ((w.garbage i).time j).toInt) {frame rest : Str}
    {m : SPChatMessage} (hframe : DecodesTo w.host frame m) (conn : Conn) (hlive : conn.sock.Live)
    (hpending : conn.sock.pending = frame ++ rest) :
    ∃ sock, sock.Live ∧ sock.pending = rest ∧ (decode w).run conn =
      .ok m ⟨sock, conn.calls + 1, conn.events ++ [.received m]⟩ := by
  obtain ⟨⟨pending, answers⟩, calls, events⟩ := conn
  dsimp only at hpending
  subst hpending
  obtain ⟨p, hlive', hrest, hrun⟩ := hframe (w.garbage calls) (hgarbage calls) rest answers hlive
  refine ⟨p.sock, hlive', hrest, ?_⟩
  unfold Server.decode
  rw [bind_ok (external_run w.garbage _), bind_ok (run_get _)]
  dsimp only
  rw [hrun]
  rfl

structure Carries (w : World) (originalUser keyString text : Str) (frame : Str) : Prop where
  carried : ∃ pollRspns first rest, DecodesTo w.host frame (.pollResponse pollRspns) ∧
    pollRspns.msgList = first :: rest ∧ first.sender = originalUser ∧
    pollRspns.msgList.flatMap (fun msg => w.aesDecrypt msg.message keyString ivString) = text

theorem serve_stores (hgarbage : ∀ i j, 0 ≤ ((w.garbage i).time j).toInt)
    (hexecute : ∀ i, w.executeFails i = false) {endTime : Int} (htime : ∀ i, w.time i ≤ endTime)
    {frames : List Str} (hframes : ∀ frame ∈ frames, Carries w originalUser keyString text frame)
    {rest : Str} {conn : Conn} (hlive : conn.sock.Live)
    (hpending : conn.sock.pending = frames.flatten ++ rest) :
    ∃ conn', (serve w endTime originalUser keyString frames.length).run conn = .ok () conn' ∧
      conn'.sock.pending = rest ∧
      stored conn'.events = stored conn.events ++ List.replicate frames.length text := by
  induction frames generalizing conn with
  | nil => exact ⟨conn, rfl, hpending, (List.append_nil _).symm⟩
  | cons frame frames ih =>
    obtain ⟨pollRspns, first, others, hdec, hlist, hsender, htext⟩ := (hframes frame (by simp)).carried
    rw [List.flatten_cons, List.append_assoc] at hpending
    obtain ⟨sock, hsock, hrest, hdecode⟩ := decode_received hgarbage hdec
      { conn with calls := conn.calls + 1 } hlive hpending
    obtain ⟨c₁, hreceive, hsame, hone⟩ := receivePollResponse_stores
      ⟨sock, conn.calls + 2, conn.events ++ [.received (.pollResponse pollRspns)]⟩ (hexecute _)
      keyString hlist hsender
    have hlive₁ : c₁.sock.Live := by rw [hsame]; exact hsock
    have hpending₁ : c₁.sock.pending = frames.flatten ++ rest := by rw [hsame]; exact hrest
    obtain ⟨conn', hserve, hpending', hmany⟩ := ih (fun f hf => hframes f (by simp [hf])) hlive₁ hpending₁
    refine ⟨conn', ?_, hpending', ?_⟩
    · rw [List.length_cons, serve_received (htime conn.calls) hdecode]
      exact (bind_ok hreceive).trans hserve
    · have hnothing : stored [.received (.pollResponse pollRspns)] = [] := rfl
      rw [hmany, hone, htext, stored_append, hnothing, List.append_nil, List.append_assoc,
        List.length_cons, List.replicate_succ, List.singleton_append]

end Server

section Fragmentation

variable {κ : Type} {w : World} {clock : Nat → BitVec 64} {c : Cipher κ} {k : κ}
  {encrypt : Bytes → Bytes} {keyString : Str} {username name message : JavaString}

-- the cipher of the client and the decryption of the server undo each other on every bit
structure SharedKey (w : World) (keyString : Str) (c : Cipher κ) (k : κ) (encrypt : Bytes → Bytes)
    (message : JavaString) : Prop where
  resets : Resets c k encrypt message
  padded : ∀ j < messages message.length, (encrypt (getBytes (bit message j))).length = 16
  inverse : ∀ j < messages message.length,
    w.aesDecrypt (encrypt (getBytes (bit message j))) keyString ivString = getBytes (bit message j)

def frameSize (username name message : JavaString) : Nat :=
  19 + 16 + username.length + messages message.length * (username.length + name.length + 52)

theorem getBytes_flatMap {α : Type} {f : α → JavaString} {l : List α} (h : ∀ a ∈ l, IsAscii (f a)) :
    l.flatMap (fun a => getBytes (f a)) = getBytes (l.flatMap f) := by
  have hall : IsAscii (l.flatMap f) := by
    intro x hx
    obtain ⟨a, ha, hxa⟩ := List.mem_flatMap.mp hx
    exact h a ha x hxa
  rw [getBytes_ascii hall, List.map_flatMap]
  exact List.flatMap_congr fun a ha => getBytes_ascii (h a ha)

theorem fragment_encrypted (hkey : SharedKey w keyString c k encrypt message)
    (hlen : message.length < 2 ^ 31) {msgs : List MsgMessage}
    (hfrag : Fragmented c k username name message msgs) {m : MsgMessage} (hm : m ∈ msgs) :
    m.encrypted.length = 16 ∧ w.aesDecrypt m.encrypted keyString ivString = getBytes m.message := by
  obtain ⟨j, hj⟩ := List.mem_iff_getElem?.mp hm
  have hlt : j < messages message.length := hfrag.count ▸ (List.getElem?_eq_some_iff.mp hj).1
  have hcount := messages_eq message.length
  have hone := hfrag.each j m hj
  have hbit := hone.bit.symm.trans (messageBit_ok (by omega) hlen)
  have hmessage : m.message = bit message j := by
    injection hbit with hpair
    exact congrArg Prod.fst hpair
  have henc := hone.encrypted
  rw [hmessage, hkey.resets.doFinal j hlt] at henc
  have heq : m.encrypted = encrypt (getBytes (bit message j)) := by
    injection henc with henc _
    exact (Option.some.inj henc).symm
  rw [heq, hmessage]
  exact ⟨hkey.padded j hlt, hkey.inverse j hlt⟩

theorem fragments_decrypted (hkey : SharedKey w keyString c k encrypt message)
    (hlen : message.length < 2 ^ 31) (hascii : IsAscii message) {msgs : List MsgMessage}
    (hfrag : Fragmented c k username name message msgs) :
    msgs.flatMap (fun m => w.aesDecrypt m.encrypted keyString ivString) = getBytes message := by
  have hparts : ∀ m ∈ msgs, IsAscii m.message := by
    intro m hm x hx
    exact hascii x (hfrag.text ▸ List.mem_flatMap.mpr ⟨m, hm, hx⟩)
  rw [List.flatMap_congr fun m hm => (fragment_encrypted hkey hlen hfrag hm).2,
    getBytes_flatMap hparts, hfrag.text]

theorem fragments_size (hkey : SharedKey w keyString c k encrypt message)
    (hlen : message.length < 2 ^ 31) {msgs : List MsgMessage}
    (hfrag : Fragmented c k username name message msgs) :
    (msgs.map MsgMessage.entryLength).sum =
      messages message.length * (username.length + name.length + 52) := by
  have hentry : ∀ m ∈ msgs, m.entryLength = username.length + name.length + 52 := by
    intro m hm
    obtain ⟨j, hj⟩ := List.mem_iff_getElem?.mp hm
    have hone := hfrag.each j m hj
    rw [MsgMessage.entryLength, (fragment_encrypted hkey hlen hfrag hm).1, hone.users.1, hone.users.2]
  rw [List.map_congr_left hentry, List.map_const', List.sum_replicate_nat, hfrag.count]

theorem sent_sendable (hname : matchesRegex username = true) (hrecipient : matchesRegex name = true)
    {sendMsg : PollResponseMessage} {frame : Bytes}
    (hsent : Sent clock c k username message name sendMsg frame) (hlen : message.length < 2 ^ 31) :
    Sendable (.pollResponse sendMsg) := by
  have hcount := messages_eq message.length
  refine .pollResponse hsent.built hname ?_ ?_
  · intro m hm
    obtain ⟨j, hj⟩ := List.mem_iff_getElem?.mp hm
    obtain ⟨now, timestamp, hnew⟩ := (hsent.fragmented.each j m hj).built
    exact .mk hnew hname hrecipient
  · rw [hsent.fragmented.count, toInt_ofNat_small (by omega)]

theorem sent_carries (hclock : ∀ i, 0 ≤ (clock i).toInt) (hname : matchesRegex username = true)
    (hrecipient : matchesRegex name = true) (hascii : IsAscii message) (hne : message ≠ [])
    (hsize : frameSize username name message < 2 ^ 31)
    (hkey : SharedKey w keyString c k encrypt message) {sendMsg : PollResponseMessage} {frame : Bytes}
    (hsent : Sent clock c k username message name sendMsg frame) :
    frame.length = frameSize username name message ∧
      Carries w (getBytes username) keyString (getBytes message) frame := by
  obtain ⟨reads, rfl⟩ := hsent.encoded
  have hfrag := hsent.fragmented
  have hcount := messages_eq message.length
  have hlen : message.length < 2 ^ 31 := by
    unfold frameSize at hsize
    rw [Nat.mul_add] at hsize
    omega
  have hmany := messages_bounds (List.length_pos_iff.mpr hne)
  obtain ⟨t, len, payload, hframe⟩ := sendable_frame (fun i => hclock (reads + i))
    (sent_sendable hname hrecipient hsent hlen) rfl
  obtain ⟨_, _, _, hu, _, _, _, _, _, _, hsendMsg⟩ := PollResponseMessage.new_eq_ok.mp hsent.built
  cases hu
  have husername : sendMsg.username = username := by rw [hsendMsg]
  have hpayload : (ClientMessage.pollResponse sendMsg).payloadSize + 19 =
      frameSize username name message := by
    rw [ClientMessage.payloadSize, fragments_size hkey hlen hfrag, husername, frameSize]
    omega
  have hdec := frame_decodes w.host hframe (by omega)
  rw [ClientMessage.counterpart] at hdec
  obtain ⟨m, msgs, hlist⟩ := List.exists_cons_of_length_pos (hfrag.count ▸ hmany.2.2)
  have hfirst := (hfrag.each 0 m (by rw [hlist]; rfl)).users.1
  constructor
  · have hheader : TOTAL_HEADER_LENGTH = 19 := rfl
    rw [hframe.bytes_eq, List.length_append, frameHeader_length, hframe.size]
    omega
  · have hhead : (sendMsg.newMessages.zipIdx.map fun p => ClientMessage.entry (clock (reads + p.2)) p.1) =
        ClientMessage.entry (clock (reads + 0)) m ::
          (msgs.zipIdx 1).map fun p => ClientMessage.entry (clock (reads + p.2)) p.1 := by
      rw [hlist, List.zipIdx_cons, List.map_cons]
    have htext : (sendMsg.newMessages.zipIdx.map fun p =>
        ClientMessage.entry (clock (reads + p.2)) p.1).flatMap
          (fun msg => w.aesDecrypt msg.message keyString ivString) = getBytes message := by
      rw [List.flatMap_map, ← fragments_decrypted hkey hlen hascii hfrag]
      conv_rhs => rw [← List.zipIdx_map_fst 0 sendMsg.newMessages, List.flatMap_map]
      rfl
    exact ⟨⟨_, _, _, hdec, hhead, congrArg getBytes hfirst, htext⟩⟩

theorem fragmentation_round_trip (hforward : ∀ i, (clock i).toInt ≤ (clock (i + 1)).toInt)
    (hclock : ∀ i, 0 ≤ (clock i).toInt) (hname : matchesRegex username = true)
    (hnameLen : username.length ≤ MAX_UNAME_LEN) {recipientUsernames : List JavaString}
    (hnonempty : recipientUsernames ≠ [])
    (hrecipients : ∀ name ∈ recipientUsernames, matchesRegex name = true ∧
      name.length ≤ MAX_UNAME_LEN)
    (hascii : IsAscii message) (hne : message ≠ [])
    (hsize : ∀ name ∈ recipientUsernames, frameSize username name message < 2 ^ 31)
    (hkey : SharedKey w keyString c k encrypt message)
    (hgarbage : ∀ i j, 0 ≤ ((w.garbage i).time j).toInt) (hexecute : ∀ i, w.executeFails i = false)
    {endTime : Int} (htime : ∀ i, w.time i ≤ endTime) (reads : Nat) (out : Bytes) :
    ∃ sent : List (PollResponseMessage × Bytes),
      List.Forall₂ (fun name p => Sent clock c k username message name p.1 p.2 ∧
        p.2.length = frameSize username name message) recipientUsernames sent ∧
      (forM recipientUsernames (sendMessage clock c username message)).run ⟨[], k, reads, out⟩ =
        .ok () ⟨[], k, reads + 3 * messages message.length * recipientUsernames.length,
          out ++ sent.flatMap (·.2)⟩ ∧
      ∀ rest conn, conn.sock.Live → conn.sock.pending = sent.flatMap (·.2) ++ rest →
        ∃ conn', (serve w endTime (getBytes username) keyString recipientUsernames.length).run conn =
            .ok () conn' ∧ conn'.sock.pending = rest ∧
          stored conn'.events = stored conn.events ++
            List.replicate recipientUsernames.length (getBytes message) := by
  have hlen : message.length < 2 ^ 31 := by
    obtain ⟨name, hmem⟩ := List.exists_mem_of_ne_nil _ hnonempty
    have hone := hsize name hmem
    have hcount := messages_eq message.length
    unfold frameSize at hone
    rw [Nat.mul_add] at hone
    omega
  obtain ⟨sent, hsent, hrun⟩ := sendAll_run hforward hnameLen hascii hlen hne hkey.resets
    (fun name h => (hrecipients name h).2) reads out
  have hcarries : List.Forall₂ (fun name p => (Sent clock c k username message name p.1 p.2 ∧
      p.2.length = frameSize username name message) ∧
        Carries w (getBytes username) keyString (getBytes message) p.2) recipientUsernames sent := by
    refine ((List.forall₂_and_left recipientUsernames sent).mpr
      ⟨fun name h => And.intro (hrecipients name h).1 (hsize name h), hsent⟩).imp ?_
    rintro name ⟨sendMsg, frame⟩ ⟨⟨hvalid, hshort⟩, hone⟩
    obtain ⟨hlength, hcarry⟩ := sent_carries hclock hname hvalid hascii hne hshort hkey hone
    exact ⟨⟨hone, hlength⟩, hcarry⟩
  have hlength : recipientUsernames.length = (sent.map (·.2)).length := by
    rw [List.length_map, hsent.length_eq]
  have hframes : ∀ frame ∈ sent.map (·.2), Carries w (getBytes username) keyString (getBytes message)
      frame := by
    intro frame hframe
    obtain ⟨p, hp, rfl⟩ := List.mem_map.mp hframe
    obtain ⟨i, hi, rfl⟩ := List.mem_iff_getElem.mp hp
    exact (hcarries.get (hsent.length_eq ▸ hi) hi).2
  refine ⟨sent, hcarries.imp fun _ _ h => h.1, hrun, ?_⟩
  intro rest conn hlive hpending
  rw [hlength]
  exact serve_stores hgarbage hexecute htime hframes hlive (by rwa [← List.flatMap_def])

-- AES-128-CBC of the two bits under the key 0123456789abcdef and the program's fixed IV
def noonEncrypt (b : Bytes) : Bytes :=
  if b = ascii "." then
    [0x66#8, 0x5a#8, 0xf2#8, 0xdc#8, 0xb1#8, 0x10#8, 0x16#8, 0xd4#8,
    0x38#8, 0xdd#8, 0x73#8, 0xc8#8, 0xd1#8, 0xe9#8, 0xa4#8, 0x54#8]
  else
    [0x8b#8, 0x21#8, 0x08#8, 0x9f#8, 0x37#8, 0x6a#8, 0x77#8, 0xd0#8,
    0x5d#8, 0x3d#8, 0xe6#8, 0x30#8, 0xc8#8, 0xf5#8, 0xee#8, 0x1b#8]

def noonCipher : Cipher Unit where
  getBlockSize := 16
  update := fun k _ => (some [], k)
  doFinal := fun k b => (some (noonEncrypt b), k)
  positive := block_positive
  bounded := by
    intro k b out k' h
    simp only [Prod.mk.injEq, Option.some.injEq] at h
    rw [← h.1, noonEncrypt]
    split <;> decide

def noonWorld : World := { World.quiet with
  aesDecrypt := fun b _ _ =>
    if b = noonEncrypt (ascii ".") then ascii "." else ascii "meet-me-at-noon" }

theorem noon_key : SharedKey noonWorld (ascii "0123456789abcdef") noonCipher () noonEncrypt
    (java "meet-me-at-noon.") where
  resets := ⟨by decide, fun _ _ => rfl⟩
  padded := by
    intro j _
    rw [noonEncrypt]
    split <;> rfl
  inverse := by
    intro j hj
    rw [messages_eq] at hj
    have hj' : j < 2 := hj
    interval_cases j <;> decide

theorem noon_round_trip :
    ∃ sent : List (PollResponseMessage × Bytes),
      List.Forall₂ (fun name p => Sent (fun _ => 5000#64) noonCipher () (java "bob")
        (java "meet-me-at-noon.") name p.1 p.2 ∧
        p.2.length = frameSize (java "bob") name (java "meet-me-at-noon.")) [java "amy", java "cat"] sent ∧
      (forM [java "amy", java "cat"] (sendMessage (fun _ => 5000#64) noonCipher (java "bob")
        (java "meet-me-at-noon."))).run ⟨[], (), 0, []⟩ =
        .ok () ⟨[], (), 0 + 3 * messages (java "meet-me-at-noon.").length *
          [java "amy", java "cat"].length, [] ++ sent.flatMap (·.2)⟩ ∧
      ∀ rest conn, conn.sock.Live → conn.sock.pending = sent.flatMap (·.2) ++ rest →
        ∃ conn', (serve noonWorld 1000 (getBytes (java "bob")) (ascii "0123456789abcdef")
            [java "amy", java "cat"].length).run conn = .ok () conn' ∧ conn'.sock.pending = rest ∧
          stored conn'.events = stored conn.events ++
            List.replicate [java "amy", java "cat"].length (getBytes (java "meet-me-at-noon.")) :=
  fragmentation_round_trip (fun _ => Int.le_refl _) (fun _ => by decide) (by decide) (by decide)
    (by simp) (by decide) (matchesRegex_ascii (by decide)) (by decide) (by decide) noon_key
    (fun _ _ => Int.le_refl 0) (fun _ => rfl) (fun _ => Int.natCast_nonneg 1000) 0 []

end Fragmentation

end Agreement
