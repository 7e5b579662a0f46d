import BabbleOn.Server.PayloadReads

namespace Server
open Execution PartialMemory ProgramLogic

theorem SPChatMsgMessage.getPayloadLength_least (msg : SPChatMsgMessage) : 36 ≤ msg.getPayloadLength := by
  simp only [getPayloadLength, INT_SIZE, LONG_SIZE]
  omega

namespace SPChatPollResponse

def Entered (m : SPChatPollResponse) (len : Nat) (b : Building SPChatPollResponse) : Prop :=
  ∃ msgs, b.this = { m with msgList := m.msgList ++ msgs } ∧ 36 * msgs.length ≤ b.pos ∧ b.pos ≤ len

def Stopped (m : SPChatPollResponse) (len : Nat) (e : Fault) (b : Building SPChatPollResponse) : Prop :=
  Refusal e ∧ ∃ msgs, b.this = { m with msgList := m.msgList ++ msgs } ∧
    msgs.length ≤ len / 36 ∧ b.pos ≤ len

structure BoundedWork (h : Host) (payload : Str) (garbage : Nat → BitVec 64) (m : SPChatPollResponse)
    (pos : Nat) : Prop where
  entry : ∀ objectTime p p' msg,
    (SPChatMsgMessage.ofBuffer h (ofList payload) payload.length objectTime).run p = .ok msg p' →
      p' = p + msg.getPayloadLength ∧ p + 36 ≤ p' ∧ p' ≤ payload.length
  returned : ∀ b, (decodeMsgList h (ofList payload) payload.length garbage).run ⟨m, pos⟩ = .ok () b →
    ∃ count msgs, Spans (ofList payload) payload.length pos (encodeInt littleEndianHost count) ∧
      b.this = { m with msgList := m.msgList ++ msgs } ∧ (msgs.length : Int) = max 0 count.toInt ∧
        msgs.length ≤ payload.length / 36 ∧ b.pos ≤ payload.length ∧
          b.pos = pos + INT_SIZE + (msgs.map SPChatMsgMessage.getPayloadLength).sum
  thrown : ∀ e b, (decodeMsgList h (ofList payload) payload.length garbage).run ⟨m, pos⟩ = .error e b →
    Stopped m payload.length e b

variable {h : Host} {buf : Buffer} {len : Nat}

theorem entry_advances {objectTime : BitVec 64} {p p' : Nat} {msg : SPChatMsgMessage}
    (hread : (SPChatMsgMessage.ofBuffer h buf len objectTime).run p = .ok msg p') :
    p' = p + msg.getPayloadLength ∧ p + 36 ≤ p' ∧ p' ≤ len := by
  obtain ⟨_, _, hspan, rfl⟩ := SPChatMsgMessage.ofBuffer_eq_ok hread
  have hroom := hspan.1
  rw [SPChatMsgMessage.encodeMessage_length] at hroom
  have hleast := msg.getPayloadLength_least
  exact ⟨rfl, by omega, hroom⟩

theorem entry_ends (hbuf : Readable buf len) (m : SPChatPollResponse) (objectTime : BitVec 64) :
    Ends (Stopped m len) (Entered m len) (field (SPChatMsgMessage.ofBuffer h buf len objectTime) pushMsg)
      fun _ => Entered m len := by
  rintro ⟨t, p⟩ ⟨msgs, hthis, hmany, hpos⟩
  cases hread : (SPChatMsgMessage.ofBuffer h buf len objectTime).run p with
  | error e p' =>
    obtain ⟨hrefusal, hend⟩ := (msgMessage_ends hbuf objectTime).error hpos hread
    rw [field_error hread]
    dsimp only at hmany hpos
    exact ⟨hrefusal, msgs, hthis, by omega, hend⟩
  | ok msg p' =>
    obtain ⟨_, hstep, hend⟩ := entry_advances hread
    rw [field_ok hread (pushMsg_ok msg t)]
    dsimp only at hthis hmany
    refine ⟨msgs ++ [msg], ?_, ?_, hend⟩
    · rw [hthis, List.append_assoc]
    · rw [List.length_append, List.length_singleton]
      dsimp only
      omega

theorem count_ends (hbuf : Readable buf len) (m : SPChatPollResponse) :
    Ends (Stopped m len) (fun b => b.this = m ∧ b.pos ≤ len) (atPos (decodeInt h buf len))
      fun _ => Entered m len := by
  refine ends_atPos fun t p hb => ?_
  obtain ⟨rfl, hpos⟩ := hb
  have hint : Ends (fun e p => Stopped t len e ⟨t, p⟩) (· ≤ len) (decodeInt h buf len)
      fun _ p => Entered t len ⟨t, p⟩ := by
    refine (decodeInt_ends hbuf).consequence (fun _ hp => hp) (fun _ p hp => ?_) fun e p he => ?_
    · exact ⟨[], by rw [List.append_nil], Nat.zero_le _, hp⟩
    · exact ⟨he.1, [], by rw [List.append_nil], Nat.zero_le _, he.2⟩
  exact hint p hpos

theorem decodeMsgList_ends (hbuf : Readable buf len) (garbage : Nat → BitVec 64)
    (m : SPChatPollResponse) :
    Ends (Stopped m len) (fun b => b.this = m ∧ b.pos ≤ len) (decodeMsgList h buf len garbage)
      fun _ => Entered m len :=
  ends_bind (count_ends hbuf m) fun _ => ends_forM fun i _ => entry_ends hbuf m (garbage i)

theorem decodeMsgList_eq_ok {garbage : Nat → BitVec 64} {m : SPChatPollResponse} {pos : Nat}
    {b : Building SPChatPollResponse}
    (hok : (decodeMsgList h buf len garbage).run ⟨m, pos⟩ = .ok () b) :
    ∃ count msgs, Spans buf len pos (encodeInt littleEndianHost count) ∧
      b.this = { m with msgList := m.msgList ++ msgs } ∧ msgs.length = count.toInt.toNat ∧
        b.pos = pos + INT_SIZE + (msgs.map SPChatMsgMessage.getPayloadLength).sum := by
  obtain ⟨count, ⟨t, p⟩, hcount, hok⟩ := bind_eq_ok.mp hok
  obtain ⟨hread, ht⟩ := atPos_eq_ok.mp hcount
  dsimp only at hread ht
  subst ht
  obtain ⟨hspan, rfl⟩ := decodeInt_eq_ok hread
  have hroom := hspan.1
  rw [encodeInt_length] at hroom
  obtain ⟨msgs, hmany, hthis, _, _, _, hend⟩ := entries_eq_ok hok hroom
  exact ⟨count, msgs, hspan, hthis, hmany, hend⟩

theorem hostile_count_bounded (h : Host) (payload : Str) (garbage : Nat → BitVec 64)
    (m : SPChatPollResponse) {pos : Nat} (hpos : pos ≤ payload.length) :
    BoundedWork h payload garbage m pos := by
  have hends : Ends (Stopped m payload.length) (fun b => b.this = m ∧ b.pos ≤ payload.length)
      (decodeMsgList h (ofList payload) payload.length garbage) fun _ => Entered m payload.length :=
    decodeMsgList_ends (readable_ofList payload) garbage m
  refine ⟨fun _ _ _ _ hread => entry_advances hread, fun b hok => ?_, fun e b herror => ?_⟩
  · obtain ⟨count, msgs, hspan, hthis, hmany, hend⟩ := decodeMsgList_eq_ok hok
    obtain ⟨msgs', hthis', hfew, hinside⟩ := hends.ok ⟨rfl, hpos⟩ hok
    have hsame : msgs' = msgs := by
      rw [hthis] at hthis'
      exact (List.append_cancel_left (congrArg msgList hthis')).symm
    rw [hsame] at hfew
    exact ⟨count, msgs, hspan, hthis, by omega, by omega, hinside, hend⟩
  · exact hends.error ⟨rfl, hpos⟩ herror

theorem nothing_entered :
    BoundedWork littleEndianHost (encodeInt littleEndianHost 0x7fffffff#32) (fun _ => 0#64) fresh 0 :=
  hostile_count_bounded _ _ _ _ (by decide)

end SPChatPollResponse

end Server
