import BabbleOn.Server.SPChatFrame

namespace Server
open Execution PartialMemory

inductive Constructed : SPChatMessage → Prop
  | login {username key : Str} {keyType : Byte} {keyLen : BitVec 32} {m : SPChatLogin}
      (hnew : SPChatLogin.new username keyType key keyLen = .ok m) : Constructed (.login m)
  | challenge {challenge : Str} {m : SPChatChallenge}
      (hnew : SPChatChallenge.new challenge = .ok m) : Constructed (.challenge m)
  | ack {error : ErrorType} {sender : SenderType} {m : SPChatACK}
      (hnew : SPChatACK.new error sender = .ok m) : Constructed (.ack m)
  | response {hash username nonce : Str} {m : SPChatResponse}
      (hnew : SPChatResponse.new hash username nonce = .ok m) : Constructed (.response m)
  | poll {username : Str} {time : BitVec 64} {m : SPChatPoll}
      (hnew : SPChatPoll.new username time = .ok m) : Constructed (.poll m)
  | pollResponse {username : Str} {msgList : List SPChatMsgMessage} {listNum totalList : BitVec 32}
      {m : SPChatPollResponse}
      (hnew : SPChatPollResponse.new username msgList listNum totalList = .ok m) :
      Constructed (.pollResponse m)
  -- the constructors that take a buffer and a length
  | read {h : Host} {g : Garbage} {t : Byte} {buf : Buffer} {len : Nat} {m : SPChatMessage}
      (hread : payloadConstructor h g t buf len = some (.ok m)) : Constructed m

structure HonestLength (h : Host) (m : SPChatMessage) : Prop where
  total : (m.encode h).length = m.getTotalMsgLength
  announced : m.encodeHeader h =
    HEADER ++ m.getType :: encodeLong h (BitVec.ofNat 64 (m.encodeMiddle h).length)

def Sized : SPChatMessage → Prop
  | .login m => m.WellFormed
  | .challenge m => m.WellFormed
  | _ => True

def LengthKept : SPChatMessage → Prop
  | .login m => m.keyType ≠ SPChatLogin.ENCRYPTED_SYM_KEY
  | .response m => m.nonce.length = LONG_SIZE
  | _ => True

theorem payloadConstructor_sized {h : Host} {g : Garbage} {t : Byte} {buf : Buffer} {len : Nat}
    {m : SPChatMessage} (hread : payloadConstructor h g t buf len = some (.ok m)) : Sized m := by
  unfold payloadConstructor at hread
  split_ifs at hread
  all_goals
    obtain ⟨made, hmade, rfl⟩ := map_eq_ok (Option.some.inj hread)
  · exact (SPChatLogin.ofBuffer_eq_ok hmade).1
  · exact (SPChatChallenge.ofBuffer_eq_ok hmade).1
  all_goals trivial

theorem Constructed.sized {m : SPChatMessage} (hm : Constructed m) : Sized m := by
  cases hm with
  | login hnew => exact SPChatLogin.new_wellFormed hnew
  | challenge hnew => exact (SPChatChallenge.new_wellFormed hnew).2
  | ack hnew => trivial
  | response hnew => trivial
  | poll hnew => trivial
  | pollResponse hnew => trivial
  | read hread => exact payloadConstructor_sized hread

theorem honestLength_iff_middle (h : Host) (m : SPChatMessage) :
    HonestLength h m ↔ (m.encodeMiddle h).length = m.getPayloadLength := by
  have hlength : (m.encode h).length = (m.encodeMiddle h).length + TOTAL_HEADER_LENGTH := by
    rw [SPChatMessage.encode, List.length_append, encodeHeader_length, Nat.add_comm]
  constructor
  · intro hm
    have htotal := hm.total
    rw [hlength, SPChatMessage.getTotalMsgLength] at htotal
    exact Nat.add_right_cancel htotal
  · intro hm
    exact ⟨by rw [hlength, hm, SPChatMessage.getTotalMsgLength],
      by rw [SPChatMessage.encodeHeader, hm]⟩

theorem middle_length_iff (h : Host) {m : SPChatMessage} (hm : Sized m) :
    (m.encodeMiddle h).length = m.getPayloadLength ↔ LengthKept m := by
  cases m with
  | login m => exact SPChatLogin.encodeMiddle_length_iff h hm
  | challenge m => exact iff_of_true hm trivial
  | ack m => exact iff_of_true rfl trivial
  | response m => exact SPChatResponse.encodeMiddle_length_iff h m
  | poll m => exact iff_of_true (SPChatPoll.encodeMiddle_length h m) trivial
  | pollResponse m => exact iff_of_true (SPChatPollResponse.encodeMiddle_length h m) trivial

theorem honestLength_iff (h : Host) {m : SPChatMessage} (hm : Constructed m) :
    HonestLength h m ↔ LengthKept m :=
  (honestLength_iff_middle h m).trans (middle_length_iff h hm.sized)

theorem poll_length_honest : HonestLength littleEndianHost (.poll ⟨ascii "bob", 5000#64⟩) :=
  (honestLength_iff littleEndianHost
    (.poll (show SPChatPoll.new (ascii "bob") 5000#64 = .ok ⟨ascii "bob", 5000#64⟩ from rfl))).mpr trivial

theorem symmetric_login_short :
    SPChatLogin.new (ascii "bob") SPChatLogin.ENCRYPTED_SYM_KEY (List.replicate 128 7#8) 128#32 =
      .ok ⟨ascii "bob", SPChatLogin.ENCRYPTED_SYM_KEY, [], List.replicate 128 7#8⟩ ∧
    ¬ HonestLength littleEndianHost
        (.login ⟨ascii "bob", SPChatLogin.ENCRYPTED_SYM_KEY, [], List.replicate 128 7#8⟩) := by
  refine ⟨SPChatLogin.new_symmetric rfl rfl, fun hm => ?_⟩
  have hmade : SPChatLogin.WellFormed
      ⟨ascii "bob", SPChatLogin.ENCRYPTED_SYM_KEY, [], List.replicate 128 7#8⟩ := .symmetric rfl rfl
  have hmiddle := (honestLength_iff_middle _ _).mp hm
  exact (SPChatLogin.encodeMiddle_length_iff _ hmade).mp hmiddle rfl

end Server
