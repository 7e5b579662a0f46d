import BabbleOn.Server.SPChatFrame

namespace Server
open Execution PartialMemory SegmentedStream

inductive Built : SPChatMessage → Prop
  | login {username key : Str} {keyType : Byte} {keyLen : BitVec 32} {m : SPChatLogin}
      (hnew : SPChatLogin.new username keyType key keyLen = .ok m)
      (hkey : m.keyType = SPChatLogin.NO_KEY ∨ m.keyType = SPChatLogin.ASYMMETRIC_KEY) :
      Built (.login m)
  | challenge {challenge : Str} {m : SPChatChallenge}
      (hnew : SPChatChallenge.new challenge = .ok m) : Built (.challenge m)
  | ack {error : ErrorType} {sender : SenderType} {m : SPChatACK}
      (hnew : SPChatACK.new error sender = .ok m) : Built (.ack m)
  | response {hash username nonce : Str} {m : SPChatResponse}
      (hnew : SPChatResponse.new hash username nonce = .ok m) (hnonce : nonce.length = 8) :
      Built (.response m)
  | poll {username : Str} {time : BitVec 64} {m : SPChatPoll}
      (hnew : SPChatPoll.new username time = .ok m) : Built (.poll m)
  | pollResponse {username : Str} {msgList : List SPChatMsgMessage} {listNum totalList : BitVec 32}
      {m : SPChatPollResponse}
      (hmsgs : ∀ msg ∈ msgList, ∃ garbage sender receiver message decryptMsgLen msgNum totalMsg time,
        SPChatMsgMessage.new garbage sender receiver message decryptMsgLen msgNum totalMsg time =
          .ok msg)
      (hnew : SPChatPollResponse.new username msgList listNum totalList = .ok m) :
      Built (.pollResponse m)

inductive Deliverable : SPChatMessage → Prop
  | login {m : SPChatLogin} (hm : m.WellFormed) (hkey : m.keyType ≠ SPChatLogin.ENCRYPTED_SYM_KEY) :
      Deliverable (.login m)
  | challenge {m : SPChatChallenge} (hm : m.WellFormed) : Deliverable (.challenge m)
  | ack (m : SPChatACK) : Deliverable (.ack m)
  | response {m : SPChatResponse} (hm : m.WellFormed) : Deliverable (.response m)
  | poll {m : SPChatPoll} (hm : m.WellFormed) : Deliverable (.poll m)
  | pollResponse {m : SPChatPollResponse} (hm : m.WellFormed) : Deliverable (.pollResponse m)

theorem Built.deliverable {m : SPChatMessage} (hm : Built m) : Deliverable m := by
  cases hm with
  | login hnew hkey =>
    refine .login (SPChatLogin.new_wellFormed hnew) ?_
    rcases hkey with hkey | hkey <;> rw [hkey] <;> decide
  | challenge hnew => exact .challenge (SPChatChallenge.new_wellFormed hnew).2
  | ack hnew => exact .ack _
  | response hnew hnonce =>
    obtain ⟨hu, rfl⟩ := SPChatResponse.new_eq_ok.mp hnew
    exact .response ⟨hu, hnonce⟩
  | poll hnew => exact .poll (SPChatPoll.new_wellFormed hnew)
  | pollResponse hmsgs hnew =>
    obtain ⟨⟨hu, hlist, htotal⟩, rfl⟩ := SPChatPollResponse.new_eq_ok.mp hnew
    refine .pollResponse ⟨hu, hlist, htotal, fun msg hmsg => ?_⟩
    obtain ⟨_, _, _, _, _, _, _, _, hmade⟩ := hmsgs msg hmsg
    exact (SPChatMsgMessage.new_eq_ok.mp hmade).2.2

theorem encodeMiddle_length (h : Host) {m : SPChatMessage} (hm : Deliverable m) :
    (m.encodeMiddle h).length = m.getPayloadLength := by
  cases hm with
  | login hm hkey =>
    rw [SPChatMessage.encodeMiddle, SPChatLogin.layout_encodeMiddle h hm hkey]
    exact SPChatLogin.layout_length h hm
  | challenge hm => exact hm
  | ack m => rfl
  | response hm => exact SPChatResponse.encodeMiddle_length h hm.nonce
  | poll hm => exact SPChatPoll.encodeMiddle_length h _
  | pollResponse hm => exact SPChatPollResponse.encodeMiddle_length h _

-- no entry is refused because of what its member `time` held before it was read
def TimesSettled (g : Garbage) : SPChatMessage → Prop
  | .pollResponse m => ∀ i < m.msgList.length, 0 ≤ (g.time i).toInt
  | _ => True

theorem timesSettled_of_all {g : Garbage} (hg : ∀ i, 0 ≤ (g.time i).toInt) (m : SPChatMessage) :
    TimesSettled g m := by
  cases m with
  | pollResponse m => exact fun i _ => hg i
  | _ => trivial

theorem payloadConstructor_encodeMiddle (h : Host) {g : Garbage} {m : SPChatMessage}
    (hm : Deliverable m) (hg : TimesSettled g m)
    (hlen : (m.encodeMiddle littleEndianHost).length < 2 ^ 31) :
    payloadConstructor h g m.getType (ofList (m.encodeMiddle littleEndianHost))
      (m.encodeMiddle littleEndianHost).length = some (.ok m) := by
  have hs := spans_ofList (m.encodeMiddle littleEndianHost)
  cases hm with
  | @login m hm hkey =>
    have hlayout : (SPChatMessage.login m).encodeMiddle littleEndianHost =
        m.layout littleEndianHost := SPChatLogin.layout_encodeMiddle _ hm hkey
    rw [hlayout] at hs hlen ⊢
    exact congrArg (fun r => some (Except.map SPChatMessage.login r))
      (SPChatLogin.ofBuffer_layout hm hs hlen rfl)
  | challenge hm =>
    exact congrArg (fun r => some (Except.map SPChatMessage.challenge r))
      (SPChatChallenge.ofBuffer_encodeMiddle hm hs)
  | ack m =>
    exact congrArg (fun r => some (Except.map SPChatMessage.ack r))
      (SPChatACK.ofBuffer_encodeMiddle m hs)
  | response hm =>
    exact congrArg (fun r => some (Except.map SPChatMessage.response r))
      (SPChatResponse.ofBuffer_encodeMiddle hm hlen hs)
  | poll hm =>
    exact congrArg (fun r => some (Except.map SPChatMessage.poll r))
      (SPChatPoll.ofBuffer_encodeMiddle hm hlen hs)
  | pollResponse hm =>
    exact congrArg (fun r => some (Except.map SPChatMessage.pollResponse r))
      (SPChatPollResponse.ofBuffer_encodeMiddle hg hm hlen hs)

theorem encode_frame {m : SPChatMessage} (hm : Deliverable m) :
    m.encode littleEndianHost =
      frameHeader m.getType (BitVec.ofNat 64 (m.encodeMiddle littleEndianHost).length) ++
        m.encodeMiddle littleEndianHost := by
  rw [SPChatMessage.encode, SPChatMessage.encodeHeader, encodeLong_little, frameHeader,
    encodeMiddle_length _ hm]

theorem decode_encode (h : Host) {g : Garbage} {m : SPChatMessage} (hm : Deliverable m)
    (hg : TimesSettled g m) (hlen : m.getPayloadLength < 2 ^ 31) {p : Process} (hlive : p.sock.Live)
    {rest : Str} (hp : p.sock.pending = m.encode littleEndianHost ++ rest) :
    ∃ p', p'.sock.Live ∧ p'.sock.pending = rest ∧
      (SPChatMessage.decode h g).run p = .ok m p' := by
  rw [← encodeMiddle_length littleEndianHost hm] at hlen
  rw [encode_frame hm, List.append_assoc] at hp
  exact decode_frame h g hlive hp hlen (payloadConstructor_encodeMiddle h hm hg hlen)

theorem decode_all {msgs : List SPChatMessage}
    (hm : ∀ m ∈ msgs, Deliverable m ∧ m.getPayloadLength < 2 ^ 31) {gs : List Garbage}
    (hgs : gs.length = msgs.length) (hg : ∀ g ∈ gs, ∀ i, 0 ≤ (g.time i).toInt) {p : Process}
    (hlive : p.sock.Live) {rest : Str}
    (hp : p.sock.pending = msgs.flatMap (SPChatMessage.encode littleEndianHost) ++ rest) :
    ∃ p', p'.sock.Live ∧ p'.sock.pending = rest ∧
      (gs.mapM (SPChatMessage.decode littleEndianHost)).run p = .ok msgs p' := by
  induction msgs generalizing gs p with
  | nil =>
    obtain rfl := List.length_eq_zero_iff.mp hgs
    exact ⟨p, hlive, hp, rfl⟩
  | cons m msgs ih =>
    obtain ⟨g, gs, rfl⟩ := List.exists_cons_of_length_eq_add_one hgs
    obtain ⟨hmd, hml⟩ := hm m (by simp)
    rw [List.flatMap_cons, List.append_assoc] at hp
    obtain ⟨p₁, hlive₁, hp₁, hrun₁⟩ := decode_encode littleEndianHost hmd
      (timesSettled_of_all (hg g (by simp)) m) hml hlive hp
    obtain ⟨p₂, hlive₂, hp₂, hrun₂⟩ := ih (fun m' h => hm m' (by simp [h]))
      (Nat.succ.inj hgs) (fun g' h => hg g' (by simp [h])) hlive₁ hp₁
    refine ⟨p₂, hlive₂, hp₂, ?_⟩
    rw [List.mapM_cons, bind_ok hrun₁, bind_ok hrun₂, run_pure]

theorem decode_stream_round_trip {msgs : List SPChatMessage}
    (hm : ∀ m ∈ msgs, Built m ∧ m.getPayloadLength < 2 ^ 31) {gs : List Garbage}
    (hgs : gs.length = msgs.length) (hg : ∀ g ∈ gs, ∀ i, 0 ≤ (g.time i).toInt)
    {answers : List (Option Nat)} (hlive : none ∉ answers) :
    ∃ p, (gs.mapM (SPChatMessage.decode littleEndianHost)).run
        ⟨⟨msgs.flatMap (SPChatMessage.encode littleEndianHost), answers⟩, []⟩ = .ok msgs p ∧
      p.sock.pending = [] := by
  obtain ⟨p, _, hp, hrun⟩ := decode_all (fun m h => ⟨(hm m h).1.deliverable, (hm m h).2⟩) hgs hg
    (p := ⟨⟨msgs.flatMap (SPChatMessage.encode littleEndianHost), answers⟩, []⟩) hlive
    (List.append_nil _).symm
  exact ⟨p, hrun, hp⟩

theorem poll_and_ack_round_trip :
    ∃ p, ([⟨fun _ => 0#8, fun _ => 0#64⟩, ⟨fun _ => 0#8, fun _ => 0#64⟩].mapM
        (SPChatMessage.decode littleEndianHost)).run
          ⟨⟨[SPChatMessage.poll ⟨ascii "bob", 5000#64⟩, .ack ⟨.SERVER, .PASSWORD_AUTH⟩].flatMap
            (SPChatMessage.encode littleEndianHost), [some 3, some 1]⟩, []⟩ =
        .ok [.poll ⟨ascii "bob", 5000#64⟩, .ack ⟨.SERVER, .PASSWORD_AUTH⟩] p ∧
      p.sock.pending = [] := by
  refine decode_stream_round_trip ?_ rfl (by simp) (by simp)
  intro m hm
  rcases List.mem_pair.mp hm with rfl | rfl
  · have hnew : SPChatPoll.new (ascii "bob") 5000#64 = .ok ⟨ascii "bob", 5000#64⟩ := rfl
    exact ⟨.poll hnew, by decide⟩
  · exact ⟨.ack (SPChatACK.new_ok .PASSWORD_AUTH .SERVER), by decide⟩

end Server
