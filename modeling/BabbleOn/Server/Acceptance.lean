import BabbleOn.Server.SPChatStream

namespace Server
open Execution PartialMemory SegmentedStream

inductive Accepted (g : Garbage) (p : Str) : SPChatMessage → Prop
  | login {m : SPChatLogin} {tail : Str} (hm : m.WellFormed)
      (hp : p = m.layout littleEndianHost ++ tail)
      (hend : m.keyType = SPChatLogin.ENCRYPTED_SYM_KEY → tail = []) : Accepted g p (.login m)
  | challenge {m : SPChatChallenge} {tail : Str} (hm : m.WellFormed)
      (hp : p = m.encodeMiddle ++ tail) : Accepted g p (.challenge m)
  | ack {m : SPChatACK} {tail : Str} (hp : p = m.encodeMiddle ++ tail) : Accepted g p (.ack m)
  | response {m : SPChatResponse} {tail : Str} (hm : m.WellFormed)
      (hp : p = m.encodeMiddle littleEndianHost ++ tail) : Accepted g p (.response m)
  | noNonce {m : SPChatResponse} {tail : Str} (hnonce : m.nonce = [])
      (hp : p = m.strings littleEndianHost ++ tail) (hshort : tail.length < LONG_SIZE) :
      Accepted g p (.response m)
  | poll {m : SPChatPoll} {tail : Str} (hm : m.WellFormed)
      (hp : p = m.encodeMiddle littleEndianHost ++ tail) : Accepted g p (.poll m)
  | pollResponse {m : SPChatPollResponse} {count : BitVec 32} {tail : Str} (hm : m.WellFormed)
      (hg : TimesSettled g (.pollResponse m)) (hcount : m.msgList.length = count.toInt.toNat)
      (hp : p = m.announced littleEndianHost count ++ tail) : Accepted g p (.pollResponse m)

theorem payloadConstructor_type {h : Host} {g : Garbage} {t : Byte} {buf : Buffer} {len : Nat}
    {m : SPChatMessage} (hok : payloadConstructor h g t buf len = some (.ok m)) : m.getType = t := by
  unfold payloadConstructor at hok
  split_ifs at hok with h₀ h₁ h₃ h₂ h₅ h₆
  all_goals
    obtain ⟨made, _, rfl⟩ := map_eq_ok (Option.some.inj hok)
  · exact h₀.symm
  · exact h₁.symm
  · exact h₃.symm
  · exact h₂.symm
  · exact h₅.symm
  · exact h₆.symm

theorem login_accepted {h : Host} {g : Garbage} {p : Str} {m : SPChatLogin}
    (hok : SPChatLogin.ofBuffer h (ofList p) p.length = .ok m) : Accepted g p (.login m) := by
  obtain ⟨hm, hs, hend⟩ := SPChatLogin.ofBuffer_eq_ok hok
  obtain ⟨tail, hp⟩ := prefix_of_spans hs
  refine .login hm hp fun ht => ?_
  have hlen := congrArg List.length hp
  rw [List.length_append, hend ht] at hlen
  exact List.length_eq_zero_iff.mp (by omega)

theorem challenge_accepted {g : Garbage} {p : Str} {m : SPChatChallenge}
    (hok : SPChatChallenge.ofBuffer (ofList p) p.length = .ok m) : Accepted g p (.challenge m) := by
  obtain ⟨hm, hs⟩ := SPChatChallenge.ofBuffer_eq_ok hok
  obtain ⟨tail, hp⟩ := prefix_of_spans hs
  exact .challenge hm hp

theorem ack_accepted {g : Garbage} {p : Str} {m : SPChatACK}
    (hok : SPChatACK.ofBuffer (ofList p) p.length = .ok m) : Accepted g p (.ack m) := by
  obtain ⟨b, hb, hm⟩ := SPChatACK.ofBuffer_eq_ok hok
  cases p with
  | nil => cases hb
  | cons b' tail =>
    cases hb
    exact .ack (by rw [hm]; rfl)

theorem response_accepted {h : Host} {g : Garbage} {p : Str} {m : SPChatResponse}
    (hok : SPChatResponse.ofBuffer h (ofList p) p.length = .ok m) : Accepted g p (.response m) := by
  obtain ⟨hu, hs, ⟨hl, hnonce⟩ | ⟨hn, hshort⟩⟩ := SPChatResponse.ofBuffer_eq_ok hok
  · have hall : Spans (ofList p) p.length 0 (m.encodeMiddle littleEndianHost) := by
      refine spans_append.mpr ⟨hs, ?_⟩
      rw [Nat.zero_add]
      exact hnonce
    obtain ⟨tail, hp⟩ := prefix_of_spans hall
    exact .response ⟨hu, hl⟩ hp
  · obtain ⟨tail, hp⟩ := prefix_of_spans hs
    refine .noNonce hn hp ?_
    rw [hp, List.length_append] at hshort
    omega

theorem poll_accepted {h : Host} {g : Garbage} {p : Str} {m : SPChatPoll}
    (hok : SPChatPoll.ofBuffer h (ofList p) p.length = .ok m) : Accepted g p (.poll m) := by
  obtain ⟨hm, hs⟩ := SPChatPoll.ofBuffer_eq_ok hok
  obtain ⟨tail, hp⟩ := prefix_of_spans hs
  exact .poll hm hp

theorem pollResponse_accepted {h : Host} {g : Garbage} {p : Str} {m : SPChatPollResponse}
    (hok : SPChatPollResponse.ofBuffer h (ofList p) p.length g.time = .ok m) :
    Accepted g p (.pollResponse m) := by
  obtain ⟨hm, hg, count, hcount, hs⟩ := SPChatPollResponse.ofBuffer_eq_ok hok
  obtain ⟨tail, hp⟩ := prefix_of_spans hs
  exact .pollResponse hm hg hcount hp

theorem payloadConstructor_accepted {h : Host} {g : Garbage} {t : Byte} {p : Str}
    {m : SPChatMessage} (hok : payloadConstructor h g t (ofList p) p.length = some (.ok m)) :
    Accepted g p m := by
  unfold payloadConstructor at hok
  split_ifs at hok
  all_goals
    obtain ⟨made, hmade, rfl⟩ := map_eq_ok (Option.some.inj hok)
  · exact login_accepted hmade
  · exact challenge_accepted hmade
  · exact ack_accepted hmade
  · exact response_accepted hmade
  · exact poll_accepted hmade
  · exact pollResponse_accepted hmade

theorem decodePayload_eq_ok {h : Host} {g : Garbage} {t : Byte} {len : BitVec 64} {p p' : Process}
    {m : SPChatMessage} (hok : (SPChatMessage.decodePayload h g t len).run p = .ok m p') :
    ∃ payload rest, p.sock.pending = payload ++ rest ∧ p'.sock.pending = rest ∧
      payload.length < 2 ^ 31 ∧ len = BitVec.ofNat 64 payload.length ∧
        payloadConstructor h g t (ofList payload) payload.length = some (.ok m) := by
  obtain ⟨s, hrun | hrun | ⟨payload, hpending, hlt, hlen, hword, hrun⟩⟩ :=
    decodePayload_outcome h g t len p
  · rw [hrun] at hok
    cases hok
  · rw [hrun] at hok
    cases hok
  · rw [hrun, SPChatMessage.factory, hword] at hok
    refine ⟨payload, s.sock.pending, hpending, ?_, hlt, hlen, ?_⟩
    · split at hok
      · cases hok
        rfl
      · cases hok
      · cases hok
    · split at hok
      · rename_i hmade
        rw [hmade]
        cases hok
        rfl
      · cases hok
      · cases hok

theorem decode_eq_ok {h : Host} {g : Garbage} {t : Byte} {len : BitVec 64} {rest : Str}
    {p p' : Process} {m : SPChatMessage} (hp : p.sock.pending = frameHeader t len ++ rest)
    (hok : (SPChatMessage.decode h g).run p = .ok m p') :
    ∃ payload, rest = payload ++ p'.sock.pending ∧ payload.length < 2 ^ 31 ∧
      len = BitVec.ofNat 64 payload.length ∧ m.getType = t ∧ Accepted g payload m := by
  obtain ⟨evs, _, ⟨_, _, hrun⟩ | ⟨sock, hpending, _, hrun⟩⟩ := decode_header h g hp
  · rw [hrun] at hok
    cases hok
  · rw [hrun] at hok
    obtain ⟨payload, after, hsplit, hafter, hlt, hlen, hmade⟩ := decodePayload_eq_ok hok
    refine ⟨payload, ?_, hlt, hlen, payloadConstructor_type hmade, payloadConstructor_accepted hmade⟩
    rw [hafter, ← hsplit, hpending]

end Server
