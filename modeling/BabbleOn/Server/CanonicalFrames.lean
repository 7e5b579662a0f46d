import BabbleOn.Server.Acceptance

namespace Server
open Execution PartialMemory SegmentedStream

def intAt (p : Str) (pos : Nat) : BitVec 32 := BigEndian.decode 32 4 fun i => p.getD (pos + i) 0#8

def stringEnd (p : Str) (pos : Nat) : Nat := pos + (4 + (intAt p pos).toNat)

def entriesEnd (p : Str) : Nat → Nat → Nat
  | 0, pos => pos
  | n + 1, pos => entriesEnd p n (stringEnd p (stringEnd p (stringEnd p pos)) + 24)

-- where the payload's own prefixes say that it ends
def measured (t : Byte) (p : Str) : Option Nat :=
  if t = SPChatLogin.SPCHATLOGIN_TYPE then
    if p.getD (stringEnd p 0) 0#8 = SPChatLogin.NO_KEY then some (stringEnd p 0 + 1)
    else if p.getD (stringEnd p 0) 0#8 = SPChatLogin.ASYMMETRIC_KEY then
      some (stringEnd p 0 + (1 + SPChatLogin.ASYMMETRIC_LENGTH))
    else none
  else if t = SPChatChallenge.SPCHATCHALLENGE_TYPE then some SPChatChallenge.CHALLENGE_LENGTH
  else if t = SPChatACK.SPCHATACK_TYPE then some BYTE_SIZE
  else if t = SPChatResponse.SPCHATRESPONSE_TYPE then
    some (stringEnd p (stringEnd p 0) + LONG_SIZE)
  else if t = SPChatPoll.SPCHATPOLL_TYPE then some (stringEnd p 0 + LONG_SIZE)
  else if t = SPChatPollResponse.SPCHATPOLLRESPONSE_TYPE then
    if (intAt p (stringEnd p 0 + 8)).toInt < 0 then none
    else some (entriesEnd p (intAt p (stringEnd p 0 + 8)).toNat (stringEnd p 0 + 12))
  else none

theorem intAt_spans {p : Str} {len pos : Nat} {n : BitVec 32}
    (hs : Spans (ofList p) len pos (encodeInt littleEndianHost n)) : intAt p pos = n := by
  rw [encodeInt_little] at hs
  rw [← BigEndian.decode_encode (show 32 = 8 * 4 from rfl) n]
  apply BigEndian.decode_congr
  intro i hi
  have hread := hs.2 i (by rw [BigEndian.encode_length]; exact hi)
  rw [ofList] at hread
  rw [List.getD_eq_getElem?_getD, hread, List.getD_eq_getElem?_getD]

theorem stringEnd_spans {p : Str} {len pos : Nat} (hlen : len < 2 ^ 31) {s : Str}
    (hs : Spans (ofList p) len pos (encodeString littleEndianHost s)) :
    stringEnd p pos = pos + (4 + s.length) := by
  have hroom := hs.1
  rw [encodeString_length] at hroom
  rw [stringEnd, intAt_spans (spans_append.mp hs).1, BitVec.toNat_ofNat, Nat.mod_eq_of_lt (by omega)]

theorem entriesEnd_spans {p : Str} {len : Nat} (hlen : len < 2 ^ 31) {msgs : List SPChatMsgMessage}
    {pos : Nat}
    (hs : Spans (ofList p) len pos (msgs.flatMap (SPChatMsgMessage.encodeMessage littleEndianHost))) :
    entriesEnd p msgs.length pos = pos + (msgs.map SPChatMsgMessage.getPayloadLength).sum := by
  induction msgs generalizing pos with
  | nil => rfl
  | cons msg msgs ih =>
    obtain ⟨hmsg, hrest⟩ := spans_append.mp hs
    have hnext := ih hrest
    rw [SPChatMsgMessage.encodeMessage_length] at hnext
    simp only [SPChatMsgMessage.encodeMessage, spans_append, List.length_append,
      encodeString_length] at hmsg
    obtain ⟨⟨⟨⟨⟨⟨hsender, hreceiver⟩, hmessage⟩, _⟩, _⟩, _⟩, _⟩ := hmsg
    have hend : stringEnd p (stringEnd p (stringEnd p pos)) + 24 = pos + msg.getPayloadLength := by
      rw [stringEnd_spans hlen hsender, stringEnd_spans hlen hreceiver, Nat.add_assoc pos,
        stringEnd_spans hlen hmessage]
      simp only [SPChatMsgMessage.getPayloadLength, INT_SIZE, LONG_SIZE]
      omega
    rw [List.length_cons, entriesEnd, hend, hnext, List.map_cons, List.sum_cons, Nat.add_assoc]

theorem encode_eq_iff (m : SPChatMessage) (p : Str) :
    m.encode littleEndianHost = frameHeader m.getType (BitVec.ofNat 64 p.length) ++ p ↔
      BitVec.ofNat 64 m.getPayloadLength = BitVec.ofNat 64 p.length ∧
        m.encodeMiddle littleEndianHost = p := by
  have hheader : m.encodeHeader littleEndianHost =
      frameHeader m.getType (BitVec.ofNat 64 m.getPayloadLength) := rfl
  rw [SPChatMessage.encode, hheader]
  constructor
  · intro h
    obtain ⟨hframe, hmiddle⟩ := List.append_inj h (by rw [frameHeader_length, frameHeader_length])
    have hbytes := (List.cons.inj (List.append_cancel_left hframe)).2
    exact ⟨BigEndian.encode_injective (show 64 = 8 * 8 from rfl) hbytes, hmiddle⟩
  · rintro ⟨hlen, hmiddle⟩
    rw [hlen, hmiddle]

theorem canonical_of_prefix {m : SPChatMessage} {p tail : Str}
    (hlen : (m.encodeMiddle littleEndianHost).length = m.getPayloadLength)
    (hp : p = m.encodeMiddle littleEndianHost ++ tail) {n : Nat} (hn : n = m.getPayloadLength) :
    m.encode littleEndianHost = frameHeader m.getType (BitVec.ofNat 64 p.length) ++ p ↔
      some n = some p.length := by
  have hsize := congrArg List.length hp
  rw [List.length_append, hlen, ← hn] at hsize
  rw [encode_eq_iff, Option.some.injEq]
  constructor
  · rintro ⟨_, hmiddle⟩
    rw [← hmiddle, hlen, hn]
  · intro hwhole
    have htail : tail = [] := List.length_eq_zero_iff.mp (by omega)
    rw [htail, List.append_nil] at hp
    exact ⟨by rw [← hn, hwhole], hp.symm⟩

theorem never_canonical {m : SPChatMessage} {p : Str}
    (h : BitVec.ofNat 64 m.getPayloadLength = BitVec.ofNat 64 p.length →
      m.encodeMiddle littleEndianHost ≠ p) {o : Option Nat} (ho : o ≠ some p.length) :
    m.encode littleEndianHost = frameHeader m.getType (BitVec.ofNat 64 p.length) ++ p ↔
      o = some p.length := by
  refine iff_of_false ?_ ho
  rw [encode_eq_iff]
  exact fun hm => h hm.1 hm.2

theorem spans_front {p l tail : Str} (hp : p = l ++ tail) : Spans (ofList p) p.length 0 l := by
  have hall := spans_ofList p
  rw [hp] at hall ⊢
  exact (spans_append.mp hall).1

theorem login_front {m : SPChatLogin} {p tail : Str} (hlen : p.length < 2 ^ 31)
    (hp : p = m.layout littleEndianHost ++ tail) :
    stringEnd p 0 = 4 + m.username.length ∧ p.getD (stringEnd p 0) 0#8 = m.keyType := by
  obtain ⟨hname, hkey⟩ := spans_append.mp (spans_front hp)
  have hend := stringEnd_spans hlen hname
  rw [Nat.zero_add, encodeString_length] at hkey
  rw [Nat.zero_add] at hend
  have hread := spans_head hkey
  rw [ofList] at hread
  exact ⟨hend, by rw [hend, List.getD_eq_getElem?_getD, hread, Option.getD_some]⟩

theorem login_canonical {m : SPChatLogin} {p tail : Str} (hlen : p.length < 2 ^ 31)
    (hm : m.WellFormed) (hp : p = m.layout littleEndianHost ++ tail) :
    (SPChatMessage.login m).encode littleEndianHost =
        frameHeader SPChatLogin.SPCHATLOGIN_TYPE (BitVec.ofNat 64 p.length) ++ p ↔
      measured SPChatLogin.SPCHATLOGIN_TYPE p = some p.length := by
  obtain ⟨hend, hkey⟩ := login_front hlen hp
  rw [measured, if_pos rfl, hkey, hend]
  by_cases ht : m.keyType = SPChatLogin.ENCRYPTED_SYM_KEY
  · rw [ht, if_neg SPChatLogin.noKey_ne_symmetric.symm,
      if_neg SPChatLogin.asymmetric_ne_symmetric.symm]
    refine never_canonical (m := .login m) (fun _ hmiddle => ?_) nofun
    have hfront := congrArg List.length hp
    have hback := congrArg List.length hmiddle
    rw [List.length_append, SPChatLogin.layout_length _ hm, SPChatLogin.getPayloadLength, ht,
      if_neg SPChatLogin.asymmetric_ne_symmetric.symm, if_pos rfl] at hfront
    rw [SPChatMessage.encodeMiddle, SPChatLogin.encodeMiddle_symmetric _ hm ht, List.length_append,
      encodeString_length, List.length_singleton] at hback
    simp only [INT_SIZE, BYTE_SIZE, SPChatLogin.ENCRYPTED_SYM_LENGTH] at hfront
    omega
  · have hmiddle : (SPChatMessage.login m).encodeMiddle littleEndianHost =
        m.layout littleEndianHost := SPChatLogin.layout_encodeMiddle _ hm ht
    have hsize : ((SPChatMessage.login m).encodeMiddle littleEndianHost).length =
        (SPChatMessage.login m).getPayloadLength := by
      rw [hmiddle]
      exact SPChatLogin.layout_length _ hm
    rw [← hmiddle] at hp
    cases hm with
    | noKey hu =>
      rw [if_pos rfl]
      exact canonical_of_prefix hsize hp rfl
    | asymmetric hu hl hpem =>
      rw [if_neg SPChatLogin.noKey_ne_asymmetric.symm, if_pos rfl]
      refine canonical_of_prefix hsize hp ?_
      simp only [SPChatMessage.getPayloadLength, SPChatLogin.getPayloadLength, if_pos, INT_SIZE,
        BYTE_SIZE, Nat.add_assoc]
    | symmetric hu hl => exact absurd rfl ht

theorem strings_end {m : SPChatResponse} {p tail : Str} (hlen : p.length < 2 ^ 31)
    (hp : p = m.strings littleEndianHost ++ tail) :
    stringEnd p (stringEnd p 0) + LONG_SIZE = m.getPayloadLength := by
  obtain ⟨hname, hhash⟩ := spans_append.mp (spans_front hp)
  rw [encodeString_length] at hhash
  rw [stringEnd_spans hlen hname, stringEnd_spans hlen hhash]
  simp only [SPChatResponse.getPayloadLength, INT_SIZE, LONG_SIZE]
  omega

theorem response_canonical {m : SPChatResponse} {p tail : Str} (hlen : p.length < 2 ^ 31)
    (hm : m.WellFormed) (hp : p = m.encodeMiddle littleEndianHost ++ tail) :
    (SPChatMessage.response m).encode littleEndianHost =
        frameHeader SPChatResponse.SPCHATRESPONSE_TYPE (BitVec.ofNat 64 p.length) ++ p ↔
      measured SPChatResponse.SPCHATRESPONSE_TYPE p = some p.length := by
  have hstrings : p = m.strings littleEndianHost ++ (m.nonce ++ tail) := by
    rw [hp, SPChatResponse.encodeMiddle, SPChatResponse.strings, List.append_assoc]
  exact canonical_of_prefix (m := .response m) (SPChatResponse.encodeMiddle_length _ hm.nonce) hp
    (strings_end hlen hstrings)

-- a response without its nonce announces eight bytes more than it has
theorem noNonce_canonical {m : SPChatResponse} {p tail : Str} (hlen : p.length < 2 ^ 31)
    (hnonce : m.nonce = []) (hp : p = m.strings littleEndianHost ++ tail)
    (hshort : tail.length < LONG_SIZE) :
    (SPChatMessage.response m).encode littleEndianHost =
        frameHeader SPChatResponse.SPCHATRESPONSE_TYPE (BitVec.ofNat 64 p.length) ++ p ↔
      measured SPChatResponse.SPCHATRESPONSE_TYPE p = some p.length := by
  have hend := strings_end hlen hp
  have hsize := congrArg List.length hp
  simp only [List.length_append, SPChatResponse.strings, encodeString_length] at hsize
  simp only [SPChatResponse.getPayloadLength, INT_SIZE] at hend
  refine never_canonical (m := .response m) (fun hcount hmiddle => ?_) fun hmeasured => ?_
  · have hback := congrArg List.length hmiddle
    have hnat := congrArg BitVec.toNat hcount
    simp only [SPChatMessage.encodeMiddle, SPChatResponse.encodeMiddle, hnonce, List.length_append,
      encodeString_length, List.length_nil] at hback
    simp only [SPChatMessage.getPayloadLength, SPChatResponse.getPayloadLength, INT_SIZE, LONG_SIZE,
      BitVec.toNat_ofNat] at hnat
    omega
  · have hsome : stringEnd p (stringEnd p 0) + LONG_SIZE = p.length := Option.some.inj hmeasured
    omega

theorem poll_canonical {m : SPChatPoll} {p tail : Str} (hlen : p.length < 2 ^ 31)
    (hp : p = m.encodeMiddle littleEndianHost ++ tail) :
    (SPChatMessage.poll m).encode littleEndianHost =
        frameHeader SPChatPoll.SPCHATPOLL_TYPE (BitVec.ofNat 64 p.length) ++ p ↔
      measured SPChatPoll.SPCHATPOLL_TYPE p = some p.length := by
  have hname := (spans_append.mp (spans_front hp)).1
  refine canonical_of_prefix (m := .poll m) (SPChatPoll.encodeMiddle_length _ m) hp ?_
  rw [stringEnd_spans hlen hname]
  simp only [SPChatMessage.getPayloadLength, SPChatPoll.getPayloadLength, INT_SIZE, Nat.zero_add]

theorem announced_end {m : SPChatPollResponse} {count : BitVec 32} {p tail : Str}
    (hlen : p.length < 2 ^ 31) (hp : p = m.announced littleEndianHost count ++ tail) :
    intAt p (stringEnd p 0 + 8) = count ∧
      entriesEnd p m.msgList.length (stringEnd p 0 + 12) = m.getPayloadLength := by
  have hs := spans_front hp
  simp only [SPChatPollResponse.announced, spans_append, List.length_append, encodeString_length,
    encodeInt_length, Nat.zero_add, Nat.add_assoc] at hs
  obtain ⟨⟨⟨⟨hname, _⟩, _⟩, hcount⟩, hentries⟩ := hs
  have hend := stringEnd_spans hlen hname
  rw [Nat.zero_add] at hend
  rw [hend, Nat.add_assoc, Nat.add_assoc]
  refine ⟨intAt_spans hcount, ?_⟩
  rw [entriesEnd_spans hlen hentries]
  simp only [SPChatPollResponse.getPayloadLength, INT_SIZE]
  omega

theorem pollResponse_canonical {m : SPChatPollResponse} {count : BitVec 32} {p tail : Str}
    (hlen : p.length < 2 ^ 31) (hcount : m.msgList.length = count.toInt.toNat)
    (hp : p = m.announced littleEndianHost count ++ tail) :
    (SPChatMessage.pollResponse m).encode littleEndianHost =
        frameHeader SPChatPollResponse.SPCHATPOLLRESPONSE_TYPE (BitVec.ofNat 64 p.length) ++ p ↔
      measured SPChatPollResponse.SPCHATPOLLRESPONSE_TYPE p = some p.length := by
  obtain ⟨hread, hend⟩ := announced_end hlen hp
  have hmeasured : measured SPChatPollResponse.SPCHATPOLLRESPONSE_TYPE p =
      if count.toInt < 0 then none
      else some (entriesEnd p count.toNat (stringEnd p 0 + 12)) := by
    rw [← hread]
    rfl
  rw [hmeasured]
  by_cases hneg : count.toInt < 0
  · rw [if_pos hneg]
    refine never_canonical (m := .pollResponse m) (fun _ hmiddle => ?_) nofun
    -- the list read is empty and is written with the count 0
    have hnone : m.msgList = [] := List.length_eq_zero_iff.mp (by omega)
    have hzero : SPChatMessage.encodeMiddle littleEndianHost (.pollResponse m) =
        m.announced littleEndianHost 0#32 := by
      rw [SPChatMessage.encodeMiddle, SPChatPollResponse.encodeMiddle_announced, hnone]
      rfl
    have happend : p = m.announced littleEndianHost 0#32 ++ [] := by
      rw [List.append_nil, ← hzero, hmiddle]
    have hback := (announced_end hlen happend).1
    rw [hread] at hback
    rw [hback] at hneg
    exact absurd hneg (by decide)
  · have hnat : count.toInt.toNat = count.toNat := by
      rw [BitVec.toInt_eq_toNat_of_msb (by rw [BitVec.msb_eq_toInt]; simpa using hneg),
        Int.toNat_natCast]
    have hwritten : m.encodeMiddle littleEndianHost = m.announced littleEndianHost count := by
      rw [SPChatPollResponse.encodeMiddle_announced, hcount, hnat, BitVec.ofNat_toNat,
        BitVec.setWidth_eq]
    rw [if_neg hneg, ← hnat, ← hcount]
    rw [← hwritten] at hp
    exact canonical_of_prefix (m := .pollResponse m) (SPChatPollResponse.encodeMiddle_length _ m) hp
      hend

theorem Accepted.canonical {g : Garbage} {p : Str} {m : SPChatMessage} (hlen : p.length < 2 ^ 31)
    (hm : Accepted g p m) :
    m.encode littleEndianHost = frameHeader m.getType (BitVec.ofNat 64 p.length) ++ p ↔
      measured m.getType p = some p.length := by
  cases hm with
  | login hm hp _ => exact login_canonical hlen hm hp
  | @challenge m _ hm hp => exact canonical_of_prefix (m := .challenge m) hm hp rfl
  | @ack m _ hp => exact canonical_of_prefix (m := .ack m) rfl hp rfl
  | response hm hp => exact response_canonical hlen hm hp
  | noNonce hnonce hp hshort => exact noNonce_canonical hlen hnonce hp hshort
  | poll _ hp => exact poll_canonical hlen hp
  | pollResponse _ _ hcount hp => exact pollResponse_canonical hlen hcount hp

theorem reencoded_iff {g : Garbage} {t : Byte} {payload rest : Str} (hlen : payload.length < 2 ^ 31)
    {p p' : Process} {m : SPChatMessage}
    (hp : p.sock.pending =
      frameHeader t (BitVec.ofNat 64 payload.length) ++ (payload ++ rest))
    (hok : (SPChatMessage.decode littleEndianHost g).run p = .ok m p') :
    m.encode littleEndianHost = frameHeader t (BitVec.ofNat 64 payload.length) ++ payload ↔
      measured t payload = some payload.length := by
  obtain ⟨taken, hsplit, hshort, hsame, rfl, hm⟩ := decode_eq_ok hp hok
  have hcount := congrArg BitVec.toNat hsame
  rw [BitVec.toNat_ofNat, BitVec.toNat_ofNat] at hcount
  obtain ⟨rfl, _⟩ := List.append_inj hsplit (by omega)
  exact hm.canonical hlen

def bobPoll : SPChatMessage := .poll ⟨ascii "bob", 5000#64⟩

theorem bobPoll_deliverable : Deliverable bobPoll :=
  .poll (show validUsername (ascii "bob") = true by decide)

theorem bob_poll_reencoded :
    bobPoll.encode littleEndianHost =
      frameHeader bobPoll.getType (BitVec.ofNat 64 (bobPoll.encodeMiddle littleEndianHost).length) ++
        bobPoll.encodeMiddle littleEndianHost := by
  obtain ⟨p, _, _, hrun⟩ := decode_encode littleEndianHost
    (g := ⟨fun _ => 0#8, fun _ => 0#64⟩) (p := ⟨⟨bobPoll.encode littleEndianHost, [some 3]⟩, []⟩)
    bobPoll_deliverable trivial (by decide) (by simp [Stream.Live]) (List.append_nil _).symm
  have hsent := encode_frame bobPoll_deliverable
  rw [← List.append_nil (bobPoll.encodeMiddle littleEndianHost)] at hsent
  exact (reencoded_iff (by decide) hsent hrun).mpr (by decide)

theorem trailing_byte_accepted :
    ∃ p, (SPChatMessage.decode littleEndianHost ⟨fun _ => 0#8, fun _ => 0#64⟩).run
        ⟨⟨frameHeader SPChatChallenge.SPCHATCHALLENGE_TYPE 9#64 ++ ascii "challengX", []⟩, []⟩ =
          .ok (.challenge ⟨ascii "challeng"⟩) p ∧
      (SPChatMessage.challenge ⟨ascii "challeng"⟩).encode littleEndianHost ≠
        frameHeader SPChatChallenge.SPCHATCHALLENGE_TYPE 9#64 ++ ascii "challengX" := by
  have hmade : payloadConstructor littleEndianHost ⟨fun _ => 0#8, fun _ => 0#64⟩
      SPChatChallenge.SPCHATCHALLENGE_TYPE (ofList (ascii "challengX")) (ascii "challengX").length =
        some (.ok (.challenge ⟨ascii "challeng"⟩)) := by decide
  have hsent : frameHeader SPChatChallenge.SPCHATCHALLENGE_TYPE 9#64 ++ ascii "challengX" =
      frameHeader SPChatChallenge.SPCHATCHALLENGE_TYPE
        (BitVec.ofNat 64 (ascii "challengX").length) ++ (ascii "challengX" ++ []) := rfl
  obtain ⟨p, _, _, hrun⟩ := decode_frame littleEndianHost _
    (p := ⟨⟨frameHeader SPChatChallenge.SPCHATCHALLENGE_TYPE 9#64 ++ ascii "challengX", []⟩, []⟩)
    (by simp [Stream.Live]) hsent (by decide) hmade
  exact ⟨p, hrun, by decide⟩

end Server
