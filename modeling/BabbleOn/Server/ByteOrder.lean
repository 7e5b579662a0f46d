import BabbleOn.Server.Acceptance

namespace Server
open Execution PartialMemory SegmentedStream SignedWords

def SameBackwards {w : Nat} (k : Nat) (x : BitVec w) : Prop :=
  (BigEndian.encode w k x).reverse = BigEndian.encode w k x

structure LongAgrees (h : Host) (n : BitVec 64) : Prop where
  written : encodeLong h n = BigEndian.encode 64 8 n
  read : ∀ h' buf len pos, Spans buf len pos (encodeLong h n) →
    (decodeLong h' buf len).run pos = .ok n (pos + 8)

structure IntAgrees (h : Host) (n : BitVec 32) : Prop where
  written : encodeInt h n = BigEndian.encode 32 4 n
  read : ∀ h' buf len pos, Spans buf len pos (encodeInt h n) →
    (decodeInt h' buf len).run pos = .ok n (pos + 4)

-- a little-endian host writes the network order (`encodeLong_little`)
structure MessageAgrees (h : Host) (g : Garbage) (m : SPChatMessage) : Prop where
  written : m.encode h = m.encode littleEndianHost
  read : ∀ h' (sock : Stream Byte) rest, sock.Live → sock.pending = m.encode h ++ rest →
    ∃ p, p.sock.pending = rest ∧ (SPChatMessage.decode h' g).run ⟨sock, []⟩ = .ok m p

structure Readable (g : Garbage) (m : SPChatMessage) : Prop where
  deliverable : Deliverable m
  settled : TimesSettled g m
  short : m.getPayloadLength < 2 ^ 31

theorem encodeLong_little_iff (h : Host) (n : BitVec 64) :
    encodeLong h n = BigEndian.encode 64 8 n ↔ h.isLittleEndian = true ∨ SameBackwards 8 n := by
  obtain ⟨_ | _⟩ := h
  · exact (or_iff_right (show ¬ false = true by decide)).symm
  · exact iff_of_true rfl (.inl rfl)

theorem encodeInt_little_iff (h : Host) (n : BitVec 32) :
    encodeInt h n = BigEndian.encode 32 4 n ↔ h.isLittleEndian = true ∨ SameBackwards 4 n := by
  obtain ⟨_ | _⟩ := h
  · exact (or_iff_right (show ¬ false = true by decide)).symm
  · exact iff_of_true rfl (.inl rfl)

theorem longAgrees_iff (h : Host) (n : BitVec 64) :
    LongAgrees h n ↔ h.isLittleEndian = true ∨ SameBackwards 8 n := by
  rw [← encodeLong_little_iff]
  constructor
  · exact LongAgrees.written
  · intro hw
    refine ⟨hw, fun h' buf len pos hs => decodeLong_spans h' ?_⟩
    rwa [hw] at hs

theorem intAgrees_iff (h : Host) (n : BitVec 32) :
    IntAgrees h n ↔ h.isLittleEndian = true ∨ SameBackwards 4 n := by
  rw [← encodeInt_little_iff]
  constructor
  · exact IntAgrees.written
  · intro hw
    refine ⟨hw, fun h' buf len pos hs => decodeInt_spans h' ?_⟩
    rwa [hw] at hs

theorem sameBackwards_bit {w k : Nat} (hw : w = 8 * k) {x : BitVec w} (hx : SameBackwards k x)
    {i b : Nat} (hi : i < k) (hb : b < 8) :
    x.getLsbD (8 * i + b) = x.getLsbD (8 * (k - 1 - i) + b) := by
  have hbyte : (BigEndian.encode w k x).reverse[i]? = (BigEndian.encode w k x)[i]? := by rw [hx]
  rw [List.getElem?_reverse (by rw [BigEndian.encode_length]; exact hi), BigEndian.encode_length,
    BigEndian.getElem?_encode x (by omega), BigEndian.getElem?_encode x hi] at hbyte
  have hbit := congrArg (fun y : BitVec 8 => y.getLsbD b) (Option.some.inj hbyte)
  rw [BigEndian.shifted_byte_bit hw x (by omega) hb, BigEndian.shifted_byte_bit hw x hi hb] at hbit
  rwa [show k - 1 - (k - 1 - i) = i by omega] at hbit

theorem sameBackwards_short {x : BitVec 64} (hx : SameBackwards 8 x) (hshort : x.toNat < 2 ^ 32) :
    x = 0#64 := by
  have hhigh : ∀ j, 32 ≤ j → x.getLsbD j = false := fun j hj =>
    Nat.testBit_lt_two_pow (Nat.lt_of_lt_of_le hshort (Nat.pow_le_pow_right (by omega) hj))
  apply BitVec.eq_of_getLsbD_eq
  intro j hj
  rw [BitVec.getLsbD_zero]
  rcases Nat.lt_or_ge j 32 with hlow | hlarge
  · have hbit := sameBackwards_bit (show 64 = 8 * 8 from rfl) hx (i := j / 8) (b := j % 8)
      (by omega) (by omega)
    rw [Nat.div_add_mod] at hbit
    rw [hbit, hhigh _ (by omega)]
  · exact hhigh j hlarge

theorem getPayloadLength_pos (m : SPChatMessage) : 0 < m.getPayloadLength := by
  cases m with
  | login m =>
    simp only [SPChatMessage.getPayloadLength, SPChatLogin.getPayloadLength, INT_SIZE]
    omega
  | challenge m => exact show 0 < SPChatChallenge.CHALLENGE_LENGTH by decide
  | ack m => exact show 0 < BYTE_SIZE by decide
  | response m =>
    simp only [SPChatMessage.getPayloadLength, SPChatResponse.getPayloadLength, INT_SIZE]
    omega
  | poll m =>
    simp only [SPChatMessage.getPayloadLength, SPChatPoll.getPayloadLength, INT_SIZE]
    omega
  | pollResponse m =>
    simp only [SPChatMessage.getPayloadLength, SPChatPollResponse.getPayloadLength, INT_SIZE]
    omega

theorem header_written {h : Host} {m : SPChatMessage}
    (hw : m.encode h = m.encode littleEndianHost) :
    encodeLong h (BitVec.ofNat 64 m.getPayloadLength) =
      BigEndian.encode 64 8 (BitVec.ofNat 64 m.getPayloadLength) := by
  have hheader := (List.append_inj hw
    (by rw [encodeHeader_length, encodeHeader_length])).1
  exact (List.cons.inj (List.append_cancel_left hheader)).2

theorem little_of_written {h : Host} {m : SPChatMessage} (hlen : m.getPayloadLength < 2 ^ 31)
    (hw : m.encode h = m.encode littleEndianHost) : h.isLittleEndian = true := by
  rcases (encodeLong_little_iff h _).mp (header_written hw) with hl | hsame
  · exact hl
  · have hnat : (BitVec.ofNat 64 m.getPayloadLength).toNat = m.getPayloadLength := by
      rw [BitVec.toNat_ofNat, Nat.mod_eq_of_lt (by omega)]
    have hzero := congrArg BitVec.toNat (sameBackwards_short hsame (by omega))
    rw [hnat] at hzero
    exact absurd hzero (Nat.ne_of_gt (getPayloadLength_pos m))

theorem Readable.of_deliverable {g : Garbage} {p : Str} {m : SPChatMessage} (hm : Deliverable m)
    (hg : TimesSettled g m) (hlen : p.length < 2 ^ 31)
    (hp : p = m.encodeMiddle littleEndianHost) : Readable g m :=
  ⟨hm, hg, by rw [← encodeMiddle_length littleEndianHost hm, ← hp]; exact hlen⟩

theorem Accepted.readable {g : Garbage} {p : Str} {m : SPChatMessage} (hm : Accepted g p m)
    (hlen : p.length < 2 ^ 31) (hp : p = m.encodeMiddle littleEndianHost)
    (hheader : BitVec.ofNat 64 m.getPayloadLength = BitVec.ofNat 64 p.length) : Readable g m := by
  cases hm with
  | @login m tail hm hfront hend =>
    refine .of_deliverable (.login hm fun ht => ?_) trivial hlen hp
    have hsize := congrArg List.length (hfront.symm.trans hp)
    rw [hend ht, List.append_nil, SPChatLogin.layout_length _ hm, SPChatMessage.encodeMiddle,
      eq_comm] at hsize
    exact (SPChatLogin.encodeMiddle_length_iff _ hm).mp hsize ht
  | challenge hm _ => exact .of_deliverable (.challenge hm) trivial hlen hp
  | @ack m _ _ => exact .of_deliverable (.ack m) trivial hlen hp
  | response hm _ => exact .of_deliverable (.response hm) trivial hlen hp
  | @noNonce m _ hnonce _ _ =>
    have hcount := congrArg BitVec.toNat hheader
    have hsize := congrArg List.length hp
    simp only [SPChatMessage.encodeMiddle, SPChatResponse.encodeMiddle, hnonce, List.length_append,
      encodeString_length, List.length_nil] at hsize
    simp only [SPChatMessage.getPayloadLength, SPChatResponse.getPayloadLength, INT_SIZE, LONG_SIZE,
      BitVec.toNat_ofNat] at hcount
    omega
  | poll hm _ => exact .of_deliverable (.poll hm) trivial hlen hp
  | pollResponse hm hg _ _ => exact .of_deliverable (.pollResponse hm) hg hlen hp

theorem readable_of_decode {h : Host} {g : Garbage} {m : SPChatMessage} {p p' : Process}
    (hp : p.sock.pending = m.encode littleEndianHost) (hend : p'.sock.pending = [])
    (hok : (SPChatMessage.decode h g).run p = .ok m p') : Readable g m := by
  have hframe : p.sock.pending = frameHeader m.getType (BitVec.ofNat 64 m.getPayloadLength) ++
      m.encodeMiddle littleEndianHost := hp
  obtain ⟨payload, hsplit, hlen, hheader, _, hm⟩ := decode_eq_ok hframe hok
  rw [hend, List.append_nil] at hsplit
  exact hm.readable hlen hsplit.symm hheader

theorem messageAgrees_iff (h : Host) (g : Garbage) (m : SPChatMessage) :
    MessageAgrees h g m ↔ h.isLittleEndian = true ∧ Readable g m := by
  constructor
  · rintro ⟨hw, hread⟩
    obtain ⟨p, hend, hok⟩ := hread h ⟨m.encode h, []⟩ [] (by simp [Stream.Live])
      (List.append_nil _).symm
    have hm := readable_of_decode hw hend hok
    exact ⟨little_of_written hm.short hw, hm⟩
  · rintro ⟨hl, hm⟩
    obtain rfl : h = littleEndianHost := congrArg Host.mk hl
    refine ⟨rfl, fun h' sock rest hlive hp => ?_⟩
    obtain ⟨p, _, hend, hok⟩ := decode_encode h' hm.deliverable hm.settled hm.short
      (p := ⟨sock, []⟩) hlive hp
    exact ⟨p, hend, hok⟩

theorem wire_format_agrees_iff (h : Host) (g : Garbage) (n : BitVec 64) (k : BitVec 32)
    (m : SPChatMessage) :
    (LongAgrees h n ↔ h.isLittleEndian = true ∨ SameBackwards 8 n) ∧
      (IntAgrees h k ↔ h.isLittleEndian = true ∨ SameBackwards 4 k) ∧
        (MessageAgrees h g m ↔ h.isLittleEndian = true ∧ Readable g m) :=
  ⟨longAgrees_iff h n, intAgrees_iff h k, messageAgrees_iff h g m⟩

theorem one_disagrees : ¬ LongAgrees ⟨false⟩ 1#64 := fun h => absurd h.written (by decide)

end Server
