import BabbleOn.Server.SPChatFrame

namespace Server
open Execution PartialMemory SegmentedStream

def PayloadFits (n : Nat) : BufferEvent → Prop
  | .declare size => size = n
  | .recvFully .headerArray bufferLen => bufferLen = TOTAL_HEADER_LENGTH
  | .recvFully .buf bufferLen => bufferLen = n
  | .ask .headerArray offset bytes => 0 ≤ offset ∧ offset + (bytes : Int) ≤ TOTAL_HEADER_LENGTH
  | .ask .buf offset bytes => 0 ≤ offset ∧ offset + (bytes : Int) ≤ n
  | .construct len => len = n

def LengthAgrees (h : Host) (g : Garbage) (sock : Stream Byte) : Prop :=
  ∃ n : Nat, n ≤ 2 ^ 31 - 1 ∧
    ∀ e ∈ (after ((SPChatMessage.decode h g).run ⟨sock, []⟩)).trace, PayloadFits n e

theorem inBounds_fits_header {n : Nat} {e : BufferEvent}
    (h : InBounds .headerArray TOTAL_HEADER_LENGTH e) : PayloadFits n e := by
  obtain ⟨offset, bytes, rfl, hb⟩ := h
  exact hb

theorem inBounds_fits_buf {n : Nat} {e : BufferEvent} (h : InBounds .buf n e) :
    PayloadFits n e := by
  obtain ⟨offset, bytes, rfl, hb⟩ := h
  exact hb

theorem factory_trace (h : Host) (g : Garbage) (t : Byte) (buf : Buffer) (len : BitVec 32)
    (p : Process) :
    ∃ evs, (∀ e ∈ evs, e = .construct len.toInt) ∧
      (after ((SPChatMessage.factory h g t buf len).run p)).trace = p.trace ++ evs := by
  unfold SPChatMessage.factory
  split
  · exact ⟨[.construct len.toInt], by simp, rfl⟩
  · exact ⟨[.construct len.toInt], by simp, rfl⟩
  · exact ⟨[], by simp, by simp [after]⟩

theorem decodePayload_fits (h : Host) (g : Garbage) (t : Byte) {len : BitVec 64} {n : Nat}
    (hn : n < 2 ^ 31) (hlen : len.toNat = n) (p : Process) :
    ∃ evs, (∀ e ∈ evs, PayloadFits n e) ∧
      (after ((SPChatMessage.decodePayload h g t len).run p)).trace = p.trace ++ evs := by
  obtain ⟨hlong, hint, _⟩ := narrow hn hlen
  obtain ⟨evs, hevs, hrun⟩ := recvFully_fill .buf hn ⟨p.sock, p.trace ++ [.declare (n : Int)]⟩
  have hfits : ∀ e ∈ BufferEvent.declare (n : Int) :: .recvFully .buf n :: evs, PayloadFits n e := by
    simpa [PayloadFits] using fun e he => inBounds_fits_buf (hevs e he)
  unfold SPChatMessage.decodePayload
  rw [hlong, hint, bind_ok (run_note _ _)]
  rcases hf : p.sock.fill n with ⟨_ | bytes, sock⟩
  · simp only [hf] at hrun
    exact ⟨_, hfits, by rw [bind_error hrun]; simp [after]⟩
  · simp only [hf] at hrun
    rw [bind_ok hrun]
    dsimp only
    split
    · exact ⟨_, hfits, by simp [after]⟩
    · obtain ⟨built, hbuilt, htrace⟩ := factory_trace h g t (ofList bytes) (len.setWidth 32)
        ⟨sock, p.trace ++ [.declare n] ++ .recvFully .buf n :: evs⟩
      refine ⟨(.declare n :: .recvFully .buf n :: evs) ++ built, ?_, by rw [htrace]; simp⟩
      intro e he
      rcases List.mem_append.mp he with he | he
      · exact hfits e he
      · rw [hbuilt e he, hint]
        rfl

theorem recvFully_extends (array : Target) (bufferLen : Int) (hb : bufferLen < 2 ^ 31)
    (p : Process) : p.trace <+: (after ((recvFully array bufferLen).run p)).trace := by
  rcases lt_or_ge bufferLen 0 with hneg | hpos
  · rw [recvFully, bind_ok (run_note _ _), recvLoop]
    have hrecv := recv_run array 0 (bufferLen - 0) ⟨p.sock, p.trace ++ [.recvFully array bufferLen]⟩
    dsimp only at hrecv
    split at hrecv
    · rw [bind_ok hrecv]
      dsimp only
      rw [dif_neg (by omega)]
      split <;> simp [after]
    · rw [bind_ok hrecv]
      simp [after]
  · obtain ⟨k, rfl⟩ := Int.eq_ofNat_of_zero_le hpos
    obtain ⟨evs, _, hrun⟩ := recvFully_fill array (n := k) (by omega) p
    rw [hrun]
    split <;> simp [after]

theorem decodePayload_declares (h : Host) (g : Garbage) (t : Byte) (len : BitVec 64) (p : Process) :
    .declare len.toInt ∈ (after ((SPChatMessage.decodePayload h g t len).run p)).trace := by
  have hext := recvFully_extends .buf (len.setWidth 32).toInt BitVec.toInt_lt
    ⟨p.sock, p.trace ++ [.declare len.toInt]⟩
  have hmem : .declare len.toInt ∈ (after ((recvFully .buf (len.setWidth 32).toInt).run
      ⟨p.sock, p.trace ++ [.declare len.toInt]⟩)).trace := hext.subset (by simp)
  rw [SPChatMessage.decodePayload, bind_ok (run_note _ _)]
  rcases hr : (recvFully .buf (len.setWidth 32).toInt).run
      ⟨p.sock, p.trace ++ [.declare len.toInt]⟩ with ⟨⟨bytes, n⟩, s⟩ | ⟨e, s⟩
  · rw [hr] at hmem
    rw [bind_ok hr]
    dsimp only
    split
    · exact hmem
    · obtain ⟨built, _, htrace⟩ := factory_trace h g t (ofList bytes) (len.setWidth 32) s
      rw [htrace]
      exact List.mem_append_left _ hmem
  · rw [hr] at hmem
    rw [bind_error hr]
    exact hmem

def ShortLength (header : Str) : Prop :=
  (∀ i, LENGTH_POSITION ≤ i → i < LENGTH_POSITION + 4 → header.getD i 0#8 = 0#8) ∧
    (header.getD (LENGTH_POSITION + 4) 0#8).toNat < 128

theorem frameHeader_byte (t : Byte) (len : BitVec 64) {i : Nat} (hi : i < 8) :
    (frameHeader t len).getD (LENGTH_POSITION + i) 0#8 =
      (len.sshiftRight (8 * (8 - 1 - i))).setWidth 8 := by
  have hpos : LENGTH_POSITION + i = (HEADER ++ [t]).length + i := rfl
  rw [hpos, frameHeader, show HEADER ++ t :: BigEndian.encode 64 8 len =
    (HEADER ++ [t]) ++ BigEndian.encode 64 8 len by simp, List.getD_eq_getElem?_getD,
    List.getElem?_append_right (by omega), Nat.add_sub_cancel_left,
    BigEndian.getElem?_encode len hi, Option.getD_some]

theorem frameHeader_bit (t : Byte) (len : BitVec 64) {i m : Nat} (hi : i < 8) (hm : m < 8) :
    ((frameHeader t len).getD (LENGTH_POSITION + i) 0#8).getLsbD m =
      len.getLsbD (8 * (8 - 1 - i) + m) := by
  rw [frameHeader_byte t len hi, BigEndian.shifted_byte_bit (show 64 = 8 * 8 from rfl) len hi hm]

theorem shortLength_iff (t : Byte) (len : BitVec 64) :
    ShortLength (frameHeader t len) ↔ len.toNat < 2 ^ 31 := by
  constructor
  · rintro ⟨hzero, hlow⟩
    apply Nat.lt_pow_two_of_testBit
    intro j hj
    rcases Nat.lt_or_ge j 64 with hj64 | hj64
    · have hbit := frameHeader_bit t len (i := 7 - j / 8) (m := j % 8) (by omega) (by omega)
      rw [show 8 * (8 - 1 - (7 - j / 8)) + j % 8 = j by omega] at hbit
      refine hbit.symm.trans ?_
      rcases Nat.lt_or_ge j 32 with hj32 | hj32
      · have h4 : 7 - j / 8 = 4 := by omega
        have h7 : j % 8 = 7 := by omega
        rw [h4, h7]
        exact Nat.testBit_lt_two_pow hlow
      · rw [hzero _ (by omega) (by omega)]
        exact BitVec.getLsbD_zero
    · exact Nat.testBit_lt_two_pow (Nat.lt_of_lt_of_le len.isLt (Nat.pow_le_pow_right (by omega) hj64))
  · intro hlen
    have hhigh : ∀ j, 31 ≤ j → len.getLsbD j = false := fun j hj =>
      Nat.testBit_lt_two_pow (Nat.lt_of_lt_of_le hlen (Nat.pow_le_pow_right (by omega) hj))
    refine ⟨fun i hi hi' => ?_, ?_⟩
    · obtain ⟨k, rfl⟩ := Nat.exists_eq_add_of_le hi
      apply BitVec.eq_of_getLsbD_eq
      intro m hm
      rw [frameHeader_bit t len (by omega) hm, hhigh _ (by omega), BitVec.getLsbD_zero]
    · apply Nat.lt_pow_two_of_testBit (n := 7)
      intro m hm
      rcases Nat.lt_or_ge m 8 with hm8 | hm8
      · exact (frameHeader_bit t len (i := 4) (by omega) hm8).trans (hhigh _ (by omega))
      · exact BitVec.getLsbD_of_ge _ m hm8

theorem short_agrees (h : Host) {t : Byte} {len : BitVec 64} (hlen : len.toNat < 2 ^ 31)
    (g : Garbage) (rest : Str) (answers : List (Option Nat)) :
    LengthAgrees h g ⟨frameHeader t len ++ rest, answers⟩ := by
  refine ⟨len.toNat, by omega, ?_⟩
  obtain ⟨evs, hevs, hrun⟩ := decode_header h g
    (p := ⟨⟨frameHeader t len ++ rest, answers⟩, []⟩) rfl
  have hheader : ∀ e ∈ BufferEvent.recvFully .headerArray TOTAL_HEADER_LENGTH :: evs,
      PayloadFits len.toNat e := by
    simpa [PayloadFits] using fun e he => inBounds_fits_header (hevs e he)
  rcases hrun with ⟨sock, _, hrun⟩ | ⟨sock, _, _, hrun⟩
  · rw [hrun]
    exact hheader
  · obtain ⟨more, hmore, htrace⟩ := decodePayload_fits h g t hlen rfl
      ⟨sock, [] ++ .recvFully .headerArray TOTAL_HEADER_LENGTH :: evs⟩
    rw [hrun, htrace]
    intro e he
    rcases List.mem_append.mp he with he | he
    · exact hheader e he
    · exact hmore e he

theorem agrees_short (h : Host) (g : Garbage) {t : Byte} {len : BitVec 64}
    (hagree : LengthAgrees h g ⟨frameHeader t len, []⟩) : len.toNat < 2 ^ 31 := by
  obtain ⟨n, hn, hfits⟩ := hagree
  obtain ⟨evs, _, ⟨_, hdead, _⟩ | ⟨sock, _, _, hrun⟩⟩ := decode_header h g
    (p := ⟨⟨frameHeader t len, []⟩, []⟩) (List.append_nil (frameHeader t len)).symm
  · exact absurd (by simp [Stream.Live]) hdead
  · rw [hrun] at hfits
    have hdeclared : len.toInt = n := hfits _ (decodePayload_declares h g t len _)
    rw [BitVec.toInt_eq_toNat_cond] at hdeclared
    split at hdeclared <;> omega

theorem decode_lengths_agree_iff (h : Host) {header : Str}
    (hl : header.length = TOTAL_HEADER_LENGTH) {t : Byte} {len : BitVec 64} {s : Nat}
    (haccept : (SPChatMessage.decodeHeader h (ofList header)).run 0 = .ok (t, len) s) :
    (∀ g rest answers, LengthAgrees h g ⟨header ++ rest, answers⟩) ↔ ShortLength header := by
  obtain rfl := decodeHeader_eq_ok h hl haccept
  rw [shortLength_iff]
  constructor
  · intro hall
    have hbare := hall ⟨fun _ => 0#8, fun _ => 0#64⟩ [] []
    rw [List.append_nil] at hbare
    exact agrees_short h _ hbare
  · exact fun hlen g rest answers => short_agrees h hlen g rest answers

theorem login_length_agrees : LengthAgrees littleEndianHost ⟨fun _ => 0#8, fun _ => 0#64⟩
    ⟨frameHeader SPChatLogin.SPCHATLOGIN_TYPE 276#64 ++ List.replicate 276 65#8, [some 200, some 76]⟩ :=
  (decode_lengths_agree_iff littleEndianHost (frameHeader_length _ _) (decodeHeader_frame _ _ _)).mpr
    ((shortLength_iff _ _).mpr (by decide)) _ _ _

theorem minus_one_disagrees :
    (SPChatMessage.decodeHeader littleEndianHost
        (ofList (frameHeader SPChatLogin.SPCHATLOGIN_TYPE (-1#64)))).run 0 =
      .ok (SPChatLogin.SPCHATLOGIN_TYPE, -1#64) TOTAL_HEADER_LENGTH ∧
    ¬ LengthAgrees littleEndianHost ⟨fun _ => 0#8, fun _ => 0#64⟩
        ⟨frameHeader SPChatLogin.SPCHATLOGIN_TYPE (-1#64), []⟩ :=
  ⟨decodeHeader_frame _ _ _, fun h => absurd (agrees_short _ _ h) (by decide)⟩

end Server
