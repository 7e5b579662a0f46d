import BabbleOn.Server.Connection
import BabbleOn.Server.PayloadReads

namespace Server
open Execution PartialMemory SegmentedStream SignedWords

-- no frame has a negative length, so a header that announces one is not cut
inductive EndsEarly : Str → Prop
  | header {s : Str} (hcut : s.length < TOTAL_HEADER_LENGTH) : EndsEarly s
  | noHeader {s : Str} (hbad : ∀ t len rest, s ≠ frameHeader t len ++ rest) : EndsEarly s
  | payload {t : Byte} {n : Nat} {part : Str} (hn : n < 2 ^ 63) (hcut : part.length < n) :
      EndsEarly (frameHeader t (BitVec.ofNat 64 n) ++ part)

-- an exception of the code, and not a read outside of its arrays
def Throws {α : Type} (r : EStateM.Result Fault Process α) : Prop :=
  ∃ e p, r = .error e p ∧ ∀ i, e ≠ .outOfBounds i

-- the header array after the read: what has not arrived is what was there before
def completed (g : Garbage) (s : Str) : Str :=
  (List.range TOTAL_HEADER_LENGTH).map fun i => s.getD i (g.headerArray i)

def LeftoverACK (g : Garbage) (s : Str) : Prop :=
  s.length < TOTAL_HEADER_LENGTH ∧ completed g s = frameHeader SPChatACK.SPCHATACK_TYPE 0#64

theorem throws_spchat {α : Type} (message : String) (p : Process) :
    Throws (.error (.spchat message) p : EStateM.Result Fault Process α) :=
  ⟨_, p, rfl, nofun⟩

@[simp] theorem completed_length (g : Garbage) (s : Str) :
    (completed g s).length = TOTAL_HEADER_LENGTH := by
  simp [completed]

theorem received_completed (g : Garbage) (s : Str) :
    received g.headerArray TOTAL_HEADER_LENGTH (s.take TOTAL_HEADER_LENGTH) =
      ofList (completed g s) := by
  funext i
  rw [received, ofList, completed, List.getElem?_map, List.getElem?_take, List.length_take]
  by_cases hi : i < TOTAL_HEADER_LENGTH
  · rw [List.getElem?_range hi, Option.map_some, List.getD_eq_getElem?_getD, if_pos hi, if_pos hi]
    by_cases hs : i < s.length
    · rw [if_pos (by omega), List.getElem?_eq_getElem hs, Option.getD_some]
    · rw [if_neg (by omega), List.getElem?_eq_none (by omega), Option.getD_none]
  · rw [if_neg (by omega), if_neg hi, List.getElem?_eq_none (by simpa using hi)]
    rfl

theorem completed_full {g : Garbage} {s : Str} (hs : TOTAL_HEADER_LENGTH ≤ s.length) :
    completed g s = s.take TOTAL_HEADER_LENGTH := by
  apply List.ext_getElem?
  intro i
  rw [completed, List.getElem?_map, List.getElem?_take]
  by_cases hi : i < TOTAL_HEADER_LENGTH
  · rw [List.getElem?_range hi, Option.map_some, if_pos hi, List.getD_eq_getElem?_getD,
      List.getElem?_eq_getElem (by omega), Option.getD_some]
  · rw [if_neg hi, List.getElem?_eq_none (by simpa using hi)]
    rfl

theorem checkHeader_outcome {buf : Buffer} {i s : Nat} (hread : (buf i).isSome) :
    (SPChatMessage.checkHeader buf i).run s = .ok () s ∨
      (SPChatMessage.checkHeader buf i).run s = .error (.spchat BAD_HEADER_EXCEPTION) s := by
  obtain ⟨b, hb⟩ := Option.isSome_iff_exists.mp hread
  unfold SPChatMessage.checkHeader
  rw [bind_ok (fetch_ok hb s)]
  split
  · exact .inr rfl
  · exact .inl rfl

theorem decodeHeader_outcome (h : Host) {header : Str} (hl : header.length = TOTAL_HEADER_LENGTH) :
    (∃ t len, header = frameHeader t len) ∨
      ∃ s, (SPChatMessage.decodeHeader h (ofList header)).run 0 =
        .error (.spchat BAD_HEADER_EXCEPTION) s := by
  have hsome : ∀ i < TOTAL_HEADER_LENGTH, (ofList header i).isSome := by
    intro i hi
    rw [ofList, List.getElem?_eq_getElem (by omega)]
    rfl
  rcases forM_outcome (s := 0) (l := List.range HEADER_LENGTH)
      fun i hi => checkHeader_outcome (hsome i (Nat.lt_trans (List.mem_range.mp hi) (by decide)))
    with hloop | hloop
  · obtain ⟨t, ht⟩ := Option.isSome_iff_exists.mp (hsome TYPE_POSITION (by decide))
    have hspan : Spans (ofList header) TOTAL_HEADER_LENGTH LENGTH_POSITION (header.drop 11) := by
      have hall := spans_ofList header
      rw [← List.take_append_drop 11 header] at hall
      simpa [hl, TOTAL_HEADER_LENGTH, LENGTH_POSITION] using (spans_append.mp hall).2
    have hlong := decodeLong_bytes h hspan (by rw [List.length_drop, hl]; rfl)
    have hok : (SPChatMessage.decodeHeader h (ofList header)).run 0 =
        .ok (t, BigEndian.decode 64 8 fun i => (header.drop 11).getD i 0#8) (LENGTH_POSITION + 8) := by
      unfold SPChatMessage.decodeHeader
      rw [bind_ok hloop, bind_ok (fetch_ok ht 0), bind_ok (run_set _ _), bind_ok hlong, run_pure]
    exact .inl ⟨t, _, decodeHeader_eq_ok h hl hok⟩
  · exact .inr ⟨0, bind_error hloop⟩

theorem decodePayload_cut (h : Host) (g : Garbage) (t : Byte) {len : BitVec 64} {p : Process}
    (hcut : len.toInt < 0 ∨ (p.sock.pending.length : Int) < len.toInt) :
    Throws ((SPChatMessage.decodePayload h g t len).run p) := by
  rw [SPChatMessage.decodePayload, bind_ok (run_note _ _)]
  have hlt : (len.setWidth 32).toInt < 2 ^ 31 := BitVec.toInt_lt
  rcases recvFully_outcome .buf hlt
    ⟨p.sock, p.trace ++ [.declare len.toInt]⟩ with ⟨s, hrun⟩ | ⟨bytes, n, s, hrun, hn, hle⟩
  · rw [bind_error hrun]
    exact ⟨_, s, rfl, by simp⟩
  · rw [bind_ok hrun]
    dsimp only at hle ⊢
    rw [if_pos (by omega)]
    exact throws_spchat _ s

theorem payloadConstructor_empty (h : Host) (g : Garbage) (t : Byte) (ht : t ≠ SPChatACK.SPCHATACK_TYPE) :
    payloadConstructor h g t (ofList []) 0 = none ∨
      ∃ message, payloadConstructor h g t (ofList []) 0 = some (.error (.spchat message)) := by
  have hshort : (decodeString h (ofList []) 0).run 0 = .error (.spchat TOO_SHORT_EXCEPTION) 0 :=
    decodeString_short h (by omega)
  unfold payloadConstructor
  split_ifs
  · refine .inr ⟨TOO_SHORT_EXCEPTION, ?_⟩
    rw [SPChatLogin.ofBuffer, PAYLOAD_POSITION, constructAt_error (bind_error (field_error hshort))]
    rfl
  · exact .inr ⟨_, rfl⟩
  · refine .inr ⟨TOO_SHORT_EXCEPTION, ?_⟩
    rw [SPChatResponse.ofBuffer, PAYLOAD_POSITION,
      constructAt_error (bind_error (field_error hshort))]
    rfl
  · refine .inr ⟨TOO_SHORT_EXCEPTION, ?_⟩
    rw [SPChatPoll.ofBuffer, PAYLOAD_POSITION, constructAt_error (bind_error (field_error hshort))]
    rfl
  · refine .inr ⟨TOO_SHORT_EXCEPTION, ?_⟩
    rw [SPChatPollResponse.ofBuffer, PAYLOAD_POSITION,
      constructAt_error (bind_error (field_error hshort))]
    rfl
  · exact .inl rfl

-- the stream has ended and the header announces nothing: the constructor gets an empty array
theorem decodePayload_empty (h : Host) (g : Garbage) (t : Byte) {p : Process} (hlive : p.sock.Live)
    (hp : p.sock.pending = []) :
    Throws ((SPChatMessage.decodePayload h g t 0#64).run p) ↔ t ≠ SPChatACK.SPCHATACK_TYPE := by
  obtain ⟨p', n, _, _, hn, hrun⟩ := decodePayload_factory h g t hlive
    (show p.sock.pending = ([] : Str) ++ [] from hp) (by decide)
  have hlen : BitVec.ofNat 64 ([] : Str).length = 0#64 := rfl
  rw [hlen] at hrun
  rw [hrun]
  constructor
  · rintro ⟨e, s, hthrow, he⟩ rfl
    have hread : payloadConstructor h g SPChatACK.SPCHATACK_TYPE (ofList []) n.toNat =
        some (.error (.outOfBounds 0)) := by
      rw [hn]
      exact payloadConstructor_emptyACK h g
    rw [factory_error hread] at hthrow
    cases hthrow
    exact he 0 rfl
  · intro ht
    rcases payloadConstructor_empty h g t ht with hnone | ⟨message, herror⟩
    · unfold SPChatMessage.factory
      rw [show n.toNat = 0 from hn, hnone]
      exact throws_spchat _ p'
    · rw [← show n.toNat = 0 from hn] at herror
      rw [factory_error herror]
      exact throws_spchat _ _

theorem header_received {p : Process} (hlive : p.sock.Live) :
    ∃ p' n, p'.sock.Live ∧ p'.sock.pending = p.sock.pending.drop TOTAL_HEADER_LENGTH ∧
      (recvFully .headerArray TOTAL_HEADER_LENGTH).run p =
        .ok (p.sock.pending.take TOTAL_HEADER_LENGTH, n) p' := by
  obtain ⟨bytes, sock', hf, hlive'⟩ := fill_live hlive TOTAL_HEADER_LENGTH
  obtain ⟨hbytes, hdrop⟩ := fill_take hf
  obtain ⟨evs, _, hrun⟩ := recvFully_fill .headerArray (n := TOTAL_HEADER_LENGTH) (by decide) p
  rw [hf] at hrun
  dsimp only at hrun
  rw [hbytes] at hrun
  refine ⟨_, _, ?_, ?_, hrun⟩
  · exact hlive'
  · exact hdrop

theorem decode_completed (h : Host) (g : Garbage) {p : Process} (hlive : p.sock.Live) {t : Byte}
    {len : BitVec 64} (hheader : completed g p.sock.pending = frameHeader t len) :
    ∃ p', p'.sock.Live ∧ p'.sock.pending = p.sock.pending.drop TOTAL_HEADER_LENGTH ∧
      (SPChatMessage.decode h g).run p = (SPChatMessage.decodePayload h g t len).run p' := by
  obtain ⟨p', n, hp, hdrop, hrun⟩ := header_received hlive
  refine ⟨p', hp, hdrop, ?_⟩
  unfold SPChatMessage.decode
  rw [bind_ok hrun]
  dsimp only
  rw [received_completed, hheader, bind_ok (withState_ok (decodeHeader_frame h t len) p')]

theorem decode_bad_header {h : Host} {g : Garbage} {p : Process} (hlive : p.sock.Live) {e : Fault}
    {s : Nat} (hbad : (SPChatMessage.decodeHeader h (ofList (completed g p.sock.pending))).run 0 =
      .error e s) :
    ∃ p', (SPChatMessage.decode h g).run p = .error e p' := by
  obtain ⟨p', n, _, _, hrun⟩ := header_received hlive
  refine ⟨p', ?_⟩
  unfold SPChatMessage.decode
  rw [bind_ok hrun]
  dsimp only
  rw [received_completed, bind_error (withState_error hbad p')]

theorem frameHeader_inj {t t' : Byte} {len len' : BitVec 64}
    (heq : frameHeader t len = frameHeader t' len') : t = t' ∧ len = len' := by
  obtain ⟨ht, hbytes⟩ := List.cons.inj (List.append_cancel_left heq)
  exact ⟨ht, BigEndian.encode_injective (show 64 = 8 * 8 from rfl) hbytes⟩

theorem decode_short_header (h : Host) (g : Garbage) {t : Byte} {len : BitVec 64} {p : Process}
    (hlive : p.sock.Live) (hp : p.sock.pending = []) :
    Throws ((SPChatMessage.decodePayload h g t len).run p) ↔
      ¬ frameHeader t len = frameHeader SPChatACK.SPCHATACK_TYPE 0#64 := by
  by_cases hlen : len = 0#64
  · rw [hlen, decodePayload_empty h g t hlive hp]
    exact not_congr ⟨fun ht => by rw [ht], fun heq => (frameHeader_inj heq).1⟩
  · refine iff_of_true (decodePayload_cut h g t ?_) fun heq => hlen (frameHeader_inj heq).2
    have hne : len.toInt ≠ 0 := fun hzero => hlen (BitVec.eq_of_toInt_eq hzero)
    rw [hp, List.length_nil]
    omega

theorem decode_short_payload (h : Host) (g : Garbage) {s : Str} (hs : TOTAL_HEADER_LENGTH ≤ s.length)
    (hcut : EndsEarly s) {t : Byte} {len : BitVec 64} (hheader : completed g s = frameHeader t len)
    {p : Process} (hp : p.sock.pending = s.drop TOTAL_HEADER_LENGTH) :
    Throws ((SPChatMessage.decodePayload h g t len).run p) := by
  rw [completed_full hs] at hheader
  cases hcut with
  | header hshort => exact absurd hshort (Nat.not_lt.mpr hs)
  | noHeader hbad =>
    exact absurd (by rw [← hheader, List.take_append_drop]) (hbad t len (s.drop TOTAL_HEADER_LENGTH))
  | @payload t' n part hn hpart =>
    rw [List.take_left' (frameHeader_length _ _)] at hheader
    rw [List.drop_left' (frameHeader_length _ _)] at hp
    obtain ⟨_, rfl⟩ := frameHeader_inj hheader
    refine decodePayload_cut h g t (.inr ?_)
    rw [hp, toInt_ofNat_long hn]
    exact Int.ofNat_lt.mpr hpart

theorem decode_cut_iff (h : Host) (g : Garbage) {p : Process} (hlive : p.sock.Live)
    (hcut : EndsEarly p.sock.pending) :
    Throws ((SPChatMessage.decode h g).run p) ↔ ¬ LeftoverACK g p.sock.pending := by
  rcases decodeHeader_outcome h (completed_length g p.sock.pending) with
    ⟨t, len, hheader⟩ | ⟨s, hbad⟩
  · obtain ⟨p', hlive', hdrop, hrun⟩ := decode_completed h g hlive hheader
    rw [hrun, LeftoverACK]
    rcases Nat.lt_or_ge p.sock.pending.length TOTAL_HEADER_LENGTH with hshort | hlong
    · rw [List.drop_eq_nil_of_le (Nat.le_of_lt hshort)] at hdrop
      rw [decode_short_header h g hlive' hdrop, hheader, and_iff_right hshort]
    · exact iff_of_true (decode_short_payload h g hlong hcut hheader hdrop)
        fun hack => absurd hack.1 (Nat.not_lt.mpr hlong)
  · obtain ⟨p', hrun⟩ := decode_bad_header hlive hbad
    rw [hrun]
    refine iff_of_true (throws_spchat _ p') fun hack => ?_
    rw [hack.2, decodeHeader_frame] at hbad
    cases hbad

theorem decode_run {w : World} {c : Conn}
    (hthrow : Throws ((SPChatMessage.decode w.host (w.garbage c.calls)).run ⟨c.sock, []⟩)) :
    ∃ e c', (decode w).run c = .error (.fault e) c' ∧ c'.events = c.events := by
  obtain ⟨e, p, hrun, _⟩ := hthrow
  refine ⟨e, { c with sock := p.sock, calls := c.calls + 1 }, ?_, rfl⟩
  unfold decode
  rw [bind_ok (external_run _ c), bind_ok (run_get _)]
  dsimp only
  rw [hrun]
  rfl

theorem serve_cut {w : World} {c : Conn}
    (hthrow : Throws ((SPChatMessage.decode w.host (w.garbage (c.calls + 1))).run ⟨c.sock, []⟩))
    (endTime : Int) (originalUser keyString : Str) (n : Nat) :
    ∃ e c', (serve w endTime originalUser keyString (n + 1)).run c = .error e c' ∧
      c'.events = c.events := by
  unfold serve Body.serve
  dsimp only [answer]
  rw [bind_ok (external_run _ c)]
  split
  · exact ⟨_, _, rfl, rfl⟩
  · obtain ⟨e, c', hrun, hevents⟩ := decode_run (c := { c with calls := c.calls + 1 }) hthrow
    exact ⟨_, c', bind_error hrun, hevents⟩

theorem disconnect_noticed_iff (w : World) {c : Conn} (hlive : c.sock.Live)
    (hcut : EndsEarly c.sock.pending) :
    (∀ g, Throws ((SPChatMessage.decode w.host g).run ⟨c.sock, []⟩) ↔ ¬ LeftoverACK g c.sock.pending) ∧
      (¬ LeftoverACK (w.garbage (c.calls + 1)) c.sock.pending →
        ∀ endTime originalUser keyString n,
          ∃ e c', (serve w endTime originalUser keyString (n + 1)).run c = .error e c' ∧
            c'.events = c.events) := by
  have hiff : ∀ g, Throws ((SPChatMessage.decode w.host g).run ⟨c.sock, []⟩) ↔
      ¬ LeftoverACK g c.sock.pending :=
    fun g => decode_cut_iff w.host g (p := ⟨c.sock, []⟩) hlive hcut
  exact ⟨hiff, fun hleft => serve_cut ((hiff _).mpr hleft)⟩

def halfHeader : Conn := ⟨⟨ascii "SPChat/1.0", [some 4]⟩, 0, []⟩

theorem half_header_noticed :
    Throws ((SPChatMessage.decode littleEndianHost (World.quiet.garbage 0)).run ⟨halfHeader.sock, []⟩) ∧
      ∀ endTime originalUser keyString n,
        ∃ e c', (serve World.quiet endTime originalUser keyString (n + 1)).run halfHeader = .error e c' ∧
          c'.events = [] := by
  have hleft (k : Nat) : ¬ LeftoverACK (World.quiet.garbage k) halfHeader.sock.pending :=
    fun h => absurd h.2 (show ¬ completed (World.quiet.garbage 0) halfHeader.sock.pending = _ by decide)
  obtain ⟨hiff, hserve⟩ := disconnect_noticed_iff World.quiet (c := halfHeader)
    (by simp [Stream.Live, halfHeader]) (.header (by decide))
  exact ⟨(hiff _).mpr (hleft 0), hserve (hleft 1)⟩

-- the peer closes without a byte, and the array still holds the header of an earlier ACK
def afterACK : Garbage :=
  ⟨fun i => (frameHeader SPChatACK.SPCHATACK_TYPE 0#64).getD i 0#8, fun _ => 0#64⟩

theorem closed_unnoticed :
    EndsEarly [] ∧
      ¬ Throws ((SPChatMessage.decode littleEndianHost afterACK).run ⟨⟨[], []⟩, []⟩) := by
  have hcut : EndsEarly [] := .header (by decide)
  have hleft : LeftoverACK afterACK [] := ⟨by decide, by decide⟩
  refine ⟨hcut, fun hthrow => ?_⟩
  exact (decode_cut_iff littleEndianHost afterACK (p := ⟨⟨[], []⟩, []⟩) (by simp [Stream.Live])
    hcut).mp hthrow hleft

end Server
