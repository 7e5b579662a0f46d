import BabbleOn.Library.SegmentedStream
import BabbleOn.Server.SPChatHandshake
import BabbleOn.Server.SPChatLogin
import BabbleOn.Server.SPChatPoll

namespace Server
open Execution PartialMemory SegmentedStream SignedWords

inductive SPChatMessage where
  | login (m : SPChatLogin)
  | challenge (m : SPChatChallenge)
  | ack (m : SPChatACK)
  | response (m : SPChatResponse)
  | poll (m : SPChatPoll)
  | pollResponse (m : SPChatPollResponse)
  deriving DecidableEq, Repr

namespace SPChatMessage

def getType : SPChatMessage → Byte
  | login _ => SPChatLogin.SPCHATLOGIN_TYPE
  | challenge _ => SPChatChallenge.SPCHATCHALLENGE_TYPE
  | ack _ => SPChatACK.SPCHATACK_TYPE
  | response _ => SPChatResponse.SPCHATRESPONSE_TYPE
  | poll _ => SPChatPoll.SPCHATPOLL_TYPE
  | pollResponse _ => SPChatPollResponse.SPCHATPOLLRESPONSE_TYPE

def encodeMiddle (h : Host) : SPChatMessage → Str
  | login m => m.encodeMiddle h
  | challenge m => m.encodeMiddle
  | ack m => m.encodeMiddle
  | response m => m.encodeMiddle h
  | poll m => m.encodeMiddle h
  | pollResponse m => m.encodeMiddle h

def getPayloadLength : SPChatMessage → Nat
  | login m => m.getPayloadLength
  | challenge m => m.getPayloadLength
  | ack m => m.getPayloadLength
  | response m => m.getPayloadLength
  | poll m => m.getPayloadLength
  | pollResponse m => m.getPayloadLength

def getTotalMsgLength (m : SPChatMessage) : Nat := m.getPayloadLength + TOTAL_HEADER_LENGTH

def encodeHeader (h : Host) (m : SPChatMessage) : Str :=
  HEADER ++ m.getType :: encodeLong h (BitVec.ofNat 64 m.getPayloadLength)

def encode (h : Host) (m : SPChatMessage) : Str := m.encodeHeader h ++ m.encodeMiddle h

end SPChatMessage

inductive Target where
  | headerArray
  | buf
  deriving DecidableEq, Repr

inductive BufferEvent where
  | declare (size : Int)
  | recvFully (array : Target) (bufferLen : Int)
  | ask (array : Target) (offset : Int) (bytes : Nat)
  | construct (len : Int)
  deriving DecidableEq, Repr

structure Process where
  sock : Stream Byte
  trace : List BufferEvent

-- what the stack holds where the source reads before it writes
structure Garbage where
  headerArray : Nat → Byte
  time : Nat → BitVec 64

def RECV_FAILED : String := "Receive failed (recv())"

def note (e : BufferEvent) : EStateM Fault Process Unit :=
  modify fun p => { p with trace := p.trace ++ [e] }

-- the count goes from `int` to `size_t` and the answer from `ssize_t` to `int`
def recv (array : Target) (offset want : Int) : EStateM Fault Process (Str × Int) := do
  let bytes := (BitVec.ofInt 64 want).toNat
  note (.ask array offset bytes)
  let p ← get
  match p.sock.recv bytes with
  | (some chunk, sock) => do
    set { p with sock := sock }
    pure (chunk, (BitVec.ofNat 32 chunk.length).toInt)
  | (none, sock) => do
    set { p with sock := sock }
    pure ([], -1)

def recvLoop (array : Target) (bufferLen rcount : Int) : EStateM Fault Process (Str × Int) := do
  let (chunk, len) ← recv array rcount (bufferLen - rcount)
  if _h : len > 0 ∧ rcount + len < bufferLen then do
    let (rest, total) ← recvLoop array bufferLen (rcount + len)
    pure (chunk ++ rest, total)
  else if len < 0 then throw (.socket RECV_FAILED)
  else pure (chunk, rcount + len)
termination_by (bufferLen - rcount).toNat
decreasing_by omega

def recvFully (array : Target) (bufferLen : Int) : EStateM Fault Process (Str × Int) := do
  note (.recvFully array bufferLen)
  recvLoop array bufferLen 0

def SPChatMessage.checkHeader (buf : Buffer) (i : Nat) : EStateM Fault Nat Unit := do
  let b ← fetch .outOfBounds buf i
  if HEADER.getD i 0#8 ≠ b then throw (.spchat BAD_HEADER_EXCEPTION)
  else pure ()

def SPChatMessage.decodeHeader (h : Host) (buf : Buffer) : EStateM Fault Nat (Byte × BitVec 64) := do
  forM (List.range HEADER_LENGTH) (checkHeader buf)
  let t ← fetch .outOfBounds buf TYPE_POSITION
  set LENGTH_POSITION
  let len ← decodeLong h buf TOTAL_HEADER_LENGTH
  pure (t, len)

def received (junk : Nat → Byte) (size : Nat) (bytes : Str) : Buffer := fun i =>
  if i < bytes.length then bytes[i]? else if i < size then some (junk i) else none

def payloadConstructor (h : Host) (g : Garbage) (t : Byte) (buf : Buffer) (len : Nat) :
    Option (Except Fault SPChatMessage) :=
  if t = SPChatLogin.SPCHATLOGIN_TYPE then some ((SPChatLogin.ofBuffer h buf len).map .login)
  else if t = SPChatChallenge.SPCHATCHALLENGE_TYPE then
    some ((SPChatChallenge.ofBuffer buf len).map .challenge)
  else if t = SPChatACK.SPCHATACK_TYPE then some ((SPChatACK.ofBuffer buf len).map .ack)
  else if t = SPChatResponse.SPCHATRESPONSE_TYPE then
    some ((SPChatResponse.ofBuffer h buf len).map .response)
  else if t = SPChatPoll.SPCHATPOLL_TYPE then some ((SPChatPoll.ofBuffer h buf len).map .poll)
  else if t = SPChatPollResponse.SPCHATPOLLRESPONSE_TYPE then
    some ((SPChatPollResponse.ofBuffer h buf len g.time).map .pollResponse)
  else none

def SPChatMessage.factory (h : Host) (g : Garbage) (t : Byte) (buf : Buffer) (len : BitVec 32) :
    EStateM Fault Process SPChatMessage :=
  match payloadConstructor h g t buf len.toNat with
  | some (.ok m) => do
    note (.construct len.toInt)
    pure m
  | some (.error e) => do
    note (.construct len.toInt)
    throw e
  | none => throw (.spchat NO_SUCH_TYPE_EXCEPTION)

def SPChatMessage.decodePayload (h : Host) (g : Garbage) (t : Byte) (len : BitVec 64) :
    EStateM Fault Process SPChatMessage := do
  note (.declare len.toInt)
  let (bytes, actualLen) ← recvFully .buf (len.setWidth 32).toInt
  if actualLen ≠ len.toInt then throw (.spchat TOO_SHORT_EXCEPTION)
  else factory h g t (ofList bytes) (len.setWidth 32)

def SPChatMessage.decode (h : Host) (g : Garbage) : EStateM Fault Process SPChatMessage := do
  let (header, _) ← recvFully .headerArray TOTAL_HEADER_LENGTH
  let (t, len) ← withState 0 (decodeHeader h (received g.headerArray TOTAL_HEADER_LENGTH header))
  decodePayload h g t len

def frameHeader (t : Byte) (len : BitVec 64) : Str := HEADER ++ t :: BigEndian.encode 64 8 len

def InBounds (array : Target) (size : Int) (e : BufferEvent) : Prop :=
  ∃ offset bytes, e = .ask array offset bytes ∧ 0 ≤ offset ∧ offset + (bytes : Int) ≤ size

theorem run_note (e : BufferEvent) (p : Process) :
    (note e).run p = .ok () ⟨p.sock, p.trace ++ [e]⟩ := rfl

theorem recv_run (array : Target) (offset want : Int) (p : Process) :
    (recv array offset want).run p =
      match p.sock.recv (BitVec.ofInt 64 want).toNat with
      | (some chunk, sock) => .ok (chunk, (BitVec.ofNat 32 chunk.length).toInt)
          ⟨sock, p.trace ++ [.ask array offset (BitVec.ofInt 64 want).toNat]⟩
      | (none, sock) => .ok ([], -1)
          ⟨sock, p.trace ++ [.ask array offset (BitVec.ofInt 64 want).toNat]⟩ := by
  unfold recv
  rw [bind_ok (run_note _ _), bind_ok (run_get _)]
  dsimp only
  rcases p.sock.recv (BitVec.ofInt 64 want).toNat with ⟨chunk, sock⟩
  cases chunk with
  | none => rfl
  | some chunk => rfl

theorem recvLoop_fill (array : Target) {bufferLen : Int} (hb : bufferLen < 2 ^ 31) (n : Nat)
    (rcount : Int) (h0 : 0 ≤ rcount) (hn : rcount + n = bufferLen) (p : Process) :
    ∃ evs, (∀ e ∈ evs, InBounds array bufferLen e) ∧
      (recvLoop array bufferLen rcount).run p = match p.sock.fill n with
        | (some bytes, sock) => .ok (bytes, rcount + bytes.length) ⟨sock, p.trace ++ evs⟩
        | (none, sock) => .error (.socket RECV_FAILED) ⟨sock, p.trace ++ evs⟩ := by
  induction n using Nat.strongRecOn generalizing rcount p with
  | ind n ih =>
    have hwant : bufferLen - rcount = n := by omega
    have hask : (BitVec.ofInt 64 (n : Int)).toNat = n := by
      rw [BitVec.ofInt_natCast, BitVec.toNat_ofNat]
      omega
    have hin : InBounds array bufferLen (.ask array rcount n) :=
      ⟨rcount, n, rfl, h0, by omega⟩
    have hrecv := recv_run array rcount (bufferLen - rcount) p
    rw [hwant, hask] at hrecv
    rw [recvLoop, hwant, Stream.fill]
    rcases hs : p.sock.recv n with ⟨chunk, sock⟩
    rw [hs] at hrecv
    cases chunk with
    | none =>
      dsimp only at hrecv
      refine ⟨[.ask array rcount n], by simpa using hin, ?_⟩
      rw [bind_ok hrecv]
      simp
    | some chunk =>
      have hlen : chunk.length ≤ n := recv_length hs
      have hcount : (BitVec.ofNat 32 chunk.length).toInt = chunk.length :=
        toInt_ofNat_small (by omega)
      dsimp only at hrecv
      rw [hcount] at hrecv
      simp only [bind_ok hrecv]
      by_cases hmore : 0 < chunk.length ∧ chunk.length < n
      · obtain ⟨evs, hevs, hrun⟩ := ih (n - chunk.length) (by omega)
          (rcount + chunk.length) (by omega) (by omega)
          ⟨sock, p.trace ++ [.ask array rcount n]⟩
        refine ⟨.ask array rcount n :: evs, by simpa using ⟨hin, hevs⟩, ?_⟩
        rw [dif_pos (by omega)]
        simp only [dif_pos hmore]
        rcases hf : sock.fill (n - chunk.length) with ⟨more, sock'⟩
        rw [hf] at hrun
        cases more with
        | none => rw [bind_error hrun]; simp
        | some more => rw [bind_ok hrun]; simp [Int.add_assoc]
      · refine ⟨[.ask array rcount n], by simpa using hin, ?_⟩
        rw [dif_neg (by omega), if_neg (by omega), run_pure]
        simp only [dif_neg hmore]

theorem recvFully_fill (array : Target) {n : Nat} (hn : n < 2 ^ 31) (p : Process) :
    ∃ evs, (∀ e ∈ evs, InBounds array n e) ∧
      (recvFully array n).run p = match p.sock.fill n with
        | (some bytes, sock) => .ok (bytes, bytes.length) ⟨sock, p.trace ++ .recvFully array n :: evs⟩
        | (none, sock) =>
          .error (.socket RECV_FAILED) ⟨sock, p.trace ++ .recvFully array n :: evs⟩ := by
  obtain ⟨evs, hevs, hrun⟩ := recvLoop_fill array (show (n : Int) < 2 ^ 31 by omega) n 0 (Int.le_refl 0)
    (by omega) ⟨p.sock, p.trace ++ [.recvFully array n]⟩
  refine ⟨evs, hevs, ?_⟩
  rw [recvFully, bind_ok (run_note _ _), hrun]
  simp

theorem recvFully_negative (array : Target) {bufferLen : Int} (hb : bufferLen < 0) {p p' : Process}
    {bytes : Str} {n : Int} (h : (recvFully array bufferLen).run p = .ok (bytes, n) p') :
    0 ≤ n ∧ n < 2 ^ 31 := by
  rw [recvFully, bind_ok (run_note _ _), recvLoop] at h
  obtain ⟨⟨chunk, len⟩, s, hr, h⟩ := bind_eq_ok.mp h
  have hlen : len < 2 ^ 31 := by
    rw [recv_run] at hr
    split at hr
    · cases hr
      exact BitVec.toInt_lt
    · cases hr
      decide
  dsimp only at h
  rw [dif_neg (by omega)] at h
  split at h
  · cases h
  · cases h
    omega

theorem checkHeader_eq_ok {buf : Buffer} {i s s' : Nat} :
    (SPChatMessage.checkHeader buf i).run s = .ok () s' ↔
      buf i = some (HEADER.getD i 0#8) ∧ s' = s := by
  unfold SPChatMessage.checkHeader
  constructor
  · intro h
    obtain ⟨b, s₁, hfetch, hrest⟩ := bind_eq_ok.mp h
    obtain ⟨hb, rfl⟩ := fetch_eq_ok hfetch
    split at hrest
    · cases hrest
    · rename_i heq
      cases hrest
      exact ⟨by rw [hb, not_not.mp heq], rfl⟩
  · rintro ⟨hb, rfl⟩
    rw [bind_ok (fetch_ok hb _), if_neg (not_not.mpr rfl), run_pure]

@[simp] theorem frameHeader_length (t : Byte) (len : BitVec 64) :
    (frameHeader t len).length = TOTAL_HEADER_LENGTH := by
  simp [frameHeader, HEADER, ascii, TOTAL_HEADER_LENGTH]

theorem encodeHeader_length (h : Host) (m : SPChatMessage) :
    (m.encodeHeader h).length = TOTAL_HEADER_LENGTH := by
  simp [SPChatMessage.encodeHeader, HEADER, ascii, TOTAL_HEADER_LENGTH]

theorem decodeHeader_frame (h : Host) (t : Byte) (len : BitVec 64) :
    (SPChatMessage.decodeHeader h (ofList (frameHeader t len))).run 0 =
      .ok (t, len) TOTAL_HEADER_LENGTH := by
  have hspan := spans_ofList (frameHeader t len)
  rw [frameHeader_length] at hspan
  obtain ⟨hheader, htail⟩ := spans_append.mp hspan
  rw [show 0 + HEADER.length = TYPE_POSITION from rfl] at htail
  have hlen := decodeLong_bytes h (spans_tail htail) (BigEndian.encode_length len)
  rw [BigEndian.decode_encode (show 64 = 8 * 8 from rfl)] at hlen
  have hcheck : ∀ i ∈ List.range HEADER_LENGTH, (SPChatMessage.checkHeader
      (ofList (frameHeader t len)) i).run 0 = .ok () 0 := by
    intro i hi
    have hi' : i < HEADER.length := List.mem_range.mp hi
    have hread := hheader.2 i hi'
    rw [Nat.zero_add] at hread
    refine checkHeader_eq_ok.mpr ⟨?_, rfl⟩
    rw [hread, List.getD_eq_getElem?_getD, List.getElem?_eq_getElem hi', Option.getD_some]
  unfold SPChatMessage.decodeHeader
  rw [bind_ok (forM_ok hcheck), bind_ok (fetch_ok (spans_head htail) 0), bind_ok (run_set _ _)]
  exact bind_ok hlen

theorem decodeHeader_eq_ok (h : Host) {header : Str} (hl : header.length = TOTAL_HEADER_LENGTH)
    {t : Byte} {len : BitVec 64} {s : Nat}
    (hok : (SPChatMessage.decodeHeader h (ofList header)).run 0 = .ok (t, len) s) :
    header = frameHeader t len := by
  have hl' : header.length = 19 := hl
  obtain ⟨_, s₁, hloop, hrest⟩ := bind_eq_ok.mp hok
  obtain ⟨hbytes, rfl⟩ := forM_eq_ok (fun _ _ _ hi => checkHeader_eq_ok.mp hi) hloop
  obtain ⟨t', s₁, hfetch, hrest⟩ := bind_eq_ok.mp hrest
  obtain ⟨ht, rfl⟩ := fetch_eq_ok hfetch
  rw [bind_ok (run_set _ _)] at hrest
  have htail : (header.drop 11).length = 8 := by simp [hl']
  have hspan : Spans (ofList header) TOTAL_HEADER_LENGTH LENGTH_POSITION (header.drop 11) := by
    have hall := spans_ofList header
    rw [← List.take_append_drop 11 header] at hall
    simpa [hl', TOTAL_HEADER_LENGTH, LENGTH_POSITION] using (spans_append.mp hall).2
  rw [bind_ok (decodeLong_bytes h hspan htail)] at hrest
  cases hrest
  have hpre : header.take 10 = HEADER := by
    apply List.ext_getElem?
    intro i
    rcases Nat.lt_or_ge i 10 with hi | hi
    · rw [List.getElem?_take_of_lt hi, List.getElem?_eq_getElem (l := HEADER) (by exact hi)]
      simpa [ofList, List.getElem?_eq_getElem (l := HEADER) hi] using
        hbytes i (List.mem_range.mpr hi)
    · rw [List.getElem?_eq_none (by simpa [hl'] using hi), List.getElem?_eq_none (by exact hi)]
  have htype : header.drop 10 = t :: header.drop 11 := by
    rw [List.drop_eq_getElem_cons (by omega)]
    congr 1
    exact Option.some.inj ((List.getElem?_eq_getElem _).symm.trans ht)
  rw [frameHeader, BigEndian.encode_decode (show 64 = 8 * 8 from rfl) _ htail, ← htype, ← hpre,
    List.take_append_drop]

theorem received_full {junk : Nat → Byte} {size : Nat} {bytes : Str} (h : bytes.length = size) :
    received junk size bytes = ofList bytes := by
  funext i
  rcases Nat.lt_or_ge i size with hi | hi
  · rw [received, if_pos (by omega), ofList]
  · rw [received, if_neg (by omega), if_neg (by omega), ofList, List.getElem?_eq_none (by omega)]

theorem narrow {len : BitVec 64} {n : Nat} (hn : n < 2 ^ 31) (h : len.toNat = n) :
    len.toInt = n ∧ (len.setWidth 32).toInt = n ∧ (len.setWidth 32).toNat = n := by
  have hw : (len.setWidth 32).toNat = n := by
    rw [BitVec.toNat_setWidth, h]
    omega
  refine ⟨?_, ?_, hw⟩
  · rw [BitVec.toInt_eq_toNat_of_lt (by omega), h]
  · rw [BitVec.toInt_eq_toNat_of_lt (by omega), hw]

theorem decode_header (h : Host) (g : Garbage) {p : Process} {t : Byte} {len : BitVec 64}
    {rest : Str} (hp : p.sock.pending = frameHeader t len ++ rest) :
    ∃ evs, (∀ e ∈ evs, InBounds .headerArray TOTAL_HEADER_LENGTH e) ∧
      ((∃ sock, ¬ p.sock.Live ∧ (SPChatMessage.decode h g).run p = .error (.socket RECV_FAILED)
          ⟨sock, p.trace ++ .recvFully .headerArray TOTAL_HEADER_LENGTH :: evs⟩) ∨
        ∃ sock, sock.pending = rest ∧ (p.sock.Live → sock.Live) ∧
          (SPChatMessage.decode h g).run p = (SPChatMessage.decodePayload h g t len).run
            ⟨sock, p.trace ++ .recvFully .headerArray TOTAL_HEADER_LENGTH :: evs⟩) := by
  obtain ⟨evs, hevs, hrun⟩ :=
    recvFully_fill .headerArray (n := TOTAL_HEADER_LENGTH) (by decide) p
  refine ⟨evs, hevs, ?_⟩
  rcases hf : p.sock.fill TOTAL_HEADER_LENGTH with ⟨_ | bytes, sock⟩
  · rw [hf] at hrun
    refine .inl ⟨sock, fun hlive => ?_, bind_error hrun⟩
    obtain ⟨bytes, sock', hf', _⟩ := fill_live hlive TOTAL_HEADER_LENGTH
    rw [hf] at hf'
    cases hf'
  · rw [hf] at hrun
    obtain ⟨rfl, hrest⟩ := fill_take hf
    rw [hp, List.take_left' (frameHeader_length t len)] at hrun
    rw [hp, List.drop_left' (frameHeader_length t len)] at hrest
    refine .inr ⟨sock, hrest, fun hlive => ?_, ?_⟩
    · obtain ⟨bytes, sock', hf', hlive'⟩ := fill_live hlive TOTAL_HEADER_LENGTH
      rw [hf] at hf'
      cases hf'
      exact hlive'
    · unfold SPChatMessage.decode
      rw [bind_ok hrun]
      dsimp only
      rw [received_full (frameHeader_length t len),
        bind_ok (withState_ok (decodeHeader_frame h t len) _)]

theorem factory_ok {h : Host} {g : Garbage} {t : Byte} {buf : Buffer} {len : BitVec 32}
    {m : SPChatMessage} (hm : payloadConstructor h g t buf len.toNat = some (.ok m)) (p : Process) :
    (SPChatMessage.factory h g t buf len).run p =
      .ok m ⟨p.sock, p.trace ++ [.construct len.toInt]⟩ := by
  rw [SPChatMessage.factory, hm]
  exact bind_ok (run_note _ _)

theorem factory_error {h : Host} {g : Garbage} {t : Byte} {buf : Buffer} {len : BitVec 32}
    {e : Fault} (hm : payloadConstructor h g t buf len.toNat = some (.error e)) (p : Process) :
    (SPChatMessage.factory h g t buf len).run p =
      .error e ⟨p.sock, p.trace ++ [.construct len.toInt]⟩ := by
  rw [SPChatMessage.factory, hm]
  exact bind_ok (run_note _ _)

theorem decodePayload_factory (h : Host) (g : Garbage) (t : Byte) {p : Process}
    {payload rest : Str} (hlive : p.sock.Live) (hp : p.sock.pending = payload ++ rest)
    (hlen : payload.length < 2 ^ 31) :
    ∃ p' n, p'.sock.Live ∧ p'.sock.pending = rest ∧ BitVec.toNat n = payload.length ∧
      (SPChatMessage.decodePayload h g t (BitVec.ofNat 64 payload.length)).run p =
        (SPChatMessage.factory h g t (ofList payload) n).run p' := by
  have hn : (BitVec.ofNat 64 payload.length).toNat = payload.length := by
    rw [BitVec.toNat_ofNat]
    omega
  obtain ⟨hlong, hint, hnat⟩ := narrow hlen hn
  obtain ⟨sock, hlive', hrest, hf⟩ := fill_prefix hlive hp
  obtain ⟨evs, _, hrun⟩ := recvFully_fill .buf hlen
    ⟨p.sock, p.trace ++ [.declare (payload.length : Int)]⟩
  simp only [hf] at hrun
  refine ⟨⟨sock, p.trace ++ [.declare payload.length] ++ .recvFully .buf payload.length :: evs⟩,
    (BitVec.ofNat 64 payload.length).setWidth 32, hlive', hrest, hnat, ?_⟩
  rw [SPChatMessage.decodePayload, hlong, hint, bind_ok (run_note _ _), bind_ok hrun]
  dsimp only
  rw [if_neg (not_not.mpr rfl)]

theorem decode_factory (h : Host) (g : Garbage) {p : Process} {t : Byte} {payload rest : Str}
    (hlive : p.sock.Live)
    (hp : p.sock.pending = frameHeader t (BitVec.ofNat 64 payload.length) ++ (payload ++ rest))
    (hlen : payload.length < 2 ^ 31) :
    ∃ p' n, p'.sock.Live ∧ p'.sock.pending = rest ∧ BitVec.toNat n = payload.length ∧
      (SPChatMessage.decode h g).run p =
        (SPChatMessage.factory h g t (ofList payload) n).run p' := by
  obtain ⟨evs, _, ⟨_, hdead, _⟩ | ⟨sock, hpending, hlive', hrun⟩⟩ := decode_header h g hp
  · exact absurd hlive hdead
  · rw [hrun]
    exact decodePayload_factory h g t (hlive' hlive) hpending hlen

theorem decode_frame (h : Host) (g : Garbage) {p : Process} {t : Byte} {payload rest : Str}
    {m : SPChatMessage} (hlive : p.sock.Live)
    (hp : p.sock.pending = frameHeader t (BitVec.ofNat 64 payload.length) ++ (payload ++ rest))
    (hlen : payload.length < 2 ^ 31)
    (hm : payloadConstructor h g t (ofList payload) payload.length = some (.ok m)) :
    ∃ p', p'.sock.Live ∧ p'.sock.pending = rest ∧
      (SPChatMessage.decode h g).run p = .ok m p' := by
  obtain ⟨p', n, hlive', hrest, hn, hrun⟩ := decode_factory h g hlive hp hlen
  rw [← hn] at hm
  rw [factory_ok hm] at hrun
  exact ⟨⟨p'.sock, p'.trace ++ [.construct n.toInt]⟩, hlive', hrest, hrun⟩

theorem decode_rejects (h : Host) (g : Garbage) {p : Process} {t : Byte} {payload rest : Str}
    {e : Fault} (hlive : p.sock.Live)
    (hp : p.sock.pending = frameHeader t (BitVec.ofNat 64 payload.length) ++ (payload ++ rest))
    (hlen : payload.length < 2 ^ 31)
    (hm : payloadConstructor h g t (ofList payload) payload.length = some (.error e))
    (p' : Process) (m : SPChatMessage) : (SPChatMessage.decode h g).run p ≠ .ok m p' := by
  obtain ⟨p₁, n, _, _, hn, hrun⟩ := decode_factory h g hlive hp hlen
  rw [← hn] at hm
  rw [hrun, factory_error hm]
  nofun

theorem toInt_ofNat_le (n : Nat) : (BitVec.ofNat 32 n).toInt ≤ n := by
  have hle : (BitVec.ofNat 32 n).toNat ≤ n := by
    rw [BitVec.toNat_ofNat]
    exact Nat.mod_le n _
  rw [BitVec.toInt_eq_toNat_cond]
  split <;> omega

theorem recvFully_outcome (array : Target) {bufferLen : Int} (hb : bufferLen < 2 ^ 31) (p : Process) :
    (∃ s, (recvFully array bufferLen).run p = .error (.socket RECV_FAILED) s) ∨
      ∃ bytes n s, (recvFully array bufferLen).run p = .ok (bytes, n) s ∧ 0 ≤ n ∧
        n ≤ p.sock.pending.length := by
  rcases lt_or_ge bufferLen 0 with hneg | hpos
  · have hrecv := recv_run array 0 (bufferLen - 0) ⟨p.sock, p.trace ++ [.recvFully array bufferLen]⟩
    rw [recvFully, bind_ok (run_note _ _), recvLoop]
    rcases hr : p.sock.recv (BitVec.ofInt 64 (bufferLen - 0)).toNat with ⟨_ | chunk, sock⟩
    · simp only [hr] at hrecv
      rw [bind_ok hrecv]
      exact .inl ⟨_, rfl⟩
    · simp only [hr] at hrecv
      obtain ⟨k, _, _, rfl, _⟩ := recv_take hr
      have hcount := toInt_ofNat_le (p.sock.pending.take k).length
      have htaken := List.length_take_le' k p.sock.pending
      rw [bind_ok hrecv]
      dsimp only
      rw [dif_neg (by omega)]
      split
      · exact .inl ⟨_, rfl⟩
      · exact .inr ⟨_, _, _, rfl, by omega, by omega⟩
  · obtain ⟨k, rfl⟩ := Int.eq_ofNat_of_zero_le hpos
    obtain ⟨evs, _, hrun⟩ := recvFully_fill array (n := k) (by omega) p
    rcases hf : p.sock.fill k with ⟨_ | bytes, sock⟩
    · simp only [hf] at hrun
      exact .inl ⟨_, hrun⟩
    · simp only [hf] at hrun
      obtain ⟨rfl, _⟩ := fill_take hf
      have htaken := List.length_take_le' k p.sock.pending
      exact .inr ⟨_, _, _, hrun, by omega, by omega⟩

theorem recvFully_range (array : Target) {bufferLen : Int} (hb : bufferLen < 2 ^ 31)
    {p p' : Process} {bytes : Str} {n : Int}
    (h : (recvFully array bufferLen).run p = .ok (bytes, n) p') : 0 ≤ n ∧ n < 2 ^ 31 := by
  rcases lt_or_ge bufferLen 0 with hneg | hpos
  · exact recvFully_negative array hneg h
  · obtain ⟨k, rfl⟩ := Int.eq_ofNat_of_zero_le hpos
    obtain ⟨evs, _, hrun⟩ := recvFully_fill array (n := k) (by omega) p
    rw [h] at hrun
    rcases hf : p.sock.fill k with ⟨_ | l, sock⟩
    · rw [hf] at hrun
      cases hrun
    · rw [hf] at hrun
      cases hrun
      obtain ⟨rfl, _⟩ := fill_take hf
      have hle := List.length_take_le k p.sock.pending
      omega

theorem decodePayload_outcome (h : Host) (g : Garbage) (t : Byte) (len : BitVec 64) (p : Process) :
    ∃ s, (SPChatMessage.decodePayload h g t len).run p = .error (.socket RECV_FAILED) s ∨
      (SPChatMessage.decodePayload h g t len).run p = .error (.spchat TOO_SHORT_EXCEPTION) s ∨
      ∃ payload, p.sock.pending = payload ++ s.sock.pending ∧ payload.length < 2 ^ 31 ∧
        len = BitVec.ofNat 64 payload.length ∧ (len.setWidth 32).toNat = payload.length ∧
          (SPChatMessage.decodePayload h g t len).run p =
            (SPChatMessage.factory h g t (ofList payload) (len.setWidth 32)).run s := by
  rw [SPChatMessage.decodePayload, bind_ok (run_note _ _)]
  by_cases hrange : 0 ≤ len.toInt ∧ len.toInt < 2 ^ 31
  · obtain ⟨n, hn⟩ := Int.eq_ofNat_of_zero_le hrange.1
    have hlt : n < 2 ^ 31 := by omega
    have hlen : len = BitVec.ofNat 64 n := by
      rw [← BitVec.ofInt_natCast, ← hn, BitVec.ofInt_toInt]
    have hnat : len.toNat = n := by
      rw [hlen, BitVec.toNat_ofNat]
      omega
    obtain ⟨hlong, hint, hword⟩ := narrow hlt hnat
    obtain ⟨evs, _, hrun⟩ := recvFully_fill .buf hlt ⟨p.sock, p.trace ++ [.declare (n : Int)]⟩
    rw [hlong, hint]
    rcases hf : p.sock.fill n with ⟨_ | payload, sock⟩
    · simp only [hf] at hrun
      exact ⟨_, .inl (bind_error hrun)⟩
    · simp only [hf] at hrun
      obtain ⟨htake, hdrop⟩ := fill_take hf
      rw [bind_ok hrun]
      dsimp only
      by_cases hfull : payload.length = n
      · rw [if_neg (by omega)]
        refine ⟨_, .inr (.inr ⟨payload, ?_, by omega, by rw [hfull, hlen], by omega, rfl⟩)⟩
        rw [htake, hdrop, List.take_append_drop]
      · rw [if_pos (by omega)]
        exact ⟨_, .inr (.inl rfl)⟩
  · rcases recvFully_outcome .buf (BitVec.toInt_lt (x := len.setWidth 32))
      ⟨p.sock, p.trace ++ [.declare len.toInt]⟩ with ⟨s, hrun⟩ | ⟨bytes, n, s, hrun, _, _⟩
    · exact ⟨s, .inl (bind_error hrun)⟩
    · have hread := recvFully_range .buf BitVec.toInt_lt hrun
      rw [bind_ok hrun]
      dsimp only
      rw [if_pos (by omega)]
      exact ⟨s, .inr (.inl rfl)⟩

theorem decodePayload_oversized (h : Host) (g : Garbage) {t : Byte} {len : BitVec 64}
    (hlen : len.toInt < 0 ∨ 2 ^ 31 ≤ len.toInt) (p p' : Process) (m : SPChatMessage) :
    (SPChatMessage.decodePayload h g t len).run p ≠ .ok m p' := by
  intro hok
  rw [SPChatMessage.decodePayload, bind_ok (run_note _ _)] at hok
  obtain ⟨⟨bytes, actualLen⟩, s, hr, hok⟩ := bind_eq_ok.mp hok
  have hrange := recvFully_range .buf BitVec.toInt_lt hr
  dsimp only at hok
  rw [if_pos (by omega)] at hok
  cases hok

theorem decode_oversized (h : Host) (g : Garbage) {p : Process} {t : Byte} {len : BitVec 64}
    {rest : Str} (hp : p.sock.pending = frameHeader t len ++ rest)
    (hlen : len.toInt < 0 ∨ 2 ^ 31 ≤ len.toInt) (p' : Process) (m : SPChatMessage) :
    (SPChatMessage.decode h g).run p ≠ .ok m p' := by
  obtain ⟨evs, _, ⟨_, _, hrun⟩ | ⟨sock, _, _, hrun⟩⟩ := decode_header h g hp
  · rw [hrun]
    nofun
  · rw [hrun]
    exact decodePayload_oversized h g hlen _ p' m

end Server
