import BabbleOn.Library.BigEndian
import BabbleOn.Library.Execution

namespace Client
open Execution SignedWords

abbrev Byte := BitVec 8

abbrev Bytes := List Byte

abbrev JavaString := List (BitVec 16)

def java (s : String) : JavaString := s.toList.map fun c => BitVec.ofNat 16 c.toNat

inductive JavaThrow where
  | babble (message : String)
  | nullPointer
  | illegalArgument
  | negativeArraySize
  | stringIndexOutOfBounds
  | eof
  | exit
  deriving DecidableEq, Repr

def UNMAPPABLE : Byte := 63#8
def REPLACEMENT : BitVec 16 := 0xFFFD#16

def asciiByte (c : BitVec 16) : Byte := if c.toNat < 128 then c.setWidth 8 else UNMAPPABLE

def isHighSurrogate (c : BitVec 16) : Bool := 0xD800 ≤ c.toNat && c.toNat < 0xDC00

def isLowSurrogate (c : BitVec 16) : Bool := 0xDC00 ≤ c.toNat && c.toNat < 0xE000

def getBytes : JavaString → Bytes
  | [] => []
  | [c] => [asciiByte c]
  | c :: d :: rest =>
    if isHighSurrogate c && isLowSurrogate d then UNMAPPABLE :: getBytes rest
    else asciiByte c :: getBytes (d :: rest)

def newString (b : Bytes) : JavaString :=
  b.map fun x => if x.toNat < 128 then x.setWidth 16 else REPLACEMENT

def IsAscii (s : JavaString) : Prop := ∀ c ∈ s, c.toNat < 128

instance (s : JavaString) : Decidable (IsAscii s) :=
  inferInstanceAs (Decidable (∀ c ∈ s, c.toNat < 128))

def regexChar (c : BitVec 16) : Bool :=
  (97 ≤ c.toNat && c.toNat ≤ 122) || (65 ≤ c.toNat && c.toNat ≤ 90) ||
    (48 ≤ c.toNat && c.toNat ≤ 57) || c.toNat == 46 || c.toNat == 64 || c.toNat == 95 ||
    c.toNat == 45

def matchesRegex (s : JavaString) : Bool := s.all regexChar

def writeInt (n : BitVec 32) : Bytes := BigEndian.encode 32 4 n

def writeLong (n : BitVec 64) : Bytes := BigEndian.encode 64 8 n

abbrev Input := EStateM JavaThrow Bytes

def readFully (n : Nat) : Input Bytes := do
  let input ← get
  if input.length < n then do
    set ([] : Bytes)
    throw .eof
  else do
    set (input.drop n)
    pure (input.take n)

def read (chunk : Bytes) : Input Bytes := do
  let input ← get
  set (input.drop chunk.length)
  pure (input.take chunk.length ++ chunk.drop input.length)

def dsReadByte : Input Byte := do
  let b ← readFully 1
  pure (b.getD 0 0#8)

def dsReadInt : Input (BitVec 32) := do
  let b ← readFully 4
  pure (BigEndian.decode 32 4 fun i => b.getD i 0#8)

def dsReadLong : Input (BitVec 64) := do
  let b ← readFully 8
  pure (BigEndian.decode 64 8 fun i => b.getD i 0#8)

def onIOException {α : Type} (m : Input α) (e : JavaThrow) : Input α := fun s =>
  match m.run s with
  | .error .eof s' => .error e s'
  | r => r

def HEADER : JavaString := java "SPChat/1.0"
def MAX_UNAME_LEN : Nat := 64
def MAX_VALUE : Nat := 2 ^ 31 - 1

namespace MessageType

def LoginMessage : Byte := 0#8
def ChallengeMessage : Byte := 1#8
def ResponseMessage : Byte := 2#8
def ACKMessage : Byte := 3#8
def MsgMessage : Byte := 4#8
def PollMessage : Byte := 5#8
def PollResponseMessage : Byte := 6#8
def DefaultMessage : Byte := 7#8

-- `null` for any other byte, that of `DefaultMessage` included
def getMessageType (b : Byte) : Option Byte := if b.toNat ≤ 6 then some b else none

end MessageType

structure BabbleOnMessage where
  messageType : Byte
  messageLen : BitVec 64
  deriving DecidableEq, Repr

namespace BabbleOnMessage

def new (type : Byte) (messageLen : BitVec 64) : Except JavaThrow BabbleOnMessage :=
  if type.toInt ≥ MessageType.DefaultMessage.toInt then throw (.babble "Invalid Message Type")
  else pure ⟨type, if messageLen.toInt > 0 then messageLen else 0#64⟩

def readStr (len : BitVec 32) : Input JavaString :=
  if len.toInt < 0 then throw .negativeArraySize
  else do
    let b ← onIOException (readFully len.toNat) (.babble "Could not read full string")
    pure (newString b)

def readInt (maxValue : Nat) : Input (BitVec 32) := do
  let tempLen ← onIOException dsReadInt (.babble "Integer could not be read")
  if 0 > tempLen.toInt ∨ (maxValue : Int) < tempLen.toInt then throw (.babble "Integer invalid")
  else pure tempLen

def readLong : Input (BitVec 64) := onIOException dsReadLong (.babble "Bad message formatting")

def wrapped (message : String) : JavaThrow := .babble ("BabbleException: " ++ message)

def rethrown {α : Type} (m : Input α) : Input α := fun s =>
  match m.run s with
  | .error (.babble message) s' => .error (wrapped message) s'
  | .error .eof s' => .error (wrapped "null") s'
  | r => r

-- the constructor that reads a header; with `sup` set it reads nothing
def ofStream : Input BabbleOnMessage := rethrown do
  let strg ← readStr (BitVec.ofNat 32 HEADER.length)
  if strg.isEmpty then throw .nullPointer
  else if HEADER ≠ strg then throw (.babble "Decoding failure: broke protocol")
  else do
    let messageType ← dsReadByte
    let messageLen ← dsReadLong
    if 0 > messageLen.toInt then throw (.babble "Message length cannot be negative")
    else pure ⟨messageType, messageLen⟩

def sup : BabbleOnMessage := ⟨MessageType.DefaultMessage, 0#64⟩

def checkType (type : Byte) (m : BabbleOnMessage) : BabbleOnMessage := { m with messageType := type }

def writeHeader (m : BabbleOnMessage) : Bytes :=
  getBytes HEADER ++ m.messageType :: writeLong m.messageLen

end BabbleOnMessage

def validLength (n : BitVec 32) (maxLen : Nat) : Bool :=
  !(decide (0 > n.toInt) || decide ((maxLen : Int) < n.toInt))

theorem isAscii_append {s t : JavaString} : IsAscii (s ++ t) ↔ IsAscii s ∧ IsAscii t := by
  simp [IsAscii, or_imp, forall_and]

theorem isAscii_flatMap {α : Type} {l : List α} {f : α → JavaString}
    (h : ∀ a ∈ l, IsAscii (f a)) : IsAscii (l.flatMap f) := by
  intro c hc
  obtain ⟨a, ha, hca⟩ := List.mem_flatMap.mp hc
  exact h a ha c hca

theorem getBytes_ascii {s : JavaString} (h : IsAscii s) : getBytes s = s.map (·.setWidth 8) := by
  induction s using getBytes.induct with
  | case1 => rfl
  | case2 c => simp [getBytes, asciiByte, h c (by simp)]
  | case3 c d rest hs ih =>
    have hc := h c (by simp)
    simp only [isHighSurrogate, Bool.and_eq_true, decide_eq_true_eq] at hs
    omega
  | case4 c d rest hs ih =>
    have hrest : IsAscii (d :: rest) := fun x hx => h x (by simp at hx ⊢; tauto)
    rw [getBytes, if_neg hs, ih hrest, asciiByte, if_pos (h c (by simp)), ← List.map_cons]

theorem getBytes_length {s : JavaString} (h : IsAscii s) : (getBytes s).length = s.length := by
  rw [getBytes_ascii h, List.length_map]

theorem newString_getBytes {s : JavaString} (h : IsAscii s) : newString (getBytes s) = s := by
  rw [getBytes_ascii h, newString, List.map_map]
  conv_rhs => rw [← List.map_id s]
  apply List.map_congr_left
  intro c hc
  have hlt := h c hc
  have hw : (c.setWidth 8).toNat = c.toNat := by
    rw [BitVec.toNat_setWidth]
    omega
  simp only [Function.comp_apply, hw, if_pos hlt, id_eq]
  apply BitVec.eq_of_toNat_eq
  rw [BitVec.toNat_setWidth, hw]
  omega

theorem newString_ascii {b : Bytes} (h : ∀ x ∈ b, x.toNat < 128) : IsAscii (newString b) := by
  intro c hc
  obtain ⟨x, hx, rfl⟩ := List.mem_map.mp hc
  have hlt := h x hx
  rw [if_pos hlt, BitVec.toNat_setWidth]
  omega

theorem getBytes_newString {b : Bytes} (h : ∀ x ∈ b, x.toNat < 128) :
    getBytes (newString b) = b := by
  rw [getBytes_ascii (newString_ascii h), newString, List.map_map]
  conv_rhs => rw [← List.map_id b]
  apply List.map_congr_left
  intro x hx
  simp only [Function.comp_apply, if_pos (h x hx), id_eq]
  apply BitVec.eq_of_toNat_eq
  rw [BitVec.toNat_setWidth, BitVec.toNat_setWidth]
  omega

@[simp] theorem newString_length (b : Bytes) : (newString b).length = b.length := by
  simp [newString]

theorem matchesRegex_ascii {s : JavaString} (h : matchesRegex s = true) : IsAscii s := by
  intro c hc
  have hr := List.all_eq_true.mp h c hc
  simp only [regexChar, Bool.or_eq_true, Bool.and_eq_true, decide_eq_true_eq, beq_iff_eq] at hr
  omega

@[simp] theorem writeInt_length (n : BitVec 32) : (writeInt n).length = 4 :=
  BigEndian.encode_length n

@[simp] theorem writeLong_length (n : BitVec 64) : (writeLong n).length = 8 :=
  BigEndian.encode_length n

theorem readFully_append (l rest : Bytes) : (readFully l.length).run (l ++ rest) = .ok l rest := by
  unfold readFully
  rw [bind_ok (run_get _), if_neg (by simp), bind_ok (run_set _ _), run_pure, List.take_left,
    List.drop_left]

theorem readFully_take {l rest : Bytes} {n : Nat} (h : l.length = n) :
    (readFully n).run (l ++ rest) = .ok l rest := by
  rw [← h, readFully_append]

theorem readFully_short {n : Nat} {input : Bytes} (h : input.length < n) :
    (readFully n).run input = .error .eof [] := by
  unfold readFully
  rw [bind_ok (run_get input), if_pos h]
  rfl

theorem read_append {l chunk : Bytes} (h : l.length = chunk.length) (rest : Bytes) :
    (read chunk).run (l ++ rest) = .ok l rest := by
  unfold read
  rw [bind_ok (run_get _), bind_ok (run_set _ _), run_pure, ← h, List.take_left, List.drop_left,
    List.drop_eq_nil_of_le (by rw [← h]; simp), List.append_nil]

theorem dsReadByte_append (b : Byte) (rest : Bytes) : dsReadByte.run (b :: rest) = .ok b rest :=
  bind_ok (readFully_append [b] rest)

theorem dsReadInt_append (n : BitVec 32) (rest : Bytes) :
    dsReadInt.run (writeInt n ++ rest) = .ok n rest := by
  unfold dsReadInt
  rw [bind_ok (readFully_take (writeInt_length n)), run_pure, writeInt,
    BigEndian.decode_encode (show 32 = 8 * 4 from rfl)]

theorem dsReadLong_append (n : BitVec 64) (rest : Bytes) :
    dsReadLong.run (writeLong n ++ rest) = .ok n rest := by
  unfold dsReadLong
  rw [bind_ok (readFully_take (writeLong_length n)), run_pure, writeLong,
    BigEndian.decode_encode (show 64 = 8 * 8 from rfl)]

theorem onIOException_ok {α : Type} {m : Input α} {a : α} {s s' : Bytes} (h : m.run s = .ok a s')
    (e : JavaThrow) : (onIOException m e).run s = .ok a s' := by
  simp only [EStateM.run, onIOException] at h ⊢
  simp only [h]

theorem onIOException_eof {α : Type} {m : Input α} {input rest : Bytes}
    (h : m.run input = .error .eof rest) (e : JavaThrow) :
    (onIOException m e).run input = .error e rest := by
  simp only [EStateM.run, onIOException] at h ⊢
  simp only [h]

theorem validLength_iff {n : BitVec 32} {maxLen : Nat} :
    validLength n maxLen = true ↔ 0 ≤ n.toInt ∧ n.toInt ≤ maxLen := by
  simp [validLength]

theorem toNat_of_toInt {w n : Nat} {x : BitVec w} (h : x.toInt = n) : x.toNat = n := by
  rw [BitVec.toInt_eq_toNat_cond] at h
  split at h
  · exact Int.ofNat.inj h
  · have hlt := x.isLt
    omega

theorem signExtend_small {x : BitVec 32} {n : Nat} (hx : x.toNat = n) (hn : n < 2 ^ 31) :
    x.signExtend 64 = BitVec.ofNat 64 n := by
  rw [BitVec.signExtend_eq_setWidth_of_msb_false]
  · apply BitVec.eq_of_toNat_eq
    rw [BitVec.toNat_setWidth, BitVec.toNat_ofNat, hx]
  · rw [BitVec.msb_eq_decide]
    simpa [hx] using hn

namespace BabbleOnMessage

theorem new_any (type : Byte) (ht : type.toInt < MessageType.DefaultMessage.toInt) (len : BitVec 64) :
    ∃ base, new type len = .ok base ∧ base.checkType type = base := by
  rw [new, if_neg (by omega)]
  exact ⟨_, rfl, rfl⟩

theorem new_short {type : Byte} (ht : type.toInt < MessageType.DefaultMessage.toInt) {n : Nat}
    (hn : n < 2 ^ 63) : new type (BitVec.ofNat 64 n) = .ok ⟨type, BitVec.ofNat 64 n⟩ := by
  rw [new, if_neg (by omega), toInt_ofNat_long hn]
  split
  · rfl
  · have h0 : n = 0 := by omega
    rw [h0]
    rfl

theorem readInt_append {n : BitVec 32} {maxValue : Nat} (hn : n.toNat ≤ maxValue)
    (hmax : maxValue < 2 ^ 31) (rest : Bytes) :
    (readInt maxValue).run (writeInt n ++ rest) = .ok n rest := by
  have hint : n.toInt = n.toNat := BitVec.toInt_eq_toNat_of_lt (by omega)
  unfold readInt
  rw [bind_ok (onIOException_ok (dsReadInt_append n rest) _), if_neg (by omega), run_pure]

theorem readInt_large {n : BitVec 32} {maxValue : Nat} (hn : maxValue < n.toInt) (rest : Bytes) :
    (readInt maxValue).run (writeInt n ++ rest) = .error (.babble "Integer invalid") rest := by
  unfold readInt
  rw [bind_ok (onIOException_ok (dsReadInt_append n rest) _), if_pos (.inr hn), run_throw]

theorem readLong_append (n : BitVec 64) (rest : Bytes) :
    readLong.run (writeLong n ++ rest) = .ok n rest :=
  onIOException_ok (dsReadLong_append n rest) _

theorem readStr_append {b : Bytes} (hb : b.length < 2 ^ 31) (rest : Bytes) :
    (readStr (BitVec.ofNat 32 b.length)).run (b ++ rest) = .ok (newString b) rest := by
  have hn : (BitVec.ofNat 32 b.length).toNat = b.length := by
    rw [BitVec.toNat_ofNat]
    omega
  have hint : (BitVec.ofNat 32 b.length).toInt = b.length := by
    rw [BitVec.toInt_eq_toNat_of_lt (by omega), hn]
  unfold readStr
  rw [if_neg (by omega), bind_ok (onIOException_ok (readFully_take hn.symm) _), run_pure]

theorem rethrown_ok {α : Type} {m : Input α} {a : α} {s s' : Bytes} (h : m.run s = .ok a s') :
    (rethrown m).run s = .ok a s' := by
  simp only [EStateM.run, rethrown] at h ⊢
  simp only [h]

theorem rethrown_babble {α : Type} {m : Input α} {message : String} {s s' : Bytes}
    (h : m.run s = .error (.babble message) s') :
    (rethrown m).run s = .error (wrapped message) s' := by
  simp only [EStateM.run, rethrown] at h ⊢
  simp only [h]

theorem header_ascii : IsAscii HEADER := by simp [IsAscii, HEADER, java]

theorem header_bytes_length : (getBytes HEADER).length = HEADER.length := getBytes_length header_ascii

theorem ofStream_length (type : Byte) (len : BitVec 64) (rest : Bytes) :
    ofStream.run (getBytes HEADER ++ type :: writeLong len ++ rest) =
      if 0 > len.toInt then .error (wrapped "Message length cannot be negative") rest
      else .ok ⟨type, len⟩ rest := by
  have hshort : (getBytes HEADER).length < 2 ^ 31 := by
    rw [header_bytes_length]
    simp [HEADER, java]
  have hstr := readStr_append hshort (type :: (writeLong len ++ rest))
  rw [newString_getBytes header_ascii, header_bytes_length] at hstr
  have hempty : ¬ HEADER.isEmpty = true := by decide
  have hsame : ¬ HEADER ≠ HEADER := not_not.mpr rfl
  rw [List.append_assoc, List.cons_append]
  split
  · rename_i hneg
    apply rethrown_babble
    rw [bind_ok hstr, if_neg hempty, if_neg hsame, bind_ok (dsReadByte_append type _),
      bind_ok (dsReadLong_append len rest), if_pos hneg, run_throw]
  · rename_i hpos
    apply rethrown_ok
    rw [bind_ok hstr, if_neg hempty, if_neg hsame, bind_ok (dsReadByte_append type _),
      bind_ok (dsReadLong_append len rest), if_neg hpos, run_pure]

theorem new_header {type : Byte} {messageLen : BitVec 64} {base : BabbleOnMessage}
    (h : new type messageLen = .ok base) : base.messageType = type ∧ 0 ≤ base.messageLen.toInt := by
  unfold new at h
  split at h
  · cases h
  · cases h
    dsimp only
    split
    · exact ⟨rfl, by omega⟩
    · exact ⟨rfl, Int.le_refl 0⟩

theorem ofStream_header {header : BabbleOnMessage} (h : 0 ≤ header.messageLen.toInt) (rest : Bytes) :
    ofStream.run (header.writeHeader ++ rest) = .ok header rest := by
  rw [writeHeader, ofStream_length, if_neg (by omega)]

theorem readInt_counted {n : BitVec 32} {s : JavaString} {maxValue : Nat} (hlen : n.toInt = s.length)
    (hle : s.length ≤ maxValue) (hmax : maxValue < 2 ^ 31) (rest : Bytes) :
    (readInt maxValue).run (writeInt n ++ rest) = .ok n rest :=
  readInt_append ((toNat_of_toInt hlen).trans_le hle) hmax rest

theorem readStr_text {n : BitVec 32} {s : JavaString} (hs : IsAscii s) (hlen : n.toInt = s.length)
    (rest : Bytes) : (readStr n).run (getBytes s ++ rest) = .ok s rest := by
  have hlt : n.toInt < 2 ^ 31 := BitVec.toInt_lt
  have hread := readStr_append (b := getBytes s) (by rw [getBytes_length hs]; omega) rest
  have hn : BitVec.ofNat 32 (getBytes s).length = n :=
    BitVec.eq_of_toNat_eq (by rw [getBytes_length hs, BitVec.toNat_ofNat, toNat_of_toInt hlen]; omega)
  rwa [hn, newString_getBytes hs] at hread

end BabbleOnMessage

end Client
