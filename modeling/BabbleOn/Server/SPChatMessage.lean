import BabbleOn.Library.BigEndian
import BabbleOn.Library.PartialMemory

namespace Server
open Execution PartialMemory SignedWords

abbrev Byte := BitVec 8

abbrev Str := List Byte

def chr (c : Char) : Byte := BitVec.ofNat 8 c.toNat

def ascii (s : String) : Str := s.toList.map chr

inductive Fault where
  | spchat (message : String)
  | str (message : String)
  | socket (message : String)
  | lengthError
  | outOfBounds (index : Nat)
  deriving DecidableEq, Repr

def TOO_SHORT_EXCEPTION : String := "Buffer length too short"
def NEGATIVE_NUM_EXCEPTION : String := "Negative number"
def BAD_USERNAME_EXCEPTION : String := "Invalid username"
def BAD_HEADER_EXCEPTION : String := "Invalid header"
def NO_SUCH_TYPE_EXCEPTION : String := "Invalid message type"
def BAD_KEY_EXCEPTION : String := "Invalid key"
def BAD_CHALLENGE_EXCEPTION : String := "Invalid challenge"
def INVALID_ERROR_EXCEPTION : String := "Invaid ACK error code"
def INVALID_SENDER_EXCEPTION : String := "Invalid ACK sender code"
def MSG_LENGTH_EXCEPTION : String := "Exceeded max message length"
def ASYMMETRIC_KEY_EXCEPTION : String := "Invalid asymmetric key"

structure Host where
  isLittleEndian : Bool
  deriving DecidableEq, Repr

def littleEndianHost : Host := ⟨true⟩

def HEADER : Str := ascii "SPChat/1.0"
def HEADER_LENGTH : Nat := 10
def TOTAL_HEADER_LENGTH : Nat := 19
def TYPE_POSITION : Nat := 10
def LENGTH_POSITION : Nat := 11
def PAYLOAD_POSITION : Nat := 0
def LONG_SIZE : Nat := 8
def INT_SIZE : Nat := 4
def BYTE_SIZE : Nat := 1

abbrev Buffer := Memory Byte

def encodeLong (h : Host) (num : BitVec 64) : Str :=
  if h.isLittleEndian then
    (List.range LONG_SIZE).map fun (i : Nat) =>
      (num.sshiftRight (((i : Int) - ((LONG_SIZE : Int) - 1)) * -8).toNat).setWidth 8
  else
    (List.range LONG_SIZE).map fun i => (num.sshiftRight (i * 8)).setWidth 8

def encodeInt (h : Host) (num : BitVec 32) : Str :=
  if h.isLittleEndian then
    (List.range INT_SIZE).map fun (i : Nat) =>
      (num.sshiftRight (((i : Int) - ((INT_SIZE : Int) - 1)) * -8).toNat).setWidth 8
  else
    (List.range INT_SIZE).map fun i => (num.sshiftRight (i * 8)).setWidth 8

def encodeString (h : Host) (str : Str) : Str :=
  encodeInt h (BitVec.ofNat 32 str.length) ++ str

def orLoop (w : Nat) (buf : Buffer) (pos : Nat) (shift : Nat → Int) (order : List Nat) :
    EStateM Fault Nat (BitVec w) :=
  gather .outOfBounds buf pos (fun n i b => n ||| b.setWidth w <<< (shift i).toNat) order 0#w

def decodeLong (h : Host) (buf : Buffer) (len : Nat) : EStateM Fault Nat (BitVec 64) := do
  let pos ← get
  if (LONG_SIZE : Int) > (len : Int) - pos then throw (.spchat TOO_SHORT_EXCEPTION) else
  let n ←
    if !h.isLittleEndian then
      orLoop 64 buf pos (fun i => ((i : Int) - ((LONG_SIZE : Int) - 1)) * -8)
        (List.range LONG_SIZE).reverse
    else
      orLoop 64 buf pos (fun i => -8 * ((i : Int) - ((LONG_SIZE : Int) - 1))) (List.range LONG_SIZE)
  set (pos + LONG_SIZE)
  pure n

def decodeInt (h : Host) (buf : Buffer) (len : Nat) : EStateM Fault Nat (BitVec 32) := do
  let pos ← get
  if (INT_SIZE : Int) > (len : Int) - pos then throw (.spchat TOO_SHORT_EXCEPTION) else
  let n ←
    if !h.isLittleEndian then
      orLoop 32 buf pos (fun i => ((i : Int) - ((INT_SIZE : Int) - 1)) * -8)
        (List.range INT_SIZE).reverse
    else
      orLoop 32 buf pos (fun i => 8 * (((INT_SIZE : Int) - 1) - i)) (List.range INT_SIZE)
  set (pos + INT_SIZE)
  pure n

def decodePositiveInt (h : Host) (buf : Buffer) (len : Nat) : EStateM Fault Nat (BitVec 32) := do
  let i ← decodeInt h buf len
  if i.toInt < 0 then throw (.spchat NEGATIVE_NUM_EXCEPTION) else
  pure i

def decodeString (h : Host) (buf : Buffer) (len : Nat) : EStateM Fault Nat Str := do
  let strLen ← decodePositiveInt h buf len
  let pos ← get
  if (len : Int) - pos < strLen.toInt then throw (.spchat TOO_SHORT_EXCEPTION) else
  copy .outOfBounds buf strLen.toNat

def isalnum (c : Byte) : Bool :=
  (48 ≤ c.toNat && c.toNat ≤ 57) || (65 ≤ c.toNat && c.toNat ≤ 90) ||
    (97 ≤ c.toNat && c.toNat ≤ 122)

def validUsername (str : Str) : Bool :=
  str.all fun c => !(!isalnum c && c != chr '@' && c != chr '-' && c != chr '.' && c != chr '_')

def validPositiveNum {w : Nat} (num : BitVec w) : Bool := decide (num.toInt ≥ 0)

theorem encodeLong_little (num : BitVec 64) :
    encodeLong littleEndianHost num = BigEndian.encode 64 8 num := rfl

theorem encodeInt_little (num : BitVec 32) :
    encodeInt littleEndianHost num = BigEndian.encode 32 4 num := rfl

@[simp] theorem encodeLong_length (h : Host) (num : BitVec 64) :
    (encodeLong h num).length = 8 := by
  unfold encodeLong
  split <;> simp [LONG_SIZE]

@[simp] theorem encodeInt_length (h : Host) (num : BitVec 32) :
    (encodeInt h num).length = 4 := by
  unfold encodeInt
  split <;> simp [INT_SIZE]

@[simp] theorem encodeString_length (h : Host) (str : Str) :
    (encodeString h str).length = 4 + str.length := by
  simp [encodeString]

theorem orLoop_spans {w k : Nat} {buf : Buffer} {len pos : Nat} {bs : Str} {shift : Nat → Int}
    {order : List Nat} (ho : order = List.range k ∨ order = (List.range k).reverse)
    (hs : Spans buf len pos bs) (hk : bs.length = k)
    (hshift : ∀ i < k, (shift i).toNat = 8 * (k - 1 - i)) (s : Nat) :
    (orLoop w buf pos shift order).run s = .ok (BigEndian.decode w k fun i => bs.getD i 0#8) s := by
  have hmem : ∀ i ∈ order, i < k := by
    rcases ho with rfl | rfl <;> simp
  have hread : ∀ i ∈ order, buf (pos + i) = some (bs.getD i 0#8) := by
    intro i hi
    have hik : i < bs.length := by rw [hk]; exact hmem i hi
    rw [hs.2 i hik, List.getD_eq_getElem?_getD, List.getElem?_eq_getElem hik, Option.getD_some]
  have hfold : order.foldl (fun n i => n ||| (bs.getD i 0#8).setWidth w <<< (shift i).toNat) 0#w =
      order.foldl (fun n i => n ||| (bs.getD i 0#8).setWidth w <<< (8 * (k - 1 - i))) 0#w := by
    apply List.foldl_ext
    intro n i hi
    rw [hshift i (hmem i hi)]
  rw [orLoop, gather_ok hread, hfold]
  rcases ho with rfl | rfl
  · rfl
  · rw [BigEndian.decode_reverse]

theorem decodeLong_bytes (h : Host) {buf : Buffer} {len pos : Nat} {bs : Str}
    (hs : Spans buf len pos bs) (hl : bs.length = 8) :
    (decodeLong h buf len).run pos =
      .ok (BigEndian.decode 64 8 fun i => bs.getD i 0#8) (pos + 8) := by
  have hroom := hs.1
  unfold decodeLong
  rw [bind_ok (run_get pos), LONG_SIZE, if_neg (by omega)]
  split
  · rw [bind_ok (orLoop_spans (.inr rfl) hs hl (by decide) pos), bind_ok (run_set pos _), run_pure]
  · rw [bind_ok (orLoop_spans (.inl rfl) hs hl (by decide) pos), bind_ok (run_set pos _), run_pure]

theorem decodeInt_bytes (h : Host) {buf : Buffer} {len pos : Nat} {bs : Str}
    (hs : Spans buf len pos bs) (hl : bs.length = 4) :
    (decodeInt h buf len).run pos =
      .ok (BigEndian.decode 32 4 fun i => bs.getD i 0#8) (pos + 4) := by
  have hroom := hs.1
  unfold decodeInt
  rw [bind_ok (run_get pos), INT_SIZE, if_neg (by omega)]
  split
  · rw [bind_ok (orLoop_spans (.inr rfl) hs hl (by decide) pos), bind_ok (run_set pos _), run_pure]
  · rw [bind_ok (orLoop_spans (.inl rfl) hs hl (by decide) pos), bind_ok (run_set pos _), run_pure]

theorem decodeLong_spans (h : Host) {buf : Buffer} {len pos : Nat} {n : BitVec 64}
    (hs : Spans buf len pos (encodeLong littleEndianHost n)) :
    (decodeLong h buf len).run pos = .ok n (pos + 8) := by
  rw [decodeLong_bytes _ hs (encodeLong_length _ n), encodeLong_little,
    BigEndian.decode_encode (show 64 = 8 * 8 from rfl)]

theorem decodeInt_spans (h : Host) {buf : Buffer} {len pos : Nat} {n : BitVec 32}
    (hs : Spans buf len pos (encodeInt littleEndianHost n)) :
    (decodeInt h buf len).run pos = .ok n (pos + 4) := by
  rw [decodeInt_bytes _ hs (encodeInt_length _ n), encodeInt_little,
    BigEndian.decode_encode (show 32 = 8 * 4 from rfl)]

theorem decodePositiveInt_spans (h : Host) {buf : Buffer} {len pos : Nat} {n : BitVec 32}
    (hn : 0 ≤ n.toInt) (hs : Spans buf len pos (encodeInt littleEndianHost n)) :
    (decodePositiveInt h buf len).run pos = .ok n (pos + 4) := by
  unfold decodePositiveInt
  rw [bind_ok (decodeInt_spans h hs), if_neg (by omega), run_pure]

theorem decodeString_sized (h : Host) {buf : Buffer} {len pos : Nat} {str : Str}
    (hstr : str.length < 2 ^ 31) (hs : Spans buf len pos (encodeString littleEndianHost str)) :
    (decodeString h buf len).run pos = .ok str (pos + (4 + str.length)) := by
  have hroom := hs.1
  rw [encodeString_length] at hroom
  obtain ⟨hint, htext⟩ := spans_append.mp hs
  rw [encodeInt_length] at htext
  have hsmall : (BitVec.ofNat 32 str.length).toInt = str.length := toInt_ofNat_small hstr
  have hcount : (BitVec.ofNat 32 str.length).toNat = str.length := by
    rw [BitVec.toNat_ofNat]
    omega
  unfold decodeString
  rw [bind_ok (decodePositiveInt_spans h (by omega) hint), bind_ok (run_get _), if_neg (by omega),
    hcount, copy_spans htext]
  congr 1
  omega

theorem decodeString_spans (h : Host) {buf : Buffer} {len pos : Nat} {str : Str} (hlen : len < 2 ^ 31)
    (hs : Spans buf len pos (encodeString littleEndianHost str)) :
    (decodeString h buf len).run pos = .ok str (pos + (4 + str.length)) := by
  have hroom := hs.1
  rw [encodeString_length] at hroom
  exact decodeString_sized h (by omega) hs

theorem orLoop_reads {w k : Nat} {buf : Buffer} {pos : Nat} {shift : Nat → Int} {order : List Nat}
    (ho : order = List.range k ∨ order = (List.range k).reverse) {r : BitVec w} {s s' : Nat}
    (h : (orLoop w buf pos shift order).run s = .ok r s') :
    ∃ bs, bs.length = k ∧ Spans buf (pos + k) pos bs := by
  apply spans_exists
  intro i hi
  apply gather_reads h
  rcases ho with rfl | rfl <;> simpa using hi

theorem decodeLong_eq_ok {h : Host} {buf : Buffer} {len pos pos' : Nat} {n : BitVec 64}
    (hok : (decodeLong h buf len).run pos = .ok n pos') :
    Spans buf len pos (encodeLong littleEndianHost n) ∧ pos' = pos + 8 := by
  obtain ⟨bs, hl, hs⟩ : ∃ bs, bs.length = 8 ∧ Spans buf len pos bs := by
    unfold decodeLong at hok
    rw [bind_ok (run_get pos), LONG_SIZE] at hok
    split at hok
    · cases hok
    · have hloop : ∃ bs, bs.length = 8 ∧ Spans buf (pos + 8) pos bs := by
        split at hok
        · obtain ⟨r, s, hr, _⟩ := bind_eq_ok.mp hok
          exact orLoop_reads (.inr rfl) hr
        · obtain ⟨r, s, hr, _⟩ := bind_eq_ok.mp hok
          exact orLoop_reads (.inl rfl) hr
      obtain ⟨bs, hl, hs⟩ := hloop
      exact ⟨bs, hl, spans_mono hs (by omega)⟩
  rw [decodeLong_bytes h hs hl] at hok
  cases hok
  rw [encodeLong_little, BigEndian.encode_decode (show 64 = 8 * 8 from rfl) _ hl]
  exact ⟨hs, rfl⟩

theorem decodeInt_eq_ok {h : Host} {buf : Buffer} {len pos pos' : Nat} {n : BitVec 32}
    (hok : (decodeInt h buf len).run pos = .ok n pos') :
    Spans buf len pos (encodeInt littleEndianHost n) ∧ pos' = pos + 4 := by
  obtain ⟨bs, hl, hs⟩ : ∃ bs, bs.length = 4 ∧ Spans buf len pos bs := by
    unfold decodeInt at hok
    rw [bind_ok (run_get pos), INT_SIZE] at hok
    split at hok
    · cases hok
    · have hloop : ∃ bs, bs.length = 4 ∧ Spans buf (pos + 4) pos bs := by
        split at hok
        · obtain ⟨r, s, hr, _⟩ := bind_eq_ok.mp hok
          exact orLoop_reads (.inr rfl) hr
        · obtain ⟨r, s, hr, _⟩ := bind_eq_ok.mp hok
          exact orLoop_reads (.inl rfl) hr
      obtain ⟨bs, hl, hs⟩ := hloop
      exact ⟨bs, hl, spans_mono hs (by omega)⟩
  rw [decodeInt_bytes h hs hl] at hok
  cases hok
  rw [encodeInt_little, BigEndian.encode_decode (show 32 = 8 * 4 from rfl) _ hl]
  exact ⟨hs, rfl⟩

theorem decodePositiveInt_eq_ok {h : Host} {buf : Buffer} {len pos pos' : Nat} {n : BitVec 32}
    (hok : (decodePositiveInt h buf len).run pos = .ok n pos') :
    0 ≤ n.toInt ∧ Spans buf len pos (encodeInt littleEndianHost n) ∧ pos' = pos + 4 := by
  obtain ⟨i, s, hint, hok⟩ := bind_eq_ok.mp hok
  obtain ⟨hsign, hok⟩ := throwIf_eq_ok.mp hok
  cases hok
  exact ⟨not_lt.mp hsign, decodeInt_eq_ok hint⟩

theorem decodeString_inv {h : Host} {buf : Buffer} {len pos pos' : Nat} {str : Str}
    (hok : (decodeString h buf len).run pos = .ok str pos') :
    str.length < 2 ^ 31 ∧ Spans buf len pos (encodeString littleEndianHost str) ∧
      pos' = pos + (4 + str.length) := by
  obtain ⟨strLen, s, hpos, hok⟩ := bind_eq_ok.mp hok
  obtain ⟨hsign, hspan, rfl⟩ := decodePositiveInt_eq_ok hpos
  rw [bind_ok (run_get _)] at hok
  obtain ⟨hroom, hok⟩ := throwIf_eq_ok.mp hok
  obtain ⟨hl, htext, rfl⟩ := copy_eq_ok hok
  have hcount : strLen.toInt = strLen.toNat := by
    rw [BitVec.toInt_eq_toNat_of_msb]
    rw [BitVec.msb_eq_toInt]
    simpa using hsign
  have hsmall : strLen.toInt < 2 ^ 31 := BitVec.toInt_lt
  have hn : BitVec.ofNat 32 str.length = strLen := by
    rw [hl, BitVec.ofNat_toNat, BitVec.setWidth_eq]
  refine ⟨by omega, spans_append.mpr ⟨hn ▸ hspan, ?_⟩, by omega⟩
  rw [encodeInt_length]
  exact spans_mono htext (by omega)

theorem decodeString_eq_ok {h : Host} {buf : Buffer} {len pos pos' : Nat} {str : Str}
    (hok : (decodeString h buf len).run pos = .ok str pos') :
    Spans buf len pos (encodeString littleEndianHost str) ∧ pos' = pos + (4 + str.length) :=
  (decodeString_inv hok).2

theorem decodeInt_short (h : Host) {buf : Buffer} {len pos : Nat} (hs : len < pos + 4) :
    (decodeInt h buf len).run pos = .error (.spchat TOO_SHORT_EXCEPTION) pos := by
  unfold decodeInt
  rw [bind_ok (run_get pos), if_pos (by unfold INT_SIZE; omega), run_throw]

theorem decodeString_short (h : Host) {buf : Buffer} {len pos : Nat} (hs : len < pos + 4) :
    (decodeString h buf len).run pos = .error (.spchat TOO_SHORT_EXCEPTION) pos := by
  unfold decodeString decodePositiveInt
  rw [bind_error (bind_error (decodeInt_short h hs))]

end Server
