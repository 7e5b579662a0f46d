import BabbleOn.Server.SPChatMessage

namespace Server
open Execution PartialMemory

structure SPChatChallenge where
  challenge : Str
  deriving DecidableEq, Repr

namespace SPChatChallenge

def SPCHATCHALLENGE_TYPE : Byte := 1#8
def CHALLENGE_LENGTH : Nat := 8

def fresh : SPChatChallenge := ⟨[]⟩

def setChallenge : Str → EStateM Fault SPChatChallenge Unit :=
  setIf (fun challenge => challenge.length == CHALLENGE_LENGTH) (.spchat BAD_CHALLENGE_EXCEPTION)
    fun challenge m => { m with challenge := challenge }

def new (challenge : Str) : Except Fault SPChatChallenge := construct fresh (setChallenge challenge)

def ofBuffer (buf : Buffer) (len : Nat) : Except Fault SPChatChallenge :=
  construct fresh do
    if (len : Int) - PAYLOAD_POSITION < CHALLENGE_LENGTH then
      throw (.spchat BAD_CHALLENGE_EXCEPTION)
    else do
      let bytes ← slice .outOfBounds buf PAYLOAD_POSITION CHALLENGE_LENGTH
      modify fun m => { m with challenge := m.challenge ++ bytes }

def encodeMiddle (m : SPChatChallenge) : Str := m.challenge

def getPayloadLength (_ : SPChatChallenge) : Nat := CHALLENGE_LENGTH

def WellFormed (m : SPChatChallenge) : Prop := m.challenge.length = CHALLENGE_LENGTH

theorem new_wellFormed {challenge : Str} {m : SPChatChallenge} (h : new challenge = .ok m) :
    m.challenge = challenge ∧ WellFormed m := by
  obtain ⟨hl, rfl⟩ := setIf_eq_ok.mp (construct_eq_ok.mp h)
  exact ⟨rfl, beq_iff_eq.mp hl⟩

theorem new_ok {challenge : Str} (hl : challenge.length = CHALLENGE_LENGTH) :
    new challenge = .ok ⟨challenge⟩ :=
  construct_eq_ok.mpr (setIf_eq_ok.mpr ⟨beq_iff_eq.mpr hl, rfl⟩)

theorem ofBuffer_encodeMiddle {buf : Buffer} {len : Nat} {m : SPChatChallenge} (hm : WellFormed m)
    (hs : Spans buf len 0 (encodeMiddle m)) : ofBuffer buf len = .ok m := by
  have hl : (encodeMiddle m).length = CHALLENGE_LENGTH := hm
  have hroom := hs.1
  apply construct_eq_ok.mpr
  rw [PAYLOAD_POSITION, if_neg (by omega), ← hl, bind_ok (slice_spans _ hs _), run_modify]
  rfl

theorem ofBuffer_eq_ok {buf : Buffer} {len : Nat} {m : SPChatChallenge}
    (hok : ofBuffer buf len = .ok m) : WellFormed m ∧ Spans buf len 0 (encodeMiddle m) := by
  have hrun := construct_eq_ok.mp hok
  split at hrun
  · cases hrun
  · obtain ⟨bytes, s, hread, hrun⟩ := bind_eq_ok.mp hrun
    obtain ⟨hl, hs, rfl⟩ := slice_eq_ok hread
    cases hrun
    have hspan : Spans buf len 0 bytes := spans_mono hs (by omega)
    exact ⟨hl, hspan⟩

end SPChatChallenge

inductive SenderType where
  | SERVER
  | CLIENT
  deriving DecidableEq, Repr

def SenderType.code : SenderType → Nat
  | SERVER => 0
  | CLIENT => 1

inductive ErrorType where
  | SUCCESS
  | INVALID_MSG_TYPE
  | INVALID_USERNAME_PASSWORD
  | FORMATTING_ERROR
  | DEFAULT_ERROR
  | PASSWORD_AUTH
  deriving DecidableEq, Repr

def ErrorType.code : ErrorType → Nat
  | SUCCESS => 0
  | INVALID_MSG_TYPE => 1
  | INVALID_USERNAME_PASSWORD => 2
  | FORMATTING_ERROR => 3
  | DEFAULT_ERROR => 4
  | PASSWORD_AUTH => 5

structure SPChatACK where
  sender : SenderType
  error : ErrorType
  deriving DecidableEq, Repr

namespace SPChatACK

def SPCHATACK_TYPE : Byte := 3#8

def fresh : SPChatACK := ⟨.SERVER, .SUCCESS⟩

def setError (error : Nat) : EStateM Fault SPChatACK Unit :=
  match error with
  | 0 => modify fun m => { m with error := .SUCCESS }
  | 1 => modify fun m => { m with error := .INVALID_MSG_TYPE }
  | 2 => modify fun m => { m with error := .INVALID_USERNAME_PASSWORD }
  | 3 => modify fun m => { m with error := .FORMATTING_ERROR }
  | 4 => modify fun m => { m with error := .DEFAULT_ERROR }
  | 5 => modify fun m => { m with error := .PASSWORD_AUTH }
  | _ => throw (.spchat INVALID_ERROR_EXCEPTION)

def setSender (sender : Nat) : EStateM Fault SPChatACK Unit :=
  match sender with
  | 0 => modify fun m => { m with sender := .SERVER }
  | 1 => modify fun m => { m with sender := .CLIENT }
  | _ => throw (.spchat INVALID_SENDER_EXCEPTION)

def new (error : ErrorType) (sender : SenderType) : Except Fault SPChatACK :=
  construct fresh do
    setError error.code
    setSender sender.code

-- the length is never looked at: an empty payload makes this read outside of it
def ofBuffer (buf : Buffer) (_len : Nat) : Except Fault SPChatACK :=
  construct fresh do
    let low ← fetch .outOfBounds buf PAYLOAD_POSITION
    setSender (low.toNat % 2)
    let high ← fetch .outOfBounds buf PAYLOAD_POSITION
    setError (high >>> 1).toNat

def encodeMiddle (m : SPChatACK) : Str :=
  [BitVec.ofNat 8 (m.error.code <<< 1 ||| m.sender.code)]

def getPayloadLength (_ : SPChatACK) : Nat := BYTE_SIZE

theorem setError_code (error : ErrorType) (m : SPChatACK) :
    (setError error.code).run m = .ok () { m with error := error } := by
  cases error <;> rfl

theorem setSender_code (sender : SenderType) (m : SPChatACK) :
    (setSender sender.code).run m = .ok () { m with sender := sender } := by
  cases sender <;> rfl

theorem new_ok (error : ErrorType) (sender : SenderType) :
    new error sender = .ok ⟨sender, error⟩ := by
  apply construct_eq_ok.mpr
  rw [bind_ok (setError_code error _), setSender_code]

theorem encoded_bits (m : SPChatACK) :
    (BitVec.ofNat 8 (m.error.code <<< 1 ||| m.sender.code)).toNat % 2 = m.sender.code ∧
      (BitVec.ofNat 8 (m.error.code <<< 1 ||| m.sender.code) >>> 1).toNat = m.error.code := by
  obtain ⟨sender, error⟩ := m
  cases sender <;> cases error <;> decide

theorem ofBuffer_encodeMiddle {buf : Buffer} {len : Nat} (m : SPChatACK)
    (hs : Spans buf len 0 (encodeMiddle m)) : ofBuffer buf len = .ok m := by
  have hread := spans_head hs
  obtain ⟨hlow, hhigh⟩ := encoded_bits m
  apply construct_eq_ok.mpr
  rw [PAYLOAD_POSITION, bind_ok (fetch_ok hread _), hlow, bind_ok (setSender_code _ _),
    bind_ok (fetch_ok hread _), hhigh, setError_code]

theorem setSender_eq_ok {sender : Nat} {m m' : SPChatACK}
    (h : (setSender sender).run m = .ok () m') :
    sender = m'.sender.code ∧ m'.error = m.error := by
  unfold setSender at h
  split at h <;> cases h <;> exact ⟨rfl, rfl⟩

theorem setError_eq_ok {error : Nat} {m m' : SPChatACK} (h : (setError error).run m = .ok () m') :
    error = m'.error.code ∧ m'.sender = m.sender := by
  unfold setError at h
  split at h <;> cases h <;> exact ⟨rfl, rfl⟩

theorem packed_bits (b : Byte) : (b.toNat / 2) <<< 1 ||| b.toNat % 2 = b.toNat := by
  rw [← Nat.shiftLeft_add_eq_or_of_lt (Nat.mod_lt _ (by decide)), Nat.shiftLeft_eq]
  omega

theorem ofBuffer_eq_ok {buf : Buffer} {len : Nat} {m : SPChatACK} (hok : ofBuffer buf len = .ok m) :
    ∃ b, buf 0 = some b ∧ encodeMiddle m = [b] := by
  have hrun := construct_eq_ok.mp hok
  obtain ⟨b, s, hread, hrun⟩ := bind_eq_ok.mp hrun
  obtain ⟨hb, rfl⟩ := fetch_eq_ok hread
  obtain ⟨_, m₁, hsender, hrun⟩ := bind_eq_ok.mp hrun
  rw [bind_ok (fetch_ok hb _)] at hrun
  obtain ⟨hlow, _⟩ := setSender_eq_ok hsender
  obtain ⟨hhigh, hkept⟩ := setError_eq_ok hrun
  refine ⟨b, hb, ?_⟩
  rw [BitVec.toNat_ushiftRight, Nat.shiftRight_one] at hhigh
  rw [encodeMiddle, hkept, ← hlow, ← hhigh, packed_bits, BitVec.ofNat_toNat, BitVec.setWidth_eq]

end SPChatACK

structure SPChatResponse where
  hash : Str
  username : Str
  nonce : Str
  deriving DecidableEq, Repr

namespace SPChatResponse

def SPCHATRESPONSE_TYPE : Byte := 2#8

def fresh : SPChatResponse := ⟨[], [], []⟩

def setHash (hash : Str) : EStateM Fault SPChatResponse Unit :=
  modify fun m => { m with hash := hash }

def setUsername : Str → EStateM Fault SPChatResponse Unit :=
  setIf validUsername (.spchat BAD_USERNAME_EXCEPTION) fun username m =>
    { m with username := username }

def setNonce (nonce : Str) : EStateM Fault SPChatResponse Unit :=
  modify fun m => { m with nonce := nonce }

def decodeNonce (buf : Buffer) (len : Nat) : EStateM Fault Nat Str := do
  let pos ← get
  if (len : Int) - pos ≥ LONG_SIZE then copy .outOfBounds buf LONG_SIZE
  else pure []

def new (hash username nonce : Str) : Except Fault SPChatResponse :=
  construct fresh do
    setHash hash
    setUsername username
    setNonce nonce

def ofBuffer (h : Host) (buf : Buffer) (len : Nat) : Except Fault SPChatResponse :=
  Prod.fst <| constructAt fresh PAYLOAD_POSITION do
    field (decodeString h buf len) setUsername
    field (decodeString h buf len) setHash
    field (decodeNonce buf len) setNonce

def encodeMiddle (h : Host) (m : SPChatResponse) : Str :=
  encodeString h m.username ++ encodeString h m.hash ++ m.nonce

def getPayloadLength (m : SPChatResponse) : Nat :=
  INT_SIZE + m.username.length + INT_SIZE + m.hash.length + LONG_SIZE

structure WellFormed (m : SPChatResponse) : Prop where
  username : validUsername m.username = true
  nonce : m.nonce.length = LONG_SIZE

theorem setUsername_ok {username : Str} (hu : validUsername username = true) (m : SPChatResponse) :
    (setUsername username).run m = .ok () { m with username := username } :=
  setIf_ok hu m

theorem new_eq_ok {hash username nonce : Str} {m : SPChatResponse} :
    new hash username nonce = .ok m ↔ validUsername username = true ∧ m = ⟨hash, username, nonce⟩ := by
  rw [new, construct_eq_ok]
  constructor
  · intro h
    obtain ⟨_, s, hh, h⟩ := bind_eq_ok.mp h
    cases hh
    obtain ⟨_, s, hu, h⟩ := bind_eq_ok.mp h
    obtain ⟨hvalid, rfl⟩ := setIf_eq_ok.mp hu
    cases h
    exact ⟨hvalid, rfl⟩
  · rintro ⟨hu, rfl⟩
    rw [setHash, bind_ok (run_modify _ _), bind_ok (setUsername_ok hu _), setNonce, run_modify]

theorem decodeNonce_spans {buf : Buffer} {len pos : Nat} {nonce : Str}
    (hl : nonce.length = LONG_SIZE) (hs : Spans buf len pos nonce) :
    (decodeNonce buf len).run pos = .ok nonce (pos + LONG_SIZE) := by
  have hroom := hs.1
  unfold decodeNonce
  rw [bind_ok (run_get pos), if_pos (by omega), ← hl, copy_spans hs]

theorem ofBuffer_encodeMiddle {h : Host} {buf : Buffer} {len : Nat} {m : SPChatResponse} (hm : WellFormed m)
    (hlen : len < 2 ^ 31) (hs : Spans buf len 0 (encodeMiddle littleEndianHost m)) :
    ofBuffer h buf len = .ok m := by
  obtain ⟨hstrings, hnonce⟩ := spans_append.mp hs
  obtain ⟨hname, hhash⟩ := spans_append.mp hstrings
  have hname := decodeString_spans h hlen hname
  have hhash := decodeString_spans h hlen hhash
  have hnonce := decodeNonce_spans hm.nonce hnonce
  simp only [Nat.zero_add, List.length_append, encodeString_length] at hname hhash hnonce
  rw [← Nat.add_assoc] at hhash
  rw [← Nat.add_assoc] at hnonce
  apply constructAt_fst
  rw [PAYLOAD_POSITION, bind_ok (field_ok hname (setUsername_ok hm.username _)),
    bind_ok (field_ok hhash (run_modify _ _))]
  exact field_ok hnonce (run_modify _ _)

theorem encodeMiddle_length (h : Host) {m : SPChatResponse} (hn : m.nonce.length = LONG_SIZE) :
    (encodeMiddle h m).length = getPayloadLength m := by
  simp only [encodeMiddle, getPayloadLength, List.length_append, encodeString_length, hn, INT_SIZE]
  omega

theorem encodeMiddle_length_iff (h : Host) (m : SPChatResponse) :
    (encodeMiddle h m).length = getPayloadLength m ↔ m.nonce.length = LONG_SIZE := by
  refine ⟨fun hl => ?_, encodeMiddle_length h⟩
  simp only [encodeMiddle, getPayloadLength, List.length_append, encodeString_length, INT_SIZE] at hl
  omega

def strings (h : Host) (m : SPChatResponse) : Str :=
  encodeString h m.username ++ encodeString h m.hash

theorem decodeNonce_eq_ok {buf : Buffer} {len pos pos' : Nat} {nonce : Str}
    (h : (decodeNonce buf len).run pos = .ok nonce pos') :
    (nonce.length = LONG_SIZE ∧ Spans buf len pos nonce) ∨ nonce = [] ∧ len < pos + LONG_SIZE := by
  unfold decodeNonce at h
  rw [bind_ok (run_get pos)] at h
  split at h
  · obtain ⟨hl, hs, rfl⟩ := copy_eq_ok h
    exact .inl ⟨hl, spans_mono hs (by omega)⟩
  · cases h
    exact .inr ⟨rfl, by omega⟩

theorem ofBuffer_eq_ok {h : Host} {buf : Buffer} {len : Nat} {m : SPChatResponse}
    (hok : ofBuffer h buf len = .ok m) :
    validUsername m.username = true ∧ Spans buf len 0 (strings littleEndianHost m) ∧
      ((m.nonce.length = LONG_SIZE ∧ Spans buf len (strings littleEndianHost m).length m.nonce) ∨
        m.nonce = [] ∧ len < (strings littleEndianHost m).length + LONG_SIZE) := by
  obtain ⟨p, hrun⟩ := constructAt_fst_eq_ok.mp hok
  obtain ⟨_, ⟨t, pos⟩, hname, hrun⟩ := bind_eq_ok.mp hrun
  obtain ⟨username, hread, hset⟩ := field_eq_ok.mp hname
  obtain ⟨hu, rfl⟩ := setIf_eq_ok.mp hset
  obtain ⟨huser, rfl⟩ := decodeString_eq_ok hread
  obtain ⟨_, ⟨t, pos⟩, hnext, hrun⟩ := bind_eq_ok.mp hrun
  obtain ⟨hash, hread, hset⟩ := field_eq_ok.mp hnext
  cases hset
  obtain ⟨hhash, rfl⟩ := decodeString_eq_ok hread
  obtain ⟨nonce, hread, hset⟩ := field_eq_ok.mp hrun
  cases hset
  have hnonce := decodeNonce_eq_ok hread
  rw [PAYLOAD_POSITION, Nat.zero_add] at hhash hnonce
  refine ⟨hu, spans_append.mpr ⟨huser, by simpa using hhash⟩, ?_⟩
  rwa [strings, List.length_append, encodeString_length, encodeString_length]

end SPChatResponse

end Server
