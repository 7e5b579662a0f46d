import BabbleOn.Server.SPChatMessage

namespace Server
open Execution PartialMemory

structure SPChatLogin where
  username : Str
  keyType : Byte
  key : Str
  encSymKey : Str
  deriving DecidableEq, Repr

namespace SPChatLogin

def SPCHATLOGIN_TYPE : Byte := 0#8
def NO_KEY : Byte := 0#8
def ASYMMETRIC_KEY : Byte := 1#8
def ENCRYPTED_SYM_KEY : Byte := 2#8
def ASYMMETRIC_LENGTH : Nat := 271
def ENCRYPTED_SYM_LENGTH : Nat := 128
def ASYMMETRIC_HEADER : Str := ascii "-----BEGIN PUBLIC KEY-----\n"
def ASYMMETRIC_FOOTER : Str := ascii "-----END PUBLIC KEY-----\n"
def ENDLINE : Byte := chr '\n'
def ASYMMETRIC_ENDLINE_POS : List Nat := [91, 156, 221, 246]

def fresh : SPChatLogin := ⟨[], 0#8, [], []⟩

def setUsername : Str → EStateM Fault SPChatLogin Unit :=
  setIf validUsername (.spchat BAD_USERNAME_EXCEPTION) fun username m =>
    { m with username := username }

def mismatch (pattern newKey : Str) (n pos : Nat) : Bool :=
  (List.range n).any fun i => pattern.getD i 0#8 != newKey.getD (pos + i) 0#8

def footerPos : Nat := ASYMMETRIC_LENGTH - ASYMMETRIC_FOOTER.length + 1

def endlineMismatch (newKey : Str) : Bool :=
  (List.range 4).any fun i => ENDLINE != newKey.getD (ASYMMETRIC_ENDLINE_POS.getD i 0) 0#8

def setAsymmetricKey (newKey : Str) : EStateM Fault SPChatLogin Unit := do
  modify fun m => { m with keyType := ASYMMETRIC_KEY }
  if mismatch ASYMMETRIC_HEADER newKey ASYMMETRIC_HEADER.length 0 then
    throw (.spchat ASYMMETRIC_KEY_EXCEPTION)
  else if mismatch ASYMMETRIC_FOOTER newKey (ASYMMETRIC_FOOTER.length - 1) footerPos then
    throw (.spchat ASYMMETRIC_KEY_EXCEPTION)
  else if endlineMismatch newKey then
    throw (.spchat ASYMMETRIC_KEY_EXCEPTION)
  else
    modify fun m => { m with key := newKey }

def keyBytes {σ : Type} (newKey : Str) (keyLen : BitVec 32) : EStateM Fault σ Str :=
  if keyLen.toInt < 0 then throw .lengthError
  else slice .outOfBounds (ofList newKey) 0 keyLen.toNat

def setKey (keyType : Byte) (newKey : Str) (keyLen : BitVec 32) :
    EStateM Fault SPChatLogin Unit := do
  modify fun m => { m with key := [], encSymKey := [] }
  if keyType = NO_KEY then
    modify fun m => { m with keyType := NO_KEY }
  else if keyType = ASYMMETRIC_KEY ∧ keyLen.toInt = ASYMMETRIC_LENGTH then do
    setAsymmetricKey (← keyBytes newKey keyLen)
    modify fun m => { m with keyType := keyType }
  else if keyType = ENCRYPTED_SYM_KEY ∧ keyLen.toInt = ENCRYPTED_SYM_LENGTH then do
    modify fun m => { m with keyType := keyType }
    let bytes ← keyBytes newKey keyLen
    modify fun m => { m with encSymKey := m.encSymKey ++ bytes }
  else
    throw (.spchat BAD_KEY_EXCEPTION)

def setKeyAt (keyType : Byte) (newKey : Buffer) (keyLen pos : Nat) :
    EStateM Fault SPChatLogin Unit := do
  modify fun m => { m with key := [], encSymKey := [] }
  if keyType = ENCRYPTED_SYM_KEY ∧ (keyLen : Int) - pos = ENCRYPTED_SYM_LENGTH then do
    modify fun m => { m with keyType := keyType }
    let bytes ← slice .outOfBounds newKey pos (keyLen - pos)
    modify fun m => { m with encSymKey := m.encSymKey ++ bytes }
  else
    throw (.spchat BAD_KEY_EXCEPTION)

def bufferToString {σ : Type} (buf : Buffer) (bufLen pos cpyLen : Nat) : EStateM Fault σ Str :=
  if (bufLen : Int) - pos < cpyLen then throw (.str TOO_SHORT_EXCEPTION)
  else slice .outOfBounds buf pos cpyLen

def decodeKey (buf : Buffer) (len : Nat) : EStateM Fault (Building SPChatLogin) Unit := do
  let b ← get
  if (len : Int) - b.pos < BYTE_SIZE then throw (.spchat TOO_SHORT_EXCEPTION) else
  let keyType ← fetch .outOfBounds buf b.pos
  let pos := b.pos + 1
  set { b with pos := pos }
  if keyType = NO_KEY then
    onThis (modify fun m => { m with keyType := NO_KEY })
  else if keyType = ASYMMETRIC_KEY ∧ (len : Int) - pos ≥ ASYMMETRIC_LENGTH then
    onThis (do setAsymmetricKey (← bufferToString buf len pos ASYMMETRIC_LENGTH))
  else if keyType = ENCRYPTED_SYM_KEY ∧ (len : Int) - pos ≥ ENCRYPTED_SYM_LENGTH then do
    onThis (setKeyAt keyType buf len pos)
    modify fun b => { b with pos := b.pos + ENCRYPTED_SYM_LENGTH }
  else
    throw (.spchat BAD_KEY_EXCEPTION)

def new (username : Str) (keyType : Byte) (key : Str) (keyLen : BitVec 32) :
    Except Fault SPChatLogin :=
  construct fresh do
    setUsername username
    -- testString, printed and then dropped
    let _ ← keyBytes key keyLen
    setKey keyType key keyLen

def ofBuffer (h : Host) (buf : Buffer) (len : Nat) : Except Fault SPChatLogin :=
  Prod.fst <| constructAt fresh PAYLOAD_POSITION do
    field (decodeString h buf len) setUsername
    decodeKey buf len

def encodeMiddle (h : Host) (m : SPChatLogin) : Str :=
  encodeString h m.username ++ m.keyType ::
    if m.keyType = ASYMMETRIC_KEY ∨ m.keyType = ENCRYPTED_SYM_KEY then m.key else []

def getPayloadLength (m : SPChatLogin) : Nat :=
  INT_SIZE + m.username.length + BYTE_SIZE +
    if m.keyType = ASYMMETRIC_KEY then ASYMMETRIC_LENGTH
    else if m.keyType = ENCRYPTED_SYM_KEY then ENCRYPTED_SYM_LENGTH
    else 0

def pemLayout (newKey : Str) : Bool :=
  !mismatch ASYMMETRIC_HEADER newKey ASYMMETRIC_HEADER.length 0 &&
    !mismatch ASYMMETRIC_FOOTER newKey (ASYMMETRIC_FOOTER.length - 1) footerPos &&
    !endlineMismatch newKey

inductive WellFormed : SPChatLogin → Prop
  | noKey {username : Str} (hu : validUsername username = true) :
      WellFormed ⟨username, NO_KEY, [], []⟩
  | asymmetric {username key : Str} (hu : validUsername username = true)
      (hl : key.length = ASYMMETRIC_LENGTH) (hp : pemLayout key = true) :
      WellFormed ⟨username, ASYMMETRIC_KEY, key, []⟩
  | symmetric {username encSymKey : Str} (hu : validUsername username = true)
      (hl : encSymKey.length = ENCRYPTED_SYM_LENGTH) :
      WellFormed ⟨username, ENCRYPTED_SYM_KEY, [], encSymKey⟩

def layout (h : Host) (m : SPChatLogin) : Str :=
  encodeString h m.username ++ m.keyType :: (m.key ++ m.encSymKey)

theorem noKey_ne_asymmetric : NO_KEY ≠ ASYMMETRIC_KEY := by decide

theorem noKey_ne_symmetric : NO_KEY ≠ ENCRYPTED_SYM_KEY := by decide

theorem asymmetric_ne_symmetric : ASYMMETRIC_KEY ≠ ENCRYPTED_SYM_KEY := by decide

theorem setUsername_ok {username : Str} (hu : validUsername username = true) (m : SPChatLogin) :
    (setUsername username).run m = .ok () { m with username := username } :=
  setIf_ok hu m

theorem setAsymmetricKey_ok {newKey : Str} (hp : pemLayout newKey = true) (m : SPChatLogin) :
    (setAsymmetricKey newKey).run m =
      .ok () { m with keyType := ASYMMETRIC_KEY, key := newKey } := by
  simp only [pemLayout, Bool.and_eq_true, Bool.not_eq_true'] at hp
  obtain ⟨⟨hh, hf⟩, he⟩ := hp
  simp only [setAsymmetricKey, hh, hf, he, Bool.false_eq_true, if_false]
  rw [bind_ok (run_modify _ _), run_modify]

theorem setAsymmetricKey_eq_ok {newKey : Str} {m m' : SPChatLogin}
    (h : (setAsymmetricKey newKey).run m = .ok () m') :
    pemLayout newKey = true ∧ m' = { m with keyType := ASYMMETRIC_KEY, key := newKey } := by
  have hp : pemLayout newKey = true := by
    unfold setAsymmetricKey at h
    rw [bind_ok (run_modify _ _)] at h
    split_ifs at h with hh hf he
    · cases h
    · cases h
    · cases h
    · simp only [pemLayout, hh, hf, he, Bool.not_false, Bool.and_self]
  rw [setAsymmetricKey_ok hp] at h
  exact ⟨hp, by simpa [eq_comm] using h⟩

theorem decodeKey_noKey {buf : Buffer} {len pos : Nat} {m : SPChatLogin}
    (hs : Spans buf len pos [NO_KEY]) :
    (decodeKey buf len).run ⟨m, pos⟩ = .ok () ⟨{ m with keyType := NO_KEY }, pos + 1⟩ := by
  have hroom := hs.1
  rw [List.length_singleton] at hroom
  unfold decodeKey
  rw [bind_ok (run_get _), if_neg (by simp only [BYTE_SIZE]; omega),
    bind_ok (fetch_ok (spans_head hs) _), bind_ok (run_set _ _), if_pos rfl]
  exact onThis_ok (run_modify _ _)

theorem decodeKey_asymmetric {buf : Buffer} {len pos : Nat} {m : SPChatLogin} {key : Str}
    (hs : Spans buf len pos (ASYMMETRIC_KEY :: key)) (hl : key.length = ASYMMETRIC_LENGTH)
    (hp : pemLayout key = true) :
    (decodeKey buf len).run ⟨m, pos⟩ =
      .ok () ⟨{ m with keyType := ASYMMETRIC_KEY, key := key }, pos + 1⟩ := by
  have hkey := spans_tail hs
  have hroom := hkey.1
  rw [hl] at hroom
  have hread : (bufferToString buf len (pos + 1) ASYMMETRIC_LENGTH).run m = .ok key m := by
    unfold bufferToString
    rw [if_neg (by omega), ← hl]
    exact slice_spans _ hkey m
  unfold decodeKey
  rw [bind_ok (run_get _), if_neg (by simp only [BYTE_SIZE]; omega),
    bind_ok (fetch_ok (spans_head hs) _), bind_ok (run_set _ _), if_neg (by decide),
    if_pos ⟨rfl, by dsimp only; omega⟩]
  apply onThis_ok
  rw [bind_ok hread, setAsymmetricKey_ok hp]

theorem decodeKey_symmetric {buf : Buffer} {len pos : Nat} {m : SPChatLogin} {key : Str}
    (hs : Spans buf len pos (ENCRYPTED_SYM_KEY :: key)) (hl : key.length = ENCRYPTED_SYM_LENGTH)
    (hend : pos + (1 + ENCRYPTED_SYM_LENGTH) = len) :
    (decodeKey buf len).run ⟨m, pos⟩ =
      .ok () ⟨{ m with keyType := ENCRYPTED_SYM_KEY, key := [], encSymKey := key }, len⟩ := by
  have hkey := spans_tail hs
  have hrest : len - (pos + 1) = key.length := by omega
  have hset : (setKeyAt ENCRYPTED_SYM_KEY buf len (pos + 1)).run m =
      .ok () { m with keyType := ENCRYPTED_SYM_KEY, key := [], encSymKey := key } := by
    unfold setKeyAt
    rw [bind_ok (run_modify _ _), if_pos ⟨rfl, by omega⟩, bind_ok (run_modify _ _), hrest,
      bind_ok (slice_spans _ hkey _), run_modify, List.nil_append]
  unfold decodeKey
  rw [bind_ok (run_get _), if_neg (by simp only [BYTE_SIZE]; omega),
    bind_ok (fetch_ok (spans_head hs) _), bind_ok (run_set _ _), if_neg (by decide),
    if_neg (fun hc => absurd hc.1 (by decide)), if_pos ⟨rfl, by dsimp only; omega⟩,
    bind_ok (onThis_ok hset), run_modify, ← hend, Nat.add_assoc]

theorem ofBuffer_layout {h : Host} {buf : Buffer} {len : Nat} {m : SPChatLogin} (hm : WellFormed m)
    (hs : Spans buf len 0 (layout littleEndianHost m)) (hlen : len < 2 ^ 31)
    (hend : (layout littleEndianHost m).length = len) :
    ofBuffer h buf len = .ok m := by
  obtain ⟨hname, hkey⟩ := spans_append.mp hs
  have hread := decodeString_spans h hlen hname
  rw [Nat.zero_add] at hread
  rw [Nat.zero_add, encodeString_length] at hkey
  simp only [layout, List.length_append, List.length_cons, encodeString_length] at hend
  cases hm with
  | noKey hu =>
    apply constructAt_fst
    rw [PAYLOAD_POSITION, bind_ok (field_ok hread (setUsername_ok hu _))]
    exact decodeKey_noKey hkey
  | asymmetric hu hl hp =>
    rw [List.append_nil] at hkey
    apply constructAt_fst
    rw [PAYLOAD_POSITION, bind_ok (field_ok hread (setUsername_ok hu _))]
    exact decodeKey_asymmetric hkey hl hp
  | symmetric hu hl =>
    rw [List.nil_append] at hkey
    simp only [hl, List.length_nil] at hend
    apply constructAt_fst
    rw [PAYLOAD_POSITION, bind_ok (field_ok hread (setUsername_ok hu _))]
    exact decodeKey_symmetric hkey hl (by dsimp only; omega)

theorem bufferToString_eq_ok {σ : Type} {buf : Buffer} {bufLen pos cpyLen : Nat} {bytes : Str}
    {s s' : σ} (h : (bufferToString buf bufLen pos cpyLen).run s = .ok bytes s') :
    bytes.length = cpyLen ∧ Spans buf bufLen pos bytes ∧ s' = s := by
  unfold bufferToString at h
  split at h
  · cases h
  · obtain ⟨hl, hs, rfl⟩ := slice_eq_ok h
    exact ⟨hl, spans_mono hs (by omega), rfl⟩

theorem setKeyAt_eq_ok {keyType : Byte} {buf : Buffer} {len pos : Nat} {m m' : SPChatLogin}
    (h : (setKeyAt keyType buf len pos).run m = .ok () m') :
    ∃ key, key.length = ENCRYPTED_SYM_LENGTH ∧ Spans buf len pos key ∧
      pos + ENCRYPTED_SYM_LENGTH = len ∧
      m' = { m with keyType := keyType, key := [], encSymKey := key } := by
  unfold setKeyAt at h
  rw [bind_ok (run_modify _ _)] at h
  split at h
  · obtain ⟨_, hlen⟩ := ‹keyType = ENCRYPTED_SYM_KEY ∧ _›
    rw [bind_ok (run_modify _ _)] at h
    obtain ⟨key, s, hread, h⟩ := bind_eq_ok.mp h
    obtain ⟨hl, hs, rfl⟩ := slice_eq_ok hread
    rw [run_modify] at h
    cases h
    exact ⟨key, by omega, spans_mono hs (by omega), by omega, rfl⟩
  · cases h

theorem decodeKey_eq_ok {username : Str} (hu : validUsername username = true) {buf : Buffer}
    {len pos pos' : Nat} {m : SPChatLogin}
    (h : (decodeKey buf len).run ⟨{ fresh with username := username }, pos⟩ = .ok () ⟨m, pos'⟩) :
    WellFormed m ∧ m.username = username ∧
      Spans buf len pos (m.keyType :: (m.key ++ m.encSymKey)) ∧
      (m.keyType = ENCRYPTED_SYM_KEY → pos + (1 + ENCRYPTED_SYM_LENGTH) = len) := by
  unfold decodeKey at h
  rw [bind_ok (run_get _)] at h
  split at h
  · cases h
  · have hroom : pos + 1 ≤ len := by
      simp only [BYTE_SIZE] at *
      omega
    obtain ⟨keyType, s, hread, h⟩ := bind_eq_ok.mp h
    obtain ⟨hbyte, rfl⟩ := fetch_eq_ok hread
    rw [bind_ok (run_set _ _)] at h
    have hkeyed : ∀ {key : Str}, Spans buf len (pos + 1) key → Spans buf len pos (keyType :: key) :=
      fun hs => spans_cons hbyte hs
    split_ifs at h with hn ha hs
    · obtain ⟨hset, _⟩ := onThis_eq_ok.mp h
      cases hset
      rw [hn] at hkeyed
      exact ⟨.noKey hu, rfl, hkeyed ⟨hroom, nofun⟩,
        fun hc => absurd hc noKey_ne_symmetric⟩
    · obtain ⟨hset, _⟩ := onThis_eq_ok.mp h
      obtain ⟨key, s, hread, hset⟩ := bind_eq_ok.mp hset
      obtain ⟨hl, hspan, rfl⟩ := bufferToString_eq_ok hread
      obtain ⟨hp, hthis⟩ := setAsymmetricKey_eq_ok hset
      rw [ha.1] at hkeyed
      dsimp only at hthis
      rw [hthis]
      refine ⟨.asymmetric hu hl hp, rfl, ?_,
        fun hc => absurd hc asymmetric_ne_symmetric⟩
      have hkey := hkeyed hspan
      rwa [← List.append_nil key] at hkey
    · obtain ⟨_, t, hset, h⟩ := bind_eq_ok.mp h
      cases h
      obtain ⟨hset, _⟩ := onThis_eq_ok.mp hset
      obtain ⟨key, hl, hspan, hend, hthis⟩ := setKeyAt_eq_ok hset
      rw [hs.1] at hkeyed hthis
      dsimp only at hthis
      rw [hthis]
      exact ⟨.symmetric hu hl, rfl, hkeyed hspan, fun _ => by dsimp only at hend; omega⟩
    · cases h

theorem layout_length (h : Host) {m : SPChatLogin} (hm : WellFormed m) :
    (layout h m).length = getPayloadLength m := by
  cases hm with
  | noKey _ => simp [layout, getPayloadLength, NO_KEY, ASYMMETRIC_KEY, ENCRYPTED_SYM_KEY, INT_SIZE, BYTE_SIZE]
  | asymmetric _ hl _ => simp [layout, getPayloadLength, hl, INT_SIZE, BYTE_SIZE]; omega
  | symmetric _ hl =>
    simp [layout, getPayloadLength, hl, ASYMMETRIC_KEY, ENCRYPTED_SYM_KEY, INT_SIZE, BYTE_SIZE]; omega

theorem ofBuffer_eq_ok {h : Host} {buf : Buffer} {len : Nat} {m : SPChatLogin}
    (hok : ofBuffer h buf len = .ok m) :
    WellFormed m ∧ Spans buf len 0 (layout littleEndianHost m) ∧
      (m.keyType = ENCRYPTED_SYM_KEY → (layout littleEndianHost m).length = len) := by
  obtain ⟨p, hrun⟩ := constructAt_fst_eq_ok.mp hok
  obtain ⟨_, ⟨t, pos⟩, hname, hkey⟩ := bind_eq_ok.mp hrun
  obtain ⟨username, hread, hset⟩ := field_eq_ok.mp hname
  obtain ⟨hu, rfl⟩ := setIf_eq_ok.mp hset
  obtain ⟨hspan, rfl⟩ := decodeString_eq_ok hread
  obtain ⟨hm, rfl, htail, hend⟩ := decodeKey_eq_ok hu hkey
  refine ⟨hm, spans_append.mpr ⟨hspan, by simpa [PAYLOAD_POSITION] using htail⟩, fun ht => ?_⟩
  have hlen := hend ht
  rw [layout_length littleEndianHost hm, getPayloadLength, ht, if_neg (by decide), if_pos rfl]
  simp only [PAYLOAD_POSITION, INT_SIZE, BYTE_SIZE] at hlen ⊢
  omega

theorem layout_encodeMiddle (h : Host) {m : SPChatLogin} (hm : WellFormed m)
    (ht : m.keyType ≠ ENCRYPTED_SYM_KEY) : encodeMiddle h m = layout h m := by
  cases hm with
  | noKey _ => rfl
  | asymmetric _ _ _ => simp [encodeMiddle, layout]
  | symmetric _ _ => exact absurd rfl ht

theorem encodeMiddle_symmetric (h : Host) {m : SPChatLogin} (hm : WellFormed m)
    (ht : m.keyType = ENCRYPTED_SYM_KEY) :
    encodeMiddle h m = encodeString h m.username ++ [ENCRYPTED_SYM_KEY] := by
  cases hm with
  | noKey _ => exact absurd ht noKey_ne_symmetric
  | asymmetric _ _ _ => exact absurd ht asymmetric_ne_symmetric
  | symmetric _ _ => rfl

-- the key of a login with a symmetric key is counted, but only `key` is written
theorem encodeMiddle_length_iff (h : Host) {m : SPChatLogin} (hm : WellFormed m) :
    (encodeMiddle h m).length = getPayloadLength m ↔ m.keyType ≠ ENCRYPTED_SYM_KEY := by
  constructor
  · intro hl ht
    rw [encodeMiddle_symmetric h hm ht, getPayloadLength, ht, if_neg (by decide), if_pos rfl] at hl
    simp [INT_SIZE, BYTE_SIZE, ENCRYPTED_SYM_LENGTH] at hl
  · intro ht
    rw [layout_encodeMiddle h hm ht, layout_length h hm]

theorem keyBytes_eq_ok {σ : Type} {newKey bytes : Str} {keyLen : BitVec 32} {s s' : σ}
    (h : (keyBytes newKey keyLen).run s = .ok bytes s') :
    bytes.length = keyLen.toInt ∧ s' = s := by
  unfold keyBytes at h
  split_ifs at h with hneg
  · cases h
  · obtain ⟨hn, rfl, rfl⟩ := slice_ofList h
    rw [List.length_take, Nat.min_eq_left hn, BitVec.toInt_eq_toNat_of_msb]
    · exact ⟨rfl, rfl⟩
    · rw [BitVec.msb_eq_toInt]
      simpa using hneg

theorem setKey_wellFormed {newKey : Str} {keyType : Byte} {keyLen : BitVec 32}
    {m m' : SPChatLogin} (hu : validUsername m.username = true)
    (h : (setKey keyType newKey keyLen).run m = .ok () m') : WellFormed m' := by
  unfold setKey at h
  rw [bind_ok (run_modify _ _)] at h
  split_ifs at h with hn ha hs
  · rw [run_modify] at h
    cases h
    exact .noKey hu
  · obtain ⟨bytes, s, hb, hrest⟩ := bind_eq_ok.mp h
    obtain ⟨hl, rfl⟩ := keyBytes_eq_ok hb
    obtain ⟨u, s, hset, hrest⟩ := bind_eq_ok.mp hrest
    obtain ⟨hp, rfl⟩ := setAsymmetricKey_eq_ok hset
    rw [run_modify] at hrest
    cases hrest
    rw [ha.1]
    exact .asymmetric hu (Int.ofNat.inj (hl.trans ha.2)) hp
  · rw [bind_ok (run_modify _ _)] at h
    obtain ⟨bytes, s, hb, hrest⟩ := bind_eq_ok.mp h
    obtain ⟨hl, rfl⟩ := keyBytes_eq_ok hb
    rw [run_modify] at hrest
    cases hrest
    rw [hs.1]
    exact .symmetric hu (Int.ofNat.inj (hl.trans hs.2))
  · cases h

theorem new_wellFormed {username key : Str} {keyType : Byte} {keyLen : BitVec 32} {m : SPChatLogin}
    (h : new username keyType key keyLen = .ok m) : WellFormed m := by
  obtain ⟨_, s, hu, hrest⟩ := bind_eq_ok.mp (construct_eq_ok.mp h)
  obtain ⟨hvalid, rfl⟩ := setIf_eq_ok.mp hu
  obtain ⟨_, s, hb, hset⟩ := bind_eq_ok.mp hrest
  obtain ⟨_, rfl⟩ := keyBytes_eq_ok hb
  exact setKey_wellFormed hvalid hset

theorem keyBytes_ok {σ : Type} {key : Str} (rest : Str) {keyLen : BitVec 32}
    (hn : 0 ≤ keyLen.toInt) (hl : key.length = keyLen.toNat) (s : σ) :
    (keyBytes (key ++ rest) keyLen).run s = .ok key s := by
  unfold keyBytes
  rw [if_neg (by omega), ← hl]
  exact slice_spans _ (spans_append.mp (spans_ofList (key ++ rest))).1 s

theorem new_asymmetric {username key : Str} (hu : validUsername username = true)
    (hl : key.length = ASYMMETRIC_LENGTH) (hp : pemLayout key = true) (rest : Str) :
    new username ASYMMETRIC_KEY (key ++ rest) (BitVec.ofNat 32 ASYMMETRIC_LENGTH) =
      .ok ⟨username, ASYMMETRIC_KEY, key, []⟩ := by
  have hbytes : ∀ m : SPChatLogin,
      (keyBytes (key ++ rest) (BitVec.ofNat 32 ASYMMETRIC_LENGTH)).run m = .ok key m :=
    keyBytes_ok rest (show (0 : Int) ≤ (BitVec.ofNat 32 ASYMMETRIC_LENGTH).toInt by decide) hl
  apply construct_eq_ok.mpr
  rw [bind_ok (setUsername_ok hu _), bind_ok (hbytes _)]
  unfold setKey
  rw [bind_ok (run_modify _ _), if_neg noKey_ne_asymmetric.symm, if_pos ⟨rfl, by decide⟩,
    bind_ok (hbytes _), bind_ok (setAsymmetricKey_ok hp _), run_modify]

theorem new_symmetric {username key : Str} (hu : validUsername username = true)
    (hl : key.length = ENCRYPTED_SYM_LENGTH) :
    new username ENCRYPTED_SYM_KEY key 128#32 = .ok ⟨username, ENCRYPTED_SYM_KEY, [], key⟩ := by
  have hbytes : ∀ m : SPChatLogin, (keyBytes (key ++ []) 128#32).run m = .ok key m :=
    keyBytes_ok [] (show (0 : Int) ≤ (128#32).toInt by decide) hl
  rw [List.append_nil] at hbytes
  apply construct_eq_ok.mpr
  rw [bind_ok (setUsername_ok hu _), bind_ok (hbytes _)]
  unfold setKey
  rw [bind_ok (run_modify _ _), if_neg noKey_ne_symmetric.symm,
    if_neg (fun hc => absurd hc.1 asymmetric_ne_symmetric.symm), if_pos ⟨rfl, rfl⟩,
    bind_ok (run_modify _ _), bind_ok (hbytes _), run_modify]
  rfl

end SPChatLogin

end Server
