import BabbleOn.Server.SPChatFrame

namespace Server
open Execution PartialMemory ProgramLogic

-- an exception of the protocol's own, as against a read outside the buffer or a thrown string
def Refusal (f : Fault) : Prop := ∃ message, f = .spchat message

def ReadsInside (h : Host) (g : Garbage) (t : Byte) (payload : Str) : Prop :=
  ∀ i, payloadConstructor h g t (ofList payload) payload.length ≠ some (.error (.outOfBounds i))

theorem refusal_spchat (message : String) : Refusal (.spchat message) := ⟨message, rfl⟩

section Decoders

variable {h : Host} {buf : Buffer} {len : Nat} {P : Nat → Prop}

-- refused with the position still inside the buffer
def RefusedInside (len : Nat) (e : Fault) (pos : Nat) : Prop := Refusal e ∧ pos ≤ len

theorem orLoop_ends {E : Fault → Nat → Prop} (hbuf : Readable buf len) {w k pos : Nat}
    {shift : Nat → Int} {order : List Nat}
    (ho : order = List.range k ∨ order = (List.range k).reverse) (hk : pos + k ≤ len) :
    Ends E P (orLoop w buf pos shift order) fun _ => P := by
  refine ends_gather _ fun i hi => hbuf _ ?_
  have hik : i < k := by
    rcases ho with rfl | rfl
    · exact List.mem_range.mp hi
    · exact List.mem_range.mp (List.mem_reverse.mp hi)
  omega

theorem decodeLong_ends (hbuf : Readable buf len) :
    Ends (RefusedInside len) (· ≤ len) (decodeLong h buf len) fun _ pos => pos ≤ len := by
  refine ends_bind ends_get fun pos => ends_ite (fun _ => ?_) fun hroom => ?_
  · exact ends_throw fun _ hs => ⟨refusal_spchat _, hs.2⟩
  · have hk : pos + LONG_SIZE ≤ len := by omega
    have hset : ∀ n : BitVec 64, Ends (RefusedInside len) (fun s => pos = s ∧ s ≤ len) (do
        set (pos + LONG_SIZE)
        pure n) fun _ s => s ≤ len :=
      fun n => ends_bind (ends_set fun _ _ => hk) fun _ => ends_pure fun _ h => h
    refine ends_ite (fun _ => ?_) fun _ => ?_
    · exact ends_bind (orLoop_ends hbuf (.inr rfl) hk) hset
    · exact ends_bind (orLoop_ends hbuf (.inl rfl) hk) hset

theorem decodeInt_ends (hbuf : Readable buf len) :
    Ends (RefusedInside len) (· ≤ len) (decodeInt h buf len) fun _ pos => pos ≤ len := by
  refine ends_bind ends_get fun pos => ends_ite (fun _ => ?_) fun hroom => ?_
  · exact ends_throw fun _ hs => ⟨refusal_spchat _, hs.2⟩
  · have hk : pos + INT_SIZE ≤ len := by omega
    have hset : ∀ n : BitVec 32, Ends (RefusedInside len) (fun s => pos = s ∧ s ≤ len) (do
        set (pos + INT_SIZE)
        pure n) fun _ s => s ≤ len :=
      fun n => ends_bind (ends_set fun _ _ => hk) fun _ => ends_pure fun _ h => h
    refine ends_ite (fun _ => ?_) fun _ => ?_
    · exact ends_bind (orLoop_ends hbuf (.inr rfl) hk) hset
    · exact ends_bind (orLoop_ends hbuf (.inl rfl) hk) hset

theorem decodePositiveInt_ends (hbuf : Readable buf len) :
    Ends (RefusedInside len) (· ≤ len) (decodePositiveInt h buf len)
      fun n pos => 0 ≤ n.toInt ∧ pos ≤ len :=
  ends_bind (decodeInt_ends hbuf) fun _ =>
    ends_ite (fun _ => ends_throw fun _ hs => ⟨refusal_spchat _, hs⟩) fun hsign =>
      ends_pure fun _ h => ⟨not_lt.mp hsign, h⟩

theorem decodeString_ends (hbuf : Readable buf len) :
    Ends (RefusedInside len) (· ≤ len) (decodeString h buf len) fun _ pos => pos ≤ len := by
  refine ends_bind (decodePositiveInt_ends hbuf) fun strLen =>
    ends_bind ends_get fun pos => ends_ite (fun _ => ?_) fun hroom => ?_
  · exact ends_throw fun _ hs => ⟨refusal_spchat _, hs.2.2⟩
  · refine (ends_copy hbuf strLen.toNat).consequence ?_ (fun _ _ h => h) fun _ _ he => he
    rintro s ⟨rfl, hsign, hs⟩
    have hcount := BitVec.toInt_eq_toNat_cond strLen
    split at hcount <;> omega

theorem decodeLong_throws (hbuf : Readable buf len) :
    Throws Refusal (· ≤ len) (decodeLong h buf len) fun _ pos => pos ≤ len :=
  (decodeLong_ends hbuf).throws fun _ _ he => he.1

theorem decodeInt_throws (hbuf : Readable buf len) :
    Throws Refusal (· ≤ len) (decodeInt h buf len) fun _ pos => pos ≤ len :=
  (decodeInt_ends hbuf).throws fun _ _ he => he.1

theorem decodePositiveInt_throws (hbuf : Readable buf len) :
    Throws Refusal (· ≤ len) (decodePositiveInt h buf len) fun n pos => 0 ≤ n.toInt ∧ pos ≤ len :=
  (decodePositiveInt_ends hbuf).throws fun _ _ he => he.1

theorem decodeString_throws (hbuf : Readable buf len) :
    Throws Refusal (· ≤ len) (decodeString h buf len) fun _ pos => pos ≤ len :=
  (decodeString_ends hbuf).throws fun _ _ he => he.1

theorem setUsername_throws {σ : Type} {P : σ → Prop} {put : Str → σ → σ} (username : Str) :
    Throws Refusal P (setIf validUsername (.spchat BAD_USERNAME_EXCEPTION) put username)
      fun _ _ => True :=
  throws_setIf (refusal_spchat _) username

theorem setAsymmetricKey_throws (newKey : Str) :
    Throws Refusal (fun _ => True) (SPChatLogin.setAsymmetricKey newKey) fun _ _ => True := by
  refine throws_bind (throws_modify (Q := fun _ _ => True) fun _ _ => trivial) fun _ => ?_
  refine throws_ite (fun _ => throws_throw fun _ _ => refusal_spchat _) fun _ => ?_
  refine throws_ite (fun _ => throws_throw fun _ _ => refusal_spchat _) fun _ => ?_
  refine throws_ite (fun _ => throws_throw fun _ _ => refusal_spchat _) fun _ => ?_
  exact throws_modify fun _ _ => trivial

-- its own bound is never the one that fails, so the thrown string stays inside
theorem bufferToString_throws {σ : Type} {P : σ → Prop} (hbuf : Readable buf len) {pos cpyLen : Nat}
    (hroom : pos + cpyLen ≤ len) :
    Throws Refusal P (SPChatLogin.bufferToString buf len pos cpyLen) fun _ => P :=
  throws_ite (fun hshort => absurd hshort (by omega)) fun _ => ends_slice hbuf hroom

theorem setKeyAt_throws (hbuf : Readable buf len) {pos : Nat} (hpos : pos ≤ len) (keyType : Byte) :
    Throws Refusal (fun _ => True) (SPChatLogin.setKeyAt keyType buf len pos) fun _ _ => True := by
  refine throws_bind (throws_modify (Q := fun _ _ => True) fun _ _ => trivial) fun _ => ?_
  refine throws_ite (fun _ => ?_) fun _ => throws_throw fun _ _ => refusal_spchat _
  refine throws_bind (throws_modify (Q := fun _ _ => True) fun _ _ => trivial) fun _ => ?_
  refine throws_bind (ends_slice hbuf (by omega)) fun _ => throws_modify fun _ _ => trivial

theorem decodeKey_throws (hbuf : Readable buf len) :
    Throws Refusal (fun b => b.pos ≤ len) (SPChatLogin.decodeKey buf len) fun _ _ => True := by
  refine throws_bind throws_get fun b => ?_
  refine throws_ite (fun _ => throws_throw fun _ _ => refusal_spchat _) fun hroom => ?_
  have hpos : b.pos + 1 ≤ len := by
    simp only [BYTE_SIZE] at hroom
    omega
  refine throws_bind (ends_fetch (hbuf _ hpos)) fun keyType => ?_
  refine throws_bind (throws_set (Q := fun _ c => c.pos ≤ len) fun _ _ => hpos) fun _ => ?_
  refine throws_ite (fun _ => ?_) fun _ => throws_ite (fun ha => ?_) fun _ => throws_ite (fun _ => ?_)
    fun _ => throws_throw fun _ _ => refusal_spchat _
  · exact (throws_onThis (R := (· ≤ len)) (throws_modify fun _ _ => trivial)).consequence
      (fun _ h => h) fun _ _ _ => trivial
  · have hread := bufferToString_throws (P := fun _ : SPChatLogin => True) hbuf
      (show b.pos + 1 + SPChatLogin.ASYMMETRIC_LENGTH ≤ len by omega)
    exact (throws_onThis (R := (· ≤ len)) (throws_bind hread setAsymmetricKey_throws)).consequence
      (fun _ h => h) fun _ _ _ => trivial
  · exact throws_bind (throws_onThis (R := (· ≤ len)) (setKeyAt_throws hbuf hpos keyType))
      fun _ => throws_modify fun _ _ => trivial

theorem login_throws (hbuf : Readable buf len) {e : Fault}
    (he : SPChatLogin.ofBuffer h buf len = .error e) : Refusal e :=
  throws_constructAt (· ≤ len) he (Nat.zero_le len) <|
    throws_bind (throws_field (decodeString_throws hbuf) setUsername_throws) fun _ =>
      decodeKey_throws hbuf

theorem challenge_throws (hbuf : Readable buf len) {e : Fault}
    (he : SPChatChallenge.ofBuffer buf len = .error e) : Refusal e := by
  refine throws_construct he ?_
  refine throws_ite (fun _ => throws_throw fun _ _ => refusal_spchat _) fun hroom => ?_
  exact throws_bind (ends_slice hbuf (by omega)) fun _ => throws_modify fun _ _ => trivial

theorem setSender_throws (sender : Nat) :
    Throws Refusal (fun _ => True) (SPChatACK.setSender sender) fun _ _ => True := by
  unfold SPChatACK.setSender
  split
  · exact throws_modify fun _ _ => trivial
  · exact throws_modify fun _ _ => trivial
  · exact throws_throw fun _ _ => refusal_spchat _

theorem setError_throws (error : Nat) :
    Throws Refusal (fun _ => True) (SPChatACK.setError error) fun _ _ => True := by
  unfold SPChatACK.setError
  split
  case h_7 => exact throws_throw fun _ _ => refusal_spchat _
  all_goals exact throws_modify fun _ _ => trivial

theorem ack_throws (hfirst : (buf PAYLOAD_POSITION).isSome) {e : Fault}
    (he : SPChatACK.ofBuffer buf len = .error e) : Refusal e := by
  have hread : ∀ {P : SPChatACK → Prop}, Throws Refusal P (fetch .outOfBounds buf PAYLOAD_POSITION)
      fun _ => P := ends_fetch hfirst
  refine throws_construct he ?_
  exact throws_bind hread fun _ => throws_bind (setSender_throws _) fun _ =>
    throws_bind hread fun _ => setError_throws _

theorem decodeNonce_throws (hbuf : Readable buf len) :
    Throws Refusal (· ≤ len) (SPChatResponse.decodeNonce buf len) fun _ pos => pos ≤ len := by
  refine throws_bind throws_get fun pos => throws_ite (fun hroom => ?_) fun _ =>
    throws_pure fun _ hs => hs.2
  refine Ends.consequence (ends_copy hbuf LONG_SIZE) ?_ (fun _ _ h => h) fun _ _ he => he
  rintro s ⟨rfl, _⟩
  omega

theorem response_throws (hbuf : Readable buf len) {e : Fault}
    (he : SPChatResponse.ofBuffer h buf len = .error e) : Refusal e := by
  refine throws_constructAt (Q := fun _ b => b.pos ≤ len) (· ≤ len) he (Nat.zero_le len) ?_
  refine throws_bind (throws_field (decodeString_throws hbuf) setUsername_throws) fun _ => ?_
  refine throws_bind (throws_field (decodeString_throws hbuf) fun _ =>
    throws_modify fun _ _ => trivial) fun _ => ?_
  exact throws_field (decodeNonce_throws hbuf) fun _ => throws_modify fun _ _ => trivial

theorem poll_throws (hbuf : Readable buf len) {e : Fault}
    (he : SPChatPoll.ofBuffer h buf len = .error e) : Refusal e :=
  throws_constructAt (· ≤ len) he (Nat.zero_le len) <|
    throws_bind (throws_field (decodeString_throws hbuf) setUsername_throws) fun _ =>
      throws_field (decodeLong_throws hbuf) fun _ => throws_modify fun _ _ => trivial

theorem setMsgNum_throws (msgNum : BitVec 32) :
    Throws Refusal (fun _ => True) (SPChatMsgMessage.setMsgNum msgNum) fun _ _ => True :=
  throws_bind throws_get fun _ => throws_ite (fun _ => throws_modify fun _ _ => trivial) fun _ =>
    throws_throw fun _ _ => refusal_spchat _

theorem ends_field_inside {σ α : Type} {read : EStateM Fault Nat α} {set : α → EStateM Fault σ Unit}
    (hread : Ends (RefusedInside len) (· ≤ len) read fun _ pos => pos ≤ len)
    (hset : ∀ a, Throws Refusal (fun _ => True) (set a) fun _ _ => True) :
    Ends (fun e b => RefusedInside len e b.pos) (fun b : Building σ => b.pos ≤ len) (field read set)
      fun _ b => b.pos ≤ len :=
  ends_field fun _ => hread.consequence (fun _ hp => hp)
    (fun a _ hp => Ends.consequence (hset a) (fun _ _ => trivial) (fun _ _ _ => hp)
      fun _ _ he => ⟨he, hp⟩)
    fun _ _ he => he

theorem msgMessage_ends (hbuf : Readable buf len) (garbage : BitVec 64) :
    Ends (RefusedInside len) (· ≤ len) (SPChatMsgMessage.ofBuffer h buf len garbage)
      fun _ pos => pos ≤ len := by
  have hset : ∀ {α : Type} {ok : α → Bool} {message : String}
      {put : α → SPChatMsgMessage → SPChatMsgMessage} (a : α),
      Throws Refusal (fun _ => True) (setIf ok (.spchat message) put a) fun _ _ => True :=
    fun a => throws_setIf (refusal_spchat _) a
  refine ends_reading ?_
  refine ends_bind (ends_field_inside (decodeString_ends hbuf) hset) fun _ => ?_
  refine ends_bind (ends_field_inside (decodeString_ends hbuf) hset) fun _ => ?_
  refine ends_bind (ends_field_inside (decodeString_ends hbuf) fun _ =>
    throws_modify fun _ _ => trivial) fun _ => ?_
  refine ends_bind (ends_field_inside (decodeLong_ends hbuf) hset) fun _ => ?_
  refine ends_bind (ends_field_inside (decodeInt_ends hbuf) setMsgNum_throws) fun _ => ?_
  refine ends_bind (ends_field_inside (decodeInt_ends hbuf) hset) fun _ => ?_
  exact ends_field_inside (decodeLong_ends hbuf) hset

theorem msgMessage_throws (hbuf : Readable buf len) (garbage : BitVec 64) :
    Throws Refusal (· ≤ len) (SPChatMsgMessage.ofBuffer h buf len garbage) fun _ pos => pos ≤ len :=
  (msgMessage_ends hbuf garbage).throws fun _ _ he => he.1

theorem decodeMsgList_throws (hbuf : Readable buf len) (garbage : Nat → BitVec 64) :
    Throws Refusal (fun b => b.pos ≤ len) (SPChatPollResponse.decodeMsgList h buf len garbage)
      fun _ b => b.pos ≤ len :=
  throws_bind (throws_atPos (decodeInt_throws hbuf)) fun _ => throws_forM fun i _ =>
    throws_field (msgMessage_throws hbuf (garbage i)) fun _ => throws_modify fun _ _ => trivial

theorem pollResponse_throws (hbuf : Readable buf len) {garbage : Nat → BitVec 64} {e : Fault}
    (he : SPChatPollResponse.ofBuffer h buf len garbage = .error e) : Refusal e := by
  have hnum : ∀ {put : BitVec 32 → SPChatPollResponse → SPChatPollResponse} (n : BitVec 32),
      Throws Refusal (fun _ => True) (setIf validPositiveNum (.spchat NEGATIVE_NUM_EXCEPTION) put n)
        fun _ _ => True :=
    fun n => throws_setIf (refusal_spchat _) n
  refine throws_constructAt (Q := fun _ b => b.pos ≤ len) (· ≤ len) he (Nat.zero_le len) ?_
  refine throws_bind (throws_field (decodeString_throws hbuf) setUsername_throws) fun _ => ?_
  refine throws_bind (throws_field (decodeInt_throws hbuf) hnum) fun _ => ?_
  refine throws_bind (throws_field (decodeInt_throws hbuf) hnum) fun _ => ?_
  exact decodeMsgList_throws hbuf garbage

end Decoders

theorem payloadConstructor_throws {h : Host} {g : Garbage} {t : Byte} {buf : Buffer} {len : Nat}
    (hbuf : Readable buf len) (hack : t = SPChatACK.SPCHATACK_TYPE → (buf PAYLOAD_POSITION).isSome)
    {e : Fault}
    (he : payloadConstructor h g t buf len = some (.error e)) : Refusal e := by
  unfold payloadConstructor at he
  split_ifs at he with hl hc ha hr hp hpr
  · exact login_throws hbuf (map_eq_error (Option.some.inj he))
  · exact challenge_throws hbuf (map_eq_error (Option.some.inj he))
  · exact ack_throws (hack ha) (map_eq_error (Option.some.inj he))
  · exact response_throws hbuf (map_eq_error (Option.some.inj he))
  · exact poll_throws hbuf (map_eq_error (Option.some.inj he))
  · exact pollResponse_throws hbuf (map_eq_error (Option.some.inj he))

theorem payloadConstructor_emptyACK (h : Host) (g : Garbage) :
    payloadConstructor h g SPChatACK.SPCHATACK_TYPE (ofList []) 0 =
      some (.error (.outOfBounds 0)) := rfl

theorem payload_reads_inside_iff (h : Host) (g : Garbage) (t : Byte) (payload : Str) :
    ReadsInside h g t payload ↔ ¬ (t = SPChatACK.SPCHATACK_TYPE ∧ payload = []) := by
  constructor
  · rintro hinside ⟨rfl, rfl⟩
    exact hinside 0 (payloadConstructor_emptyACK h g)
  · intro hpayload i he
    have hack : t = SPChatACK.SPCHATACK_TYPE → (ofList payload PAYLOAD_POSITION).isSome :=
      fun ht => readable_ofList payload 0 (List.length_pos_iff.mpr fun hnil => hpayload ⟨ht, hnil⟩)
    obtain ⟨message, hmessage⟩ := payloadConstructor_throws (readable_ofList payload) hack he
    cases hmessage

theorem empty_ack_read_outside :
    ¬ ReadsInside littleEndianHost ⟨fun _ => 0#8, fun _ => 0#64⟩ SPChatACK.SPCHATACK_TYPE [] :=
  fun hinside => hinside 0 rfl

end Server
