import BabbleOn.Server.PayloadReads

namespace Server
open Execution PartialMemory ProgramLogic SignedWords

variable {α : Type}

-- a read that looked at the places from `pos` to `pos'` gives the same where there is nothing else
structure Returned (read : Buffer → Nat → EStateM Fault Nat α) (encode : α → Str) (buf : Buffer)
    (len pos : Nat) (value : α) (pos' : Nat) : Prop where
  forward : pos ≤ pos'
  inside : pos' ≤ len
  reads : (read (window buf pos pos') len).run pos = .ok value pos'
  encoded : ∀ other, (Spans buf len pos (encode other) ∧ pos + (encode other).length = pos') ↔
    other = value

def Disciplined (read : Buffer → Nat → EStateM Fault Nat α) (encode : α → Str) : Prop :=
  ∀ buf len pos, Readable buf len → pos ≤ len →
    match (read buf len).run pos with
    | .ok value pos' => Returned read encode buf len pos value pos'
    | .error e _ => Refusal e

def RefusesLength (h : Host) : Prop :=
  ∀ buf len pos (strLen : BitVec 32), Spans buf len pos (encodeInt littleEndianHost strLen) →
    strLen.toInt < 0 ∨ (len : Int) - (pos + INT_SIZE : Nat) < strLen.toInt →
      ∃ message pos', (decodeString h buf len).run pos = .error (.spchat message) pos'

theorem disciplined_of {read : Buffer → Nat → EStateM Fault Nat α} {encode : α → Str}
    (accepts : α → Prop) {Q : Nat → α → Nat → Prop}
    (hthrows : ∀ {buf len}, Readable buf len → Throws Refusal (· ≤ len) (read buf len) (Q len))
    (hinj : ∀ {a b}, encode a = encode b → a = b)
    (hinv : ∀ {buf len pos value pos'}, (read buf len).run pos = .ok value pos' →
      accepts value ∧ Spans buf len pos (encode value) ∧ pos' = pos + (encode value).length)
    (hrun : ∀ {buf len pos value}, accepts value → Spans buf len pos (encode value) →
      (read buf len).run pos = .ok value (pos + (encode value).length)) :
    Disciplined read encode := by
  intro buf len pos hbuf hpos
  cases hread : (read buf len).run pos with
  | error e pos' => exact (hthrows hbuf).error hpos hread
  | ok value pos' =>
    obtain ⟨haccepts, hspan, rfl⟩ := hinv hread
    refine ⟨Nat.le_add_right _ _, hspan.1, hrun haccepts (spans_window hspan), fun other => ⟨?_, ?_⟩⟩
    · rintro ⟨hother, hend⟩
      exact hinj (spans_unique hother hspan (Nat.add_left_cancel hend))
    · rintro rfl
      exact ⟨hspan, rfl⟩

theorem encodeLong_injective {a b : BitVec 64}
    (h : encodeLong littleEndianHost a = encodeLong littleEndianHost b) : a = b :=
  BigEndian.encode_injective (show 64 = 8 * 8 from rfl) h

theorem encodeInt_injective {a b : BitVec 32}
    (h : encodeInt littleEndianHost a = encodeInt littleEndianHost b) : a = b :=
  BigEndian.encode_injective (show 32 = 8 * 4 from rfl) h

theorem encodeString_injective {a b : Str}
    (h : encodeString littleEndianHost a = encodeString littleEndianHost b) : a = b := by
  have hlen : (encodeInt littleEndianHost (BitVec.ofNat 32 a.length)).length =
      (encodeInt littleEndianHost (BitVec.ofNat 32 b.length)).length := by
    rw [encodeInt_length, encodeInt_length]
  exact (List.append_inj h hlen).2

variable {h : Host}

theorem decodeLong_disciplined : Disciplined (decodeLong h) (encodeLong littleEndianHost) := by
  refine disciplined_of (fun _ => True) decodeLong_throws encodeLong_injective ?_ ?_
  · intro buf len pos value pos' hok
    rw [encodeLong_length]
    exact ⟨trivial, decodeLong_eq_ok hok⟩
  · intro buf len pos value _ hspan
    rw [encodeLong_length]
    exact decodeLong_spans h hspan

theorem decodeInt_disciplined : Disciplined (decodeInt h) (encodeInt littleEndianHost) := by
  refine disciplined_of (fun _ => True) decodeInt_throws encodeInt_injective ?_ ?_
  · intro buf len pos value pos' hok
    rw [encodeInt_length]
    exact ⟨trivial, decodeInt_eq_ok hok⟩
  · intro buf len pos value _ hspan
    rw [encodeInt_length]
    exact decodeInt_spans h hspan

theorem decodePositiveInt_disciplined :
    Disciplined (decodePositiveInt h) (encodeInt littleEndianHost) := by
  refine disciplined_of (fun n => 0 ≤ n.toInt) decodePositiveInt_throws
    encodeInt_injective ?_ ?_
  · intro buf len pos value pos' hok
    rw [encodeInt_length]
    exact decodePositiveInt_eq_ok hok
  · intro buf len pos value hsign hspan
    rw [encodeInt_length]
    exact decodePositiveInt_spans h hsign hspan

theorem decodeString_disciplined : Disciplined (decodeString h) (encodeString littleEndianHost) := by
  refine disciplined_of (fun str => str.length < 2 ^ 31) decodeString_throws
    encodeString_injective ?_ ?_
  · intro buf len pos value pos' hok
    rw [encodeString_length]
    exact decodeString_inv hok
  · intro buf len pos value hshort hspan
    rw [encodeString_length]
    exact decodeString_sized h hshort hspan

theorem decodeString_refuses (h : Host) : RefusesLength h := by
  intro buf len pos strLen hspan hbad
  have hint := decodeInt_spans h hspan
  by_cases hsign : strLen.toInt < 0
  · have hneg : (decodePositiveInt h buf len).run pos =
        .error (.spchat NEGATIVE_NUM_EXCEPTION) (pos + 4) := by
      unfold decodePositiveInt
      rw [bind_ok hint, if_pos hsign, run_throw]
    exact ⟨_, _, bind_error hneg⟩
  · have hlong : (len : Int) - (pos + 4 : Nat) < strLen.toInt := hbad.resolve_left hsign
    have hpos := decodePositiveInt_spans h (not_lt.mp hsign) hspan
    refine ⟨TOO_SHORT_EXCEPTION, pos + 4, ?_⟩
    unfold decodeString
    rw [bind_ok hpos, bind_ok (run_get _), if_pos hlong, run_throw]

theorem cursor_discipline (h : Host) :
    Disciplined (decodeLong h) (encodeLong littleEndianHost) ∧
      Disciplined (decodeInt h) (encodeInt littleEndianHost) ∧
      Disciplined (decodePositiveInt h) (encodeInt littleEndianHost) ∧
      Disciplined (decodeString h) (encodeString littleEndianHost) ∧ RefusesLength h :=
  ⟨decodeLong_disciplined, decodeInt_disciplined, decodePositiveInt_disciplined,
    decodeString_disciplined, decodeString_refuses h⟩

end Server
