import BabbleOn.Server.Acceptance
import BabbleOn.Server.CutConnections

namespace Server
open Execution PartialMemory ProgramLogic SegmentedStream SignedWords

-- the clauses of the thread take what is a `runtime_error`; a read outside of an array throws nothing
def Uncaught : Fault → Prop
  | .str _ => True
  | .lengthError => True
  | .spchat _ => False
  | .socket _ => False
  | .outOfBounds _ => False

-- the array with the payload, and whatever lies behind it
def inMemory (memory : Nat → Byte) : Buffer := fun i => some (memory i)

theorem received_readable (junk : Nat → Byte) (size : Nat) (bytes : Str) :
    PartialMemory.Readable (received junk size bytes) size := by
  intro i hi
  unfold received
  split
  · rw [List.getElem?_eq_getElem ‹_›]
    rfl
  · rfl

theorem decodeHeader_throws {h : Host} {buf : Buffer}
    (hbuf : PartialMemory.Readable buf TOTAL_HEADER_LENGTH) :
    ProgramLogic.Throws Refusal (fun _ => True) (SPChatMessage.decodeHeader h buf) fun _ _ => True := by
  have hcheck : ∀ i ∈ List.range HEADER_LENGTH, ProgramLogic.Throws Refusal (fun _ => True)
      (SPChatMessage.checkHeader buf i) fun _ _ => True := by
    intro i hi
    have hsome := hbuf i (Nat.lt_trans (List.mem_range.mp hi) (by decide))
    refine throws_bind (ends_fetch hsome) fun b => throws_ite (fun _ => ?_) fun _ => ?_
    · exact throws_throw fun _ _ => refusal_spchat _
    · exact throws_pure fun _ _ => trivial
  refine throws_bind (throws_forM hcheck) fun _ => ?_
  refine throws_bind (ends_fetch (hbuf TYPE_POSITION (by decide))) fun t => ?_
  refine throws_bind (throws_set (Q := fun _ pos => pos ≤ TOTAL_HEADER_LENGTH)
    fun _ _ => (by decide)) fun _ => ?_
  exact throws_bind (decodeLong_throws hbuf) fun _ => throws_pure fun _ _ => trivial

theorem factory_eq_error {h : Host} {g : Garbage} {t : Byte} {buf : Buffer} {len : BitVec 32}
    {p p' : Process} {f : Fault} (he : (SPChatMessage.factory h g t buf len).run p = .error f p') :
    Refusal f ∨ payloadConstructor h g t buf len.toNat = some (.error f) := by
  unfold SPChatMessage.factory at he
  cases hmade : payloadConstructor h g t buf len.toNat with
  | none =>
    rw [hmade] at he
    cases he
    exact .inl (refusal_spchat _)
  | some r =>
    rw [hmade] at he
    cases r with
    | ok m => cases he
    | error e =>
      cases he
      exact .inr rfl

theorem factory_refuses {h : Host} {g : Garbage} {t : Byte} {memory : Nat → Byte}
    {len : BitVec 32} {p p' : Process} {f : Fault}
    (he : (SPChatMessage.factory h g t (inMemory memory) len).run p = .error f p') : Refusal f := by
  rcases factory_eq_error he with hrefusal | hmade
  · exact hrefusal
  · exact payloadConstructor_throws (fun _ _ => rfl) (fun _ => rfl) hmade

theorem refusal_caught {f : Fault} (h : Refusal f) : ¬ Uncaught f := by
  obtain ⟨message, rfl⟩ := h
  exact id

theorem factory_caught {h : Host} {g : Garbage} {t : Byte} {payload : Str} {len : BitVec 32}
    (hlen : len.toNat = payload.length) {p p' : Process} {f : Fault}
    (he : (SPChatMessage.factory h g t (ofList payload) len).run p = .error f p') : ¬ Uncaught f := by
  rcases factory_eq_error he with hrefusal | hmade
  · exact refusal_caught hrefusal
  rw [hlen] at hmade
  by_cases hack : t = SPChatACK.SPCHATACK_TYPE ∧ payload = []
  · obtain ⟨rfl, rfl⟩ := hack
    rw [List.length_nil, payloadConstructor_emptyACK] at hmade
    cases hmade
    exact id
  · refine refusal_caught (payloadConstructor_throws (readable_ofList payload) (fun ht => ?_) hmade)
    exact readable_ofList payload 0 (List.length_pos_iff.mpr fun hnil => hack ⟨ht, hnil⟩)

theorem decodePayload_caught {h : Host} {g : Garbage} {t : Byte} {len : BitVec 64} {p p' : Process}
    {f : Fault} (he : (SPChatMessage.decodePayload h g t len).run p = .error f p') : ¬ Uncaught f := by
  obtain ⟨s, hrun | hrun | ⟨payload, _, _, _, hword, hrun⟩⟩ := decodePayload_outcome h g t len p
  · rw [hrun] at he
    cases he
    exact id
  · rw [hrun] at he
    cases he
    exact id
  · rw [hrun] at he
    exact factory_caught hword he

theorem decode_caught {h : Host} {g : Garbage} {p p' : Process} {f : Fault}
    (he : (SPChatMessage.decode h g).run p = .error f p') : ¬ Uncaught f := by
  unfold SPChatMessage.decode at he
  rcases recvFully_outcome .headerArray (show (TOTAL_HEADER_LENGTH : Int) < 2 ^ 31 by decide) p with
    ⟨s, hrun⟩ | ⟨header, n, s, hrun, _, _⟩
  · rw [bind_error hrun] at he
    cases he
    exact id
  · rw [bind_ok hrun] at he
    cases hheader : (SPChatMessage.decodeHeader h
      (received g.headerArray TOTAL_HEADER_LENGTH header)).run 0 with
    | error e q =>
      rw [bind_error (withState_error hheader s)] at he
      cases he
      exact refusal_caught ((decodeHeader_throws (received_readable _ _ _)).error trivial hheader)
    | ok r q =>
      rw [bind_ok (withState_ok hheader s)] at he
      exact decodePayload_caught he

theorem only_spchat_exceptions (h : Host) (g : Garbage) :
    (∀ header f s, (SPChatMessage.decodeHeader h
        (received g.headerArray TOTAL_HEADER_LENGTH header)).run 0 = .error f s → Refusal f) ∧
      (∀ t memory len p f s,
        (SPChatMessage.factory h g t (inMemory memory) len).run p = .error f s → Refusal f) ∧
      ∀ p f s, (SPChatMessage.decode h g).run p = .error f s → ¬ Uncaught f :=
  ⟨fun _ _ _ he => (decodeHeader_throws (received_readable _ _ _)).error trivial he,
    fun _ _ _ _ _ _ he => factory_refuses he, fun _ _ _ he => decode_caught he⟩

end Server
