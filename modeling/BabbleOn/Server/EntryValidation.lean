import BabbleOn.Server.SPChatPoll

namespace Server
open Execution PartialMemory SignedWords

namespace SPChatMsgMessage

-- a buffer of the second constructor is no longer than its `int len` can say
inductive Source where
  | arguments (m : SPChatMsgMessage)
  | payload (h : Host) (buf : Str) (short : buf.length < 2 ^ 31) (pos : Nat)

def Source.Carries : Source → SPChatMsgMessage → Prop
  | .arguments m', m => m' = m
  | .payload _ buf _ pos, m => Spans (ofList buf) buf.length pos (encodeMessage littleEndianHost m)

def Source.build (garbage : BitVec 64) : Source → Except Fault SPChatMsgMessage
  | .arguments m =>
    new garbage m.sender m.receiver m.message m.decryptMsgLen m.msgNum m.totalMsg m.time
  | .payload h buf _ pos =>
    match (ofBuffer h (ofList buf) buf.length garbage).run pos with
    | .ok m _ => .ok m
    | .error e _ => .error e

structure InBounds (m : SPChatMsgMessage) : Prop where
  sender : validUsername m.sender = true
  receiver : validUsername m.receiver = true
  decryptMsgLen : 0 ≤ m.decryptMsgLen.toInt ∧ m.decryptMsgLen.toInt ≤ MAX_MESSAGE_LENGTH
  msgNum : 0 ≤ m.msgNum.toInt
  totalMsg : 0 ≤ m.totalMsg.toInt
  time : 0 ≤ m.time.toInt

def Validated (garbage : BitVec 64) (src : Source) : Prop :=
  ∀ m, src.build garbage = .ok m ↔ src.Carries m ∧ m.InBounds

theorem inBounds_iff {m : SPChatMsgMessage} :
    m.InBounds ↔ m.WellFormed ∧ 0 ≤ m.decryptMsgLen.toInt ∧ 0 ≤ m.msgNum.toInt := by
  constructor
  · intro h
    exact ⟨⟨h.sender, h.receiver, h.decryptMsgLen.2, h.totalMsg, h.time⟩, h.decryptMsgLen.1, h.msgNum⟩
  · rintro ⟨h, hlen, hnum⟩
    exact ⟨h.sender, h.receiver, ⟨hlen, h.decryptMsgLen⟩, hnum, h.totalMsg, h.time⟩

theorem build_eq_ok {garbage : BitVec 64} {src : Source} {m : SPChatMsgMessage} :
    src.build garbage = .ok m ↔ src.Carries m ∧ m.WellFormed ∧ 0 ≤ garbage.toInt := by
  cases src with
  | arguments m' =>
    rw [Source.build, new_eq_ok]
    constructor
    · rintro ⟨hgarbage, rfl, hm⟩
      exact ⟨rfl, hm, hgarbage⟩
    · rintro ⟨rfl, hm, hgarbage⟩
      exact ⟨hgarbage, rfl, hm⟩
  | payload h buf short pos =>
    constructor
    · intro hbuild
      cases hrun : (ofBuffer h (ofList buf) buf.length garbage).run pos with
      | error e p =>
        rw [Source.build, hrun] at hbuild
        cases hbuild
      | ok m' p =>
        rw [Source.build, hrun] at hbuild
        cases hbuild
        obtain ⟨hgarbage, hm, hspan, _⟩ := ofBuffer_eq_ok hrun
        exact ⟨hspan, hm, hgarbage⟩
    · rintro ⟨hspan, hm, hgarbage⟩
      rw [Source.build, ofBuffer_encodeMessage h hm hgarbage short hspan]

theorem validated_iff (garbage : BitVec 64) (src : Source) :
    Validated garbage src ↔ ∀ m, src.Carries m → m.WellFormed →
      (0 ≤ garbage.toInt ↔ 0 ≤ m.decryptMsgLen.toInt ∧ 0 ≤ m.msgNum.toInt) := by
  have hboth : ∀ m, (src.build garbage = .ok m ↔ src.Carries m ∧ m.InBounds) ↔
      (src.Carries m ∧ m.WellFormed ∧ 0 ≤ garbage.toInt ↔
        src.Carries m ∧ m.WellFormed ∧ 0 ≤ m.decryptMsgLen.toInt ∧ 0 ≤ m.msgNum.toInt) := by
    intro m
    rw [build_eq_ok, inBounds_iff]
  constructor
  · intro h m hcarries hm
    have hm' := (hboth m).mp (h m)
    constructor
    · intro hgarbage
      exact (hm'.mp ⟨hcarries, hm, hgarbage⟩).2.2
    · intro hbounds
      exact (hm'.mpr ⟨hcarries, hm, hbounds⟩).2.2
  · intro h m
    refine (hboth m).mpr ⟨?_, ?_⟩
    · rintro ⟨hcarries, hm, hgarbage⟩
      exact ⟨hcarries, hm, (h m hcarries hm).mp hgarbage⟩
    · rintro ⟨hcarries, hm, hbounds⟩
      exact ⟨hcarries, hm, (h m hcarries hm).mpr hbounds⟩

def negativeNumber : SPChatMsgMessage := ⟨ascii "bob", ascii "amy", [], 0#64, -1#32, 1#32, 0#64⟩

theorem negative_msgNum_built : ¬ Validated 0#64 (.arguments negativeNumber) := by
  intro h
  have hbuilt : Source.build 0#64 (.arguments negativeNumber) = .ok negativeNumber := by decide
  exact absurd ((h negativeNumber).mp hbuilt).2.msgNum (by decide)

end SPChatMsgMessage

end Server
