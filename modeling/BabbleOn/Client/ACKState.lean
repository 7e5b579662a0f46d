import BabbleOn.Client.Session
import BabbleOn.Library.Runs

namespace Client
open Execution Runs

namespace ACKMessage

def UPPER : Nat := 7

def UPPER_BYTE_SIZE : BitVec 32 := BitVec.ofNat 32 (2 ^ UPPER)

def getSender (m : ACKMessage) : BitVec 32 := (m.errSender.signExtend 32).srem BINARY

-- the sender is shifted together with the error
def setErr (m : ACKMessage) (e : BitVec 32) : ACKMessage :=
  if e.slt UPPER_BYTE_SIZE then
    { m with errSender := (((m.errSender.signExtend 32).srem 2#32 + e) <<< 1).setWidth 8 }
  else m

def setSender (m : ACKMessage) (s : BitVec 32) : ACKMessage :=
  if SERVER = s ∧ (m.errSender.signExtend 32).srem BINARY ≠ SERVER then
    { m with errSender := m.errSender - 1#8 }
  else if CLIENT = s ∧ (m.errSender.signExtend 32).srem BINARY ≠ CLIENT then
    { m with errSender := m.errSender + 1#8 }
  else m

def IsSender (s : BitVec 32) : Prop := s = SERVER ∨ s = CLIENT

instance (s : BitVec 32) : Decidable (IsSender s) := inferInstanceAs (Decidable (_ ∨ _))

@[ext]
structure ErrorCode where
  code : BitVec 32
  known : code ≤ 6#32

@[ext]
structure SenderCode where
  code : BitVec 32
  sends : IsSender code

def packed (e s : BitVec 32) : Byte := (2#32 * e + s).setWidth 8

inductive Call where
  | setErr (e : ErrorCode)
  | setSender (s : BitVec 32)

-- a message, with the error and the sender that were last set
structure Held where
  message : ACKMessage
  error : ErrorCode
  sender : SenderCode

def Held.call : Held → Call → Option Held
  | ⟨m, _, s⟩, .setErr e => some ⟨m.setErr e.code, e, s⟩
  | ⟨m, e, s⟩, .setSender s' =>
    some ⟨m.setSender s', e, if hs : IsSender s' then ⟨s', hs⟩ else s⟩

structure Follows (h : Held) : Prop where
  getErr : ∃ er, h.message.getErr = .ok er ∧ er.getErr = h.error.code
  getSender : h.message.getSender = h.sender.code
  encode : h.message.encode = h.message.writeHeader ++ [packed h.error.code h.sender.code]
  cachedError : h.message.error = Errors.getValue (findError h.message.errSender)
  cachedSender : h.message.sender = h.message.getSender

def SetsNothing (h : Held) : Call → Prop
  | .setErr e => e = h.error ∧ h.sender.code = SERVER
  | .setSender s => IsSender s → s = h.sender.code

end ACKMessage

theorem Errors.valueOf_name (er : Errors) : Errors.valueOf er.name = .ok er := by
  cases er <;> decide

theorem Errors.getValue_getErr (er : Errors) : Errors.getValue er.getErr = er.name := by
  cases er <;> decide

namespace ACKMessage

variable {m : ACKMessage} {h h' : Held}

theorem ErrorCode.exists_nat (e : ErrorCode) : ∃ n : Fin 7, e.code = BitVec.ofNat 32 n :=
  ⟨⟨e.code.toNat, Nat.lt_succ_of_le e.known⟩, by simp⟩

theorem ErrorCode.exists_errors (e : ErrorCode) : ∃ er : Errors, er.getErr = e.code := by
  obtain ⟨n, hn⟩ := e.exists_nat
  rw [hn]
  match n with
  | 0 => exact ⟨.SUCCESS, rfl⟩
  | 1 => exact ⟨.INVALID_MSG_TYPE, rfl⟩
  | 2 => exact ⟨.INVALID_USERNAME_PASSWORD, rfl⟩
  | 3 => exact ⟨.FORMATTING_ERROR, rfl⟩
  | 4 => exact ⟨.DEFAULT_ERROR, rfl⟩
  | 5 => exact ⟨.PASSWORD_AUTH, rfl⟩
  | 6 => exact ⟨.INVALID_RECIPIENT, rfl⟩

theorem codes_table {P : BitVec 32 → BitVec 32 → Prop}
    (htable : ∀ n : Fin 7, P (BitVec.ofNat 32 n) SERVER ∧ P (BitVec.ofNat 32 n) CLIENT)
    (e : ErrorCode) (s : SenderCode) : P e.code s.code := by
  obtain ⟨n, hn⟩ := e.exists_nat
  rw [hn]
  rcases s.sends with hserver | hclient
  · rw [hserver]
    exact (htable n).1
  · rw [hclient]
    exact (htable n).2

theorem findError_packed : ∀ (e : ErrorCode) (s : SenderCode),
    findError (packed e.code s.code) = e.code :=
  codes_table (P := fun e s => findError (packed e s) = e) (by decide)

theorem sender_packed : ∀ (e : ErrorCode) (s : SenderCode),
    ((packed e.code s.code).signExtend 32).srem BINARY = s.code :=
  codes_table (P := fun e s => ((packed e s).signExtend 32).srem BINARY = s) (by decide)

theorem sender_shifted : ∀ (e : ErrorCode) (s : SenderCode),
    ((packed (s.code + e.code) SERVER).signExtend 32).srem BINARY = SERVER :=
  codes_table (P := fun e s => ((packed (s + e) SERVER).signExtend 32).srem BINARY = SERVER)
    (by decide)

theorem setErr_packed (e e' : ErrorCode) (s : SenderCode)
    (hbyte : m.errSender = packed e.code s.code) :
    m.setErr e'.code = { m with errSender := packed (s.code + e'.code) SERVER } := by
  have hbelow : e'.code.slt UPPER_BYTE_SIZE = true :=
    codes_table (P := fun e _ => e.slt UPPER_BYTE_SIZE = true) (by decide) e' s
  have hshift : ((s.code + e'.code) <<< 1).setWidth 8 = packed (s.code + e'.code) SERVER :=
    codes_table (P := fun e s => ((s + e) <<< 1).setWidth 8 = packed (s + e) SERVER) (by decide) e' s
  rw [setErr, if_pos hbelow, hbyte]
  rw [show ((packed e.code s.code).signExtend 32).srem 2#32 = s.code from sender_packed e s, hshift]

theorem packed_client (e : BitVec 32) : packed e CLIENT = packed e SERVER + 1#8 := by
  rw [packed, packed, BitVec.setWidth_add _ _ (by decide), BitVec.setWidth_add _ _ (by decide)]
  simp [SERVER, CLIENT]

theorem setSender_packed (e : ErrorCode) (s s' : SenderCode)
    (hbyte : m.errSender = packed e.code s.code) :
    m.setSender s'.code = { m with errSender := packed e.code s'.code } := by
  have hne : SERVER ≠ CLIENT := by decide
  rw [setSender, hbyte, sender_packed]
  rcases s.sends with hs | hs <;> rcases s'.sends with hs' | hs' <;> rw [hs, hs']
  · rw [if_neg (by simp), if_neg (by simp [hne.symm]), ← hs, ← hbyte]
  · rw [if_neg (by simp [hne]), if_pos ⟨rfl, hne⟩, packed_client]
  · rw [if_pos ⟨rfl, hne.symm⟩, packed_client, BitVec.add_sub_cancel]
  · rw [if_neg (by simp [hne]), if_neg (by simp), ← hs, ← hbyte]

theorem setSender_none {s : BitVec 32} (hs : ¬ IsSender s) (m : ACKMessage) : m.setSender s = m := by
  rw [setSender, if_neg, if_neg]
  · exact fun hclient => hs (.inr hclient.1.symm)
  · exact fun hserver => hs (.inl hserver.1.symm)

theorem setErr_cached (m : ACKMessage) (e : BitVec 32) :
    (m.setErr e).error = m.error ∧ (m.setErr e).sender = m.sender := by
  unfold setErr
  split <;> exact ⟨rfl, rfl⟩

theorem setSender_cached (m : ACKMessage) (s : BitVec 32) :
    (m.setSender s).error = m.error ∧ (m.setSender s).sender = m.sender := by
  unfold setSender
  split
  · exact ⟨rfl, rfl⟩
  · split <;> exact ⟨rfl, rfl⟩

theorem call_cached {c : Call} (hcall : h.call c = some h') :
    h'.message.error = h.message.error ∧ h'.message.sender = h.message.sender := by
  cases c with
  | setErr e =>
    cases hcall
    exact setErr_cached h.message e.code
  | setSender s =>
    cases hcall
    exact setSender_cached h.message s

theorem getErr_kept (hrun : Reaches Held.call h h') : h'.message.getErr = h.message.getErr := by
  refine hrun.invariant (I := fun t => t.message.getErr = h.message.getErr) rfl ?_
  intro t c u ht _ hcall
  rw [← ht, getErr, getErr, (call_cached hcall).1]

theorem setSender_run (hrun : Run Held.call (fun _ c => ∃ s, c = .setSender s) h h')
    (hbyte : h.message.errSender = packed h.error.code h.sender.code) :
    h'.message.errSender = packed h'.error.code h'.sender.code ∧ h'.error = h.error := by
  refine hrun.invariant (I := fun t => t.message.errSender = packed t.error.code t.sender.code ∧
    t.error = h.error) ⟨hbyte, rfl⟩ ?_
  rintro t _ u ⟨htbyte, hterror⟩ ⟨s, rfl⟩ hcall
  cases hcall
  by_cases hs : IsSender s
  · rw [dif_pos hs]
    have hset := setSender_packed t.error t.sender ⟨s, hs⟩ htbyte
    exact ⟨congrArg (·.errSender) hset, hterror⟩
  · rw [dif_neg hs]
    rw [setSender_none hs]
    exact ⟨htbyte, hterror⟩

theorem Follows.byte (hf : Follows h) : h.message.errSender = packed h.error.code h.sender.code := by
  have hwritten := hf.encode
  rw [ACKMessage.encode, List.append_cancel_left_eq, List.cons.injEq] at hwritten
  exact hwritten.1

theorem follows_new (e : ErrorCode) (s : SenderCode) :
    ∃ m, ACKMessage.new (packed e.code s.code) = .ok m ∧ Follows ⟨m, e, s⟩ := by
  obtain ⟨er, her⟩ := e.exists_errors
  refine ⟨_, rfl, ⟨er, ?_, her⟩, sender_packed e s, rfl, rfl, rfl⟩
  rw [getErr, findError_packed, ← her, Errors.getValue_getErr, Errors.valueOf_name]

theorem follows_setErr (hf : Follows h) {e : ErrorCode} (hcall : h.call (.setErr e) = some h') :
    Follows h' ↔ SetsNothing h (.setErr e) := by
  have hcached := call_cached hcall
  cases hcall
  have hset := setErr_packed h.error e h.sender hf.byte
  constructor
  · intro hf'
    obtain ⟨er, her, hcode⟩ := hf.getErr
    obtain ⟨er', her', hcode'⟩ := hf'.getErr
    rw [getErr, hcached.1] at her'
    cases Except.ok.inj (her.symm.trans her')
    have hsender := hf'.getSender
    rw [hset] at hsender
    exact ⟨ErrorCode.ext (hcode'.symm.trans hcode), hsender.symm.trans (sender_shifted e h.sender)⟩
  · rintro ⟨rfl, hserver⟩
    have hzero : SERVER + h.error.code = h.error.code := BitVec.zero_add _
    rw [hserver, hzero, ← hserver, ← hf.byte] at hset
    rw [hset]
    exact hf

theorem follows_setSender (hf : Follows h) {s : BitVec 32}
    (hcall : h.call (.setSender s) = some h') : Follows h' ↔ SetsNothing h (.setSender s) := by
  have hcached := call_cached hcall
  cases hcall
  by_cases hs : IsSender s
  · rw [dif_pos hs] at hcached ⊢
    constructor
    · intro hf' _
      have hsender := hf'.cachedSender
      rw [hcached.2, hf'.getSender, hf.cachedSender, hf.getSender] at hsender
      exact hsender.symm
    · intro hsame
      have hset := setSender_packed h.error h.sender h.sender hf.byte
      rw [← hf.byte, ← hsame hs] at hset
      have hheld : (⟨s, hs⟩ : SenderCode) = h.sender := SenderCode.ext (hsame hs)
      rw [hset, hheld]
      exact hf
  · rw [dif_neg hs, setSender_none hs]
    exact iff_of_true hf fun hsender => absurd hsender hs

theorem calls_return (h : Held) (calls : List Call) : ∃ h', perform Held.call h calls = some h' := by
  induction calls generalizing h with
  | nil => exact ⟨h, rfl⟩
  | cons c calls ih =>
    rw [perform, List.foldlM_cons]
    cases c with
    | setErr e => exact ih _
    | setSender s => exact ih _

theorem follows_iff_sets_nothing (e : ErrorCode) (s : SenderCode) :
    ∃ m, ACKMessage.new (packed e.code s.code) = .ok m ∧ ∀ calls,
      (Along Follows Held.call ⟨m, e, s⟩ calls ↔ EachStep SetsNothing Held.call ⟨m, e, s⟩ calls) := by
  obtain ⟨m, hnew, hf⟩ := follows_new e s
  refine ⟨m, hnew, fun calls => ?_⟩
  obtain ⟨h', hrun⟩ := calls_return ⟨m, e, s⟩ calls
  have hstep (t : Held) (c : Call) (u : Held) (ht : Follows t) (hcall : t.call c = some u) :
      Follows u ↔ SetsNothing t c := by
    cases c with
    | setErr e => exact follows_setErr ht hcall
    | setSender s => exact follows_setSender ht hcall
  rw [along_iff hstep hrun]
  exact and_iff_right hf

def noError : ErrorCode := ⟨0#32, by decide⟩

def loginRefused : ErrorCode := ⟨2#32, by decide⟩

def fromServer : SenderCode := ⟨SERVER, .inl rfl⟩

theorem set_error_not_read_back :
    ∃ m, ACKMessage.new (packed noError.code fromServer.code) = .ok m ∧
      (m.setErr loginRefused.code).getErr = .ok .SUCCESS ∧
      ¬ Along Follows Held.call ⟨m, noError, fromServer⟩ [.setErr loginRefused] := by
  refine ⟨_, rfl, by decide, ?_⟩
  rintro ⟨_, hafter⟩
  obtain ⟨er, her, hcode⟩ := (hafter _ rfl).getErr
  cases her
  exact absurd hcode (by decide)

end ACKMessage

end Client
