import BabbleOn.Library.Runs
import BabbleOn.Server.SPChatFrame

namespace Server
open Execution PartialMemory Runs

-- an exception that leaves the object as it was; reading outside of the argument is no exception
def Unharmed {σ : Type} (before : σ) (r : EStateM.Result Fault σ Unit) : Prop :=
  ∀ e after, r = .error e after → (∀ i, e ≠ .outOfBounds i) → after = before

namespace SPChatLogin

-- the public overload with a position: `setKeyAt` for every pointer and every two `int`s
def setKeyFrom (keyType : Byte) (newKey : Int → Option Byte) (keyLen pos : BitVec 32) :
    EStateM Fault SPChatLogin Unit := do
  modify fun m => { m with key := [], encSymKey := [] }
  if keyType = ENCRYPTED_SYM_KEY ∧ keyLen.toInt - pos.toInt = ENCRYPTED_SYM_LENGTH then do
    modify fun m => { m with keyType := keyType }
    let bytes ← slice (fun i => .outOfBounds (pos.toInt + i).toNat) (fun i => newKey (pos.toInt + i)) 0
      (keyLen.toInt - pos.toInt).toNat
    modify fun m => { m with encSymKey := m.encSymKey ++ bytes }
  else
    throw (.spchat BAD_KEY_EXCEPTION)

end SPChatLogin

namespace SPChatACK

-- the `switch` of an `int`: a negative one is no case
def setErrorInt (error : BitVec 32) : EStateM Fault SPChatACK Unit :=
  match error.toInt with
  | .ofNat n => setError n
  | .negSucc _ => throw (.spchat INVALID_ERROR_EXCEPTION)

def setSenderInt (sender : BitVec 32) : EStateM Fault SPChatACK Unit :=
  match sender.toInt with
  | .ofNat n => setSender n
  | .negSucc _ => throw (.spchat INVALID_SENDER_EXCEPTION)

end SPChatACK

inductive SetterCall where
  | setUsername (username : Str)
  | setKey (keyType : Byte) (newKey : Str) (keyLen : BitVec 32)
  | setKeyFrom (keyType : Byte) (newKey : Int → Option Byte) (keyLen pos : BitVec 32)
  | setChallenge (challenge : Str)
  | setError (error : BitVec 32)
  | setSender (sender : BitVec 32)
  | setListNum (listNum : BitVec 32)
  | setTotalList (totalList : BitVec 32)
  | setMsgList (msgList : List SPChatMsgMessage)

namespace SPChatMessage

def lift {σ : Type} (of : σ → SPChatMessage) :
    EStateM.Result Fault σ Unit → EStateM.Result Fault SPChatMessage Unit
  | .ok u m => .ok u (of m)
  | .error e m => .error e (of m)

-- `none` where the class has no such setter
def set : SPChatMessage → SetterCall → Option (EStateM.Result Fault SPChatMessage Unit)
  | login m, .setUsername username => some (lift login ((SPChatLogin.setUsername username).run m))
  | login m, .setKey keyType newKey keyLen =>
    some (lift login ((SPChatLogin.setKey keyType newKey keyLen).run m))
  | login m, .setKeyFrom keyType newKey keyLen pos =>
    some (lift login ((SPChatLogin.setKeyFrom keyType newKey keyLen pos).run m))
  | challenge m, .setChallenge bytes => some (lift challenge ((SPChatChallenge.setChallenge bytes).run m))
  | ack m, .setError error => some (lift ack ((SPChatACK.setErrorInt error).run m))
  | ack m, .setSender sender => some (lift ack ((SPChatACK.setSenderInt sender).run m))
  | pollResponse m, .setUsername username =>
    some (lift pollResponse ((SPChatPollResponse.setUsername username).run m))
  | pollResponse m, .setListNum listNum =>
    some (lift pollResponse ((SPChatPollResponse.setListNum listNum).run m))
  | pollResponse m, .setTotalList totalList =>
    some (lift pollResponse ((SPChatPollResponse.setTotalList totalList).run m))
  | pollResponse m, .setMsgList msgList =>
    some (lift pollResponse ((SPChatPollResponse.setMsgList msgList).run m))
  | _, _ => none

def next (m : SPChatMessage) (call : SetterCall) : Option SPChatMessage :=
  match m.set call with
  | some (.ok _ m') => some m'
  | some (.error (.outOfBounds _) _) => none
  | some (.error _ m') => some m'
  | none => none

def Kept (m : SPChatMessage) (call : SetterCall) : Prop := ∀ r, m.set call = some r → Unharmed m r

end SPChatMessage

namespace SPChatLogin

def Keyless (m : SPChatLogin) : Prop := m.key = [] ∧ m.encSymKey = []

def BadKey (keyType : Byte) (keyLen : Int) : Prop :=
  keyType ≠ NO_KEY ∧ ¬ (keyType = ASYMMETRIC_KEY ∧ keyLen = ASYMMETRIC_LENGTH) ∧
    ¬ (keyType = ENCRYPTED_SYM_KEY ∧ keyLen = ENCRYPTED_SYM_LENGTH)

def BadLayout (keyType : Byte) (newKey : Str) (keyLen : Int) : Prop :=
  keyType = ASYMMETRIC_KEY ∧ keyLen = ASYMMETRIC_LENGTH ∧ ASYMMETRIC_LENGTH ≤ newKey.length ∧
    pemLayout (newKey.take ASYMMETRIC_LENGTH) = false

end SPChatLogin

namespace SPChatMessage

-- what the two setters of a key clear and set before they check is like that already
def Spared : SPChatMessage → SetterCall → Prop
  | login m, .setKey keyType newKey keyLen =>
    (SPChatLogin.BadKey keyType keyLen.toInt → m.Keyless) ∧
      (SPChatLogin.BadLayout keyType newKey keyLen.toInt →
        m.Keyless ∧ m.keyType = SPChatLogin.ASYMMETRIC_KEY)
  | login m, .setKeyFrom keyType _ keyLen pos =>
    ¬ (keyType = SPChatLogin.ENCRYPTED_SYM_KEY ∧
        keyLen.toInt - pos.toInt = SPChatLogin.ENCRYPTED_SYM_LENGTH) → m.Keyless
  | _, _ => True

end SPChatMessage

section Unharmed

variable {σ : Type} {m : σ}

theorem unharmed_ok (m' : σ) : Unharmed m (.ok () m') := nofun

theorem unharmed_fault (i : Nat) (m' : σ) : Unharmed m (.error (.outOfBounds i) m') := by
  intro e after h hfault
  cases h
  exact absurd rfl (hfault i)

theorem unharmed_spchat (message : String) (m' : σ) :
    Unharmed m (.error (.spchat message) m') ↔ m' = m := by
  constructor
  · intro h
    exact h _ _ rfl nofun
  · rintro rfl e after h _
    cases h
    rfl

theorem unharmed_lift {of : σ → SPChatMessage} (hof : Function.Injective of)
    (r : EStateM.Result Fault σ Unit) :
    Unharmed (of m) (SPChatMessage.lift of r) ↔ Unharmed m r := by
  cases r with
  | ok u m' => exact iff_of_true nofun nofun
  | error e m' =>
    constructor
    · intro h e' after hr hfault
      cases hr
      exact hof (h _ _ rfl hfault)
    · intro h e' after hr hfault
      cases hr
      exact congrArg of (h _ _ rfl hfault)

theorem setIf_unharmed {α : Type} {ok : α → Bool} {message : String} {put : α → σ → σ} (a : α) :
    Unharmed m ((setIf ok (.spchat message) put a).run m) := by
  cases h : ok a with
  | true =>
    rw [setIf_ok h]
    exact unharmed_ok _
  | false =>
    rw [setIf_error h]
    exact (unharmed_spchat _ _).mpr rfl

end Unharmed

namespace SPChatLogin

variable {m : SPChatLogin}

theorem setAsymmetricKey_error {newKey : Str} (hp : pemLayout newKey = false) (m : SPChatLogin) :
    (setAsymmetricKey newKey).run m =
      .error (.spchat ASYMMETRIC_KEY_EXCEPTION) { m with keyType := ASYMMETRIC_KEY } := by
  unfold setAsymmetricKey
  rw [bind_ok (run_modify _ _)]
  split_ifs with hh hf he
  · rfl
  · rfl
  · rfl
  · simp [pemLayout, hh, hf, he] at hp

theorem keyBytes_outcome {σ : Type} {newKey : Str} {keyLen : BitVec 32} {n : Nat}
    (hn : keyLen.toInt = n) (s : σ) :
    (n ≤ newKey.length ∧ (keyBytes newKey keyLen).run s = .ok (newKey.take n) s) ∨
      newKey.length < n ∧ ∃ i s', (keyBytes newKey keyLen).run s = .error (.outOfBounds i) s' := by
  have hnat : keyLen.toNat = n := by
    have hcond := BitVec.toInt_eq_toNat_cond keyLen
    split at hcond <;> omega
  by_cases hlong : n ≤ newKey.length
  · have htake : (newKey.take n).length = keyLen.toNat := by
      rw [List.length_take]
      omega
    have hread := keyBytes_ok (newKey.drop n) (by omega) htake s
    rw [List.take_append_drop] at hread
    exact .inl ⟨hlong, hread⟩
  · unfold keyBytes
    rw [if_neg (by omega), hnat]
    cases hread : (slice .outOfBounds (ofList newKey) 0 n : EStateM Fault σ Str).run s with
    | ok bytes s' => exact absurd (slice_ofList hread).1 hlong
    | error f s' =>
      obtain ⟨i, rfl⟩ := slice_eq_error hread
      exact .inr ⟨by omega, i, s', rfl⟩

theorem keyless_iff (m : SPChatLogin) : { m with key := [], encSymKey := [] } = m ↔ m.Keyless := by
  obtain ⟨username, keyType, key, encSymKey⟩ := m
  simp [Keyless, eq_comm]

theorem asymmetricKeyless_iff (m : SPChatLogin) :
    { m with key := [], encSymKey := [], keyType := ASYMMETRIC_KEY } = m ↔
      m.Keyless ∧ m.keyType = ASYMMETRIC_KEY := by
  obtain ⟨username, keyType, key, encSymKey⟩ := m
  simp only [Keyless, mk.injEq, true_and]
  constructor
  · rintro ⟨rfl, rfl, rfl⟩
    exact ⟨⟨rfl, rfl⟩, rfl⟩
  · rintro ⟨⟨rfl, rfl⟩, rfl⟩
    exact ⟨rfl, rfl, rfl⟩

theorem setKey_unharmed_iff {keyType : Byte} {newKey : Str} {keyLen : BitVec 32} :
    Unharmed m ((setKey keyType newKey keyLen).run m) ↔
      (BadKey keyType keyLen.toInt → m.Keyless) ∧
        (BadLayout keyType newKey keyLen.toInt → m.Keyless ∧ m.keyType = ASYMMETRIC_KEY) := by
  unfold setKey
  rw [bind_ok (run_modify _ _)]
  by_cases hn : keyType = NO_KEY
  · rw [if_pos hn, run_modify]
    refine iff_of_true (unharmed_ok _) ⟨fun hbad => absurd hn hbad.1, fun hbad => ?_⟩
    exact absurd (hn.symm.trans hbad.1) noKey_ne_asymmetric
  by_cases ha : keyType = ASYMMETRIC_KEY ∧ keyLen.toInt = ASYMMETRIC_LENGTH
  · rw [if_neg hn, if_pos ha]
    have hkey : ¬ BadKey keyType keyLen.toInt := fun hbad => hbad.2.1 ha
    rcases keyBytes_outcome ha.2 { m with key := [], encSymKey := [] } with
      ⟨hlong, hread⟩ | ⟨hshort, i, m', hread⟩
    · rw [bind_ok hread]
      cases hp : pemLayout (newKey.take ASYMMETRIC_LENGTH) with
      | true =>
        rw [bind_ok (setAsymmetricKey_ok hp _), run_modify]
        refine iff_of_true (unharmed_ok _) ⟨fun hbad => absurd hbad hkey, fun hbad => ?_⟩
        rw [hbad.2.2.2] at hp
        cases hp
      | false =>
        rw [bind_error (setAsymmetricKey_error hp _), unharmed_spchat]
        exact (asymmetricKeyless_iff m).trans ⟨fun h => ⟨fun hbad => absurd hbad hkey, fun _ => h⟩,
          fun h => h.2 ⟨ha.1, ha.2, hlong, hp⟩⟩
    · rw [bind_error hread]
      exact iff_of_true (unharmed_fault i m') ⟨fun hbad => absurd hbad hkey,
        fun hbad => absurd hbad.2.2.1 (Nat.not_le.mpr hshort)⟩
  have hlayout : ¬ BadLayout keyType newKey keyLen.toInt := fun hbad => ha ⟨hbad.1, hbad.2.1⟩
  by_cases hs : keyType = ENCRYPTED_SYM_KEY ∧ keyLen.toInt = ENCRYPTED_SYM_LENGTH
  · rw [if_neg hn, if_neg ha, if_pos hs, bind_ok (run_modify _ _)]
    have hkey : ¬ BadKey keyType keyLen.toInt := fun hbad => hbad.2.2 hs
    rcases keyBytes_outcome hs.2 { m with key := [], encSymKey := [], keyType := keyType } with
      ⟨_, hread⟩ | ⟨_, i, m', hread⟩
    · rw [bind_ok hread, run_modify]
      exact iff_of_true (unharmed_ok _) ⟨fun hbad => absurd hbad hkey, fun hbad => absurd hbad hlayout⟩
    · rw [bind_error hread]
      exact iff_of_true (unharmed_fault i m')
        ⟨fun hbad => absurd hbad hkey, fun hbad => absurd hbad hlayout⟩
  · rw [if_neg hn, if_neg ha, if_neg hs, run_throw, unharmed_spchat]
    exact (keyless_iff m).trans ⟨fun h => ⟨fun _ => h, fun hbad => absurd hbad hlayout⟩,
      fun h => h.1 ⟨hn, ha, hs⟩⟩

theorem setKeyFrom_unharmed_iff {keyType : Byte} {newKey : Int → Option Byte} {keyLen pos : BitVec 32} :
    Unharmed m ((setKeyFrom keyType newKey keyLen pos).run m) ↔
      (¬ (keyType = ENCRYPTED_SYM_KEY ∧ keyLen.toInt - pos.toInt = ENCRYPTED_SYM_LENGTH) →
        m.Keyless) := by
  unfold setKeyFrom
  rw [bind_ok (run_modify _ _)]
  by_cases hs : keyType = ENCRYPTED_SYM_KEY ∧ keyLen.toInt - pos.toInt = ENCRYPTED_SYM_LENGTH
  · rw [if_pos hs, bind_ok (run_modify _ _)]
    refine iff_of_true ?_ fun hbad => absurd hs hbad
    cases hread : (slice (fun i => .outOfBounds (pos.toInt + i).toNat) (fun i => newKey (pos.toInt + i)) 0
        (keyLen.toInt - pos.toInt).toNat : EStateM Fault SPChatLogin Str).run
          { m with key := [], encSymKey := [], keyType := keyType } with
    | ok bytes m' =>
      rw [bind_ok hread, run_modify]
      exact unharmed_ok _
    | error f m' =>
      obtain ⟨i, rfl⟩ := slice_eq_error hread
      rw [bind_error hread]
      exact unharmed_fault _ m'
  · rw [if_neg hs, run_throw, unharmed_spchat]
    exact (keyless_iff m).trans ⟨fun h _ => h, fun h => h hs⟩

theorem setKeyFrom_at (keyType : Byte) (newKey : Buffer) {keyLen pos : Nat} (hlen : keyLen < 2 ^ 31)
    (hpos : pos < 2 ^ 31) (m : SPChatLogin) :
    (setKeyFrom keyType (fun i => newKey i.toNat) (BitVec.ofNat 32 keyLen) (BitVec.ofNat 32 pos)).run m =
      (setKeyAt keyType newKey keyLen pos).run m := by
  unfold setKeyFrom setKeyAt
  rw [SignedWords.toInt_ofNat_small hlen, SignedWords.toInt_ofNat_small hpos]
  have hcount : ((keyLen : Int) - pos).toNat = keyLen - pos := by omega
  have hmem : ∀ i : Nat, ((pos : Int) + i).toNat = pos + i := fun i => by omega
  simp only [hcount, hmem, slice, gather, fetch, Nat.zero_add]

end SPChatLogin

namespace SPChatACK

theorem setError_unharmed (error : Nat) (m : SPChatACK) : Unharmed m ((setError error).run m) := by
  unfold setError
  split
  case h_7 => exact (unharmed_spchat _ _).mpr rfl
  all_goals exact unharmed_ok _

theorem setSender_unharmed (sender : Nat) (m : SPChatACK) : Unharmed m ((setSender sender).run m) := by
  unfold setSender
  split
  · exact unharmed_ok _
  · exact unharmed_ok _
  · exact (unharmed_spchat _ _).mpr rfl

theorem setErrorInt_unharmed (error : BitVec 32) (m : SPChatACK) :
    Unharmed m ((setErrorInt error).run m) := by
  unfold setErrorInt
  split
  · exact setError_unharmed _ m
  · exact (unharmed_spchat _ _).mpr rfl

theorem setSenderInt_unharmed (sender : BitVec 32) (m : SPChatACK) :
    Unharmed m ((setSenderInt sender).run m) := by
  unfold setSenderInt
  split
  · exact setSender_unharmed _ m
  · exact (unharmed_spchat _ _).mpr rfl

end SPChatACK

namespace SPChatMessage

theorem kept_of_set {m : SPChatMessage} {call : SetterCall}
    {r : EStateM.Result Fault SPChatMessage Unit} (hset : m.set call = some r) :
    Kept m call ↔ Unharmed m r := by
  rw [Kept, hset]
  simp

theorem kept_none {m : SPChatMessage} {call : SetterCall} (hset : m.set call = none) : Kept m call := by
  rw [Kept, hset]
  nofun

theorem kept_of_unharmed {σ : Type} {of : σ → SPChatMessage} (hof : Function.Injective of) {m : σ}
    {call : SetterCall} {r : EStateM.Result Fault σ Unit} (hset : (of m).set call = some (lift of r))
    (h : Unharmed m r) : Kept (of m) call :=
  (kept_of_set hset).mpr ((unharmed_lift hof r).mpr h)

theorem kept_iff (m : SPChatMessage) (call : SetterCall) : Kept m call ↔ Spared m call := by
  have hlogin : Function.Injective login := fun _ _ h => login.inj h
  have hchallenge : Function.Injective challenge := fun _ _ h => challenge.inj h
  have hack : Function.Injective ack := fun _ _ h => ack.inj h
  have hpoll : Function.Injective pollResponse := fun _ _ h => pollResponse.inj h
  cases m with
  | login m =>
    cases call with
    | setUsername username =>
      exact iff_of_true (kept_of_unharmed hlogin rfl (setIf_unharmed username)) trivial
    | setKey keyType newKey keyLen =>
      rw [kept_of_set rfl, unharmed_lift hlogin, SPChatLogin.setKey_unharmed_iff, Spared]
    | setKeyFrom keyType newKey keyLen pos =>
      rw [kept_of_set rfl, unharmed_lift hlogin, SPChatLogin.setKeyFrom_unharmed_iff, Spared]
    | _ => exact iff_of_true (kept_none rfl) trivial
  | challenge m =>
    cases call with
    | setChallenge bytes =>
      exact iff_of_true (kept_of_unharmed hchallenge rfl (setIf_unharmed bytes)) trivial
    | _ => exact iff_of_true (kept_none rfl) trivial
  | ack m =>
    cases call with
    | setError error =>
      exact iff_of_true (kept_of_unharmed hack rfl (SPChatACK.setErrorInt_unharmed error m)) trivial
    | setSender sender =>
      exact iff_of_true (kept_of_unharmed hack rfl (SPChatACK.setSenderInt_unharmed sender m)) trivial
    | _ => exact iff_of_true (kept_none rfl) trivial
  | response m => exact iff_of_true (kept_none rfl) trivial
  | poll m => exact iff_of_true (kept_none rfl) trivial
  | pollResponse m =>
    cases call with
    | setUsername username =>
      exact iff_of_true (kept_of_unharmed hpoll rfl (setIf_unharmed username)) trivial
    | setListNum listNum =>
      exact iff_of_true (kept_of_unharmed hpoll rfl (setIf_unharmed listNum)) trivial
    | setTotalList totalList =>
      exact iff_of_true (kept_of_unharmed hpoll rfl (setIf_unharmed totalList)) trivial
    | setMsgList msgList => exact iff_of_true (kept_of_unharmed hpoll rfl (unharmed_ok _)) trivial
    | _ => exact iff_of_true (kept_none rfl) trivial

theorem failing_setters_iff (start : SPChatMessage) (calls : List SetterCall) :
    EachStep Kept next start calls ↔ EachStep Spared next start calls := by
  have hsame : Kept = Spared := funext₂ fun m call => propext (kept_iff m call)
  rw [hsame]

theorem key_lost : ∃ m, SPChatLogin.new (ascii "bob") SPChatLogin.ENCRYPTED_SYM_KEY
      (List.replicate 128 0#8) 128#32 = .ok m ∧
    ¬ EachStep Kept next (login m) [.setKey 9#8 [] 0#32] := by
  have hnew := SPChatLogin.new_symmetric (show validUsername (ascii "bob") = true by decide)
    (show (List.replicate 128 0#8 : Str).length = SPChatLogin.ENCRYPTED_SYM_LENGTH from
      List.length_replicate)
  refine ⟨_, hnew, fun heach => ?_⟩
  have hspared := (kept_iff _ _).mp heach.1
  have hkeyless := hspared.1 ⟨by decide, by decide, by decide⟩
  exact absurd (congrArg List.length hkeyless.2) (by simp)

end SPChatMessage

end Server
