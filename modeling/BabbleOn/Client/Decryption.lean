import BabbleOn.Client.BlockwiseEncryption
import BabbleOn.Library.BlockDeciphering
import BabbleOn.Library.ProgramLogic

namespace Client
open Execution ProgramLogic CipherBlockChaining Pieces

def BabbleOnClient.SYM_IV_STRING : JavaString := java "QtIkUCmeW0XTCybi"

def BabbleOnClient.symIv : Block 16 := front (getBytes SYM_IV_STRING)

-- AES/CBC/PKCS5Padding with the key in `aes`: a call that has nothing to give returns no array, or
-- with `arrays` an empty one
def cipherSymmetricIn (aes : Equiv.Perm (Block 16)) (iv : Block 16) (arrays : Bool) :
    Cipher (Stream 16) where
  getBlockSize := 16
  update s b :=
    let out := s.reveal aes b
    (if out.1 = [] ∧ arrays = false then none else some out.1, out.2)
  doFinal s b :=
    match s.complete aes b with
    | some text => if text.length < 2 ^ 31 then (some text, ⟨iv, []⟩) else (none, s)
    | none => (none, s)
  positive := block_positive
  bounded := by
    intro s b out s' h
    split at h
    · split at h
      · cases h
        assumption
      · cases h
    · cases h

section Streaming

variable {aes : Equiv.Perm (Block 16)} {iv : Block 16} {arrays : Bool} {text : Bytes}

theorem doFinal_start {s s' : Stream 16} {b out : Bytes}
    (h : (cipherSymmetricIn aes iv arrays).doFinal s b = (some out, s')) : s' = ⟨iv, []⟩ := by
  simp only [cipherSymmetricIn] at h
  split at h
  · split at h
    · cases h
      rfl
    · cases h
  · cases h

theorem doFinal_complete {s : Stream 16} {b : Bytes} (h : s.complete aes b = some text)
    (hlen : text.length < 2 ^ 31) :
    (cipherSymmetricIn aes iv arrays).doFinal s b = (some text, ⟨iv, []⟩) := by
  simp only [cipherSymmetricIn, h, if_pos hlen]

theorem cipherSymmetricIn_updates (blocks : List Bytes) (s : Stream 16) :
    ∃ out s', (cipherSymmetricIn aes iv true).updates s blocks = some (out, s') ∧
      ∀ last, (s'.complete aes last).map (out ++ ·) = s.complete aes (blocks.flatten ++ last) := by
  induction blocks generalizing s with
  | nil => exact ⟨[], s, rfl, fun last => by simp⟩
  | cons b blocks ih =>
    obtain ⟨out, s', hrest, hlast⟩ := ih (s.reveal aes b).2
    have hupdate : (cipherSymmetricIn aes iv true).update s b =
        (some (s.reveal aes b).1, (s.reveal aes b).2) := by
      simp only [cipherSymmetricIn, Bool.true_eq_false, and_false, if_false]
    refine ⟨(s.reveal aes b).1 ++ out, s', ?_, fun last => ?_⟩
    · rw [Cipher.updates, hupdate]
      dsimp only
      rw [hrest]
      rfl
    · have hjoin := @complete_reveal _ aes block_positive s b (blocks.flatten ++ last)
      rw [← hlast last, Option.map_map] at hjoin
      rw [List.flatten_cons, List.append_assoc, ← hjoin]
      congr 1
      funext fin
      exact List.append_assoc _ _ _

theorem reveal_block {b : Bytes} (hb : b.length = 16) :
    (Stream.reveal aes ⟨iv, []⟩ b).1 = [] := by
  simp only [Stream.reveal, List.nil_append, hb]
  rfl

theorem whole_pieces (aes : Block 16 → Block 16) (text : Bytes) :
    (pieces 16 (text.length / 16) (whole aes iv text)).flatten ++
      (whole aes iv text).drop (16 * (text.length / 16)) = whole aes iv text := by
  rw [pieces_flatten_take, List.take_append_drop]

theorem decrypts_whole_iff (hlen : text.length < 2 ^ 31) :
    MsgMessage.Decrypts (cipherSymmetricIn aes iv arrays) ⟨iv, []⟩ (whole aes iv text) text ↔
      arrays = true ∨ text.length < 16 := by
  have hrecover : Stream.complete aes ⟨iv, []⟩ (whole aes iv text) = some text :=
    recover_whole (by decide) (by decide) text
  constructor
  · rintro ⟨_, _, out, s, fin, s', hup, _, _⟩
    by_contra hnot
    obtain ⟨rfl, hlong⟩ : arrays = false ∧ 16 ≤ text.length := by simpa using hnot
    obtain ⟨n, hn⟩ : ∃ n, text.length / 16 = n + 1 := Nat.exists_eq_succ_of_ne_zero (by omega)
    -- the first block alone is held back whole
    have hfirst : ((whole aes iv text).take 16).length = 16 := by
      rw [List.length_take, whole_length]
      omega
    have hnone : (cipherSymmetricIn aes iv false).update ⟨iv, []⟩ ((whole aes iv text).take 16) =
        (none, (Stream.reveal aes ⟨iv, []⟩ ((whole aes iv text).take 16)).2) := by
      simp only [cipherSymmetricIn, reveal_block hfirst, and_self, if_true]
    rw [hn, pieces_succ, Cipher.updates, hnone] at hup
    cases hup
  · intro hgives
    obtain ⟨out, s, hup, hlast⟩ : ∃ out s, (cipherSymmetricIn aes iv arrays).updates ⟨iv, []⟩
        (pieces 16 (text.length / 16) (whole aes iv text)) = some (out, s) ∧ ∀ last,
          (s.complete aes last).map (out ++ ·) = Stream.complete aes ⟨iv, []⟩
            ((pieces 16 (text.length / 16) (whole aes iv text)).flatten ++ last) := by
      rcases hgives with rfl | hshort
      · exact cipherSymmetricIn_updates _ _
      · rw [Nat.div_eq_of_lt hshort]
        exact ⟨[], _, rfl, fun last => by simp [pieces]⟩
    have hjoin := hlast ((whole aes iv text).drop (16 * (text.length / 16)))
    rw [whole_pieces, hrecover] at hjoin
    obtain ⟨fin, hfin, htext⟩ := Option.map_eq_some_iff.mp hjoin
    have hshort : fin.length < 2 ^ 31 := by
      rw [← htext, List.length_append] at hlen
      omega
    exact ⟨rfl, whole_length text, out, s, fin, _, hup, doFinal_complete hfin hshort, htext⟩

end Streaming

namespace MsgMessage

variable {κ : Type} {c : Cipher κ} {start : κ}

theorem fromInput_leaves {α : Type} (m : Input α) :
    Leaves Reader.decrypt (fromInput m : EStateM JavaThrow (Reader κ) α) := by
  intro r
  simp only [EStateM.run, fromInput]
  cases m r.input <;> rfl

theorem decryptLoop_below {total read : Nat} {chunk bs : Bytes} (h : read < total) :
    ProgramLogic.Ends (fun _ _ => True) (fun _ : Reader κ => True) (decryptLoop c total read chunk bs)
      fun stop _ => stop.1 < total := by
  fun_induction decryptLoop c total read chunk bs with
  | case1 read chunk bs hmore ih =>
    refine ends_bind (R := fun _ _ => True) (fun r _ => by split <;> trivial) fun chunk =>
      ends_bind (R := fun _ _ => True) (fun r _ => by split <;> trivial) fun out => ?_
    cases out with
    | none => exact ends_throw fun _ _ => trivial
    | some out => exact ih chunk out hmore
  | case2 read chunk bs hlast => exact ends_pure fun _ _ => h

def Returned (start : κ) (r : Reader κ) : Prop := r.decrypt = start

abbrev Returns {α : Type} (start : κ) (m : EStateM JavaThrow (Reader κ) α) : Prop :=
  ProgramLogic.Ends (fun _ _ => True) (Returned start) m fun _ => Returned start

theorem fromInput_returns {α : Type} (m : Input α) : Returns start (fromInput m) :=
  ProgramLogic.Ends.consequence ((fromInput_leaves m).keeps (J := (· = start))) (fun _ h => h)
    (fun _ _ h => h)
    fun _ _ _ => trivial

theorem throw_returns {α : Type} (e : JavaThrow) :
    Returns start (throw e : EStateM JavaThrow (Reader κ) α) := ends_throw fun _ _ => trivial

theorem last_returns {α : Type} (hfinal : ∀ k b out k', c.doFinal k b = (some out, k') → k' = start)
    {rest : Bytes → EStateM JavaThrow (Reader κ) α} (hrest : ∀ bs, Returns start (rest bs))
    (total read : Nat) (chunk bs : Bytes) :
    ProgramLogic.Ends (fun _ _ => True) (fun r : Reader κ => read < total ∨ Returned start r)
      (if read < total then do
        let chunk ← fromInput (Client.read chunk)
        let out ← fromCipher (Cipher.step fun k => c.doFinal k chunk)
        match out with
        | none => do
          let bs ← throw (.babble "Bad stuffs happening in messages: ")
          rest bs
        | some out => do
          let bs ← pure (bs ++ out)
          rest bs
      else do
        let bs ← pure bs
        rest bs) fun _ => Returned start := by
  refine ends_ite (fun _ => ?_) fun hlast => ?_
  · refine ends_bind (R := fun _ _ => True) (fun r _ => by split <;> trivial) fun chunk =>
      ends_bind (R := fun out (r : Reader κ) => out ≠ none → Returned start r) (fun r _ => ?_)
        fun out => ?_
    · split
      · rename_i hrun
        obtain ⟨hstep, _⟩ := fromCipher_eq_ok.mp hrun
        intro hsome
        obtain ⟨out, rfl⟩ := Option.ne_none_iff_exists'.mp hsome
        exact hfinal _ _ _ _ (Cipher.step_inv hstep)
      · trivial
    · cases out with
      | none => exact ends_throw fun _ _ => trivial
      | some out => exact ends_bind (ends_pure fun _ h => h (by simp)) fun bs => hrest bs
  · exact ends_bind (ends_pure fun _ h => h.resolve_left hlast) fun bs => hrest bs

theorem ofStream_returns (hfinal : ∀ k b out k', c.doFinal k b = (some out, k') → k' = start)
    (now : BitVec 64) : Returns start (ofStream now c) := by
  refine ends_bind (fromInput_returns _) fun senderUsernameLength =>
    ends_bind (fromInput_returns _) fun senderUsername => ends_ite (fun _ => throw_returns _) fun _ =>
    ends_bind (fromInput_returns _) fun receiverUsernameLength =>
    ends_bind (fromInput_returns _) fun receiverUsername => ends_ite (fun _ => throw_returns _) fun _ =>
    ends_bind (fromInput_returns _) fun messageLengthEncrypted => ends_bind
      (R := fun stop r => stop.1 < messageLengthEncrypted.toNat ∨ Returned start r) ?_ fun stop => ?_
  · rcases Nat.eq_zero_or_pos messageLengthEncrypted.toNat with hnone | hpos
    · rw [decryptLoop, dif_neg (by omega)]
      exact ends_pure fun _ h => .inr h
    · exact (decryptLoop_below hpos).consequence (fun _ _ => trivial) (fun _ _ h => .inl h)
        fun _ _ h => h
  · exact last_returns hfinal (fun bs => ends_bind (fromInput_returns _) fun messageLenDecrypted =>
      ends_ite (fun _ => throw_returns _) fun _ => ends_bind (fromInput_returns _) fun messageNumber =>
      ends_bind (fromInput_returns _) fun totalMessages => ends_ite (fun _ => throw_returns _) fun _ =>
      ends_ite (fun _ => throw_returns _) fun _ => ends_bind (fromInput_returns _) fun timestamp =>
      ends_ite (fun _ => throw_returns _) fun _ => ends_ite (fun _ => throw_returns _) fun _ =>
      ends_pure fun _ h => h) _ _ _ _

end MsgMessage

end Client
