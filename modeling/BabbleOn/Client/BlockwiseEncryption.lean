import BabbleOn.Client.OutgoingMessage
import BabbleOn.Client.ReaderThread
import BabbleOn.Library.CipherBlockChaining

namespace Client
open Execution CipherBlockChaining

-- AES/CBC/PKCS5Padding with the key in `aes`: no full block is no array, and no array is that long
def cipherSymmetricOut (aes : Block 16 → Block 16) (iv : Block 16) : Cipher (Stream 16) where
  getBlockSize := 16
  update s b :=
    let out := s.update aes b
    (if out.1 = [] then none else some out.1, out.2)
  doFinal s b :=
    let out := s.finish aes b
    (if out.length < 2 ^ 31 then some out else none, ⟨iv, []⟩)
  positive := block_positive
  bounded := by
    intro s b out s' h
    simp only [Prod.mk.injEq, Option.ite_none_right_eq_some, Option.some.injEq] at h
    obtain ⟨⟨hlen, rfl⟩, _⟩ := h
    exact hlen

variable {aes : Block 16 → Block 16} {iv : Block 16}

theorem doFinal_whole {b : Bytes} (hlen : b.length ≤ 16) :
    (cipherSymmetricOut aes iv).doFinal ⟨iv, []⟩ b = (some (whole aes iv b), ⟨iv, []⟩) := by
  have hsmall : (whole aes iv b).length < 2 ^ 31 := by
    rw [whole_length]
    omega
  exact Prod.ext (if_pos hsmall) rfl

-- "hi" under the key 00 01 .. 0f and the client's initialisation vector
example : whole (fun block => if block.toList = [0x39, 0x1d, 0x47, 0x65, 0x5b, 0x4d, 0x63, 0x6b, 0x59,
      0x3e, 0x56, 0x5a, 0x4d, 0x77, 0x6c, 0x67] then
      #v[0x80, 0xfb, 0xb6, 0x5c, 0x3b, 0xf3, 0x51, 0x9b, 0xfe, 0x80, 0x3c, 0x74, 0xf8, 0x07, 0x61, 0x77]
    else block)
    #v[0x51, 0x74, 0x49, 0x6b, 0x55, 0x43, 0x6d, 0x65, 0x57, 0x30, 0x58, 0x54, 0x43, 0x79, 0x62, 0x69]
    [0x68, 0x69] =
      [0x80, 0xfb, 0xb6, 0x5c, 0x3b, 0xf3, 0x51, 0x9b, 0xfe, 0x80, 0x3c, 0x74, 0xf8, 0x07, 0x61, 0x77] := by
  decide

theorem update_eq_some {s s' : Stream 16} {b out : Bytes}
    (h : (cipherSymmetricOut aes iv).update s b = (some out, s')) : s.update aes b = (out, s') := by
  simp only [cipherSymmetricOut, Prod.mk.injEq, Option.ite_none_left_eq_some, Option.some.injEq] at h
  exact Prod.ext h.1.2 h.2

theorem cipherSymmetricOut_updates {blocks : List Bytes} {s s' : Stream 16} {out last : Bytes}
    (hup : (cipherSymmetricOut aes iv).updates s blocks = some (out, s')) :
    out ++ s'.finish aes last = s.finish aes (blocks.flatten ++ last) := by
  induction blocks generalizing s out with
  | nil =>
    cases hup
    rfl
  | cons b blocks ih =>
    rw [Cipher.updates] at hup
    rcases hb : (cipherSymmetricOut aes iv).update s b with ⟨_ | first, s₁⟩
    · rw [hb] at hup
      cases hup
    · rw [hb] at hup
      obtain ⟨⟨rest, s₂⟩, hrest, hout⟩ := Option.map_eq_some_iff.mp hup
      cases hout
      have hjoin : (s.update aes b).1 ++ (s.update aes b).2.finish aes (blocks.flatten ++ last) =
          s.finish aes (b ++ (blocks.flatten ++ last)) := finish_update block_positive s b _
      rw [update_eq_some hb] at hjoin
      rw [List.append_assoc, ih hrest, hjoin, List.flatten_cons, List.append_assoc]

theorem cipherSymmetricOut_resets {message : JavaString} (hascii : IsAscii message) :
    BabbleOnClient.Resets (cipherSymmetricOut aes iv) ⟨iv, []⟩ (whole aes iv) message := by
  refine ⟨Nat.le_succ 15, fun j _ => doFinal_whole ?_⟩
  have hbit : IsAscii (BabbleOnClient.bit message j) := fun x hx =>
    hascii x (List.mem_of_mem_drop (List.mem_of_mem_take hx))
  rw [getBytes_length hbit, BabbleOnClient.bit_length]
  omega

namespace MsgMessage

variable {κ : Type} {c : Cipher κ} {message : JavaString}

theorem encryptLoop_run {chunk : Bytes} {write : Nat} (hwrite : write < chunk.length) (k : κ) :
    (∃ k', (encryptLoop c chunk write).run k = .error .illegalArgument k') ∨
      ∃ stop k', (encryptLoop c chunk write).run k = .ok stop k' ∧ write ≤ stop ∧
        stop < chunk.length ∧ chunk.length ≤ stop + c.getBlockSize := by
  fun_induction encryptLoop c chunk write generalizing k with
  | case1 write hnext hrange => exact .inl ⟨k, rfl⟩
  | case2 write hnext hrange ih =>
    rcases hout : c.update k ((chunk.drop write).take (write + c.getBlockSize)) with ⟨out, k₁⟩
    rw [bind_ok (Cipher.step_run hout)]
    rcases ih hnext k₁ with hthrown | ⟨stop, k', hrun, hle, hrest⟩
    · exact .inl hthrown
    · exact .inr ⟨stop, k', hrun, by omega, hrest⟩
  | case3 write hlast => exact .inr ⟨write, k, rfl, Nat.le_refl _, hwrite, by omega⟩

theorem doEncryption_long (hlong : c.getBlockSize < (getBytes message).length) (k : κ) :
    ∃ k', (doEncryption c message).run k = .error .illegalArgument k' := by
  have hne : 0 < (getBytes message).length := Nat.lt_of_le_of_lt (Nat.zero_le _) hlong
  unfold doEncryption
  rcases encryptLoop_run hne k with ⟨k', hrun⟩ | ⟨stop, k', hrun, _, hlt, hstop⟩
  · exact ⟨k', bind_error hrun⟩
  · refine ⟨k', ?_⟩
    rw [bind_ok hrun, if_pos hlt, if_pos (by omega)]
    rfl

theorem doEncryption_empty (hempty : getBytes message = []) (k : κ) :
    (doEncryption c message).run k = .ok [] k := by
  have hloop : (encryptLoop c [] 0).run k = .ok 0 k := by
    rw [encryptLoop, dif_neg (by simp), run_pure]
  unfold doEncryption
  rw [hempty, bind_ok hloop]
  rfl

end MsgMessage

def EncryptsWhole (aes : Block 16 → Block 16) (iv : Block 16) (message : JavaString) : Prop :=
  ∃ s, (MsgMessage.doEncryption (cipherSymmetricOut aes iv) message).run ⟨iv, []⟩ =
    .ok (whole aes iv (getBytes message)) s

theorem encrypts_whole_iff (aes : Block 16 → Block 16) (iv : Block 16) (message : JavaString) :
    EncryptsWhole aes iv message ↔
      0 < (getBytes message).length ∧ (getBytes message).length ≤ 16 := by
  constructor
  · rintro ⟨s, hrun⟩
    constructor
    · rcases Nat.eq_zero_or_pos (getBytes message).length with hnone | hpos
      · have hempty := List.eq_nil_of_length_eq_zero hnone
        have hwhole : (whole aes iv (getBytes message)).length = 16 * (_ / 16 + 1) :=
          whole_length _
        rw [MsgMessage.doEncryption_empty hempty] at hrun
        rw [← (EStateM.Result.ok.inj hrun).1, List.length_nil] at hwhole
        omega
      · exact hpos
    · by_contra hlong
      obtain ⟨s', herror⟩ := MsgMessage.doEncryption_long (c := cipherSymmetricOut aes iv)
        (Nat.lt_of_not_le hlong) ⟨iv, []⟩
      rw [herror] at hrun
      cases hrun
  · rintro ⟨hne, hlen⟩
    exact ⟨_, MsgMessage.doEncryption_short hlen hne (doFinal_whole hlen)⟩

def seventeenLetters : JavaString := List.replicate 17 97#16

theorem seventeen_letters_refused :
    IsAscii seventeenLetters ∧ ¬ ∃ aes iv, EncryptsWhole aes iv seventeenLetters := by
  have hascii : IsAscii seventeenLetters := by simp [IsAscii, seventeenLetters]
  refine ⟨hascii, ?_⟩
  rintro ⟨aes, iv, s, hrun⟩
  have hlong : 16 < (getBytes seventeenLetters).length := by
    rw [getBytes_length hascii]
    decide
  obtain ⟨s', herror⟩ := MsgMessage.doEncryption_long (c := cipherSymmetricOut aes iv) hlong ⟨iv, []⟩
  rw [herror] at hrun
  cases hrun

end Client
