import BabbleOn.Agreement.ClientFrames
import BabbleOn.Client.OutgoingMessage
import BabbleOn.Library.LineWrap

namespace Agreement
open Execution Client Server LineWrap

-- what `decodeKey` cuts out before it hands the text to the Base64 decoder
def justKey (key : JavaString) : Except JavaThrow JavaString :=
  BabbleOnClient.substring key LoginMessage.KEY_FILE_HEADER.length
    ((key.length : Int) - LoginMessage.KEY_FILE_FOOTER.length)

def base64Char (b : Client.Byte) : Bool :=
  (65 ≤ b.toNat && b.toNat ≤ 90) || (97 ≤ b.toNat && b.toNat ≤ 122) ||
    (48 ≤ b.toNat && b.toNat ≤ 57) || b.toNat == 43 || b.toNat == 47 || b.toNat == 61

structure Base64 where
  encoded : Client.Bytes
  alphabet : ∀ b ∈ encoded, base64Char b = true

namespace Base64

theorem range {b : Base64} {x : Client.Byte} (h : x ∈ b.encoded) : 43 ≤ x.toNat ∧ x.toNat ≤ 122 := by
  have hchar := b.alphabet x h
  simp only [base64Char, Bool.or_eq_true, Bool.and_eq_true, decide_eq_true_eq, beq_iff_eq] at hchar
  omega

def toKey (b : Base64) : Key := ⟨b.encoded, fun _ h => Nat.lt_of_le_of_lt (range h).2 (by decide)⟩

def LF : BitVec 16 := 10#16

def pemText (b : Base64) : JavaString :=
  LoginMessage.KEY_FILE_HEADER ++ wrap 64 LF (newString b.encoded) ++ LoginMessage.KEY_FILE_FOOTER

theorem calculateKey_pemText (b : Base64) :
    LoginMessage.calculateKey KeyType.ASYMMETRIC.ordinal b.toKey = some b.pemText := by
  rw [LoginMessage.calculateKey, if_pos rfl]
  rfl

theorem pemText_length (b : Base64) :
    b.pemText.length = 51 + b.encoded.length + lineCount 64 b.encoded.length := by
  have hheader : LoginMessage.KEY_FILE_HEADER.length = 26 := rfl
  have hfooter : LoginMessage.KEY_FILE_FOOTER.length = 25 := rfl
  rw [pemText, List.length_append, List.length_append, hheader, hfooter, wrap_length (by decide),
    newString_length]
  omega

theorem LF_not_mem (b : Base64) : LF ∉ newString b.encoded := by
  intro hmem
  obtain ⟨x, hx, heq⟩ := List.mem_map.mp hmem
  have hrange := range hx
  have hnat := congrArg BitVec.toNat heq
  rw [if_pos (by omega), BitVec.toNat_setWidth] at hnat
  simp only [LF, BitVec.toNat_ofNat] at hnat
  omega

theorem justKey_pemText (b : Base64) : justKey b.pemText = .ok (wrap 64 LF (newString b.encoded)) := by
  have hlength : b.pemText.length = LoginMessage.KEY_FILE_HEADER.length +
      (wrap 64 LF (newString b.encoded)).length + LoginMessage.KEY_FILE_FOOTER.length := by
    rw [pemText, List.length_append, List.length_append]
  have hend : (b.pemText.length : Int) - LoginMessage.KEY_FILE_FOOTER.length =
      (LoginMessage.KEY_FILE_HEADER.length + (wrap 64 LF (newString b.encoded)).length : Nat) := by
    omega
  rw [justKey, hend, BabbleOnClient.substring_ok (Nat.le_add_right _ _) (by omega), Nat.add_sub_cancel_left,
    pemText, List.append_assoc, List.drop_left, List.take_left]

theorem length_iff (b : Base64) : b.pemText.length = 271 ↔ b.encoded.length = 216 := by
  rw [pemText_length, lineCount]
  omega

def LFByte : Client.Byte := 10#8

theorem getBytes_pemText (b : Base64) : getBytes b.pemText =
    getBytes LoginMessage.KEY_FILE_HEADER ++ wrap 64 LFByte b.encoded ++
      getBytes LoginMessage.KEY_FILE_FOOTER := by
  have hascii := LoginMessage.calculateKey_ascii _ (calculateKey_pemText b)
  have hheader : IsAscii LoginMessage.KEY_FILE_HEADER :=
    (isAscii_append.mp (isAscii_append.mp hascii).1).1
  have hfooter : IsAscii LoginMessage.KEY_FILE_FOOTER := (isAscii_append.mp hascii).2
  have hbytes := getBytes_newString b.toKey.ascii
  rw [getBytes_ascii (newString_ascii b.toKey.ascii)] at hbytes
  rw [getBytes_ascii hascii, getBytes_ascii hheader, getBytes_ascii hfooter, pemText, List.map_append,
    List.map_append, wrap, map_wrapFrom]
  exact congrArg (fun encoded => _ ++ wrapFrom 64 LFByte 0 encoded ++ _) hbytes

end Base64

section Checks

theorem mismatch_false {pattern before : Str} {n pos : Nat} (rest : Str) (hn : n ≤ pattern.length)
    (hpos : before.length = pos) :
    SPChatLogin.mismatch pattern (before ++ (pattern.take n ++ rest)) n pos = false := by
  rw [SPChatLogin.mismatch, List.any_eq_false]
  intro i hi
  have hlt := List.mem_range.mp hi
  have hlength : i < (pattern.take n).length := by
    rw [List.length_take]
    omega
  simp only [List.getD_eq_getElem?_getD, ← hpos, List.getElem?_append_right (Nat.le_add_right _ _),
    Nat.add_sub_cancel_left, List.getElem?_append_left hlength, List.getElem?_take, if_pos hlt]
  simp

theorem endlineMismatch_false {key : Str} (h91 : key[91]? = some SPChatLogin.ENDLINE)
    (h156 : key[156]? = some SPChatLogin.ENDLINE) (h221 : key[221]? = some SPChatLogin.ENDLINE)
    (h246 : key[246]? = some SPChatLogin.ENDLINE) : SPChatLogin.endlineMismatch key = false := by
  simp [SPChatLogin.endlineMismatch, SPChatLogin.ASYMMETRIC_ENDLINE_POS, List.range_succ,
    List.getD_eq_getElem?_getD, h91, h156, h221, h246]

theorem header_bytes_lf : getBytes LoginMessage.KEY_FILE_HEADER ++ [SPChatLogin.ENDLINE] =
    SPChatLogin.ASYMMETRIC_HEADER := by decide

theorem footer_bytes_lf : getBytes LoginMessage.KEY_FILE_FOOTER = SPChatLogin.ENDLINE ::
    SPChatLogin.ASYMMETRIC_FOOTER.take (SPChatLogin.ASYMMETRIC_FOOTER.length - 1) := by decide

theorem pemLayout_wrapped {encoded : Str} (h : encoded.length = 216) :
    SPChatLogin.pemLayout (getBytes LoginMessage.KEY_FILE_HEADER ++ wrap 64 SPChatLogin.ENDLINE encoded ++
      getBytes LoginMessage.KEY_FILE_FOOTER) = true := by
  have hheader : (getBytes LoginMessage.KEY_FILE_HEADER).length = 26 := by decide
  have hbody : (wrap 64 SPChatLogin.ENDLINE encoded).length = 220 := by
    rw [wrap_length (by decide), h]
    rfl
  have hline (j : Nat) (hj : 64 * j < 216) :
      (wrap 64 SPChatLogin.ENDLINE encoded)[65 * j]? = some SPChatLogin.ENDLINE :=
    getElem?_wrap (by decide) (h ▸ hj)
  generalize wrap 64 SPChatLogin.ENDLINE encoded = body at hbody hline
  have hnewline (j : Nat) (hj : 64 * j < 216) :
      (getBytes LoginMessage.KEY_FILE_HEADER ++ body ++ getBytes LoginMessage.KEY_FILE_FOOTER)[26 + 65 * j]? =
        some SPChatLogin.ENDLINE := by
    rw [List.getElem?_append_left (by rw [List.length_append]; omega),
      List.getElem?_append_right (by omega), hheader, Nat.add_sub_cancel_left, hline j hj]
  have hlast : (getBytes LoginMessage.KEY_FILE_HEADER ++ body ++
      getBytes LoginMessage.KEY_FILE_FOOTER)[246]? = some SPChatLogin.ENDLINE := by
    rw [List.getElem?_append_right (by rw [List.length_append]; omega), List.length_append, hheader, hbody]
    rfl
  have hends := endlineMismatch_false (hnewline 1 (by decide)) (hnewline 2 (by decide))
    (hnewline 3 (by decide)) hlast
  have hfoot : SPChatLogin.mismatch SPChatLogin.ASYMMETRIC_FOOTER
      (getBytes LoginMessage.KEY_FILE_HEADER ++ body ++ getBytes LoginMessage.KEY_FILE_FOOTER)
      (SPChatLogin.ASYMMETRIC_FOOTER.length - 1) SPChatLogin.footerPos = false := by
    have hbefore : (getBytes LoginMessage.KEY_FILE_HEADER ++ body ++ [SPChatLogin.ENDLINE]).length =
        SPChatLogin.footerPos := by
      rw [List.length_append, List.length_append, hheader, hbody]
      rfl
    have hmatch := mismatch_false [] (Nat.sub_le SPChatLogin.ASYMMETRIC_FOOTER.length 1) hbefore
    rwa [List.append_nil, List.append_assoc, List.singleton_append, ← footer_bytes_lf] at hmatch
  have hhead : SPChatLogin.mismatch SPChatLogin.ASYMMETRIC_HEADER
      (getBytes LoginMessage.KEY_FILE_HEADER ++ body ++ getBytes LoginMessage.KEY_FILE_FOOTER)
      SPChatLogin.ASYMMETRIC_HEADER.length 0 = false := by
    have hfirst := hline 0 (by decide)
    cases body with
    | nil => cases hfirst
    | cons c rest =>
      cases hfirst
      have hnil : ([] : Str).length = 0 := rfl
      have hmatch := mismatch_false (rest ++ getBytes LoginMessage.KEY_FILE_FOOTER)
        (Nat.le_refl SPChatLogin.ASYMMETRIC_HEADER.length) hnil
      rwa [List.nil_append, List.take_length, ← header_bytes_lf, List.append_assoc, List.singleton_append,
        ← List.cons_append, ← List.append_assoc, header_bytes_lf] at hmatch
  rw [SPChatLogin.pemLayout, hhead, hfoot, hends]
  rfl

end Checks

structure PemAgrees (b : Base64) (s : JavaString) : Prop where
  unwrapped : ∃ justB, justKey s = .ok justB ∧ justB.filter (· ≠ Base64.LF) = newString b.encoded
  length : s.length = 271 ↔ b.encoded.length = 216
  accepted : b.encoded.length = 216 → ∀ m : SPChatLogin,
    (SPChatLogin.setAsymmetricKey (getBytes s)).run m =
      .ok () { m with keyType := SPChatLogin.ASYMMETRIC_KEY, key := getBytes s }
  stored : b.encoded.length = 216 → ∀ (h : Host) (username payload : Str),
    validUsername username = true →
    payload = encodeString littleEndianHost username ++ SPChatLogin.ASYMMETRIC_KEY :: getBytes s →
    payload.length < 2 ^ 31 →
    SPChatLogin.ofBuffer h (PartialMemory.ofList payload) payload.length =
      .ok ⟨username, SPChatLogin.ASYMMETRIC_KEY, getBytes s, []⟩

theorem pem_text_agrees (b : Base64) : ∃ s,
    LoginMessage.calculateKey KeyType.ASYMMETRIC.ordinal b.toKey = some s ∧ PemAgrees b s := by
  have hpem (hlen : b.encoded.length = 216) : SPChatLogin.pemLayout (getBytes b.pemText) = true := by
    rw [b.getBytes_pemText]
    exact pemLayout_wrapped hlen
  refine ⟨b.pemText, b.calculateKey_pemText, ⟨_, b.justKey_pemText, filter_wrapFrom b.LF_not_mem⟩,
    b.length_iff, fun hlen m => SPChatLogin.setAsymmetricKey_ok (hpem hlen) m, ?_⟩
  rintro hlen h username payload husername rfl hshort
  have hascii := LoginMessage.calculateKey_ascii _ b.calculateKey_pemText
  have hkey : (getBytes b.pemText).length = SPChatLogin.ASYMMETRIC_LENGTH := by
    rw [getBytes_length hascii, b.length_iff.mpr hlen]
    rfl
  have hwell := SPChatLogin.WellFormed.asymmetric husername hkey (hpem hlen)
  have hlayout : SPChatLogin.layout littleEndianHost
      ⟨username, SPChatLogin.ASYMMETRIC_KEY, getBytes b.pemText, []⟩ =
        encodeString littleEndianHost username ++ SPChatLogin.ASYMMETRIC_KEY :: getBytes b.pemText := by
    rw [SPChatLogin.layout, List.append_nil]
  exact SPChatLogin.ofBuffer_layout hwell (hlayout ▸ PartialMemory.spans_ofList _) hshort
    (congrArg List.length hlayout)

end Agreement
