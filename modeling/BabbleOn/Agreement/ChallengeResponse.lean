import Mathlib.Data.List.OfFn
import Mathlib.Data.Set.Insert
import BabbleOn.Agreement.ServerFrames
import BabbleOn.Client.HandleChallenge
import BabbleOn.Server.Connection

namespace Agreement
open Execution Hexadecimal Client Server

theorem hexDigit_toNat {d : Nat} (h : d < 16) : (hexDigit d).toNat = (forDigit d).toNat := by
  rw [forDigit_toNat h, hexDigit, BitVec.toNat_ofNat]
  split <;> omega

theorem byte_digits (b : Server.Byte) :
    ([b.toNat / 16, b.toNat % 16].map forDigit).map BitVec.toNat =
      (sprintf02x b).map BitVec.toNat := by
  have hb := b.isLt
  simp only [sprintf02x, List.map_cons, List.map_nil, hexDigit_toNat (show b.toNat / 16 < 16 by omega),
    hexDigit_toNat (show b.toNat % 16 < 16 by omega)]

theorem digest_text (digest : Digest) : SameText (format064x (List.ofFn digest)) (hex digest) := by
  have hlen : (List.ofFn digest).length = 32 := List.length_ofFn
  have hfixed := fixed_ofBytes (List.ofFn digest)
  rw [hlen] at hfixed
  rw [SameText, format064x_fixed hlen, hfixed, hex, List.map_flatMap, List.map_flatMap,
    List.map_flatMap]
  exact List.flatMap_congr fun b _ => byte_digits b

theorem sameText_getBytes {s : JavaString} {b : Str} (hs : IsAscii s) (h : SameText s b) :
    getBytes s = b := by
  rw [SameText] at h
  apply List.map_injective_iff.mpr (fun x y => BitVec.eq_of_toNat_eq)
  rw [← h, getBytes_ascii hs, List.map_map]
  apply List.map_congr_left
  intro c hc
  have hlt := hs c hc
  rw [Function.comp_apply, BitVec.toNat_setWidth]
  omega

theorem digest_bytes (digest : Digest) : getBytes (format064x (List.ofFn digest)) = hex digest :=
  sameText_getBytes (format064x_ascii List.length_ofFn) (digest_text digest)

theorem hexDigit_injective {d d' : Nat} (hd : d < 16) (hd' : d' < 16)
    (h : hexDigit d = hexDigit d') : d = d' := by
  have hnat := congrArg BitVec.toNat h
  rw [hexDigit_toNat hd, hexDigit_toNat hd', forDigit_toNat hd, forDigit_toNat hd'] at hnat
  split at hnat <;> split at hnat <;> omega

theorem sprintf02x_injective {b b' : Server.Byte} (h : sprintf02x b = sprintf02x b') : b = b' := by
  have hb := b.isLt
  have hb' := b'.isLt
  simp only [sprintf02x, List.cons.injEq, and_true] at h
  have hhigh := hexDigit_injective (by omega) (by omega) h.1
  have hlow := hexDigit_injective (by omega) (by omega) h.2
  apply BitVec.eq_of_toNat_eq
  omega

theorem flatMap_sprintf02x_injective {l l' : Str}
    (h : l.flatMap sprintf02x = l'.flatMap sprintf02x) : l = l' := by
  induction l generalizing l' with
  | nil =>
    cases l' with
    | nil => rfl
    | cons b' l' => simp [sprintf02x] at h
  | cons b l ih =>
    cases l' with
    | nil => simp [sprintf02x] at h
    | cons b' l' =>
      rw [List.flatMap_cons, List.flatMap_cons] at h
      obtain ⟨hbyte, hrest⟩ := List.append_inj h rfl
      rw [sprintf02x_injective hbyte, ih hrest]

theorem hex_injective {d d' : Digest} (h : hex d = hex d') : d = d' :=
  List.ofFn_inj.mp (flatMap_sprintf02x_injective h)

structure ResponseAgrees (w : World) (c : Fin 8 → Server.Byte) (nonce : BitVec 64)
    (username q : JavaString) (frame : Bytes) (response : SPChatResponse) : Prop where
  written : ∀ rest, ∃ zeroed, (handleChallenge (fun b => List.ofFn (w.SHA256 b)) username nonce
    (some (setInput q))).run (List.ofFn c ++ rest) = .ok (frame, zeroed) rest
  decoded : ∀ h, DecodesTo h frame (.response response)
  sameBytes : hashedBytes (List.ofFn c) nonce (setInput q) =
    concatenateMe w.array c response.nonce (getBytes q)
  accepted : ∀ u conn, (w.selectPassword conn.calls u).rows.getLast? = some (getBytes q) →
    w.sendFails (conn.calls + 1) = false →
    (checkPassword w c u response).run conn = .ok () ⟨conn.sock, conn.calls + 2,
      conn.events ++ [.sent (.ack ⟨.SERVER, .PASSWORD_AUTH⟩)]⟩
  -- SHA-256 can only be free of collisions on the two inputs it is compared on
  onlyStored : ∀ u conn conn', (checkPassword w c u response).run conn = .ok () conn' →
    ∃ pw, (w.selectPassword conn.calls u).rows.getLast? = some pw ∧
      (Set.InjOn w.SHA256 {concatenateMe w.array c response.nonce (getBytes q),
        concatenateMe w.array c response.nonce pw} → getBytes q = pw)

theorem challenge_response_agreement (w : World) (c : Fin 8 → Server.Byte) (nonce : BitVec 64)
    {username q : JavaString} (hname : matchesRegex username = true) (hlen : username.length ≤ 64)
    (hq : IsAscii q) (hne : q ≠ []) :
    (∀ digest : Digest, SameText (format064x (List.ofFn digest)) (hex digest)) ∧
      ∃ frame response, ResponseAgrees w c nonce username q frame response := by
  have hbytes : setInput q = getBytes q := setInput_ascii hq
  have hinput : setInput q ≠ [] := by simpa [setInput] using hne
  have hdigest : ∀ b, (List.ofFn (w.SHA256 b)).length = 32 := fun _ => List.length_ofFn
  obtain ⟨resp, hnew, hrun⟩ := handleChallenge_run nonce
    (show (List.ofFn c).length = 8 from List.length_ofFn) hinput hlen hdigest
  have hhash := format064x_ascii (hdigest (hashedBytes (List.ofFn c) nonce (setInput q)))
  obtain ⟨t, len, payload, hframe⟩ : ∃ t len payload, IsFrame (fun _ => 0#64) (.response resp)
    resp.encode t len payload := response_frame hnew hname hhash
  obtain ⟨_, _, hu, hh, _, _, _, rfl⟩ := ResponseMessage.new_eq_ok.mp hnew
  cases hu
  cases hh
  refine ⟨digest_text, _, ⟨hex (w.SHA256 (hashedBytes (List.ofFn c) nonce (setInput q))),
    getBytes username, writeLong nonce⟩, fun rest => ⟨_, hrun rest⟩, ?_, ?_, ?_, ?_⟩
  · intro h
    have hdec := frame_decodes h hframe (by
      simp only [ClientMessage.payloadSize, format064x_length (hdigest _)]
      omega)
    rw [ClientMessage.counterpart, digest_bytes] at hdec
    exact hdec
  · rw [hbytes]
    exact (concatenateMe_eq _ _ _ _).symm
  · intro u conn hpw hsend
    rw [← hbytes] at hpw
    rw [checkPassword_run hpw hinput]
    exact (if_pos rfl).trans (sendACK_ok hsend _)
  · intro u conn conn' hok
    obtain ⟨pw, hpw, hsame⟩ := checkPassword_eq_ok hok
    refine ⟨pw, hpw, fun hinj => ?_⟩
    rw [concatenateMe_eq, concatenateMe_eq] at hinj
    rw [← hbytes] at hinj ⊢
    exact List.append_cancel_left (hinj (Set.mem_insert _ _) (Set.mem_insert_of_mem _ rfl)
      (hex_injective hsame))

-- SHA-256 of the challenge 1 to 8, the nonce 9 and the password `pw`
def pwDigest : Str := [0x36#8, 0xf8#8, 0x88#8, 0x2a#8, 0xd5#8, 0x52#8, 0x9b#8, 0xd1#8,
  0xd9#8, 0x07#8, 0xb7#8, 0xb3#8, 0x80#8, 0xed#8, 0x9c#8, 0x26#8,
  0xd6#8, 0x94#8, 0x0c#8, 0x42#8, 0xb3#8, 0x23#8, 0x60#8, 0xb8#8,
  0x94#8, 0x97#8, 0xb7#8, 0x1e#8, 0x7e#8, 0x2a#8, 0x37#8, 0xea#8]

def pwWorld : World := { World.quiet with
  SHA256 := fun _ i => pwDigest.getD i 0#8
  selectPassword := fun _ username => ⟨if username = ascii "bob" then [ascii "pw"] else [], false⟩ }

theorem pw_agreement :
    (∀ digest : Digest, SameText (format064x (List.ofFn digest)) (hex digest)) ∧
      ∃ frame response, ResponseAgrees pwWorld (fun i => BitVec.ofNat 8 (i + 1)) 9#64
        (java "bob") (java "pw") frame response :=
  challenge_response_agreement pwWorld _ 9#64 (by decide) (by decide)
    (matchesRegex_ascii (by decide)) (by decide)

end Agreement
