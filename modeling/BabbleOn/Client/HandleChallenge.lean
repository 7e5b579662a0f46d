import BabbleOn.Library.Hexadecimal
import BabbleOn.Client.ReaderThread

namespace Client
open Execution Hexadecimal SignedWords

def setInput (inp : JavaString) : Bytes := inp.map (·.setWidth 8)

def forDigit (digit : Nat) : BitVec 16 :=
  BitVec.ofNat 16 (if digit < 10 then 48 + digit else 87 + digit)

-- `new BigInteger(1, magnitude)` with `%x`: no leading zeros, but one digit at least
def toHexString (magnitude : Bytes) : JavaString :=
  if ofBytes magnitude = 0 then [48#16]
  else (Nat.digits 16 (ofBytes magnitude)).reverse.map forDigit

def format064x (magnitude : Bytes) : JavaString := List.leftpad 64 48#16 (toHexString magnitude)

def hashedBytes (challenge : Bytes) (nonce : BitVec 64) (input : Bytes) : Bytes :=
  challenge ++ writeLong nonce ++ input

-- what is written to the server, and the password field afterwards
def handleChallenge (digest : Bytes → Bytes) (username : JavaString) (nonce : BitVec 64)
    (input : Option Bytes) : Input (Bytes × Option Bytes) := do
  let c ← ChallengeMessage.ofStream
  match input with
  | none => pure ([], none)
  | some input =>
    if input.length > 0 then do
      let hashed := format064x (digest (hashedBytes c.challenge nonce input))
      let resp ← ofExcept (ResponseMessage.new (BitVec.ofNat 32 username.length) (some username)
        (BitVec.ofNat 32 hashed.length) (some hashed) nonce)
      pure (resp.encode, some (List.replicate input.length 48#8))
    else pure ([], some input)

theorem setInput_ascii {s : JavaString} (h : IsAscii s) : setInput s = getBytes s :=
  (getBytes_ascii h).symm

theorem format064x_fixed {magnitude : Bytes} (h : magnitude.length = 32) :
    format064x magnitude = (fixed 64 (ofBytes magnitude)).map forDigit := by
  have hlt : ofBytes magnitude < 16 ^ 64 := by
    have hlt := ofBytes_lt magnitude
    rwa [h] at hlt
  unfold format064x toHexString
  split
  · rename_i hzero
    rw [hzero, fixed_zero, List.map_replicate]
    rfl
  · rw [← leftpad_digits hlt]
    simp only [List.leftpad, List.map_append, List.map_replicate, List.length_map]
    rfl

theorem format064x_length {magnitude : Bytes} (h : magnitude.length = 32) :
    (format064x magnitude).length = 64 := by
  rw [format064x_fixed h, List.length_map, fixed_length]

theorem forDigit_toNat {d : Nat} (h : d < 16) :
    (forDigit d).toNat = if d < 10 then 48 + d else 87 + d := by
  rw [forDigit, BitVec.toNat_ofNat]
  split <;> omega

theorem format064x_ascii {magnitude : Bytes} (h : magnitude.length = 32) :
    IsAscii (format064x magnitude) := by
  rw [format064x_fixed h]
  intro c hc
  obtain ⟨d, hd, rfl⟩ := List.mem_map.mp hc
  have hlt := fixed_lt hd
  rw [forDigit_toNat hlt]
  split <;> omega

theorem handleChallenge_run {digest : Bytes → Bytes} {username : JavaString} (nonce : BitVec 64)
    {challenge input : Bytes} (hc : challenge.length = ChallengeMessage.CHALLENGE_LEN)
    (hinput : input ≠ []) (hname : username.length ≤ MAX_UNAME_LEN)
    (hdigest : ∀ b, (digest b).length = 32) :
    ∃ resp : ResponseMessage, ResponseMessage.new (BitVec.ofNat 32 username.length) (some username)
        64#32 (some (format064x (digest (hashedBytes challenge nonce input)))) nonce = .ok resp ∧
      ∀ rest, (handleChallenge digest username nonce (some input)).run (challenge ++ rest) =
        .ok (resp.encode, some (List.replicate input.length 48#8)) rest := by
  have hlen := format064x_length (hdigest (hashedBytes challenge nonce input))
  have hlt : username.length < 2 ^ 31 := Nat.lt_of_le_of_lt hname (by decide)
  have huser := toInt_ofNat_small hlt
  have hsize : (64#32).toInt =
      (format064x (digest (hashedBytes challenge nonce input))).length := by
    rw [hlen]
    rfl
  have hnew : ResponseMessage.new (BitVec.ofNat 32 username.length) (some username) 64#32
      (some (format064x (digest (hashedBytes challenge nonce input)))) nonce = .ok _ :=
    ResponseMessage.new_eq_ok.mpr ⟨_, _, rfl, rfl, huser, hname, hsize, rfl⟩
  refine ⟨_, hnew, fun rest => ?_⟩
  unfold handleChallenge
  rw [bind_ok (ChallengeMessage.ofStream_bytes hc rest)]
  dsimp only
  rw [if_pos (List.length_pos_iff.mpr hinput), hlen, hnew]
  rfl

end Client
