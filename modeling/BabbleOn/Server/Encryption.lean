import BabbleOn.Library.BlockDeciphering
import BabbleOn.Server.Connection

namespace Server
open CipherBlockChaining

variable (AES : Block 16 → Equiv.Perm (Block 16))

-- `SetKeyWithIV` takes `keysize` bytes of the key and one block of the vector
def aesEncrypt (plain inputKey inputIv : Str) : Str :=
  whole (AES (front inputKey)) (front inputIv) plain

-- the filter has passed on all but the last block when it finds the padding wrong
def aesDecrypt (cipher inputKey inputIv : Str) : Str :=
  let passed := Stream.reveal (AES (front inputKey)) ⟨front inputIv, []⟩ cipher
  passed.1 ++ (passed.2.complete (AES (front inputKey)) []).getD []

def World.encrypting (w : World) : World :=
  { w with aesEncrypt := Server.aesEncrypt AES, aesDecrypt := Server.aesDecrypt AES }

variable {AES}

theorem aesEncrypt_length (plain inputKey inputIv : Str) :
    (aesEncrypt AES plain inputKey inputIv).length = 16 * (plain.length / 16 + 1) :=
  whole_length plain

theorem aesDecrypt_whole {cipher plain inputKey inputIv : Str}
    (h : recover (AES (front inputKey)) (front inputIv) cipher = some plain) :
    aesDecrypt AES cipher inputKey inputIv = plain := by
  have hjoin := @complete_reveal _ (AES (front inputKey)) (by decide : 0 < 16)
    ⟨front inputIv, []⟩ cipher []
  rw [List.append_nil, Stream.complete.eq_def _ ⟨front inputIv, []⟩, List.nil_append, h] at hjoin
  obtain ⟨last, hlast, hplain⟩ := Option.map_eq_some_iff.mp hjoin
  rw [aesDecrypt, hlast, Option.getD_some]
  exact hplain

theorem aesDecrypt_aesEncrypt (plain inputKey inputIv : Str) :
    aesDecrypt AES (aesEncrypt AES plain inputKey inputIv) inputKey inputIv = plain :=
  aesDecrypt_whole (recover_whole (by decide) (by decide) plain)

end Server
