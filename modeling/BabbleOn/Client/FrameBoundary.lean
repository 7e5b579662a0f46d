import BabbleOn.Client.ReaderThread

namespace Client
open Execution

variable {κ α β : Type}

def byteAt (s : Bytes) (i : Nat) : Byte := s.getD i 0#8

def intAt (s : Bytes) (i : Nat) : BitVec 32 := BigEndian.decode 32 4 fun j => s.getD (i + j) 0#8

def longAt (s : Bytes) (i : Nat) : BitVec 64 := BigEndian.decode 64 8 fun j => s.getD (i + j) 0#8

-- `died`: with anything other than a `BabbleException`
inductive Outcome (κ : Type) where
  | done (k : κ)
  | refused
  | died

abbrev Extent (κ : Type) := Nat × Outcome κ

namespace Extent

def andThen (e : Extent κ) (f : κ → Nat → Extent κ) : Extent κ :=
  match e with
  | (i, .done k) => f k i
  | (i, .refused) => (i, .refused)
  | (i, .died) => (i, .died)

variable (s : Bytes) (i : Nat)

def int (maxValue : Nat) (f : BitVec 32 → Nat → Extent κ) : Extent κ :=
  if validLength (intAt s i) maxValue then f (intAt s i) (i + 4) else (i + 4, .refused)

def long (f : BitVec 64 → Nat → Extent κ) : Extent κ := f (longAt s i) (i + 8)

def name (f : Nat → Extent κ) : Extent κ :=
  int s i MAX_UNAME_LEN fun length i => f (i + length.toNat)

def blocks (c : Cipher κ) : Nat → κ → Nat → Nat × Option (Bytes × κ)
  | 0, k, i => (i, some ([], k))
  | n + 1, k, i =>
    match c.update k ((s.drop i).take c.getBlockSize) with
    | (none, _) => (i + c.getBlockSize, none)
    | (some out, k) =>
      let (i, rest) := blocks c n k (i + c.getBlockSize)
      (i, rest.map fun (text, k) => (out ++ text, k))

-- a text is encrypted in whole blocks, however long its own prefix says it is
def ciphertext (c : Cipher κ) (encrypted : Nat) (k : κ) (f : Bytes → κ → Nat → Extent κ) :
    Extent κ :=
  if encrypted = 0 then f [] k i
  else match blocks s c ((encrypted - 1) / c.getBlockSize) k i with
  | (i, none) => (i, .died)
  | (i, some (out, k)) =>
    match c.doFinal k ((s.drop i).take c.getBlockSize) with
    | (none, _) => (i + c.getBlockSize, .refused)
    | (some last, k) => f (out ++ last) k (i + c.getBlockSize)

end Extent

open Extent

def LoginMessage.extent (decodeKey : JavaString → Except JavaThrow Key) (s : Bytes) (k : κ) :
    Extent κ :=
  name s 0 fun i =>
    if (byteAt s i).toInt ≥ KeyType.DEFAULT.ordinal.toInt then (i + 1, .refused)
    else if byteAt s i = KeyType.ASYMMETRIC.ordinal then
      match decodeKey (newString ((s.drop (i + 1)).take KEY_LEN)) with
      | .ok _ => (i + 1 + KEY_LEN, .done k)
      | .error (.babble _) => (i + 1 + KEY_LEN, .refused)
      | .error _ => (i + 1 + KEY_LEN, .died)
    else (i + 1, .done k)

def MsgMessage.extent (currentTimeMillis : BitVec 64) (c : Cipher κ) (s : Bytes) (k : κ) (i : Nat) :
    Extent κ :=
  name s i fun i => name s i fun i => int s i MAX_VALUE fun encrypted i =>
  ciphertext s i c encrypted.toNat k fun text k i => long s i fun messageLenDecrypted i =>
  if (text.length : Int) ≠ messageLenDecrypted.toInt ∨
      messageLenDecrypted.toInt > (MAX_MSG_LEN * MAX_MSGS : Nat) then (i, .refused) else
  int s i MAX_VALUE fun messageNumber i => int s i MAX_VALUE fun totalMessages i =>
  if totalMessages.toInt < messageNumber.toInt then (i, .refused) else
  if 0 ≥ totalMessages.toInt ∨ 0 ≥ messageNumber.toInt then (i, .refused) else
  long s i fun timestamp i =>
  if timestamp.toInt > currentTimeMillis.toInt then (i, .refused) else
  if 0 > timestamp.toInt then (i, .refused) else (i, .done k)

def PollResponseMessage.entries (currentTimeMillis : BitVec 64) (c : Cipher κ) (s : Bytes) :
    Nat → κ → Nat → Extent κ
  | 0, k, i => (i, .done k)
  | n + 1, k, i => (MsgMessage.extent currentTimeMillis c s k i).andThen
      (entries currentTimeMillis c s n)

def PollResponseMessage.extent (currentTimeMillis : BitVec 64) (c : Cipher κ) (s : Bytes) (k : κ) :
    Extent κ :=
  name s 0 fun i => int s i MAX_LISTS fun listNumber i => int s i MAX_LISTS fun totalLists i =>
  if 0 ≥ listNumber.toInt ∨ 0 ≥ totalLists.toInt then (i, .refused) else
  if totalLists.toInt < listNumber.toInt then (i, .refused) else
  int s i MAX_VALUE fun messageListSize i =>
  entries currentTimeMillis c s messageListSize.toNat k i

-- the bytes that a payload of the type asks for by its own prefixes, up to the first failed check
def extent (currentTimeMillis : BitVec 64) (decodeKey : JavaString → Except JavaThrow Key)
    (c : Cipher κ) (type : Byte) (s : Bytes) (k : κ) : Extent κ :=
  if type = MessageType.ACKMessage then (1, .done k)
  else if type = MessageType.ChallengeMessage then (ChallengeMessage.CHALLENGE_LEN, .done k)
  else if type = MessageType.LoginMessage then LoginMessage.extent decodeKey s k
  else PollResponseMessage.extent currentTimeMillis c s k

section Reads

variable {s : Bytes} {i : Nat}

theorem readFully_at {n : Nat} (h : i + n ≤ s.length) :
    (readFully n).run (s.drop i) = .ok ((s.drop i).take n) (s.drop (i + n)) := by
  unfold readFully
  rw [bind_ok (run_get _), if_neg (by rw [List.length_drop]; omega), bind_ok (run_set _ _), run_pure,
    List.drop_drop]

theorem getD_at {n j : Nat} (h : j < n) :
    ((s.drop i).take n).getD j 0#8 = s.getD (i + j) 0#8 := by
  simp only [List.getD_eq_getElem?_getD, List.getElem?_take, List.getElem?_drop, if_pos h]

theorem dsReadByte_at (h : i + 1 ≤ s.length) :
    dsReadByte.run (s.drop i) = .ok (byteAt s i) (s.drop (i + 1)) := by
  unfold dsReadByte
  rw [bind_ok (readFully_at h), run_pure, getD_at Nat.one_pos]
  rfl

theorem dsReadInt_at (h : i + 4 ≤ s.length) :
    dsReadInt.run (s.drop i) = .ok (intAt s i) (s.drop (i + 4)) := by
  unfold dsReadInt
  rw [bind_ok (readFully_at h), run_pure, BigEndian.decode_congr fun j hj => getD_at hj]
  rfl

theorem dsReadLong_at (h : i + 8 ≤ s.length) :
    dsReadLong.run (s.drop i) = .ok (longAt s i) (s.drop (i + 8)) := by
  unfold dsReadLong
  rw [bind_ok (readFully_at h), run_pure, BigEndian.decode_congr fun j hj => getD_at hj]
  rfl

theorem readStr_at {length : BitVec 32} (h : i + length.toNat ≤ s.length) (hlength : 0 ≤ length.toInt) :
    (BabbleOnMessage.readStr length).run (s.drop i) =
      .ok (newString ((s.drop i).take length.toNat)) (s.drop (i + length.toNat)) := by
  unfold BabbleOnMessage.readStr
  rw [if_neg (by omega), bind_ok (onIOException_ok (readFully_at h) _), run_pure]

theorem readInt_at {maxValue : Nat} (h : i + 4 ≤ s.length)
    (hvalid : validLength (intAt s i) maxValue = true) :
    (BabbleOnMessage.readInt maxValue).run (s.drop i) = .ok (intAt s i) (s.drop (i + 4)) := by
  have hbounds := validLength_iff.mp hvalid
  unfold BabbleOnMessage.readInt
  rw [bind_ok (onIOException_ok (dsReadInt_at h) _), if_neg (by omega), run_pure]

theorem readInt_refused {maxValue : Nat} (h : i + 4 ≤ s.length)
    (hinvalid : ¬ validLength (intAt s i) maxValue = true) :
    (BabbleOnMessage.readInt maxValue).run (s.drop i) =
      .error (.babble "Integer invalid") (s.drop (i + 4)) := by
  rw [validLength_iff] at hinvalid
  unfold BabbleOnMessage.readInt
  rw [bind_ok (onIOException_ok (dsReadInt_at h) _), if_pos (by omega), run_throw]

theorem read_at {chunk : Bytes} (h : i + chunk.length ≤ s.length) :
    (read chunk).run (s.drop i) =
      .ok ((s.drop i).take chunk.length) (s.drop (i + chunk.length)) := by
  unfold read
  have hall : chunk.drop (s.drop i).length = [] :=
    List.drop_eq_nil_of_le (by rw [List.length_drop]; omega)
  rw [bind_ok (run_get _), bind_ok (run_set _ _), run_pure, List.drop_drop, hall, List.append_nil]

theorem fromInput_read_at {chunk : Bytes} {n : Nat} (hchunk : chunk.length = n)
    (h : i + n ≤ s.length) (k : κ) : (fromInput (read chunk)).run ⟨s.drop i, k⟩ =
      .ok ((s.drop i).take n) ⟨s.drop (i + n), k⟩ := by
  subst hchunk
  exact fromInput_ok (read_at h) k

end Reads

inductive Ends (s : Bytes) : Extent κ → EStateM.Result JavaThrow (Reader κ) α → Prop
  | done (i : Nat) (a : α) (k : κ) : Ends s (i, .done k) (.ok a ⟨s.drop i, k⟩)
  | refused (i : Nat) (message : String) (k : κ) :
      Ends s (i, .refused) (.error (.babble message) ⟨s.drop i, k⟩)
  | died (i : Nat) {e : JavaThrow} (he : ∀ message, e ≠ .babble message) (r : Reader κ) :
      Ends s (i, .died) (.error e r)

structure Follows (m : EStateM JavaThrow (Reader κ) α) (s : Bytes) (k : κ) (i : Nat) (e : Extent κ) :
    Prop where
  forward : i ≤ e.1
  ends : e.1 ≤ s.length → Ends s e (m.run ⟨s.drop i, k⟩)

theorem Extent.blocks_forward (s : Bytes) (c : Cipher κ) (n : Nat) (k : κ) (i : Nat) :
    i ≤ (blocks s c n k i).1 := by
  induction n generalizing k i with
  | zero => exact Nat.le_refl i
  | succ n ih =>
    unfold blocks
    split
    · exact Nat.le_add_right i _
    · exact Nat.le_trans (Nat.le_add_right i _) (ih _ _)

def Extent.Loop (c : Cipher κ) (s bs : Bytes) (read j : Nat) :
    Option (Bytes × κ) → EStateM.Result JavaThrow (Reader κ) (Nat × Bytes × Bytes) → Prop
  | none, r => ∃ e, r = .error .nullPointer e
  | some (out, k), r => ∃ chunk, chunk.length = c.getBlockSize ∧
      r = .ok (read, chunk, bs ++ out) ⟨s.drop j, k⟩

theorem MsgMessage.decryptLoop_blocks (c : Cipher κ) {s : Bytes} {total n read : Nat}
    (hn : total ≤ read + c.getBlockSize * n + c.getBlockSize)
    (hmore : read + c.getBlockSize * n < total) {chunk : Bytes}
    (hchunk : chunk.length = c.getBlockSize) (bs : Bytes) (k : κ) (i : Nat)
    (h : (blocks s c n k i).1 ≤ s.length) :
    Loop c s bs (read + c.getBlockSize * n) (blocks s c n k i).1 (blocks s c n k i).2
      ((decryptLoop c total read chunk bs).run ⟨s.drop i, k⟩) := by
  induction n generalizing read chunk bs k i with
  | zero =>
    rw [decryptLoop, dif_neg (by omega), run_pure]
    exact ⟨chunk, hchunk, by rw [List.append_nil]; rfl⟩
  | succ n ih =>
    rw [Nat.mul_succ] at hn hmore
    have hforward := blocks_forward s c (n + 1) k i
    rw [decryptLoop, dif_pos (by omega)]
    rcases hu : c.update k ((s.drop i).take c.getBlockSize) with ⟨_ | out, k'⟩
    · simp only [blocks, hu] at h ⊢
      rw [bind_ok (fromInput_read_at hchunk (by omega) k),
        bind_ok (fromCipher_ok (Cipher.step_run hu) _), run_throw]
      exact ⟨_, rfl⟩
    · simp only [blocks, hu] at h ⊢
      have hnext := blocks_forward s c n k' (i + c.getBlockSize)
      rw [bind_ok (fromInput_read_at hchunk (by omega) k), bind_ok (fromCipher_ok (Cipher.step_run hu) _)]
      have htake : ((s.drop i).take c.getBlockSize).length = c.getBlockSize := by
        rw [List.length_take, List.length_drop]
        omega
      have hrest := ih (show total ≤ read + c.getBlockSize + c.getBlockSize * n + c.getBlockSize by omega)
        (by omega) htake (bs ++ out) k' (i + c.getBlockSize) h
      rcases hb : (blocks s c n k' (i + c.getBlockSize)).2 with _ | ⟨text, k''⟩
      · rw [hb] at hrest
        exact hrest
      · rw [hb] at hrest
        obtain ⟨last, hlast, hrun⟩ := hrest
        refine ⟨last, hlast, hrun.trans ?_⟩
        rw [Nat.mul_succ, List.append_assoc, Nat.add_assoc, Nat.add_comm c.getBlockSize]

namespace Follows

variable {s : Bytes} {k : κ} {i : Nat} {e e' : Extent κ} {m m' : EStateM JavaThrow (Reader κ) α}

theorem finish (a : α) : Follows (pure a) s k i (i, .done k) :=
  ⟨Nat.le_refl i, fun _ => .done i a k⟩

theorem refuse (message : String) :
    Follows (throw (.babble message) : EStateM JavaThrow (Reader κ) α) s k i (i, .refused) :=
  ⟨Nat.le_refl i, fun _ => .refused i message k⟩

theorem cases {p : Prop} [Decidable p] (h : p → Follows m s k i e) (h' : ¬ p → Follows m' s k i e') :
    Follows (if p then m else m') s k i (if p then e else e') := by
  split
  · exact h ‹_›
  · exact h' ‹_›

theorem int {maxValue : Nat} {g : BitVec 32 → EStateM JavaThrow (Reader κ) α}
    {f : BitVec 32 → Nat → Extent κ}
    (hg : ∀ n, 0 ≤ n.toInt → Follows (g n) s k (i + 4) (f n (i + 4))) :
    Follows (fromInput (BabbleOnMessage.readInt maxValue) >>= g) s k i (Extent.int s i maxValue f) := by
  unfold Extent.int
  split
  · rename_i hvalid
    have hrest := hg (intAt s i) (validLength_iff.mp hvalid).1
    have hforward := hrest.forward
    refine ⟨by omega, fun h => ?_⟩
    rw [bind_ok (fromInput_ok (readInt_at (by omega) hvalid) k)]
    exact hrest.ends h
  · rename_i hinvalid
    refine ⟨Nat.le_add_right i 4, fun h => ?_⟩
    rw [bind_error (fromInput_error (readInt_refused h hinvalid) k)]
    exact .refused _ _ k

theorem long {g : BitVec 64 → EStateM JavaThrow (Reader κ) α} {f : BitVec 64 → Nat → Extent κ}
    (hg : ∀ n, Follows (g n) s k (i + 8) (f n (i + 8))) :
    Follows (fromInput BabbleOnMessage.readLong >>= g) s k i (Extent.long s i f) := by
  have hrest := hg (longAt s i)
  have hforward := hrest.forward
  refine ⟨Nat.le_trans (Nat.le_add_right i 8) hforward, fun h => ?_⟩
  have hread : (BabbleOnMessage.readLong).run (s.drop i) = .ok (longAt s i) (s.drop (i + 8)) :=
    onIOException_ok (dsReadLong_at (Nat.le_trans hforward h)) _
  rw [bind_ok (fromInput_ok hread k)]
  exact hrest.ends h

theorem str {length : BitVec 32} {g : JavaString → EStateM JavaThrow (Reader κ) α}
    (hlength : 0 ≤ length.toInt) (hg : ∀ text : JavaString, length.toInt = text.length →
      Follows (g text) s k (i + length.toNat) e) :
    Follows (fromInput (BabbleOnMessage.readStr length) >>= g) s k i e := by
  have hnat : length.toInt = length.toNat :=
    have ⟨n, hn⟩ := Int.eq_ofNat_of_zero_le hlength
    hn.trans (congrArg Int.ofNat (toNat_of_toInt hn).symm)
  have hforward : i + length.toNat ≤ e.1 :=
    (hg (List.replicate length.toNat 0#16) (by rw [List.length_replicate, hnat])).forward
  refine ⟨Nat.le_trans (Nat.le_add_right i _) hforward, fun h => ?_⟩
  have htext : ((s.drop i).take length.toNat).length = length.toNat := by
    rw [List.length_take, List.length_drop]
    omega
  rw [bind_ok (fromInput_ok (readStr_at (Nat.le_trans hforward h) hlength) k)]
  exact (hg _ (by rw [newString_length, htext, hnat])).ends h

theorem name {message : String} {g : BitVec 32 → JavaString → EStateM JavaThrow (Reader κ) α}
    {f : Nat → Extent κ}
    (hg : ∀ length text, Follows (g length text) s k (i + 4 + length.toNat) (f (i + 4 + length.toNat))) :
    Follows (do
      let length ← fromInput (BabbleOnMessage.readInt MAX_UNAME_LEN)
      let text ← fromInput (BabbleOnMessage.readStr length)
      if length.toInt ≠ text.length then throw (.babble message) else g length text)
      s k i (Extent.name s i f) := by
  refine int fun length hlength => str hlength fun text htext => ?_
  rw [if_neg (not_not.mpr htext)]
  exact hg length text

theorem ciphertext (c : Cipher κ) (total : Nat) {message : String}
    {g : Bytes → EStateM JavaThrow (Reader κ) α} {f : Bytes → κ → Nat → Extent κ}
    (hg : ∀ text k i, Follows (g text) s k i (f text k i)) :
    Follows (do
      let (read, chunk, bs) ← MsgMessage.decryptLoop c total 0 (List.replicate c.getBlockSize 0#8) []
      let bs ←
        if read < total then do
          let chunk ← fromInput (Client.read chunk)
          let out ← fromCipher (Cipher.step fun k => c.doFinal k chunk)
          match out with
          | none => throw (.babble message)
          | some out => pure (bs ++ out)
        else pure bs
      g bs) s k i (Extent.ciphertext s i c total k f) := by
  have hpos := c.positive
  have hchunk : (List.replicate c.getBlockSize 0#8).length = c.getBlockSize := List.length_replicate
  unfold Extent.ciphertext
  by_cases htotal : total = 0
  · rw [if_pos htotal]
    refine ⟨(hg [] k i).forward, fun h => ?_⟩
    have hloop : (MsgMessage.decryptLoop c total 0 (List.replicate c.getBlockSize 0#8) []).run
        ⟨s.drop i, k⟩ = .ok (0, List.replicate c.getBlockSize 0#8, []) ⟨s.drop i, k⟩ := by
      rw [MsgMessage.decryptLoop, dif_neg (by omega), run_pure]
    rw [bind_ok hloop]
    dsimp only
    rw [if_neg (by omega), bind_ok (run_pure _ _)]
    exact (hg [] k i).ends h
  · rw [if_neg htotal]
    have hdiv := Nat.div_add_mod (total - 1) c.getBlockSize
    have hmod := Nat.mod_lt (total - 1) hpos
    have hforward := blocks_forward s c ((total - 1) / c.getBlockSize) k i
    have hn : total ≤ 0 + c.getBlockSize * ((total - 1) / c.getBlockSize) + c.getBlockSize := by omega
    have hmore : 0 + c.getBlockSize * ((total - 1) / c.getBlockSize) < total := by omega
    have hloop := MsgMessage.decryptLoop_blocks c (s := s) hn hmore hchunk [] k i
    rcases hb : blocks s c ((total - 1) / c.getBlockSize) k i with ⟨j, _ | ⟨out, k'⟩⟩
    · rw [hb] at hforward hloop
      refine ⟨hforward, fun h => ?_⟩
      obtain ⟨r, hrun⟩ := hloop h
      rw [bind_error hrun]
      exact .died j (by simp) r
    · rw [hb] at hforward hloop
      dsimp only at hforward hloop ⊢
      have hlast (h : j + c.getBlockSize ≤ s.length) : ∃ chunk : Bytes,
          (MsgMessage.decryptLoop c total 0 (List.replicate c.getBlockSize 0#8) []).run ⟨s.drop i, k⟩ =
            .ok (0 + c.getBlockSize * ((total - 1) / c.getBlockSize), chunk, [] ++ out)
              ⟨s.drop j, k'⟩ ∧
          (fromInput (Client.read chunk)).run ⟨s.drop j, k'⟩ =
            .ok ((s.drop j).take c.getBlockSize) ⟨s.drop (j + c.getBlockSize), k'⟩ := by
        obtain ⟨chunk, hlength, hrun⟩ := hloop (by omega)
        exact ⟨chunk, hrun, fromInput_read_at hlength h k'⟩
      rcases hf : c.doFinal k' ((s.drop j).take c.getBlockSize) with ⟨_ | last, k''⟩
      · refine ⟨Nat.le_add_right_of_le hforward, fun h => ?_⟩
        obtain ⟨chunk, hrun, hread⟩ := hlast h
        rw [bind_ok hrun]
        dsimp only
        rw [if_pos hmore, bind_ok hread, bind_ok (fromCipher_ok (Cipher.step_run hf) _)]
        exact .refused _ _ _
      · have hrest := hg (out ++ last) k'' (j + c.getBlockSize)
        refine ⟨Nat.le_trans (Nat.le_add_right_of_le hforward) hrest.forward, fun h => ?_⟩
        obtain ⟨chunk, hrun, hread⟩ := hlast (Nat.le_trans hrest.forward h)
        rw [bind_ok hrun]
        dsimp only
        rw [if_pos hmore, bind_ok hread, bind_ok (fromCipher_ok (Cipher.step_run hf) _)]
        exact hrest.ends h

theorem andThen {g : α → EStateM JavaThrow (Reader κ) β} {f : κ → Nat → Extent κ}
    (hm : Follows m s k i e) (hf : ∀ k i, i ≤ (f k i).1)
    (hg : ∀ a k i, Follows (g a) s k i (f k i)) : Follows (m >>= g) s k i (e.andThen f) := by
  have hforward := hm.forward
  have hends := hm.ends
  obtain ⟨j, o⟩ := e
  cases o with
  | done k' =>
    refine ⟨Nat.le_trans hforward (hf k' j), fun h => ?_⟩
    have hends := hends (Nat.le_trans (hf k' j) h)
    rcases hrun : m.run ⟨s.drop i, k⟩ with ⟨a, r⟩ | ⟨e, r⟩
    · rw [hrun] at hends
      cases hends
      rw [bind_ok hrun]
      exact (hg a k' j).ends h
    · rw [hrun] at hends
      cases hends
  | refused =>
    refine ⟨hforward, fun h => ?_⟩
    have hends := hends h
    rcases hrun : m.run ⟨s.drop i, k⟩ with ⟨a, r⟩ | ⟨e, r⟩
    · rw [hrun] at hends
      cases hends
    · rw [hrun] at hends
      rw [bind_error hrun]
      cases hends
      exact .refused _ _ _
  | died =>
    refine ⟨hforward, fun h => ?_⟩
    have hends := hends h
    rcases hrun : m.run ⟨s.drop i, k⟩ with ⟨a, r⟩ | ⟨e, r⟩
    · rw [hrun] at hends
      cases hends
    · rw [hrun] at hends
      rw [bind_error hrun]
      cases hends with
      | died _ he => exact .died _ he _

theorem map (hm : Follows m s k i e) (f : α → β) : Follows (do let a ← m; pure (f a)) s k i e := by
  refine ⟨hm.forward, fun h => ?_⟩
  have hends := hm.ends h
  rcases hrun : m.run ⟨s.drop i, k⟩ with ⟨a, r⟩ | ⟨e, r⟩
  · rw [hrun] at hends
    rw [bind_ok hrun]
    cases hends
    exact .done _ _ _
  · rw [hrun] at hends
    rw [bind_error hrun]
    cases hends with
    | refused => exact .refused _ _ _
    | died _ he => exact .died _ he _

end Follows

theorem MsgMessage.ofStream_follows (now : BitVec 64) (c : Cipher κ) (s : Bytes) (k : κ) (i : Nat) :
    Follows (ofStream now c) s k i (extent now c s k i) := by
  refine .name fun _ _ => .name fun _ _ => .int fun encrypted _ =>
    .ciphertext c encrypted.toNat fun text k i => .long fun messageLenDecrypted => ?_
  rw [newString_length]
  refine .cases (fun _ => .refuse _) fun _ => .int fun messageNumber _ => .int fun totalMessages _ =>
    .cases (fun _ => .refuse _) fun _ => .cases (fun _ => .refuse _) fun _ => .long fun timestamp =>
      .cases (fun _ => .refuse _) fun _ => .cases (fun _ => .refuse _) fun _ => .finish _

theorem PollResponseMessage.readMessages_follows (now : BitVec 64) (c : Cipher κ) (s : Bytes) (n : Nat)
    (k : κ) (i : Nat) : Follows (readMessages now c n) s k i (entries now c s n k i) := by
  induction n generalizing k i with
  | zero => exact .finish _
  | succ n ih =>
    exact .andThen (MsgMessage.ofStream_follows now c s k i) (fun k i => (ih k i).forward)
      fun m k i => (ih k i).map _

theorem PollResponseMessage.ofStream_follows (now : BitVec 64) (c : Cipher κ) (s : Bytes) (k : κ) :
    Follows (ofStream now (some c)) s k 0 (extent now c s k) :=
  .name fun _ _ => .int fun _ _ => .int fun _ _ =>
    .cases (fun _ => .refuse _) fun _ => .cases (fun _ => .refuse _) fun _ =>
      .int fun messageListSize _ => (readMessages_follows now c s messageListSize.toNat k _).map _

theorem LoginMessage.ofStream_at (decodeKey : JavaString → Except JavaThrow Key) {s : Bytes} {i : Nat}
    (hvalid : validLength (intAt s 0) MAX_UNAME_LEN = true) (hi : 0 + 4 + (intAt s 0).toNat = i)
    (h : i + 1 ≤ s.length) : ∃ username, (ofStream decodeKey).run (s.drop 0) =
      (if (byteAt s i).toInt ≥ KeyType.DEFAULT.ordinal.toInt then throw (.babble "Invalid Key Type")
      else if byteAt s i = KeyType.ASYMMETRIC.ordinal then do
        let publicKeyStr ← BabbleOnMessage.readStr (BitVec.ofNat 32 KEY_LEN)
        match decodeKey publicKeyStr with
        | .error e => throw e
        | .ok publicKey =>
          pure ⟨⟨MessageType.LoginMessage, 0#64⟩, intAt s 0, username, byteAt s i,
            some publicKeyStr, some publicKey, none⟩
      else pure ⟨⟨MessageType.LoginMessage, 0#64⟩, intAt s 0, username, byteAt s i, none, none,
        none⟩ : Input LoginMessage).run (s.drop (i + 1)) := by
  obtain ⟨hlength, _⟩ := validLength_iff.mp hvalid
  obtain ⟨n, hn⟩ := Int.eq_ofNat_of_zero_le hlength
  have hnat := toNat_of_toInt hn
  have htext : ((s.drop (0 + 4)).take (intAt s 0).toNat).length = (intAt s 0).toNat := by
    rw [List.length_take, List.length_drop]
    omega
  have hsame : ¬ (intAt s 0).toInt ≠ (newString ((s.drop (0 + 4)).take (intAt s 0).toNat)).length := by
    rw [newString_length, htext, hn, hnat, not_not]
  refine ⟨newString ((s.drop (0 + 4)).take (intAt s 0).toNat), ?_⟩
  unfold ofStream
  dsimp only
  rw [bind_ok (onIOException_ok (dsReadInt_at (by omega)) _), hvalid, if_neg (by simp),
    bind_ok (readStr_at (by omega) hlength), if_neg hsame, hi,
    bind_ok (onIOException_ok (dsReadByte_at h) _)]
  rfl

theorem LoginMessage.ofStream_follows (decodeKey : JavaString → Except JavaThrow Key) (s : Bytes)
    (k : κ) : Follows (fromInput (ofStream decodeKey)) s k 0 (extent decodeKey s k) := by
  refine ⟨Nat.zero_le _, fun h => ?_⟩
  unfold extent Extent.name Extent.int at h ⊢
  by_cases hvalid : validLength (intAt s 0) MAX_UNAME_LEN = true
  · rw [if_pos hvalid] at h ⊢
    dsimp only at h ⊢
    generalize hi : 0 + 4 + (intAt s 0).toNat = i at h ⊢
    split at h
    · rename_i hkey
      obtain ⟨username, hrun⟩ := ofStream_at decodeKey hvalid hi h
      rw [if_pos hkey] at hrun ⊢
      rw [fromInput_error hrun k]
      exact .refused _ _ _
    · rename_i hkey
      split at h
      · rename_i hasymmetric
        have hend : i + 1 + KEY_LEN ≤ s.length := by
          split at h <;> exact h
        obtain ⟨username, hrun⟩ := ofStream_at decodeKey hvalid hi (by omega)
        have hread : (BabbleOnMessage.readStr (BitVec.ofNat 32 KEY_LEN)).run (s.drop (i + 1)) =
            .ok (newString ((s.drop (i + 1)).take KEY_LEN)) (s.drop (i + 1 + KEY_LEN)) :=
          readStr_at hend (by decide)
        rw [if_neg hkey, if_pos hasymmetric, bind_ok hread] at hrun
        rw [if_neg hkey, if_pos hasymmetric]
        rcases hdecode : decodeKey (newString ((s.drop (i + 1)).take KEY_LEN)) with e | publicKey
        · rw [hdecode] at hrun
          rw [fromInput_error hrun k]
          cases e with
          | babble message => exact .refused _ _ _
          | _ => exact .died _ (by simp) _
        · rw [hdecode] at hrun
          rw [fromInput_ok hrun k]
          exact .done _ _ _
      · rename_i hother
        obtain ⟨username, hrun⟩ := ofStream_at decodeKey hvalid hi h
        rw [if_neg hkey, if_neg hother, run_pure] at hrun
        rw [if_neg hkey, if_neg hother, fromInput_ok hrun k]
        exact .done _ _ _
  · rw [if_neg hvalid] at h ⊢
    have hrun : (ofStream decodeKey).run (s.drop 0) =
        .error (.babble "Username Length invalid") (s.drop (0 + 4)) := by
      unfold ofStream
      rw [bind_ok (onIOException_ok (dsReadInt_at h) _), if_pos (by simp [hvalid])]
      rfl
    rw [fromInput_error hrun k]
    exact .refused _ _ _

theorem ACKMessage.ofStream_follows (s : Bytes) (k : κ) :
    Follows (fromInput ofStream) s k 0 (1, .done k) := by
  refine ⟨Nat.zero_le _, fun h => ?_⟩
  obtain ⟨b, rest, rfl⟩ := List.exists_cons_of_length_pos h
  rw [List.drop_zero, fromInput_ok (ofStream_byte b rest) k]
  exact .done 1 _ k

theorem ChallengeMessage.ofStream_follows (s : Bytes) (k : κ) :
    Follows (fromInput ofStream) s k 0 (CHALLENGE_LEN, .done k) := by
  refine ⟨Nat.zero_le _, fun h => ?_⟩
  have htake : (s.take CHALLENGE_LEN).length = CHALLENGE_LEN := List.length_take_of_le h
  have hread := ofStream_bytes htake (s.drop CHALLENGE_LEN)
  rw [List.take_append_drop] at hread
  rw [List.drop_zero, fromInput_ok hread k]
  exact .done _ _ k

def frame (type : Byte) (payload : Bytes) : Bytes :=
  (⟨type, BitVec.ofNat 64 payload.length⟩ : BabbleOnMessage).writeHeader ++ payload

-- the types that the reader thread has a handler for
def Handled (type : Byte) : Prop :=
  type = MessageType.LoginMessage ∨ type = MessageType.ChallengeMessage ∨
    type = MessageType.ACKMessage ∨ type = MessageType.PollResponseMessage

section Boundary

variable {currentTimeMillis : BitVec 64} {decodeKey : JavaString → Except JavaThrow Key} {c : Cipher κ}
  {type : Byte}

theorem readFor_follows (htype : Handled type) (s : Bytes) (k : κ) :
    Follows (readFor currentTimeMillis decodeKey c type) s k 0
      (extent currentTimeMillis decodeKey c type s k) := by
  unfold readFor extent
  refine .cases (fun _ => (ACKMessage.ofStream_follows s k).map _) fun hack =>
    .cases (fun _ => (ChallengeMessage.ofStream_follows s k).map _) fun hchallenge => ?_
  by_cases hlogin : type = MessageType.LoginMessage
  · rw [if_pos hlogin, if_pos hlogin]
    exact (LoginMessage.ofStream_follows decodeKey s k).map _
  · have hpoll : type = MessageType.PollResponseMessage :=
      ((htype.resolve_left hlogin).resolve_left hchallenge).resolve_left hack
    rw [if_neg hlogin, if_neg hlogin, if_pos hpoll]
    exact (PollResponseMessage.ofStream_follows currentTimeMillis c s k).map _

theorem receive_frame (htype : Handled type) {payload : Bytes} (hn : payload.length < 2 ^ 63)
    (rest : Bytes) (k : κ) :
    (receive currentTimeMillis decodeKey c).run ⟨frame type payload ++ rest, k⟩ =
      (readFor currentTimeMillis decodeKey c type).run ⟨payload ++ rest, k⟩ := by
  have hhead := BabbleOnMessage.ofStream_length type (BitVec.ofNat 64 payload.length) (payload ++ rest)
  rw [SignedWords.toInt_ofNat_long hn, if_neg (by omega)] at hhead
  have hknown : MessageType.getMessageType type = some type := by
    rcases htype with rfl | rfl | rfl | rfl <;> rfl
  unfold frame BabbleOnMessage.writeHeader
  rw [List.append_assoc]
  exact receive_known (fromInput_ok hhead k) hknown

-- after a frame has been handled, the next header read starts behind its payload
def InStep (currentTimeMillis : BitVec 64) (decodeKey : JavaString → Except JavaThrow Key)
    (c : Cipher κ) (type : Byte) (payload rest : Bytes) (k : κ) : Prop :=
  match (receive currentTimeMillis decodeKey c).run ⟨frame type payload ++ rest, k⟩ with
  | .ok _ r => r.input = rest
  | .error (.babble _) r => r.input = rest
  | .error _ _ => True

theorem inStep_of_ends {payload rest : Bytes} {k : κ} {e : Extent κ}
    (hends : Ends (payload ++ rest) e
      ((receive currentTimeMillis decodeKey c).run ⟨frame type payload ++ rest, k⟩))
    (hreads : e.1 ≤ (payload ++ rest).length) :
    InStep currentTimeMillis decodeKey c type payload rest k ↔
      e.2 = .died ∨ e.1 = payload.length := by
  have hdrop (i : Nat) (h : i ≤ (payload ++ rest).length) :
      (payload ++ rest).drop i = rest ↔ i = payload.length := by
    constructor
    · intro hrest
      have hlength := congrArg List.length hrest
      rw [List.length_drop] at hlength
      rw [List.length_append] at h hlength
      omega
    · rintro rfl
      exact List.drop_left
  unfold InStep
  generalize (receive currentTimeMillis decodeKey c).run ⟨frame type payload ++ rest, k⟩ = result
    at hends
  cases hends with
  | done i a k' => simpa using hdrop i hreads
  | refused i message k' => simpa using hdrop i hreads
  | @died i e he r =>
    cases e with
    | babble message => exact absurd rfl (he message)
    | _ => simp

theorem receive_ends (htype : Handled type) {payload rest : Bytes} (hn : payload.length < 2 ^ 63) (k : κ)
    (hreads : (extent currentTimeMillis decodeKey c type (payload ++ rest) k).1 ≤
      (payload ++ rest).length) :
    Ends (payload ++ rest) (extent currentTimeMillis decodeKey c type (payload ++ rest) k)
      ((receive currentTimeMillis decodeKey c).run ⟨frame type payload ++ rest, k⟩) := by
  rw [receive_frame htype hn]
  exact (readFor_follows htype (payload ++ rest) k).ends hreads

theorem in_step_iff (htype : Handled type) {payload rest : Bytes} (hn : payload.length < 2 ^ 63) (k : κ)
    (hreads : (extent currentTimeMillis decodeKey c type (payload ++ rest) k).1 ≤
      (payload ++ rest).length) :
    InStep currentTimeMillis decodeKey c type payload rest k ↔
      (extent currentTimeMillis decodeKey c type (payload ++ rest) k).2 = .died ∨
        (extent currentTimeMillis decodeKey c type (payload ++ rest) k).1 = payload.length :=
  inStep_of_ends (receive_ends htype hn k hreads) hreads

end Boundary

def noText : Cipher Unit where
  getBlockSize := 16
  update := fun k _ => (some [], k)
  doFinal := fun k _ => (none, k)
  positive := block_positive
  bounded := by simp

def loginPayload : Bytes :=
  writeInt 3#32 ++ ([98#8, 111#8, 98#8] ++ 1#8 :: List.replicate LoginMessage.KEY_LEN 65#8)

def someKey : Key := ⟨[], by simp⟩

def anyKey : JavaString → Except JavaThrow Key := fun _ => .ok someKey

theorem login_in_step :
    InStep 0#64 anyKey noText MessageType.LoginMessage loginPayload [83#8] () := by
  have hlength : loginPayload.length = 279 := by decide +kernel
  have hextent : (extent 0#64 anyKey noText MessageType.LoginMessage (loginPayload ++ [83#8]) ()).1 =
      279 := by decide +kernel
  have hshort : loginPayload.length < 2 ^ 63 := by
    rw [hlength]
    decide
  have hreads : (extent 0#64 anyKey noText MessageType.LoginMessage (loginPayload ++ [83#8]) ()).1 ≤
      (loginPayload ++ [83#8]).length := by
    rw [hextent, List.length_append, hlength]
    decide
  rw [in_step_iff (.inl rfl) hshort () hreads]
  exact .inr (hextent.trans hlength.symm)

theorem long_ack_out_of_step :
    ¬ InStep 0#64 (fun _ => .error (.babble "Cannot decode key: null")) noText
      MessageType.ACKMessage [0#8, 0#8] [] () := by
  rw [inStep_of_ends (receive_ends (.inr (.inr (.inl rfl))) (by decide) () (by decide)) (by decide)]
  rintro (hdied | hlength)
  · cases hdied
  · exact absurd hlength (by decide)

end Client
