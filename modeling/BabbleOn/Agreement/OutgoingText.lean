import BabbleOn.Agreement.PollCycle
import BabbleOn.Client.Recipients
import BabbleOn.Server.StoredRows

namespace Agreement
open Execution CipherBlockChaining SegmentedStream SignedWords Client BabbleOnClient Server

variable {AES : Block 16 → Equiv.Perm (Block 16)} {keyString : Str} {clock : Nat → BitVec 64}
  {username name message : JavaString}

section Frames

def outCipher (AES : Block 16 → Equiv.Perm (Block 16)) (keyString : Str) :
    Cipher (CipherBlockChaining.Stream 16) :=
  cipherSymmetricOut (AES (front keyString)) symIv

theorem aes_shared (hascii : IsAscii message) :
    SharedKey (World.quiet.encrypting AES) keyString (outCipher AES keyString) ⟨symIv, []⟩
      (whole (AES (front keyString)) symIv) message := by
  refine ⟨cipherSymmetricOut_resets hascii, fun j _ => ?_, fun j _ => ?_⟩
  · have hbit : IsAscii (bit message j) := fun x hx =>
      hascii x (List.mem_of_mem_drop (List.mem_of_mem_take hx))
    have hshort : (getBytes (bit message j)).length / 16 = 0 := by
      rw [getBytes_length hbit, bit_length]
      omega
    rw [whole_length, hshort]
  · rw [symIv_eq]
    exact aesDecrypt_aesEncrypt _ _ _

-- a frame that carries the whole text from one user to another
structure Addressed (AES : Block 16 → Equiv.Perm (Block 16)) (keyString : Str)
    (clock : Nat → BitVec 64) (username message name : JavaString) (frame : Str) : Prop where
  carried : ∃ resp first others k, (∀ h, DecodesTo h frame (.pollResponse resp)) ∧
    resp.msgList = first :: others ∧ first.sender = getBytes username ∧
    first.receiver = getBytes name ∧ first.time = clock k ∧
    resp.msgList.flatMap (fun msg => aesDecrypt AES msg.message keyString ivString) = getBytes message

theorem sent_addressed (hclock : ∀ i, 0 ≤ (clock i).toInt) (hname : matchesRegex username = true)
    (hrecipient : matchesRegex name = true) (hascii : IsAscii message) (hne : message ≠ [])
    (hsize : frameSize username name message < 2 ^ 31) {sendMsg : PollResponseMessage} {frame : Bytes}
    (hsent : Sent clock (outCipher AES keyString) ⟨symIv, []⟩ username message name sendMsg frame) :
    Addressed AES keyString clock username message name frame := by
  obtain ⟨reads, rfl⟩ := hsent.encoded
  have hkey := @aes_shared AES keyString message hascii
  have hfrag := hsent.fragmented
  have hcount := messages_eq message.length
  have hlen : message.length < 2 ^ 31 := by
    unfold frameSize at hsize
    rw [Nat.mul_add] at hsize
    omega
  have hmany := messages_bounds (List.length_pos_iff.mpr hne)
  obtain ⟨t, len, payload, hframe⟩ := sendable_frame (fun i => hclock (reads + i))
    (sent_sendable hname hrecipient hsent hlen) rfl
  obtain ⟨_, _, _, hu, _, _, _, _, _, _, hsendMsg⟩ := PollResponseMessage.new_eq_ok.mp hsent.built
  cases hu
  have husername : sendMsg.username = username := by rw [hsendMsg]
  have hpayload : (ClientMessage.pollResponse sendMsg).payloadSize + 19 =
      frameSize username name message := by
    rw [ClientMessage.payloadSize, fragments_size hkey hlen hfrag, husername, frameSize]
    omega
  obtain ⟨m, msgs, hlist⟩ := List.exists_cons_of_length_pos (hfrag.count ▸ hmany.2.2)
  have husers := (hfrag.each 0 m (by rw [hlist]; rfl)).users
  have hhead : (sendMsg.newMessages.zipIdx.map fun p => ClientMessage.entry (clock (reads + p.2)) p.1) =
      ClientMessage.entry (clock (reads + 0)) m ::
        (msgs.zipIdx 1).map fun p => ClientMessage.entry (clock (reads + p.2)) p.1 := by
    rw [hlist, List.zipIdx_cons, List.map_cons]
  have htext : (sendMsg.newMessages.zipIdx.map fun p =>
      ClientMessage.entry (clock (reads + p.2)) p.1).flatMap
        (fun msg => aesDecrypt AES msg.message keyString ivString) = getBytes message := by
    rw [List.flatMap_map, ← fragments_decrypted hkey hlen hascii hfrag]
    conv_rhs => rw [← List.zipIdx_map_fst 0 sendMsg.newMessages, List.flatMap_map]
    rfl
  exact ⟨⟨_, _, _, _, fun h => frame_decodes h hframe (by omega), hhead, congrArg getBytes husers.1,
    congrArg getBytes husers.2, rfl, htext⟩⟩

end Frames

section Filing

open SharedDatabase

variable {τ : Type} {D : Deployment τ} {P : State τ} {i n : Nat} {endTime : Int}

-- the times that the client's clock has told, as the database keeps them
def Clocked (sql : Sql τ) (clock : Nat → BitVec 64) (stamp : τ) : Prop :=
  ∃ k, stamp = sql.from_unixtime (Server.seconds (clock k))

-- the server runs, and the session of this user waits for its next message
structure InLoop (D : Deployment τ) (P : State τ) (i : Nat) (username : JavaString) (keyString : Str)
    (endTime : Int) (rounds : Nat) (pending : Str) : Prop where
  running : Interaction.Running Fatal P
  program : P.program i = Dialogue.serve (D.code i) endTime (getBytes username) keyString rounds
  live : (P.own i).sock.Live
  pending : (P.own i).sock.pending = pending

theorem stores_frames {names : List JavaString} {frames : List Str} {accounts : List Login} {s : Login}
    {rest : Str} (hcode : (D.code i).aesDecrypt = aesDecrypt AES)
    (hequal : ∀ text, D.sql.equal text text = true)
    (hs : Account D.sql P.shared (getBytes username) s)
    (haccounts : List.Forall₂ (fun name r => Account D.sql P.shared (getBytes name) r) names accounts)
    (hframes : List.Forall₂ (Addressed AES keyString clock username message) names frames)
    (hloop : InLoop D P i username keyString endTime (names.length + n) (frames.flatten ++ rest)) :
    ∃ Q, Advances D i P Q ∧
      Filed (Clocked D.sql clock) s (getBytes message) accounts P.shared Q.shared ∧
      InLoop D Q i username keyString endTime n rest := by
  induction hframes generalizing P accounts with
  | nil =>
    cases haccounts
    rw [List.length_nil, Nat.zero_add] at hloop
    exact ⟨P, ⟨.refl, fun _ _ => ⟨rfl, rfl⟩, hloop.running⟩, .none _, hloop⟩
  | @cons name frame names frames hframe _ ih =>
    obtain ⟨r, accounts, hr, hothers, rfl⟩ := List.forall₂_cons_left_iff.mp haccounts
    obtain ⟨resp, first, others, k, hdecodes, hlist, hsender, hreceiver, htime, htext⟩ := hframe.carried
    obtain ⟨hrunning, hprogram, hlive, hpending⟩ := hloop
    obtain ⟨⟨pending, answers⟩, hsock⟩ : ∃ sock, sock = (P.own i).sock := ⟨_, rfl⟩
    rw [← hsock] at hlive hpending
    rw [List.flatten_cons, List.append_assoc] at hpending
    dsimp only at hpending
    subst hpending
    obtain ⟨p, hplive, hprest, hdecode⟩ := hdecodes D.host ⟨fun _ => 0#8, fun _ => 0#64⟩
      (fun _ => Int.le_refl 0) (frames.flatten ++ rest) answers hlive
    rw [hsock] at hdecode
    rw [List.length_cons, Nat.add_right_comm] at hprogram
    rw [← hcode] at htext
    obtain ⟨P₁, h₁, hstored, hprogram₁, hsock₁⟩ := stores_received hrunning hprogram hdecode hlist hsender
      htext hs (hreceiver ▸ hr) (hequal _)
    obtain ⟨Q, h₂, hfiled, hdone⟩ := ih (hs.login hstored.login)
      (hothers.imp fun _ _ h => h.login hstored.login)
      ⟨h₁.running, hprogram₁, hsock₁ ▸ hplive, hsock₁ ▸ hprest⟩
    exact ⟨Q, h₁.trans h₂, .stored ⟨k, by rw [htime]⟩ hstored hfiled, hdone⟩

theorem frames_addressed (hclock : ∀ i, 0 ≤ (clock i).toInt) (hname : matchesRegex username = true)
    (hnameLen : username.length ≤ MAX_UNAME_LEN) {recipientUsernames : List JavaString}
    (hrecipients : ∀ name ∈ recipientUsernames, matchesRegex name = true ∧ name.length ≤ MAX_UNAME_LEN)
    (hascii : IsAscii message) (hne : message ≠ []) (hlen : message.length < 2 ^ 27)
    {sent : List (PollResponseMessage × Bytes)}
    (hsent : List.Forall₂ (fun name p => Sent clock (outCipher AES keyString) ⟨symIv, []⟩ username message
      name p.1 p.2) recipientUsernames sent) :
    List.Forall₂ (Addressed AES keyString clock username message) recipientUsernames (sent.map (·.2)) := by
  rw [List.forall₂_map_right_iff]
  refine ((List.forall₂_and_left recipientUsernames sent).mpr ⟨hrecipients, hsent⟩).imp ?_
  rintro name ⟨sendMsg, frame⟩ ⟨⟨hvalid, hshort⟩, hone⟩
  refine sent_addressed hclock hname hvalid hascii hne ?_ hone
  have hcount := messages_eq message.length
  have hpieces : messages message.length * (username.length + name.length + 52) ≤
      messages message.length * 180 := by
    unfold MAX_UNAME_LEN at hnameLen hshort
    exact Nat.mul_le_mul_left _ (by omega)
  unfold frameSize MAX_UNAME_LEN at *
  omega

theorem ascii_all {s : JavaString} (h : (s.all fun c => decide (c.toNat < 128)) = true) : IsAscii s :=
  fun c hc => of_decide_eq_true (List.all_eq_true.mp h c hc)

theorem recipients_ascii {recipientUsernames : List JavaString}
    (h : ∀ name ∈ recipientUsernames, matchesRegex name = true) :
    IsAscii (recipients recipientUsernames) := by
  have hheader : IsAscii (java "**Group Message**\nTo: ") := ascii_all (by decide)
  have hline : IsAscii (java "\n") := ascii_all (by decide)
  rw [recipients]
  split
  · intro x hx
    rcases List.mem_append.mp hx with hfirst | hnames
    · exact hheader x hfirst
    · obtain ⟨name, hname, hx⟩ := List.mem_flatMap.mp hnames
      rcases List.mem_append.mp hx with hin | hlast
      · exact matchesRegex_ascii (h name hname) x hin
      · exact hline x hlast
  · intro x hx
    cases hx

structure Typed (pane : RecipientPane) (names : List TypedName) (text : JavaString) : Prop where
  usernameText : pane.usernameText = [COMMA].intercalate (names.map TypedName.text)
  namesLen : ∀ t ∈ names, t.name.length ≤ MAX_UNAME_LEN
  ascii : IsAscii text
  pos : 0 < text.length
  short : text.length < MAX_MSG_LEN * MAX_MSGS

structure Enrolled (sql : Sql τ) (d : Database τ) (username : JavaString) (names : List TypedName)
    (s : Login) (accounts : List Login) : Prop where
  sender : Account sql d (getBytes username) s
  receivers : List.Forall₂ (fun t r => Account sql d (getBytes t.name) r) names accounts

def sentText (names : List TypedName) (text : JavaString) : JavaString :=
  recipients (names.map TypedName.name) ++ text

variable {names : List TypedName} {pane : RecipientPane} {text : JavaString}

theorem Typed.valid (h : Typed pane names text) : ∀ name ∈ names.map TypedName.name,
    matchesRegex name = true ∧ name.length ≤ MAX_UNAME_LEN := by
  intro name hmem
  obtain ⟨t, ht, rfl⟩ := List.mem_map.mp hmem
  exact ⟨(acceptable_iff.mp t.valid).2, h.namesLen t ht⟩

theorem Typed.sent_ascii (h : Typed pane names text) : IsAscii (sentText names text) := by
  intro x hx
  rcases List.mem_append.mp hx with hheader | htext
  · exact recipients_ascii (fun name hmem => (h.valid name hmem).1) x hheader
  · exact h.ascii x htext

theorem Enrolled.receivers_mem {d : Database τ} {sql : Sql τ} {s : Login} {accounts : List Login}
    (h : Enrolled sql d username names s accounts) : ∀ r ∈ accounts, r ∈ d.login := by
  intro r hr
  obtain ⟨j, hj, rfl⟩ := List.mem_iff_getElem.mp hr
  exact (h.receivers.get (h.receivers.length_eq ▸ hj) hj).mem.1

theorem typed_text_filed (hforward : ∀ i, (clock i).toInt ≤ (clock (i + 1)).toInt)
    (hclock : ∀ i, 0 ≤ (clock i).toInt) (hname : matchesRegex username = true)
    (hnameLen : username.length ≤ MAX_UNAME_LEN) (htyped : Typed pane names text)
    (hlen : (sentText names text).length < 2 ^ 27) (reads : Nat) (out : Bytes) :
    ∃ bytes reads', (actionPerformed clock (outCipher AES keyString) username
        pane.actionPerformed.recipientUsernames text).run ⟨[], ⟨symIv, []⟩, reads, out⟩ =
          .ok () ⟨[], ⟨symIv, []⟩, reads', out ++ bytes⟩ ∧
      ∀ {τ : Type} (D : Deployment τ) (P : State τ) (i n : Nat) (endTime : Int) (rest : Str) (s : Login)
        (accounts : List Login), (D.code i).aesDecrypt = aesDecrypt AES →
        (∀ text, D.sql.equal text text = true) → Enrolled D.sql P.shared username names s accounts →
        InLoop D P i username keyString endTime (names.length + n) (bytes ++ rest) →
        ∃ Q, Advances D i P Q ∧ InLoop D Q i username keyString endTime n rest ∧
          Filed (Clocked D.sql clock) s (getBytes (sentText names text)) accounts P.shared
            Q.shared := by
  have hne : sentText names text ≠ [] := by
    refine List.append_ne_nil_of_right_ne_nil _ (List.ne_nil_of_length_pos htyped.pos)
  obtain ⟨sent, hsent, hrun⟩ := sendAll_run hforward hnameLen htyped.sent_ascii (by omega) hne
    (@aes_shared AES keyString _ htyped.sent_ascii).resets (fun name h => (htyped.valid name h).2)
    reads out
  have hframes := frames_addressed hclock hname hnameLen htyped.valid htyped.sent_ascii hne hlen hsent
  have hread := typed_names_read htyped.usernameText
  refine ⟨_, _, by rw [hread]; exact actionPerformed_ok htyped.pos htyped.short hrun, ?_⟩
  intro τ D P i n endTime rest s accounts hcode hequal henrolled hloop
  rw [List.flatMap_def, ← List.length_map TypedName.name] at hloop
  obtain ⟨Q, hadvances, hfiled, hdone⟩ := stores_frames hcode hequal henrolled.sender
    (List.forall₂_map_left_iff.mpr henrolled.receivers) hframes hloop
  exact ⟨Q, hadvances, hdone, hfiled⟩

theorem typed_text_stored (hforward : ∀ i, (clock i).toInt ≤ (clock (i + 1)).toInt)
    (hclock : ∀ i, 0 ≤ (clock i).toInt) (hname : matchesRegex username = true)
    (hnameLen : username.length ≤ MAX_UNAME_LEN) (htyped : Typed pane names text)
    (hlen : (sentText names text).length < 2 ^ 27) (reads : Nat) (out : Bytes) :
    ∃ bytes reads', (actionPerformed clock (outCipher AES keyString) username
        pane.actionPerformed.recipientUsernames text).run ⟨[], ⟨symIv, []⟩, reads, out⟩ =
          .ok () ⟨[], ⟨symIv, []⟩, reads', out ++ bytes⟩ ∧
      ∀ {τ : Type} (D : Deployment τ) (P : State τ) (i n : Nat) (endTime : Int) (rest : Str) (s : Login)
        (accounts : List Login), (D.code i).aesDecrypt = aesDecrypt AES →
        (∀ text, D.sql.equal text text = true) → Enrolled D.sql P.shared username names s accounts →
        InLoop D P i username keyString endTime (names.length + n) (bytes ++ rest) →
        ∃ Q, Advances D i P Q ∧ InLoop D Q i username keyString endTime n rest ∧
          Filed (Clocked D.sql clock) s (getBytes (sentText names text)) accounts P.shared Q.shared ∧
          ∀ time u, (∀ stamp, Clocked D.sql clock stamp → D.sql.later stamp time = true) →
            ∃ rows, Q.shared.selectMessages D.sql time u =
                P.shared.selectMessages D.sql time u ++ rows ∧
              List.Forall₂ (NewRow D.sql (Clocked D.sql clock) s (getBytes (sentText names text)))
                (accounts.filter fun r => D.sql.equal r.email u) rows := by
  obtain ⟨bytes, reads', hrun, hfiles⟩ := @typed_text_filed AES keyString clock username names pane text
    hforward hclock hname hnameLen htyped hlen reads out
  refine ⟨bytes, reads', hrun, ?_⟩
  intro τ D P i n endTime rest s accounts hcode hequal henrolled hloop
  obtain ⟨Q, hadvances, hdone, hfiled⟩ := hfiles D P i n endTime rest s accounts hcode hequal henrolled
    hloop
  exact ⟨Q, hadvances, hdone, hfiled, fun time u hlater =>
    hfiled.selectMessages henrolled.sender.mem.1 henrolled.receivers_mem hlater u⟩

def amysPane : RecipientPane := ⟨java " amy", [], []⟩

def amyTyped : TypedName where
  before := java " "
  name := java "amy"
  after := []
  blanks := List.all_eq_true.mp (show (java " " ++ []).all blank = true by decide)
  valid := by decide

def helloServer : Deployment Int where
  host := littleEndianHost
  sql := plainSql
  code := fun _ => Dialogue.ofWorld (World.quiet.encrypting helloAES)
  rounds := fun _ => 1

def bobSending (bytes : Str) : State Int where
  shared := bobTables
  own := fun _ => ⟨⟨bytes, []⟩, 0, []⟩
  program := fun i => Dialogue.serve (helloServer.code i) 1000 (getBytes (java "bob")) sharedKey 1

theorem amy_typed : Typed amysPane [amyTyped] (java "hello") where
  usernameText := by decide
  namesLen := by decide
  ascii := ascii_all (by decide)
  pos := by decide
  short := by decide

theorem hello_sentText : getBytes (sentText [amyTyped] (java "hello")) = hello := by decide

theorem both_enrolled : Enrolled plainSql bobTables (java "bob") [amyTyped]
    ⟨1, ascii "bob", ascii "pw"⟩ [⟨2, ascii "amy", ascii "wp"⟩] where
  sender := ⟨by decide⟩
  receivers := .cons ⟨by decide⟩ .nil

theorem amy_only : ([⟨2, ascii "amy", ascii "wp"⟩] : List Login).filter
    (fun r => plainSql.equal r.email (ascii "amy")) = [⟨2, ascii "amy", ascii "wp"⟩] := by
  decide

theorem none_before : bobTables.selectMessages plainSql (ascii "0") (ascii "amy") = [] := by decide

theorem clock_later (stamp : Int) (h : Clocked plainSql (fun _ => 5000#64) stamp) :
    plainSql.later stamp (ascii "0") = true := by
  obtain ⟨_, rfl⟩ := h
  exact show plainSql.later (plainSql.from_unixtime (Server.seconds 5000#64)) (ascii "0") = true by
    decide

theorem hello_stored : ∃ bytes reads', (actionPerformed (fun _ => 5000#64) (outCipher helloAES sharedKey)
      (java "bob") amysPane.actionPerformed.recipientUsernames (java "hello")).run
        ⟨[], ⟨symIv, []⟩, 0, []⟩ = .ok () ⟨[], ⟨symIv, []⟩, reads', [] ++ bytes⟩ ∧
    ∃ Q, Advances helloServer 0 (bobSending bytes) Q ∧
      (∃ stamp, Stored bobTables ⟨1, ascii "bob", ascii "pw"⟩ ⟨2, ascii "amy", ascii "wp"⟩ hello stamp
        Q.shared) ∧
      ∃ row, Q.shared.selectMessages plainSql (ascii "0") (ascii "amy") = [row] ∧
        row.text = hello ∧ row.sender = ascii "bob" := by
  obtain ⟨bytes, reads', hrun, hstored⟩ := @typed_text_stored helloAES sharedKey (fun _ => 5000#64)
    (java "bob") [amyTyped] amysPane (java "hello") (fun _ => Int.le_refl _) (fun _ => by decide)
    (by decide) (by decide) amy_typed (by decide) 0 []
  refine ⟨bytes, reads', hrun, ?_⟩
  obtain ⟨Q, hadvances, _, hfiled, hselect⟩ := hstored helloServer (bobSending bytes) 0 0 1000 [] _ _ rfl
    (fun text => decide_eq_true rfl) both_enrolled
    ⟨fun j e he => absurd he (serve_running _ _ _ _ _ e), rfl,
      by simp [bobSending, SegmentedStream.Stream.Live], (List.append_nil bytes).symm⟩
  obtain ⟨rows, hrows, hnew⟩ := hselect (ascii "0") (ascii "amy") clock_later
  rw [show helloServer.sql = plainSql from rfl, amy_only] at hnew
  obtain ⟨row, _, hrow, hnone, rfl⟩ := List.forall₂_cons_left_iff.mp hnew
  cases hnone
  have honce : ∃ stamp, Stored bobTables ⟨1, ascii "bob", ascii "pw"⟩ ⟨2, ascii "amy", ascii "wp"⟩ hello
      stamp Q.shared := by
    cases hfiled with
    | stored _ h rest =>
      cases rest
      exact ⟨_, hello_sentText ▸ h⟩
  exact ⟨Q, hadvances, honce, row, hrows.trans (congrArg (· ++ [row]) none_before),
    hrow.text.trans hello_sentText, hrow.sender⟩

end Filing

end Agreement
