import BabbleOn.Agreement.OutgoingText

namespace Agreement
open Execution CipherBlockChaining SegmentedStream SignedWords Client BabbleOnClient Server
open Interaction SharedDatabase
open Runs (perform)

variable {τ : Type} {AES : Block 16 → Equiv.Perm (Block 16)} {keyString : Str}
  {machine : Machine (Stream 16)} {t t' : ReaderThread (Stream 16)} {username : JavaString}

theorem rowFrame_encrypts {w : World} (h : w.aesEncrypt = aesEncrypt AES) (newPoll : SPChatPoll)
    (row : Row) : rowFrame w keyString newPoll row =
      rowFrame (World.quiet.encrypting AES) keyString newPoll row := by
  simp only [rowFrame, h, World.encrypting]

theorem flatMap_newRows {sql : Sql τ} {stamped : τ → Prop} {s : Login} {text : Str}
    {receivers : List Login} {rows : List Row}
    (h : List.Forall₂ (NewRow sql stamped s text) receivers rows) (time : BitVec 64) :
    rows.flatMap (fun row => shownText machine row.sender row.text time) =
      (List.replicate receivers.length (shownText machine s.email text time)).flatten := by
  induction h with
  | nil => rfl
  | cons hrow _ ih =>
    rw [List.flatMap_cons, ih, hrow.sender, hrow.text, List.length_cons, List.replicate_succ,
      List.flatten_cons]

theorem newRows_readable {sql : Sql τ} {stamped : τ → Prop} {s : Login} {text receiver : Str}
    {receivers : List Login} {rows : List Row}
    (h : List.Forall₂ (NewRow sql stamped s text) receivers rows)
    (hreadable : Readable s.email receiver text) :
    ∀ row ∈ rows, Readable row.sender receiver row.text := by
  intro row hrow
  obtain ⟨j, hj, rfl⟩ := List.mem_iff_getElem.mp hrow
  have hnew := h.get (h.length_eq ▸ hj) hj
  rw [List.get_eq_getElem, List.get_eq_getElem] at hnew
  rw [hnew.sender, hnew.text]
  exact hreadable

theorem getBytes_small {s : JavaString} (h : IsAscii s) : ∀ x ∈ getBytes s, x.toNat < 128 := by
  rw [getBytes_ascii h]
  intro x hx
  obtain ⟨c, hc, rfl⟩ := List.mem_map.mp hx
  have hsmall := h c hc
  rw [BitVec.toNat_setWidth]
  omega

section Answering

variable {D : Deployment τ} {P : State τ} {j n : Nat} {endTime : Int} {poll : PollMessage}
  {rest : Str}

theorem tables_shown (hname : matchesRegex username = true)
    (hcipher : machine.cipher = cipherSymmetricIn (AES (front keyString)) BabbleOnClient.symIv true)
    (hclock : ∀ i, (machine.currentTimeMillis i).toInt ≤ (machine.currentTimeMillis (i + 1)).toInt)
    (hidle : t.frame.stream = []) (hturn : TurnTaken machine username t t' poll)
    (hhost : D.host = littleEndianHost) (hcode : (D.code j).aesEncrypt = aesEncrypt AES)
    (hloop : InLoop D P j username keyString endTime (n + 1) (poll.encode ++ rest))
    (hrows : ∀ row ∈ P.shared.selectMessages D.sql (seconds poll.timestamp) (getBytes username),
      Readable row.sender (getBytes username) row.text) :
    ∃ Q frames, Advances D j P Q ∧ Q.shared = P.shared ∧
      InLoop D Q j username keyString endTime n rest ∧
      List.Forall₂ (fun row m => SharedDatabase.Carries (D.code j) (getBytes username) keyString row.sender
          row.text m)
        (P.shared.selectMessages D.sql (seconds poll.timestamp) (getBytes username)) frames ∧
      (Q.own j).events = (P.own j).events ++ .received (.poll (pollOf username poll)) ::
        frames.map (fun m => .sent (.pollResponse m)) ∧
      ∃ shown, perform (ReaderThread.step machine) (deliver t' (frameBytes D.host frames))
          (List.replicate frames.length .read) = some shown ∧
        Reading (getBytes username) shown ∧ shown.frame.stream = [] ∧
        shown.frame.incomingMessageBox = t.frame.incomingMessageBox ++
          (P.shared.selectMessages D.sql (seconds poll.timestamp) (getBytes username)).flatMap
            fun row => shownText machine row.sender row.text poll.timestamp := by
  obtain ⟨_, _, _, _, hstamp, _, hpoll⟩ := PollMessage.new_eq_ok.mp hturn.built
  obtain ⟨hrunning, hprogram, hlive, hpending⟩ := hloop
  obtain ⟨⟨pending, answers⟩, hsock⟩ : ∃ sock, sock = (P.own j).sock := ⟨_, rfl⟩
  rw [← hsock] at hlive hpending
  dsimp only at hpending
  subst hpending
  obtain ⟨p, hplive, hprest, hdecode⟩ := poll_decodes hname hturn.built D.host
    ⟨fun _ => 0#8, fun _ => 0#64⟩ (fun _ => Int.le_refl 0) rest answers hlive
  rw [hsock] at hdecode
  have htimestamp : 0 ≤ (pollOf username poll).time.toInt := by
    rw [hpoll]
    exact hstamp
  obtain ⟨Q, hadvances, hshared, hprogram', hsock', hevents⟩ := answers_received hrunning hprogram hdecode
    (name_valid hname) rfl htimestamp fun row hrow =>
      ⟨Nat.le_trans (hrows row hrow).text.1 (by decide), (hrows row hrow).sender.1⟩
  refine ⟨Q, (P.shared.selectMessages D.sql (seconds poll.timestamp) (getBytes username)).map
    (rowFrame (waiting D j P.shared endTime) keyString (pollOf username poll)), hadvances, hshared,
    ⟨hadvances.running, hprogram', hsock' ▸ hplive, hsock' ▸ hprest⟩,
    rowFrames_carry (waiting D j P.shared endTime) keyString (pollOf username poll) _, ?_, ?_⟩
  · rw [hevents, List.map_map]
    rfl
  have hframes : rowFrame (waiting D j P.shared endTime) keyString (pollOf username poll) =
      rowFrame (World.quiet.encrypting AES) keyString (pollOf username poll) :=
    funext (rowFrame_encrypts hcode _)
  rw [hframes, hhost, List.length_map]
  exact hturn.shows hidle hcipher hclock hrows

end Answering

section Shown

variable {clock : Nat → BitVec 64} {senderKey : Str} {reader : JavaString} {out : List Written} {j : Nat}
  {names : List TypedName} {pane : RecipientPane} {text : JavaString}

theorem typed_text_shown (hforward : ∀ k, (clock k).toInt ≤ (clock (k + 1)).toInt)
    (hclock : ∀ k, 0 ≤ (clock k).toInt) (hname : matchesRegex username = true)
    (hnameLen : username.length ≤ MAX_UNAME_LEN) (htyped : Typed pane names text)
    (hlen : (sentText names text).length ≤ 500) (reads : Nat) (sent : Bytes)
    (hreader : matchesRegex reader = true)
    (hcipher : machine.cipher = cipherSymmetricIn (AES (front keyString)) BabbleOnClient.symIv true)
    (hmachine : ∀ k, (machine.currentTimeMillis k).toInt ≤ (machine.currentTimeMillis (k + 1)).toInt)
    (ht : Reading (getBytes reader) t) (hidle : t.frame.stream = []) (hout : t.frame.out = some out)
    (hstep : ReaderThread.step machine t (.poll j) = some t') (hwritten : t'.frame.out ≠ some out) :
    ∃ bytes reads' poll, (actionPerformed clock (outCipher AES senderKey) username
        pane.actionPerformed.recipientUsernames text).run ⟨[], ⟨symIv, []⟩, reads, sent⟩ =
          .ok () ⟨[], ⟨symIv, []⟩, reads', sent ++ bytes⟩ ∧
      t'.frame.out = some (out ++ [.poll poll]) ∧ t.frame.pollers[j]? = some ⟨poll.timestamp, true⟩ ∧
      ∀ {τ : Type} (D : Deployment τ) (P : State τ) (a b n m : Nat) (endTime endTime' : Int)
        (rest rest' : Str) (s : Login) (accounts : List Login), a ≠ b → D.host = littleEndianHost →
        (D.code a).aesDecrypt = aesDecrypt AES → (D.code b).aesEncrypt = aesEncrypt AES →
        (∀ text, D.sql.equal text text = true) →
        (∀ stamp, Clocked D.sql clock stamp → D.sql.later stamp (seconds poll.timestamp) = true) →
        Enrolled D.sql P.shared username names s accounts →
        validUsername s.email = true ∧ s.email.length ≤ 64 →
        (∀ row ∈ P.shared.selectMessages D.sql (seconds poll.timestamp) (getBytes reader),
          Readable row.sender (getBytes reader) row.text) →
        InLoop D P a username senderKey endTime (names.length + n) (bytes ++ rest) →
        InLoop D P b reader keyString endTime' (m + 1) (poll.encode ++ rest') →
        ∃ Q frames, Continues D P Q ∧
          (Q.own b).events = (P.own b).events ++ .received (.poll (pollOf reader poll)) ::
            frames.map (fun m => .sent (.pollResponse m)) ∧
          ∃ shown, perform (ReaderThread.step machine) (deliver t' (frameBytes D.host frames))
              (List.replicate frames.length .read) = some shown ∧
            Reading (getBytes reader) shown ∧ shown.frame.stream = [] ∧
            shown.frame.incomingMessageBox = t.frame.incomingMessageBox ++
              ((P.shared.selectMessages D.sql (seconds poll.timestamp) (getBytes reader)).flatMap
                fun row => shownText machine row.sender row.text poll.timestamp) ++
              (List.replicate (accounts.filter fun r => D.sql.equal r.email (getBytes reader)).length
                (shownText machine s.email (getBytes (sentText names text)) poll.timestamp)).flatten := by
  obtain ⟨bytes, reads', hrun, hfiles⟩ := @typed_text_filed AES senderKey clock username names pane text
    hforward hclock hname hnameLen htyped (by omega) reads sent
  obtain ⟨poll, hpoll, hpoller, hturn⟩ := turn_taken hreader ht hout hstep hwritten
  refine ⟨bytes, reads', poll, hrun, hpoll, hpoller, ?_⟩
  intro τ D P a b n m endTime endTime' rest rest' s accounts hne hhost hdecrypt hencrypt hequal hlater
    henrolled hsender hold hsending hpolling
  obtain ⟨Q₁, hsends, _, hfiled⟩ := hfiles D P a n endTime rest s accounts hdecrypt hequal henrolled
    hsending
  obtain ⟨rows, hselect, hnew⟩ := hfiled.selectMessages henrolled.sender.mem.1 henrolled.receivers_mem
    hlater (getBytes reader)
  -- the reader's connection has waited meanwhile
  obtain ⟨hown, hprogram⟩ := hsends.others b (Ne.symm hne)
  have hpolling₁ : InLoop D Q₁ b reader keyString endTime' (m + 1) (poll.encode ++ rest') :=
    ⟨hsends.running, hprogram ▸ hpolling.program, hown ▸ hpolling.live, hown ▸ hpolling.pending⟩
  have hascii := htyped.sent_ascii
  have hreaderLen : reader.length ≤ MAX_UNAME_LEN := by
    obtain ⟨_, huser, _, hle, _⟩ := PollMessage.new_eq_ok.mp hturn.built
    exact Option.some.inj huser ▸ hle
  have hreadable : Readable s.email (getBytes reader) (getBytes (sentText names text)) := by
    refine ⟨hsender, ⟨name_valid hreader, ?_⟩, ?_, ?_⟩
    · rw [getBytes_length (matchesRegex_ascii hreader)]
      exact hreaderLen
    · rw [getBytes_length hascii]
      exact hlen
    · exact getBytes_small hascii
  have hrows : ∀ row ∈ Q₁.shared.selectMessages D.sql (seconds poll.timestamp) (getBytes reader),
      Readable row.sender (getBytes reader) row.text := by
    rw [hselect]
    intro row hrow
    rcases List.mem_append.mp hrow with hbefore | hrow
    · exact hold row hbefore
    · exact newRows_readable hnew hreadable row hrow
  obtain ⟨Q, frames, hanswers, _, _, _, hevents, shown, hread, hreading, hempty, hbox⟩ := tables_shown
    hreader hcipher hmachine hidle hturn hhost hencrypt hpolling₁ hrows
  refine ⟨Q, frames, hsends.continues.trans hanswers.continues, hown ▸ hevents, shown, hread, hreading,
    hempty, ?_⟩
  rw [hbox, hselect, List.flatMap_append, flatMap_newRows hnew, List.append_assoc]

def bothSignedIn (sent asked : Str) : State Int where
  shared := bobTables
  own := fun i => ⟨⟨if i = 0 then sent else asked, []⟩, 0, []⟩
  program := fun i => Dialogue.serve (helloServer.code i) 1000
    (getBytes (java (if i = 0 then "bob" else "amy"))) sharedKey 1

theorem hello_crosses : ∃ bytes reads' t' poll, (actionPerformed (fun _ => 5000#64)
      (outCipher helloAES sharedKey) (java "bob") amysPane.actionPerformed.recipientUsernames
        (java "hello")).run ⟨[], ⟨symIv, []⟩, 0, []⟩ = .ok () ⟨[], ⟨symIv, []⟩, reads', [] ++ bytes⟩ ∧
    ReaderThread.step amysMachine amysReader (.poll 0) = some t' ∧ t'.frame.out = some [.poll poll] ∧
    ∃ Q frames, Continues helloServer (bothSignedIn bytes poll.encode) Q ∧
      (Q.own 1).events = .received (.poll (pollOf (java "amy") poll)) ::
        frames.map (fun m => .sent (.pollResponse m)) ∧
      ∃ shown, perform (ReaderThread.step amysMachine) (deliver t' (frameBytes littleEndianHost frames))
          (List.replicate frames.length .read) = some shown ∧
        shown.frame.incomingMessageBox =
          java "From: bob\nhello\nThu Jan 01 00:00:00 UTC 1970\n" := by
  obtain ⟨t', hstep, hwritten⟩ : ∃ t', ReaderThread.step amysMachine amysReader (.poll 0) = some t' ∧
      t'.frame.out ≠ some [] := by
    refine ⟨_, rfl, ?_⟩
    simp
  obtain ⟨bytes, reads', poll, hrun, hpoll, hpoller, hshown⟩ := @typed_text_shown helloAES sharedKey
    amysMachine amysReader t' (java "bob") (fun _ => 5000#64) sharedKey (java "amy") [] 0 [amyTyped]
    amysPane (java "hello") (fun _ => Int.le_refl _) (fun _ => by decide) (by decide) (by decide)
    amy_typed (by decide) 0 [] (by decide) rfl (fun _ => Int.le_refl _) ⟨by decide, rfl, by decide⟩ rfl
    rfl hstep hwritten
  have htime : poll.timestamp = 0#64 :=
    (PollThread.mk.inj (Option.some.inj (hpoller.symm.trans
      (show amysReader.frame.pollers[0]? = some ⟨0#64, true⟩ from rfl)))).1
  have hseconds : Server.seconds poll.timestamp = ascii "0" := by
    rw [htime]
    decide
  have hrunning : Running Fatal (bothSignedIn bytes poll.encode) :=
    fun j e he => absurd he (serve_running _ _ _ _ _ e)
  obtain ⟨Q, frames, hcontinues, hevents, shown, hread, _, _, hbox⟩ := hshown helloServer
    (bothSignedIn bytes poll.encode) 0 1 0 0 1000 1000 [] [] ⟨1, ascii "bob", ascii "pw"⟩
    [⟨2, ascii "amy", ascii "wp"⟩] (by decide) rfl rfl rfl (fun text => decide_eq_true rfl)
    (fun stamp h => hseconds ▸ clock_later stamp h) both_enrolled (by decide)
    (by rw [hseconds]; exact none_before ▸ fun row hrow => absurd hrow List.not_mem_nil)
    ⟨hrunning, rfl, by simp [bothSignedIn, SegmentedStream.Stream.Live], (List.append_nil bytes).symm⟩
    ⟨hrunning, rfl, by simp [bothSignedIn, SegmentedStream.Stream.Live],
      (List.append_nil poll.encode).symm⟩
  refine ⟨bytes, reads', t', poll, hrun, hstep, hpoll, Q, frames, hcontinues, hevents, shown, hread, ?_⟩
  rw [hbox, hseconds, hello_sentText, hello_shown, show getBytes (java "amy") = ascii "amy" by decide,
    show helloServer.sql = plainSql from rfl, amy_only,
    show (bothSignedIn bytes poll.encode).shared = bobTables from rfl, none_before]
  rfl

end Shown

end Agreement
