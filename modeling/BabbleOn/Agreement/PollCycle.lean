import BabbleOn.Agreement.ClientFrames
import BabbleOn.Agreement.IncomingText
import BabbleOn.Agreement.Reassembly
import BabbleOn.Client.ReaderRuns
import BabbleOn.Server.AuthenticDelivery

namespace Agreement
open Execution CipherBlockChaining SegmentedStream Client Server SignedWords Runs

section Writing

variable {κ : Type} {machine : Machine κ} {s : Session κ} {out : List Written} {username : JavaString}
  {lastPollTime : BitVec 64}

theorem logged_ok {m : Handler κ Unit} {s s' : Session κ} (h : m.run s = .ok () s') :
    (Session.logged m).run s = .ok () s' := by
  simp only [EStateM.run, Session.logged] at h ⊢
  simp only [h]

theorem encode_run (hout : s.out = some out) (message : Written) :
    (Session.encode machine message).run s =
      if machine.writeFails s.calls then
        .error (.babble "MsgException: ") { s with calls := s.calls + 1 }
      else .ok () { s with calls := s.calls + 1, out := some (out ++ [message]) } := by
  have hnull : (Session.orNull s.out : Handler κ (List Written)).run s = .ok out s := by
    rw [hout]
    rfl
  unfold Session.encode
  rw [bind_ok (run_get s), bind_ok hnull,
    bind_ok (show (Session.external machine.writeFails : Handler κ Bool).run s =
      .ok (machine.writeFails s.calls) { s with calls := s.calls + 1 } from rfl)]
  split <;> rfl

theorem pollServer_writes (hout : s.out = some out) (huser : s.username = some username) :
    (after ((Session.pollServer machine lastPollTime).run s)).out = some out ∧
        (∀ s', (Session.pollServer machine lastPollTime).run s ≠ .ok () s') ∨
      ∃ poll, PollMessage.new (machine.currentTimeMillis s.calls) (BitVec.ofNat 32 username.length)
          (some username) lastPollTime = .ok poll ∧
        (Session.pollServer machine lastPollTime).run s =
          .ok () { s with calls := s.calls + 2, out := some (out ++ [.poll poll]) } := by
  have hclock : (Session.external machine.currentTimeMillis : Handler κ (BitVec 64)).run s =
      .ok (machine.currentTimeMillis s.calls) { s with calls := s.calls + 1 } := rfl
  have hnamed : (Session.pollServer machine lastPollTime).run s = (do
      let now ← Session.external machine.currentTimeMillis
      let poll ← ofExcept (PollMessage.new now (BitVec.ofNat 32 username.length) (some username)
        lastPollTime)
      if s.out.isSome then Session.encode machine (.poll poll)
      else do
        let i ← Session.orNull s.poller
        Session.setServerConnected i false : Handler κ Unit).run s := by
    unfold Session.pollServer
    rw [bind_ok (run_get s), huser]
  rw [hnamed, bind_ok hclock]
  cases hnew : PollMessage.new (machine.currentTimeMillis s.calls) (BitVec.ofNat 32 username.length)
      (some username) lastPollTime with
  | error e => exact .inl ⟨hout, fun s' h => by cases h⟩
  | ok poll =>
    have hwritten := @encode_run _ machine { s with calls := s.calls + 1 } out hout (.poll poll)
    rw [bind_ok (show (ofExcept (Except.ok poll) : Handler κ PollMessage).run
      { s with calls := s.calls + 1 } = .ok poll { s with calls := s.calls + 1 } from rfl),
      if_pos (by rw [hout]; rfl), hwritten]
    split
    · exact .inl ⟨hout, fun s' h => by cases h⟩
    · exact .inr ⟨poll, rfl, rfl⟩

theorem poll_writes (hout : s.out = some out) (huser : s.username = some username) (i : Nat) :
    (after ((Session.poll machine i lastPollTime).run s)).out = some out ∨
      ∃ poll, PollMessage.new (machine.currentTimeMillis (s.calls + 1))
          (BitVec.ofNat 32 username.length) (some username) lastPollTime = .ok poll ∧
        (Session.poll machine i lastPollTime).run s = .ok () { s with
          calls := s.calls + 4
          out := some (out ++ [.poll poll])
          pollers := s.pollers.modify i fun thread =>
            { thread with lastPollTime := machine.currentTimeMillis (s.calls + 3) } } := by
  have hclock : (Session.external machine.currentTimeMillis : Handler κ (BitVec 64)).run s =
      .ok (machine.currentTimeMillis s.calls) { s with calls := s.calls + 1 } := rfl
  unfold Session.poll
  rw [bind_ok hclock]
  split
  · have hserver := @pollServer_writes _ machine { s with calls := s.calls + 1 } _ _ lastPollTime hout huser
    rcases hserver with ⟨hsame, hfails⟩ | ⟨poll, hnew, hrun⟩
    · left
      rw [Session.after_logged]
      cases hserver : (Session.pollServer machine lastPollTime).run { s with calls := s.calls + 1 } with
      | ok a s' => exact absurd hserver (hfails s')
      | error e s' =>
        rw [bind_error hserver]
        rw [hserver] at hsame
        exact hsame
    · refine .inr ⟨poll, hnew, ?_⟩
      exact logged_ok ((bind_ok hrun).trans rfl)
  · exact .inl hout

theorem poll_turn {t t' : ReaderThread κ} {i : Nat} (h : ReaderThread.step machine t (.poll i) = some t') :
    ∃ lastPollTime, t.frame.pollers[i]? = some ⟨lastPollTime, true⟩ ∧
      (∀ s, (Session.poll machine i lastPollTime).run t.frame = .ok () s → t' = { t with frame := s }) ∧
      ∀ e s, (Session.poll machine i lastPollTime).run t.frame = .error e s →
        t' = { t with frame := after ((Session.setServerConnected i false).run s) } := by
  simp only [ReaderThread.step] at h
  split at h
  · rename_i lastPollTime hpoller
    refine ⟨lastPollTime, hpoller, fun s hrun => ?_, fun e s hrun => ?_⟩
    · rw [hrun] at h
      split at h
      · cases h
      · exact (Option.some.inj h).symm
    · rw [hrun] at h
      split at h
      · cases h
      · exact (Option.some.inj h).symm
  · cases h

end Writing

section Answering

variable {AES : Block 16 → Equiv.Perm (Block 16)} {w : World} {machine : Machine (Stream 16)}
  {username : JavaString} {keyString : Str}

def frameBytes (h : Host) (frames : List SPChatPollResponse) : Str :=
  frames.flatMap fun m => (SPChatMessage.pollResponse m).encode h

structure Quiet (w : World) : Prop where
  host : w.host = littleEndianHost
  sends : ∀ i, w.sendFails i = false
  garbage : ∀ i j, 0 ≤ ((w.garbage i).time j).toInt
  objects : ∀ i, 0 ≤ (w.objectTime i).toInt

def pollOf (username : JavaString) (poll : PollMessage) : SPChatPoll := ⟨getBytes username, poll.timestamp⟩

-- what the server finds when the poll is the next it reads on `conn`
def rowsFor (w : World) (username : JavaString) (poll : PollMessage) (conn : Conn) : List Row :=
  (w.selectMessages (conn.calls + 2) (Server.seconds poll.timestamp) (getBytes username)).rows

theorem frameBytes_rows (newPoll : SPChatPoll) (rows : List Row) :
    frameBytes littleEndianHost (rows.map (rowFrame (w.encrypting AES) keyString newPoll)) =
      rows.flatMap (rowBytes AES w keyString newPoll) := by
  rw [frameBytes, List.flatMap_map]
  rfl

theorem poll_decodes (hname : matchesRegex username = true) {now lastPollTime : BitVec 64}
    {poll : PollMessage} (hnew : PollMessage.new now (BitVec.ofNat 32 username.length) (some username)
      lastPollTime = .ok poll) (h : Host) : DecodesTo h poll.encode (.poll (pollOf username poll)) := by
  obtain ⟨t, len, payload, hframe⟩ := @poll_frame (fun _ => 0#64) _ _ _ _ _ hnew hname
  obtain ⟨_, hsome, hlen, hle, _, _, hpoll⟩ := PollMessage.new_eq_ok.mp hnew
  cases hsome
  have hshort : (ClientMessage.poll poll).payloadSize < 2 ^ 31 := by
    subst hpoll
    unfold MAX_UNAME_LEN at hle
    simp only [ClientMessage.payloadSize]
    omega
  have hdec := frame_decodes h hframe hshort
  subst hpoll
  exact hdec

theorem poll_served (hw : Quiet w) (hname : matchesRegex username = true) {now lastPollTime : BitVec 64}
    {poll : PollMessage} (hnew : PollMessage.new now (BitVec.ofNat 32 username.length) (some username)
      lastPollTime = .ok poll) {endTime : Int} {conn : Conn} (htime : w.time conn.calls ≤ endTime)
    (hlive : conn.sock.Live) {rest : Str} (hpending : conn.sock.pending = poll.encode ++ rest)
    (hrows : ∀ row ∈ rowsFor w username poll conn, Readable row.sender (getBytes username) row.text) :
    ∃ conn', (serve (w.encrypting AES) endTime (getBytes username) keyString 1).run conn = .ok () conn' ∧
      conn'.sock.Live ∧ conn'.sock.pending = rest ∧ conn'.events = conn.events ++
        .received (.poll (pollOf username poll)) :: (rowsFor w username poll conn).map fun row =>
          .sent (.pollResponse (rowFrame (w.encrypting AES) keyString (pollOf username poll) row)) := by
  have hdec := poll_decodes hname hnew (w.encrypting AES).host
  obtain ⟨_, _, _, _, hstamp, _, hpoll⟩ := PollMessage.new_eq_ok.mp hnew
  obtain ⟨sock, hsock, hrest, hdecode⟩ := decode_received (w := w.encrypting AES) hw.garbage hdec
    { conn with calls := conn.calls + 1 } hlive hpending
  have htimestamp : 0 ≤ (pollOf username poll).time.toInt := by
    subst hpoll
    exact hstamp
  obtain ⟨c, hsent⟩ : ∃ c, c = Conn.mk sock (conn.calls + 3 + 2 * (rowsFor w username poll conn).length)
      (conn.events ++ [.received (.poll (pollOf username poll))] ++
        (rowsFor w username poll conn).map fun row =>
          .sent (.pollResponse (rowFrame (w.encrypting AES) keyString (pollOf username poll) row))) :=
    ⟨_, rfl⟩
  have hanswer : (answerPoll (w.encrypting AES) (getBytes username) keyString (pollOf username poll)).run
      ⟨sock, conn.calls + 2, conn.events ++ [.received (.poll (pollOf username poll))]⟩ = .ok () c := by
    refine (answerPoll_run rfl htimestamp _).trans ?_
    refine (@sendRows_eq_ok (w.encrypting AES) _ (pollOf username poll) hw.sends (name_valid hname)
      htimestamp _ (fun row hrow => ?_) _ _).mpr ⟨fun j row hrow => ?_, hsent⟩
    · have htext := (hrows row hrow).text.1
      omega
    · have hreadable := hrows row (List.mem_of_getElem? hrow)
      exact ⟨hreadable.text.1, hreadable.sender.1, hw.objects _⟩
  refine ⟨c, ?_, by rw [hsent]; exact hsock, by rw [hsent]; exact hrest, ?_⟩
  · rw [serve_received (w := w.encrypting AES) htime hdecode]
    exact (bind_ok hanswer).trans rfl
  · rw [hsent, List.append_assoc]
    rfl

structure TurnTaken (machine : Machine (Stream 16)) (username : JavaString)
    (t t' : ReaderThread (Stream 16)) (poll : PollMessage) : Prop where
  built : PollMessage.new (machine.currentTimeMillis (t.frame.calls + 1))
    (BitVec.ofNat 32 username.length) (some username) poll.timestamp = .ok poll
  reading : Reading (getBytes username) t'
  calls : t'.frame.calls = t.frame.calls + 4
  stream : t'.frame.stream = t.frame.stream
  incomingMessageBox : t'.frame.incomingMessageBox = t.frame.incomingMessageBox

variable {t t' : ReaderThread (Stream 16)} {out : List Written} {i : Nat}

theorem turn_taken (hname : matchesRegex username = true) (ht : Reading (getBytes username) t)
    (hout : t.frame.out = some out) (hstep : ReaderThread.step machine t (.poll i) = some t')
    (hwritten : t'.frame.out ≠ some out) :
    ∃ poll, t'.frame.out = some (out ++ [.poll poll]) ∧
      t.frame.pollers[i]? = some ⟨poll.timestamp, true⟩ ∧ TurnTaken machine username t t' poll := by
  have huser : t.frame.username = some username := by
    rw [ht.username, newString_getBytes (matchesRegex_ascii hname)]
  obtain ⟨lastPollTime, hpoller, hok, herror⟩ := poll_turn hstep
  rcases @poll_writes _ machine _ _ _ lastPollTime hout huser i with hsame | ⟨poll, hnew, hrun⟩
  · -- nothing was written
    cases hpoll : (Session.poll machine i lastPollTime).run t.frame with
    | ok a s =>
      rw [hpoll] at hsame
      exact absurd (by rw [hok s hpoll]; exact hsame) hwritten
    | error e s =>
      rw [hpoll] at hsame
      exact absurd (by rw [herror e s hpoll]; exact hsame) hwritten
  · have hafter := hok _ hrun
    obtain ⟨_, _, _, _, _, _, hpoll⟩ := PollMessage.new_eq_ok.mp hnew
    have htimestamp : poll.timestamp = lastPollTime := by rw [hpoll]
    rw [← htimestamp] at hpoller hnew
    refine ⟨poll, by rw [hafter], hpoller, ⟨hnew, ?_, by rw [hafter], by rw [hafter], by rw [hafter]⟩⟩
    rw [hafter]
    exact ⟨ht.listening, ht.cipher, ht.username⟩

theorem TurnTaken.shows {poll : PollMessage} (h : TurnTaken machine username t t' poll)
    (hidle : t.frame.stream = [])
    (hcipher : machine.cipher = cipherSymmetricIn (AES (front keyString)) BabbleOnClient.symIv true)
    (hclock : ∀ i, (machine.currentTimeMillis i).toInt ≤ (machine.currentTimeMillis (i + 1)).toInt)
    {rows : List Row} (hrows : ∀ row ∈ rows, Readable row.sender (getBytes username) row.text) :
    ∃ shown, perform (ReaderThread.step machine)
        (deliver t' (frameBytes littleEndianHost
          (rows.map (rowFrame (w.encrypting AES) keyString (pollOf username poll)))))
        (List.replicate rows.length .read) = some shown ∧
      Reading (getBytes username) shown ∧ shown.frame.stream = [] ∧
      shown.frame.incomingMessageBox = t.frame.incomingMessageBox ++
        rows.flatMap fun row => shownText machine row.sender row.text poll.timestamp := by
  obtain ⟨_, _, _, _, hstamp, hpast, _⟩ := PollMessage.new_eq_ok.mp h.built
  have hforward : ∀ k ≥ t'.frame.calls,
      (pollOf username poll).time.toInt ≤ (machine.currentTimeMillis k).toInt := by
    intro k hk
    have hcalls := h.calls
    have hmono := monotone_nat_of_le_succ (f := fun i => (machine.currentTimeMillis i).toInt) hclock
      (show t.frame.calls + 1 ≤ k by omega)
    exact Int.le_trans hpast hmono
  refine ⟨afterRows machine (pollOf username poll) rows [] t', ?_, h.reading.after _ [], rfl, ?_⟩
  · rw [frameBytes_rows]
    refine rows_read (w := w) (t := deliver t' _) hcipher hstamp hforward hrows
      (h.reading.deliver _) ?_
    rw [deliver, h.stream, hidle, List.nil_append, List.append_nil]
  · rw [← h.incomingMessageBox]
    rfl

theorem poll_shows_rows (hname : matchesRegex username = true)
    (hcipher : machine.cipher = cipherSymmetricIn (AES (front keyString)) BabbleOnClient.symIv true)
    (hclock : ∀ i, (machine.currentTimeMillis i).toInt ≤ (machine.currentTimeMillis (i + 1)).toInt)
    (ht : Reading (getBytes username) t) (hidle : t.frame.stream = [])
    (hout : t.frame.out = some out) (hstep : ReaderThread.step machine t (.poll i) = some t')
    (hwritten : t'.frame.out ≠ some out) :
    ∃ poll, t'.frame.out = some (out ++ [.poll poll]) ∧
      t.frame.pollers[i]? = some ⟨poll.timestamp, true⟩ ∧
      ∀ (w : World) (endTime : Int) (conn : Conn) (rest : Str), Quiet w → w.time conn.calls ≤ endTime →
        conn.sock.Live → conn.sock.pending = poll.encode ++ rest →
        (∀ row ∈ rowsFor w username poll conn,
          Readable row.sender (getBytes username) row.text) →
        ∃ conn' frames, (serve (w.encrypting AES) endTime (getBytes username) keyString 1).run conn =
            .ok () conn' ∧
          conn'.sock.pending = rest ∧
          List.Forall₂ (fun row m => SharedDatabase.Carries (Dialogue.ofWorld (w.encrypting AES))
            (getBytes username) keyString row.sender row.text m) (rowsFor w username poll conn) frames ∧
          conn'.events = conn.events ++ .received (.poll (pollOf username poll)) ::
            frames.map (fun m => .sent (.pollResponse m)) ∧
          ∃ shown, perform (ReaderThread.step machine) (deliver t' (frameBytes w.host frames))
              (List.replicate frames.length .read) = some shown ∧
            Reading (getBytes username) shown ∧ shown.frame.stream = [] ∧
            shown.frame.incomingMessageBox = t.frame.incomingMessageBox ++
              (rowsFor w username poll conn).flatMap fun row =>
                shownText machine row.sender row.text poll.timestamp := by
  obtain ⟨poll, hpoll, hpoller, hturn⟩ := turn_taken hname ht hout hstep hwritten
  refine ⟨poll, hpoll, hpoller, fun w endTime conn rest hw htime hlive hpending hrows => ?_⟩
  obtain ⟨conn', hserve, _, hrest, hevents⟩ :=
    @poll_served AES w username keyString hw hname _ _ _ hturn.built _ _ htime hlive _ hpending hrows
  refine ⟨conn', (rowsFor w username poll conn).map
    (rowFrame (w.encrypting AES) keyString (pollOf username poll)), hserve, hrest,
    SharedDatabase.rowFrames_carry (w.encrypting AES) keyString (pollOf username poll) _, ?_, ?_⟩
  · rw [hevents, List.map_map]
    rfl
  · rw [hw.host, List.length_map]
    exact hturn.shows hidle hcipher hclock hrows

-- AES-128 takes the one block of `hello` to this block under the key 0123456789abcdef
def helloAES : Block 16 → Equiv.Perm (Block 16) := fun _ =>
  Equiv.swap (mix BabbleOnClient.symIv (hello ++ List.replicate 11 11#8)) (front helloEncrypted)

def sharedKey : Str := ascii "0123456789abcdef"

def amysMachine : Machine (Stream 16) where
  cipher := cipherSymmetricIn (helloAES (front sharedKey)) BabbleOnClient.symIv true
  initDecrypt := fun _ => some ⟨BabbleOnClient.symIv, []⟩
  digest := fun _ => List.replicate 32 0#8
  generateNonce := fun _ => 0#64
  currentTimeMillis := fun _ => 6000#64
  decodeKey := anyKey
  generatePublic := some
  wrap := fun _ _ _ => some (List.replicate 128 7#8)
  writeFails := fun _ => false
  date := fun _ => java "Thu Jan 01 00:00:00 UTC 1970"
  newline := java "\n"

def amysReader : ReaderThread (Stream 16) where
  working := false
  alive := true
  exited := false
  frame := {
    authenticated := true
    username := some (java "amy")
    input := none
    serverPubKey := none
    localPublicKey := none
    localPrivateKey := none
    symmetricKey := some someKey
    cipherSymmetricIn := some ⟨BabbleOnClient.symIv, []⟩
    stream := []
    out := some []
    poller := some 0
    pollers := [⟨0#64, true⟩]
    hasExchangedKeys := true
    incomingMessageBox := []
    shown := []
    calls := 0 }

def hellosWorld : World := { World.quiet with
  selectMessages := fun _ _ _ => ⟨[⟨hello, ascii "amy", ascii "bob", ascii "0"⟩], false⟩ }

theorem hello_readable : Readable (ascii "bob") (getBytes (java "amy")) hello :=
  ⟨by decide, by decide, by decide⟩

theorem hello_shown (time : BitVec 64) : shownText amysMachine (ascii "bob") hello time =
    java "From: bob\nhello\nThu Jan 01 00:00:00 UTC 1970\n" := by
  have hdate : amysMachine.date time = java "Thu Jan 01 00:00:00 UTC 1970" := rfl
  rw [shownText, hdate]
  decide

theorem amy_shown : ∃ t' poll, ReaderThread.step amysMachine amysReader (.poll 0) = some t' ∧
    t'.frame.out = some [.poll poll] ∧
    ∃ conn' m, (serve (hellosWorld.encrypting helloAES) 1000 (getBytes (java "amy")) sharedKey 1).run
        ⟨⟨poll.encode, []⟩, 0, []⟩ = .ok () conn' ∧
      SharedDatabase.Carries (Dialogue.ofWorld (hellosWorld.encrypting helloAES)) (getBytes (java "amy"))
        sharedKey (ascii "bob") hello m ∧
      conn'.events = [.received (.poll (pollOf (java "amy") poll)), .sent (.pollResponse m)] ∧
      ∃ shown, perform (ReaderThread.step amysMachine) (deliver t' (frameBytes littleEndianHost [m]))
          [.read] = some shown ∧
        shown.frame.incomingMessageBox =
          java "From: bob\nhello\nThu Jan 01 00:00:00 UTC 1970\n" := by
  obtain ⟨t', hstep, hout⟩ : ∃ t', ReaderThread.step amysMachine amysReader (.poll 0) = some t' ∧
      t'.frame.out ≠ some [] := by
    refine ⟨_, rfl, ?_⟩
    simp
  obtain ⟨poll, hwritten, _, hserved⟩ := poll_shows_rows
    (show matchesRegex (java "amy") = true by decide) rfl
    (fun _ => Int.le_refl _) (t := amysReader) ⟨by decide, rfl, by decide⟩ rfl rfl hstep hout
  obtain ⟨conn', frames, hserve, _, hcarried, hevents, shown, hread, _, _, hbox⟩ := hserved hellosWorld 1000
    ⟨⟨poll.encode, []⟩, 0, []⟩ [] ⟨rfl, fun _ => rfl, fun _ _ => Int.le_refl 0, fun _ => Int.le_refl 0⟩
    (show (0 : Int) ≤ 1000 by decide) (by simp [SegmentedStream.Stream.Live]) (List.append_nil _).symm
    (fun row hrow => List.mem_singleton.mp hrow ▸ hello_readable)
  obtain ⟨m, _, hone, hnone, rfl⟩ := List.forall₂_cons_left_iff.mp hcarried
  cases hnone
  exact ⟨t', poll, hstep, hwritten, conn', m, hserve, hone, hevents, shown, hread,
    hbox.trans (hello_shown poll.timestamp)⟩

end Answering

end Agreement
