import BabbleOn.Server.ConcurrentServer
import BabbleOn.Server.MessageDelivery
import BabbleOn.Server.SessionExpiry

namespace Server
open Execution Interaction SegmentedStream Dialogue

-- what a peer that knows the password writes, and what the server needs to let it in
structure Opening (w : World) where
  login : SPChatLogin
  response : SPChatResponse
  publicKey : SPChatLogin
  symmetricKey : SPChatLogin
  server2Client : SPChatLogin
  pw : Str
  key : Str
  login_ok : Deliverable (.login login) ∧ login.getPayloadLength < 2 ^ 31
  response_ok : response.WellFormed ∧ response.getPayloadLength < 2 ^ 31
  publicKey_ok : Deliverable (.login publicKey) ∧ publicKey.getPayloadLength < 2 ^ 31
  symmetricKey_ok : symmetricKey.WellFormed ∧ (symmetricKey.layout littleEndianHost).length < 2 ^ 31
  sends : ∀ i, w.sendFails i = false
  stored : (w.selectPassword 5 login.username).rows.getLast? = some pw ∧ pw ≠ []
  hash : response.hash = hex (w.SHA256 (List.ofFn (w.RAND_bytes 2) ++ response.nonce ++ pw))
  saved : SPChatLogin.new [] SPChatLogin.ASYMMETRIC_KEY (w.PEM_Save ++ [0#8])
    (BitVec.ofNat 32 SPChatLogin.ASYMMETRIC_LENGTH) = .ok server2Client
  decrypted : w.decryptor symmetricKey.encSymKey = some key ∧ key.length = keysize

namespace Opening

variable {w : World}

def bytes (o : Opening w) (rest : Str) : Str :=
  (SPChatMessage.login o.login).encode littleEndianHost ++
    ((SPChatMessage.response o.response).encode littleEndianHost ++
      ((SPChatMessage.login o.publicKey).encode littleEndianHost ++ (keyFrame o.symmetricKey ++ rest)))

def events (o : Opening w) : List Event :=
  [.received (.login o.login), .sent (.challenge ⟨List.ofFn (w.RAND_bytes 2)⟩),
    .received (.response o.response), .sent (.ack ⟨.SERVER, .PASSWORD_AUTH⟩),
    .received (.login o.publicKey), .sent (.login o.server2Client),
    .received (.login o.symmetricKey), .sent (.ack ⟨.SERVER, .SUCCESS⟩)]

structure FirstPoll (o : Opening w) (newPoll : SPChatPoll) : Prop where
  wellFormed : newPoll.WellFormed
  length : newPoll.getPayloadLength < 2 ^ 31
  user : newPoll.username = o.login.username
  time : 0 ≤ newPoll.time.toInt
  intime : w.time 11 ≤ w.time 0 + 1000

theorem reached (o : Opening w) {stream : Stream Byte} (hlive : stream.Live) {rest : Str}
    (hp : stream.pending = o.bytes rest) (rounds : Nat) :
    ∃ sock : Stream Byte, sock.Live ∧ sock.pending = rest ∧
      Reached (answer w) (Dialogue.clientConnectStart (ofWorld w) rounds) ⟨stream, 0, []⟩
        (Dialogue.serve (ofWorld w) (w.time 0 + 1000) o.login.username o.key rounds)
        ⟨sock, 11, o.events⟩ := by
  obtain ⟨sock₁, hlive₁, hrest₁, hauth⟩ := authenticate_run (w := w) o.sends (c := ⟨stream, 1, []⟩)
    hlive o.login_ok.1 o.login_ok.2 o.response_ok.1 o.response_ok.2 hp o.stored.1 o.stored.2 o.hash
  obtain ⟨sock₂, hlive₂, hrest₂, hkeys⟩ := exchangeKeys_run (w := w) o.sends
    (c := ⟨sock₁, 7, [] ++ [.received (.login o.login),
      .sent (.challenge ⟨List.ofFn (w.RAND_bytes 2)⟩), .received (.response o.response),
      .sent (.ack ⟨.SERVER, .PASSWORD_AUTH⟩)]⟩)
    hlive₁ o.publicKey_ok.1 o.publicKey_ok.2 o.saved o.symmetricKey_ok.1 o.symmetricKey_ok.2 hrest₁
    o.decrypted.1 o.decrypted.2
  refine ⟨sock₂, hlive₂, hrest₂, ?_⟩
  have htime : Reached (answer w) time ⟨stream, 0, []⟩ (.done (w.time 0)) ⟨stream, 1, []⟩ :=
    reached_of_run (by rw [interpret_ask]; rfl)
  rw [← interpret_authenticate] at hauth
  rw [← interpret_exchangeKeys] at hkeys
  exact htime.bind ((reached_of_run hauth).bind ((reached_of_run hkeys).bind .start))

theorem reached_poll (o : Opening w) {stream : Stream Byte} (hlive : stream.Live) {rest : Str}
    {newPoll : SPChatPoll} (hpoll : o.FirstPoll newPoll)
    (hp : stream.pending = o.bytes ((SPChatMessage.poll newPoll).encode littleEndianHost ++ rest))
    (rounds : Nat) :
    ∃ sock : Stream Byte, sock.Live ∧ sock.pending = rest ∧
      Reached (answer w) (Dialogue.clientConnectStart (ofWorld w) (rounds + 1)) ⟨stream, 0, []⟩
        ((Dialogue.selectMessages (seconds newPoll.time) newPoll.username >>=
            fun res => forM res.rows (Dialogue.sendRow (ofWorld w) o.key newPoll)) >>=
          fun _ => Dialogue.serve (ofWorld w) (w.time 0 + 1000) o.login.username o.key rounds)
        ⟨sock, 13, o.events ++ [.received (.poll newPoll)]⟩ := by
  obtain ⟨sock₁, hlive₁, hrest₁, hreached⟩ := o.reached hlive hp (rounds + 1)
  obtain ⟨sock₂, hlive₂, hrest₂, hdecode⟩ := receive_message (w := w) (c := ⟨sock₁, 12, o.events⟩)
    hlive₁ (.poll hpoll.wellFormed) trivial hpoll.length hrest₁
  refine ⟨sock₂, hlive₂, hrest₂, hreached.trans ?_⟩
  have hanswer : Dialogue.handle (ofWorld w) o.login.username o.key (.poll newPoll) =
      Dialogue.selectMessages (seconds newPoll.time) newPoll.username >>=
        fun res => forM res.rows (Dialogue.sendRow (ofWorld w) o.key newPoll) := by
    rw [Dialogue.handle, Body.handle, Body.answerPoll, if_neg (not_not.mpr hpoll.user),
      getTime_ok hpoll.time]
    rfl
  rw [← hanswer]
  exact serve_reached hpoll.intime hdecode

theorem sends_rows (o : Opening w) {newPoll : SPChatPoll} (hpoll : o.FirstPoll newPoll)
    {rows : List Row} (hobject : ∀ k, 0 ≤ (w.objectTime k).toInt)
    (hrows : ∀ row ∈ rows,
      row.text.length ≤ SPChatMsgMessage.MAX_MESSAGE_LENGTH ∧ validUsername row.sender = true)
    (c : Conn) :
    ∃ c' : Conn, Reached (answer w)
        (forM rows (Dialogue.sendRow (ofWorld w) o.key newPoll)) c (.done ()) c' ∧
      c'.events = c.events ++ rows.map fun row =>
        .sent (.pollResponse (rowFrame w o.key newPoll row)) := by
  have hanswerable : ∀ j row, rows[j]? = some row →
      Answerable row (w.objectTime (c.calls + 2 * j)) := by
    intro j row hrow
    have hboth := hrows row (List.mem_of_getElem? hrow)
    exact ⟨hboth.1, hboth.2, hobject _⟩
  have hsize : ∀ row ∈ rows, row.text.length < 2 ^ 63 :=
    fun row hrow => Nat.lt_of_le_of_lt (hrows row hrow).1 (by decide)
  have hsent := (@sendRows_eq_ok w o.key newPoll o.sends hpoll.wellFormed hpoll.time rows hsize
    c _).mpr ⟨hanswerable, rfl⟩
  have hsame : interpret (answer w) (forM rows (Dialogue.sendRow (ofWorld w) o.key newPoll)) =
      forM rows (sendRow w o.key newPoll) := by
    rw [interpret_forM]
    simp only [interpret_sendRow]
  rw [← hsame] at hsent
  exact ⟨_, reached_of_run hsent, rfl⟩

end Opening

namespace SharedDatabase

variable {τ : Type} {D : Deployment τ} {P : State τ}

-- a world in which the database stands at `d` and refuses every INSERT
def answering (D : Deployment τ) (i : Nat) (d : Database τ) (base : World) : World where
  host := D.host
  garbage := base.garbage
  objectTime := base.objectTime
  array := (D.code i).array
  time := base.time
  RAND_bytes := base.RAND_bytes
  SHA256 := (D.code i).SHA256
  PEM_Save := (D.code i).PEM_Save
  decryptor := (D.code i).decryptor
  aesEncrypt := (D.code i).aesEncrypt
  aesDecrypt := (D.code i).aesDecrypt
  sendFails := fun _ => false
  executeFails := fun _ => true
  selectPassword := fun _ u => ⟨d.selectPassword D.sql u, false⟩
  selectMessages := fun _ time u => ⟨d.selectMessages D.sql time u, false⟩
  selectUserId := fun _ u => ⟨d.selectUserId D.sql u, false⟩
  selectMessageId := fun _ text => ⟨d.selectMessageId D.sql text, false⟩

theorem selected_all {α : Type} (matching : List α) : Selected matching ⟨matching, false⟩ :=
  ⟨matching, .refl _, List.prefix_refl _, fun _ => rfl⟩

theorem answering_meets (i : Nat) (d : Database τ) (base : World) (req : Request) (c : Conn) :
    Meets D i d ⟨answering D i d base, rfl⟩ req c d := by
  refine ⟨rfl, ⟨fun _ _ => selected_all _, fun _ _ => selected_all _, fun _ _ => selected_all _,
    fun _ _ _ => selected_all _⟩, ?_⟩
  cases req with
  | execute statement => exact .inr ⟨rfl, rfl⟩
  | _ => rfl

section Characters

def character (b : Byte) : Char := Char.ofNat b.toNat

def digits (s : Str) : Option Nat :=
  if (s.map character).all Char.isDigit then some (Nat.ofDigitChars 10 (s.map character) 0) else none

def number (s : Str) : Option Int :=
  if s.head? = some (chr '-') then (digits s.tail).map fun n : Nat => -(n : Int)
  else (digits s).map fun n : Nat => (n : Int)

theorem character_chr {c : Char} (h : c.isDigit = true) : character (chr c) = c := by
  have hlt : c.toNat < 256 := by
    simp only [Char.isDigit, Bool.and_eq_true, decide_eq_true_eq, UInt32.le_iff_toNat_le] at h
    exact Nat.lt_of_le_of_lt h.2 (by decide)
  simp only [character, chr, BitVec.toNat_ofNat]
  rw [Nat.mod_eq_of_lt hlt, Char.ofNat_toNat]

theorem digits_repr (n : Nat) : digits (n.repr.toList.map chr) = some n := by
  have hdigit : ∀ c ∈ Nat.toDigits 10 n, c.isDigit = true :=
    fun c hc => Nat.isDigit_of_mem_toDigits (by decide) (by decide) hc
  have hsame : (n.repr.toList.map chr).map character = Nat.toDigits 10 n := by
    rw [Nat.toList_repr, List.map_map]
    exact (List.map_congr_left fun c hc => character_chr (hdigit c hc)).trans (List.map_id _)
  rw [digits, hsame, if_pos (List.all_eq_true.mpr hdigit), Nat.ofDigitChars_ten_toDigits]

theorem number_decimal (n : Int) : number (decimal n) = some n := by
  cases n with
  | ofNat m =>
    have hhead : (m.repr.toList.map chr).head? ≠ some (chr '-') := by
      rw [Nat.toList_repr, List.head?_map]
      intro h
      obtain ⟨c, hc, hminus⟩ := Option.map_eq_some_iff.mp h
      have hdigit : c.isDigit = true :=
        Nat.isDigit_of_mem_toDigits (by decide) (by decide) (List.mem_of_mem_head? hc)
      rw [← character_chr hdigit, hminus] at hdigit
      exact absurd hdigit (by decide)
    change number (m.repr.toList.map chr) = _
    rw [number, if_neg hhead, digits_repr]
    rfl
  | negSucc m =>
    change number (("-" ++ m.succ.repr).toList.map chr) = _
    rw [String.toList_append, List.map_append]
    have htail : ("-".toList.map chr ++ m.succ.repr.toList.map chr).tail =
        m.succ.repr.toList.map chr := rfl
    have hhead : ("-".toList.map chr ++ m.succ.repr.toList.map chr).head? = some (chr '-') := rfl
    rw [number, if_pos hhead, htail, digits_repr]
    rfl

end Characters

-- strings are compared byte by byte and a TIMESTAMP is its number of seconds
def plainSql : Sql Int where
  equal a b := a = b
  integer := number
  from_unixtime time := (number time).getD 0
  later stamp time := (number time).getD 0 < stamp
  shown := decimal
  integer_decimal := number_decimal
  integer_empty := by
    intro n h
    cases h
    rfl

def bobServer : Deployment Int := ⟨littleEndianHost, plainSql, fun _ => ofWorld lateWorld, fun _ => 1⟩

def bobTables : Database Int where
  login := [⟨1, ascii "bob", ascii "pw"⟩, ⟨2, ascii "amy", ascii "wp"⟩]
  messages := [⟨1, ascii "hi"⟩]
  transactions := [⟨2, 1, 1, 5⟩]
  users_numbered := ⟨by decide, by decide⟩
  messages_numbered := ⟨by decide, by decide⟩

def bobWorld : World := answering bobServer 0 bobTables World.quiet

def bobOpening : Opening bobWorld where
  login := bobLogin
  response := bobResponse
  publicKey := bobLogin
  symmetricKey := bobKey
  server2Client := ⟨[], SPChatLogin.ASYMMETRIC_KEY, pemKey, []⟩
  pw := ascii "pw"
  key := List.replicate 16 7#8
  login_ok := ⟨bobLogin_deliverable, by decide⟩
  response_ok := ⟨⟨by decide, rfl⟩, by decide⟩
  publicKey_ok := ⟨bobLogin_deliverable, by decide⟩
  symmetricKey_ok := ⟨.symmetric (by decide) rfl, by decide +kernel⟩
  sends := fun _ => rfl
  stored := ⟨by decide, by decide⟩
  hash := rfl
  saved := SPChatLogin.new_asymmetric (by decide) (by decide +kernel) (by decide +kernel) [0#8]
  decrypted := ⟨rfl, rfl⟩

theorem bobOpening_poll : bobOpening.FirstPoll bobLatePoll :=
  ⟨show validUsername (ascii "bob") = true by decide, by decide, rfl, by decide, by decide⟩

def bobServes : Unit → Dialog Unit := fun _ =>
  Dialogue.serve (ofWorld bobWorld) (bobWorld.time 0 + 1000) (ascii "bob") bobOpening.key 0

def bobSends (rows : List Row) : Dialog Unit :=
  forM rows (Dialogue.sendRow (ofWorld bobWorld) bobOpening.key bobLatePoll)

structure Arrived (i : Nat) (P : State Int) : Prop where
  running : Running Fatal P
  shared : P.shared = bobTables
  own : P.own i = ⟨lateConn.sock, 0, []⟩
  program : P.program i = Dialogue.clientConnectStart (ofWorld bobWorld) 1

structure Polled (i : Nat) (P : State Int) : Prop where
  running : Running Fatal P
  shared : P.shared = bobTables
  own : ∃ sock, P.own i = ⟨sock, 13, bobOpening.events ++ [.received (.poll bobLatePoll)]⟩
  program : P.program i = (Dialogue.selectMessages (ascii "0") (ascii "bob") >>=
    fun res => bobSends res.rows) >>= bobServes

theorem bob_meets {i : Nat} {P : State Int} (h : P.shared = bobTables) (req : Request) (c : Conn) :
    Meets bobServer i P.shared ⟨bobWorld, rfl⟩ req c P.shared := by
  rw [h]
  exact answering_meets i bobTables World.quiet req c

theorem Arrived.polls {i : Nat} {P : State Int} (h : Arrived i P) :
    ∃ Q, Advances bobServer i P Q ∧ Polled i Q := by
  obtain ⟨sock, _, _, hreached⟩ := bobOpening.reached_poll
    (show lateConn.sock.Live by simp [Stream.Live, lateConn]) bobOpening_poll rfl 0
  rw [show seconds bobLatePoll.time = ascii "0" by decide, ← h.program, ← h.own] at hreached
  obtain ⟨Q, hadvances, hshared, hown, hprogram⟩ := advances_reached (w := ⟨bobWorld, rfl⟩) h.running
    (bob_meets h.shared) (fun e he => by cases he) hreached
  exact ⟨Q, hadvances, hadvances.running, hshared.trans h.shared, ⟨sock, hown⟩, hprogram⟩

theorem Arrived.others {i j : Nat} {P Q : State Int} (h : Arrived j P) (hadvances : Advances bobServer i P Q)
    (hshared : Q.shared = bobTables) (hj : j ≠ i) : Arrived j Q :=
  ⟨hadvances.running, hshared, (hadvances.others j hj).1.trans h.own,
    (hadvances.others j hj).2.trans h.program⟩

theorem Polled.others {i j : Nat} {P Q : State Int} (h : Polled j P) (hadvances : Advances bobServer i P Q)
    (hshared : Q.shared = bobTables) (hj : j ≠ i) : Polled j Q := by
  obtain ⟨sock, hown⟩ := h.own
  exact ⟨hadvances.running, hshared, ⟨sock, (hadvances.others j hj).1.trans hown⟩,
    (hadvances.others j hj).2.trans h.program⟩

theorem bob_arrived (i : Nat) : Arrived i (start bobServer bobTables fun _ => lateConn.sock) :=
  ⟨start_running _ _ _, rfl, rfl, rfl⟩

theorem both_polled : ∃ P, Reachable bobServer bobTables (fun _ => lateConn.sock) P ∧
    Polled 0 P ∧ Polled 1 P := by
  obtain ⟨P, hfirst, hpolled⟩ := (bob_arrived 0).polls
  obtain ⟨Q, hsecond, hboth⟩ := ((bob_arrived 1).others hfirst hpolled.shared (by decide)).polls
  exact ⟨Q, hfirst.continues.trans hsecond.continues, hpolled.others hsecond hboth.shared (by decide),
    hboth⟩

def amysRow : Row := ⟨ascii "hi", ascii "bob", ascii "amy", ascii "5"⟩

theorem Polled.answered {i : Nat} {P : State Int} (h : Polled i P) : ∃ Q, Advances bobServer i P Q ∧
    Q.shared = bobTables ∧ Q.program i = .done () ∧
    (Q.own i).events = bobOpening.events ++ [.received (.poll bobLatePoll),
      .sent (.pollResponse (rowFrame bobWorld (List.replicate 16 7#8) bobLatePoll amysRow))] := by
  obtain ⟨sock, hown⟩ := h.own
  have hselected : Reached (answer bobWorld) (Dialogue.selectMessages (ascii "0") (ascii "bob"))
      ⟨sock, 13, bobOpening.events ++ [.received (.poll bobLatePoll)]⟩ (.done ⟨[amysRow], false⟩)
      ⟨sock, 14, bobOpening.events ++ [.received (.poll bobLatePoll)]⟩ :=
    reached_of_run (by rw [interpret_ask]; rfl)
  obtain ⟨c, hsent, hevents⟩ := @Opening.sends_rows _ bobOpening _ bobOpening_poll [amysRow]
    (fun _ => show 0 ≤ (0#64).toInt by decide) (by decide)
    ⟨sock, 14, bobOpening.events ++ [.received (.poll bobLatePoll)]⟩
  have hreached : Reached (answer bobWorld) (P.program i) (P.own i) (.done ()) c := by
    rw [h.program, hown]
    exact (hselected.bind hsent).bind .start
  obtain ⟨Q, hadvances, hshared, hown', hprogram⟩ := advances_reached (w := ⟨bobWorld, rfl⟩) h.running
    (bob_meets h.shared) (fun e he => by cases he) hreached
  refine ⟨Q, hadvances, hshared.trans h.shared, hprogram, ?_⟩
  rw [hown', hevents, List.append_assoc]
  rfl

theorem bob_reads : ∃ Q, Reachable bobServer bobTables (fun _ => lateConn.sock) Q ∧
    (Q.own 0).events = bobOpening.events ++ [.received (.poll bobLatePoll),
      .sent (.pollResponse (rowFrame bobWorld (List.replicate 16 7#8) bobLatePoll amysRow))] ∧
    (Q.own 1).events = bobOpening.events ++ [.received (.poll bobLatePoll)] := by
  obtain ⟨P, hreachable, hfirst, hsecond⟩ := both_polled
  obtain ⟨Q, hadvances, hshared, _, hevents⟩ := hfirst.answered
  obtain ⟨sock, hown⟩ := (hsecond.others hadvances hshared (by decide)).own
  exact ⟨Q, hreachable.trans hadvances.continues, hevents, by rw [hown]⟩

end SharedDatabase

end Server
