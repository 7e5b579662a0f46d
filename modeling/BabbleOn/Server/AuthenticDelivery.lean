import Mathlib.Data.List.Forall2
import BabbleOn.Server.Attribution
import BabbleOn.Server.HonestSession

namespace Server
open Execution ProgramLogic Interaction History SegmentedStream Dialogue

namespace SharedDatabase

variable {τ : Type}

-- the session of a connection, told by the login table
structure SignedIn (sql : Sql τ) (code : Code) (d : Database τ) (u key : Str) (es : List Event) :
    Prop where
  opened : ∃ (login : SPChatLogin) (c : Fin 8 → Byte) (response : SPChatResponse) (tail : List Event)
    (l : Login) (loginNew : SPChatLogin),
    es = .received (.login login) :: .sent (.challenge ⟨List.ofFn c⟩) ::
      .received (.response response) :: tail ∧
    login.username = u ∧ l ∈ d.login ∧ sql.equal l.email u = true ∧ l.password ≠ [] ∧
    response.hash = hex (code.SHA256 (List.ofFn c ++ response.nonce ++ l.password)) ∧
    .received (.login loginNew) ∈ tail ∧ code.decryptor loginNew.encSymKey = some key ∧
    key.length = 16

-- 0 is what an empty id is stored as, and no row has it
def NamesUser (sql : Sql τ) (d : Database τ) (email : Str) (id : Int) : Prop :=
  id = 0 ∨ ∃ l ∈ d.login, l.user_id = id ∧ sql.equal l.email email = true

def NamesMessage (sql : Sql τ) (d : Database τ) (text : Str) (id : Int) : Prop :=
  id = 0 ∨ ∃ m ∈ d.messages, m.message_id = id ∧ sql.equal m.text text = true

structure Attributable (D : Deployment τ) (d : Database τ) (es : List Event) (j : Nat)
    (x : Transaction τ) : Prop where
  named : ∃ u key receiver text time, SignedIn D.sql (D.code j) d u key es ∧
    Submitted (D.code j).aesDecrypt u key receiver text time es ∧
    NamesUser D.sql d u x.sender_id ∧ NamesUser D.sql d receiver x.reciever_id ∧
    NamesMessage D.sql d text x.message_id ∧ x.timestamp = D.sql.from_unixtime time

def Ledger (D : Deployment τ) (old : List (Transaction τ)) (Q : State τ) : Prop :=
  ∀ x ∈ Q.shared.transactions, x ∈ old ∨ ∃ j, Attributable D Q.shared (Q.own j).events j x

structure Carries (code : Code) (u key sender text : Str) (m : SPChatPollResponse) : Prop where
  username : m.username = sender
  msgList : ∃ msg, m.msgList = [msg] ∧ msg.sender = sender ∧ msg.receiver = u ∧
    msg.message = code.aesEncrypt text key ivString

theorem rowFrames_carry (w : World) (key : Str) (newPoll : SPChatPoll) (rows : List Row) :
    List.Forall₂ (fun row m => Carries (ofWorld w) newPoll.username key row.sender row.text m) rows
      (rows.map (rowFrame w key newPoll)) :=
  List.forall₂_map_right_iff.mpr (List.forall₂_same.mpr fun _ _ => ⟨rfl, _, rfl, rfl, rfl, rfl⟩)

structure Written (D : Deployment τ) (Q : State τ) (sender receiver text : Str) (stamp : τ) : Prop where
  submitted : ∃ j u key named said time, SignedIn D.sql (D.code j) Q.shared u key (Q.own j).events ∧
    Submitted (D.code j).aesDecrypt u key named said time (Q.own j).events ∧
    D.sql.equal sender u = true ∧ D.sql.equal receiver named = true ∧
    D.sql.equal text said = true ∧ stamp = D.sql.from_unixtime time

def DeliveredAuthentic (D : Deployment τ) (old : List (Transaction τ)) (Q : State τ) : Prop :=
  ∀ i m before after, (Q.own i).events = before ++ .sent (.pollResponse m) :: after →
    ∃ u key text x y z, SignedIn D.sql (D.code i) Q.shared u key before ∧
      Joined Q.shared text x y z ∧ Carries (D.code i) u key z.email text.text m ∧
      D.sql.equal y.email u = true ∧
      (x ∈ old ∨ Written D Q z.email y.email text.text x.timestamp)

variable {D : Deployment τ} {d d' : Database τ} {sock : Nat → Stream Byte} {P Q : State τ}
variable {sql : Sql τ} {code : Code} {u key : Str} {es : List Event}

theorem each_connection_alone (h : Reachable D d sock Q) (i : Nat) : ∃ w, Alone D (sock i) i Q w := by
  obtain ⟨w, hlives, hreached⟩ := reached_alone h i
  exact ⟨w.1, alone_of_reached hlives hreached⟩

theorem bob_alone : ∃ Q, (Q.own 0).events.length = 10 ∧ (Q.own 1).events.length = 9 ∧
    ∃ w, Alone bobServer lateConn.sock 0 Q w := by
  obtain ⟨Q, hreachable, hevents, hsecond⟩ := bob_reads
  refine ⟨Q, ?_, ?_, each_connection_alone hreachable 0⟩
  · rw [hevents]
    rfl
  · rw [hsecond]
    rfl

theorem SignedIn.append (h : SignedIn sql code d u key es) (more : List Event) :
    SignedIn sql code d u key (es ++ more) := by
  obtain ⟨login, c, response, tail, l, loginNew, rfl, hu, hl, hemail, hpw, hhash, hmem, hkey⟩ := h
  exact ⟨login, c, response, tail ++ more, l, loginNew, rfl, hu, hl, hemail, hpw, hhash,
    List.mem_append_left _ hmem, hkey⟩

theorem SignedIn.grows (h : SignedIn sql code d u key es) (hgrows : Grows d d') :
    SignedIn sql code d' u key es := by
  obtain ⟨login, c, response, tail, l, loginNew, hes, hu, hl, hrest⟩ := h
  exact ⟨login, c, response, tail, l, loginNew, hes, hu, hgrows.login hl, hrest⟩

theorem signedIn_of_inSession {w : World} (h : InSession w u key es) (hdraws : Draws sql d w) :
    SignedIn sql (ofWorld w) d u key es := by
  obtain ⟨tail, ⟨login, c, response, i, pw, hes, hu, hlast, hpw, hhash⟩, loginNew, hmem, hkey⟩ := h
  obtain ⟨l, hl, hemail, rfl⟩ := (mem_selectPassword sql d).mp
    (hdraws.selectPassword i u (List.mem_of_getLast? hlast))
  exact ⟨login, c, response, tail, l, loginNew, hes, hu, hl, hemail, hpw, hhash, hmem, hkey⟩

theorem NamesUser.grows {email : Str} {id : Int} (h : NamesUser sql d email id)
    (hgrows : Grows d d') : NamesUser sql d' email id := by
  rcases h with hzero | ⟨l, hl, hrest⟩
  · exact .inl hzero
  · exact .inr ⟨l, hgrows.login hl, hrest⟩

theorem NamesMessage.grows {text : Str} {id : Int} (h : NamesMessage sql d text id)
    (hgrows : Grows d d') : NamesMessage sql d' text id := by
  rcases h with hzero | ⟨m, hm, hrest⟩
  · exact .inl hzero
  · exact .inr ⟨m, hgrows.messages hm, hrest⟩

theorem lastString_mem (rows : List Str) : lastString [] rows = [] ∨ lastString [] rows ∈ rows := by
  rw [lastString_eq]
  cases h : rows.getLast? with
  | none => exact .inl rfl
  | some row => exact .inr (List.mem_of_getLast? h)

theorem namesUser_of_select {w : World} (hdraws : Draws sql d w) {k : Nat} {email : Str} {id : Int}
    (h : sql.integer (lastString [] (w.selectUserId k email).rows) = some id) :
    NamesUser sql d email id := by
  rcases lastString_mem (w.selectUserId k email).rows with hnone | hmem
  · rw [hnone] at h
    exact .inl (sql.integer_empty id h)
  · obtain ⟨l, hl, hemail, hid⟩ := (mem_selectUserId sql d).mp (hdraws.selectUserId k email hmem)
    rw [← hid, sql.integer_decimal] at h
    exact .inr ⟨l, hl, Option.some.inj h, hemail⟩

theorem namesMessage_of_select {w : World} (hdraws : Draws sql d w) {k : Nat} {text : Str} {id : Int}
    (h : sql.integer (lastString [] (w.selectMessageId k text).rows) = some id) :
    NamesMessage sql d text id := by
  rcases lastString_mem (w.selectMessageId k text).rows with hnone | hmem
  · rw [hnone] at h
    exact .inl (sql.integer_empty id h)
  · obtain ⟨m, hm, htext, hid⟩ := (mem_selectMessageId sql d).mp (hdraws.selectMessageId k text hmem)
    rw [← hid, sql.integer_decimal] at h
    exact .inr ⟨m, hm, Option.some.inj h, htext⟩

theorem NamesUser.row {email : Str} {l : Login} (h : NamesUser sql d email l.user_id)
    (hl : l ∈ d.login) : sql.equal l.email email = true := by
  rcases h with hzero | ⟨l', hl', hid, hemail⟩
  · have hpositive := d.users_numbered.positive l.user_id (List.mem_map_of_mem hl)
    omega
  · rwa [d.users_numbered.unique hl' hl hid] at hemail

theorem NamesMessage.row {text : Str} {m : Message} (h : NamesMessage sql d text m.message_id)
    (hm : m ∈ d.messages) : sql.equal m.text text = true := by
  rcases h with hzero | ⟨m', hm', hid, htext⟩
  · have hpositive := d.messages_numbered.positive m.message_id (List.mem_map_of_mem hm)
    omega
  · rwa [d.messages_numbered.unique hm' hm hid] at htext

theorem Attributable.later {j : Nat} {x : Transaction τ} (h : Attributable D d es j x)
    (hgrows : Grows d d') {es' : List Event} (hevents : ∃ more, es' = es ++ more) :
    Attributable D d' es' j x := by
  obtain ⟨u, key, receiver, text, time, hsigned, hsubmitted, hs, hr, hm, htime⟩ := h
  obtain ⟨more, rfl⟩ := hevents
  exact ⟨u, key, receiver, text, time, (hsigned.append more).grows hgrows, hsubmitted.append more,
    hs.grows hgrows, hr.grows hgrows, hm.grows hgrows, htime⟩

theorem insert_attributed (h : Reachable D d sock P) {i : Nat} {statement : Insert}
    {next : Except Stop Unit → Dialog Unit} (hasks : P.program i = .ask (.execute statement) next) :
    ∃ w, ofWorld w = D.code i ∧ Draws D.sql P.shared w ∧
      Attributed w (P.own i).events (.executed statement) := by
  obtain ⟨w, hlives, hreached⟩ := reached_alone h i
  rw [hasks] at hreached
  obtain ⟨w', hw'⟩ : ∃ w' : D.Hosted, w'.1 = { w.1 with executeFails := fun _ => false } :=
    ⟨⟨{ w.1 with executeFails := fun _ => false }, w.2⟩, rfl⟩
  have hdraws : Draws D.sql P.shared w'.1 := by
    rw [hw']
    exact ⟨hlives.draws.selectPassword, hlives.draws.selectUserId, hlives.draws.selectMessageId,
      hlives.draws.selectMessages⟩
  have hanswered : (execute w'.1 statement).run (P.own i) =
      .ok () ⟨(P.own i).sock, (P.own i).calls + 1, (P.own i).events ++ [.executed statement]⟩ := by
    rw [execute_run, hw', if_neg (by simp)]
  have hnext : Reached (answer (splice w.1 (P.own i).calls w'.1))
      (Dialogue.clientConnectStart (D.code i) (D.rounds i)) ⟨sock i, 0, []⟩ (next (.ok ()))
      ⟨(P.own i).sock, (P.own i).calls + 1, (P.own i).events ++ [.executed statement]⟩ := by
    have hextended := Reached.extend (O := oracle D.host) hreached w'
    rw [show respond ((oracle D.host).answer w' (.execute statement)) (P.own i) = _ from
      respond_ok hanswered] at hextended
    exact hextended
  have hcode : ofWorld (splice w.1 (P.own i).calls w'.1) = D.code i := hlives.code
  refine ⟨splice w.1 (P.own i).calls w'.1, hcode, hlives.draws.splice hdraws _, ?_⟩
  have hgated := (clientConnectStart_attributing (splice w.1 (P.own i).calls w'.1)
    (D.rounds i)).after (s := ⟨sock i, 0, []⟩) rfl
  rw [← interpret_clientConnectStart, hcode, hnext.run_eq, On] at hgated
  obtain ⟨more, hmore⟩ := interpret_events (splice w.1 (P.own i).calls w'.1) (next (.ok ()))
    ⟨(P.own i).sock, (P.own i).calls + 1, (P.own i).events ++ [.executed statement]⟩
  rw [hmore] at hgated
  exact gated_of_append hgated (P.own i).events (.executed statement) [] rfl

theorem Effect.transactions {w : World} {c : Conn} {req : Request} (h : Effect sql d w c req d')
    {x : Transaction τ} (hx : x ∈ d'.transactions) :
    x ∈ d.transactions ∨ ∃ sender_id received_id message_id time,
      req = .execute (.transactions sender_id received_id message_id time) ∧
      sql.integer sender_id = some x.sender_id ∧ sql.integer received_id = some x.reciever_id ∧
      sql.integer message_id = some x.message_id ∧ x.timestamp = sql.from_unixtime time := by
  cases req with
  | execute statement =>
    rcases h with hdone | ⟨_, rfl⟩
    · cases hdone with
      | messages m hpositive hfresh => exact .inl hx
      | transactions hs hr hm =>
        rcases List.mem_append.mp hx with hold | hnew
        · exact .inl hold
        · rw [List.mem_singleton.mp hnew]
          exact .inr ⟨_, _, _, _, rfl, hs, hr, hm, rfl⟩
    · exact .inl hx
  | time => exact .inl (h ▸ hx)
  | RAND_bytes => exact .inl (h ▸ hx)
  | objectTime => exact .inl (h ▸ hx)
  | decode => exact .inl (h ▸ hx)
  | send m => exact .inl (h ▸ hx)
  | selectPassword username => exact .inl (h ▸ hx)
  | selectMessages time username => exact .inl (h ▸ hx)
  | selectUserId email => exact .inl (h ▸ hx)
  | selectMessageId text => exact .inl (h ▸ hx)

theorem ledger_step {old : List (Transaction τ)} (hreachable : Reachable D d sock P)
    (h : Ledger D old P) (hstep : Moves D P Q) : Ledger D old Q := by
  have hgrows := step_grows hstep
  have hevents := step_events hstep
  have hkept : ∀ x ∈ P.shared.transactions,
      x ∈ old ∨ ∃ j, Attributable D Q.shared (Q.own j).events j x := by
    intro x hx
    rcases h x hx with hold | ⟨j, hnamed⟩
    · exact .inl hold
    · exact .inr ⟨j, hnamed.later hgrows (hevents j)⟩
  intro x hx
  cases hstep with
  | act i w d' _ asks met =>
    rcases met.effect.transactions hx with hold | ⟨s, r, m, time, hreq, hs, hr, hm, htime⟩
    · exact hkept x hold
    · subst hreq
      obtain ⟨w', hcode, hdraws, u, key, receiver, text, hsession, hsubmitted, ⟨j, rfl⟩, ⟨k, rfl⟩,
        ⟨l, rfl⟩⟩ := insert_attributed hreachable asks
      have hnamed : Attributable D P.shared (P.own i).events i x := by
        refine ⟨u, key, receiver, text, time, ?_, ?_, namesUser_of_select hdraws hs,
          namesUser_of_select hdraws hr, namesMessage_of_select hdraws hm, htime⟩
        · rw [← hcode]
          exact signedIn_of_inSession hsession hdraws
        · rw [← hcode]
          exact hsubmitted
      exact .inr ⟨i, hnamed.later hgrows (hevents i)⟩
  | outside d' registered =>
    cases registered
    exact hkept x hx

theorem ledger_reachable (h : Reachable D d sock Q) : Ledger D d.transactions Q :=
  h.invariant (fun _ hx => .inl hx) fun _ _ hreachable hledger hstep =>
    ledger_step hreachable hledger hstep

theorem Attributable.written {j : Nat} {text : Message} {x : Transaction τ} {y z : Login}
    (h : Attributable D Q.shared (Q.own j).events j x) (hjoined : Joined Q.shared text x y z) :
    Written D Q z.email y.email text.text x.timestamp := by
  obtain ⟨u, key, named, said, time, hsigned, hsubmitted, hs, hr, hm, htime⟩ := h
  rw [hjoined.sender.2] at hs
  rw [hjoined.receiver.2] at hr
  rw [← hjoined.message.2] at hm
  exact ⟨j, u, key, named, said, time, hsigned, hsubmitted, hs.row hjoined.sender.1,
    hr.row hjoined.receiver.1, hm.row hjoined.message.1, htime⟩

theorem deliveries_authentic (h : Reachable D d sock Q) : DeliveredAuthentic D d.transactions Q := by
  intro i m before after hevents
  obtain ⟨w, halone, hgated⟩ := gated_together (i := i)
    (fun w => (clientConnectStart_keeps w (D.rounds i)).after (s := ⟨sock i, 0, []⟩) rfl) h
  obtain ⟨u, key, hsession, k, time, row, hrow, husername, msg, hlist, hsender, hreceiver,
    hmessage⟩ := hgated before (.sent (.pollResponse m)) after hevents
  obtain ⟨text, x, y, z, hjoined, hlater, hequal, rfl⟩ :=
    (mem_selectMessages D.sql Q.shared).mp (halone.draws.selectMessages k time u hrow)
  refine ⟨u, key, text, x, y, z, ?_, hjoined, ⟨husername, msg, hlist, hsender, hreceiver, ?_⟩,
    hequal, ?_⟩
  · rw [← halone.code]
    exact signedIn_of_inSession hsession halone.draws
  · rw [← halone.code]
    exact hmessage
  · rcases ledger_reachable h x hjoined.transaction with hold | ⟨j, hnamed⟩
    · exact .inl hold
    · exact .inr (hnamed.written hjoined)

theorem bob_reads_from_amy : ∃ Q, (∃ m, .sent (.pollResponse m) ∈ (Q.own 0).events) ∧
    DeliveredAuthentic bobServer bobTables.transactions Q := by
  obtain ⟨Q, hreachable, hevents, _⟩ := bob_reads
  refine ⟨Q, ⟨rowFrame bobWorld (List.replicate 16 7#8) bobLatePoll amysRow, ?_⟩,
    deliveries_authentic hreachable⟩
  rw [hevents]
  exact List.mem_append_right _ (List.mem_cons_of_mem _ (List.mem_singleton.mpr rfl))

end SharedDatabase

end Server
