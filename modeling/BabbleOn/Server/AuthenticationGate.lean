import BabbleOn.Library.ProgramLogic
import BabbleOn.Server.Connection

namespace Server
open Execution ProgramLogic History

-- `tail` is what followed the three frames that show the password
structure Authenticated (w : World) (u : Str) (es tail : List Event) : Prop where
  shown : ∃ (login : SPChatLogin) (c : Fin 8 → Byte) (response : SPChatResponse) (i : Nat) (pw : Str),
    es = .received (.login login) :: .sent (.challenge ⟨List.ofFn c⟩) ::
      .received (.response response) :: tail ∧
    login.username = u ∧ (w.selectPassword i u).rows.getLast? = some pw ∧ pw ≠ [] ∧
    response.hash = hex (w.SHA256 (List.ofFn c ++ response.nonce ++ pw))

def KeyDecrypted (w : World) (key : Str) (tail : List Event) : Prop :=
  ∃ login : SPChatLogin, .received (.login login) ∈ tail ∧
    w.decryptor login.encSymKey = some key ∧ key.length = 16

structure InSession (w : World) (u key : Str) (es : List Event) : Prop where
  opened : ∃ tail, Authenticated w u es tail ∧ KeyDecrypted w key tail

structure Delivers (w : World) (u key : Str) (row : Row) (m : SPChatPollResponse) : Prop where
  username : m.username = row.sender
  msgList : ∃ msg, m.msgList = [msg] ∧ msg.sender = row.sender ∧ msg.receiver = u ∧
    msg.message = w.aesEncrypt row.text key ivString

def Permitted (w : World) (before : List Event) : Event → Prop
  | .sent (.ack ⟨_, .PASSWORD_AUTH⟩) => ∃ u tail, Authenticated w u before tail
  | .sent (.ack ⟨_, .SUCCESS⟩) => ∃ u key, InSession w u key before
  | .sent (.pollResponse m) => ∃ u key, InSession w u key before ∧
      ∃ i time, ∃ row ∈ (w.selectMessages i time u).rows, Delivers w u key row m
  | .executed (.messages _) => ∃ u key, InSession w u key before
  | .executed (.transactions sender_id _ _ _) => ∃ u key, InSession w u key before ∧
      ∃ i, sender_id = lastString [] (w.selectUserId i u).rows
  | _ => True

theorem Authenticated.append {w : World} {u : Str} {es tail : List Event}
    (h : Authenticated w u es tail) (more : List Event) :
    Authenticated w u (es ++ more) (tail ++ more) := by
  obtain ⟨login, c, response, i, pw, rfl, hrest⟩ := h
  exact ⟨login, c, response, i, pw, rfl, hrest⟩

theorem InSession.append {w : World} {u key : Str} {es : List Event} (h : InSession w u key es)
    (more : List Event) : InSession w u key (es ++ more) := by
  obtain ⟨tail, hauth, login, hmem, hkey⟩ := h
  exact ⟨tail ++ more, hauth.append more, login, List.mem_append_left _ hmem, hkey⟩

section Actions

variable {w : World} {α : Type} {G J : List Event → Prop}

def On (J : List Event → Prop) (c : Conn) : Prop := J c.events

theorem external_keeps (f : Nat → α) :
    Keeps (On G) (On J) (external f) fun a c => (∃ i, a = f i) ∧ On J c :=
  fun c hc => ⟨⟨c.calls, rfl⟩, hc⟩

theorem record_keeps {K : List Event → Prop} {e : Event} (h : ∀ es, J es → K (es ++ [e])) :
    Keeps (On G) (On J) (record e) fun _ => On K :=
  fun c hc => h c.events hc

theorem built_keeps (hJ : ∀ es, J es → G es) (r : Except Fault α) :
    Keeps (On G) (On J) (built r : Thread α) fun a c => r = .ok a ∧ On J c := by
  cases r with
  | ok a => exact keeps_pure fun c hc => ⟨rfl, hc⟩
  | error e => exact keeps_throw fun c hc => hJ c.events hc

theorem decode_keeps {K : SPChatMessage → List Event → Prop}
    (hJ : ∀ es, J es → G es)
    (h : ∀ es m, J es → K m (es ++ [.received m])) :
    Keeps (On G) (On J) (decode w) fun m => On (K m) := by
  refine keeps_bind (external_keeps w.garbage) fun g => ?_
  intro c hc
  rw [bind_ok (run_get c)]
  cases (SPChatMessage.decode w.host g).run ⟨c.sock, []⟩ with
  | ok m p => exact h c.events m hc.2
  | error e p => exact hJ c.events hc.2

theorem send_keeps {K : List Event → Prop} {m : SPChatMessage}
    (hJ : ∀ es, J es → G es) (h : ∀ es, J es → K (es ++ [.sent m])) :
    Keeps (On G) (On J) (send w m) fun _ => On K := by
  refine keeps_bind (external_keeps w.sendFails) fun fails => keeps_assume fun _ => ?_
  split
  · exact keeps_throw fun c hc => hJ c.events hc
  · exact record_keeps h

theorem sendACK_keeps {K : List Event → Prop} {error : ErrorType}
    (hJ : ∀ es, J es → G es)
    (h : ∀ es, J es → K (es ++ [.sent (.ack ⟨.SERVER, error⟩)])) :
    Keeps (On G) (On J) (sendACK w error) fun _ => On K := by
  refine keeps_bind (built_keeps hJ _) fun ack => keeps_assume fun hack => ?_
  rw [SPChatACK.new_ok] at hack
  cases hack
  exact send_keeps hJ h

theorem execute_keeps {K : List Event → Prop} {statement : Insert}
    (hJ : ∀ es, J es → G es) (h : ∀ es, J es → K (es ++ [.executed statement])) :
    Keeps (On G) (On J) (execute w statement) fun _ => On K := by
  refine keeps_bind (external_keeps w.executeFails) fun fails => keeps_assume fun _ => ?_
  split
  · exact keeps_throw fun c hc => hJ c.events hc
  · exact record_keeps h

theorem executeQuery_keeps (hJ : ∀ es, J es → G es) (f : Nat → Answer α) :
    Keeps (On G) (On J) (executeQuery (external f)) fun rows c => (∃ i, rows = (f i).rows) ∧ On J c := by
  refine keeps_bind (external_keeps f) fun res => keeps_assume fun ⟨i, hres⟩ => ?_
  subst hres
  split
  · exact keeps_throw fun c hc => hJ c.events hc
  · exact keeps_pure fun c hc => ⟨⟨i, rfl⟩, hc⟩

end Actions

section Handshake

variable {w : World}

abbrev Closed (w : World) : Conn → Prop := On (Gated (Permitted w))

structure Opened (w : World) (u : Str) (es : List Event) : Prop where
  gated : Gated (Permitted w) es
  shown : ∃ tail, Authenticated w u es tail

structure Ready (w : World) (u key : Str) (es : List Event) : Prop where
  gated : Gated (Permitted w) es
  session : InSession w u key es

theorem Ready.concat {u key : Str} {es : List Event} (h : Ready w u key es) {e : Event}
    (he : Permitted w es e) : Ready w u key (es ++ [e]) :=
  ⟨gated_concat h.gated he, h.session.append [e]⟩

theorem Opened.concat {u : Str} {es : List Event} (h : Opened w u es) {e : Event}
    (he : Permitted w es e) : Opened w u (es ++ [e]) := by
  obtain ⟨tail, hauth⟩ := h.shown
  exact ⟨gated_concat h.gated he, tail ++ [e], hauth.append [e]⟩

theorem checkPassword_keeps {login : SPChatLogin} {c : Fin 8 → Byte} {response : SPChatResponse}
    {es : List Event} (hes : es = [.received (.login login), .sent (.challenge ⟨List.ofFn c⟩),
      .received (.response response)]) (hgated : Gated (Permitted w) es) :
    Keeps (Closed w) (On (· = es)) (checkPassword w c login.username response) fun _ =>
      On (Opened w login.username) := by
  have hJ : ∀ es', es' = es → Gated (Permitted w) es' := by
    rintro _ rfl
    exact hgated
  unfold checkPassword Body.checkPassword
  dsimp only [answer]
  refine keeps_bind (external_keeps _) fun res => keeps_assume fun ⟨i, hres⟩ => ?_
  subst hres
  split
  · exact keeps_bind (sendACK_keeps hJ fun es' h => gated_concat (hJ es' h) trivial) fun _ =>
      keeps_throw fun _ h => h
  · rename_i hpw
    split
    · rename_i hhash
      rw [lastString_eq] at hpw hhash
      obtain ⟨pw, hlast⟩ : ∃ pw, (w.selectPassword i login.username).rows.getLast? = some pw := by
        cases h : (w.selectPassword i login.username).rows.getLast? with
        | none =>
          rw [h] at hpw
          exact absurd rfl hpw
        | some pw => exact ⟨pw, rfl⟩
      rw [hlast, Option.getD_some] at hpw hhash
      have hauth : Authenticated w login.username es [] := by
        rw [sha256_varbytes, concatenateMe_eq] at hhash
        exact ⟨login, c, response, i, pw, hes, rfl, hlast, hpw, hhash⟩
      refine sendACK_keeps hJ ?_
      rintro _ rfl
      exact Opened.concat ⟨hgated, [], hauth⟩ ⟨_, _, hauth⟩
    · exact keeps_throw fun c h => hJ c.events h

theorem authenticate_keeps :
    Keeps (Closed w) (On (· = [])) (authenticate w) fun u => On (Opened w u) := by
  have hempty : ∀ es, es = [] → Gated (Permitted w) es := by
    rintro _ rfl
    exact gated_nil
  refine keeps_bind (decode_keeps (K := fun m es => es = [.received m] ∧ Gated (Permitted w) es)
    hempty ?_) fun msg => ?_
  · rintro _ m rfl
    exact ⟨rfl, gated_concat gated_nil trivial⟩
  cases msg with
  | login login =>
    refine keeps_bind (external_keeps _) fun c => keeps_assume fun _ => ?_
    refine keeps_bind (built_keeps (fun _ h => h.2) _) fun m => keeps_assume fun hm => ?_
    obtain ⟨challenge⟩ := m
    obtain rfl : challenge = List.ofFn c := (SPChatChallenge.new_wellFormed hm).1
    refine keeps_bind (send_keeps (K := fun es => es = [.received (.login login),
      .sent (.challenge ⟨List.ofFn c⟩)] ∧ Gated (Permitted w) es) (fun _ h => h.2) ?_) fun _ => ?_
    · rintro _ ⟨rfl, hgated⟩
      exact ⟨rfl, gated_concat hgated trivial⟩
    refine keeps_bind (decode_keeps (K := fun m es => es = [.received (.login login),
      .sent (.challenge ⟨List.ofFn c⟩), .received m] ∧ Gated (Permitted w) es)
      (fun _ h => h.2) ?_) fun msg2 => ?_
    · rintro _ m ⟨rfl, hgated⟩
      exact ⟨rfl, gated_concat hgated trivial⟩
    cases msg2 with
    | response response =>
      refine keeps_bind (R := fun _ => On (Opened w login.username)) ?_ fun _ =>
        keeps_pure fun _ h => h
      rintro s ⟨hes, hgated⟩
      exact checkPassword_keeps hes hgated s rfl
    | login => exact keeps_throw fun _ h => h.2
    | challenge => exact keeps_throw fun _ h => h.2
    | ack => exact keeps_throw fun _ h => h.2
    | poll => exact keeps_throw fun _ h => h.2
    | pollResponse => exact keeps_throw fun _ h => h.2
  | challenge => exact keeps_throw fun _ h => h.2
  | ack => exact keeps_throw fun _ h => h.2
  | response => exact keeps_throw fun _ h => h.2
  | poll => exact keeps_throw fun _ h => h.2
  | pollResponse => exact keeps_throw fun _ h => h.2

theorem exchangeKeys_keeps {u : Str} :
    Keeps (Closed w) (On (Opened w u)) (exchangeKeys w) fun key => On (Ready w u key) := by
  refine keeps_bind (decode_keeps (K := fun _ es => Opened w u es) (fun _ h => h.gated)
    fun es m h => h.concat trivial) fun msg => ?_
  cases msg with
  | login login =>
    refine keeps_bind (built_keeps (fun _ h => h.gated) _) fun m => keeps_assume fun _ => ?_
    refine keeps_bind (send_keeps (K := Opened w u) (fun _ h => h.gated)
      fun es h => h.concat trivial) fun _ => ?_
    refine keeps_bind (decode_keeps (K := fun m es => Opened w u es ∧ ∃ tail,
      Authenticated w u es (tail ++ [.received m])) (fun _ h => h.gated) ?_) fun msg2 => ?_
    · intro es m h
      obtain ⟨tail, hauth⟩ := h.shown
      exact ⟨h.concat trivial, tail, hauth.append _⟩
    cases msg2 with
    | login loginNew =>
      dsimp only
      split
      · exact keeps_throw fun _ h => h.1.gated
      · rename_i key hkey
        split
        · rename_i hsize
          have hkeyed : ∀ es, (Opened w u es ∧ ∃ tail, Authenticated w u es
              (tail ++ [.received (.login loginNew)])) → Ready w u key es := by
            rintro es ⟨hopen, tail, hauth⟩
            exact ⟨hopen.gated, _, hauth, loginNew, by simp, hkey, hsize⟩
          refine keeps_bind (sendACK_keeps (K := Ready w u key) (fun _ h => h.1.gated) ?_) fun _ =>
            keeps_pure fun _ h => h
          intro es h
          exact (hkeyed es h).concat ⟨u, key, (hkeyed es h).session⟩
        · exact keeps_throw fun _ h => h.1.gated
    | challenge => exact keeps_throw fun _ h => h.1.gated
    | ack => exact keeps_throw fun _ h => h.1.gated
    | response => exact keeps_throw fun _ h => h.1.gated
    | poll => exact keeps_throw fun _ h => h.1.gated
    | pollResponse => exact keeps_throw fun _ h => h.1.gated
  | challenge => exact keeps_throw fun _ h => h.gated
  | ack => exact keeps_throw fun _ h => h.gated
  | response => exact keeps_throw fun _ h => h.gated
  | poll => exact keeps_throw fun _ h => h.gated
  | pollResponse => exact keeps_throw fun _ h => h.gated

end Handshake

section MessageLoop

variable {w : World} {u key : Str}

theorem sendRow_keeps {newPoll : SPChatPoll} (hu : newPoll.username = u) {row : Row} {i : Nat}
    {time : Str} (hrow : row ∈ (w.selectMessages i time u).rows) :
    Keeps (Closed w) (On (Ready w u key)) (sendRow w key newPoll row) fun _ => On (Ready w u key) := by
  have hgated : ∀ es, Ready w u key es → Gated (Permitted w) es := fun _ h => h.gated
  refine keeps_bind (external_keeps _) fun objectTime => keeps_assume fun _ => ?_
  refine keeps_bind (built_keeps hgated _) fun t => keeps_assume fun _ => ?_
  refine keeps_bind (built_keeps hgated _) fun msg => keeps_assume fun hmsg => ?_
  refine keeps_bind (built_keeps hgated _) fun m => keeps_assume fun hm => ?_
  obtain ⟨_, rfl, _⟩ := SPChatMsgMessage.new_eq_ok.mp hmsg
  obtain ⟨_, rfl⟩ := SPChatPollResponse.new_eq_ok.mp hm
  refine send_keeps hgated fun es h => h.concat ⟨u, key, h.session, i, time, row, hrow, ?_⟩
  exact ⟨rfl, _, rfl, rfl, hu, rfl⟩

theorem answerPoll_keeps (newPoll : SPChatPoll) :
    Keeps (Closed w) (On (Ready w u key)) (answerPoll w u key newPoll) fun _ =>
      On (Ready w u key) := by
  have hgated : ∀ es, Ready w u key es → Gated (Permitted w) es := fun _ h => h.gated
  unfold answerPoll Body.answerPoll
  dsimp only [answer]
  split
  · exact keeps_throw fun _ h => h.gated
  · rename_i hu
    have hu := not_not.mp hu
    refine keeps_bind (built_keeps hgated _) fun t => keeps_assume fun _ => ?_
    refine keeps_bind (external_keeps _) fun res => keeps_assume fun ⟨i, hres⟩ => ?_
    rw [hu] at hres
    refine keeps_forM fun row hrow => ?_
    rw [hres] at hrow
    exact sendRow_keeps hu hrow

theorem catchSQLException_keeps {G J : List Event → Prop} (hJ : ∀ es, J es → G es) {m : Thread Unit}
    (h : Keeps (On J) (On J) m fun _ => On J) :
    Keeps (On G) (On J) (catchSQLException m) fun _ => On J := by
  intro s hs
  cases hrun : m.run s with
  | ok a s' =>
    rw [catchSQLException_ok hrun]
    exact h.ok hs hrun
  | error e s' =>
    have hend := h.error hs hrun
    rw [catchSQLException_error hrun]
    by_cases he : e = .sql
    · rw [if_pos he]
      exact hend
    · rw [if_neg he]
      exact hJ s'.events hend

theorem storeMessage_keeps {first : SPChatMsgMessage} (hu : first.sender = u) (text : Str) :
    Keeps (On (Ready w u key)) (On (Ready w u key)) (storeMessage w first text) fun _ =>
      On (Ready w u key) := by
  have hself : ∀ es, Ready w u key es → Ready w u key es := fun _ h => h
  unfold storeMessage Body.storeMessage Body.laterStatements
  dsimp only [answer]
  refine keeps_bind (execute_keeps hself fun es h => h.concat ⟨u, key, h.session⟩) fun _ => ?_
  refine keeps_bind (executeQuery_keeps hself _) fun senders => keeps_assume fun ⟨i, hi⟩ => ?_
  refine keeps_bind (executeQuery_keeps hself _) fun receivers => keeps_assume fun _ => ?_
  refine keeps_bind (executeQuery_keeps hself _) fun messages => keeps_assume fun _ => ?_
  refine execute_keeps hself fun es h => h.concat ⟨u, key, h.session, i, ?_⟩
  rw [hi, hu]

theorem receivePollResponse_keeps (pollRspns : SPChatPollResponse) :
    Keeps (Closed w) (On (Ready w u key)) (receivePollResponse w u key pollRspns) fun _ =>
      On (Ready w u key) := by
  unfold receivePollResponse Body.receivePollResponse
  dsimp only
  split
  · exact keeps_throw fun _ h => h.gated
  · rename_i first _ _
    split
    · exact keeps_throw fun _ h => h.gated
    · rename_i hu
      exact catchSQLException_keeps (fun _ h => h.gated) (storeMessage_keeps (not_not.mp hu) _)

theorem handle_keeps (msgs : SPChatMessage) :
    Keeps (Closed w) (On (Ready w u key)) (handle w u key msgs) fun _ => On (Ready w u key) := by
  cases msgs with
  | poll newPoll => exact answerPoll_keeps newPoll
  | pollResponse pollRspns => exact receivePollResponse_keeps pollRspns
  | login => exact keeps_pure fun _ h => h
  | challenge => exact keeps_pure fun _ h => h
  | ack => exact keeps_pure fun _ h => h
  | response => exact keeps_pure fun _ h => h

theorem serve_keeps (endTime : Int) (rounds : Nat) :
    Keeps (Closed w) (On (Ready w u key)) (serve w endTime u key rounds) fun _ =>
      On (Ready w u key) := by
  induction rounds with
  | zero => exact keeps_pure fun _ h => h
  | succ rounds ih =>
    refine keeps_bind (external_keeps _) fun now => keeps_assume fun _ => ?_
    split
    · exact keeps_throw fun _ h => h.gated
    · refine keeps_bind (decode_keeps (K := fun _ => Ready w u key) (fun _ h => h.gated)
        fun es m h => h.concat trivial) fun msgs => ?_
      exact keeps_bind (handle_keeps msgs) fun _ => ih

end MessageLoop

theorem clientConnectStart_keeps (w : World) (rounds : Nat) :
    Keeps (Closed w) (On (· = [])) (clientConnectStart w rounds) fun _ =>
      On (Gated (Permitted w)) := by
  refine keeps_bind (external_keeps _) fun now => keeps_assume fun _ => ?_
  refine keeps_bind authenticate_keeps fun u => keeps_bind exchangeKeys_keeps fun key => ?_
  exact (serve_keeps _ rounds).consequence (fun _ h => h) fun _ _ h => h.gated

theorem authentication_gate (w : World) (sock : SegmentedStream.Stream Byte) (rounds : Nat) :
    Gated (Permitted w) (after ((clientConnectStart w rounds).run ⟨sock, 0, []⟩)).events := by
  have hrun := clientConnectStart_keeps w rounds ⟨sock, 0, []⟩ rfl
  split at hrun
  · rename_i h
    rw [h]
    exact hrun
  · rename_i h
    rw [h]
    exact hrun

end Server
