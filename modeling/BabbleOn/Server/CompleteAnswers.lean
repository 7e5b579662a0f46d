import BabbleOn.Server.AuthenticDelivery
import BabbleOn.Server.SendTime

namespace Server
open Execution ProgramLogic Interaction History SegmentedStream Program

def Request.Queries : Request → Prop
  | .selectMessages _ _ => True
  | _ => False

def Request.Reads : Request → Prop
  | .time => True
  | _ => False

namespace Dialogue

def Quiet {α : Type} (p : Dialog α) : Prop := p.Asks fun req => ¬ req.Queries

theorem built_quiet {α : Type} (r : Except Fault α) : Quiet (built r) := by
  cases r <;> trivial

theorem ask_quiet (req : Request) (h : ¬ req.Queries) : Quiet (ask req) := asks_request req h

theorem decode_quiet : Quiet decode := ask_quiet .decode not_false

theorem send_quiet (m : SPChatMessage) : Quiet (send m) := ask_quiet (.send m) not_false

theorem sendACK_quiet (error : ErrorType) : Quiet (sendACK error) :=
  asks_bind (built_quiet _) fun _ => send_quiet _

theorem execute_quiet (statement : Insert) : Quiet (execute statement) :=
  ask_quiet (.execute statement) not_false

theorem executeQuery_quiet {α : Type} {query : Dialog (Answer α)} (h : Quiet query) :
    Quiet (executeQuery query) :=
  asks_bind h fun _ => asks_ite trivial trivial

variable (code : Code)

theorem checkPassword_quiet (challenge : Fin 8 → Byte) (username : Str) (response : SPChatResponse) :
    Quiet (checkPassword code challenge username response) := by
  refine asks_bind (ask_quiet (.selectPassword username) not_false) fun res => ?_
  exact asks_ite (asks_bind (sendACK_quiet _) fun _ => trivial) (asks_ite (sendACK_quiet _) trivial)

theorem authenticate_quiet : Quiet (authenticate code) := by
  refine asks_bind decode_quiet fun msg => ?_
  cases msg with
  | login login =>
    refine asks_bind (ask_quiet .RAND_bytes not_false) fun challenge => ?_
    refine asks_bind (built_quiet _) fun m => asks_bind (send_quiet _) fun _ =>
      asks_bind decode_quiet fun msg2 => ?_
    cases msg2 with
    | response response => exact asks_bind (checkPassword_quiet code _ _ _) fun _ => trivial
    | _ => trivial
  | _ => trivial

theorem exchangeKeys_quiet : Quiet (exchangeKeys code) := by
  refine asks_bind decode_quiet fun msg => ?_
  cases msg with
  | login login =>
    refine asks_bind (built_quiet _) fun m => asks_bind (send_quiet _) fun _ =>
      asks_bind decode_quiet fun msg2 => ?_
    cases msg2 with
    | login loginNew =>
      dsimp only
      split
      · trivial
      · exact asks_ite (asks_bind (sendACK_quiet _) fun _ => trivial) trivial
    | _ => trivial
  | _ => trivial

theorem storeMessage_quiet (first : SPChatMsgMessage) (text : Str) : Quiet (storeMessage first text) := by
  refine asks_bind (execute_quiet _) fun _ => ?_
  refine asks_bind (executeQuery_quiet (ask_quiet (.selectUserId _) not_false)) fun _ => ?_
  refine asks_bind (executeQuery_quiet (ask_quiet (.selectUserId _) not_false)) fun _ => ?_
  refine asks_bind (executeQuery_quiet (ask_quiet (.selectMessageId _) not_false)) fun _ => ?_
  exact execute_quiet _

theorem receivePollResponse_quiet (u key : Str) (pollRspns : SPChatPollResponse) :
    Quiet (receivePollResponse code u key pollRspns) := by
  unfold receivePollResponse Body.receivePollResponse
  dsimp only
  split
  · trivial
  · refine asks_ite trivial (asks_tryCatch (storeMessage_quiet _ _) fun e => ?_)
    exact asks_ite trivial trivial

theorem sendRow_asks {φ : Request → Prop} (htime : φ .objectTime) (hsend : ∀ m, φ (.send m))
    (key : Str) (newPoll : SPChatPoll) (row : Row) : (sendRow code key newPoll row).Asks φ := by
  have hbuilt : ∀ {α : Type} (r : Except Fault α), (built r : Dialog α).Asks φ := by
    intro α r
    cases r <;> trivial
  refine asks_bind (asks_request Request.objectTime htime) fun _ => asks_bind (hbuilt _) fun _ =>
    asks_bind (hbuilt _) fun _ => asks_bind (hbuilt _) fun _ => ?_
  exact asks_request (Request.send _) (hsend _)

def Follows (u key : Str) : (req : Request) → (Except Stop req.Answered → Dialog Unit) → Prop
  | .selectMessages time username, next => username = u ∧ ∃ newPoll endTime rounds,
      newPoll.username = u ∧ time = seconds newPoll.time ∧
      ∀ res : Answer Row, next (.ok res) =
        forM res.rows (sendRow code key newPoll) >>= fun _ => serve code endTime u key rounds
  | _, _ => True

variable {code} {u key : Str}

theorem Quiet.follows {α : Type} {p : Dialog α} (h : Quiet p) (f : α → Dialog Unit) :
    p.Each fun req next => Follows code u key req fun r => next r >>= f := by
  refine Each.mono h fun req next hquiet => ?_
  cases req with
  | selectMessages time username => exact absurd trivial hquiet
  | _ => trivial

theorem answerPoll_follows (newPoll : SPChatPoll) {endTime : Int} {rounds : Nat}
    (hserve : (serve code endTime u key rounds).Each (Follows code u key)) :
    (answerPoll code u key newPoll >>= fun _ => serve code endTime u key rounds).Each
      (Follows code u key) := by
  unfold answerPoll Body.answerPoll
  split
  · trivial
  · rename_i hu
    have hu := not_not.mp hu
    cases htime : newPoll.getTime with
    | error e => trivial
    | ok time =>
      obtain rfl := getTime_eq_ok htime
      refine ⟨⟨hu, newPoll, endTime, rounds, hu, rfl, fun res => rfl⟩, fun r => ?_⟩
      cases r with
      | error e => trivial
      | ok res =>
        have hrows : Quiet (forM res.rows (sendRow code key newPoll)) :=
          asks_forM (fun row => sendRow_asks code not_false (fun _ => not_false) key newPoll row) _
        exact each_bind (hrows.follows _) fun _ => hserve

theorem serve_follows (endTime : Int) (rounds : Nat) :
    (serve code endTime u key rounds).Each (Follows code u key) := by
  induction rounds with
  | zero => trivial
  | succ rounds ih =>
    refine each_bind (Quiet.follows (ask_quiet .time not_false) _) fun now => ?_
    split
    · trivial
    · refine each_bind (Quiet.follows decode_quiet _) fun msgs => ?_
      cases msgs with
      | poll newPoll => exact answerPoll_follows newPoll ih
      | pollResponse pollRspns =>
        exact each_bind (Quiet.follows (receivePollResponse_quiet code u key pollRspns) _) fun _ => ih
      | _ => exact ih

end Dialogue

namespace SharedDatabase

open Dialogue

variable {τ : Type} {D : Deployment τ} {d : Database τ} {sock : Nat → Stream Byte} {P P' Q : State τ}

structure Selects (D : Deployment τ) (i : Nat) (time u : Str) (P P' : State τ) : Prop where
  running : Running Fatal P
  answered : ∃ (w : D.Hosted) (d' : Database τ) (next : Except Stop (Answer Row) → Dialog Unit),
    P.program i = .ask (.selectMessages time u) next ∧
    Meets D i P.shared w (.selectMessages time u) (P.own i) d' ∧
    (w.1.selectMessages (P.own i).calls time u).failed = false ∧
    P' = ⟨d', Function.update P.own i { P.own i with calls := (P.own i).calls + 1 },
      Function.update P.program i (next (.ok (w.1.selectMessages (P.own i).calls time u)))⟩

def AtLoopHead (p : Dialog Unit) : Prop := p = .done () ∨ ∃ next, p = .ask .time next

def FromNext (events : List Event) : Prop := events = [] ∨ ∃ m more, events = .received m :: more

structure AnsweredInFull (D : Deployment τ) (i : Nat) (time u : Str) (P Q : State τ) : Prop where
  answered : ∃ key rows frames more, SignedIn D.sql (D.code i) P.shared u key (P.own i).events ∧
    rows.Perm (P.shared.selectMessages D.sql time u) ∧
    List.Forall₂ (fun row m => Carries (D.code i) u key row.sender row.text m) rows frames ∧
    (Q.own i).events = (P.own i).events ++
      frames.map (fun m => .sent (.pollResponse m)) ++ more ∧ FromNext more

theorem selects_step {i : Nat} {time u : Str} (h : Selects D i time u P P') : Moves D P P' := by
  obtain ⟨hrunning, w, d', next, hasks, hmet, _, rfl⟩ := h
  exact .act i w d' hrunning hasks hmet

theorem fromNext_of_same {c c' : Conn} (h : c'.events = c.events) :
    ∃ more, c'.events = c.events ++ more ∧ FromNext more :=
  ⟨[], by rw [h, List.append_nil], .inl rfl⟩

theorem decode_events {w : World} {c c' : Conn} {m : SPChatMessage}
    (h : (Server.decode w).run c = .ok m c') : c'.events = c.events ++ [.received m] := by
  rw [decode_run] at h
  split at h
  · cases h
    rfl
  · cases h

theorem decode_fromNext {w : World} {q : Dialog SPChatMessage} {c c' : Conn}
    (h : Reached (answer w) Dialogue.decode c q c') :
    ∃ more, c'.events = c.events ++ more ∧ FromNext more := by
  rcases h.request_cases with ⟨_, rfl⟩ | ⟨m, _, hreceived⟩ | ⟨e, _, hfailed⟩
  · exact fromNext_of_same rfl
  · have hrun : (Server.decode w).run c = .ok m c' := hreceived
    exact ⟨[.received m], decode_events hrun, .inr ⟨m, [], rfl⟩⟩
  · have hrun : (Server.decode w).run c = .error e c' := hfailed
    rw [decode_run] at hrun
    split at hrun
    · cases hrun
    · cases hrun
      exact fromNext_of_same rfl

theorem serve_fromNext {w : World} {code : Code} {endTime : Int} {u key : Str} {rounds : Nat}
    {q : Dialog Unit} {c c' : Conn}
    (h : Reached (answer w) (Dialogue.serve code endTime u key rounds) c q c') :
    ∃ more, c'.events = c.events ++ more ∧ FromNext more := by
  cases rounds with
  | zero => exact fromNext_of_same (congrArg Conn.events h.done_cases.2)
  | succ rounds =>
    rcases h.bind_cases with ⟨_, htime, _⟩ | ⟨now, c₁, htime, hround⟩
    · rcases htime.request_cases with ⟨_, rfl⟩ | ⟨_, _, hnow⟩ | ⟨_, _, hnow⟩
      · exact fromNext_of_same rfl
      · cases hnow
        exact fromNext_of_same rfl
      · cases hnow
    have hnow := htime.done_run
    rw [interpret_ask] at hnow
    cases hnow
    split at hround
    · exact fromNext_of_same (by rw [hround.thrown_cases.2])
    rcases hround.bind_cases with ⟨_, hdecode, _⟩ | ⟨m, c₂, hdecode, hrest⟩
    · obtain ⟨more, hmore⟩ := decode_fromNext hdecode
      exact ⟨more, hmore⟩
    · have hreceived := hdecode.done_run
      rw [interpret_decode] at hreceived
      obtain ⟨more, hmore⟩ := reached_events hrest
      refine ⟨.received m :: more, ?_, .inr ⟨m, more, rfl⟩⟩
      rw [hmore, decode_events hreceived, List.append_assoc, List.singleton_append]

theorem sendRows_events {w : World} {key : Str} {newPoll : SPChatPoll} {rows : List Row} {c c' : Conn}
    (h : (forM rows (Server.sendRow w key newPoll)).run c = .ok () c') :
    c'.events = c.events ++ (rows.map (rowFrame w key newPoll)).map fun m =>
      .sent (.pollResponse m) := by
  induction rows generalizing c with
  | nil =>
    cases h
    simp
  | cons row rows ih =>
    rw [List.forM_cons] at h
    obtain ⟨_, c₁, hrow, hrest⟩ := bind_eq_ok.mp h
    have hevents := ih hrest
    rcases @sendRow_events w key newPoll row c with ⟨e, c₂, hrun, _⟩ | ⟨c₂, hrun, hsent⟩
    · rw [hrun] at hrow
      cases hrow
    · rw [hrun] at hrow
      cases hrow
      rw [hevents, hsent, List.map_cons, List.map_cons, List.append_assoc, List.singleton_append]

theorem asks_in_session {w : World} {stream : Stream Byte} {rounds : Nat} {time u : Str}
    {next : Except Stop (Answer Row) → Dialog Unit} {c : Conn}
    (h : Reached (answer w) (Dialogue.clientConnectStart (ofWorld w) rounds) ⟨stream, 0, []⟩
      (.ask (.selectMessages time u) next) c) :
    ∃ key newPoll endTime left, InSession w u key c.events ∧ newPoll.username = u ∧
      ∀ res : Answer Row, next (.ok res) =
        forM res.rows (Dialogue.sendRow (ofWorld w) key newPoll) >>= fun _ =>
          Dialogue.serve (ofWorld w) endTime u key left := by
  have hquery : ¬ ¬ Request.Queries (.selectMessages time u) := fun hnot => hnot trivial
  obtain ⟨now, c₁, htime, h₁⟩ := h.bind_past (ask_quiet .time not_false) hquery
  obtain ⟨user, c₂, hauth, h₂⟩ := h₁.bind_past (authenticate_quiet _) hquery
  obtain ⟨key, c₃, hkeys, h₃⟩ := h₂.bind_past (exchangeKeys_quiet _) hquery
  obtain ⟨rfl, newPoll, endTime, left, hu, _, hnext⟩ := (h₃.each (serve_follows _ rounds)).1
  have hstart : On (· = []) c₁ := by
    have hrun := htime.done_run
    rw [interpret_ask, answer, external_run] at hrun
    cases hrun
    rfl
  have hopened : On (Opened w u) c₂ := by
    have hrun := hauth.done_run
    rw [interpret_authenticate] at hrun
    exact authenticate_keeps.ok hstart hrun
  have hready : On (Ready w u key) c₃ := by
    have hrun := hkeys.done_run
    rw [interpret_exchangeKeys] at hrun
    exact exchangeKeys_keeps.ok hopened hrun
  obtain ⟨more, hmore⟩ := reached_events h₃
  refine ⟨key, newPoll, endTime, left, ?_, hu, hnext⟩
  rw [hmore]
  exact hready.session.append more

theorem past_rows {w : World} {code : Code} {key : Str} {newPoll : SPChatPoll} {rows : List Row}
    {rest : Unit → Dialog Unit} {q : Dialog Unit} {c c' : Conn} (hhead : AtLoopHead q)
    (h : Reached (answer w) (forM rows (Dialogue.sendRow code key newPoll) >>= rest) c q c') :
    ∃ c₁, Reached (answer w) (forM rows (Dialogue.sendRow code key newPoll)) c (.done ()) c₁ ∧
      Reached (answer w) (rest ()) c₁ q c' := by
  rcases hhead with rfl | ⟨next, rfl⟩
  · obtain ⟨_, c₁, hdone, hrest⟩ := h.bind_done
    exact ⟨c₁, hdone, hrest⟩
  · have hrows : (forM rows (Dialogue.sendRow code key newPoll)).Asks fun req => ¬ req.Reads :=
      asks_forM (fun row => sendRow_asks code not_false (fun _ => not_false) key newPoll row) _
    obtain ⟨_, c₁, hdone, hrest⟩ := h.bind_past hrows fun hnot => hnot trivial
    exact ⟨c₁, hdone, hrest⟩

theorem polls_answered_in_full {i : Nat} {time u : Str} (h : Reachable D d sock P)
    (hselects : Selects D i time u P P') (hlater : Continues D P' Q)
    (hhead : AtLoopHead (Q.program i)) : AnsweredInFull D i time u P Q := by
  obtain ⟨_, w, d', next, hasks, hmet, hok, rfl⟩ := hselects
  obtain ⟨w₀, hlives₀, hreached₀⟩ := reached_alone h i
  rw [hasks, ← hlives₀.code] at hreached₀
  obtain ⟨key, newPoll, endTime, left, hsession, hu, hnext⟩ := asks_in_session hreached₀
  obtain ⟨w₁, hlives₁, hreached₁⟩ := Reaches.alone (lives_served D) hlater ⟨_, idle_lives D i _⟩
  simp only [Function.update_self] at hreached₁
  rw [hnext, hlives₀.code] at hreached₁
  obtain ⟨c₁, hsent, hrest⟩ := past_rows hhead hreached₁
  have hrun := hsent.done_run
  rw [← hlives₁.code, interpret_forM] at hrun
  simp only [interpret_sendRow] at hrun
  have hevents := sendRows_events hrun
  have hframes := rowFrames_carry w₁.1 key newPoll (w.1.selectMessages (P.own i).calls time u).rows
  obtain ⟨more, hmore, hfrom⟩ := serve_fromNext hrest
  refine ⟨key, _, (w.1.selectMessages (P.own i).calls time u).rows.map (rowFrame w₁.1 key newPoll), more,
    ?_, (hmet.serves.selectMessages _ time u).complete hok, ?_, ?_, hfrom⟩
  · rw [← hlives₀.code]
    exact signedIn_of_inSession hsession hlives₀.draws
  · rw [hlives₁.code, hu] at hframes
    exact hframes
  · rw [hmore, hevents]

theorem bob_answered_in_full : ∃ P Q, Reachable bobServer bobTables (fun _ => lateConn.sock) P ∧
    AnsweredInFull bobServer 0 (ascii "0") (ascii "bob") P Q ∧ (P.own 1).events.length = 9 ∧
    (Q.own 1).events.length = 10 := by
  obtain ⟨P, hP, hfirst, hsecond⟩ := both_polled
  obtain ⟨sock, hown⟩ := hfirst.own
  obtain ⟨sock₁, hown₁⟩ := hsecond.own
  obtain ⟨P', hselects, hshared', hown', hprogram', hothers⟩ : ∃ P',
      Selects bobServer 0 (ascii "0") (ascii "bob") P P' ∧ P'.shared = P.shared ∧
      P'.own 0 = ⟨sock, 14, bobOpening.events ++ [.received (.poll bobLatePoll)]⟩ ∧
      P'.program 0 = bobSends [amysRow] >>= bobServes ∧
      ∀ j, j ≠ 0 → P'.own j = P.own j ∧ P'.program j = P.program j := by
    refine ⟨_, ⟨hfirst.running, ⟨bobWorld, rfl⟩, P.shared, _, hfirst.program,
      bob_meets hfirst.shared _ _, rfl, rfl⟩, rfl, ?_, ?_,
      fun j hj => ⟨Function.update_of_ne hj _ _, Function.update_of_ne hj _ _⟩⟩
    · simp only [Function.update_self, hown]
    · simp only [Function.update_self, hown]
      rfl
  have hasked : Advances bobServer 0 P P' := by
    refine ⟨.single (selects_step hselects), hothers,
      hfirst.running.program (fun j hj => (hothers j hj).2) fun e he => ?_⟩
    rw [hprogram'] at he
    cases he
  obtain ⟨Q₁, hanswered, hshared₁, _, hevents₁⟩ :=
    (hsecond.others hasked (hshared'.trans hfirst.shared) (by decide)).answered
  obtain ⟨hown₀, hprogram₀⟩ := hanswered.others 0 (by decide)
  obtain ⟨c, hsent, _⟩ := @Opening.sends_rows _ bobOpening _ bobOpening_poll [amysRow]
    (fun _ => show 0 ≤ (0#64).toInt by decide) (by decide)
    ⟨sock, 14, bobOpening.events ++ [.received (.poll bobLatePoll)]⟩
  have hruns : Reached (answer bobWorld) (Q₁.program 0) (Q₁.own 0) (.done ()) c := by
    rw [hprogram₀, hown₀, hprogram', hown']
    exact hsent.bind .start
  obtain ⟨Q, hdone, _, _, hprogram⟩ := advances_reached (w := ⟨bobWorld, rfl⟩) hanswered.running
    (bob_meets hshared₁) (fun e he => by cases he) hruns
  refine ⟨P, Q, hP, polls_answered_in_full hP hselects (hanswered.continues.trans hdone.continues)
    (.inl hprogram), ?_, ?_⟩
  · rw [hown₁]
    rfl
  · rw [(hdone.others 1 (by decide)).1, hevents₁]
    rfl

end SharedDatabase

end Server
