import Mathlib.Algebra.Order.BigOperators.Group.List
import BabbleOn.Server.CompleteAnswers

namespace Server
open Execution Interaction SegmentedStream Dialogue

namespace SharedDatabase

variable {τ : Type}

section Tables

variable {sql : Sql τ} {d d' : Database τ} {s r : Login} {text time u : Str} {stamp : τ}

structure Account (sql : Sql τ) (d : Database τ) (email : Str) (l : Login) : Prop where
  only : d.login.filter (fun l => sql.equal l.email email) = [l]

structure Stored (d : Database τ) (s r : Login) (text : Str) (stamp : τ) (d' : Database τ) : Prop where
  login : d'.login = d.login
  inserted : ∃ id, (∀ m ∈ d.messages, m.message_id ≠ id) ∧ (∀ x ∈ d.transactions, x.message_id ≠ id) ∧
    d'.messages = d.messages ++ [⟨id, text⟩] ∧
    d'.transactions = d.transactions ++ [⟨s.user_id, r.user_id, id, stamp⟩]

theorem Account.mem {email : Str} {l : Login} (h : Account sql d email l) :
    l ∈ d.login ∧ sql.equal l.email email = true := by
  have hmem : l ∈ d.login.filter fun l => sql.equal l.email email := by
    rw [h.only]
    exact List.mem_singleton.mpr rfl
  exact List.mem_filter.mp hmem

theorem Account.selectUserId {email : Str} {l : Login} (h : Account sql d email l) :
    d.selectUserId sql email = [decimal l.user_id] := by
  rw [Database.selectUserId, h.only]
  rfl

theorem Account.login {email : Str} {l : Login} (h : Account sql d email l)
    (hlogin : d'.login = d.login) : Account sql d' email l :=
  ⟨by rw [hlogin]; exact h.only⟩

theorem filter_number {α : Type} (number : α → Int) (p : α → Bool) {rows : List α} {a : α}
    (h : (rows.map number).Nodup) (ha : a ∈ rows) :
    rows.filter (fun b => number a = number b ∧ p b) = if p a then [a] else [] := by
  induction rows with
  | nil => cases ha
  | cons b rows ih =>
    obtain ⟨hb, hrows⟩ := List.nodup_cons.mp (List.map_cons ▸ h)
    rcases List.mem_cons.mp ha with rfl | hmem
    · have hnone : rows.filter (fun b => number a = number b ∧ p b) = [] := by
        refine List.filter_eq_nil_iff.mpr fun c hc => ?_
        have hdiffers : number a ≠ number c := fun heq => hb (heq ▸ List.mem_map_of_mem hc)
        simp [hdiffers]
      rw [List.filter_cons, hnone]
      simp
    · have hdiffers : number a ≠ number b := fun heq => hb (heq ▸ List.mem_map_of_mem hmem)
      rw [List.filter_cons_of_neg (by simp [hdiffers]), ih hrows hmem]

theorem Stored.selectMessages (h : Stored d s r text stamp d') (hs : s ∈ d.login) (hr : r ∈ d.login) :
    d'.selectMessages sql time u = d.selectMessages sql time u ++
      if sql.later stamp time ∧ sql.equal r.email u then
        [⟨text, r.email, s.email, sql.shown stamp⟩] else [] := by
  obtain ⟨id, hmessages, htransactions, hm, hx⟩ := h.inserted
  have hnumbers := d.users_numbered.distinct
  rw [Database.selectMessages, Database.selectMessages, h.login, hm, hx, List.flatMap_append]
  congr 1
  · refine List.flatMap_congr fun m hmem => ?_
    have hdiffers := hmessages m hmem
    rw [List.filter_append, List.filter_cons_of_neg (by simp [hdiffers]), List.filter_nil,
      List.append_nil]
  · have hold : d.transactions.filter (fun x => id = x.message_id ∧ sql.later x.timestamp time) = [] := by
      refine List.filter_eq_nil_iff.mpr fun x hmem => ?_
      have hdiffers := (htransactions x hmem).symm
      simp [hdiffers]
    have hreceiver := filter_number Login.user_id (fun y => sql.equal y.email u) hnumbers hr
    have hsender := filter_number Login.user_id (fun _ => true) hnumbers hs
    simp only [and_true, if_true] at hsender
    simp only [List.flatMap_cons, List.flatMap_nil, List.append_nil, List.filter_append, hold,
      List.nil_append, List.filter_cons, List.filter_nil, true_and, decide_eq_true_eq]
    cases hlater : sql.later stamp time with
    | false => simp
    | true =>
      simp only [if_true, true_and, List.flatMap_cons, List.flatMap_nil, List.append_nil, hreceiver]
      cases sql.equal r.email u with
      | false => simp
      | true => simp [hsender]

inductive Filed (stamped : τ → Prop) (s : Login) (text : Str) :
    List Login → Database τ → Database τ → Prop
  | none (d : Database τ) : Filed stamped s text [] d d
  | stored {r : Login} {rs : List Login} {d d₁ d₂ : Database τ} {stamp : τ} (hstamp : stamped stamp)
      (h : Stored d s r text stamp d₁) (rest : Filed stamped s text rs d₁ d₂) :
      Filed stamped s text (r :: rs) d d₂

variable {stamped : τ → Prop} {rs : List Login}

structure NewRow (sql : Sql τ) (stamped : τ → Prop) (s : Login) (text : Str) (r : Login) (row : Row) :
    Prop where
  text : row.text = text
  receiver : row.receiver = r.email
  sender : row.sender = s.email
  timestamp : ∃ stamp, stamped stamp ∧ row.timestamp = sql.shown stamp

theorem Filed.selectMessages (h : Filed stamped s text rs d d') (hs : s ∈ d.login)
    (hrs : ∀ r ∈ rs, r ∈ d.login) (hlater : ∀ stamp, stamped stamp → sql.later stamp time = true)
    (u : Str) :
    ∃ rows, d'.selectMessages sql time u = d.selectMessages sql time u ++ rows ∧
      List.Forall₂ (NewRow sql stamped s text) (rs.filter fun r => sql.equal r.email u) rows := by
  induction h with
  | none d => exact ⟨[], (List.append_nil _).symm, .nil⟩
  | @stored r rs d d₁ d₂ stamp hstamp h rest ih =>
    obtain ⟨rows, hrows, hnew⟩ := ih (by rw [h.login]; exact hs)
      (by rw [h.login]; exact fun r' hr' => hrs r' (List.mem_cons_of_mem _ hr'))
    rw [hrows, h.selectMessages hs (hrs r List.mem_cons_self), List.append_assoc]
    refine ⟨_, rfl, ?_⟩
    cases hequal : sql.equal r.email u with
    | false =>
      rw [List.filter_cons_of_neg (by simp [hequal]), if_neg (by simp)]
      exact hnew
    | true =>
      rw [List.filter_cons_of_pos (by simp [hequal]), if_pos ⟨hlater stamp hstamp, rfl⟩]
      exact .cons ⟨rfl, rfl, rfl, stamp, hstamp, rfl⟩ hnew

theorem exists_fresh (ids : List Int) : ∃ id, 0 < id ∧ ∀ id' ∈ ids, id' ≠ id := by
  refine ⟨(ids.map Int.natAbs).sum + 1, by omega, fun id hid heq => ?_⟩
  have hle : id.natAbs ≤ (ids.map Int.natAbs).sum :=
    List.single_le_sum (by simp) _ (List.mem_map_of_mem hid)
  omega

theorem exists_stored (s r : Login) (text : Str) (stamp : τ) (hequal : sql.equal text text = true) :
    ∃ (m : Message) (d₁ d₂ : Database τ), Executed sql d (.messages text) d₁ ∧ d₁.login = d.login ∧
      lastString [] (d₁.selectMessageId sql text) = decimal m.message_id ∧
      d₂ = d₁.insertTransaction ⟨s.user_id, r.user_id, m.message_id, stamp⟩ ∧
      Stored d s r text stamp d₂ := by
  obtain ⟨id, hpositive, hfresh⟩ := exists_fresh
    (d.messages.map Message.message_id ++ d.transactions.map Transaction.message_id)
  have hmessages : ∀ m ∈ d.messages, m.message_id ≠ id := fun m hm =>
    hfresh m.message_id (List.mem_append_left _ (List.mem_map_of_mem hm))
  have htransactions : ∀ x ∈ d.transactions, x.message_id ≠ id := fun x hx =>
    hfresh x.message_id (List.mem_append_right _ (List.mem_map_of_mem hx))
  have hnew : id ∉ d.messages.map Message.message_id := fun hmem =>
    hfresh id (List.mem_append_left _ hmem) rfl
  refine ⟨⟨id, text⟩, d.insertMessage ⟨id, text⟩ hpositive hnew, _, .messages ⟨id, text⟩ hpositive hnew,
    rfl, ?_, rfl, rfl, id, hmessages, htransactions, rfl, rfl⟩
  rw [lastString_eq, Database.selectMessageId, Database.insertMessage, List.filter_append,
    List.filter_cons_of_pos (by exact hequal), List.filter_nil, List.map_append, List.map_singleton,
    List.getLast?_concat, Option.getD_some]

end Tables

section Storing

variable {D : Deployment τ} {P : State τ} {i n : Nat} {endTime : Int} {u key text : Str}

def waiting (D : Deployment τ) (i : Nat) (d : Database τ) (endTime : Int) : World :=
  answering D i d { World.quiet with time := fun _ => endTime }

def executing (D : Deployment τ) (i : Nat) (d : Database τ) : World :=
  { answering D i d World.quiet with executeFails := fun _ => false }

theorem executing_meets {d d' : Database τ} {statement : Insert} (h : Executed D.sql d statement d')
    (c : Conn) : Meets D i d ⟨executing D i d, rfl⟩ (.execute statement) c d' :=
  ⟨rfl, ⟨fun _ _ => selected_all _, fun _ _ => selected_all _, fun _ _ => selected_all _,
    fun _ _ _ => selected_all _⟩, .inl h⟩

theorem advances_waiting (hrunning : Running Fatal P) {q : Dialog Unit} {c : Conn}
    (hq : ∀ e, q = .thrown e → ¬ Fatal e)
    (h : Reached (answer (waiting D i P.shared endTime)) (P.program i) (P.own i) q c) :
    ∃ Q, Advances D i P Q ∧ Q.shared = P.shared ∧ Q.own i = c ∧ Q.program i = q :=
  advances_reached (w := ⟨waiting D i P.shared endTime, rfl⟩) hrunning (answering_meets i P.shared _) hq h

theorem advances_execute (hrunning : Running Fatal P) {statement : Insert}
    {next : Except Stop Unit → Dialog Unit} {d' : Database τ}
    (hasks : P.program i = .ask (.execute statement) next) (h : Executed D.sql P.shared statement d')
    (hnext : ∀ e, next (.ok ()) = .thrown e → ¬ Fatal e) :
    ∃ Q, Advances D i P Q ∧ Q.shared = d' ∧ (Q.own i).sock = (P.own i).sock ∧
      Q.program i = next (.ok ()) := by
  have hdone : respond ((oracle D.host).answer ⟨executing D i P.shared, rfl⟩ (.execute statement))
      (P.own i) = (.ok (), ⟨(P.own i).sock, (P.own i).calls + 1,
        (P.own i).events ++ [.executed statement]⟩) := respond_ok (execute_done rfl statement)
  have hstep : Moves D P _ :=
    .act i ⟨executing D i P.shared, rfl⟩ d' hrunning hasks (executing_meets h _)
  rw [hdone] at hstep
  have hothers : ∀ j, j ≠ i → Function.update P.program i (next (.ok ())) j = P.program j :=
    fun j hj => Function.update_of_ne hj _ _
  refine ⟨_, ⟨.single hstep, fun j hj => ⟨Function.update_of_ne hj _ _, hothers j hj⟩,
    hrunning.program hothers fun e he => hnext e ?_⟩, rfl, ?_, ?_⟩
  · exact (Function.update_self i _ P.program).symm.trans he
  · simp only [Function.update_self]
  · simp only [Function.update_self]

theorem waiting_reached {m : SPChatMessage} {p : Process}
    (hprogram : P.program i = Dialogue.serve (D.code i) endTime u key (n + 1))
    (hdecode : (SPChatMessage.decode D.host ⟨fun _ => 0#8, fun _ => 0#64⟩).run ⟨(P.own i).sock, []⟩ =
      .ok m p) :
    Reached (answer (waiting D i P.shared endTime)) (P.program i) (P.own i)
      (Dialogue.handle (D.code i) u key m >>= fun _ => Dialogue.serve (D.code i) endTime u key n)
      ⟨p.sock, (P.own i).calls + 2, (P.own i).events ++ [.received m]⟩ := by
  have hdecoded : (Server.decode (waiting D i P.shared endTime)).run
      { P.own i with calls := (P.own i).calls + 1 } =
        .ok m ⟨p.sock, (P.own i).calls + 2, (P.own i).events ++ [.received m]⟩ := by
    have hsame : (SPChatMessage.decode (waiting D i P.shared endTime).host
        ((waiting D i P.shared endTime).garbage ((P.own i).calls + 1))).run ⟨(P.own i).sock, []⟩ =
          .ok m p := hdecode
    rw [decode_run, hsame]
  rw [hprogram]
  exact serve_reached (Int.le_refl _) hdecoded

theorem executeQuery_reached {α : Type} {w : World} {query : Dialog (Answer α)} {rows : List α}
    {c : Conn} (h : (interpret (answer w) query).run c =
      .ok ⟨rows, false⟩ { c with calls := c.calls + 1 }) :
    Reached (answer w) (executeQuery query) c (.done rows) { c with calls := c.calls + 1 } := by
  refine reached_of_run ?_
  rw [interpret_executeQuery, executeQuery, bind_ok h]
  rfl

theorem later_reached (D : Deployment τ) (i : Nat) (endTime : Int) (first : SPChatMsgMessage)
    (text : Str) (d : Database τ) (c : Conn) :
    Reached (answer (waiting D i d endTime)) (Dialogue.laterStatements first text) c
      (Dialogue.execute (.transactions (lastString [] (d.selectUserId D.sql first.sender))
        (lastString [] (d.selectUserId D.sql first.receiver))
        (lastString [] (d.selectMessageId D.sql text)) (seconds first.time)))
      { c with calls := c.calls + 3 } :=
  (executeQuery_reached (by rw [interpret_ask]; rfl)).bind
    ((executeQuery_reached (by rw [interpret_ask]; rfl)).bind
      ((executeQuery_reached (by rw [interpret_ask]; rfl)).bind .start))

theorem handle_stores {code : Code} {resp : SPChatPollResponse} {first : SPChatMsgMessage}
    {others : List SPChatMsgMessage} (hlist : resp.msgList = first :: others) (hsender : first.sender = u)
    (htext : resp.msgList.flatMap (fun msg => code.aesDecrypt msg.message key ivString) = text) :
    Dialogue.handle code u key (.pollResponse resp) =
      catchSQLException (Dialogue.storeMessage first text) := by
  rw [List.flatMap_eq_foldl] at htext
  rw [Dialogue.handle, Body.handle, Body.receivePollResponse, htext, hlist]
  dsimp only
  rw [if_neg (not_not.mpr hsender)]

theorem stores_received (hrunning : Running Fatal P) {resp : SPChatPollResponse}
    {first : SPChatMsgMessage} {others : List SPChatMsgMessage} {p : Process}
    (hprogram : P.program i = Dialogue.serve (D.code i) endTime u key (n + 1))
    (hdecode : (SPChatMessage.decode D.host ⟨fun _ => 0#8, fun _ => 0#64⟩).run ⟨(P.own i).sock, []⟩ =
      .ok (.pollResponse resp) p)
    (hlist : resp.msgList = first :: others) (hsender : first.sender = u)
    (htext : resp.msgList.flatMap (fun msg => (D.code i).aesDecrypt msg.message key ivString) = text)
    {s r : Login} (hs : Account D.sql P.shared u s) (hr : Account D.sql P.shared first.receiver r)
    (hequal : D.sql.equal text text = true) :
    ∃ Q, Advances D i P Q ∧
      Stored P.shared s r text (D.sql.from_unixtime (seconds first.time)) Q.shared ∧
      Q.program i = Dialogue.serve (D.code i) endTime u key n ∧ (Q.own i).sock = p.sock := by
  obtain ⟨m, d₁, d₂, hmessage, hlogin, hid, hd₂, hstored⟩ := @exists_stored _ D.sql P.shared s r
    text (D.sql.from_unixtime (seconds first.time)) hequal
  have hreceive : Dialogue.handle (D.code i) u key (.pollResponse resp) = _ :=
    handle_stores hlist hsender htext
  have hserve := waiting_reached hprogram hdecode
  rw [hreceive] at hserve
  -- the first INSERT
  obtain ⟨P₁, h₁, hshared₁, hown₁, hprogram₁⟩ := advances_waiting hrunning (fun e he => by cases he) hserve
  obtain ⟨P₂, h₂, hshared₂, hsock₂, hprogram₂⟩ := advances_execute h₁.running
    (show P₁.program i = .ask (.execute (.messages text)) _ from hprogram₁) (hshared₁ ▸ hmessage)
    (fun e he => by cases he)
  -- the three queries, and the second INSERT
  have hlater := later_reached D i endTime first text P₂.shared (P₂.own i)
  have hqueries := (hlater.under_tryCatch fun e => if e = .sql then pure () else throw e).under_bind
    fun _ => Dialogue.serve (D.code i) endTime u key n
  have hprogram : tryCatch (Dialogue.laterStatements first text) _ >>= _ = P₂.program i :=
    hprogram₂.symm
  rw [hprogram] at hqueries
  obtain ⟨P₃, h₃, hshared₃, hown₃, hprogram₃⟩ :=
    advances_waiting h₂.running (fun e he => by cases he) hqueries
  have hsender₂ : Account D.sql P₂.shared first.sender s := by
    rw [hsender, hshared₂]
    exact hs.login hlogin
  have hreceiver₂ : Account D.sql P₂.shared first.receiver r := by
    rw [hshared₂]
    exact hr.login hlogin
  rw [hsender₂.selectUserId, hreceiver₂.selectUserId, hshared₂, hid] at hprogram₃
  obtain ⟨P₄, h₄, hshared₄, hsock₄, hprogram₄⟩ := advances_execute h₃.running
    (show P₃.program i = .ask (.execute (.transactions _ _ _ _)) _ from hprogram₃)
    (.transactions (D.sql.integer_decimal s.user_id) (D.sql.integer_decimal r.user_id)
      (D.sql.integer_decimal m.message_id))
    (fun e he => absurd he (serve_running _ _ _ _ _ e))
  refine ⟨P₄, ((h₁.trans h₂).trans h₃).trans h₄, ?_, hprogram₄, ?_⟩
  · rw [hshared₄, hshared₃, hshared₂, ← hd₂]
    exact hstored
  · rw [hsock₄, hown₃]
    exact hsock₂.trans (by rw [hown₁])

theorem answers_received (hrunning : Running Fatal P) {newPoll : SPChatPoll} {p : Process}
    (hprogram : P.program i = Dialogue.serve (D.code i) endTime u key (n + 1))
    (hdecode : (SPChatMessage.decode D.host ⟨fun _ => 0#8, fun _ => 0#64⟩).run ⟨(P.own i).sock, []⟩ =
      .ok (.poll newPoll) p)
    (hwf : newPoll.WellFormed) (huser : newPoll.username = u) (htime : 0 ≤ newPoll.time.toInt)
    (hrows : ∀ row ∈ P.shared.selectMessages D.sql (seconds newPoll.time) u,
      row.text.length ≤ SPChatMsgMessage.MAX_MESSAGE_LENGTH ∧ validUsername row.sender = true) :
    ∃ Q, Advances D i P Q ∧ Q.shared = P.shared ∧
      Q.program i = Dialogue.serve (D.code i) endTime u key n ∧ (Q.own i).sock = p.sock ∧
      (Q.own i).events = (P.own i).events ++ .received (.poll newPoll) ::
        (P.shared.selectMessages D.sql (seconds newPoll.time) u).map fun row =>
          .sent (.pollResponse (rowFrame (waiting D i P.shared endTime) key newPoll row)) := by
  obtain ⟨w, hw⟩ : ∃ w, w = waiting D i P.shared endTime := ⟨_, rfl⟩
  have hcode : ofWorld w = D.code i := by rw [hw]; rfl
  have hserve := waiting_reached hprogram hdecode
  rw [← hw] at hserve ⊢
  have hselect : ∀ k, (w.selectMessages k (seconds newPoll.time) newPoll.username).rows =
      P.shared.selectMessages D.sql (seconds newPoll.time) u := by
    intro k
    rw [hw, huser]
    rfl
  have hsize : ∀ row ∈ P.shared.selectMessages D.sql (seconds newPoll.time) u,
      row.text.length < 2 ^ 63 :=
    fun row hrow => Nat.lt_of_le_of_lt (hrows row hrow).1 (by decide)
  have hsends : ∀ k, w.sendFails k = false := fun k => by rw [hw]; rfl
  have hanswerable : ∀ j row, (P.shared.selectMessages D.sql (seconds newPoll.time) u)[j]? = some row →
      Answerable row (w.objectTime ((P.own i).calls + 3 + 2 * j)) := by
    intro j row hrow
    have hboth := hrows row (List.mem_of_getElem? hrow)
    exact ⟨hboth.1, hboth.2, by rw [hw]; exact Int.le_refl 0⟩
  have hsent := (@sendRows_eq_ok w key newPoll hsends hwf htime _ hsize
    ⟨p.sock, (P.own i).calls + 3, (P.own i).events ++ [.received (.poll newPoll)]⟩ _).mpr
      ⟨hanswerable, rfl⟩
  have hhandle : (Server.handle w u key (.poll newPoll)).run
      ⟨p.sock, (P.own i).calls + 2, (P.own i).events ++ [.received (.poll newPoll)]⟩ =
        (forM (P.shared.selectMessages D.sql (seconds newPoll.time) u) (Server.sendRow w key newPoll)).run
          ⟨p.sock, (P.own i).calls + 3, (P.own i).events ++ [.received (.poll newPoll)]⟩ := by
    change (Server.answerPoll w u key newPoll).run _ = _
    rw [answerPoll_run huser htime, hselect]
  have hrun := hhandle.trans hsent
  rw [← interpret_handle, hcode] at hrun
  have hreached := hserve.trans ((reached_of_run hrun).bind .start)
  rw [hw] at hreached
  obtain ⟨Q, hadvances, hshared, hown, hprogram'⟩ := advances_waiting hrunning
    (fun e he => absurd he (serve_running _ _ _ _ _ e)) hreached
  refine ⟨Q, hadvances, hshared, hprogram', by rw [hown], ?_⟩
  rw [hown, hw]
  exact List.append_assoc _ _ _

end Storing

end SharedDatabase

end Server
