import Mathlib.Data.List.Nodup
import BabbleOn.Server.Dialogue

namespace Server
open Execution Interaction History SegmentedStream

namespace SharedDatabase

structure Login where
  user_id : Int
  email : Str
  password : Str
  deriving DecidableEq, Repr

structure Message where
  message_id : Int
  text : Str
  deriving DecidableEq, Repr

structure Transaction (τ : Type) where
  sender_id : Int
  reciever_id : Int
  message_id : Int
  timestamp : τ
  deriving DecidableEq, Repr

-- an AUTO_INCREMENT column
structure Numbered (ids : List Int) : Prop where
  positive : ∀ id ∈ ids, 0 < id
  distinct : ids.Nodup

theorem Numbered.concat {ids : List Int} (h : Numbered ids) {id : Int} (hpositive : 0 < id)
    (hfresh : id ∉ ids) : Numbered (ids ++ [id]) where
  positive := by
    intro id' hid'
    rcases List.mem_append.mp hid' with hold | hnew
    · exact h.positive id' hold
    · rw [List.mem_singleton.mp hnew]
      exact hpositive
  distinct := List.nodup_append.mpr ⟨h.distinct, List.nodup_singleton id, fun a ha b hb => by
    rw [List.mem_singleton.mp hb]
    exact fun heq => hfresh (heq ▸ ha)⟩

theorem Numbered.unique {α : Type} {rows : List α} {number : α → Int}
    (h : Numbered (rows.map number)) {a b : α} (ha : a ∈ rows) (hb : b ∈ rows)
    (heq : number a = number b) : a = b :=
  List.inj_on_of_nodup_map h.distinct ha hb heq

structure Database (τ : Type) where
  login : List Login
  messages : List Message
  transactions : List (Transaction τ)
  users_numbered : Numbered (login.map Login.user_id)
  messages_numbered : Numbered (messages.map Message.message_id)

-- what the database makes of the strings it is given
structure Sql (τ : Type) where
  equal : Str → Str → Bool
  integer : Str → Option Int
  from_unixtime : Str → τ
  later : τ → Str → Bool
  shown : τ → Str
  integer_decimal : ∀ n, integer (decimal n) = some n
  integer_empty : ∀ n, integer [] = some n → n = 0

variable {τ : Type}

section Queries

variable (sql : Sql τ) (d : Database τ)

def Database.selectPassword (username : Str) : List Str :=
  (d.login.filter fun l => sql.equal l.email username).map Login.password

def Database.selectUserId (email : Str) : List Str :=
  (d.login.filter fun l => sql.equal l.email email).map fun l => decimal l.user_id

def Database.selectMessageId (text : Str) : List Str :=
  (d.messages.filter fun m => sql.equal m.text text).map fun m => decimal m.message_id

-- messages ⋈ transactions x ⋈ login y on the receiver ⋈ login z on the sender
def Database.selectMessages (time username : Str) : List Row :=
  d.messages.flatMap fun m =>
    (d.transactions.filter fun x => m.message_id = x.message_id ∧ sql.later x.timestamp time).flatMap
      fun x => (d.login.filter fun y => x.reciever_id = y.user_id ∧ sql.equal y.email username).flatMap
        fun y => (d.login.filter fun z => x.sender_id = z.user_id).map
          fun z => ⟨m.text, y.email, z.email, sql.shown x.timestamp⟩

structure Joined (d : Database τ) (m : Message) (x : Transaction τ) (y z : Login) : Prop where
  message : m ∈ d.messages ∧ m.message_id = x.message_id
  transaction : x ∈ d.transactions
  receiver : y ∈ d.login ∧ x.reciever_id = y.user_id
  sender : z ∈ d.login ∧ x.sender_id = z.user_id

theorem mem_selectPassword {username password : Str} :
    password ∈ d.selectPassword sql username ↔
      ∃ l ∈ d.login, sql.equal l.email username = true ∧ l.password = password := by
  simp only [Database.selectPassword, List.mem_map, List.mem_filter, and_assoc]

theorem mem_selectUserId {email id : Str} :
    id ∈ d.selectUserId sql email ↔
      ∃ l ∈ d.login, sql.equal l.email email = true ∧ decimal l.user_id = id := by
  simp only [Database.selectUserId, List.mem_map, List.mem_filter, and_assoc]

theorem mem_selectMessageId {text id : Str} :
    id ∈ d.selectMessageId sql text ↔
      ∃ m ∈ d.messages, sql.equal m.text text = true ∧ decimal m.message_id = id := by
  simp only [Database.selectMessageId, List.mem_map, List.mem_filter, and_assoc]

theorem mem_selectMessages {time username : Str} {row : Row} :
    row ∈ d.selectMessages sql time username ↔
      ∃ m x y z, Joined d m x y z ∧ sql.later x.timestamp time = true ∧
        sql.equal y.email username = true ∧ row = ⟨m.text, y.email, z.email, sql.shown x.timestamp⟩ := by
  simp only [Database.selectMessages, List.mem_flatMap, List.mem_map, List.mem_filter,
    decide_eq_true_eq]
  constructor
  · rintro ⟨m, hm, x, ⟨hx, hmx, hlater⟩, y, ⟨hy, hxy, hequal⟩, z, ⟨hz, hxz⟩, rfl⟩
    exact ⟨m, x, y, z, ⟨⟨hm, hmx⟩, hx, ⟨hy, hxy⟩, ⟨hz, hxz⟩⟩, hlater, hequal, rfl⟩
  · rintro ⟨m, x, y, z, ⟨⟨hm, hmx⟩, hx, ⟨hy, hxy⟩, ⟨hz, hxz⟩⟩, hlater, hequal, rfl⟩
    exact ⟨m, hm, x, ⟨hx, hmx, hlater⟩, y, ⟨hy, hxy, hequal⟩, z, ⟨hz, hxz⟩, rfl⟩

end Queries

section Changes

variable (d : Database τ)

def Database.insertMessage (m : Message) (hpositive : 0 < m.message_id)
    (hfresh : m.message_id ∉ d.messages.map Message.message_id) : Database τ where
  login := d.login
  messages := d.messages ++ [m]
  transactions := d.transactions
  users_numbered := d.users_numbered
  messages_numbered := by
    rw [List.map_append]
    exact d.messages_numbered.concat hpositive hfresh

def Database.insertTransaction (x : Transaction τ) : Database τ where
  login := d.login
  messages := d.messages
  transactions := d.transactions ++ [x]
  users_numbered := d.users_numbered
  messages_numbered := d.messages_numbered

def Database.register (l : Login) (hpositive : 0 < l.user_id)
    (hfresh : l.user_id ∉ d.login.map Login.user_id) : Database τ where
  login := d.login ++ [l]
  messages := d.messages
  transactions := d.transactions
  users_numbered := by
    rw [List.map_append]
    exact d.users_numbered.concat hpositive hfresh
  messages_numbered := d.messages_numbered

inductive Executed (sql : Sql τ) (d : Database τ) : Insert → Database τ → Prop
  | messages (m : Message) (hpositive : 0 < m.message_id)
      (hfresh : m.message_id ∉ d.messages.map Message.message_id) :
      Executed sql d (.messages m.text) (d.insertMessage m hpositive hfresh)
  | transactions {sender_id received_id message_id time : Str} {s r m : Int}
      (hs : sql.integer sender_id = some s) (hr : sql.integer received_id = some r)
      (hm : sql.integer message_id = some m) :
      Executed sql d (.transactions sender_id received_id message_id time)
        (d.insertTransaction ⟨s, r, m, sql.from_unixtime time⟩)

-- accounts are made by no code of this server
inductive Registered (d : Database τ) : Database τ → Prop
  | register (l : Login) (hpositive : 0 < l.user_id)
      (hfresh : l.user_id ∉ d.login.map Login.user_id) :
      Registered d (d.register l hpositive hfresh)

-- nothing is ever deleted
structure Grows (d d' : Database τ) : Prop where
  login : d.login ⊆ d'.login
  messages : d.messages ⊆ d'.messages
  transactions : d.transactions ⊆ d'.transactions

theorem Grows.refl : Grows d d := ⟨List.Subset.refl _, List.Subset.refl _, List.Subset.refl _⟩

variable {d} {d' d'' : Database τ} {sql : Sql τ}

theorem Executed.grows {statement : Insert} (h : Executed sql d statement d') : Grows d d' := by
  cases h with
  | messages m hpositive hfresh =>
    exact ⟨List.Subset.refl _, List.subset_append_left _ _, List.Subset.refl _⟩
  | transactions hs hr hm =>
    exact ⟨List.Subset.refl _, List.Subset.refl _, List.subset_append_left _ _⟩

theorem Registered.grows (h : Registered d d') : Grows d d' := by
  cases h with
  | register l hpositive hfresh =>
    exact ⟨List.subset_append_left _ _, List.Subset.refl _, List.Subset.refl _⟩

theorem Joined.grows {m : Message} {x : Transaction τ} {y z : Login} (h : Joined d m x y z)
    (hgrows : Grows d d') : Joined d' m x y z :=
  ⟨⟨hgrows.messages h.message.1, h.message.2⟩, hgrows.transactions h.transaction,
    ⟨hgrows.login h.receiver.1, h.receiver.2⟩, ⟨hgrows.login h.sender.1, h.sender.2⟩⟩

end Changes

-- the rows come in no promised order, and an exception may cut them short
def Selected {α : Type} (matching : List α) (res : Answer α) : Prop :=
  ∃ rows, rows.Perm matching ∧ res.rows <+: rows ∧ (res.failed = false → res.rows = rows)

theorem Selected.subset {α : Type} {matching : List α} {res : Answer α} (h : Selected matching res) :
    res.rows ⊆ matching := by
  obtain ⟨rows, hperm, hshort, _⟩ := h
  exact fun a ha => hperm.subset (hshort.subset ha)

theorem Selected.complete {α : Type} {matching : List α} {res : Answer α} (h : Selected matching res)
    (hok : res.failed = false) : res.rows.Perm matching := by
  obtain ⟨rows, hperm, _, hall⟩ := h
  rw [hall hok]
  exact hperm

structure Serves (sql : Sql τ) (d : Database τ) (w : World) : Prop where
  selectPassword : ∀ k u, Selected (d.selectPassword sql u) (w.selectPassword k u)
  selectUserId : ∀ k u, Selected (d.selectUserId sql u) (w.selectUserId k u)
  selectMessageId : ∀ k text, Selected (d.selectMessageId sql text) (w.selectMessageId k text)
  selectMessages : ∀ k time u, Selected (d.selectMessages sql time u) (w.selectMessages k time u)

structure Draws (sql : Sql τ) (d : Database τ) (w : World) : Prop where
  selectPassword : ∀ k u, (w.selectPassword k u).rows ⊆ d.selectPassword sql u
  selectUserId : ∀ k u, (w.selectUserId k u).rows ⊆ d.selectUserId sql u
  selectMessageId : ∀ k text, (w.selectMessageId k text).rows ⊆ d.selectMessageId sql text
  selectMessages : ∀ k time u, (w.selectMessages k time u).rows ⊆ d.selectMessages sql time u

theorem Serves.draws {sql : Sql τ} {d : Database τ} {w : World} (h : Serves sql d w) :
    Draws sql d w :=
  ⟨fun k u => (h.selectPassword k u).subset, fun k u => (h.selectUserId k u).subset,
    fun k text => (h.selectMessageId k text).subset, fun k time u => (h.selectMessages k time u).subset⟩

theorem Draws.grows {sql : Sql τ} {d d' : Database τ} {w : World} (h : Draws sql d w)
    (hgrows : Grows d d') : Draws sql d' w where
  selectPassword k u := by
    intro password hrow
    obtain ⟨l, hl, hmatch⟩ := (mem_selectPassword sql d).mp (h.selectPassword k u hrow)
    exact (mem_selectPassword sql d').mpr ⟨l, hgrows.login hl, hmatch⟩
  selectUserId k u := by
    intro id hrow
    obtain ⟨l, hl, hmatch⟩ := (mem_selectUserId sql d).mp (h.selectUserId k u hrow)
    exact (mem_selectUserId sql d').mpr ⟨l, hgrows.login hl, hmatch⟩
  selectMessageId k text := by
    intro id hrow
    obtain ⟨m, hm, hmatch⟩ := (mem_selectMessageId sql d).mp (h.selectMessageId k text hrow)
    exact (mem_selectMessageId sql d').mpr ⟨m, hgrows.messages hm, hmatch⟩
  selectMessages k time u := by
    intro row hrow
    obtain ⟨m, x, y, z, hjoined, hmatch⟩ :=
      (mem_selectMessages sql d).mp (h.selectMessages k time u hrow)
    exact (mem_selectMessages sql d').mpr ⟨m, x, y, z, hjoined.grows hgrows, hmatch⟩

def splice (w : World) (n : Nat) (w' : World) : World := { w with
  garbage := Function.update w.garbage n (w'.garbage n)
  objectTime := Function.update w.objectTime n (w'.objectTime n)
  time := Function.update w.time n (w'.time n)
  RAND_bytes := Function.update w.RAND_bytes n (w'.RAND_bytes n)
  sendFails := Function.update w.sendFails n (w'.sendFails n)
  executeFails := Function.update w.executeFails n (w'.executeFails n)
  selectPassword := Function.update w.selectPassword n (w'.selectPassword n)
  selectMessages := Function.update w.selectMessages n (w'.selectMessages n)
  selectUserId := Function.update w.selectUserId n (w'.selectUserId n)
  selectMessageId := Function.update w.selectMessageId n (w'.selectMessageId n) }

theorem Draws.splice {sql : Sql τ} {d : Database τ} {w w' : World} (h : Draws sql d w)
    (h' : Draws sql d w') (n : Nat) : Draws sql d (splice w n w') := by
  refine ⟨fun k u => ?_, fun k u => ?_, fun k text => ?_, fun k time u => ?_⟩
  all_goals
    simp only [SharedDatabase.splice, Function.update_apply]
    split
  · exact h'.selectPassword n u
  · exact h.selectPassword k u
  · exact h'.selectUserId n u
  · exact h.selectUserId k u
  · exact h'.selectMessageId n text
  · exact h.selectMessageId k text
  · exact h'.selectMessages n time u
  · exact h.selectMessages k time u

section Answers

open Dialogue

theorem decode_run (w : World) (c : Conn) :
    (Server.decode w).run c =
      match (SPChatMessage.decode w.host (w.garbage c.calls)).run ⟨c.sock, []⟩ with
      | .ok m p => .ok m ⟨p.sock, c.calls + 1, c.events ++ [.received m]⟩
      | .error e p => .error (.fault e) ⟨p.sock, c.calls + 1, c.events⟩ := by
  unfold Server.decode
  rw [bind_ok (external_run _ c), bind_ok (run_get _)]
  cases (SPChatMessage.decode w.host (w.garbage c.calls)).run ⟨c.sock, []⟩ <;> rfl

theorem send_run (w : World) (m : SPChatMessage) (c : Conn) :
    (Server.send w m).run c =
      if w.sendFails c.calls then .error (.fault (.socket SEND_FAILED)) { c with calls := c.calls + 1 }
      else .ok () ⟨c.sock, c.calls + 1, c.events ++ [.sent m]⟩ := by
  unfold Server.send
  rw [bind_ok (external_run _ c)]
  split <;> rfl

theorem execute_run (w : World) (statement : Insert) (c : Conn) :
    (Server.execute w statement).run c =
      if w.executeFails c.calls then .error .sql { c with calls := c.calls + 1 }
      else .ok () ⟨c.sock, c.calls + 1, c.events ++ [.executed statement]⟩ := by
  unfold Server.execute
  rw [bind_ok (external_run _ c)]
  split <;> rfl

theorem after_respond {α : Type} (m : Thread α) (c : Conn) : (respond m c).2 = after (m.run c) := by
  rw [respond]
  split <;> rename_i h <;> rw [h] <;> rfl

theorem answer_after (w : World) (req : Request) (c : Conn) :
    ∃ more, (after ((answer w req).run c)).events = c.events ++ more ∧
      (after ((answer w req).run c)).calls = c.calls + 1 := by
  have hexternal : ∀ {α : Type} (f : Nat → α),
      ∃ more, (after ((external f).run c)).events = c.events ++ more ∧
        (after ((external f).run c)).calls = c.calls + 1 :=
    fun f => ⟨[], (List.append_nil _).symm, rfl⟩
  cases req with
  | time => exact hexternal w.time
  | RAND_bytes => exact hexternal w.RAND_bytes
  | objectTime => exact hexternal w.objectTime
  | decode =>
    simp only [answer]
    rw [decode_run]
    split
    · exact ⟨[.received _], rfl, rfl⟩
    · exact ⟨[], (List.append_nil _).symm, rfl⟩
  | send m =>
    simp only [answer]
    rw [send_run]
    split
    · exact ⟨[], (List.append_nil _).symm, rfl⟩
    · exact ⟨[.sent m], rfl, rfl⟩
  | execute statement =>
    simp only [answer]
    rw [execute_run]
    split
    · exact ⟨[], (List.append_nil _).symm, rfl⟩
    · exact ⟨[.executed statement], rfl, rfl⟩
  | selectPassword username => exact hexternal fun i => w.selectPassword i username
  | selectMessages time username => exact hexternal fun i => w.selectMessages i time username
  | selectUserId email => exact hexternal fun i => w.selectUserId i email
  | selectMessageId text => exact hexternal fun i => w.selectMessageId i text

-- all that decides the answer to call `n`
structure Alike (w w' : World) (n : Nat) : Prop where
  host : w.host = w'.host
  garbage : w.garbage n = w'.garbage n
  objectTime : w.objectTime n = w'.objectTime n
  time : w.time n = w'.time n
  RAND_bytes : w.RAND_bytes n = w'.RAND_bytes n
  sendFails : w.sendFails n = w'.sendFails n
  executeFails : w.executeFails n = w'.executeFails n
  selectPassword : w.selectPassword n = w'.selectPassword n
  selectMessages : w.selectMessages n = w'.selectMessages n
  selectUserId : w.selectUserId n = w'.selectUserId n
  selectMessageId : w.selectMessageId n = w'.selectMessageId n

theorem answer_congr {w w' : World} {c : Conn} (h : Alike w w' c.calls) (req : Request) :
    (answer w req).run c = (answer w' req).run c := by
  have hexternal : ∀ {α : Type} {f g : Nat → α}, f c.calls = g c.calls →
      (external f).run c = (external g).run c := by
    intro α f g heq
    rw [external_run, external_run, heq]
  cases req with
  | time => exact hexternal h.time
  | RAND_bytes => exact hexternal h.RAND_bytes
  | objectTime => exact hexternal h.objectTime
  | decode =>
    simp only [answer]
    rw [decode_run, decode_run, h.host, h.garbage]
  | send m =>
    simp only [answer]
    rw [send_run, send_run, h.sendFails]
  | execute statement =>
    simp only [answer]
    rw [execute_run, execute_run, h.executeFails]
  | selectPassword username =>
    simp only [answer]
    rw [external_run, external_run, h.selectPassword]
  | selectMessages time username =>
    simp only [answer]
    rw [external_run, external_run, h.selectMessages]
  | selectUserId email =>
    simp only [answer]
    rw [external_run, external_run, h.selectUserId]
  | selectMessageId text =>
    simp only [answer]
    rw [external_run, external_run, h.selectMessageId]

theorem splice_other (w w' : World) {n k : Nat} (h : k ≠ n) : Alike (splice w n w') w k := by
  constructor <;> first | rfl | exact Function.update_of_ne h _ _

theorem splice_at {w w' : World} (h : w.host = w'.host) (n : Nat) : Alike (splice w n w') w' n := by
  constructor <;> first | exact h | exact Function.update_self _ _ _

def oracle (host : Host) :
    Oracle { w : World // w.host = host } Request Request.Answered Stop Conn where
  answer w := answer w.1
  clock := Conn.calls
  splice w n w' := ⟨splice w.1 n w'.1, w.2⟩
  tick w req c := by
    obtain ⟨_, _, hcalls⟩ := answer_after w.1 req c
    rw [after_respond]
    omega
  answer_before w n w' req c hc := answer_congr (splice_other w.1 w'.1 (Nat.ne_of_lt hc)) req
  answer_at w n w' req c hc := by
    subst hc
    exact answer_congr (splice_at (w.2.trans w'.2.symm) c.calls) req

end Answers

end SharedDatabase

end Server
