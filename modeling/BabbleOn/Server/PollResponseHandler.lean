import BabbleOn.Server.CanonicalFrames
import BabbleOn.Server.MessageStore
import BabbleOn.Server.SessionOpening

namespace Server
open Execution SegmentedStream

-- `getMsgList()[i]`
def getMsgList (pollRspns : SPChatPollResponse) (i : Nat) : Thread SPChatMsgMessage :=
  match pollRspns.msgList[i]? with
  | some msg => pure msg
  | none => throw .undefined

def decryptLoop (w : World) (keyString : Str) (pollRspns : SPChatPollResponse) :
    List Nat → Str → Thread Str
  | [], receivedDecryptedMessage => pure receivedDecryptedMessage
  | i :: rest, receivedDecryptedMessage => do
    let msg ← getMsgList pollRspns i
    decryptLoop w keyString pollRspns rest
      (receivedDecryptedMessage ++ w.aesDecrypt msg.message keyString ivString)

-- `receivePollResponse` with every access to the list by its index
def receiveByIndex (w : World) (originalUser keyString : Str) (pollRspns : SPChatPollResponse) :
    Thread Unit := do
  let receivedDecryptedMessage ←
    decryptLoop w keyString pollRspns (List.range' 0 pollRspns.msgList.length) []
  let msg ← getMsgList pollRspns 0
  if msg.sender ≠ originalUser then throw .returned
  else catchSQLException do
    execute w (.messages receivedDecryptedMessage)
    let msg ← getMsgList pollRspns 0
    let senders ← executeQuery (external fun i => w.selectUserId i msg.sender)
    let msg ← getMsgList pollRspns 0
    let receivers ← executeQuery (external fun i => w.selectUserId i msg.receiver)
    let messages ← executeQuery (external fun i => w.selectMessageId i receivedDecryptedMessage)
    let msg ← getMsgList pollRspns 0
    execute w (.transactions (lastString [] senders) (lastString [] receivers)
      (lastString [] messages) (seconds msg.time))

def announcedCount (payload : Str) : BitVec 32 := intAt payload (stringEnd payload 0 + 8)

def IndexesInside (w : World) (originalUser keyString : Str) (pollRspns : SPChatPollResponse)
    (c : Conn) : Prop :=
  ∀ c', (receiveByIndex w originalUser keyString pollRspns).run c ≠ .error .undefined c'

def receivedText (w : World) (keyString : Str) (pollRspns : SPChatPollResponse) : Str :=
  pollRspns.msgList.foldl (fun message msg => message ++ w.aesDecrypt msg.message keyString ivString) []

inductive Received (w : World) (originalUser keyString : Str) (pollRspns : SPChatPollResponse)
    (c : Conn) : EStateM.Result Stop Conn Unit → Prop
  | undefined (hlist : pollRspns.msgList = []) :
      Received w originalUser keyString pollRspns c (.error .undefined c)
  | returned {first : SPChatMsgMessage} (hfirst : pollRspns.msgList.head? = some first)
      (hsender : first.sender ≠ originalUser) :
      Received w originalUser keyString pollRspns c (.error .returned c)
  | stored {first : SPChatMsgMessage} (hfirst : pollRspns.msgList.head? = some first)
      (hsender : first.sender = originalUser) {r : EStateM.Result Stop Conn Unit}
      (h : StoreOutcome w first (receivedText w keyString pollRspns) c r) :
      Received w originalUser keyString pollRspns c (.ok () (after r))

def PutIn (w : World) (keyString : Str) (msg : SPChatMsgMessage) (text : Str) : Prop :=
  w.aesDecrypt msg.message keyString ivString <:+: text

-- `c` is the connection before the handler and `r` how the handler ends
structure OwnReceivers (w : World) (originalUser keyString : Str) (pollRspns : SPChatPollResponse)
    (c : Conn) (r : EStateM.Result Stop Conn Unit) : Prop where
  placed : ∀ new, (after r).events = c.events ++ new → ∀ msg ∈ pollRspns.msgList, ∀ text,
    .executed (.messages text) ∈ new → PutIn w keyString msg text →
      ∀ sender_id received_id message_id time,
        .executed (.transactions sender_id received_id message_id time) ∈ new →
          sender_id = userId w (c.calls + 1) msg.sender ∧
            received_id = userId w (c.calls + 2) msg.receiver
  closed : (∃ msg ∈ pollRspns.msgList, msg.sender ≠ originalUser) →
    ∃ c', r = .error .returned c' ∧ c'.events = c.events

def AllOrNothing (c : Conn) (r : EStateM.Result Stop Conn Unit) : Prop :=
  ∀ new, (after r).events = c.events ++ new →
    (∀ sender_id received_id message_id time,
      .executed (.transactions sender_id received_id message_id time) ∉ new) →
        stored (after r).events = stored c.events

theorem getMsgList_some {pollRspns : SPChatPollResponse} {i : Nat} {msg : SPChatMsgMessage}
    (h : pollRspns.msgList[i]? = some msg) : getMsgList pollRspns i = pure msg := by
  rw [getMsgList, h]

theorem decryptLoop_pure (w : World) (keyString : Str) (pollRspns : SPChatPollResponse)
    {before msgs : List SPChatMsgMessage} (h : pollRspns.msgList = before ++ msgs) (text : Str) :
    decryptLoop w keyString pollRspns (List.range' before.length msgs.length) text =
      pure (msgs.foldl (fun message msg => message ++ w.aesDecrypt msg.message keyString ivString)
        text) := by
  induction msgs generalizing before text with
  | nil => rfl
  | cons msg msgs ih =>
    have hread : pollRspns.msgList[before.length]? = some msg := by
      rw [h, List.getElem?_append_right (Nat.le_refl _), Nat.sub_self, List.getElem?_cons_zero]
    have hsplit : pollRspns.msgList = (before ++ [msg]) ++ msgs := by
      rw [h, List.append_assoc, List.singleton_append]
    have hrest := ih hsplit (text ++ w.aesDecrypt msg.message keyString ivString)
    rw [List.length_append, List.length_singleton] at hrest
    rw [List.length_cons, List.range'_succ, decryptLoop, getMsgList_some hread, pure_bind, hrest,
      List.foldl_cons]

theorem receiveByIndex_eq (w : World) (originalUser keyString : Str) (pollRspns : SPChatPollResponse) :
    receiveByIndex w originalUser keyString pollRspns =
      receivePollResponse w originalUser keyString pollRspns := by
  have hloop := decryptLoop_pure w keyString pollRspns (List.nil_append _).symm []
  rw [List.length_nil] at hloop
  rw [receiveByIndex, hloop, pure_bind, receivePollResponse, Body.receivePollResponse]
  cases hlist : pollRspns.msgList with
  | nil =>
    have hnone : getMsgList pollRspns 0 = throw .undefined := by
      rw [getMsgList, hlist]
      rfl
    rw [hnone]
    rfl
  | cons first rest =>
    have hfirst : getMsgList pollRspns 0 = pure first := by
      apply getMsgList_some
      rw [hlist, List.getElem?_cons_zero]
    simp only [hfirst, pure_bind]
    rfl

theorem caught_stored {w : World} {first : SPChatMsgMessage} {text : Str} {c : Conn}
    {r : EStateM.Result Stop Conn Unit} (h : StoreOutcome w first text c r) {m : Thread Unit}
    (hrun : m.run c = r) : (catchSQLException m).run c = .ok () (after r) := by
  cases h with
  | refused _ => rw [catchSQLException_error hrun, if_pos rfl, after]
  | orphaned _ _ => rw [catchSQLException_error hrun, if_pos rfl, after]
  | completed _ _ => rw [catchSQLException_ok hrun, after]

theorem handle_received (w : World) (originalUser keyString : Str) (pollRspns : SPChatPollResponse)
    (c : Conn) : Received w originalUser keyString pollRspns c
      ((handle w originalUser keyString (.pollResponse pollRspns)).run c) := by
  have houtcome := fun first => storeMessage_outcome w first (receivedText w keyString pollRspns) c
  rw [handle, Body.handle, Body.receivePollResponse]
  cases hlist : pollRspns.msgList with
  | nil => exact .undefined hlist
  | cons first rest =>
    have hfirst : pollRspns.msgList.head? = some first := by rw [hlist, List.head?_cons]
    by_cases hsender : first.sender = originalUser
    · have hcaught := caught_stored (houtcome first) rfl
      rw [receivedText, hlist] at hcaught
      dsimp only
      rw [if_neg (not_not.mpr hsender), hcaught]
      rw [← hlist]
      exact .stored hfirst hsender (houtcome first)
    · dsimp only
      rw [if_pos hsender]
      exact .returned hfirst hsender

theorem indexesInside_iff {w : World} {originalUser keyString : Str} {pollRspns : SPChatPollResponse}
    {c : Conn} : IndexesInside w originalUser keyString pollRspns c ↔ pollRspns.msgList ≠ [] := by
  have hreceived : Received w originalUser keyString pollRspns c
      ((receivePollResponse w originalUser keyString pollRspns).run c) :=
    handle_received w originalUser keyString pollRspns c
  rw [← receiveByIndex_eq] at hreceived
  constructor
  · intro hinside hlist
    refine hinside c ?_
    rw [receiveByIndex_eq, receivePollResponse, Body.receivePollResponse, hlist]
    rfl
  · intro hlist c' hrun
    rw [hrun] at hreceived
    cases hreceived with
    | undefined hnil => exact hlist hnil

theorem decode_run_eq_ok {w : World} {c c' : Conn} {m : SPChatMessage}
    (h : (decode w).run c = .ok m c') :
    ∃ p, (SPChatMessage.decode w.host (w.garbage c.calls)).run ⟨c.sock, []⟩ = .ok m p := by
  unfold decode at h
  rw [bind_ok (external_run _ c), bind_ok (run_get _)] at h
  split at h
  · rename_i hdecode
    rw [bind_ok (run_set _ _)] at h
    obtain ⟨_, c₁, hrecord, h⟩ := bind_eq_ok.mp h
    cases h
    exact ⟨_, hdecode⟩
  · obtain ⟨_, c₁, hset, h⟩ := bind_eq_ok.mp h
    cases h

theorem announcedCount_accepted {w : World} {c c' : Conn} {payload rest : Str}
    {m : SPChatPollResponse} (hlen : payload.length < 2 ^ 31)
    (hp : c.sock.pending = frameHeader SPChatPollResponse.SPCHATPOLLRESPONSE_TYPE
      (BitVec.ofNat 64 payload.length) ++ (payload ++ rest))
    (hdecode : (decode w).run c = .ok (.pollResponse m) c') :
    m.msgList.length = (announcedCount payload).toInt.toNat := by
  obtain ⟨p, hrun⟩ := decode_run_eq_ok hdecode
  obtain ⟨taken, hsplit, hshort, hsame, _, hm⟩ := decode_eq_ok (p := ⟨c.sock, []⟩) hp hrun
  have hcount := congrArg BitVec.toNat hsame
  rw [BitVec.toNat_ofNat, BitVec.toNat_ofNat] at hcount
  obtain ⟨rfl, _⟩ := List.append_inj hsplit (by omega)
  cases hm with
  | pollResponse _ _ hcount hp => rw [announcedCount, (announced_end hlen hp).1, hcount]

theorem msgList_indexed_iff {w : World} {c c' : Conn} {payload rest : Str} {m : SPChatPollResponse}
    (hlen : payload.length < 2 ^ 31)
    (hp : c.sock.pending = frameHeader SPChatPollResponse.SPCHATPOLLRESPONSE_TYPE
      (BitVec.ofNat 64 payload.length) ++ (payload ++ rest))
    (hdecode : (decode w).run c = .ok (.pollResponse m) c') (originalUser keyString : Str) :
    IndexesInside w originalUser keyString m c' ↔ 0 < (announcedCount payload).toInt := by
  have hcount := announcedCount_accepted hlen hp hdecode
  rw [indexesInside_iff, ← List.length_pos_iff, hcount]
  omega

def fromBob (receiver text : Str) : SPChatMsgMessage :=
  ⟨ascii "bob", receiver, text, 2#64, 1#32, 1#32, 5000#64⟩

def bobSends (msgs : List SPChatMsgMessage) : SPChatPollResponse := ⟨ascii "bob", msgs, 1#32, 1#32⟩

theorem fromBob_wellFormed {receiver : Str} (h : validUsername receiver = true) (text : Str) :
    (fromBob receiver text).WellFormed :=
  ⟨show validUsername (ascii "bob") = true by decide, h, show (2 : Int) ≤ 500 by decide,
    show (0 : Int) ≤ 1 by decide, show (0 : Int) ≤ 5000 by decide⟩

theorem bobSends_received {msgs : List SPChatMsgMessage} (hm : ∀ msg ∈ msgs, msg.WellFormed)
    (hlen : (bobSends msgs).getPayloadLength < 2 ^ 31) :
    ∃ c', (decode World.quiet).run
      ⟨⟨(SPChatMessage.pollResponse (bobSends msgs)).encode littleEndianHost, []⟩, 0, []⟩ =
        .ok (.pollResponse (bobSends msgs)) c' := by
  have hwell : (bobSends msgs).WellFormed :=
    ⟨show validUsername (ascii "bob") = true by decide, show (0 : Int) ≤ 1 by decide,
      show (0 : Int) ≤ 1 by decide, hm⟩
  obtain ⟨sock, _, _, hrun⟩ := receive_message (w := World.quiet) (m := .pollResponse (bobSends msgs))
    (c := ⟨⟨(SPChatMessage.pollResponse (bobSends msgs)).encode littleEndianHost, []⟩, 0, []⟩)
    (by simp [Stream.Live]) (.pollResponse hwell) (fun _ _ => Int.le_refl 0) hlen
    (List.append_nil _).symm
  exact ⟨_, hrun⟩

theorem one_entry_indexed :
    ∃ c', IndexesInside World.quiet (ascii "bob") [] (bobSends [fromBob (ascii "amy") (ascii "hi")]) c' := by
  have hwell := fromBob_wellFormed (show validUsername (ascii "amy") = true by decide) (ascii "hi")
  obtain ⟨c', hrun⟩ := bobSends_received (List.forall_mem_singleton.mpr hwell) (by decide)
  have hframe : (SPChatMessage.pollResponse
      (bobSends [fromBob (ascii "amy") (ascii "hi")])).encode littleEndianHost =
        frameHeader SPChatPollResponse.SPCHATPOLLRESPONSE_TYPE (BitVec.ofNat 64
          ((bobSends [fromBob (ascii "amy") (ascii "hi")]).encodeMiddle littleEndianHost).length) ++
        ((bobSends [fromBob (ascii "amy") (ascii "hi")]).encodeMiddle littleEndianHost ++ []) := by
    decide
  exact ⟨c', (msgList_indexed_iff (by decide) hframe hrun (ascii "bob") []).mpr (by decide)⟩

theorem empty_list_indexed :
    ∃ c', (decode World.quiet).run
        ⟨⟨(SPChatMessage.pollResponse (bobSends [])).encode littleEndianHost, []⟩, 0, []⟩ =
          .ok (.pollResponse (bobSends [])) c' ∧
      ¬ IndexesInside World.quiet (ascii "bob") [] (bobSends []) c' := by
  obtain ⟨c', hrun⟩ := @bobSends_received [] (by simp) (by decide)
  exact ⟨c', hrun, fun hinside => indexesInside_iff.mp hinside rfl⟩

def eveUnknown : World := { World.quiet with
  aesDecrypt := fun message _ _ => message
  selectUserId := fun _ email => ⟨if email = ascii "eve" then [] else [email], false⟩
  executeFails := fun call => call == 4 }

theorem orphan_left : ¬ AllOrNothing ⟨⟨[], []⟩, 0, []⟩
    ((handle eveUnknown (ascii "bob") [] (.pollResponse
      (bobSends [fromBob (ascii "eve") (ascii "hi")]))).run ⟨⟨[], []⟩, 0, []⟩) := by
  intro h
  have hsame := h [.executed (.messages (ascii "hi"))] (by decide) (by simp)
  exact absurd hsame (by decide)

def everyoneKnown : World := { World.quiet with
  aesDecrypt := fun message _ _ => message
  selectUserId := fun _ email => ⟨[email], false⟩ }

theorem amy_reads_eves_text : ¬ OwnReceivers everyoneKnown (ascii "bob") []
    (bobSends [fromBob (ascii "amy") (ascii "hi"), fromBob (ascii "eve") (ascii "yo")])
    ⟨⟨[], []⟩, 0, []⟩ ((handle everyoneKnown (ascii "bob") [] (.pollResponse
      (bobSends [fromBob (ascii "amy") (ascii "hi"), fromBob (ascii "eve") (ascii "yo")]))).run
        ⟨⟨[], []⟩, 0, []⟩) := by
  intro h
  have hplaced := h.placed [.executed (.messages (ascii "hiyo")),
    .executed (.transactions (ascii "bob") (ascii "amy") [] (ascii "5"))] (by decide)
    (fromBob (ascii "eve") (ascii "yo")) (by simp [bobSends]) (ascii "hiyo") (by simp)
    ⟨ascii "hi", [], rfl⟩ (ascii "bob") (ascii "amy") [] (ascii "5") (by simp)
  exact absurd hplaced.2 (by decide)

theorem forall_first {msgs : List SPChatMsgMessage} {originalUser : Str} {first : SPChatMsgMessage}
    (hfirst : msgs.head? = some first) (hsender : first.sender = originalUser)
    {P : SPChatMsgMessage → Prop} :
    (∀ f, msgs.head? = some f → f.sender = originalUser → P f) ↔ P first := by
  refine ⟨fun hall => hall first hfirst hsender, fun hP f hf _ => ?_⟩
  rw [hfirst] at hf
  cases hf
  exact hP

theorem putIn_received (w : World) (keyString : Str) {pollRspns : SPChatPollResponse}
    {msg : SPChatMsgMessage} (hmsg : msg ∈ pollRspns.msgList) :
    PutIn w keyString msg (receivedText w keyString pollRspns) := by
  obtain ⟨before, rest, hsplit⟩ := List.append_of_mem hmsg
  rw [PutIn, receivedText, ← List.flatMap_eq_foldl, hsplit, List.flatMap_append, List.flatMap_cons]
  exact ⟨_, _, List.append_assoc _ _ _⟩

theorem stored_extends {w : World} {first : SPChatMsgMessage} {text : Str} {c : Conn}
    {r : EStateM.Result Stop Conn Unit} (h : StoreOutcome w first text c r) :
    ∃ new, (after r).events = c.events ++ new := by
  cases h with
  | refused _ => exact ⟨[], (List.append_nil _).symm⟩
  | orphaned _ _ => exact ⟨_, rfl⟩
  | completed _ _ => exact ⟨_, rfl⟩

theorem text_stored_iff {w : World} {first : SPChatMsgMessage} {text : Str} {c : Conn}
    {r : EStateM.Result Stop Conn Unit} (h : StoreOutcome w first text c r) {new : List Event}
    (hnew : (after r).events = c.events ++ new) :
    .executed (.messages text) ∈ new ↔ w.executeFails c.calls = false := by
  cases h with
  | refused hinsert =>
    obtain rfl := List.self_eq_append_right.mp hnew
    simp [hinsert]
  | orphaned hinsert _ =>
    obtain rfl := List.append_cancel_left hnew
    simp [hinsert]
  | completed hinsert _ =>
    obtain rfl := List.append_cancel_left hnew
    simp [hinsert]

theorem transaction_stored_iff {w : World} {first : SPChatMsgMessage} {text : Str} {c : Conn}
    {r : EStateM.Result Stop Conn Unit} (h : StoreOutcome w first text c r) {new : List Event}
    (hnew : (after r).events = c.events ++ new) {sender_id received_id message_id time : Str} :
    .executed (.transactions sender_id received_id message_id time) ∈ new ↔
      w.executeFails c.calls = false ∧ laterFails w first text c.calls = false ∧
        .transactions sender_id received_id message_id time = transaction w first text c.calls := by
  cases h with
  | refused hinsert =>
    obtain rfl := List.self_eq_append_right.mp hnew
    simp [hinsert]
  | orphaned _ hlater =>
    obtain rfl := List.append_cancel_left hnew
    simp [hlater]
  | completed hinsert hlater =>
    obtain rfl := List.append_cancel_left hnew
    simp [hinsert, hlater]

theorem stored_closed_iff {pollRspns : SPChatPollResponse} {originalUser : Str} {c c' : Conn} :
    ((∃ msg ∈ pollRspns.msgList, msg.sender ≠ originalUser) →
        ∃ c'', EStateM.Result.ok () c' = .error Stop.returned c'' ∧ c''.events = c.events) ↔
      ∀ msg ∈ pollRspns.msgList, msg.sender = originalUser := by
  constructor
  · intro hclosed msg hmem
    by_contra hne
    obtain ⟨_, hr, _⟩ := hclosed ⟨msg, hmem, hne⟩
    cases hr
  · rintro hall ⟨msg, hmem, hne⟩
    exact absurd (hall msg hmem) hne

theorem all_or_nothing_iff (w : World) (originalUser keyString : Str) (pollRspns : SPChatPollResponse)
    (c : Conn) :
    AllOrNothing c ((handle w originalUser keyString (.pollResponse pollRspns)).run c) ↔
      ∀ first, pollRspns.msgList.head? = some first → first.sender = originalUser →
        w.executeFails c.calls = true ∨
          laterFails w first (receivedText w keyString pollRspns) c.calls = false := by
  have hreceived := handle_received w originalUser keyString pollRspns c
  generalize (handle w originalUser keyString (.pollResponse pollRspns)).run c = r at hreceived
  cases hreceived with
  | undefined hlist =>
    refine iff_of_true (fun _ _ _ => rfl) fun first hfirst => ?_
    rw [hlist] at hfirst
    cases hfirst
  | returned hfirst hsender =>
    refine iff_of_true (fun _ _ _ => rfl) fun first hfirst' hsender' => ?_
    rw [hfirst] at hfirst'
    cases hfirst'
    exact absurd hsender' hsender
  | @stored first hfirst hsender r h =>
    rw [forall_first hfirst hsender]
    cases h with
    | refused hinsert => exact iff_of_true (fun _ _ _ => rfl) (.inl hinsert)
    | orphaned hinsert hlater =>
      refine iff_of_false (fun hall => ?_) ?_
      · have hsame := hall _ rfl (by simp)
        rw [after, after, stored_append] at hsame
        exact absurd (List.append_right_eq_self.mp hsame) (by simp [stored])
      · rw [hinsert, hlater]
        simp
    | completed hinsert hlater =>
      refine iff_of_true (fun new hnew hnone => ?_) (.inr hlater)
      obtain rfl := List.append_cancel_left hnew
      exact absurd (List.mem_cons_of_mem _ List.mem_cons_self) (hnone _ _ _ _)

theorem own_receivers_iff (w : World) (originalUser keyString : Str) (pollRspns : SPChatPollResponse)
    (c : Conn) :
    OwnReceivers w originalUser keyString pollRspns c
        ((handle w originalUser keyString (.pollResponse pollRspns)).run c) ↔
      ∀ first, pollRspns.msgList.head? = some first → first.sender = originalUser →
        (∀ msg ∈ pollRspns.msgList, msg.sender = originalUser) ∧
          (w.executeFails c.calls = false →
            laterFails w first (receivedText w keyString pollRspns) c.calls = false →
              ∀ msg ∈ pollRspns.msgList,
                userId w (c.calls + 2) msg.receiver = userId w (c.calls + 2) first.receiver) := by
  have hreceived := handle_received w originalUser keyString pollRspns c
  generalize (handle w originalUser keyString (.pollResponse pollRspns)).run c = r at hreceived
  cases hreceived with
  | undefined hlist =>
    refine iff_of_true ⟨?_, ?_⟩ ?_
    · rw [hlist]
      nofun
    · rw [hlist]
      rintro ⟨_, hmem, _⟩
      cases hmem
    · rw [hlist]
      nofun
  | returned hfirst hsender =>
    refine iff_of_true ⟨fun new hnew => ?_, fun _ => ⟨c, rfl, rfl⟩⟩ fun first hfirst' hsender' => ?_
    · obtain rfl := List.self_eq_append_right.mp hnew
      nofun
    · rw [hfirst] at hfirst'
      cases hfirst'
      exact absurd hsender' hsender
  | @stored first hfirst hsender r h =>
    rw [forall_first hfirst hsender]
    constructor
    · intro hown
      refine ⟨stored_closed_iff.mp hown.closed, fun hinsert hlater msg hmem => ?_⟩
      obtain ⟨new, hnew⟩ := stored_extends h
      have hplaced := hown.placed new hnew msg hmem _ ((text_stored_iff h hnew).mpr hinsert)
        (putIn_received w keyString hmem) _ _ _ _
        ((transaction_stored_iff h hnew).mpr ⟨hinsert, hlater, rfl⟩)
      exact hplaced.2.symm
    · rintro ⟨hall, hsame⟩
      refine ⟨?_, stored_closed_iff.mpr hall⟩
      intro new hnew msg hmem text _ _ sender_id received_id message_id time hwritten
      obtain ⟨hinsert, hlater, htransaction⟩ := (transaction_stored_iff h hnew).mp hwritten
      cases htransaction
      exact ⟨by rw [hall msg hmem, hsender], (hsame hinsert hlater msg hmem).symm⟩

end Server
