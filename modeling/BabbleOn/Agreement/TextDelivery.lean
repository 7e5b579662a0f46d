import BabbleOn.Client.OutgoingMessage
import BabbleOn.Server.MessageDelivery

namespace Agreement
open Execution Client BabbleOnClient Server

section Delivery

variable {w : World} {originalUser keyString : Str} {newPoll : SPChatPoll}

theorem answers_all_iff (hsend : ∀ i, w.sendFails i = false) (hpoll : newPoll.WellFormed)
    (huser : newPoll.username = originalUser) (htime : 0 ≤ newPoll.time.toInt) {conn : Conn}
    {rows : List Row}
    (hrows : (w.selectMessages conn.calls (seconds newPoll.time) newPoll.username).rows = rows)
    (hlen : ∀ row ∈ rows, row.text.length < 2 ^ 63) :
    AnswersAll w originalUser keyString newPoll rows conn ↔
      ∀ j row, rows[j]? = some row → Answerable row (w.objectTime (conn.calls + 1 + 2 * j)) := by
  have hrun := @answerPoll_run w originalUser keyString newPoll huser htime conn
  rw [hrows] at hrun
  constructor
  · rintro ⟨conn', hok, _⟩
    rw [hrun] at hok
    exact ((sendRows_eq_ok hsend hpoll htime hlen).mp hok).1
  · intro hall
    exact ⟨_, hrun.trans ((sendRows_eq_ok hsend hpoll htime hlen).mpr ⟨hall, rfl⟩), rfl⟩

def storedBy (rows : List Row) : World :=
  { World.quiet with selectMessages := fun _ _ _ => ⟨rows, false⟩ }

def amyPolls : SPChatPoll := ⟨ascii "amy", 5000#64⟩

def rowFromBob (text : JavaString) : Row := ⟨getBytes text, ascii "amy", ascii "bob", []⟩

theorem amyPolls_wellFormed : amyPolls.WellFormed := show validUsername (ascii "amy") = true by decide

theorem amyPolls_time : 0 ≤ amyPolls.time.toInt := by decide

theorem hi_answerable {text : JavaString} (h : (getBytes text).length ≤ 500) :
    Answerable (rowFromBob text) 0#64 :=
  ⟨h, show validUsername (ascii "bob") = true by decide, Int.le_refl 0⟩

theorem both_answered : AnswersAll (storedBy [rowFromBob (java "hi"), rowFromBob (java "hello")])
    (ascii "amy") (ascii "0123456789abcdef") amyPolls
    [rowFromBob (java "hi"), rowFromBob (java "hello")] ⟨⟨[], []⟩, 0, []⟩ := by
  have hshort : ∀ row ∈ [rowFromBob (java "hi"), rowFromBob (java "hello")], row.text.length < 2 ^ 63 := by
    decide
  refine (answers_all_iff (fun _ => rfl) amyPolls_wellFormed rfl amyPolls_time rfl hshort).mpr ?_
  rintro (_ | _ | j) row hrow
  · cases hrow
    exact hi_answerable (by decide)
  · cases hrow
    exact hi_answerable (by decide)
  · cases hrow

end Delivery

def longText : JavaString := List.replicate 501 97#16

theorem longText_bytes : (getBytes longText).length = 501 := by
  have hascii : IsAscii longText := fun x hx => by
    rw [List.eq_of_mem_replicate hx]
    decide
  rw [getBytes_length hascii, longText, List.length_replicate]

theorem long_text_blocks :
    (0 < longText.length ∧ longText.length < BabbleOnClient.MAX_MSG_LEN * BabbleOnClient.MAX_MSGS) ∧
      AnswersAll (storedBy [rowFromBob (java "hi")]) (ascii "amy") (ascii "0123456789abcdef") amyPolls
        [rowFromBob (java "hi")] ⟨⟨[], []⟩, 0, []⟩ ∧
      ¬ AnswersAll (storedBy [rowFromBob longText, rowFromBob (java "hi")]) (ascii "amy")
        (ascii "0123456789abcdef") amyPolls [rowFromBob longText, rowFromBob (java "hi")]
        ⟨⟨[], []⟩, 0, []⟩ := by
  have hhi : (rowFromBob (java "hi")).text.length < 2 ^ 63 := show 2 < 2 ^ 63 by decide
  have hlong : (rowFromBob longText).text.length = 501 := longText_bytes
  refine ⟨?_, ?_, ?_⟩
  · rw [longText, List.length_replicate]
    decide
  · refine ⟨_, (answerPoll_run rfl amyPolls_time _).trans ((sendRows_eq_ok (fun _ => rfl)
      amyPolls_wellFormed amyPolls_time (List.forall_mem_singleton.mpr hhi)).mpr ⟨?_, rfl⟩), rfl⟩
    rintro (_ | j) row hrow
    · cases hrow
      exact hi_answerable (by decide)
    · cases hrow
  · rintro ⟨conn', hok, _⟩
    replace hok := (answerPoll_run (show amyPolls.username = ascii "amy" from rfl) amyPolls_time
      _).symm.trans hok
    have hrows : ∀ row ∈ [rowFromBob longText, rowFromBob (java "hi")], row.text.length < 2 ^ 63 := by
      simpa [hlong] using hhi
    have hall := ((sendRows_eq_ok (fun _ => rfl) amyPolls_wellFormed amyPolls_time hrows).mp hok).1
    have htext := (hall 0 (rowFromBob longText) rfl).text
    rw [hlong] at htext
    exact absurd htext (by decide)

end Agreement
