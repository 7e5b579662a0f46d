import BabbleOn.Server.Connection
import BabbleOn.Server.SPChatStream

namespace Server
open Execution PartialMemory SegmentedStream

section Frames

variable {w : World} {c : Conn} {m : SPChatMessage} {rest : Str}

theorem decode_run_ok {p : Process}
    (hrun : (SPChatMessage.decode w.host (w.garbage c.calls)).run ⟨c.sock, []⟩ = .ok m p) :
    (decode w).run c = .ok m ⟨p.sock, c.calls + 1, c.events ++ [.received m]⟩ := by
  unfold decode
  rw [bind_ok (external_run _ c), bind_ok (run_get _)]
  dsimp only
  rw [hrun]
  rfl

theorem receive_frame {t : Byte} {payload : Str} (hlive : c.sock.Live)
    (hp : c.sock.pending = frameHeader t (BitVec.ofNat 64 payload.length) ++ (payload ++ rest))
    (hlen : payload.length < 2 ^ 31)
    (hm : payloadConstructor w.host (w.garbage c.calls) t (ofList payload) payload.length =
      some (.ok m)) :
    ∃ sock : Stream Byte, sock.Live ∧ sock.pending = rest ∧
      (decode w).run c = .ok m ⟨sock, c.calls + 1, c.events ++ [.received m]⟩ := by
  obtain ⟨p, hlive', hrest, hrun⟩ := decode_frame w.host (w.garbage c.calls)
    (p := ⟨c.sock, []⟩) hlive hp hlen hm
  exact ⟨p.sock, hlive', hrest, decode_run_ok hrun⟩

theorem receive_message (hlive : c.sock.Live) (hm : Deliverable m)
    (hg : TimesSettled (w.garbage c.calls) m) (hlen : m.getPayloadLength < 2 ^ 31)
    (hp : c.sock.pending = m.encode littleEndianHost ++ rest) :
    ∃ sock : Stream Byte, sock.Live ∧ sock.pending = rest ∧
      (decode w).run c = .ok m ⟨sock, c.calls + 1, c.events ++ [.received m]⟩ := by
  obtain ⟨p, hlive', hrest, hrun⟩ := decode_encode w.host hm hg hlen (p := ⟨c.sock, []⟩) hlive hp
  exact ⟨p.sock, hlive', hrest, decode_run_ok hrun⟩

end Frames

-- the login that carries the encrypted key, as a peer writes it
def keyFrame (m : SPChatLogin) : Str :=
  frameHeader SPChatLogin.SPCHATLOGIN_TYPE
      (BitVec.ofNat 64 (m.layout littleEndianHost).length) ++ m.layout littleEndianHost

theorem receive_key {w : World} {c : Conn} {m : SPChatLogin} {rest : Str} (hlive : c.sock.Live)
    (hm : m.WellFormed) (hlen : (m.layout littleEndianHost).length < 2 ^ 31)
    (hp : c.sock.pending = keyFrame m ++ rest) :
    ∃ sock : Stream Byte, sock.Live ∧ sock.pending = rest ∧
      (decode w).run c = .ok (.login m) ⟨sock, c.calls + 1, c.events ++ [.received (.login m)]⟩ := by
  rw [keyFrame, List.append_assoc] at hp
  refine receive_frame hlive hp hlen ?_
  exact congrArg (fun r => some (Except.map SPChatMessage.login r))
    (SPChatLogin.ofBuffer_layout hm (spans_ofList _) hlen rfl)

theorem checkPassword_accepts {w : World} (hsend : ∀ i, w.sendFails i = false)
    {challenge : Fin 8 → Byte} {username pw : Str} {response : SPChatResponse} {c : Conn}
    (hpw : (w.selectPassword c.calls username).rows.getLast? = some pw) (hne : pw ≠ [])
    (hhash : response.hash = hex (w.SHA256 (List.ofFn challenge ++ response.nonce ++ pw))) :
    (checkPassword w challenge username response).run c =
      .ok () ⟨c.sock, c.calls + 2, c.events ++ [.sent (.ack ⟨.SERVER, .PASSWORD_AUTH⟩)]⟩ := by
  rw [checkPassword_run hpw hne, if_pos hhash]
  exact sendACK_ok (hsend _) _

theorem authenticate_run {w : World} (hsend : ∀ i, w.sendFails i = false) {c : Conn}
    (hlive : c.sock.Live) {login : SPChatLogin} (hlogin : Deliverable (.login login))
    (hlen : login.getPayloadLength < 2 ^ 31) {response : SPChatResponse} (hresponse : response.WellFormed)
    (hlen' : response.getPayloadLength < 2 ^ 31) {rest : Str}
    (hp : c.sock.pending = (SPChatMessage.login login).encode littleEndianHost ++
      ((SPChatMessage.response response).encode littleEndianHost ++ rest)) {pw : Str}
    (hpw : (w.selectPassword (c.calls + 4) login.username).rows.getLast? = some pw) (hne : pw ≠ [])
    (hhash : response.hash =
      hex (w.SHA256 (List.ofFn (w.RAND_bytes (c.calls + 1)) ++ response.nonce ++ pw))) :
    ∃ sock : Stream Byte, sock.Live ∧ sock.pending = rest ∧
      (authenticate w).run c = .ok login.username ⟨sock, c.calls + 6, c.events ++
        [.received (.login login), .sent (.challenge ⟨List.ofFn (w.RAND_bytes (c.calls + 1))⟩),
          .received (.response response), .sent (.ack ⟨.SERVER, .PASSWORD_AUTH⟩)]⟩ := by
  obtain ⟨sock₁, hlive₁, hrest₁, hdecode₁⟩ := receive_message (w := w) hlive hlogin trivial hlen hp
  have hchallenge := SPChatChallenge.new_ok
    (show (List.ofFn (w.RAND_bytes (c.calls + 1))).length = 8 from List.length_ofFn)
  have hsent := send_ok (w := w)
    (c := ⟨sock₁, c.calls + 2, c.events ++ [.received (.login login)]⟩) (hsend _)
    (.challenge ⟨List.ofFn (w.RAND_bytes (c.calls + 1))⟩)
  obtain ⟨sock₂, hlive₂, hrest₂, hdecode₂⟩ := receive_message (w := w)
    (c := ⟨sock₁, c.calls + 3, c.events ++ [.received (.login login)] ++
      [.sent (.challenge ⟨List.ofFn (w.RAND_bytes (c.calls + 1))⟩)]⟩)
    hlive₁ (.response hresponse) trivial hlen' hrest₁
  have hchecked := checkPassword_accepts (w := w)
    (c := ⟨sock₂, c.calls + 4, c.events ++ [.received (.login login)] ++
      [.sent (.challenge ⟨List.ofFn (w.RAND_bytes (c.calls + 1))⟩)] ++
        [.received (.response response)]⟩) hsend hpw hne hhash
  refine ⟨sock₂, hlive₂, hrest₂, ?_⟩
  unfold authenticate Body.authenticate
  dsimp only [answer]
  rw [bind_ok hdecode₁]
  dsimp only
  rw [bind_ok (external_run _ _), bind_ok (built_ok hchallenge _), bind_ok hsent, bind_ok hdecode₂]
  dsimp only
  rw [bind_ok hchecked, run_pure]
  simp only [List.append_assoc, List.cons_append, List.nil_append]

theorem exchangeKeys_run {w : World} (hsend : ∀ i, w.sendFails i = false) {c : Conn}
    (hlive : c.sock.Live) {login : SPChatLogin} (hlogin : Deliverable (.login login))
    (hlen : login.getPayloadLength < 2 ^ 31) {server2Client : SPChatLogin}
    (hkey : SPChatLogin.new [] SPChatLogin.ASYMMETRIC_KEY (w.PEM_Save ++ [0#8])
      (BitVec.ofNat 32 SPChatLogin.ASYMMETRIC_LENGTH) = .ok server2Client)
    {loginNew : SPChatLogin} (hnew : loginNew.WellFormed)
    (hlen' : (loginNew.layout littleEndianHost).length < 2 ^ 31) {rest : Str}
    (hp : c.sock.pending =
      (SPChatMessage.login login).encode littleEndianHost ++ (keyFrame loginNew ++ rest))
    {key : Str} (hdecrypted : w.decryptor loginNew.encSymKey = some key) (hsize : key.length = keysize) :
    ∃ sock : Stream Byte, sock.Live ∧ sock.pending = rest ∧
      (exchangeKeys w).run c = .ok key ⟨sock, c.calls + 4, c.events ++
        [.received (.login login), .sent (.login server2Client), .received (.login loginNew),
          .sent (.ack ⟨.SERVER, .SUCCESS⟩)]⟩ := by
  obtain ⟨sock₁, hlive₁, hrest₁, hdecode₁⟩ := receive_message (w := w) hlive hlogin trivial hlen hp
  have hsent := send_ok (w := w)
    (c := ⟨sock₁, c.calls + 1, c.events ++ [.received (.login login)]⟩) (hsend _) (.login server2Client)
  obtain ⟨sock₂, hlive₂, hrest₂, hdecode₂⟩ := receive_key (w := w)
    (c := ⟨sock₁, c.calls + 2, c.events ++ [.received (.login login)] ++
      [.sent (.login server2Client)]⟩) hlive₁ hnew hlen' hrest₁
  refine ⟨sock₂, hlive₂, hrest₂, ?_⟩
  unfold exchangeKeys Body.exchangeKeys
  dsimp only [answer]
  rw [bind_ok hdecode₁]
  dsimp only
  rw [bind_ok (built_ok hkey _), bind_ok hsent, bind_ok hdecode₂]
  dsimp only
  rw [hdecrypted]
  dsimp only
  rw [if_pos hsize, bind_ok (sendACK_ok (hsend _) _), run_pure]
  simp only [List.append_assoc, List.cons_append, List.nil_append]

end Server
