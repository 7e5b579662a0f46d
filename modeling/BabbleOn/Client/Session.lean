import BabbleOn.Client.HandleChallenge

namespace Client
open Execution

variable {κ α : Type}

namespace Errors

def valueOf (error : String) : Except JavaThrow Errors :=
  match values.find? fun er => er.name == error with
  | some er => pure er
  | none => throw .illegalArgument

end Errors

namespace ACKMessage

def SERVER : BitVec 32 := 0#32
def CLIENT : BitVec 32 := 1#32

def getErr (m : ACKMessage) : Except JavaThrow Errors := Errors.valueOf m.error

end ACKMessage

structure PollThread where
  lastPollTime : BitVec 64
  serverConnected : Bool
  deriving DecidableEq, Repr

def PollThread.WAIT_TIME : BitVec 64 := 5000#64

inductive Written where
  | login (m : LoginMessage)
  | response (frame : Bytes)
  | poll (m : PollMessage)

-- the fields that the handlers use; `poller` is the place of its thread among those started
structure Session (κ : Type) where
  authenticated : Bool
  username : Option JavaString
  input : Option Bytes
  serverPubKey : Option Key
  localPublicKey : Option Key
  localPrivateKey : Option Key
  symmetricKey : Option Key
  cipherSymmetricIn : Option κ
  stream : Bytes
  out : Option (List Written)
  poller : Option Nat
  pollers : List PollThread
  hasExchangedKeys : Bool
  incomingMessageBox : JavaString
  shown : List String
  calls : Nat

-- what is outside the client; `none` is one of the exceptions that the callers log or wrap
structure Machine (κ : Type) where
  cipher : Cipher κ
  initDecrypt : Option Key → Option κ
  digest : Bytes → Bytes
  generateNonce : Nat → BitVec 64
  currentTimeMillis : Nat → BitVec 64
  decodeKey : JavaString → Except JavaThrow Key
  generatePublic : Key → Option Key
  wrap : Key → Key → Key → Option Bytes
  writeFails : Nat → Bool
  date : BitVec 64 → JavaString
  newline : JavaString

abbrev Handler (κ : Type) := EStateM JavaThrow (Session κ)

namespace Session

def SERVER_NAME : JavaString := []

def external (f : Nat → α) : Handler κ α := do
  let s ← get
  set { s with calls := s.calls + 1 }
  pure (f s.calls)

def reading (m : Input α) : Handler κ α := fun s =>
  match m.run s.stream with
  | .ok a rest => .ok a { s with stream := rest }
  | .error e rest => .error e { s with stream := rest }

def decrypting (m : EStateM JavaThrow (Reader κ) α) : Handler κ α := fun s =>
  match s.cipherSymmetricIn with
  | none => .error .nullPointer s
  | some k =>
    match m.run ⟨s.stream, k⟩ with
    | .ok a r => .ok a { s with stream := r.input, cipherSymmetricIn := some r.decrypt }
    | .error e r => .error e { s with stream := r.input, cipherSymmetricIn := some r.decrypt }

def showMessageDialog (message : String) : Handler κ Unit :=
  modify fun s => { s with shown := s.shown ++ [message] }

-- a `catch` of `BabbleException` that only logs
def logged (m : Handler κ Unit) : Handler κ Unit := fun s =>
  match m.run s with
  | .error (.babble _) s' => .ok () s'
  | r => r

def exiting (m : Handler κ Unit) : Handler κ Unit := fun s =>
  match m.run s with
  | .error (.babble _) s' => .error .exit s'
  | r => r

def orNull (a : Option α) : Handler κ α :=
  match a with
  | some a => pure a
  | none => throw .nullPointer

def encode (w : Machine κ) (message : Written) : Handler κ Unit := do
  let s ← get
  let out ← orNull s.out
  let fails ← external w.writeFails
  if fails then throw (.babble "MsgException: ")
  else modify fun s => { s with out := some (out ++ [message]) }

def encodeLogin (w : Machine κ) (m : LoginMessage) : Handler κ Unit := do
  let _ ← ofExcept m.encode
  encode w (.login m)

def setPanes (w : Machine κ) : Handler κ Unit := do
  showMessageDialog "Success! You typed the right password."
  let s ← get
  match w.initDecrypt s.symmetricKey with
  | none => throw (.babble "Problem establising panes ")
  | some k => set { s with cipherSymmetricIn := some k }

def sendPublicKey (w : Machine κ) : Handler κ Unit := do
  let s ← get
  if s.out.isSome then logged do
    let username ← orNull s.username
    let loginAttempt ← ofExcept (LoginMessage.new (BitVec.ofNat 32 username.length) (some username)
      .ASYMMETRIC s.localPublicKey)
    encodeLogin w loginAttempt

-- the other errors are only printed
def showError : Errors → Handler κ Unit
  | .INVALID_USERNAME_PASSWORD => showMessageDialog "Incorrect Username/Password"
  | .INVALID_RECIPIENT => showMessageDialog "Recipient name invalid, please try again"
  | _ => pure ()

def startPoller (w : Machine κ) : Handler κ Unit := do
  let now ← external w.currentTimeMillis
  modify fun s => { s with poller := some s.pollers.length, pollers := s.pollers ++ [⟨now, true⟩] }

def acceptPassword (w : Machine κ) : Handler κ Unit := do
  modify fun s => { s with authenticated := true }
  exiting (setPanes w)
  sendPublicKey w

def startPolling (w : Machine κ) (err : Errors) : Handler κ Unit := do
  let s ← get
  if .SUCCESS = err ∧ s.hasExchangedKeys = true then startPoller w

def answerACK (w : Machine κ) (ack : ACKMessage) : Handler κ Unit := do
  let err ← ofExcept ack.getErr
  let s ← get
  if s.authenticated = false ∧ .PASSWORD_AUTH = err ∧ ACKMessage.SERVER = ack.sender then
    acceptPassword w
  else if .SUCCESS ≠ err ∧ ACKMessage.SERVER = ack.sender then showError err
  else if ACKMessage.CLIENT = ack.sender then pure ()
  else do
    startPolling w err
    if .INVALID_RECIPIENT = err then
      showMessageDialog "Please enter a valid recipient username"

def handleACK (w : Machine κ) : Handler κ Bool := do
  let ack ← reading ACKMessage.ofStream
  answerACK w ack
  pure false

def sendResponse (w : Machine κ) (frame : Bytes) (input : Option Bytes) : Handler κ Unit :=
  if frame.isEmpty then showMessageDialog "Please enter Username and Password"
  else do
    encode w (.response frame)
    modify fun s => { s with input := input }

def answerChallenge (w : Machine κ) : Handler κ Unit := do
  let s ← get
  match s.username with
  | some username => do
    let nonce ← external w.generateNonce
    let (frame, input) ← reading (Client.handleChallenge w.digest username nonce s.input)
    sendResponse w frame input
  | none => do
    let _ ← reading ChallengeMessage.ofStream
    if (s.input.getD []).isEmpty then showMessageDialog "Please enter Username and Password"
    else throw .nullPointer

def handleChallenge (w : Machine κ) : Handler κ Bool := do
  answerChallenge w
  pure false

def readServerPublic (w : Machine κ) (loginResponse : LoginMessage) : Handler κ Unit :=
  if SERVER_NAME ≠ loginResponse.username then throw (.babble "Expected response from server")
  else do
    let publicKeyStr ← orNull loginResponse.publicKeyStr
    let key ← ofExcept (w.decodeKey publicKeyStr)
    match w.generatePublic key with
    | none => pure ()
    | some serverPubKey => modify fun s => { s with serverPubKey := some serverPubKey }

def sendSymmetricKey (w : Machine κ) : Handler κ Unit := do
  let s ← get
  match s.localPrivateKey, s.serverPubKey, s.out, s.symmetricKey with
  | some localPrivateKey, some serverPubKey, some _, some symmetricKey =>
    match w.wrap localPrivateKey serverPubKey symmetricKey with
    | none => pure ()
    | some encrypted => logged do
      let username ← orNull s.username
      let l ← ofExcept (LoginMessage.new (BitVec.ofNat 32 username.length) (some username)
        .SYMMETRIC none)
      encodeLogin w (l.setEncodedKey encrypted)
      modify fun s => { s with hasExchangedKeys := true }
  | _, _, _, _ => pure ()

def answerLogin (w : Machine κ) (login : LoginMessage) : Handler κ Unit :=
  if login.keyType = KeyType.ASYMMETRIC.ordinal then do
    readServerPublic w login
    sendSymmetricKey w
  else pure ()

def handleLogin (w : Machine κ) : Handler κ Bool := do
  let login ← reading (LoginMessage.ofStream w.decodeKey)
  answerLogin w login
  pure false

def createCipher (w : Machine κ) : Handler κ Unit := do
  let s ← get
  if s.cipherSymmetricIn.isNone then
    match w.initDecrypt s.symmetricKey with
    | none => throw (.babble "Problems with decrypt cipher: ")
    | some k => set { s with cipherSymmetricIn := some k }

def display (w : Machine κ) (username : Option JavaString) (resp : PollResponseMessage) : JavaString :=
  java "From: " ++ resp.username ++ w.newline ++ resp.newMessages.flatMap fun msg =>
    if some msg.receiverUsername = username ∧ msg.senderUsername = resp.username then
      msg.message ++ if msg.messageNumber = resp.messageListSize then
        w.newline ++ w.date msg.timestamp ++ w.newline else []
    else []

def handlePollResponse (w : Machine κ) : Handler κ Bool := do
  createCipher w
  let now ← external w.currentTimeMillis
  let resp ← decrypting (PollResponseMessage.ofStream now (some w.cipher))
  modify fun s => { s with
    incomingMessageBox := s.incomingMessageBox ++ display w s.username resp }
  pure false

def setPoller (i : Nat) (f : PollThread → PollThread) : Handler κ Unit :=
  modify fun s => { s with pollers := s.pollers.modify i f }

def setServerConnected (i : Nat) (conn : Bool) : Handler κ Unit :=
  setPoller i fun thread => { thread with serverConnected := conn }

def pollServer (w : Machine κ) (timestamp : BitVec 64) : Handler κ Unit := do
  let s ← get
  match s.username with
  | none => pure ()
  | some username => do
    let now ← external w.currentTimeMillis
    let poll ← ofExcept (PollMessage.new now (BitVec.ofNat 32 username.length) (some username)
      timestamp)
    if s.out.isSome then encode w (.poll poll)
    else do
      let i ← orNull s.poller
      setServerConnected i false

def poll (w : Machine κ) (i : Nat) (lastPollTime : BitVec 64) : Handler κ Unit := do
  let now ← external w.currentTimeMillis
  if now.toInt > (lastPollTime + PollThread.WAIT_TIME).toInt then logged do
    pollServer w lastPollTime
    let now ← external w.currentTimeMillis
    setPoller i fun thread => { thread with lastPollTime := now }

def handle (w : Machine κ) (type : Byte) : Handler κ Bool :=
  if type = MessageType.ACKMessage then handleACK w
  else if type = MessageType.ChallengeMessage then handleChallenge w
  else if type = MessageType.LoginMessage then handleLogin w
  else if type = MessageType.PollResponseMessage then handlePollResponse w
  else pure false

-- a `switch` on `null` throws
def dispatch (w : Machine κ) : Handler κ Bool := do
  let incoming ← reading BabbleOnMessage.ofStream
  match MessageType.getMessageType incoming.messageType with
  | none => throw .nullPointer
  | some type => handle w type

end Session

-- the local variables of the loop, and the client that its thread shares with the poll threads
structure ReaderThread (κ : Type) where
  working : Bool
  alive : Bool
  exited : Bool
  frame : Session κ

namespace ReaderThread

def run (w : Machine κ) (t : ReaderThread κ) : ReaderThread κ :=
  if t.working then t
  else match (Session.dispatch w).run t.frame with
    | .ok working frame => { t with working := working, frame := frame }
    | .error (.babble _) frame => { t with working := true, frame := frame }
    | .error .exit frame => { t with working := true, alive := false, exited := true, frame := frame }
    | .error _ frame => { t with working := true, alive := false, frame := frame }

inductive Action where
  | read
  | poll (i : Nat)

-- a read waits for the first byte; an exception that is not caught ends its thread
def step (w : Machine κ) (t : ReaderThread κ) : Action → Option (ReaderThread κ)
  | .read => if t.alive = true ∧ t.exited = false ∧ t.frame.stream ≠ [] then some (run w t) else none
  | .poll i =>
    match t.frame.pollers[i]? with
    | some ⟨lastPollTime, true⟩ =>
      if t.exited = true then none
      else match (Session.poll w i lastPollTime).run t.frame with
        | .ok _ frame => some { t with frame := frame }
        | .error _ frame =>
          some { t with frame := after ((Session.setServerConnected i false).run frame) }
    | _ => none

end ReaderThread

end Client
