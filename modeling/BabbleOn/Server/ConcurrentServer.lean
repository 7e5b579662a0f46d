import BabbleOn.Server.SharedDatabase

namespace Server
open Execution Interaction History SegmentedStream Dialogue

namespace SharedDatabase

variable {τ : Type}

-- `code i` is what connection `i` has of its own, the key pair it makes among it
structure Deployment (τ : Type) where
  host : Host
  sql : Sql τ
  code : Nat → Code
  rounds : Nat → Nat

abbrev Deployment.Hosted (D : Deployment τ) : Type := { w : World // w.host = D.host }

abbrev State (τ : Type) : Type := Pool Nat (Database τ) Conn Request Request.Answered Stop Unit

-- an INSERT that throws may still have reached the table
def Effect (sql : Sql τ) (d : Database τ) (w : World) (c : Conn) : Request → Database τ → Prop
  | .execute statement, d' =>
    Executed sql d statement d' ∨ w.executeFails c.calls = true ∧ d' = d
  | _, d' => d' = d

structure Meets (D : Deployment τ) (i : Nat) (d : Database τ) (w : D.Hosted) (req : Request) (c : Conn)
    (d' : Database τ) : Prop where
  code : ofWorld w.1 = D.code i
  serves : Serves D.sql d w.1
  effect : Effect D.sql d w.1 c req d'

-- what no clause of the thread catches, and what is undefined, ends the process and every thread of it
def Fatal : Stop → Prop
  | .undefined => True
  | .fault (.str _) => True
  | .fault .lengthError => True
  | .fault (.outOfBounds _) => True
  | _ => False

-- a connection that is not accepted yet is one whose thread has made no step
def start (D : Deployment τ) (d : Database τ) (sock : Nat → Stream Byte) : State τ where
  shared := d
  own i := ⟨sock i, 0, []⟩
  program i := Dialogue.clientConnectStart (D.code i) (D.rounds i)

abbrev Moves (D : Deployment τ) : State τ → State τ → Prop :=
  Step (oracle D.host) (Meets D) Registered Fatal

abbrev Continues (D : Deployment τ) : State τ → State τ → Prop :=
  Reaches (oracle D.host) (Meets D) Registered Fatal

def Reachable (D : Deployment τ) (d : Database τ) (sock : Nat → Stream Byte) : State τ → Prop :=
  Continues D (start D d sock)

structure Lives (D : Deployment τ) (i : Nat) (d : Database τ) (w : D.Hosted) : Prop where
  code : ofWorld w.1 = D.code i
  draws : Draws D.sql d w.1

variable {D : Deployment τ} {d d' : Database τ} {sock : Nat → Stream Byte} {P Q : State τ}

theorem Effect.grows {sql : Sql τ} {w : World} {c : Conn} {req : Request}
    (h : Effect sql d w c req d') : Grows d d' := by
  cases req with
  | execute statement =>
    rcases h with hdone | ⟨_, rfl⟩
    · exact hdone.grows
    · exact Grows.refl d'
  | time => exact h ▸ Grows.refl d
  | RAND_bytes => exact h ▸ Grows.refl d
  | objectTime => exact h ▸ Grows.refl d
  | decode => exact h ▸ Grows.refl d
  | send m => exact h ▸ Grows.refl d
  | selectPassword username => exact h ▸ Grows.refl d
  | selectMessages time username => exact h ▸ Grows.refl d
  | selectUserId email => exact h ▸ Grows.refl d
  | selectMessageId text => exact h ▸ Grows.refl d

theorem lives_served (D : Deployment τ) :
    Served (fun i d w => Lives D i d w) (oracle D.host) (Meets D) Registered where
  met h := ⟨h.code, h.serves.draws⟩
  kept h hlives := ⟨hlives.code, hlives.draws.grows h.effect.grows⟩
  kept_outside h hlives := ⟨hlives.code, hlives.draws.grows h.grows⟩
  spliced n hlives hlives' := ⟨hlives.code, hlives.draws.splice hlives'.draws n⟩

def idle (host : Host) (code : Code) : World := { World.quiet with
  host := host
  array := code.array
  SHA256 := code.SHA256
  PEM_Save := code.PEM_Save
  decryptor := code.decryptor
  aesEncrypt := code.aesEncrypt
  aesDecrypt := code.aesDecrypt }

theorem idle_lives (D : Deployment τ) (i : Nat) (d : Database τ) :
    Lives D i d ⟨idle D.host (D.code i), rfl⟩ := by
  refine ⟨rfl, ⟨fun k u => ?_, fun k u => ?_, fun k text => ?_, fun k time u => ?_⟩⟩
  all_goals exact List.nil_subset _

theorem step_grows (h : Moves D P Q) : Grows P.shared Q.shared :=
  h.shared_grows (fun met => met.effect.grows) fun registered => registered.grows

theorem answer_extends (w : World) (req : Request) (c : Conn) :
    ∃ more, (respond (answer w req) c).2.events = c.events ++ more := by
  obtain ⟨more, hevents, _⟩ := answer_after w req c
  exact ⟨more, by rw [← hevents]; exact congrArg Conn.events (after_respond _ c)⟩

theorem extends_trans {c c' c'' : Conn} (h : ∃ more, c'.events = c.events ++ more)
    (h' : ∃ more, c''.events = c'.events ++ more) : ∃ more, c''.events = c.events ++ more := by
  obtain ⟨more, hmore⟩ := h
  obtain ⟨rest, hrest⟩ := h'
  exact ⟨more ++ rest, by rw [hrest, hmore, List.append_assoc]⟩

theorem interpret_events (w : World) (p : Dialog Unit) (c : Conn) :
    ∃ more, (after ((interpret (answer w) p).run c)).events = c.events ++ more :=
  interpret_grows (R := fun c c' : Conn => ∃ more, c'.events = c.events ++ more)
    (fun _ => ⟨[], (List.append_nil _).symm⟩) extends_trans (answer_extends w) p c

theorem reached_events {α : Type} {w : World} {p q : Dialog α} {c c' : Conn}
    (h : Reached (answer w) p c q c') : ∃ more, c'.events = c.events ++ more :=
  h.grows (R := fun c c' : Conn => ∃ more, c'.events = c.events ++ more)
    (fun _ => ⟨[], (List.append_nil _).symm⟩) extends_trans (answer_extends w)

theorem step_events (h : Moves D P Q) (i : Nat) :
    ∃ more, (Q.own i).events = (P.own i).events ++ more :=
  h.own_grows (R := fun c c' => ∃ more, c'.events = c.events ++ more)
    (fun _ => ⟨[], (List.append_nil _).symm⟩) (fun w req c => answer_extends w.1 req c) i

structure Alone (D : Deployment τ) (sock : Stream Byte) (i : Nat) (Q : State τ) (w : World) : Prop where
  host : w.host = D.host
  code : ofWorld w = D.code i
  draws : Draws D.sql Q.shared w
  run : (clientConnectStart w (D.rounds i)).run ⟨sock, 0, []⟩ =
    (interpret (answer w) (Q.program i)).run (Q.own i)

theorem Alone.events {i : Nat} {w : World} {stream : Stream Byte} (h : Alone D stream i Q w) :
    ∃ more, (after ((clientConnectStart w (D.rounds i)).run ⟨stream, 0, []⟩)).events =
      (Q.own i).events ++ more := by
  rw [h.run]
  exact interpret_events w (Q.program i) (Q.own i)

theorem alone_of_reached {i : Nat} {w : D.Hosted} (hlives : Lives D i Q.shared w)
    (h : Reached (answer w.1) (Dialogue.clientConnectStart (D.code i) (D.rounds i)) ⟨sock i, 0, []⟩
      (Q.program i) (Q.own i)) : Alone D (sock i) i Q w.1 := by
  refine ⟨w.2, hlives.code, hlives.draws, ?_⟩
  rw [← interpret_clientConnectStart, hlives.code]
  exact h.run_eq

theorem reached_alone (h : Reachable D d sock Q) (i : Nat) :
    ∃ w : D.Hosted, Lives D i Q.shared w ∧
      Reached (answer w.1) (Dialogue.clientConnectStart (D.code i) (D.rounds i)) ⟨sock i, 0, []⟩
        (Q.program i) (Q.own i) :=
  Reaches.alone (lives_served D) h ⟨_, idle_lives D i d⟩

theorem gated_together {permitted : World → List Event → Event → Prop} {i : Nat}
    (halone : ∀ w, Gated (permitted w)
      (after ((clientConnectStart w (D.rounds i)).run ⟨sock i, 0, []⟩)).events)
    (h : Reachable D d sock Q) :
    ∃ w, Alone D (sock i) i Q w ∧ Gated (permitted w) (Q.own i).events := by
  obtain ⟨w, hlives, hreached⟩ := reached_alone h i
  obtain ⟨more, hmore⟩ := (alone_of_reached hlives hreached).events
  refine ⟨w.1, alone_of_reached hlives hreached, @gated_of_append _ _ _ more ?_⟩
  rw [← hmore]
  exact halone w.1

structure Advances (D : Deployment τ) (i : Nat) (P Q : State τ) : Prop where
  continues : Continues D P Q
  others : ∀ j, j ≠ i → Q.own j = P.own j ∧ Q.program j = P.program j
  running : Running Fatal Q

theorem Advances.trans {i : Nat} {R : State τ} (h : Advances D i P Q) (h' : Advances D i Q R) :
    Advances D i P R where
  continues := h.continues.trans h'.continues
  others j hj := ⟨(h'.others j hj).1.trans (h.others j hj).1, (h'.others j hj).2.trans (h.others j hj).2⟩
  running := h'.running

theorem advances_reached {i : Nat} {w : D.Hosted} (hrunning : Running Fatal P)
    (hmet : ∀ req c, Meets D i P.shared w req c P.shared) {q : Dialog Unit} {c : Conn}
    (hq : ∀ e, q = .thrown e → ¬ Fatal e)
    (h : Reached (answer w.1) (P.program i) (P.own i) q c) :
    ∃ Q, Advances D i P Q ∧ Q.shared = P.shared ∧ Q.own i = c ∧ Q.program i = q := by
  have hruns : Reached ((oracle D.host).answer w) (P.program i) (P.own i) q c := h
  have hothers : ∀ j, j ≠ i → Function.update P.program i q j = P.program j :=
    fun j hj => Function.update_of_ne hj _ _
  refine ⟨_, ⟨hruns.reaches hrunning hmet, fun j hj => ⟨Function.update_of_ne hj _ _, hothers j hj⟩,
    hrunning.program hothers fun e he => hq e ?_⟩, rfl, ?_, ?_⟩
  · exact (Function.update_self i q P.program).symm.trans he
  · simp only [Function.update_self]
  · simp only [Function.update_self]

theorem serve_running (code : Code) (endTime : Int) (u key : Str) (rounds : Nat) (e : Stop) :
    Dialogue.serve code endTime u key rounds ≠ .thrown e := by
  intro h
  cases rounds with
  | zero => cases h
  | succ rounds => cases h

theorem start_running (D : Deployment τ) (d : Database τ) (sock : Nat → Stream Byte) :
    Running Fatal (start D d sock) := by
  intro j e he
  cases he

end SharedDatabase

end Server
