import PvpDuel.Delivery.Finality
import PvpDuel.Transport.Conversation

/-!
# A match behind a connection

The handler of a connection serves the session of one player, and the player's client polls the other end
of it. The rest of the match, the other player's connection included, takes its steps in between. Every
run is one of the client against the match over the abstract network: the start and the end come once, a
poll brings nothing but what the session's consumer has taken, and the session gets no inputs but those of
the client's ticks.
-/

namespace PvpDuel.Delivery

open Client (InputFrame MatchController MatchModel NetworkUpdate)
open Gamev1 (MatchEnd MatchStart PlayerInput WorldSnapshot)
open MatchServer (Match PlayerSession Process Received Step)
open Transport (ClientEvent Codec Connection Conversation Handler HandlerEvent Writer)

/-! ### The system -/

/-- Where a call of `PollNetwork` stands: before its second, its third or its last question to the
transport, with what the ones before have brought. -/
inductive Polling
  | idle
  | snapshot (start : Option MatchStart)
  | matchEnd (start : Option MatchStart) (snapshot : Option WorldSnapshot)
  | connection (start : Option MatchStart) (snapshot : Option WorldSnapshot)
      (matchEnd : Option MatchEnd)
deriving DecidableEq

namespace Polling

def start : Polling → Option MatchStart
  | .idle => none
  | .snapshot start | .matchEnd start _ | .connection start _ _ => start

def shown : Polling → Option WorldSnapshot
  | .matchEnd _ world | .connection _ world _ => world
  | _ => none

def ended : Polling → Option MatchEnd
  | .connection _ _ last => last
  | _ => none

end Polling

/-- The match, a connection of one of its players and this player's client, with the updates that its
calls of `PollNetwork` have returned. -/
structure WiredMatch (σ : Type) where
  process : Process
  player : Side
  conversation : Conversation σ
  controller : MatchController
  polling : Polling
  updates : List NetworkUpdate

/-- A match that has just been started, and a client that is about to connect to it. -/
def wire {σ : Type} (server : Process) (player : Side) (stream : σ) (matchToken : String) :
    WiredMatch σ where
  process := server
  player := player
  conversation := Transport.newConversation stream matchToken (server.players.get player).playerID
  controller := Client.newMatchController (server.players.get player).playerID
  polling := .idle
  updates := []

/-- `decline` is an input that reaches a canceled match, and `client` a callback of the library. -/
inductive WireAction
  | handler (event : HandlerEvent)
  | decline (payload : List UInt8)
  | client (event : ClientEvent)
  | fixedTick (frame : InputFrame)
  | pollMatchStart
  | pollSnapshot
  | pollMatchEnd
  | isConnected
  | server (action : Match.Action)
deriving DecidableEq

/-- What the library does by itself, or to go on with a call of the game. -/
def IsCallback : ClientEvent → Prop
  | .sendInput _ | .pollMatchStart | .pollSnapshot | .pollMatchEnd => False
  | _ => True

instance (event : ClientEvent) : Decidable (IsCallback event) := by
  unfold IsCallback
  split <;> infer_instance

/-- The steps of the match that no call of the player's handler takes. -/
def Elsewhere (player : Side) : Match.Action → Prop
  | .acknowledgeMatchStart other | .submitInput other _ | .close other | .receiveSnapshot other
  | .receiveMatchEnd other => other ≠ player
  | _ => True

instance (player : Side) (action : Match.Action) : Decidable (Elsewhere player action) :=
  Match.Action.casesOn action (fun other => inferInstanceAs (Decidable (other ≠ player)))
    (fun other _ => inferInstanceAs (Decidable (other ≠ player))) (isTrue trivial) (isTrue trivial)
    (isTrue trivial) (isTrue trivial) (isTrue trivial) (fun _ => isTrue trivial)
    (fun other => inferInstanceAs (Decidable (other ≠ player))) (fun _ _ => isTrue trivial)
    (fun other => inferInstanceAs (Decidable (other ≠ player)))
    (fun other => inferInstanceAs (Decidable (other ≠ player))) fun _ => isTrue trivial

/-- The call on the session that a step of the handler makes. -/
def sessionCall {σ : Type} (codec : Codec) (h : Handler σ) (player : Side) :
    HandlerEvent → Option Match.Action
  | .next =>
      match h.phase with
      | .acknowledging => some (.acknowledgeMatchStart player)
      | .closingSession => some (.close player)
      | _ => none
  | .selectSnapshot (some _) => some (.receiveSnapshot player)
  | .selectMatchEnd (some _) => some (.receiveMatchEnd player)
  | .receiveDatagram (some payload) _ =>
      if payload.length > Transport.maxMessageSize then none
      else (codec.input.unmarshal payload).map (.submitInput player)
  | _ => none

namespace WiredMatch

variable {σ : Type}

def session (w : WiredMatch σ) : PlayerSession := w.process.players.get w.player

/-- What the session can answer. `SubmitInput` returns no error, and `Close` does not return before it is
through. -/
def Answers (w : WiredMatch σ) : HandlerEvent → Prop
  | .authenticate (some start) => start = w.session.matchStart
  | .selectSnapshot snapshot => w.session.snapshots.receive.map Prod.fst = .done snapshot
  | .selectMatchEnd matchEnd => w.session.matchEnds.receive.map Prod.fst = .done matchEnd
  | .receiveDatagram (some _) submitted => submitted = true
  | .next => w.conversation.server.phase = .closingStream →
      ∀ call ∈ w.process.closes, call.player = w.player → call.phase = .returned
  | _ => True

instance (w : WiredMatch σ) (event : HandlerEvent) : Decidable (w.Answers event) := by
  unfold Answers
  split <;> infer_instance

section

variable (codec : Codec) (writer : Writer σ)

def converse (w : WiredMatch σ) (event : Transport.Event) : Option (WiredMatch σ) :=
  (w.conversation.next codec writer event).map fun conversation => { w with conversation }

/-- A step of the handler, with its call on the session. -/
def handle (w : WiredMatch σ) (event : HandlerEvent) : Option (WiredMatch σ) :=
  if w.Answers event then
    match sessionCall codec w.conversation.server w.player event with
    | none => w.converse codec writer (.server event)
    | some action => (w.process.next action).bind fun process =>
        { w with process }.converse codec writer (.server event)
  else none

def Free (w : WiredMatch σ) : Prop := w.polling = .idle ∧ w.conversation.client.sending = none

instance (w : WiredMatch σ) : Decidable w.Free := by
  unfold Free
  infer_instance

def fixedTick (w : WiredMatch σ) (frame : InputFrame) : Option (WiredMatch σ) :=
  let ticked := w.controller.fixedTick frame
  match ticked.2 with
  | none => some { w with controller := ticked.1 }
  | some input => { w with controller := ticked.1 }.converse codec writer (.client (.sendInput input))

/-- The last question of `PollNetwork`. The messages of a poll are applied at its end, since nobody else
reads the model. -/
def finishPoll (w : WiredMatch σ) (start : Option MatchStart) (snapshot : Option WorldSnapshot)
    (matchEnd : Option MatchEnd) : WiredMatch σ :=
  let polled := w.controller.pollNetwork start snapshot matchEnd w.conversation.client.isConnected
  { w with controller := polled.2, polling := .idle, updates := w.updates ++ [polled.1] }

def next (w : WiredMatch σ) : WireAction → Option (WiredMatch σ)
  | .handler event => w.handle codec writer event
  | .decline payload =>
      if w.process.canceled then
        w.converse codec writer (.server (.receiveDatagram (some payload) true))
      else none
  | .client event => if IsCallback event then w.converse codec writer (.client event) else none
  | .fixedTick frame => if w.Free then w.fixedTick codec writer frame else none
  | .pollMatchStart =>
      if w.Free then
        { w with polling := .snapshot w.conversation.client.matchStart }.converse codec writer
          (.client .pollMatchStart)
      else none
  | .pollSnapshot =>
      match w.polling with
      | .snapshot start =>
          { w with polling := .matchEnd start w.conversation.client.snapshots.getLast? }.converse codec
            writer (.client .pollSnapshot)
      | _ => none
  | .pollMatchEnd =>
      match w.polling with
      | .matchEnd start snapshot =>
          { w with polling := .connection start snapshot w.conversation.client.matchEnd }.converse codec
            writer (.client .pollMatchEnd)
      | _ => none
  | .isConnected =>
      match w.polling with
      | .connection start snapshot matchEnd => some (w.finishPoll start snapshot matchEnd)
      | _ => none
  | .server action =>
      if Elsewhere w.player action then
        (w.process.next action).map fun process => { w with process }
      else none

end

end WiredMatch

/-! ### What each party's steps leave alone -/

section

variable {σ : Type} {codec : Codec} {writer : Writer σ}

/-- A consumer never forgets what it has received. -/
structure Recalls (before after : Received) : Prop where
  snapshots : before.snapshots <+: after.snapshots
  matchEnds : before.matchEnds <+: after.matchEnds

theorem recalls_rfl {received : Received} : Recalls received received :=
  ⟨List.prefix_rfl, List.prefix_rfl⟩

theorem step_recalls {s t : Process} (h : Step s t) (player : Side) :
    Recalls (s.received.get player) (t.received.get player) := by
  have hset : ∀ (reader : Side) (received : Received), Recalls (s.received.get reader) received →
      Recalls (s.received.get player) ((s.received.set reader received).get player) := by
    intro reader received hrecalls
    rw [Pair.get_set]
    split_ifs with heq
    · rw [heq]
      exact hrecalls
    · exact recalls_rfl
  cases h with
  | receiveSnapshot reader snapshot =>
      exact hset reader _ ⟨List.prefix_append _ _, List.prefix_rfl⟩
  | receiveMatchEnd reader matchEnd =>
      exact hset reader _ ⟨List.prefix_rfl, List.prefix_append _ _⟩
  | acknowledge | submit | call | report => exact recalls_rfl
  | loop hstep => cases hstep <;> exact recalls_rfl
  | broadcast hstep => cases hstep <;> exact recalls_rfl
  | close hstep => cases hstep <;> exact recalls_rfl

/-- What a handler has of the session it was given there. -/
structure Draws (h h' : Handler σ) (event : HandlerEvent) : Prop where
  session : ∀ start ∈ h'.session, start ∈ h.session ∨ event = .authenticate (some start)
  snapshots : ∀ snapshot ∈ h'.snapshots, snapshot ∈ h.snapshots ∨ event = .selectSnapshot (some snapshot)
  matchEnds : ∀ matchEnd ∈ h'.matchEnds,
    matchEnd ∈ h.matchEnds ∨ event = .selectMatchEnd (some matchEnd)

theorem draws_of_eq {h h' : Handler σ} {event : HandlerEvent} (hsession : h'.session = h.session)
    (hsnapshots : h'.snapshots = h.snapshots) (hends : h'.matchEnds = h.matchEnds) :
    Draws h h' event :=
  ⟨fun _ hin => .inl (hsession ▸ hin), fun _ hin => .inl (hsnapshots ▸ hin),
    fun _ hin => .inl (hends ▸ hin)⟩

theorem handler_draws {h h' : Handler σ} {event : HandlerEvent}
    (hnext : h.next codec writer event = some h') : Draws h h' event := by
  unfold Handler.next at hnext
  split at hnext
  case h_3 stream hphase =>
    cases hnext
    unfold Handler.readAuthentication
    split
    · exact draws_of_eq rfl rfl rfl
    · split
      · exact draws_of_eq rfl rfl rfl
      · exact draws_of_eq rfl rfl rfl
  case h_5 start request hphase =>
    cases hnext
    refine ⟨fun other hin => .inr ?_, fun _ hin => .inl hin, fun _ hin => .inl hin⟩
    cases hin
    rfl
  case h_12 snapshot hphase =>
    split_ifs at hnext
    cases hnext
    cases snapshot with
    | none => exact draws_of_eq rfl rfl rfl
    | some snapshot =>
        have hsnapshots : ∀ other ∈ h.snapshots ++ [snapshot], other ∈ h.snapshots ∨
            HandlerEvent.selectSnapshot (some snapshot) = .selectSnapshot (some other) := by
          intro other hin
          refine (List.mem_append.1 hin).imp_right fun hlast => ?_
          rw [List.mem_singleton.1 hlast]
        unfold Handler.sendSnapshot
        dsimp only
        cases codec.snapshot.marshal snapshot with
        | none => exact ⟨fun _ hin => .inl hin, hsnapshots, fun _ hin => .inl hin⟩
        | some response => exact ⟨fun _ hin => .inl hin, hsnapshots, fun _ hin => .inl hin⟩
  case h_13 matchEnd hphase =>
    cases hnext
    cases matchEnd with
    | none => exact draws_of_eq rfl rfl rfl
    | some matchEnd =>
        refine ⟨fun _ hin => .inl hin, fun _ hin => .inl hin, fun other hin => ?_⟩
        refine (List.mem_append.1 hin).imp_right fun hlast => ?_
        rw [List.mem_singleton.1 hlast]
  case h_17 _ datagram submitted =>
    split_ifs at hnext
    cases hnext
    obtain ⟨receiver, inputs, heq⟩ := h.receiveInput_eq codec submitted datagram
    rw [heq]
    exact draws_of_eq rfl rfl rfl
  case h_9 | h_10 | h_11 =>
    split_ifs at hnext
    cases hnext
    exact draws_of_eq rfl rfl rfl
  case h_18 => cases hnext
  case h_1 | h_2 | h_4 | h_6 | h_7 | h_8 | h_14 | h_15 | h_16 =>
    cases hnext
    exact draws_of_eq rfl rfl rfl

/-- The callbacks hand out nothing, and send nothing but what the game has begun to send. -/
structure Unpolled (c c' : Connection) : Prop where
  starts : c'.starts = c.starts
  ends : c'.ends = c.ends
  sending : ∀ input ∈ c'.sending, input ∈ c.sending

theorem unpolled_rfl {c : Connection} : Unpolled c c := ⟨rfl, rfl, fun _ hin => hin⟩

theorem next_unpolled (c : Connection) (codec : Codec) {event : ClientEvent} (h : IsCallback event) :
    Unpolled c (c.next codec event) := by
  have hserver : ∀ message, Unpolled c (c.serverClosed message) := by
    intro message
    unfold Connection.serverClosed
    by_cases hended : c.matchEnded = true
    · rw [if_pos hended]
      exact ⟨rfl, rfl, fun _ hin => hin⟩
    · rw [if_neg hended]
      exact ⟨rfl, rfl, fun _ hin => hin⟩
  cases event with
  | connectFailed | datagramStateChanged | shutdownComplete | receive =>
      exact ⟨rfl, rfl, fun _ hin => hin⟩
  | shutdownInitiatedByTransport | shutdownInitiatedByPeer | peerSendAborted | peerSendShutdown =>
      exact hserver _
  | connectTimedOut =>
      change Unpolled c c.connectTimedOut
      unfold Connection.connectTimedOut
      split_ifs
      · exact ⟨rfl, rfl, fun _ hin => hin⟩
      · exact unpolled_rfl
  | connected failed =>
      change Unpolled c (c.openStreamAndAuthenticate failed)
      unfold Connection.openStreamAndAuthenticate
      split
      · exact ⟨rfl, rfl, fun _ hin => hin⟩
      · exact ⟨rfl, rfl, fun _ hin => hin⟩
      · unfold Connection.send
        split_ifs
        · exact ⟨rfl, rfl, fun _ hin => hin⟩
        · exact ⟨rfl, rfl, fun _ hin => hin⟩
  | streamSend sends =>
      change Unpolled c (c.streamSend codec sends)
      unfold Connection.streamSend
      split
      · dsimp only
        split_ifs
        · exact ⟨rfl, rfl, fun _ hin => hin⟩
        · exact ⟨rfl, rfl, fun _ hin => hin⟩
        · exact ⟨rfl, rfl, fun _ hin => hin⟩
      · exact unpolled_rfl
  | datagramReceived buffer =>
      change Unpolled c (c.receiveDatagram codec buffer)
      unfold Connection.receiveDatagram
      split_ifs
      · exact unpolled_rfl
      · split
        · exact unpolled_rfl
        · exact ⟨rfl, rfl, fun _ hin => hin⟩
  | datagramSend sends =>
      change Unpolled c (c.datagramSend codec sends)
      unfold Connection.datagramSend
      split
      · exact unpolled_rfl
      · have hnone : ∀ input : PlayerInput, input ∈ (none : Option PlayerInput) → input ∈ c.sending :=
          fun _ hin => by cases hin
        dsimp only
        split_ifs
        · exact ⟨rfl, rfl, hnone⟩
        · exact ⟨rfl, rfl, hnone⟩
        · exact ⟨rfl, rfl, hnone⟩
  | sendInput | pollMatchStart | pollSnapshot | pollMatchEnd => exact h.elim

/-! ### The relation -/

/-- What the two ends of the connection have of the session and of the client's inputs. -/
structure Fed (codec : Codec) (c : Conversation σ) (start : MatchStart) (received : Received)
    (datagrams : List PlayerInput) : Prop where
  faithful : c.Faithful codec
  session : ∀ other ∈ c.server.session, other = start
  snapshots : ∀ snapshot ∈ c.server.snapshots, snapshot ∈ received.snapshots
  matchEnds : ∀ matchEnd ∈ c.server.matchEnds, matchEnd ∈ received.matchEnds
  sent : ∀ payload ∈ c.client.datagramsSent, ∃ input ∈ datagrams,
    codec.input.unmarshal payload = some input
  sending : ∀ input ∈ c.client.sending, Client.toProtobuf input ∈ datagrams

section Fed

variable {c c' : Conversation σ} {start : MatchStart} {received received' : Received}
  {datagrams : List PlayerInput}

theorem converse_server {event : HandlerEvent} (hnext : c.next codec writer (.server event) = some c') :
    c.Carries (.server event) ∧
      ∃ server, c.server.next codec writer event = some server ∧ c' = { c with server } := by
  unfold Conversation.next at hnext
  split_ifs at hnext with hcarries
  obtain ⟨server, hserver, rfl⟩ := Option.map_eq_some_iff.1 hnext
  exact ⟨hcarries, server, hserver, rfl⟩

theorem converse_client {event : ClientEvent} (hnext : c.next codec writer (.client event) = some c') :
    c'.server = c.server ∧ c'.client = c.client.next codec event := by
  unfold Conversation.next at hnext
  split_ifs at hnext
  cases hnext
  exact ⟨rfl, rfl⟩

theorem Fed.recalls (h : Fed codec c start received datagrams) (hrecalls : Recalls received received') :
    Fed codec c start received' datagrams :=
  { h with
    snapshots := fun snapshot hin => hrecalls.snapshots.subset (h.snapshots snapshot hin)
    matchEnds := fun matchEnd hin => hrecalls.matchEnds.subset (h.matchEnds matchEnd hin) }

theorem Fed.handler (h : Fed codec c start received datagrams) (hcodec : codec.Inverse)
    {event : HandlerEvent} (hnext : c.next codec writer (.server event) = some c')
    (hsession : ∀ other, event = .authenticate (some other) → other = start)
    (hsnapshot : ∀ snapshot, event = .selectSnapshot (some snapshot) → snapshot ∈ received.snapshots)
    (hend : ∀ matchEnd, event = .selectMatchEnd (some matchEnd) → matchEnd ∈ received.matchEnds) :
    Fed codec c' start received datagrams := by
  have hfaithful := h.faithful.next hcodec hnext
  obtain ⟨-, server, hserver, rfl⟩ := converse_server hnext
  have hdraws := handler_draws hserver
  refine ⟨hfaithful, fun other hin => ?_, fun snapshot hin => ?_, fun matchEnd hin => ?_, h.sent,
    h.sending⟩
  · exact (hdraws.session other hin).elim (h.session other) (hsession other)
  · exact (hdraws.snapshots snapshot hin).elim (h.snapshots snapshot) (hsnapshot snapshot)
  · exact (hdraws.matchEnds matchEnd hin).elim (h.matchEnds matchEnd) (hend matchEnd)

theorem Fed.client (h : Fed codec c start received datagrams) (hcodec : codec.Inverse)
    {event : ClientEvent} (hnext : c.next codec writer (.client event) = some c')
    {later : List PlayerInput} (hlater : ∀ input ∈ datagrams, input ∈ later)
    (hsending : ∀ input ∈ (c.client.next codec event).sending, Client.toProtobuf input ∈ later) :
    Fed codec c' start received later := by
  have hfaithful := h.faithful.next hcodec hnext
  obtain ⟨hserver, hclient⟩ := converse_client hnext
  have hold : ∀ payload ∈ c.client.datagramsSent, ∃ input ∈ later,
      codec.input.unmarshal payload = some input := by
    intro payload hin
    obtain ⟨input, hinput, hunmarshal⟩ := h.sent payload hin
    exact ⟨input, hlater input hinput, hunmarshal⟩
  refine ⟨hfaithful, ?_, ?_, ?_, ?_, ?_⟩
  · rw [hserver]
    exact h.session
  · rw [hserver]
    exact h.snapshots
  · rw [hserver]
    exact h.matchEnds
  · rw [hclient]
    by_cases hreceive : ∃ buffers, event = .receive buffers
    · obtain ⟨buffers, rfl⟩ := hreceive
      exact hold
    · have hkeeps := c.client.next_keeps codec event fun buffers heq => hreceive ⟨buffers, heq⟩
      intro payload hin
      obtain hsame | ⟨input, hinput, hne, hsent⟩ := hkeeps.datagramsSent
      · exact hold payload (hsame ▸ hin)
      · rw [hsent] at hin
        obtain hbefore | hnew := List.mem_append.1 hin
        · exact hold payload hbefore
        · refine ⟨_, hlater _ (h.sending input hinput), ?_⟩
          rw [List.mem_singleton.1 hnew]
          exact (hcodec.input.serialize _ _ (Conversation.serialize_ne hne)).1
  · rw [hclient]
    exact hsending

section

variable (h : Fed codec c start received datagrams) (hcodec : codec.Inverse)

include h hcodec

theorem Fed.matchStart : ∀ other ∈ c.client.matchStart, other = start := by
  intro other hin
  have hdelivered := h.faithful.client.starts.sublist.subset
    (List.mem_append_right _ (Option.mem_toList.2 hin))
  exact h.session other (Option.mem_toList.1 ((h.faithful.starts hcodec).subset hdelivered))

theorem Fed.matchEnd : ∀ matchEnd ∈ c.client.matchEnd, matchEnd ∈ received.matchEnds := by
  intro matchEnd hin
  have hdelivered := h.faithful.client.ends.sublist.subset
    (List.mem_append_right _ (Option.mem_toList.2 hin))
  exact h.matchEnds matchEnd ((h.faithful.ends hcodec).subset hdelivered)

theorem Fed.once : c.client.starts.length ≤ 1 ∧ c.client.ends.length ≤ 1 := by
  have hstarts := h.faithful.client.starts.sublist.trans (h.faithful.starts hcodec).sublist
  have hends := h.faithful.client.ends.sublist.trans (h.faithful.ends hcodec).sublist
  have hsession : c.server.session.toList.length ≤ 1 := by
    cases c.server.session with
    | none => exact Nat.zero_le 1
    | some _ => exact Nat.le_refl 1
  have hmatchEnds : c.server.matchEnds.length ≤ 1 := by
    obtain ⟨-, -, -, ⟨-, hnone, -⟩ | ⟨_, -, hone, -⟩⟩ := h.faithful.server.stands.envelopes
    · rw [hnone]
      exact Nat.zero_le 1
    · exact hone
  have hstartsLength := hstarts.length_le
  have hendsLength := hends.length_le
  rw [List.length_append] at hstartsLength hendsLength
  omega

end

theorem Fed.snapshot (h : Fed codec c start received datagrams) :
    ∀ snapshot ∈ c.client.snapshots, snapshot ∈ received.snapshots := by
  intro snapshot hin
  have harrived := h.faithful.client.shown.sublist.subset (List.mem_append_right _ hin)
  exact h.snapshots snapshot (h.faithful.arrived snapshot harrived)

end Fed

/-- What the calls of `PollNetwork` have handed out, and what the client knows of it. -/
structure Polled (w : WiredMatch σ) : Prop where
  start : ∀ start ∈ w.polling.start, start = w.session.matchStart
  shown : ∀ snapshot ∈ w.polling.shown, snapshot ∈ (w.process.received.get w.player).snapshots
  ended : ∀ matchEnd ∈ w.polling.ended, matchEnd ∈ (w.process.received.get w.player).matchEnds
  starts : w.conversation.client.starts.length =
    w.updates.countP NetworkUpdate.started + w.polling.start.toList.length
  ends : w.conversation.client.ends.length =
    w.updates.countP NetworkUpdate.ended + w.polling.ended.toList.length
  begun : w.controller.model.started = true → w.updates.countP NetworkUpdate.started ≠ 0
  finished : w.controller.model.matchEnd ≠ none → w.updates.countP NetworkUpdate.ended ≠ 0

/-- A state of the abstract network that stands for the connection. -/
structure Carried (codec : Codec) (w : WiredMatch σ) (n : NetworkMatch) : Prop where
  server : n.server = w.process
  player : n.player = w.player
  client : n.client = w.controller
  hosted : Hosted n
  fed : Fed codec w.conversation w.session.matchStart (w.process.received.get w.player) n.datagrams
  polled : Polled w

/-! ### A step -/

section

variable {w w' : WiredMatch σ} {n : NetworkMatch}

theorem Polled.of_eq (h : Polled w) (hpolling : w'.polling = w.polling) (hupdates : w'.updates = w.updates)
    (hstarted : w'.controller.model.started = w.controller.model.started)
    (hended : w'.controller.model.matchEnd = w.controller.model.matchEnd)
    (hstart : w'.session.matchStart = w.session.matchStart)
    (hrecalls : Recalls (w.process.received.get w.player) (w'.process.received.get w'.player))
    (hstarts : w'.conversation.client.starts = w.conversation.client.starts)
    (hends : w'.conversation.client.ends = w.conversation.client.ends) : Polled w' where
  start := fun start hin => (h.start start (hpolling ▸ hin)).trans hstart.symm
  shown := fun snapshot hin => hrecalls.snapshots.subset (h.shown snapshot (hpolling ▸ hin))
  ended := fun matchEnd hin => hrecalls.matchEnds.subset (h.ended matchEnd (hpolling ▸ hin))
  starts := by rw [hstarts, hupdates, hpolling, h.starts]
  ends := by rw [hends, hupdates, hpolling, h.ends]
  begun := by
    rw [hstarted, hupdates]
    exact h.begun
  finished := by
    rw [hended, hupdates]
    exact h.finished

/-- A step of the match is one of the abstract network, with the same start and no less received. -/
theorem Carried.act (h : Carried codec w n) {action : Match.Action} {process : Process}
    (hprocess : w.process.next action = some process) :
    (process.players.get w.player).matchStart = w.session.matchStart ∧
    Recalls (w.process.received.get w.player) (process.received.get w.player) ∧
    ∃ n', n.act action = some n' ∧ n'.server = process ∧ n'.player = w.player ∧
      n'.client = w.controller ∧ n'.datagrams = n.datagrams ∧ Hosted n' := by
  have hact : n.act action = some { n with
      server := process
      consumed := n.consumed ++ n.consumes action
      delivered := n.delivered ++ n.submits action } := by
    rw [NetworkMatch.act, h.server, hprocess]
    rfl
  obtain ⟨server, hstep, -, -, heq⟩ := h.hosted.act_cases hact
  obtain rfl : process = server := congrArg NetworkMatch.server heq
  rw [h.server] at hstep
  exact ⟨(hstep.session w.player).matchStart, step_recalls hstep w.player, _, hact, rfl, h.player,
    h.client, rfl, h.hosted.act hact⟩

theorem Carried.converse (h : Carried codec w n) {conversation : Conversation σ}
    (hfed : Fed codec conversation w.session.matchStart (w.process.received.get w.player) n.datagrams)
    (hstarts : conversation.client.starts = w.conversation.client.starts)
    (hends : conversation.client.ends = w.conversation.client.ends) :
    Carried codec { w with conversation } n :=
  ⟨h.server, h.player, h.client, h.hosted, hfed,
    h.polled.of_eq rfl rfl rfl rfl rfl recalls_rfl hstarts hends⟩

theorem received_of_next {s t : Process} {player : Side} :
    (∀ snapshot, (s.players.get player).snapshots.receive.map Prod.fst = .done (some snapshot) →
      s.next (.receiveSnapshot player) = some t →
        snapshot ∈ (t.received.get player).snapshots) ∧
    ∀ matchEnd, (s.players.get player).matchEnds.receive.map Prod.fst = .done (some matchEnd) →
      s.next (.receiveMatchEnd player) = some t →
        matchEnd ∈ (t.received.get player).matchEnds := by
  constructor
  · intro snapshot hreceive hnext
    obtain ⟨⟨received, snapshots⟩, hchannel, heq⟩ := Outcome.map_eq_done hreceive
    change received = some snapshot at heq
    subst heq
    obtain ⟨-, hdone | ⟨hpanicked, -⟩⟩ := Process.next_cases hnext
    · change s.receiveSnapshot player = .done t at hdone
      rw [Process.receiveSnapshot, hchannel] at hdone
      cases hdone
      rw [Pair.get_set, if_pos rfl]
      exact List.mem_append_right _ (List.mem_singleton_self snapshot)
    · change s.receiveSnapshot player = .panicked at hpanicked
      rw [Process.receiveSnapshot, hchannel] at hpanicked
      cases hpanicked
  · intro matchEnd hreceive hnext
    obtain ⟨⟨received, matchEnds⟩, hchannel, heq⟩ := Outcome.map_eq_done hreceive
    change received = some matchEnd at heq
    subst heq
    obtain ⟨-, hdone | ⟨hpanicked, -⟩⟩ := Process.next_cases hnext
    · change s.receiveMatchEnd player = .done t at hdone
      rw [Process.receiveMatchEnd, hchannel] at hdone
      cases hdone
      rw [Pair.get_set, if_pos rfl]
      exact List.mem_append_right _ (List.mem_singleton_self matchEnd)
    · change s.receiveMatchEnd player = .panicked at hpanicked
      rw [Process.receiveMatchEnd, hchannel] at hpanicked
      cases hpanicked

theorem Carried.call (h : Carried codec w n) (hcodec : codec.Inverse) {event : HandlerEvent}
    (hanswers : w.Answers event) {action : Match.Action}
    (hcall : sessionCall codec w.conversation.server w.player event = some action) {process : Process}
    (hprocess : w.process.next action = some process)
    (hnext : { w with process }.converse codec writer (.server event) = some w') :
    ∃ action' n', n.next action' = some n' ∧ n.Reliable action' ∧ Carried codec w' n' := by
  obtain ⟨conversation, hconversation, rfl⟩ := Option.map_eq_some_iff.1 hnext
  change w.conversation.next codec writer (.server event) = some conversation at hconversation
  obtain ⟨hstart, hrecalls, n', hact, hserver, hplayer, hclient, hdatagrams, hhosted⟩ :=
    h.act hprocess
  have hcarried : Carried codec { w with process, conversation } n' := by
    have hclient' : conversation.client = w.conversation.client := by
      obtain ⟨-, server, -, rfl⟩ := converse_server hconversation
      rfl
    refine ⟨hserver, hplayer, hclient, hhosted, ?_, h.polled.of_eq rfl rfl rfl rfl hstart hrecalls
      (by rw [hclient']) (by rw [hclient'])⟩
    change Fed codec conversation (process.players.get w.player).matchStart
      (process.received.get w.player) n'.datagrams
    rw [hstart, hdatagrams]
    refine (h.fed.recalls hrecalls).handler hcodec hconversation ?_ ?_ ?_
    · rintro other rfl
      exact hanswers
    · rintro snapshot rfl
      cases hcall
      exact received_of_next.1 snapshot hanswers hprocess
    · rintro matchEnd rfl
      cases hcall
      exact received_of_next.2 matchEnd hanswers hprocess
  have hforeign : NetworkMatch.Foreign n.player action →
      ∃ action' n', n.next action' = some n' ∧ n.Reliable action' ∧
        Carried codec { w with process, conversation } n' := by
    intro hforeign
    refine ⟨.server action, n', ?_, trivial, hcarried⟩
    rw [NetworkMatch.next, if_pos hforeign]
    exact hact
  cases event with
  | next =>
      apply hforeign
      unfold sessionCall at hcall
      dsimp only at hcall
      split at hcall
      · cases hcall
        trivial
      · cases hcall
        trivial
      · cases hcall
  | selectSnapshot snapshot =>
      cases snapshot with
      | none => cases hcall
      | some snapshot =>
          cases hcall
          exact hforeign trivial
  | selectMatchEnd matchEnd =>
      cases matchEnd with
      | none => cases hcall
      | some matchEnd =>
          cases hcall
          exact hforeign trivial
  | receiveDatagram datagram submitted =>
      cases datagram with
      | none => cases hcall
      | some payload =>
          obtain ⟨hcarries, -⟩ := converse_server hconversation
          obtain ⟨input, hinput, hunmarshal⟩ := h.fed.sent payload hcarries
          unfold sessionCall at hcall
          dsimp only at hcall
          split_ifs at hcall
          rw [hunmarshal] at hcall
          cases hcall
          obtain ⟨i, hi⟩ := List.mem_iff_getElem?.1 hinput
          refine ⟨.deliver i, n', ?_, trivial, hcarried⟩
          rw [NetworkMatch.next, hi, Option.bind_some, h.player]
          exact hact
  | disconnect | acceptStream | read | authenticate | selectDone | selectReceiver | timer => cases hcall

theorem Carried.fixedTick (h : Carried codec w n) (hcodec : codec.Inverse) {frame : InputFrame}
    (hnext : w.fixedTick codec writer frame = some w') :
    Carried codec w' (n.fixedTick frame) := by
  have hstep : n.next (.fixedTick frame) = some (n.fixedTick frame) := rfl
  have hhosted := h.hosted.next hstep
  have hkept : (w.controller.fixedTick frame).1.model.started = w.controller.model.started ∧
      (w.controller.fixedTick frame).1.model.matchEnd = w.controller.model.matchEnd := by
    unfold MatchController.fixedTick
    split_ifs
    · obtain ⟨-, -, hstarted, hended⟩ := advanceTick_prediction w.controller frame
      exact ⟨hstarted, hended⟩
    · exact ⟨rfl, rfl⟩
  have hdatagrams : (n.fixedTick frame).datagrams =
      n.datagrams ++ (w.controller.fixedTick frame).2.toList.map Client.toProtobuf := by
    rw [← h.client]
    rfl
  have hclient : (n.fixedTick frame).client = (w.controller.fixedTick frame).1 := by
    rw [← h.client]
    rfl
  unfold WiredMatch.fixedTick at hnext
  dsimp only at hnext
  cases hinput : (w.controller.fixedTick frame).2 with
  | none =>
      rw [hinput] at hnext hdatagrams
      cases hnext
      refine ⟨h.server, h.player, hclient, hhosted, ?_,
        h.polled.of_eq rfl rfl hkept.1 hkept.2 rfl recalls_rfl rfl rfl⟩
      rw [hdatagrams, Option.toList_none, List.map_nil, List.append_nil]
      exact h.fed
  | some input =>
      rw [hinput] at hnext hdatagrams
      obtain ⟨conversation, hconversation, rfl⟩ := Option.map_eq_some_iff.1 hnext
      have hsending : ∀ sent ∈ (w.conversation.client.sendInput input).sending,
          Client.toProtobuf sent ∈ n.datagrams ++ [Client.toProtobuf input] := by
        intro sent hsent
        unfold Connection.sendInput at hsent
        split_ifs at hsent
        · exact List.mem_append_left _ (h.fed.sending sent hsent)
        · cases hsent
          exact List.mem_append_right _ (List.mem_singleton_self _)
      have hsame : conversation.client.starts = w.conversation.client.starts ∧
          conversation.client.ends = w.conversation.client.ends := by
        rw [(converse_client hconversation).2]
        change (w.conversation.client.sendInput input).starts = _ ∧
          (w.conversation.client.sendInput input).ends = _
        unfold Connection.sendInput
        split_ifs
        · exact ⟨rfl, rfl⟩
        · exact ⟨rfl, rfl⟩
      refine ⟨h.server, h.player, hclient, hhosted, ?_,
        h.polled.of_eq rfl rfl hkept.1 hkept.2 rfl recalls_rfl hsame.1 hsame.2⟩
      rw [hdatagrams]
      exact h.fed.client hcodec hconversation (fun _ hin => List.mem_append_left _ hin) hsending

theorem Carried.pollMatchStart (h : Carried codec w n) (hcodec : codec.Inverse) (hfree : w.Free)
    (hnext : { w with polling := .snapshot w.conversation.client.matchStart }.converse codec writer
      (.client .pollMatchStart) = some w') : Carried codec w' n := by
  obtain ⟨conversation, hconversation, rfl⟩ := Option.map_eq_some_iff.1 hnext
  change w.conversation.next codec writer (.client .pollMatchStart) = some conversation at hconversation
  have hclient := (converse_client hconversation).2
  have hfed := h.fed.client hcodec hconversation (fun _ hin => hin) h.fed.sending
  refine ⟨h.server, h.player, h.client, h.hosted, hfed, h.fed.matchStart hcodec,
    fun _ hin => (by cases hin), fun _ hin => (by cases hin), ?_, ?_, h.polled.begun, h.polled.finished⟩
  · have hstarts := h.polled.starts
    rw [hfree.1] at hstarts
    change conversation.client.starts.length = _
    rw [hclient]
    change (w.conversation.client.starts ++ _).length = _
    rw [List.length_append, hstarts]
    rfl
  · have hends := h.polled.ends
    rw [hfree.1] at hends
    change conversation.client.ends.length = _
    rw [hclient]
    exact hends

theorem Carried.pollSnapshot (h : Carried codec w n) (hcodec : codec.Inverse) {start : Option MatchStart}
    (hpolling : w.polling = .snapshot start)
    (hnext : { w with polling := .matchEnd start w.conversation.client.snapshots.getLast? }.converse codec
      writer (.client .pollSnapshot) = some w') : Carried codec w' n := by
  obtain ⟨conversation, hconversation, rfl⟩ := Option.map_eq_some_iff.1 hnext
  change w.conversation.next codec writer (.client .pollSnapshot) = some conversation at hconversation
  have hclient := (converse_client hconversation).2
  have hfed := h.fed.client hcodec hconversation (fun _ hin => hin) h.fed.sending
  have hstart := h.polled.start
  have hstarts := h.polled.starts
  have hends := h.polled.ends
  rw [hpolling] at hstart hstarts hends
  refine ⟨h.server, h.player, h.client, h.hosted, hfed, hstart, fun snapshot hin => ?_,
    fun _ hin => (by cases hin), ?_, ?_, h.polled.begun, h.polled.finished⟩
  · exact h.fed.snapshot snapshot (List.mem_of_getLast? hin)
  · change conversation.client.starts.length = _
    rw [hclient]
    exact hstarts
  · change conversation.client.ends.length = _
    rw [hclient]
    exact hends

theorem Carried.pollMatchEnd (h : Carried codec w n) (hcodec : codec.Inverse) {start : Option MatchStart}
    {snapshot : Option WorldSnapshot} (hpolling : w.polling = .matchEnd start snapshot)
    (hnext : { w with polling := .connection start snapshot w.conversation.client.matchEnd }.converse codec
      writer (.client .pollMatchEnd) = some w') : Carried codec w' n := by
  obtain ⟨conversation, hconversation, rfl⟩ := Option.map_eq_some_iff.1 hnext
  change w.conversation.next codec writer (.client .pollMatchEnd) = some conversation at hconversation
  have hclient := (converse_client hconversation).2
  have hfed := h.fed.client hcodec hconversation (fun _ hin => hin) h.fed.sending
  have hstart := h.polled.start
  have hshown := h.polled.shown
  have hstarts := h.polled.starts
  have hends := h.polled.ends
  rw [hpolling] at hstart hshown hstarts hends
  refine ⟨h.server, h.player, h.client, h.hosted, hfed, hstart, hshown, h.fed.matchEnd hcodec, ?_, ?_,
    h.polled.begun, h.polled.finished⟩
  · change conversation.client.starts.length = _
    rw [hclient]
    exact hstarts
  · change conversation.client.ends.length = _
    rw [hclient]
    change (w.conversation.client.ends ++ _).length = _
    rw [List.length_append, hends]
    rfl

theorem poll_told (m : MatchModel) (start : Option MatchStart) (snapshot : Option WorldSnapshot)
    (matchEnd : Option MatchEnd) :
    (m.poll start snapshot matchEnd).started = (m.started || start.isSome) ∧
      (m.poll start snapshot matchEnd).matchEnd = matchEnd.or m.matchEnd := by
  have hstart : (start.toList.foldl MatchModel.applyStart m).started = (m.started || start.isSome) ∧
      (start.toList.foldl MatchModel.applyStart m).matchEnd = m.matchEnd := by
    cases start with
    | none => exact ⟨(Bool.or_false _).symm, rfl⟩
    | some start =>
        obtain ⟨hstarted, -, hended⟩ := applyStart_forward m (some start)
        exact ⟨(hstarted (.inr rfl)).trans (Bool.or_true _).symm, hended⟩
  have hsnapshot : ∀ m : MatchModel,
      (snapshot.toList.foldl MatchModel.applySnapshot m).started = m.started ∧
        (snapshot.toList.foldl MatchModel.applySnapshot m).matchEnd = m.matchEnd := by
    intro m
    cases snapshot with
    | none => exact ⟨rfl, rfl⟩
    | some snapshot =>
        obtain ⟨hended, hstarted⟩ := applySnapshot_kept m snapshot
        exact ⟨hstarted, hended⟩
  obtain ⟨hstarted, hended⟩ := hsnapshot (start.toList.foldl MatchModel.applyStart m)
  unfold MatchModel.poll
  cases matchEnd with
  | none => exact ⟨hstarted.trans hstart.1, hended.trans hstart.2⟩
  | some matchEnd =>
      refine ⟨?_, rfl⟩
      exact (applySnapshot_kept _ matchEnd.finalSnapshot).2.trans (hstarted.trans hstart.1)

/-- What the session's consumer has received is a choice of the abstract network. -/
theorem exists_poll (n : NetworkMatch) {start : Option MatchStart} {snapshot : Option WorldSnapshot}
    {matchEnd : Option MatchEnd}
    (hstart : ∀ other ∈ start, other = (n.server.players.get n.player).matchStart)
    (hsnapshot : ∀ world ∈ snapshot, world ∈ (n.server.received.get n.player).snapshots)
    (hend : ∀ last ∈ matchEnd, last ∈ (n.server.received.get n.player).matchEnds) :
    n.polledStart start.isSome = start ∧ (∃ i, n.polledSnapshot i = snapshot) ∧
      ∃ i, n.polledEnd i = matchEnd := by
  refine ⟨?_, ?_, ?_⟩
  · cases start with
    | none => rfl
    | some other => exact congrArg some (hstart other rfl).symm
  · cases snapshot with
    | none => exact ⟨none, rfl⟩
    | some world =>
        obtain ⟨i, hi⟩ := List.mem_iff_getElem?.1 (hsnapshot world rfl)
        exact ⟨some i, hi⟩
  · cases matchEnd with
    | none => exact ⟨none, rfl⟩
    | some last =>
        obtain ⟨i, hi⟩ := List.mem_iff_getElem?.1 (hend last rfl)
        exact ⟨some i, hi⟩

theorem Carried.finishPoll (h : Carried codec w n) (hcodec : codec.Inverse) {start : Option MatchStart}
    {snapshot : Option WorldSnapshot} {matchEnd : Option MatchEnd}
    (hpolling : w.polling = .connection start snapshot matchEnd) :
    ∃ action n', n.next action = some n' ∧ n.Reliable action ∧
      Carried codec (w.finishPoll start snapshot matchEnd) n' := by
  obtain ⟨hstartKnown, hshown, hended, hstarts, hends, hbegun, hover⟩ := h.polled
  rw [hpolling] at hstartKnown hshown hended hstarts hends
  obtain ⟨hstartsLength, hendsLength⟩ := h.fed.once hcodec
  change ∀ other ∈ start, other = (w.process.players.get w.player).matchStart at hstartKnown
  change ∀ world ∈ snapshot, world ∈ (w.process.received.get w.player).snapshots at hshown
  change ∀ last ∈ matchEnd, last ∈ (w.process.received.get w.player).matchEnds at hended
  rw [← h.server, ← h.player] at hstartKnown hshown hended
  obtain ⟨hpolledStart, ⟨i, hpolledSnapshot⟩, ⟨j, hpolledEnd⟩⟩ :=
    exists_poll n hstartKnown hshown hended
  have hfirst : start.isSome = true → w.controller.model.started = false := by
    intro hsome
    by_contra hstarted
    have hone := hbegun (by simpa using hstarted)
    have hlength : start.toList.length = 1 := by
      obtain ⟨_, rfl⟩ := Option.isSome_iff_exists.1 hsome
      rfl
    change _ = _ + start.toList.length at hstarts
    omega
  have hlast : matchEnd.isSome = true → w.controller.model.matchEnd = none := by
    intro hsome
    by_contra hknown
    have hone := hover hknown
    have hlength : matchEnd.toList.length = 1 := by
      obtain ⟨_, rfl⟩ := Option.isSome_iff_exists.1 hsome
      rfl
    change _ = _ + matchEnd.toList.length at hends
    omega
  refine ⟨.pollNetwork start.isSome i j w.conversation.client.isConnected, _, rfl, ⟨?_, ?_⟩, ?_⟩
  · rw [h.client]
    exact hfirst
  · rw [hpolledEnd, h.client]
    exact hlast
  · have hstep : n.next (.pollNetwork start.isSome i j w.conversation.client.isConnected) =
        some (n.pollNetwork start.isSome i j w.conversation.client.isConnected) := rfl
    have hhosted := h.hosted.next hstep
    obtain ⟨htoldStart, htoldEnd⟩ := poll_told w.controller.model start snapshot matchEnd
    have hcount : ∀ (p : NetworkUpdate → Bool) update,
        (w.updates ++ [update]).countP p = w.updates.countP p + (p update).toNat := by
      intro p update
      rw [List.countP_append, List.countP_singleton]
      cases p update <;> rfl
    have hlength : ∀ {α : Type} (value : Option α), value.toList.length = value.isSome.toNat := by
      intro α value
      cases value <;> rfl
    refine ⟨h.server, h.player, ?_, hhosted, h.fed, fun _ hin => (by cases hin),
      fun _ hin => (by cases hin), fun _ hin => (by cases hin), ?_, ?_, ?_, ?_⟩
    · change (n.client.pollNetwork (n.polledStart start.isSome) (n.polledSnapshot i) (n.polledEnd j)
        w.conversation.client.isConnected).2 = _
      rw [hpolledStart, hpolledSnapshot, hpolledEnd, h.client]
      rfl
    · change w.conversation.client.starts.length = (w.updates ++ [_]).countP _ + 0
      rw [hcount, Nat.add_zero, hstarts]
      exact congrArg (_ + ·) (hlength start)
    · change w.conversation.client.ends.length = (w.updates ++ [_]).countP _ + 0
      rw [hcount, Nat.add_zero, hends]
      exact congrArg (_ + ·) (hlength matchEnd)
    · intro hstarted
      change (w.controller.model.poll start snapshot matchEnd).started = true at hstarted
      change (w.updates ++ [_]).countP _ ≠ 0
      rw [htoldStart, Bool.or_eq_true] at hstarted
      rw [hcount]
      obtain hbefore | hnow := hstarted
      · have hone := hbegun hbefore
        omega
      · change _ + start.isSome.toNat ≠ 0
        rw [hnow]
        exact Nat.succ_ne_zero _
    · intro hknown
      change (w.controller.model.poll start snapshot matchEnd).matchEnd ≠ none at hknown
      change (w.updates ++ [_]).countP _ ≠ 0
      rw [htoldEnd] at hknown
      rw [hcount]
      cases matchEnd with
      | none =>
          have hone := hover hknown
          omega
      | some last => exact Nat.succ_ne_zero _

/-- Every step of the connection is none or one of the abstract network. -/
theorem Carried.next (h : Carried codec w n) (hcodec : codec.Inverse) {action : WireAction}
    (hnext : w.next codec writer action = some w') : Carried codec w' n ∨
      ∃ action' n', n.next action' = some n' ∧ n.Reliable action' ∧ Carried codec w' n' := by
  unfold WiredMatch.next at hnext
  cases action with
  | handler event =>
      change w.handle codec writer event = some w' at hnext
      unfold WiredMatch.handle at hnext
      split_ifs at hnext with hanswers
      split at hnext
      · rename_i hcall
        obtain ⟨conversation, hconversation, rfl⟩ := Option.map_eq_some_iff.1 hnext
        have hclient : conversation.client = w.conversation.client := by
          obtain ⟨-, server, -, rfl⟩ := converse_server hconversation
          rfl
        refine .inl (h.converse (h.fed.handler hcodec hconversation ?_ ?_ ?_) (by rw [hclient])
          (by rw [hclient]))
        · rintro other rfl
          exact hanswers
        · rintro snapshot rfl
          cases hcall
        · rintro matchEnd rfl
          cases hcall
      · rename_i call hcall
        obtain ⟨process, hprocess, hnext⟩ := Option.bind_eq_some_iff.1 hnext
        exact .inr (h.call hcodec hanswers hcall hprocess hnext)
  | decline payload =>
      dsimp only at hnext
      split_ifs at hnext
      obtain ⟨conversation, hconversation, rfl⟩ := Option.map_eq_some_iff.1 hnext
      have hclient : conversation.client = w.conversation.client := by
        obtain ⟨-, server, -, rfl⟩ := converse_server hconversation
        rfl
      exact .inl (h.converse (h.fed.handler hcodec hconversation (fun _ heq => (by cases heq))
        (fun _ heq => (by cases heq)) fun _ heq => (by cases heq)) (by rw [hclient]) (by rw [hclient]))
  | client event =>
      dsimp only at hnext
      split_ifs at hnext with hcallback
      obtain ⟨conversation, hconversation, rfl⟩ := Option.map_eq_some_iff.1 hnext
      have hunpolled := next_unpolled w.conversation.client codec hcallback
      have hclient := (converse_client hconversation).2
      refine .inl (h.converse ?_ (by rw [hclient, hunpolled.starts]) (by rw [hclient, hunpolled.ends]))
      exact h.fed.client hcodec hconversation (fun _ hin => hin)
        fun input hin => h.fed.sending input (hunpolled.sending input hin)
  | fixedTick frame =>
      dsimp only at hnext
      split_ifs at hnext
      exact .inr ⟨.fixedTick frame, _, rfl, trivial, h.fixedTick hcodec hnext⟩
  | pollMatchStart =>
      dsimp only at hnext
      split_ifs at hnext with hfree
      exact .inl (h.pollMatchStart hcodec hfree hnext)
  | pollSnapshot =>
      dsimp only at hnext
      split at hnext
      · exact .inl (h.pollSnapshot hcodec ‹_› hnext)
      · cases hnext
  | pollMatchEnd =>
      dsimp only at hnext
      split at hnext
      · exact .inl (h.pollMatchEnd hcodec ‹_› hnext)
      · cases hnext
  | isConnected =>
      dsimp only at hnext
      split at hnext
      · cases hnext
        exact .inr (h.finishPoll hcodec ‹_›)
      · cases hnext
  | server action =>
      dsimp only at hnext
      split_ifs at hnext with helsewhere
      obtain ⟨process, hprocess, rfl⟩ := Option.map_eq_some_iff.1 hnext
      obtain ⟨hstart, hrecalls, n', hact, hserver, hplayer, hclient, hdatagrams, hhosted⟩ :=
        h.act hprocess
      have hforeign : NetworkMatch.Foreign n.player action := by
        rw [h.player]
        cases action with
        | submitInput => exact helsewhere
        | _ => trivial
      refine .inr ⟨.server action, n', ?_, trivial, hserver, hplayer, hclient, hhosted, ?_,
        h.polled.of_eq rfl rfl rfl rfl hstart hrecalls rfl rfl⟩
      · rw [NetworkMatch.next, if_pos hforeign]
        exact hact
      · change Fed codec w.conversation (process.players.get w.player).matchStart
          (process.received.get w.player) n'.datagrams
        rw [hstart, hdatagrams]
        exact h.fed.recalls hrecalls

end

theorem wire_carried {matchID playerA playerB : String} {reporter : Bool} {server : Process}
    (h : MatchServer.startMatch matchID playerA playerB reporter = .ok server) (codec : Codec)
    (player : Side) (stream : σ) (matchToken : String) :
    Carried codec (wire server player stream matchToken) (connect server player) where
  server := rfl
  player := rfl
  client := rfl
  hosted := connect_hosted h player
  fed :=
    { faithful := Conversation.newConversation_faithful codec stream matchToken _
      session := fun _ hin => by cases hin
      snapshots := fun _ hin => by cases hin
      matchEnds := fun _ hin => by cases hin
      sent := fun _ hin => by cases hin
      sending := fun _ hin => by cases hin }
  polled :=
    { start := fun _ hin => by cases hin
      shown := fun _ hin => by cases hin
      ended := fun _ hin => by cases hin
      starts := rfl
      ends := rfl
      begun := fun hin => (Bool.false_ne_true hin).elim
      finished := fun hne => absurd rfl hne }

end

/-- Whatever the connection does, the match and the client do what they can do over the abstract network,
which hands over the start and the end once: there is a run of it to the same match and the same client.
And `PollNetwork` reports one start and one end at most. -/
theorem wired_refines_network {matchID playerA playerB : String} {reporter : Bool} {server : Process}
    (hstart : MatchServer.startMatch matchID playerA playerB reporter = .ok server) {σ : Type}
    (codec : Codec) (hcodec : codec.Inverse) (writer : Writer σ) (stream : σ) (matchToken : String)
    (player : Side) (actions : List WireAction) (w : WiredMatch σ)
    (hrun : Transition.run (WiredMatch.next codec writer) (wire server player stream matchToken)
      actions = some w) :
    (∃ steps n, Transition.run NetworkMatch.next (connect server player) steps = some n ∧
      Transition.Meets NetworkMatch.next NetworkMatch.Reliable (connect server player) steps ∧
      n.server = w.process ∧ n.player = w.player ∧ n.client = w.controller) ∧
    w.updates.countP NetworkUpdate.started ≤ 1 ∧ w.updates.countP NetworkUpdate.ended ≤ 1 := by
  obtain ⟨steps, n, hsteps, hmeets, hcarried⟩ := Transition.run_simulates
    (R := Carried codec) (C := NetworkMatch.Reliable)
    (fun _ _ _ _ h hnext => h.next hcodec hnext) hrun (wire_carried hstart codec player stream matchToken)
  obtain ⟨hstarts, hends⟩ := hcarried.fed.once hcodec
  have hstartsLength := hcarried.polled.starts
  have hendsLength := hcarried.polled.ends
  refine ⟨⟨steps, n, hsteps, hmeets, hcarried.server, hcarried.player, hcarried.client⟩, ?_, ?_⟩
  · omega
  · omega

def startCodec (start : MatchStart) : Codec where
  client := Transport.twoMessages (.authenticate ⟨"alice", "ticket"⟩) .empty
  server := Transport.twoMessages Transport.ready (.matchStart start)
  snapshot := Transport.twoMessages start.initialSnapshot start.initialSnapshot
  input := Transport.twoMessages ⟨0, 0, 0, []⟩ ⟨1, 0, 0, []⟩

/-- Alice connects; `Ready` and the start reach her in two pieces, and she polls once. -/
def polledOnce (start : MatchStart) : List WireAction :=
  [.client (.connected none), .client (.streamSend true), .handler (.acceptStream true),
    .handler (.read ⟨[[0, 0], [0, 1, 1]], .eof⟩), .handler (.authenticate (some start)),
    .handler .next, .handler .next, .handler .next,
    .client (.receive [[0, 0, 0, 1, 1, 0], [0, 0, 1, 2]]),
    .pollMatchStart, .pollSnapshot, .pollMatchEnd, .isConnected]

theorem wired_refines_network_polled : ∃ server steps n,
    MatchServer.startMatch "match-1" "alice" "bob" true = .ok server ∧
    Transition.run NetworkMatch.next (connect server .a) steps = some n ∧ n.server.startCount = 1 ∧
    n.client.model.started = true := by
  have hstart := MatchServer.startMatch_of_players "match-1" (show "alice" ≠ "" by decide)
    (show "bob" ≠ "" by decide) (by decide) true
  generalize hserver : MatchServer.initialProcess _ _ _ _ _ = server at hstart
  have hrun : (Transition.run (WiredMatch.next (startCodec (server.players.get .a).matchStart)
      fun (_ : Unit) buffer => (buffer.length, none, ())) (wire server .a () "ticket")
      (polledOnce (server.players.get .a).matchStart)).map (fun w =>
        decide (w.process.startCount = 1 ∧ w.controller.model.started = true)) = some true := by
    rw [← hserver]
    decide +kernel
  obtain ⟨w, hrun, hstate⟩ := Option.map_eq_some_iff.1 hrun
  obtain ⟨hcount, hstarted⟩ := of_decide_eq_true hstate
  have hcodec : (startCodec (server.players.get .a).matchStart).Inverse :=
    ⟨Transport.twoMessages_inverse _ _, Transport.twoMessages_inverse _ _,
      Transport.twoMessages_inverse _ _, Transport.twoMessages_inverse _ _⟩
  obtain ⟨⟨steps, n, hsteps, -, hprocess, -, hclient⟩, -⟩ :=
    wired_refines_network hstart _ hcodec _ _ _ _ _ w hrun
  refine ⟨server, steps, n, hstart, hsteps, ?_, ?_⟩
  · rw [hprocess]
    exact hcount
  · rw [hclient]
    exact hstarted

end PvpDuel.Delivery
