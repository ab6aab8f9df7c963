import PvpDuel.Transport.Client

/-!
# The two ends of a connection

A handler and a client with the network between them. The stream delivers the bytes of the other end in
their order, each as late as it likes; any datagram of the other end may arrive, as often and as late as
it likes, or never; and the client is told that the stream or the connection is closed only after the
server has closed it, and of the stream only behind its last byte.
-/

namespace PvpDuel.Transport

open Gamev1 (MatchEnd MatchStart PlayerInput WorldSnapshot)
open Incremental (Encodes Holds consume)

structure Codec.Inverse (codec : Codec) : Prop where
  client : codec.client.Inverse
  server : codec.server.Inverse
  snapshot : codec.snapshot.Inverse
  input : codec.input.Inverse

/-- The bytes of the server's stream that a callback brings. -/
def ClientEvent.bytes : ClientEvent → List UInt8
  | .receive buffers => buffers.flatten
  | _ => []

/-- The two ends, and what the client has received of the server's stream. -/
structure Conversation (σ : Type) where
  server : Handler σ
  client : Connection
  received : List UInt8

def newConversation {σ : Type} (stream : σ) (matchToken playerId : String) : Conversation σ where
  server := newHandler stream
  client := newConnection matchToken playerId
  received := []

inductive Event
  | server (event : HandlerEvent)
  | client (event : ClientEvent)
deriving DecidableEq, Repr

namespace Conversation

variable {σ : Type}

/-- What the network can bring. The server resets no stream. -/
def Carries (n : Conversation σ) : Event → Prop
  | .server (.read stream) => stream.bytes <+: n.client.framesSent
  | .server (.receiveDatagram (some payload) _) => payload ∈ n.client.datagramsSent
  | .client (.receive buffers) => n.received ++ buffers.flatten <+: n.server.written
  | .client (.datagramReceived buffer) => buffer ∈ n.server.datagrams
  | .client .shutdownInitiatedByPeer => n.server.closedWithError = true
  | .client .peerSendShutdown => n.server.streamClosed = true ∧ n.received = n.server.written
  | .client .peerSendAborted => False
  | _ => True

instance (n : Conversation σ) (event : Event) : Decidable (n.Carries event) := by
  unfold Carries
  split <;> infer_instance

def next (codec : Codec) (writer : Writer σ) (n : Conversation σ) (event : Event) :
    Option (Conversation σ) :=
  if n.Carries event then
    match event with
    | .server event => (n.server.next codec writer event).map fun server => { n with server }
    | .client event => some { n with
        client := n.client.next codec event
        received := n.received ++ event.bytes }
  else none

end Conversation

/-! ### What a callback or a call changes on the client -/

/-- The texts that an event can set as the error, those of the stream's bytes apart. -/
def ClientEvent.messages : ClientEvent → List String
  | .connectFailed call => [call.failure]
  | .connectTimedOut => ["QUIC connection timed out"]
  | .connected _ => [ApiCall.streamOpen.failure, ApiCall.streamStart.failure]
  | .streamSend _ => ["could not serialize protobuf frame", ApiCall.streamSend.failure]
  | .shutdownInitiatedByTransport => ["QUIC transport closed the connection"]
  | .shutdownInitiatedByPeer => ["match server closed the connection"]
  | .peerSendAborted | .peerSendShutdown => ["match server closed the stream"]
  | .datagramSend _ => ["could not serialize protobuf datagram"]
  | _ => []

namespace Connection

/-- What an event leaves alone that brings no bytes of the stream. -/
structure Keeps (codec : Codec) (c c' : Connection) (event : ClientEvent) : Prop where
  delivered : c'.delivered = c.delivered
  receiveBuffer : c'.receiveBuffer = c.receiveBuffer
  matchEnded : c'.matchEnded = c.matchEnded
  authenticated : c'.authenticated = c.authenticated
  authentication : c'.authentication = c.authentication
  error : c'.error = c.error ∨ c'.error ∈ event.messages
  arrived : c'.arrived = c.arrived ∨ ∃ buffer snapshot, event = .datagramReceived buffer ∧
    codec.snapshot.parse buffer = some snapshot ∧ c'.arrived = c.arrived ++ [snapshot]
  framesSent : c'.framesSent = c.framesSent ∨
    frame codec.client c.authentication ≠ [] ∧
      c'.framesSent = c.framesSent ++ frame codec.client c.authentication
  datagramsSent : c'.datagramsSent = c.datagramsSent ∨ ∃ input,
    c.sending = some input ∧ Connection.serialize codec (Client.toProtobuf input) ≠ [] ∧
      c'.datagramsSent = c.datagramsSent ++ [Connection.serialize codec (Client.toProtobuf input)]

variable {codec : Codec} {c : Connection}

theorem keeps_rfl {event : ClientEvent} : Keeps codec c c event :=
  ⟨rfl, rfl, rfl, rfl, rfl, .inl rfl, .inl rfl, .inl rfl, .inl rfl⟩

theorem Keeps.setError {c' : Connection} {event : ClientEvent} (h : Keeps codec c c' event)
    {message : String} (hmessage : message ∈ event.messages) :
    Keeps codec c (c'.setError message) event where
  delivered := h.delivered
  receiveBuffer := h.receiveBuffer
  matchEnded := h.matchEnded
  authenticated := h.authenticated
  authentication := h.authentication
  error := by
    change (if c'.error = "" then message else c'.error) = c.error ∨
      (if c'.error = "" then message else c'.error) ∈ _
    split_ifs
    · exact .inr hmessage
    · exact h.error
  arrived := h.arrived
  framesSent := h.framesSent
  datagramsSent := h.datagramsSent

theorem keeps_serverClosed {event : ClientEvent} {message : String} (h : message ∈ event.messages) :
    Keeps codec c (c.serverClosed message) event := by
  unfold serverClosed
  by_cases hended : c.matchEnded = true
  · rw [if_pos hended]
    exact ⟨rfl, rfl, rfl, rfl, rfl, .inl rfl, .inl rfl, .inl rfl, .inl rfl⟩
  · rw [if_neg hended]
    exact keeps_rfl.setError h

theorem keeps_stream {event : ClientEvent} : Keeps codec c { c with stream := true } event :=
  ⟨rfl, rfl, rfl, rfl, rfl, .inl rfl, .inl rfl, .inl rfl, .inl rfl⟩

theorem keeps_streamSend (sends : Bool) : Keeps codec c (c.streamSend codec sends) (.streamSend sends) := by
  unfold streamSend
  split
  · have hfree : Keeps codec c { c with authenticating := false } (.streamSend sends) :=
      ⟨rfl, rfl, rfl, rfl, rfl, .inl rfl, .inl rfl, .inl rfl, .inl rfl⟩
    dsimp only
    split_ifs with hframe
    · exact hfree.setError (by simp [ClientEvent.messages])
    · exact ⟨rfl, rfl, rfl, rfl, rfl, .inl rfl, .inl rfl, .inr ⟨hframe, rfl⟩, .inl rfl⟩
    · exact hfree.setError (by simp [ClientEvent.messages])
  · exact keeps_rfl

theorem next_keeps (c : Connection) (codec : Codec) (event : ClientEvent)
    (h : ∀ buffers, event ≠ .receive buffers) :
    Keeps codec c (c.next codec event) event := by
  cases event with
  | connectFailed call => exact keeps_rfl.setError (List.mem_singleton_self _)
  | connectTimedOut =>
      change Keeps codec c c.connectTimedOut .connectTimedOut
      unfold connectTimedOut
      split_ifs
      · exact ⟨rfl, rfl, rfl, rfl, rfl, .inr (List.mem_singleton_self _), .inl rfl, .inl rfl, .inl rfl⟩
      · exact keeps_rfl
  | connected failed =>
      change Keeps codec c (c.openStreamAndAuthenticate failed) (.connected failed)
      unfold openStreamAndAuthenticate
      split
      · exact keeps_rfl.setError (by simp [ClientEvent.messages])
      · exact keeps_stream.setError (by simp [ClientEvent.messages])
      · unfold send
        split_ifs
        · exact keeps_stream
        · exact ⟨rfl, rfl, rfl, rfl, rfl, .inl rfl, .inl rfl, .inl rfl, .inl rfl⟩
  | streamSend sends => exact keeps_streamSend sends
  | shutdownInitiatedByTransport | shutdownInitiatedByPeer | peerSendAborted | peerSendShutdown =>
      exact keeps_serverClosed (List.mem_singleton_self _)
  | datagramStateChanged | shutdownComplete | pollMatchStart | pollSnapshot | pollMatchEnd =>
      exact ⟨rfl, rfl, rfl, rfl, rfl, .inl rfl, .inl rfl, .inl rfl, .inl rfl⟩
  | datagramReceived buffer =>
      change Keeps codec c (c.receiveDatagram codec buffer) (.datagramReceived buffer)
      unfold receiveDatagram
      split_ifs
      · exact keeps_rfl
      · split
        · exact keeps_rfl
        · rename_i snapshot hparse
          exact ⟨rfl, rfl, rfl, rfl, rfl, .inl rfl, .inr ⟨buffer, snapshot, rfl, hparse, rfl⟩, .inl rfl,
            .inl rfl⟩
  | receive buffers => exact absurd rfl (h buffers)
  | sendInput input =>
      change Keeps codec c (c.sendInput input) (.sendInput input)
      unfold sendInput
      split_ifs
      · exact keeps_rfl
      · exact ⟨rfl, rfl, rfl, rfl, rfl, .inl rfl, .inl rfl, .inl rfl, .inl rfl⟩
  | datagramSend sends =>
      change Keeps codec c (c.datagramSend codec sends) (.datagramSend sends)
      unfold datagramSend
      split
      · exact keeps_rfl
      · rename_i input hsending
        have hfree : Keeps codec c { c with sending := none } (.datagramSend sends) :=
          ⟨rfl, rfl, rfl, rfl, rfl, .inl rfl, .inl rfl, .inl rfl, .inl rfl⟩
        dsimp only
        split_ifs with hpayload
        · exact hfree.setError (List.mem_singleton_self _)
        · exact ⟨rfl, rfl, rfl, rfl, rfl, .inl rfl, .inl rfl, .inl rfl,
            .inr ⟨input, hsending, hpayload, rfl⟩⟩
        · exact hfree

end Connection

/-! ### What the stream brings -/

namespace QuicClient

variable {c : QuicClient} {envelopes : List ServerEnvelope}

theorem foldl_handle (c : QuicClient) (envelopes : List ServerEnvelope) :
    ((envelopes.foldl handle c).error = c.error ∨
      ∃ envelope ∈ envelopes, envelope.errorText = some (envelopes.foldl handle c).error) ∧
    ((∀ snapshot, ServerEnvelope.snapshot snapshot ∉ envelopes) →
      (envelopes.foldl handle c).snapshots = c.snapshots) ∧
    ((envelopes.foldl handle c).authenticated = c.authenticated ∨
      ∃ tickRate, ServerEnvelope.ready (envelopes.foldl handle c).authenticated tickRate ∈ envelopes) := by
  induction envelopes generalizing c with
  | nil => exact ⟨.inl rfl, fun _ => rfl, .inl rfl⟩
  | cons envelope envelopes ih =>
      obtain ⟨herror, hsnapshots, hauthenticated⟩ := ih (c.handle envelope)
      rw [List.foldl_cons]
      refine ⟨?_, fun hnone => ?_, ?_⟩
      · obtain herror | ⟨later, hlater, htext⟩ := herror
        · rw [herror]
          cases envelope with
          | error code message => exact .inr ⟨_, List.mem_cons_self .., rfl⟩
          | empty | snapshot | ready | matchStart | matchEnd => exact .inl rfl
        · exact .inr ⟨later, List.mem_cons_of_mem _ hlater, htext⟩
      · rw [hsnapshots fun snapshot hmem => hnone snapshot (List.mem_cons_of_mem _ hmem)]
        cases envelope with
        | snapshot snapshot => exact absurd (List.mem_cons_self ..) (hnone snapshot)
        | empty | error | ready | matchStart | matchEnd => rfl
      · obtain hauthenticated | ⟨tickRate, hmem⟩ := hauthenticated
        · rw [hauthenticated]
          cases envelope with
          | ready datagramsEnabled tickRate => exact .inr ⟨tickRate, List.mem_cons_self ..⟩
          | empty | error | snapshot | matchStart | matchEnd => exact .inl rfl
        · exact .inr ⟨tickRate, List.mem_cons_of_mem _ hmem⟩

/-- A client that holds encoded envelopes handles those that more bytes complete. -/
theorem receive_holds {parse : List UInt8 → Option ServerEnvelope} {received : List UInt8}
    (h : Holds (frameDecoder parse) c.delivered c.receiveBuffer received)
    {parts : List (List UInt8)} (hparts : List.Forall₂ (Encodes (frameDecoder parse)) envelopes parts)
    (buffers : List (List UInt8)) (hbuffers : received ++ buffers.flatten <+: parts.flatten) :
    ∃ later left, c.delivered ++ later <+: envelopes ∧
      Holds (frameDecoder parse) (c.delivered ++ later) left (received ++ buffers.flatten) ∧
      c.receive parse buffers = { later.foldl handle c with receiveBuffer := left } := by
  obtain ⟨later, left, hlater, hholds, hconsume⟩ := h.receive handle fail hparts hbuffers
  refine ⟨later, left, hlater, hholds, ?_⟩
  have hreceive := receive_eq parse c c.receiveBuffer buffers
  rw [hconsume] at hreceive
  exact hreceive

end QuicClient

/-! ### What the server reads -/

section

variable {Message : Type} {p : Protobuf Message} {r : Reader}

theorem readFull_short {n : Nat} (h : r.bytes.length < n) : ∃ err, (readFull n r).1 = .error err := by
  obtain ⟨hread, -⟩ := readAtLeast_eq n r.pieces
  have hlength : ¬ n ≤ (readAtLeast n r.pieces).1.length := by
    rw [hread, List.length_take]
    have hbytes : r.pieces.flatten.length < n := h
    omega
  unfold readFull
  dsimp only
  rw [if_neg hlength]
  split_ifs
  · exact ⟨_, rfl⟩
  · exact ⟨_, rfl⟩

theorem readMessage_incomplete (h : nextFrame p.unmarshal r.bytes = .incomplete) :
    ∃ err, (readMessage p r).1 = .error err := by
  by_cases hheader : r.bytes.length < 4
  · obtain ⟨err, herr⟩ := readFull_short hheader
    unfold readMessage
    split
    · exact ⟨_, rfl⟩
    · rename_i header r' hread
      rw [hread] at herr
      cases herr
  · obtain ⟨b₀, b₁, b₂, b₃, tail, hbytes⟩ : ∃ b₀ b₁ b₂ b₃ tail,
        r.bytes = b₀ :: b₁ :: b₂ :: b₃ :: tail := by
      rcases hbytes : r.bytes with _ | ⟨b₀, _ | ⟨b₁, _ | ⟨b₂, _ | ⟨b₃, tail⟩⟩⟩⟩
      case cons.cons.cons.cons => exact ⟨b₀, b₁, b₂, b₃, tail, rfl⟩
      all_goals simp [hbytes] at hheader
    rw [hbytes] at h
    unfold nextFrame at h
    dsimp only at h
    obtain ⟨r', htail, hread⟩ := readMessage_eq (p := p) hbytes
    rw [hread, readBody]
    by_cases hlarge : uint32 b₀ b₁ b₂ b₃ > kMaxFrameSize
    · rw [if_pos hlarge] at h
      cases h
    · by_cases hshort : tail.length < (uint32 b₀ b₁ b₂ b₃).toNat
      · have hsmall : ¬ (uint32 b₀ b₁ b₂ b₃).toNat > maxMessageSize := fun hgt =>
          hlarge (UInt32.lt_iff_toNat_lt.2 hgt)
        obtain ⟨err, herr⟩ := readFull_short (r := r') (htail ▸ hshort)
        rw [if_neg hsmall]
        split
        · exact ⟨_, rfl⟩
        · rename_i payload r'' hpayload
          rw [hpayload] at herr
          cases herr
      · rw [if_neg hlarge, if_neg (by omega)] at h
        split at h
        · cases h
        · cases h

theorem readMessage_ok {message : Message} (h : (readMessage p r).1 = .ok message) :
    ∃ rest, nextFrame p.unmarshal r.bytes = .item message rest := by
  cases hfront : nextFrame p.unmarshal r.bytes with
  | item other rest =>
      obtain ⟨r', hread, -⟩ := readMessage_item hfront
      rw [hread] at h
      cases h
      exact ⟨rest, rfl⟩
  | failure error =>
      obtain ⟨err, r', hread⟩ := readMessage_failure hfront
      rw [hread] at h
      cases h
  | incomplete =>
      obtain ⟨err, hread⟩ := readMessage_incomplete hfront
      rw [hread] at h
      cases h

end

/-! ### The invariant -/

def brokenFrames : List String := ["server frame exceeds 64 KiB", "invalid protobuf response"]

namespace Conversation

variable {σ : Type} {codec : Codec} {writer : Writer σ} {n n' : Conversation σ}

/-- What is known of the two ends and of what is between them. -/
structure Faithful (codec : Codec) (n : Conversation σ) : Prop where
  server : Handler.Ordered codec n.server
  client : n.client.Sound
  holds : Holds (frameDecoder codec.server.parse) n.client.delivered n.client.receiveBuffer n.received
  received : n.received <+: n.server.written
  unbroken : n.client.error ∉ brokenFrames
  authenticated : n.client.authenticated = true →
    ∃ tickRate, ServerEnvelope.ready true tickRate ∈ n.client.delivered
  arrived : ∀ snapshot ∈ n.client.arrived, snapshot ∈ n.server.snapshots
  frames : ∃ count, n.client.framesSent =
    (List.replicate count (frame codec.client n.client.authentication)).flatten ∧
    (count = 0 ∨ frame codec.client n.client.authentication ≠ [])
  request : ∀ request, n.server.phase = .authenticating request →
    ClientEnvelope.authenticate request = n.client.authentication
  datagrams : ∀ datagram ∈ n.client.datagramsSent, ∃ input,
    datagram = Connection.serialize codec (Client.toProtobuf input) ∧ datagram ≠ []
  inputs : ∀ input ∈ n.server.inputs, ∃ datagram ∈ n.client.datagramsSent,
    codec.input.unmarshal datagram = some input
  closed : n.server.streamClosed = true → n.server.phase = .returned
  ended : n.client.error = "match server closed the stream" →
    n.server.streamClosed = true ∧ n.received = n.server.written ∧ n.client.matchEnded = false

theorem newConversation_faithful (codec : Codec) (stream : σ) (matchToken playerId : String) :
    Faithful codec (newConversation stream matchToken playerId) where
  server := Handler.newHandler_ordered codec stream
  client := Connection.newConnection_sound matchToken playerId
  holds := ⟨[], .nil, rfl, rfl⟩
  received := List.prefix_rfl
  unbroken := by simp [newConversation, newConnection, brokenFrames]
  authenticated := fun h => (Bool.false_ne_true h).elim
  arrived := fun snapshot h => by cases h
  frames := ⟨0, rfl, .inl rfl⟩
  request := fun request h => by cases h
  datagrams := fun datagram h => by cases h
  inputs := fun input h => by cases h
  closed := fun h => (Bool.false_ne_true h).elim
  ended := fun h => by simp [newConversation, newConnection] at h

/-- The envelopes of a handler hold no snapshot, and only its own errors. -/
theorem envelopes_script (h : Handler.Ordered codec n.server) {envelope : ServerEnvelope}
    (henvelope : envelope ∈ n.server.envelopes) : envelope ∈ [invalidFrame, authRequired, authFailed] ∨
      ∃ start, n.server.session = some start ∧ envelope ∈ ready :: .matchStart start ::
        n.server.matchEnds.map .matchEnd := by
  obtain ⟨-, -, -, ⟨-, -, hnone | ⟨error, herror, hone⟩⟩ | ⟨start, hsession, -, hpre, -⟩⟩ :=
    h.stands.envelopes
  · rw [hnone] at henvelope
    cases henvelope
  · rw [hone, List.mem_singleton] at henvelope
    exact .inl (henvelope ▸ herror)
  · exact .inr ⟨start, hsession, hpre.subset henvelope⟩

/-! ### A step of the server -/

theorem write_phase (h : Handler σ) (codec : Codec) (writer : Writer σ) (envelope : ServerEnvelope)
    (next failed : HandlerPhase) : (h.write codec writer envelope next failed).phase = next ∨
      (h.write codec writer envelope next failed).phase = failed := by
  unfold Handler.write
  dsimp only
  split
  · exact .inl rfl
  · exact .inr rfl

/-- Where a request, an input and the closed stream come from. -/
structure Reads (codec : Codec) (h h' : Handler σ) (event : HandlerEvent) : Prop where
  inputs : h'.inputs = h.inputs ∨ ∃ payload submitted input,
    event = .receiveDatagram (some payload) submitted ∧ codec.input.unmarshal payload = some input ∧
      h'.inputs = h.inputs ++ [input]
  request : ∀ request, h'.phase = .authenticating request → h.phase = .authenticating request ∨
    ∃ stream, event = .read stream ∧
      (readMessage codec.client stream).1 = .ok (.authenticate request)
  closed : h'.streamClosed = h.streamClosed ∨ h'.streamClosed = true ∧ h'.phase = .returned

theorem reads_of_eq {h h' : Handler σ} {event : HandlerEvent} (hinputs : h'.inputs = h.inputs)
    (hphase : ∀ request, h'.phase ≠ .authenticating request)
    (hclosed : h'.streamClosed = h.streamClosed) : Reads codec h h' event :=
  ⟨.inl hinputs, fun request hrequest => absurd hrequest (hphase request), .inl hclosed⟩

theorem reads_write {h : Handler σ} {event : HandlerEvent} {envelope : ServerEnvelope}
    {next failed : HandlerPhase} (hnext : ∀ request, next ≠ .authenticating request)
    (hfailed : ∀ request, failed ≠ .authenticating request) :
    Reads codec h (h.write codec writer envelope next failed) event := by
  refine reads_of_eq rfl (fun request hrequest => ?_) rfl
  obtain hphase | hphase := write_phase h codec writer envelope next failed
  · exact hnext request (hphase.symm.trans hrequest)
  · exact hfailed request (hphase.symm.trans hrequest)

theorem next_reads {h h' : Handler σ} {event : HandlerEvent}
    (hnext : h.next codec writer event = some h') : Reads codec h h' event := by
  unfold Handler.next at hnext
  split at hnext
  case h_1 =>
    cases hnext
    exact ⟨.inl rfl, fun request hrequest => .inl hrequest, .inl rfl⟩
  case h_2 accepted hphase =>
    cases hnext
    refine reads_of_eq rfl (fun request => ?_) rfl
    cases accepted <;> exact HandlerPhase.noConfusion
  case h_3 stream hphase =>
    cases hnext
    unfold Handler.readAuthentication
    split
    · exact reads_write (fun _ => HandlerPhase.noConfusion) (fun _ => HandlerPhase.noConfusion)
    · rename_i envelope hread
      split
      · exact reads_write (fun _ => HandlerPhase.noConfusion) (fun _ => HandlerPhase.noConfusion)
      · rename_i request hauthenticate
        refine ⟨.inl rfl, fun other hrequest => .inr ⟨stream, rfl, ?_⟩, .inl rfl⟩
        cases hrequest
        rw [hread]
        cases envelope with
        | authenticate request =>
            cases hauthenticate
            rfl
        | empty | input => cases hauthenticate
  case h_4 | h_6 | h_7 =>
    cases hnext
    exact reads_write (fun _ => HandlerPhase.noConfusion) (fun _ => HandlerPhase.noConfusion)
  case h_5 | h_8 | h_14 | h_15 =>
    cases hnext
    exact reads_of_eq rfl (fun _ => HandlerPhase.noConfusion) rfl
  case h_9 | h_10 | h_11 =>
    split_ifs at hnext
    cases hnext
    exact reads_of_eq rfl (fun _ => HandlerPhase.noConfusion) rfl
  case h_12 snapshot hphase =>
    split_ifs at hnext
    cases hnext
    unfold Handler.sendSnapshot
    split
    · refine reads_of_eq rfl (fun request hrequest => ?_) rfl
      rw [hphase] at hrequest
      cases hrequest
    · split
      · exact reads_of_eq rfl (fun _ => HandlerPhase.noConfusion) rfl
      · refine reads_of_eq rfl (fun request hrequest => ?_) rfl
        dsimp only at hrequest
        rw [hphase] at hrequest
        cases hrequest
  case h_13 matchEnd hphase =>
    cases hnext
    unfold Handler.sendMatchEnd
    split
    · exact reads_of_eq rfl (fun _ => HandlerPhase.noConfusion) rfl
    · refine reads_of_eq rfl (fun request hrequest => ?_) rfl
      obtain hlast | hlast := write_phase { h with matchEnds := _ } codec writer _ .lingering
        .closingSession
      · exact HandlerPhase.noConfusion (hlast.symm.trans hrequest)
      · exact HandlerPhase.noConfusion (hlast.symm.trans hrequest)
  case h_16 =>
    cases hnext
    exact ⟨.inl rfl, fun request hrequest => (by cases hrequest), .inr ⟨rfl, rfl⟩⟩
  case h_17 _ datagram submitted =>
    split_ifs at hnext
    cases hnext
    cases datagram with
    | none => exact ⟨.inl rfl, fun request hrequest => .inl hrequest, .inl rfl⟩
    | some payload =>
        unfold Handler.receiveInput
        dsimp only
        by_cases hlarge : payload.length > maxMessageSize
        · rw [if_pos hlarge]
          exact ⟨.inl rfl, fun request hrequest => .inl hrequest, .inl rfl⟩
        · rw [if_neg hlarge]
          cases hinput : codec.input.unmarshal payload with
          | none => exact ⟨.inl rfl, fun request hrequest => .inl hrequest, .inl rfl⟩
          | some input =>
              exact ⟨.inr ⟨payload, submitted, input, rfl, hinput, rfl⟩,
                fun request hrequest => .inl hrequest, .inl rfl⟩
  case h_18 => cases hnext

theorem next_returned {h h' : Handler σ} {event : HandlerEvent} (hphase : h.phase = .returned)
    (hnext : h.next codec writer event = some h') : h'.phase = .returned := by
  unfold Handler.next at hnext
  rw [hphase] at hnext
  cases event with
  | disconnect =>
      cases hnext
      rfl
  | receiveDatagram datagram submitted =>
      dsimp only at hnext
      split_ifs at hnext
      cases hnext
      obtain ⟨receiver, inputs, heq⟩ := h.receiveInput_eq codec submitted datagram
      rw [heq]
      exact hphase
  | authenticate session => cases session <;> cases hnext
  | acceptStream | read | next | selectDone | selectReceiver | selectSnapshot | selectMatchEnd
  | timer => cases hnext

/-- The first frame that is read from copies of one frame is that one. -/
theorem readMessage_replicate {Message : Type} {p : Protobuf Message} (hp : p.Inverse)
    {message other : Message} {r : Reader} {count : Nat} (hframe : count = 0 ∨ frame p message ≠ [])
    (hbytes : r.bytes <+: (List.replicate count (frame p message)).flatten)
    (hread : (readMessage p r).1 = .ok other) : other = message := by
  obtain ⟨rest, hitem⟩ := readMessage_ok hread
  obtain ⟨more, hmore⟩ := hbytes
  have hfront := (frameDecoder p.unmarshal).item_append hitem more
  rw [hmore] at hfront
  cases count with
  | zero => cases hfront
  | succ count =>
      have hne := hframe.resolve_left (Nat.succ_ne_zero count)
      have hencodes : Encodes (frameDecoder p.unmarshal) message (frame p message) := by
        unfold frame at hne ⊢
        cases hserialize : p.serialize message with
        | none => simp [hserialize] at hne
        | some payload =>
            rw [hserialize] at hne
            dsimp only at hne ⊢
            split_ifs at hne ⊢ with hlarge
            · exact absurd rfl hne
            · exact encodes_framed (Nat.not_lt.1 hlarge) (hp.serialize _ _ hserialize).1
      rw [List.replicate_succ, List.flatten_cons, hencodes] at hfront
      exact (Incremental.Front.item.inj hfront).1.symm

theorem Faithful.serverStep (h : Faithful codec n) (hcodec : codec.Inverse) {event : HandlerEvent}
    (hcarries : n.Carries (.server event)) {server : Handler σ}
    (hnext : n.server.next codec writer event = some server) :
    Faithful codec { n with server } := by
  have hextends := Handler.next_extends hnext
  have hreads := next_reads hnext
  obtain ⟨shown, hsnapshots, -, -⟩ := hextends.shown
  refine ⟨h.server.next hnext, h.client, h.holds, h.received.trans hextends.written, h.unbroken,
    h.authenticated, ?_, h.frames, ?_, h.datagrams, ?_, ?_, ?_⟩
  · intro snapshot harrived
    change snapshot ∈ server.snapshots
    rw [hsnapshots]
    exact List.mem_append_left _ (h.arrived snapshot harrived)
  · intro request hrequest
    obtain hbefore | ⟨stream, rfl, hread⟩ := hreads.request request hrequest
    · exact h.request request hbefore
    · obtain ⟨count, hframes, hcount⟩ := h.frames
      change stream.bytes <+: n.client.framesSent at hcarries
      rw [hframes] at hcarries
      exact readMessage_replicate hcodec.client hcount hcarries hread
  · intro input hinput
    change input ∈ server.inputs at hinput
    obtain hsame | ⟨payload, submitted, last, rfl, hunmarshal, hinputs⟩ := hreads.inputs
    · exact h.inputs input (hsame ▸ hinput)
    · rw [hinputs] at hinput
      obtain hbefore | hlast := List.mem_append.1 hinput
      · exact h.inputs input hbefore
      · obtain rfl := List.mem_singleton.1 hlast
        exact ⟨payload, hcarries, hunmarshal⟩
  · intro hclosed
    obtain hsame | ⟨-, hphase⟩ := hreads.closed
    · exact next_returned (h.closed (hsame.symm.trans hclosed)) hnext
    · exact hphase
  · intro herror
    obtain ⟨hclosed, hreceived, hended⟩ := h.ended herror
    have hfinal : Handler.Final n.server.phase := by
      rw [h.closed hclosed]
      trivial
    refine ⟨?_, hreceived.trans (hextends.final hfinal).2.1.symm, hended⟩
    obtain hsame | ⟨hclosed', -⟩ := hreads.closed
    · exact hsame.trans hclosed
    · exact hclosed'

/-! ### A step of the client -/

theorem messages_unbroken (event : ClientEvent) : ∀ message ∈ event.messages, message ∉ brokenFrames := by
  cases event with
  | connectFailed call => cases call <;> simp [ClientEvent.messages, ApiCall.failure, brokenFrames]
  | _ => simp [ClientEvent.messages, ApiCall.failure, brokenFrames]

theorem messages_closed {event : ClientEvent}
    (h : "match server closed the stream" ∈ event.messages) :
    event = .peerSendAborted ∨ event = .peerSendShutdown := by
  cases event with
  | connectFailed call => cases call <;> simp [ClientEvent.messages, ApiCall.failure] at h
  | peerSendAborted => exact .inl rfl
  | peerSendShutdown => exact .inr rfl
  | _ => simp [ClientEvent.messages, ApiCall.failure] at h

theorem Faithful.clientStep (h : Faithful codec n) (hcodec : codec.Inverse) {event : ClientEvent}
    (hcarries : n.Carries (.client event)) (hquiet : ∀ buffers, event ≠ .receive buffers) :
    Faithful codec { n with
      client := n.client.next codec event
      received := n.received ++ event.bytes } := by
  have hkeeps := n.client.next_keeps codec event hquiet
  have hbytes : n.received ++ event.bytes = n.received := by
    cases event with
    | receive buffers => exact absurd rfl (hquiet buffers)
    | _ => exact List.append_nil _
  rw [hbytes]
  refine ⟨h.server, h.client.next event, ?_, h.received, ?_, ?_, ?_, ?_, ?_, ?_, ?_, h.closed, ?_⟩
  · change Holds _ (n.client.next codec event).delivered (n.client.next codec event).receiveBuffer _
    rw [hkeeps.delivered, hkeeps.receiveBuffer]
    exact h.holds
  · obtain hsame | hmessage := hkeeps.error
    · change (n.client.next codec event).error ∉ brokenFrames
      rw [hsame]
      exact h.unbroken
    · exact messages_unbroken event _ hmessage
  · intro hauthenticated
    change ∃ tickRate, _ ∈ (n.client.next codec event).delivered
    rw [hkeeps.delivered]
    exact h.authenticated (hkeeps.authenticated.symm.trans hauthenticated)
  · intro snapshot harrived
    change snapshot ∈ (n.client.next codec event).arrived at harrived
    obtain hsame | ⟨buffer, last, rfl, hparse, hlast⟩ := hkeeps.arrived
    · exact h.arrived snapshot (hsame ▸ harrived)
    · rw [hlast] at harrived
      obtain hbefore | hnew := List.mem_append.1 harrived
      · exact h.arrived snapshot hbefore
      · obtain rfl := List.mem_singleton.1 hnew
        change buffer ∈ n.server.datagrams at hcarries
        rw [h.server.datagrams] at hcarries
        obtain ⟨sent, hsent, hmarshal⟩ := List.mem_filterMap.1 hcarries
        rw [(hcodec.snapshot.marshal sent buffer hmarshal).2] at hparse
        cases hparse
        exact hsent
  · obtain ⟨count, hframes, hcount⟩ := h.frames
    change ∃ count, (n.client.next codec event).framesSent = (List.replicate count (frame codec.client
      (n.client.next codec event).authentication)).flatten ∧
        (count = 0 ∨ frame codec.client (n.client.next codec event).authentication ≠ [])
    rw [hkeeps.authentication]
    obtain hsame | ⟨hne, hsent⟩ := hkeeps.framesSent
    · exact ⟨count, hsame.trans hframes, hcount⟩
    · refine ⟨count + 1, ?_, .inr hne⟩
      rw [hsent, hframes, List.replicate_succ', List.flatten_append, List.flatten_singleton]
  · intro request hrequest
    exact (h.request request hrequest).trans hkeeps.authentication.symm
  · intro datagram hdatagram
    change datagram ∈ (n.client.next codec event).datagramsSent at hdatagram
    obtain hsame | ⟨input, -, hne, hsent⟩ := hkeeps.datagramsSent
    · exact h.datagrams datagram (hsame ▸ hdatagram)
    · rw [hsent] at hdatagram
      obtain hbefore | hnew := List.mem_append.1 hdatagram
      · exact h.datagrams datagram hbefore
      · obtain rfl := List.mem_singleton.1 hnew
        exact ⟨input, rfl, hne⟩
  · intro input hinput
    obtain ⟨datagram, hdatagram, hunmarshal⟩ := h.inputs input hinput
    refine ⟨datagram, ?_, hunmarshal⟩
    change datagram ∈ (n.client.next codec event).datagramsSent
    obtain hsame | ⟨_, -, -, hsent⟩ := hkeeps.datagramsSent
    · exact hsame ▸ hdatagram
    · rw [hsent]
      exact List.mem_append_left _ hdatagram
  · intro herror
    change (n.client.next codec event).error = _ at herror
    change _ ∧ _ ∧ (n.client.next codec event).matchEnded = false
    rw [hkeeps.matchEnded]
    by_cases hbefore : n.client.error = "match server closed the stream"
    · exact h.ended hbefore
    · obtain hsame | hmessage := hkeeps.error
      · exact absurd (hsame.symm.trans herror) hbefore
      · rw [herror] at hmessage
        obtain rfl | rfl := messages_closed hmessage
        · exact hcarries.elim
        · refine ⟨hcarries.1, hcarries.2, ?_⟩
          by_contra hended
          change (n.client.serverClosed _).error = _ at herror
          rw [Connection.serverClosed, if_pos (by simpa using hended)] at herror
          exact hbefore herror

/-! ### Bytes of the stream -/

theorem script_errorText (h : Handler.Ordered codec n.server) {envelope : ServerEnvelope}
    (henvelope : envelope ∈ n.server.envelopes) {text : String}
    (htext : envelope.errorText = some text) :
    text ∉ brokenFrames ∧ text ≠ "match server closed the stream" := by
  obtain herror | ⟨start, -, hscript⟩ := envelopes_script h henvelope
  · simp only [List.mem_cons, List.not_mem_nil, or_false] at herror
    obtain rfl | rfl | rfl := herror <;> cases htext <;> decide
  · simp only [List.mem_cons, List.mem_map] at hscript
    obtain rfl | rfl | ⟨matchEnd, -, rfl⟩ := hscript <;> cases htext

theorem script_snapshot (h : Handler.Ordered codec n.server) (snapshot : WorldSnapshot) :
    ServerEnvelope.snapshot snapshot ∉ n.server.envelopes := by
  intro henvelope
  obtain herror | ⟨start, -, hscript⟩ := envelopes_script h henvelope
  · simp [invalidFrame, authRequired, authFailed] at herror
  · simp [ready] at hscript

theorem script_ready (h : Handler.Ordered codec n.server) {datagramsEnabled : Bool} {tickRate : UInt32}
    (henvelope : ServerEnvelope.ready datagramsEnabled tickRate ∈ n.server.envelopes) :
    datagramsEnabled = true ∧ ∃ start, n.server.session = some start := by
  obtain herror | ⟨start, hsession, hscript⟩ := envelopes_script h henvelope
  · simp [invalidFrame, authRequired, authFailed] at herror
  · simp [ready] at hscript
    exact ⟨hscript.1, start, hsession⟩

theorem Faithful.receiveStep (h : Faithful codec n) (hcodec : codec.Inverse)
    (buffers : List (List UInt8)) (hcarries : n.Carries (.client (.receive buffers))) :
    Faithful codec { n with
      client := n.client.next codec (.receive buffers)
      received := n.received ++ buffers.flatten } := by
  obtain ⟨sent, parts, hsent, hframed, hwritten⟩ := h.server.stands.envelopes.1
  have hencodes := hframed.imp fun _ _ hone => (hone.encodes hcodec.server).2
  obtain ⟨later, left, hlater, hholds, hreceive⟩ := QuicClient.receive_holds h.holds hencodes buffers
    (List.IsPrefix.trans hcarries hwritten)
  have hmem : ∀ envelope ∈ later, envelope ∈ n.server.envelopes := fun envelope henvelope =>
    hsent.subset (hlater.subset (List.mem_append_right _ henvelope))
  obtain ⟨herror, hsnapshots, hauthenticated⟩ :=
    QuicClient.foldl_handle n.client.toQuicClient later
  have hdelivered := QuicClient.foldl_handle_delivered n.client.toQuicClient later
  have hclient : (n.client.next codec (.receive buffers)).toQuicClient =
      { later.foldl QuicClient.handle n.client.toQuicClient with receiveBuffer := left } := hreceive
  have hsound : (n.client.next codec (.receive buffers)).Sound := h.client.next _
  refine ⟨h.server, hsound, ?_, hcarries, ?_, ?_, ?_, h.frames, h.request, h.datagrams,
    h.inputs, h.closed, ?_⟩
  · change Holds _ (n.client.next codec (.receive buffers)).toQuicClient.delivered
      (n.client.next codec (.receive buffers)).toQuicClient.receiveBuffer _
    rw [hclient]
    dsimp only
    rw [hdelivered]
    exact hholds
  · change (n.client.next codec (.receive buffers)).toQuicClient.error ∉ brokenFrames
    rw [hclient]
    dsimp only
    obtain hsame | ⟨envelope, henvelope, htext⟩ := herror
    · rw [hsame]
      exact h.unbroken
    · exact (script_errorText h.server (hmem envelope henvelope) htext).1
  · intro htrue
    change (n.client.next codec (.receive buffers)).toQuicClient.authenticated = true at htrue
    change ∃ tickRate, _ ∈ (n.client.next codec (.receive buffers)).toQuicClient.delivered
    rw [hclient] at htrue ⊢
    dsimp only at htrue ⊢
    rw [hdelivered]
    obtain hsame | ⟨tickRate, hready⟩ := hauthenticated
    · obtain ⟨tickRate, hready⟩ := h.authenticated (hsame.symm.trans htrue)
      exact ⟨tickRate, List.mem_append_left _ hready⟩
    · rw [htrue] at hready
      exact ⟨tickRate, List.mem_append_right _ hready⟩
  · intro snapshot harrived
    change snapshot ∈ n.client.arrived ++
      (n.client.next codec (.receive buffers)).toQuicClient.snapshots.drop _ at harrived
    rw [hclient] at harrived
    dsimp only at harrived
    rw [hsnapshots fun snapshot hin => script_snapshot h.server snapshot (hmem _ hin),
      List.drop_length, List.append_nil] at harrived
    exact h.arrived snapshot harrived
  · intro hclosed
    change (n.client.next codec (.receive buffers)).toQuicClient.error = _ at hclosed
    change _ ∧ _ ∧ (n.client.next codec (.receive buffers)).toQuicClient.matchEnded = false
    have hbefore : n.client.error = "match server closed the stream" := by
      rw [hclient] at hclosed
      dsimp only at hclosed
      obtain hsame | ⟨envelope, henvelope, htext⟩ := herror
      · exact hsame.symm.trans hclosed
      · exact absurd hclosed (script_errorText h.server (hmem envelope henvelope) htext).2
    obtain ⟨hstream, hreceived, hended⟩ := h.ended hbefore
    have hnothing : buffers.flatten = [] := by
      change n.received ++ buffers.flatten <+: n.server.written at hcarries
      rw [← hreceived] at hcarries
      have hlength := hcarries.length_le
      rw [List.length_append] at hlength
      exact List.eq_nil_of_length_eq_zero (by omega)
    refine ⟨hstream, ?_, ?_⟩
    · dsimp only
      rw [hnothing, List.append_nil]
      exact hreceived
    · obtain ⟨-, -, -, hleft⟩ := h.holds
      have hsame := QuicClient.receive_eq codec.server.parse n.client.toQuicClient
        n.client.receiveBuffer buffers
      rw [hnothing, List.append_nil, Incremental.consume_incomplete hleft] at hsame
      change (n.client.toQuicClient.receive codec.server.parse buffers).matchEnded = false
      rw [hsame]
      exact hended

theorem Faithful.next (h : Faithful codec n) (hcodec : codec.Inverse) {event : Event}
    (hnext : n.next codec writer event = some n') : Faithful codec n' := by
  unfold Conversation.next at hnext
  split_ifs at hnext with hcarries
  cases event with
  | server event =>
      obtain ⟨server, hserver, rfl⟩ := Option.map_eq_some_iff.1 hnext
      exact h.serverStep hcodec hcarries hserver
  | client event =>
      cases hnext
      cases event with
      | receive buffers => exact h.receiveStep hcodec buffers hcarries
      | _ => exact h.clientStep hcodec hcarries fun buffers => ClientEvent.noConfusion

theorem Faithful.run (h : Faithful codec n) (hcodec : codec.Inverse) {events : List Event}
    (hrun : Transition.run (Conversation.next codec writer) n events = some n') :
    Faithful codec n' :=
  Transition.run_invariant (fun _ _ _ h hnext => h.next hcodec hnext) hrun h

/-! ### What follows from it -/

theorem Faithful.delivered (h : Faithful codec n) (hcodec : codec.Inverse) :
    n.client.delivered <+: n.server.envelopes ∧ (n.received = n.server.written →
      n.server.Whole codec → n.client.delivered = n.server.envelopes) := by
  constructor
  · obtain ⟨sent, parts, hsent, hframed, hwritten⟩ := h.server.stands.envelopes.1
    have hencodes := hframed.imp fun _ _ hone => (hone.encodes hcodec.server).2
    obtain ⟨doneParts, hdone, hbytes, -⟩ := h.holds
    obtain ⟨later, -, rfl, -, -, -⟩ := Incremental.split_encoded hencodes hdone
      (hbytes ▸ h.received.trans hwritten)
    exact (List.prefix_append _ _).trans hsent
  · rintro hreceived ⟨parts, hframed, hwritten⟩
    have hencodes := hframed.imp fun _ _ hone => (hone.encodes hcodec.server).2
    have hholds := h.holds
    rw [hreceived, hwritten] at hholds
    exact (hholds.all hencodes).1

theorem Faithful.starts (h : Faithful codec n) (hcodec : codec.Inverse) :
    n.client.delivered.filterMap ServerEnvelope.getMatchStart <+: n.server.session.toList := by
  have hpre := (h.delivered hcodec).1.filterMap ServerEnvelope.getMatchStart
  obtain ⟨-, -, -, ⟨-, -, hnone | ⟨error, herror, hone⟩⟩ | ⟨start, hsession, -, hscript, -⟩⟩ :=
    h.server.stands.envelopes
  · rw [hnone] at hpre
    rw [List.prefix_nil.1 hpre]
    exact List.nil_prefix
  · rw [hone] at hpre
    simp only [List.mem_cons, List.not_mem_nil, or_false] at herror
    obtain rfl | rfl | rfl := herror <;> exact hpre.trans List.nil_prefix
  · have hends : ∀ ends : List MatchEnd,
        (ends.map ServerEnvelope.matchEnd).filterMap ServerEnvelope.getMatchStart = [] := by
      intro ends
      rw [List.filterMap_map]
      exact List.filterMap_eq_nil_iff.2 fun _ _ => rfl
    have hall : n.client.delivered.filterMap ServerEnvelope.getMatchStart <+: start ::
        (n.server.matchEnds.map ServerEnvelope.matchEnd).filterMap ServerEnvelope.getMatchStart :=
      hpre.trans (hscript.filterMap ServerEnvelope.getMatchStart)
    rw [hends] at hall
    rw [hsession]
    exact hall

theorem Faithful.ends (h : Faithful codec n) (hcodec : codec.Inverse) :
    n.client.delivered.filterMap ServerEnvelope.getMatchEnd <+: n.server.matchEnds := by
  have hpre := (h.delivered hcodec).1.filterMap ServerEnvelope.getMatchEnd
  obtain ⟨-, -, -, ⟨-, -, hnone | ⟨error, herror, hone⟩⟩ | ⟨start, -, -, hscript, -⟩⟩ :=
    h.server.stands.envelopes
  · rw [hnone] at hpre
    rw [List.prefix_nil.1 hpre]
    exact List.nil_prefix
  · rw [hone] at hpre
    simp only [List.mem_cons, List.not_mem_nil, or_false] at herror
    obtain rfl | rfl | rfl := herror <;> exact hpre.trans List.nil_prefix
  · have hends : ∀ ends : List MatchEnd,
        (ends.map ServerEnvelope.matchEnd).filterMap ServerEnvelope.getMatchEnd = ends := by
      intro ends
      rw [List.filterMap_map]
      exact List.filterMap_some
    have hall : n.client.delivered.filterMap ServerEnvelope.getMatchEnd <+:
        (n.server.matchEnds.map ServerEnvelope.matchEnd).filterMap ServerEnvelope.getMatchEnd :=
      hpre.trans (hscript.filterMap ServerEnvelope.getMatchEnd)
    rw [hends] at hall
    exact hall

theorem Faithful.refused (h : Faithful codec n) (hcodec : codec.Inverse) {error : ServerEnvelope}
    {text : String} (herror : error ∈ n.client.delivered) (htext : error.errorText = some text) :
    n.client.error = text := by
  have hlast : (n.client.delivered.filterMap ServerEnvelope.errorText).getLast? = some text := by
    have hpre := (h.delivered hcodec).1
    obtain ⟨-, -, -, ⟨-, -, hnone | ⟨other, -, hone⟩⟩ | ⟨start, -, -, hscript, -⟩⟩ :=
      h.server.stands.envelopes
    · rw [hnone] at hpre
      rw [List.prefix_nil.1 hpre] at herror
      cases herror
    · rw [hone] at hpre
      obtain hempty | hall := List.prefix_cons_iff.1 hpre
      · rw [hempty] at herror
        cases herror
      · obtain ⟨rest, hdelivered, hrest⟩ := hall
        rw [List.prefix_nil.1 hrest] at hdelivered
        rw [hdelivered, List.mem_singleton] at herror
        rw [hdelivered, ← herror, List.filterMap_cons_some htext]
        rfl
    · obtain rfl | hlater := List.mem_cons.1 (hscript.subset (hpre.subset herror))
      · cases htext
      · obtain rfl | hends := List.mem_cons.1 hlater
        · cases htext
        · obtain ⟨matchEnd, -, rfl⟩ := List.mem_map.1 hends
          cases htext
  have hshown := h.client.told.errors text hlast
  obtain hshown | hbroken := List.mem_cons.1 hshown
  · exact hshown
  · exact absurd hbroken h.unbroken

theorem next_authentication {event : Event} (hnext : n.next codec writer event = some n') :
    n'.client.authentication = n.client.authentication := by
  unfold Conversation.next at hnext
  split_ifs at hnext
  cases event with
  | server event =>
      obtain ⟨server, -, rfl⟩ := Option.map_eq_some_iff.1 hnext
      rfl
  | client event =>
      cases hnext
      cases event with
      | receive buffers => rfl
      | _ => exact (n.client.next_keeps codec _ fun buffers => ClientEvent.noConfusion).authentication

theorem run_authentication {events : List Event}
    (hrun : Transition.run (Conversation.next codec writer) n events = some n') :
    n'.client.authentication = n.client.authentication :=
  Transition.run_invariant (P := fun n' => n'.client.authentication = n.client.authentication)
    (fun _ _ _ h hnext => (next_authentication hnext).trans h) hrun rfl

theorem serialize_ne {input : PlayerInput} (h : Connection.serialize codec input ≠ []) :
    codec.input.serialize input = some (Connection.serialize codec input) := by
  unfold Connection.serialize at h ⊢
  cases hserialize : codec.input.serialize input with
  | none => simp [hserialize] at h
  | some payload =>
      rw [hserialize] at h
      dsimp only at h ⊢
      split_ifs at h ⊢ with hlarge
      · exact absurd rfl h
      · rfl

end Conversation

/-- The two ends of a connection in every order of their steps, over a network that cuts and delays the
stream and loses, repeats and reorders datagrams. The client handles the envelopes the server has
written, in their order; the server authenticates nobody but this client. The start and the end of the
match that the client's polls hand out are those of the session, each at most once; the snapshots are the
session's, and the inputs that reach the session are the client's. A client that was refused shows why.
When the server's frames are whole, the client handles all of them once all bytes are there, and one that
says that the server closed the stream has missed no end of the match. -/
theorem conversation_faithful {σ : Type} (codec : Codec) (hcodec : codec.Inverse) (writer : Writer σ)
    (stream : σ) (matchToken playerId : String) (events : List Event) (n : Conversation σ)
    (hrun : Transition.run (Conversation.next codec writer)
      (newConversation stream matchToken playerId) events = some n) :
    n.client.delivered <+: n.server.envelopes ∧
    (n.received = n.server.written → n.server.Whole codec →
      n.client.delivered = n.server.envelopes) ∧
    (∀ request, n.server.phase = .authenticating request →
      request = { playerID := playerId, matchToken := matchToken }) ∧
    (n.client.isConnected = true → n.server.session.isSome = true) ∧
    (n.client.starts ++ n.client.matchStart.toList).Sublist n.server.session.toList ∧
    (n.client.ends ++ n.client.matchEnd.toList).Sublist n.server.matchEnds ∧
    n.server.matchEnds.length ≤ 1 ∧
    (∀ snapshot ∈ n.client.shown, snapshot ∈ n.server.snapshots) ∧
    (∀ input ∈ n.server.inputs, ∃ sent, input = Client.toProtobuf sent ∧
      Connection.serialize codec input ∈ n.client.datagramsSent) ∧
    n.client.error ∉ brokenFrames ∧
    (∀ error ∈ n.client.delivered, ∀ text, error.errorText = some text → n.client.error = text) ∧
    (n.client.error = "match server closed the stream" → n.server.Whole codec →
      n.server.matchEnds = []) := by
  have h := (Conversation.newConversation_faithful codec stream matchToken playerId).run hcodec hrun
  have hauthentication := Conversation.run_authentication hrun
  obtain ⟨hpre, hall⟩ := h.delivered hcodec
  refine ⟨hpre, hall, ?_, ?_, ?_, ?_, ?_, ?_, ?_, h.unbroken, ?_, ?_⟩
  · intro request hphase
    have hrequest := (h.request request hphase).trans hauthentication
    cases hrequest
    rfl
  · intro hconnected
    simp only [Connection.isConnected, Bool.and_eq_true] at hconnected
    obtain ⟨tickRate, hready⟩ := h.authenticated (h.client.told.connected hconnected.1).1
    obtain ⟨-, start, hsession⟩ := Conversation.script_ready h.server (hpre.subset hready)
    rw [hsession]
    rfl
  · exact h.client.starts.sublist.trans (h.starts hcodec).sublist
  · exact h.client.ends.sublist.trans (h.ends hcodec).sublist
  · obtain ⟨-, -, -, ⟨-, hends, -⟩ | ⟨start, -, hends, -⟩⟩ := h.server.stands.envelopes
    · rw [hends]
      exact Nat.zero_le 1
    · exact hends
  · intro snapshot hshown
    exact h.arrived snapshot (h.client.shown.sublist.subset (List.mem_append_left _ hshown))
  · intro input hinput
    obtain ⟨datagram, hdatagram, hunmarshal⟩ := h.inputs input hinput
    obtain ⟨sent, rfl, hne⟩ := h.datagrams datagram hdatagram
    rw [(hcodec.input.serialize _ _ (Conversation.serialize_ne hne)).1] at hunmarshal
    cases hunmarshal
    exact ⟨sent, rfl, hdatagram⟩
  · intro error herror text htext
    exact h.refused hcodec herror htext
  · intro hclosed hwhole
    obtain ⟨-, hreceived, hended⟩ := h.ended hclosed
    have hnone : n.client.delivered.filterMap ServerEnvelope.getMatchEnd = [] := by
      by_contra hne
      rw [h.client.told.matchEnded.2 hne] at hended
      cases hended
    rw [hall hreceived hwhole] at hnone
    obtain ⟨-, -, -, ⟨-, hends, -⟩ | ⟨start, -, -, -, hends⟩⟩ := h.server.stands.envelopes
    · exact hends
    · refine List.eq_nil_iff_forall_not_mem.2 fun matchEnd hmem => ?_
      have hin : matchEnd ∈ n.server.envelopes.filterMap ServerEnvelope.getMatchEnd :=
        List.mem_filterMap.2 ⟨_, hends matchEnd hmem, rfl⟩
      rw [hnone] at hin
      cases hin

def twoMessages {Message : Type} [DecidableEq Message] (first second : Message) : Protobuf Message :=
  let encode := fun message =>
    if message = first then some [1] else if message = second then some [2] else none
  let decode := fun payload =>
    if payload = [1] then some first else if payload = [2] then some second else none
  { marshal := encode, unmarshal := decode, serialize := encode, parse := decode }

theorem twoMessages_inverse {Message : Type} [DecidableEq Message] (first second : Message) :
    (twoMessages first second).Inverse := by
  have hinverse : ∀ message payload, (twoMessages first second).marshal message = some payload →
      (twoMessages first second).unmarshal payload = some message := by
    intro message payload hmarshal
    simp only [twoMessages] at hmarshal ⊢
    split_ifs at hmarshal with hfirst hsecond
    · cases hmarshal
      rw [if_pos rfl, hfirst]
    · cases hmarshal
      rw [if_neg (by decide), if_pos rfl, hsecond]
  exact ⟨fun message payload h => ⟨hinverse _ _ h, hinverse _ _ h⟩,
    fun message payload h => ⟨hinverse _ _ h, hinverse _ _ h⟩⟩

def dojoStart : MatchStart where
  initialSnapshot := ⟨0, [], .countdown, "", 90, 0, "dojo"⟩
  tickRate := 30
  countdownTicks := 90
  matchDurationTicks := 5400
  arenaID := "dojo"

def twoCodec : Codec where
  client := twoMessages (.authenticate ⟨"p", "t"⟩) .empty
  server := twoMessages ready (.matchStart dojoStart)
  snapshot := twoMessages dojoStart.initialSnapshot dojoStart.initialSnapshot
  input := twoMessages ⟨0, 0, 0, []⟩ ⟨1, 0, 0, []⟩

theorem twoCodec_inverse : twoCodec.Inverse :=
  ⟨twoMessages_inverse _ _, twoMessages_inverse _ _, twoMessages_inverse _ _, twoMessages_inverse _ _⟩

/-- A client connects, and the two frames of the server arrive in three pieces. -/
theorem conversation_faithful_started : ∃ n : Conversation Unit,
    n.client.delivered = [ready, .matchStart dojoStart] := by
  have hrun : ∃ n : Conversation Unit, Transition.run
      (Conversation.next twoCodec fun _ buffer => (buffer.length, none, ()))
      (newConversation () "t" "p")
      [.client (.connected none), .client (.streamSend true), .server (.acceptStream true),
        .server (.read ⟨[[0, 0], [0, 1, 1]], .eof⟩), .server (.authenticate (some dojoStart)),
        .server .next, .server .next, .client (.receive [[0, 0, 0, 1]]),
        .client (.receive [[1, 0, 0], [0, 1, 2]])] = some n ∧
      n.received = n.server.written ∧ n.server.envelopes = [ready, .matchStart dojoStart] ∧
      n.server.written = [0, 0, 0, 1, 1, 0, 0, 0, 1, 2] := by
    have hframes : (((newConnection "t" "p").next twoCodec (.connected none)).next twoCodec
        (.streamSend true)).framesSent = [0, 0, 0, 1, 1] := by decide
    have hclient : twoCodec.client.unmarshal [1] = some (.authenticate ⟨"p", "t"⟩) := rfl
    have hready : twoCodec.server.marshal ready = some [1] := rfl
    have hstart : twoCodec.server.marshal (.matchStart dojoStart) = some [2] := rfl
    have hsize : putUint32 1 = [0, 0, 0, 1] := by decide
    simp [Transition.run, Conversation.next, Conversation.Carries, newConversation, hframes, hclient,
      hready, hstart, hsize, ClientEvent.bytes, Reader.bytes, Handler.next, newHandler,
      Handler.readAuthentication, readMessage, readFull, readAtLeast, bigEndian, uint32,
      ClientEnvelope.getAuthenticate, Handler.write, writeMessage, writeAll, maxMessageSize]
  obtain ⟨n, hrun, hreceived, henvelopes, hwritten⟩ := hrun
  have hwhole : n.server.Whole twoCodec := by
    refine ⟨[framed [1], framed [2]], ?_, hwritten⟩
    rw [henvelopes]
    exact .cons ⟨[1], rfl, by decide, rfl⟩ (.cons ⟨[2], rfl, by decide, rfl⟩ .nil)
  have hfaithful := conversation_faithful _ twoCodec_inverse _ _ _ _ _ n hrun
  exact ⟨n, (hfaithful.2.1 hreceived hwhole).trans henvelopes⟩

end PvpDuel.Transport
