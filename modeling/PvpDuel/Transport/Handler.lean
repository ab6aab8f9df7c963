import Mathlib.Data.List.Infix
import PvpDuel.Lib.Transition
import PvpDuel.MatchServer.Authenticate
import PvpDuel.Transport.Receive

/-!
# A connection on the server

`handleConnection` with the goroutine of `receiveInputs`. Every blocking call, every branch of a `select`
and every call on the session is one step, and what the connection, the stream and the session answer is
part of the event. The stream is any writer: it may take a part of a buffer and fail at any time.
-/

namespace PvpDuel.Transport

open Gamev1 (MatchEnd MatchStart PlayerInput WorldSnapshot)
open Incremental (Encodes)
open MatchServer (AuthenticateRequest)

/-- The message of the client: its `oneof` carries one payload or none. -/
inductive ClientEnvelope
  | empty
  | authenticate (request : AuthenticateRequest)
  | input (input : PlayerInput)
deriving DecidableEq, Repr

def ClientEnvelope.getAuthenticate : ClientEnvelope → Option AuthenticateRequest
  | .authenticate request => some request
  | _ => none

/-- The protobuf runtimes of the messages that travel on a connection. -/
structure Codec where
  client : Protobuf ClientEnvelope
  server : Protobuf ServerEnvelope
  snapshot : Protobuf WorldSnapshot
  input : Protobuf PlayerInput

/-! ### The handler -/

/-- Where `handleConnection` stands; the two closings are its deferred calls. -/
inductive HandlerPhase
  | accepting
  | reading
  | authenticating (request : AuthenticateRequest)
  | writingReady (start : MatchStart)
  | writingStart (start : MatchStart)
  | acknowledging
  | serving
  | lingering
  | closingSession
  | closingStream
  | returned
deriving DecidableEq, Repr

/-- The goroutine of `receiveInputs`. -/
inductive ReceiverPhase
  | unstarted
  | receiving
  | returned
deriving DecidableEq, Repr

/-- A running handler, its goroutine and its connection. The fields from `envelopes` on record what it
has done: the envelopes it has passed to `Write` and the bytes the stream has taken, what it has
received from the channels of the session, what it has passed to `SendDatagram`, and its calls on the
session. -/
structure Handler (σ : Type) where
  phase : HandlerPhase
  receiver : ReceiverPhase
  stream : σ
  streamClosed : Bool
  disconnected : Bool
  closedWithError : Bool
  session : Option MatchStart
  snapshotsOpen : Bool
  envelopes : List ServerEnvelope
  written : List UInt8
  snapshots : List WorldSnapshot
  datagrams : List (List UInt8)
  matchEnds : List MatchEnd
  acknowledged : Nat
  inputs : List PlayerInput
  closed : Nat

/-- A handler as `ListenAndServe` starts it. -/
def newHandler {σ : Type} (stream : σ) : Handler σ where
  phase := .accepting
  receiver := .unstarted
  stream := stream
  streamClosed := false
  disconnected := false
  closedWithError := false
  session := none
  snapshotsOpen := true
  envelopes := []
  written := []
  snapshots := []
  datagrams := []
  matchEnds := []
  acknowledged := 0
  inputs := []
  closed := 0

/-- What the connection and the session answer, and `next` where nothing is waited for. `none` is a
closed channel, a refused ticket or a failed receive. -/
inductive HandlerEvent
  | disconnect
  | acceptStream (accepted : Bool)
  | read (stream : Reader)
  | authenticate (session : Option MatchStart)
  | next
  | selectDone
  | selectReceiver
  | selectSnapshot (snapshot : Option WorldSnapshot)
  | selectMatchEnd (matchEnd : Option MatchEnd)
  | timer
  | receiveDatagram (datagram : Option (List UInt8)) (submitted : Bool)
deriving DecidableEq, Repr

def ready : ServerEnvelope := .ready true 30

def invalidFrame : ServerEnvelope := .error "INVALID_FRAME" "invalid authentication frame"

def authRequired : ServerEnvelope := .error "AUTH_REQUIRED" "first message must authenticate"

def authFailed : ServerEnvelope := .error "AUTH_FAILED" "authentication failed"

namespace Handler

section

variable {σ : Type} (codec : Codec) (writer : Writer σ)

/-- A `Write` on the stream, and where the handler goes when it succeeds and when it fails. -/
def write (h : Handler σ) (envelope : ServerEnvelope) (next failed : HandlerPhase) : Handler σ :=
  let written := writeMessage writer codec.server h.stream envelope
  { h with
    phase := match written.result with
      | .ok () => next
      | .error _ => failed
    stream := written.writer
    envelopes := h.envelopes ++ [envelope]
    written := h.written ++ written.taken }

/-- `writeProtocolError` and the return after it. -/
def writeProtocolError (h : Handler σ) (error : ServerEnvelope) : Handler σ :=
  h.write codec writer error .closingStream .closingStream

def readAuthentication (h : Handler σ) (stream : Reader) : Handler σ :=
  match (readMessage codec.client stream).1 with
  | .error _ => h.writeProtocolError codec writer invalidFrame
  | .ok envelope =>
      match envelope.getAuthenticate with
      | none => h.writeProtocolError codec writer authRequired
      | some request => { h with phase := .authenticating request }

/-- The branch of the loop for a snapshot; a closed channel is not selected again. -/
def sendSnapshot (h : Handler σ) : Option WorldSnapshot → Handler σ
  | none => { h with snapshotsOpen := false }
  | some snapshot =>
      match codec.snapshot.marshal snapshot with
      | none => { h with phase := .closingSession, snapshots := h.snapshots ++ [snapshot] }
      | some response => { h with
          snapshots := h.snapshots ++ [snapshot]
          datagrams := h.datagrams ++ [response] }

/-- The branch of the loop for the end of the match. -/
def sendMatchEnd (h : Handler σ) : Option MatchEnd → Handler σ
  | none => { h with phase := .closingSession }
  | some matchEnd => { h with matchEnds := h.matchEnds ++ [matchEnd] }.write codec writer
      (.matchEnd matchEnd) .lingering .closingSession

/-- The loop body of `receiveInputs`; `submitted` is whether `SubmitInput` succeeds. -/
def receiveInput (h : Handler σ) (submitted : Bool) : Option (List UInt8) → Handler σ
  | none => { h with receiver := .returned }
  | some payload =>
      if payload.length > maxMessageSize then h
      else
        match codec.input.unmarshal payload with
        | none => h
        | some input => { h with
            inputs := h.inputs ++ [input]
            receiver := if submitted then .receiving else .returned }

def next (h : Handler σ) (event : HandlerEvent) : Option (Handler σ) :=
  match event, h.phase with
  | .disconnect, _ => some { h with disconnected := true }
  | .acceptStream accepted, .accepting =>
      some { h with phase := if accepted then .reading else .returned }
  | .read stream, .reading => some (h.readAuthentication codec writer stream)
  | .authenticate none, .authenticating _ => some (h.writeProtocolError codec writer authFailed)
  | .authenticate (some start), .authenticating _ =>
      some { h with phase := .writingReady start, session := some start }
  | .next, .writingReady start => some (h.write codec writer ready (.writingStart start) .closingSession)
  | .next, .writingStart start =>
      some (h.write codec writer (.matchStart start) .acknowledging .closingSession)
  | .next, .acknowledging => some { h with
      phase := .serving
      receiver := .receiving
      acknowledged := h.acknowledged + 1 }
  | .selectDone, .serving | .selectDone, .lingering =>
      if h.disconnected then some { h with phase := .closingSession } else none
  | .selectReceiver, .serving =>
      if h.receiver = .returned then some { h with phase := .closingSession } else none
  | .selectSnapshot snapshot, .serving =>
      if h.snapshotsOpen then some (h.sendSnapshot codec snapshot) else none
  | .selectMatchEnd matchEnd, .serving => some (h.sendMatchEnd codec writer matchEnd)
  | .timer, .lingering => some { h with
      phase := .closingSession
      disconnected := true
      closedWithError := true }
  | .next, .closingSession => some { h with phase := .closingStream, closed := h.closed + 1 }
  | .next, .closingStream => some { h with phase := .returned, streamClosed := true }
  | .receiveDatagram datagram submitted, _ =>
      if h.receiver = .receiving then some (h.receiveInput codec submitted datagram) else none
  | _, _ => none

end

end Handler

/-! ### What a stream takes -/

section

variable {σ Message : Type} {p : Protobuf Message} {message : Message} {part : List UInt8}

/-- The frame of a message that `Write` does not refuse. -/
def Framed (p : Protobuf Message) (message : Message) (part : List UInt8) : Prop :=
  ∃ payload, p.marshal message = some payload ∧ payload.length ≤ maxMessageSize ∧
    part = framed payload

theorem Framed.encodes (h : Framed p message part) (hp : p.Inverse) :
    Encodes (frameDecoder p.unmarshal) message part ∧ Encodes (frameDecoder p.parse) message part := by
  obtain ⟨payload, hmarshal, hsize, rfl⟩ := h
  obtain ⟨hunmarshal, hparse⟩ := hp.marshal message payload hmarshal
  exact ⟨encodes_framed hsize hunmarshal, encodes_framed hsize hparse⟩

/-- A writer takes a part of the payload, in order, and all of it when it reports no error. -/
theorem writeAll_taken (writer : Writer σ) (w : σ) (payload : List UInt8) :
    (writeAll writer w payload).taken <+: payload ∧
      ((writeAll writer w payload).result = .ok () → (writeAll writer w payload).taken = payload) := by
  fun_induction writeAll writer w payload with
  | case1 w => exact ⟨List.prefix_rfl, fun _ => rfl⟩
  | case2 w payload hpayload written err w' hwrite =>
      exact ⟨List.take_prefix written payload, fun h => by cases h⟩
  | case3 w payload hpayload w' hwrite => exact ⟨List.nil_prefix, fun h => by cases h⟩
  | case4 w payload hpayload written w' hwrite hwritten hlt rest ih =>
      obtain ⟨hpre, hall⟩ := ih
      have hsplit : payload.take written ++ payload.drop written = payload :=
        List.take_append_drop written payload
      dsimp only
      constructor
      · calc payload.take written ++ rest.taken <+: payload.take written ++ payload.drop written :=
              (List.prefix_append_right_inj _).2 hpre
          _ = payload := hsplit
      · intro hresult
        rw [hall hresult, hsplit]

/-- `Write` puts a part of the frame on the stream, all of it when it reports no error, and nothing of a
message it refuses. -/
theorem writeMessage_taken (writer : Writer σ) (p : Protobuf Message) (w : σ) (message : Message) :
    (∃ part, Framed p message part ∧ (writeMessage writer p w message).taken <+: part ∧
      ((writeMessage writer p w message).result = .ok () →
        (writeMessage writer p w message).taken = part)) ∨
    (writeMessage writer p w message).taken = [] ∧
      (writeMessage writer p w message).result ≠ .ok () := by
  unfold writeMessage
  cases hmarshal : p.marshal message with
  | none => exact .inr ⟨rfl, fun h => by cases h⟩
  | some payload =>
      dsimp only
      split_ifs with hlarge
      · exact .inr ⟨rfl, fun h => by cases h⟩
      · refine .inl ⟨framed payload, ⟨payload, hmarshal, by omega, rfl⟩, ?_⟩
        have hheader := writeAll_taken writer w (putUint32 (UInt32.ofNat payload.length))
        cases hresult : (writeAll writer w (putUint32 (UInt32.ofNat payload.length))).result with
        | error err =>
            exact ⟨hheader.1.trans (List.prefix_append _ _), fun h => by cases h⟩
        | ok _ =>
            have hbody := writeAll_taken writer
              (writeAll writer w (putUint32 (UInt32.ofNat payload.length))).writer payload
            rw [hheader.2 hresult]
            dsimp only
            cases hbodyResult : (writeAll writer
              (writeAll writer w (putUint32 (UInt32.ofNat payload.length))).writer payload).result with
            | error err =>
                exact ⟨(List.prefix_append_right_inj _).2 hbody.1, fun h => by cases h⟩
            | ok _ =>
                dsimp only
                rw [hbody.2 hbodyResult]
                exact ⟨List.prefix_rfl, fun _ => rfl⟩

end

namespace Handler

section

variable {σ : Type} {codec : Codec} {writer : Writer σ} {h h' : Handler σ} {event : HandlerEvent}

/-! ### The bytes on the stream -/

/-- The frames of all envelopes, and nothing else. -/
def Whole (codec : Codec) (h : Handler σ) : Prop :=
  ∃ parts, List.Forall₂ (Framed codec.server) h.envelopes parts ∧ h.written = parts.flatten

/-- The frames of the first envelopes, the last of them perhaps cut off. -/
def Cut (codec : Codec) (h : Handler σ) : Prop :=
  ∃ sent parts, sent <+: h.envelopes ∧ List.Forall₂ (Framed codec.server) sent parts ∧
    h.written <+: parts.flatten

theorem Whole.cut (hwhole : h.Whole codec) : h.Cut codec := by
  obtain ⟨parts, hparts, hwritten⟩ := hwhole
  exact ⟨h.envelopes, parts, List.prefix_rfl, hparts, hwritten ▸ List.prefix_rfl⟩

theorem Whole.write (hwhole : h.Whole codec) (writer : Writer σ) (envelope : ServerEnvelope)
    (next failed : HandlerPhase) :
    ((h.write codec writer envelope next failed).phase = next ∧
      (h.write codec writer envelope next failed).Whole codec) ∨
    ((h.write codec writer envelope next failed).phase = failed ∧
      (h.write codec writer envelope next failed).Cut codec) := by
  obtain ⟨parts, hparts, hwritten⟩ := hwhole
  unfold Handler.write
  dsimp only
  cases hresult : (writeMessage writer codec.server h.stream envelope).result with
  | ok _ =>
      refine .inl ⟨rfl, ?_⟩
      obtain ⟨part, hframed, -, hall⟩ | ⟨-, hrefused⟩ :=
        writeMessage_taken writer codec.server h.stream envelope
      · refine ⟨parts ++ [part], List.rel_append hparts (.cons hframed .nil), ?_⟩
        dsimp only
        rw [hwritten, hall hresult, List.flatten_append, List.flatten_singleton]
      · exact absurd hresult hrefused
  | error err =>
      refine .inr ⟨rfl, ?_⟩
      obtain ⟨part, hframed, hpre, -⟩ | ⟨hnothing, -⟩ :=
        writeMessage_taken writer codec.server h.stream envelope
      · refine ⟨h.envelopes ++ [envelope], parts ++ [part], List.prefix_rfl,
          List.rel_append hparts (.cons hframed .nil), ?_⟩
        dsimp only
        rw [hwritten, List.flatten_append, List.flatten_singleton]
        exact (List.prefix_append_right_inj _).2 hpre
      · refine ⟨h.envelopes, parts, List.prefix_append _ _, hparts, ?_⟩
        dsimp only
        rw [hnothing, List.append_nil, hwritten]

/-! ### What a handler has done by the time it is in a phase -/

/-- The session, the envelopes, the ends and the number of acknowledgements so far. -/
def Did (h : Handler σ) (session : Option MatchStart) (envelopes : List ServerEnvelope)
    (matchEnds : List MatchEnd) (acknowledged : Nat) : Prop :=
  h.session = session ∧ h.envelopes = envelopes ∧ h.matchEnds = matchEnds ∧
    h.acknowledged = acknowledged

def Leaves (h : Handler σ) : Prop :=
  ∃ start, h.Did (some start) [ready] [] 0 ∨ h.Did (some start) [ready, .matchStart start] [] 0 ∨
    h.Did (some start) [ready, .matchStart start] [] 1 ∨
    ∃ matchEnd, h.Did (some start) [ready, .matchStart start, .matchEnd matchEnd] [matchEnd] 1

/-- The handler has refused the client, or has never had a stream. -/
def Refuses (h : Handler σ) : Prop :=
  h.Did none [] [] 0 ∨ ∃ error ∈ [invalidFrame, authRequired, authFailed], h.Did none [error] [] 0

def Stands (codec : Codec) (h : Handler σ) : HandlerPhase → Prop
  | .accepting | .reading | .authenticating _ => h.Whole codec ∧ h.Did none [] [] 0 ∧ h.closed = 0
  | .writingReady start => h.Whole codec ∧ h.Did (some start) [] [] 0 ∧ h.closed = 0
  | .writingStart start => h.Whole codec ∧ h.Did (some start) [ready] [] 0 ∧ h.closed = 0
  | .acknowledging =>
      h.Whole codec ∧ (∃ start, h.Did (some start) [ready, .matchStart start] [] 0) ∧ h.closed = 0
  | .serving =>
      h.Whole codec ∧ (∃ start, h.Did (some start) [ready, .matchStart start] [] 1) ∧ h.closed = 0
  | .lingering => h.Whole codec ∧ (∃ start matchEnd,
      h.Did (some start) [ready, .matchStart start, .matchEnd matchEnd] [matchEnd] 1) ∧ h.closed = 0
  | .closingSession => h.Cut codec ∧ h.Leaves ∧ h.closed = 0
  | .closingStream | .returned =>
      h.Cut codec ∧ (h.Refuses ∧ h.closed = 0 ∨ h.Leaves ∧ h.closed = 1)

theorem Did.write {session : Option MatchStart} {envelopes : List ServerEnvelope}
    {matchEnds : List MatchEnd} {acknowledged : Nat}
    (hdid : h.Did session envelopes matchEnds acknowledged) (codec : Codec) (writer : Writer σ)
    (envelope : ServerEnvelope) (next failed : HandlerPhase) :
    (h.write codec writer envelope next failed).Did session (envelopes ++ [envelope]) matchEnds
      acknowledged := by
  obtain ⟨hsession, henvelopes, hends, hacknowledged⟩ := hdid
  refine ⟨hsession, ?_, hends, hacknowledged⟩
  rw [← henvelopes]
  rfl

theorem stands_writeProtocolError (hwhole : h.Whole codec) (hdid : h.Did none [] [] 0)
    (hclosed : h.closed = 0) {error : ServerEnvelope}
    (herror : error ∈ [invalidFrame, authRequired, authFailed]) :
    (h.writeProtocolError codec writer error).Stands codec
      (h.writeProtocolError codec writer error).phase := by
  have hrefuses : (h.writeProtocolError codec writer error).Refuses :=
    .inr ⟨error, herror, hdid.write codec writer error _ _⟩
  obtain ⟨hphase, hwritten⟩ | ⟨hphase, hwritten⟩ :=
    hwhole.write writer error .closingStream .closingStream
  · rw [writeProtocolError, hphase]
    exact ⟨hwritten.cut, .inl ⟨hrefuses, hclosed⟩⟩
  · rw [writeProtocolError, hphase]
    exact ⟨hwritten, .inl ⟨hrefuses, hclosed⟩⟩

theorem stands_readAuthentication (hstands : h.Stands codec .reading) (stream : Reader) :
    (h.readAuthentication codec writer stream).Stands codec
      (h.readAuthentication codec writer stream).phase := by
  obtain ⟨hwhole, hdid, hclosed⟩ := hstands
  unfold readAuthentication
  split
  · exact stands_writeProtocolError hwhole hdid hclosed (by simp)
  · split
    · exact stands_writeProtocolError hwhole hdid hclosed (by simp)
    · exact ⟨hwhole, hdid, hclosed⟩

theorem stands_sendSnapshot (hphase : h.phase = .serving) (hstands : h.Stands codec .serving)
    (snapshot : Option WorldSnapshot) : (h.sendSnapshot codec snapshot).Stands codec
      (h.sendSnapshot codec snapshot).phase := by
  obtain ⟨hwhole, ⟨start, hdid⟩, hclosed⟩ := hstands
  unfold sendSnapshot
  split
  · rw [hphase]
    exact ⟨hwhole, ⟨start, hdid⟩, hclosed⟩
  · split
    · exact ⟨hwhole.cut, ⟨start, .inr (.inr (.inl hdid))⟩, hclosed⟩
    · dsimp only
      rw [hphase]
      exact ⟨hwhole, ⟨start, hdid⟩, hclosed⟩

theorem stands_sendMatchEnd (hstands : h.Stands codec .serving) (matchEnd : Option MatchEnd) :
    (h.sendMatchEnd codec writer matchEnd).Stands codec
      (h.sendMatchEnd codec writer matchEnd).phase := by
  obtain ⟨hwhole, ⟨start, hdid⟩, hclosed⟩ := hstands
  unfold sendMatchEnd
  split
  · exact ⟨hwhole.cut, ⟨start, .inr (.inr (.inl hdid))⟩, hclosed⟩
  · rename_i matchEnd
    have htaken : { h with matchEnds := h.matchEnds ++ [matchEnd] }.Did (some start)
        [ready, .matchStart start] [matchEnd] 1 := by
      obtain ⟨hsession, henvelopes, hends, hacknowledged⟩ := hdid
      refine ⟨hsession, henvelopes, ?_, hacknowledged⟩
      dsimp only
      rw [hends]
      rfl
    have hwhole' : { h with matchEnds := h.matchEnds ++ [matchEnd] }.Whole codec := hwhole
    have hended := htaken.write codec writer (.matchEnd matchEnd) .lingering
      .closingSession
    obtain ⟨hphase, hwritten⟩ | ⟨hphase, hwritten⟩ :=
      hwhole'.write writer (.matchEnd matchEnd) .lingering .closingSession
    · rw [hphase]
      exact ⟨hwritten, ⟨start, matchEnd, hended⟩, hclosed⟩
    · rw [hphase]
      exact ⟨hwritten, ⟨start, .inr (.inr (.inr ⟨matchEnd, hended⟩))⟩, hclosed⟩

/-- A frame or two later: what the goroutine and the connection do is no progress of the handler. -/
theorem Stands.of_eq {p : HandlerPhase} (hstands : h.Stands codec p)
    (hwritten : h'.written = h.written)
    (hdid : h'.Did h.session h.envelopes h.matchEnds h.acknowledged) (hclosed : h'.closed = h.closed) :
    h'.Stands codec p := by
  obtain ⟨hsession, henvelopes, hends, hacknowledged⟩ := hdid
  cases p <;>
    simpa only [Stands, Whole, Cut, Leaves, Refuses, Did, hsession, henvelopes, hends, hacknowledged,
      hclosed, hwritten] using hstands

theorem receiveInput_eq (h : Handler σ) (codec : Codec) (submitted : Bool)
    (datagram : Option (List UInt8)) :
    ∃ receiver inputs, h.receiveInput codec submitted datagram = { h with receiver, inputs } := by
  cases datagram with
  | none => exact ⟨_, _, rfl⟩
  | some payload =>
      unfold receiveInput
      dsimp only
      by_cases hlarge : payload.length > maxMessageSize
      · rw [if_pos hlarge]
        exact ⟨_, _, rfl⟩
      · rw [if_neg hlarge]
        split
        · exact ⟨_, _, rfl⟩
        · exact ⟨_, _, rfl⟩

theorem Stands.next (hstands : h.Stands codec h.phase) (hnext : h.next codec writer event = some h') :
    h'.Stands codec h'.phase := by
  unfold Handler.next at hnext
  split at hnext
  case h_1 =>
    cases hnext
    exact hstands.of_eq rfl ⟨rfl, rfl, rfl, rfl⟩ rfl
  case h_2 accepted hphase =>
    rw [hphase] at hstands
    obtain ⟨hwhole, hdid, hclosed⟩ := hstands
    cases accepted with
    | true =>
        cases hnext
        exact ⟨hwhole, hdid, hclosed⟩
    | false =>
        cases hnext
        exact ⟨hwhole.cut, .inl ⟨.inl hdid, hclosed⟩⟩
  case h_3 stream hphase =>
    cases hnext
    exact stands_readAuthentication (hphase ▸ hstands) stream
  case h_4 request hphase =>
    rw [hphase] at hstands
    obtain ⟨hwhole, hdid, hclosed⟩ := hstands
    cases hnext
    exact stands_writeProtocolError hwhole hdid hclosed (by simp)
  case h_5 start request hphase =>
    rw [hphase] at hstands
    obtain ⟨hwhole, ⟨-, henvelopes, hends, hacknowledged⟩, hclosed⟩ := hstands
    cases hnext
    exact ⟨hwhole, ⟨rfl, henvelopes, hends, hacknowledged⟩, hclosed⟩
  case h_6 start hphase =>
    rw [hphase] at hstands
    obtain ⟨hwhole, hdid, hclosed⟩ := hstands
    have hafter := hdid.write codec writer ready (.writingStart start)
      .closingSession
    cases hnext
    obtain ⟨hphase', hwritten⟩ | ⟨hphase', hwritten⟩ :=
      hwhole.write writer ready (.writingStart start) .closingSession
    · rw [hphase']
      exact ⟨hwritten, hafter, hclosed⟩
    · rw [hphase']
      exact ⟨hwritten, ⟨start, .inl hafter⟩, hclosed⟩
  case h_7 start hphase =>
    rw [hphase] at hstands
    obtain ⟨hwhole, hdid, hclosed⟩ := hstands
    have hafter := hdid.write codec writer (.matchStart start) .acknowledging
      .closingSession
    cases hnext
    obtain ⟨hphase', hwritten⟩ | ⟨hphase', hwritten⟩ :=
      hwhole.write writer (.matchStart start) .acknowledging .closingSession
    · rw [hphase']
      exact ⟨hwritten, ⟨start, hafter⟩, hclosed⟩
    · rw [hphase']
      exact ⟨hwritten, ⟨start, .inr (.inl hafter)⟩, hclosed⟩
  case h_8 hphase =>
    rw [hphase] at hstands
    obtain ⟨hwhole, ⟨start, hsession, henvelopes, hends, hacknowledged⟩, hclosed⟩ := hstands
    cases hnext
    refine ⟨hwhole, ⟨start, hsession, henvelopes, hends, ?_⟩, hclosed⟩
    dsimp only
    rw [hacknowledged]
  case h_9 hphase =>
    rw [hphase] at hstands
    obtain ⟨hwhole, ⟨start, hdid⟩, hclosed⟩ := hstands
    split_ifs at hnext
    cases hnext
    exact ⟨hwhole.cut, ⟨start, .inr (.inr (.inl hdid))⟩, hclosed⟩
  case h_10 hphase =>
    rw [hphase] at hstands
    obtain ⟨hwhole, ⟨start, matchEnd, hdid⟩, hclosed⟩ := hstands
    split_ifs at hnext
    cases hnext
    exact ⟨hwhole.cut, ⟨start, .inr (.inr (.inr ⟨matchEnd, hdid⟩))⟩, hclosed⟩
  case h_11 hphase =>
    rw [hphase] at hstands
    obtain ⟨hwhole, ⟨start, hdid⟩, hclosed⟩ := hstands
    split_ifs at hnext
    cases hnext
    exact ⟨hwhole.cut, ⟨start, .inr (.inr (.inl hdid))⟩, hclosed⟩
  case h_12 snapshot hphase =>
    split_ifs at hnext
    cases hnext
    exact stands_sendSnapshot hphase (hphase ▸ hstands) snapshot
  case h_13 matchEnd hphase =>
    cases hnext
    exact stands_sendMatchEnd (hphase ▸ hstands) matchEnd
  case h_14 hphase =>
    rw [hphase] at hstands
    obtain ⟨hwhole, ⟨start, matchEnd, hdid⟩, hclosed⟩ := hstands
    cases hnext
    exact ⟨hwhole.cut, ⟨start, .inr (.inr (.inr ⟨matchEnd, hdid⟩))⟩, hclosed⟩
  case h_15 hphase =>
    rw [hphase] at hstands
    obtain ⟨hcut, hleaves, hclosed⟩ := hstands
    cases hnext
    exact ⟨hcut, .inr ⟨hleaves, congrArg (· + 1) hclosed⟩⟩
  case h_16 hphase =>
    rw [hphase] at hstands
    cases hnext
    exact hstands.of_eq (p := .returned) rfl ⟨rfl, rfl, rfl, rfl⟩ rfl
  case h_17 _ datagram submitted =>
    split_ifs at hnext
    cases hnext
    obtain ⟨receiver, inputs, heq⟩ := h.receiveInput_eq codec submitted datagram
    rw [heq]
    exact hstands.of_eq rfl ⟨rfl, rfl, rfl, rfl⟩ rfl
  case h_18 => cases hnext

/-! ### What a step adds -/

def Final : HandlerPhase → Prop
  | .lingering | .closingSession | .closingStream | .returned => True
  | _ => False

structure Extends (codec : Codec) (h h' : Handler σ) : Prop where
  written : h.written <+: h'.written
  acknowledged : h.acknowledged ≤ h'.acknowledged ∧
    (h.phase = .acknowledging ∨ h'.acknowledged = h.acknowledged)
  session : h'.session = h.session ∨ ∃ request, h.phase = .authenticating request
  shown : ∃ shown, h'.snapshots = h.snapshots ++ shown ∧
    h'.datagrams = h.datagrams ++ shown.filterMap codec.snapshot.marshal ∧
    (h.phase = .serving ∨ shown = [])
  received : h.receiver = .unstarted → h'.inputs = h.inputs ∧
    (h'.receiver = .unstarted ∨ h'.acknowledged ≠ 0)
  final : Final h.phase → Final h'.phase ∧ h'.written = h.written ∧ h'.envelopes = h.envelopes

theorem extends_of_eq (hwritten : h'.written = h.written)
    (hacknowledged : h'.acknowledged = h.acknowledged)
    (hsession : h'.session = h.session ∨ ∃ request, h.phase = .authenticating request)
    (hsnapshots : h'.snapshots = h.snapshots) (hdatagrams : h'.datagrams = h.datagrams)
    (hreceived : h.receiver = .unstarted → h'.inputs = h.inputs ∧ h'.receiver = .unstarted)
    (hfinal : Final h.phase → Final h'.phase ∧ h'.envelopes = h.envelopes) : Extends codec h h' where
  written := hwritten ▸ List.prefix_rfl
  acknowledged := ⟨Nat.le_of_eq hacknowledged.symm, .inr hacknowledged⟩
  session := hsession
  shown := ⟨[], by simpa using hsnapshots, by simpa using hdatagrams, .inr rfl⟩
  received := fun hunstarted => ⟨(hreceived hunstarted).1, .inl (hreceived hunstarted).2⟩
  final := fun hphase => ⟨(hfinal hphase).1, hwritten, (hfinal hphase).2⟩

theorem extends_write (hphase : ¬ Final h.phase) (envelope : ServerEnvelope)
    (next failed : HandlerPhase) : Extends codec h (h.write codec writer envelope next failed) where
  written := List.prefix_append _ _
  acknowledged := ⟨Nat.le_refl _, .inr rfl⟩
  session := .inl rfl
  shown := ⟨[], (List.append_nil _).symm, (List.append_nil _).symm, .inr rfl⟩
  received := fun hunstarted => ⟨rfl, .inl hunstarted⟩
  final := fun hfinal => absurd hfinal hphase

theorem extends_readAuthentication (hphase : h.phase = .reading) (stream : Reader) :
    Extends codec h (h.readAuthentication codec writer stream) := by
  have hopen : ¬ Final h.phase := by
    rw [hphase]
    exact id
  unfold readAuthentication
  split
  · exact extends_write hopen _ _ _
  · split
    · exact extends_write hopen _ _ _
    · exact extends_of_eq rfl rfl (.inl rfl) rfl rfl (fun hunstarted => ⟨rfl, hunstarted⟩)
        (fun hfinal => absurd hfinal hopen)

theorem extends_sendSnapshot (hphase : h.phase = .serving) (snapshot : Option WorldSnapshot) :
    Extends codec h (h.sendSnapshot codec snapshot) := by
  have hopen : ¬ Final h.phase := by
    rw [hphase]
    exact id
  unfold sendSnapshot
  split
  · exact extends_of_eq rfl rfl (.inl rfl) rfl rfl (fun hunstarted => ⟨rfl, hunstarted⟩)
      (fun hfinal => absurd hfinal hopen)
  · rename_i snapshot
    split
    · rename_i hmarshal
      exact ⟨List.prefix_rfl, ⟨Nat.le_refl _, .inr rfl⟩, .inl rfl,
        ⟨[snapshot], rfl, by simp [hmarshal], .inl hphase⟩,
        fun hunstarted => ⟨rfl, .inl hunstarted⟩, fun hfinal => absurd hfinal hopen⟩
    · rename_i response hmarshal
      exact ⟨List.prefix_rfl, ⟨Nat.le_refl _, .inr rfl⟩, .inl rfl,
        ⟨[snapshot], rfl, by simp [hmarshal], .inl hphase⟩,
        fun hunstarted => ⟨rfl, .inl hunstarted⟩, fun hfinal => absurd hfinal hopen⟩

theorem extends_sendMatchEnd (hphase : h.phase = .serving) (matchEnd : Option MatchEnd) :
    Extends codec h (h.sendMatchEnd codec writer matchEnd) := by
  have hopen : ¬ Final h.phase := by
    rw [hphase]
    exact id
  unfold sendMatchEnd
  split
  · exact extends_of_eq rfl rfl (.inl rfl) rfl rfl (fun hunstarted => ⟨rfl, hunstarted⟩)
      (fun hfinal => absurd hfinal hopen)
  · exact ⟨List.prefix_append _ _, ⟨Nat.le_refl _, .inr rfl⟩, .inl rfl,
      ⟨[], (List.append_nil _).symm, (List.append_nil _).symm, .inr rfl⟩,
      fun hunstarted => ⟨rfl, .inl hunstarted⟩, fun hfinal => absurd hfinal hopen⟩

theorem extends_receiveInput (hreceiver : h.receiver = .receiving) (submitted : Bool)
    (datagram : Option (List UInt8)) : Extends codec h (h.receiveInput codec submitted datagram) := by
  obtain ⟨receiver, inputs, heq⟩ := h.receiveInput_eq codec submitted datagram
  rw [heq]
  refine extends_of_eq rfl rfl (.inl rfl) rfl rfl (fun hunstarted => ?_) (fun hfinal => ⟨hfinal, rfl⟩)
  rw [hreceiver] at hunstarted
  cases hunstarted

theorem next_extends (hnext : h.next codec writer event = some h') : Extends codec h h' := by
  unfold Handler.next at hnext
  split at hnext
  case h_1 =>
    cases hnext
    exact extends_of_eq rfl rfl (.inl rfl) rfl rfl (fun hunstarted => ⟨rfl, hunstarted⟩)
      (fun hfinal => ⟨hfinal, rfl⟩)
  case h_3 stream hphase =>
    cases hnext
    exact extends_readAuthentication hphase stream
  case h_12 snapshot hphase =>
    split_ifs at hnext
    cases hnext
    exact extends_sendSnapshot hphase snapshot
  case h_13 matchEnd hphase =>
    cases hnext
    exact extends_sendMatchEnd hphase matchEnd
  case h_17 _ datagram submitted =>
    split_ifs at hnext with hreceiver
    cases hnext
    exact extends_receiveInput hreceiver submitted datagram
  case h_18 => cases hnext
  case h_4 | h_6 | h_7 =>
    cases hnext
    refine extends_write ?_ _ _ _
    simp only [*]
    exact id
  case h_8 hphase =>
    cases hnext
    have hopen : ¬ Final h.phase := by
      rw [hphase]
      exact id
    exact ⟨List.prefix_rfl, ⟨Nat.le_succ _, .inl hphase⟩, .inl rfl,
      ⟨[], (List.append_nil _).symm, (List.append_nil _).symm, .inr rfl⟩,
      fun _ => ⟨rfl, .inr (Nat.succ_ne_zero _)⟩, fun hfinal => absurd hfinal hopen⟩
  case h_2 accepted hphase =>
    cases hnext
    refine extends_of_eq rfl rfl (.inl rfl) rfl rfl (fun hunstarted => ⟨rfl, hunstarted⟩)
      (fun hfinal => ?_)
    rw [hphase] at hfinal
    exact hfinal.elim
  case h_5 start request hphase =>
    cases hnext
    refine extends_of_eq rfl rfl (.inr ⟨request, hphase⟩) rfl rfl
      (fun hunstarted => ⟨rfl, hunstarted⟩) (fun hfinal => ?_)
    rw [hphase] at hfinal
    exact hfinal.elim
  case h_9 | h_10 | h_11 =>
    split_ifs at hnext
    cases hnext
    exact extends_of_eq rfl rfl (.inl rfl) rfl rfl (fun hunstarted => ⟨rfl, hunstarted⟩)
      (fun _ => ⟨trivial, rfl⟩)
  case h_14 | h_15 | h_16 =>
    cases hnext
    exact extends_of_eq rfl rfl (.inl rfl) rfl rfl (fun hunstarted => ⟨rfl, hunstarted⟩)
      (fun _ => ⟨trivial, rfl⟩)

/-! ### Runs -/

/-- What is known of every handler that has been started. -/
structure Ordered (codec : Codec) (h : Handler σ) : Prop where
  stands : h.Stands codec h.phase
  datagrams : h.datagrams = h.snapshots.filterMap codec.snapshot.marshal
  quiet : h.acknowledged = 0 → h.snapshots = [] ∧ h.inputs = [] ∧ h.receiver = .unstarted
  started : h.acknowledged = 1 → ∃ start first second, h.session = some start ∧
    Framed codec.server ready first ∧ Framed codec.server (.matchStart start) second ∧
    first ++ second <+: h.written

theorem newHandler_ordered (codec : Codec) (stream : σ) : Ordered codec (newHandler stream) where
  stands := ⟨⟨[], .nil, rfl⟩, ⟨rfl, rfl, rfl, rfl⟩, rfl⟩
  datagrams := rfl
  quiet := fun _ => ⟨rfl, rfl, rfl⟩
  started := fun h => absurd h Nat.zero_ne_one

/-- With both frames written, and only then, the start is acknowledged. -/
theorem Stands.started (hstands : h.Stands codec .acknowledging) :
    ∃ start first second, h.session = some start ∧ Framed codec.server ready first ∧
      Framed codec.server (.matchStart start) second ∧ first ++ second <+: h.written := by
  obtain ⟨⟨parts, hparts, hwritten⟩, ⟨start, hsession, henvelopes, -, -⟩, -⟩ := hstands
  rw [henvelopes] at hparts
  obtain ⟨first, rest, hfirst, hrest, rfl⟩ := List.forall₂_cons_left_iff.1 hparts
  obtain ⟨second, rest, hsecond, hnil, rfl⟩ := List.forall₂_cons_left_iff.1 hrest
  obtain rfl := List.forall₂_nil_left_iff.1 hnil
  refine ⟨start, first, second, hsession, hfirst, hsecond, ?_⟩
  rw [hwritten, List.flatten_cons, List.flatten_singleton]

theorem Stands.acknowledged (hstands : h.Stands codec h.phase) (hone : h.acknowledged = 1) :
    h.phase ≠ .acknowledging ∧ ∀ request, h.phase ≠ .authenticating request := by
  constructor
  · intro hphase
    rw [hphase] at hstands
    obtain ⟨-, ⟨start, -, -, -, hzero⟩, -⟩ := hstands
    omega
  · intro request hphase
    rw [hphase] at hstands
    obtain ⟨-, ⟨-, -, -, hzero⟩, -⟩ := hstands
    omega

theorem Ordered.next (hordered : Ordered codec h) (hnext : h.next codec writer event = some h') :
    Ordered codec h' := by
  have hextends := next_extends hnext
  obtain ⟨shown, hsnapshots, hdatagrams, hserving⟩ := hextends.shown
  refine ⟨hordered.stands.next hnext, ?_, ?_, ?_⟩
  · rw [hdatagrams, hsnapshots, hordered.datagrams, List.filterMap_append]
  · intro hzero
    have hbefore : h.acknowledged = 0 := Nat.eq_zero_of_le_zero (hzero ▸ hextends.acknowledged.1)
    obtain ⟨hnone, hinputs, hunstarted⟩ := hordered.quiet hbefore
    obtain ⟨hinputs', hreceiver⟩ := hextends.received hunstarted
    have hshown : shown = [] := by
      obtain hphase | hshown := hserving
      · have hstands := hordered.stands
        rw [hphase] at hstands
        obtain ⟨-, ⟨start, -, -, -, hone⟩, -⟩ := hstands
        omega
      · exact hshown
    rw [hsnapshots, hnone, hshown, hinputs', hinputs]
    exact ⟨rfl, rfl, hreceiver.resolve_right (fun hne => hne hzero)⟩
  · intro hone
    obtain hphase | hsame := hextends.acknowledged.2
    · obtain ⟨start, first, second, hsession, hfirst, hsecond, hpre⟩ :=
        Stands.started (hphase ▸ hordered.stands)
      refine ⟨start, first, second, ?_, hfirst, hsecond, hpre.trans hextends.written⟩
      rw [← hsession]
      refine hextends.session.resolve_right ?_
      rintro ⟨request, hother⟩
      rw [hphase] at hother
      cases hother
    · rw [hsame] at hone
      obtain ⟨start, first, second, hsession, hfirst, hsecond, hpre⟩ := hordered.started hone
      refine ⟨start, first, second, ?_, hfirst, hsecond, hpre.trans hextends.written⟩
      rw [← hsession]
      refine hextends.session.resolve_right ?_
      rintro ⟨request, hother⟩
      exact (hordered.stands.acknowledged hone).2 request hother

theorem Ordered.run (hordered : Ordered codec h) {events : List HandlerEvent}
    (hrun : Transition.run (Handler.next codec writer) h events = some h') : Ordered codec h' :=
  Transition.run_invariant (fun _ _ _ hordered hnext => hordered.next hnext) hrun hordered

theorem run_final {events : List HandlerEvent} (hfinal : Final h.phase)
    (hrun : Transition.run (next codec writer) h events = some h') : Final h'.phase ∧
      h'.written = h.written ∧ h'.envelopes = h.envelopes ∧ h'.datagrams = h.datagrams := by
  apply Transition.run_invariant (P := fun h' : Handler σ => Final h'.phase ∧
    h'.written = h.written ∧ h'.envelopes = h.envelopes ∧ h'.datagrams = h.datagrams) ?_ hrun
    ⟨hfinal, rfl, rfl, rfl⟩
  rintro s event t ⟨hlast, hwritten, henvelopes, hdatagrams⟩ hnext
  have hextends := next_extends hnext
  obtain ⟨hlast', hwritten', henvelopes'⟩ := hextends.final hlast
  obtain ⟨shown, -, hdatagrams', hserving⟩ := hextends.shown
  refine ⟨hlast', hwritten'.trans hwritten, henvelopes'.trans henvelopes, ?_⟩
  obtain hphase | rfl := hserving
  · rw [hphase] at hlast
    exact hlast.elim
  · rw [hdatagrams', hdatagrams]
    exact List.append_nil _

/-- There is no session, and at most one error was written. -/
def Refused (h : Handler σ) : Prop :=
  h.session = none ∧ h.matchEnds = [] ∧ (h.envelopes = [] ∨
    ∃ error ∈ [invalidFrame, authRequired, authFailed], h.envelopes = [error])

/-- The envelopes of a session, the last ones perhaps missing. -/
def Serves (h : Handler σ) : Prop :=
  ∃ start, h.session = some start ∧ h.matchEnds.length ≤ 1 ∧
    h.envelopes <+: ready :: .matchStart start :: h.matchEnds.map .matchEnd ∧
    ∀ matchEnd ∈ h.matchEnds, ServerEnvelope.matchEnd matchEnd ∈ h.envelopes

theorem Did.serves {start : MatchStart} {envelopes : List ServerEnvelope} {matchEnds : List MatchEnd}
    {acknowledged : Nat} (hdid : h.Did (some start) envelopes matchEnds acknowledged)
    (hends : matchEnds.length ≤ 1)
    (henvelopes : envelopes <+: ready :: .matchStart start :: matchEnds.map .matchEnd)
    (hwritten : ∀ matchEnd ∈ matchEnds, ServerEnvelope.matchEnd matchEnd ∈ envelopes) : h.Serves := by
  obtain ⟨hsession, hlist, hmatchEnds, -⟩ := hdid
  exact ⟨start, hsession, hmatchEnds ▸ hends, hlist ▸ hmatchEnds ▸ henvelopes,
    hlist ▸ hmatchEnds ▸ hwritten⟩

theorem Leaves.serves (hleaves : h.Leaves) : h.Serves ∧ h.acknowledged ≤ 1 := by
  obtain ⟨start, hdid | hdid | hdid | ⟨matchEnd, hdid⟩⟩ := hleaves
  · exact ⟨hdid.serves (by simp) (by simp) (by simp), hdid.2.2.2 ▸ Nat.zero_le 1⟩
  · exact ⟨hdid.serves (by simp) (by simp) (by simp), hdid.2.2.2 ▸ Nat.zero_le 1⟩
  · exact ⟨hdid.serves (by simp) (by simp) (by simp), hdid.2.2.2 ▸ Nat.le_refl 1⟩
  · exact ⟨hdid.serves (by simp) (by simp) (by simp), hdid.2.2.2 ▸ Nat.le_refl 1⟩

theorem Stands.envelopes {phase : HandlerPhase} (hstands : h.Stands codec phase) :
    h.Cut codec ∧ h.acknowledged ≤ 1 ∧ h.closed ≤ 1 ∧ (h.Refused ∨ h.Serves) := by
  cases phase with
  | accepting | reading | authenticating =>
      obtain ⟨hwhole, ⟨hsession, henvelopes, hends, hzero⟩, hclosed⟩ := hstands
      exact ⟨hwhole.cut, by omega, by omega, .inl ⟨hsession, hends, .inl henvelopes⟩⟩
  | writingReady | writingStart =>
      obtain ⟨hwhole, hdid, hclosed⟩ := hstands
      have hzero := hdid.2.2.2
      exact ⟨hwhole.cut, by omega, by omega, .inr (hdid.serves (by simp) (by simp) (by simp))⟩
  | acknowledging | serving =>
      obtain ⟨hwhole, ⟨start, hdid⟩, hclosed⟩ := hstands
      have hcount := hdid.2.2.2
      exact ⟨hwhole.cut, by omega, by omega, .inr (hdid.serves (by simp) (by simp) (by simp))⟩
  | lingering =>
      obtain ⟨hwhole, ⟨start, matchEnd, hdid⟩, hclosed⟩ := hstands
      have hone := hdid.2.2.2
      exact ⟨hwhole.cut, by omega, by omega, .inr (hdid.serves (by simp) (by simp) (by simp))⟩
  | closingSession =>
      obtain ⟨hcut, hleaves, hclosed⟩ := hstands
      exact ⟨hcut, hleaves.serves.2, by omega, .inr hleaves.serves.1⟩
  | closingStream | returned =>
      obtain ⟨hcut, ⟨hrefuses, hclosed⟩ | ⟨hleaves, hclosed⟩⟩ := hstands
      · obtain ⟨hsession, henvelopes, hends, hzero⟩ | ⟨error, herror, hsession, henvelopes, hends, hzero⟩ :=
          hrefuses
        · exact ⟨hcut, by omega, by omega, .inl ⟨hsession, hends, .inl henvelopes⟩⟩
        · exact ⟨hcut, by omega, by omega, .inl ⟨hsession, hends, .inr ⟨error, herror, henvelopes⟩⟩⟩
      · exact ⟨hcut, hleaves.serves.2, by omega, .inr hleaves.serves.1⟩

theorem Stands.final {phase : HandlerPhase} (hstands : h.Stands codec phase)
    (hend : h.matchEnds ≠ [] ∨ h.closed = 1) : Final phase := by
  cases phase with
  | lingering | closingSession | closingStream | returned => trivial
  | accepting | reading | authenticating | writingReady | writingStart =>
      obtain ⟨-, ⟨-, -, hnone, -⟩, hclosed⟩ := hstands
      obtain hend | hend := hend
      · exact absurd hnone hend
      · omega
  | acknowledging | serving =>
      obtain ⟨-, ⟨start, -, -, hnone, -⟩, hclosed⟩ := hstands
      obtain hend | hend := hend
      · exact absurd hnone hend
      · omega

theorem Stands.returned (hstands : h.Stands codec .returned) :
    h.closed = if h.session.isSome then 1 else 0 := by
  obtain ⟨-, ⟨hrefuses, hclosed⟩ | ⟨hleaves, hclosed⟩⟩ := hstands
  · have hsession : h.session = none := by
      obtain hdid | ⟨error, -, hdid⟩ := hrefuses
      · exact hdid.1
      · exact hdid.1
    rw [hclosed, hsession]
    rfl
  · obtain ⟨start, hsession, -⟩ := hleaves.serves.1
    rw [hclosed, hsession]
    rfl

end

end Handler

/-- A connection in every order of its steps. The bytes on the stream are whole frames, the last perhaps
cut off: one error, or `Ready`, the start of the session's match and one of its ends. The start is
acknowledged once, with the frames before it written; only then do snapshots and inputs pass. What leads
out of the loop is final, and a session that was handed out is closed exactly once. -/
theorem connection_in_order {σ : Type} (codec : Codec) (writer : Writer σ) (stream : σ)
    (events : List HandlerEvent) (h : Handler σ)
    (hrun : Transition.run (Handler.next codec writer) (newHandler stream) events = some h) :
    h.Cut codec ∧ (h.Refused ∨ h.Serves) ∧ h.acknowledged ≤ 1 ∧
    (h.acknowledged = 1 → ∃ start first second, h.session = some start ∧
      Framed codec.server ready first ∧ Framed codec.server (.matchStart start) second ∧
      first ++ second <+: h.written) ∧
    (h.acknowledged = 0 → h.snapshots = [] ∧ h.datagrams = [] ∧ h.inputs = []) ∧
    h.datagrams = h.snapshots.filterMap codec.snapshot.marshal ∧
    h.closed ≤ 1 ∧ (h.phase = .returned → h.closed = if h.session.isSome then 1 else 0) ∧
    ∀ later h', Transition.run (Handler.next codec writer) h later = some h' →
      h.matchEnds ≠ [] ∨ h.closed = 1 →
      h'.written = h.written ∧ h'.envelopes = h.envelopes ∧ h'.datagrams = h.datagrams := by
  have hordered := (Handler.newHandler_ordered codec stream).run hrun
  obtain ⟨hcut, hacknowledged, hclosed, henvelopes⟩ := hordered.stands.envelopes
  refine ⟨hcut, henvelopes, hacknowledged, hordered.started, ?_, hordered.datagrams, hclosed, ?_, ?_⟩
  · intro hzero
    obtain ⟨hsnapshots, hinputs, -⟩ := hordered.quiet hzero
    refine ⟨hsnapshots, ?_, hinputs⟩
    rw [hordered.datagrams, hsnapshots]
    rfl
  · intro hphase
    exact Handler.Stands.returned (hphase ▸ hordered.stands)
  · intro later h' hlater hend
    exact (Handler.run_final (hordered.stands.final hend) hlater).2

def shortCodec : Codec where
  client := ⟨fun _ => some [], fun _ => some (.authenticate ⟨"p", "t"⟩), fun _ => some [],
    fun _ => none⟩
  server := ⟨fun _ => some [7], fun _ => none, fun _ => some [7], fun _ => none⟩
  snapshot := ⟨fun _ => some [1], fun _ => none, fun _ => some [1], fun _ => none⟩
  input := ⟨fun _ => some [2], fun _ => none, fun _ => some [2], fun _ => none⟩

/-- A client authenticates in two pieces, gets its frames a byte at a time, and leaves. -/
theorem connection_in_order_left : ∃ h : Handler Unit, h.Cut shortCodec ∧ h.acknowledged = 1 ∧
    h.closed = 1 := by
  have hrun : ∃ h, Transition.run (Handler.next shortCodec fun _ _ => (1, none, ())) (newHandler ())
      [.acceptStream true, .read ⟨[[0, 0], [0, 0]], .eof⟩,
        .authenticate (some ⟨⟨0, [], .countdown, "", 90, 0, "dojo"⟩, 30, 90, 5400, "dojo"⟩), .next,
        .next, .next, .disconnect, .selectDone, .next, .next] = some h ∧
      h.acknowledged = 1 ∧ h.phase = .returned ∧ h.session.isSome := by
    simp [Transition.run, Handler.next, newHandler, Handler.readAuthentication, readMessage, readFull,
      readAtLeast, bigEndian, uint32, shortCodec, ClientEnvelope.getAuthenticate, Handler.write,
      writeMessage, writeAll, putUint32, maxMessageSize]
  obtain ⟨h, hrun, hacknowledged, hphase, hsession⟩ := hrun
  have hordered := connection_in_order _ _ _ _ h hrun
  refine ⟨h, hordered.1, hacknowledged, ?_⟩
  rw [hordered.2.2.2.2.2.2.2.1 hphase, if_pos hsession]

end PvpDuel.Transport
