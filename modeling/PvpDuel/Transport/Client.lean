import PvpDuel.Client.MatchController
import PvpDuel.Lib.Newest
import PvpDuel.Transport.Handler

/-!
# A connection on the client

`QuicClient::Impl`: the callbacks of the connection and of its stream, and the calls of the game. Each
holds the mutex while it reads or writes what they share, so each is one step, in any order. What the
calls of the QUIC library answer is part of the event. Closing and freeing the handles is left out.
-/

namespace PvpDuel.Transport

open Gamev1 (MatchEnd MatchStart PlayerInput WorldSnapshot)
open MatchServer (AuthenticateRequest)

/-- The calls of the library that set the client's error when they fail. -/
inductive ApiCall
  | msQuicOpen2
  | registrationOpen
  | configurationOpen
  | configurationLoadCredential
  | connectionOpen
  | connectionStart
  | streamOpen
  | streamStart
  | streamSend
deriving DecidableEq, Repr

def ApiCall.failure : ApiCall → String
  | .msQuicOpen2 => "MsQuicOpen2 failed"
  | .registrationOpen => "RegistrationOpen failed"
  | .configurationOpen => "ConfigurationOpen failed"
  | .configurationLoadCredential => "ConfigurationLoadCredential failed"
  | .connectionOpen => "ConnectionOpen failed"
  | .connectionStart => "ConnectionStart failed"
  | .streamOpen => "StreamOpen failed"
  | .streamStart => "StreamStart failed"
  | .streamSend => "StreamSend failed"

theorem ApiCall.failure_ne (call : ApiCall) : call.failure ≠ "" := by
  cases call <;> decide

/-- The client of a connection. `authenticating` stands for a call of `Send` that goes on to the library,
`sending` is the input of a call of `SendInput` that does. The fields from `framesSent` on record what the client has done: the bytes it has passed to the
stream, the datagrams it has sent, the snapshots it has queued, and what its polls have handed out. -/
structure Connection extends QuicClient where
  matchToken : String
  playerId : String
  stream : Bool
  authenticating : Bool
  sending : Option PlayerInput
  framesSent : List UInt8
  datagramsSent : List (List UInt8)
  arrived : List WorldSnapshot
  starts : List MatchStart
  shown : List WorldSnapshot
  ends : List MatchEnd
deriving DecidableEq

/-- A client as `Connect` is called. -/
def newConnection (matchToken playerId : String) : Connection where
  receiveBuffer := []
  authenticated := false
  datagramSendEnabled := false
  connected := false
  failed := false
  error := ""
  matchStart := none
  snapshots := []
  matchEnd := none
  matchEnded := false
  delivered := []
  matchToken := matchToken
  playerId := playerId
  stream := false
  authenticating := false
  sending := none
  framesSent := []
  datagramsSent := []
  arrived := []
  starts := []
  shown := []
  ends := []

/-- A callback or a call; a call of the library that fails is given, or whether it succeeds. -/
inductive ClientEvent
  | connectFailed (call : ApiCall)
  | connectTimedOut
  | connected (failed : Option ApiCall)
  | streamSend (sends : Bool)
  | shutdownInitiatedByTransport
  | shutdownInitiatedByPeer
  | datagramStateChanged (sendEnabled : Bool)
  | datagramReceived (buffer : List UInt8)
  | shutdownComplete
  | receive (buffers : List (List UInt8))
  | peerSendAborted
  | peerSendShutdown
  | sendInput (input : PlayerInput)
  | datagramSend (sends : Bool)
  | pollMatchStart
  | pollSnapshot
  | pollMatchEnd
deriving DecidableEq, Repr

namespace Connection

def setError (c : Connection) (message : String) : Connection :=
  { c with
    error := if c.error = "" then message else c.error
    failed := true
    connected := false }

def serverClosed (c : Connection) (message : String) : Connection :=
  if c.matchEnded then { c with connected := false }
  else { c with
    connected := false
    error := if c.error = "" then message else c.error
    failed := true }

def isConnected (c : Connection) : Bool := c.connected && !c.failed

/-- The end of `Connect`: the wait is over and neither of its conditions holds. -/
def connectTimedOut (c : Connection) : Connection :=
  if !c.connected && !c.failed then
    { c with error := "QUIC connection timed out", failed := true }
  else c

def authentication (c : Connection) : ClientEnvelope :=
  .authenticate { playerID := c.playerId, matchToken := c.matchToken }

section

variable (codec : Codec)

/-- The check of `Send`, under the mutex. -/
def send (c : Connection) : Connection :=
  if !c.stream || c.failed then c else { c with authenticating := true }

/-- The rest of `Send`, with the authentication; `sends` is what `StreamSend` answers. -/
def streamSend (c : Connection) (sends : Bool) : Connection :=
  if c.authenticating then
    let c := { c with authenticating := false }
    if frame codec.client c.authentication = [] then c.setError "could not serialize protobuf frame"
    else if sends then { c with framesSent := c.framesSent ++ frame codec.client c.authentication }
    else c.setError ApiCall.streamSend.failure
  else c

/-- `OpenStreamAndAuthenticate`, with the call that fails. -/
def openStreamAndAuthenticate (c : Connection) : Option ApiCall → Connection
  | some .streamOpen => c.setError ApiCall.streamOpen.failure
  | some .streamStart => { c with stream := true }.setError ApiCall.streamStart.failure
  | _ => { c with stream := true }.send

/-- `Serialize` of a datagram; nothing when the message cannot be serialized or is too large. -/
def serialize (input : PlayerInput) : List UInt8 :=
  match codec.input.serialize input with
  | none => []
  | some payload => if payload.length > kMaxFrameSize.toNat then [] else payload

/-- The check of `SendDatagram`, under the mutex. -/
def sendInput (c : Connection) (input : PlayerInput) : Connection :=
  if !c.connected || c.failed then c else { c with sending := some input }

/-- The rest of `SendDatagram`; `sends` is what `DatagramSend` answers. -/
def datagramSend (c : Connection) (sends : Bool) : Connection :=
  match c.sending with
  | none => c
  | some input =>
      let c := { c with sending := none }
      let payload := serialize codec (Client.toProtobuf input)
      if payload = [] then c.setError "could not serialize protobuf datagram"
      else if sends then { c with datagramsSent := c.datagramsSent ++ [payload] }
      else c

/-- `Receive`, with the snapshots it has queued. -/
def receiveStream (c : Connection) (buffers : List (List UInt8)) : Connection :=
  let client := c.toQuicClient.receive codec.server.parse buffers
  { c with
    toQuicClient := client
    arrived := c.arrived ++ client.snapshots.drop c.snapshots.length }

def receiveDatagram (c : Connection) (buffer : List UInt8) : Connection :=
  if buffer.length > kMaxFrameSize.toNat then c
  else
    match codec.snapshot.parse buffer with
    | none => c
    | some snapshot => { c with
        snapshots := c.snapshots ++ [snapshot]
        arrived := c.arrived ++ [snapshot] }

def pollMatchStart (c : Connection) : Connection :=
  { c with matchStart := none, starts := c.starts ++ c.matchStart.toList }

/-- `PollSnapshot` hands out the last snapshot of the queue and clears it. -/
def pollSnapshot (c : Connection) : Connection :=
  { c with snapshots := [], shown := c.shown ++ c.snapshots.getLast?.toList }

def pollMatchEnd (c : Connection) : Connection :=
  { c with matchEnd := none, ends := c.ends ++ c.matchEnd.toList }

def next (c : Connection) : ClientEvent → Connection
  | .connectFailed call => c.setError call.failure
  | .connectTimedOut => c.connectTimedOut
  | .connected failed => c.openStreamAndAuthenticate failed
  | .streamSend sends => c.streamSend codec sends
  | .shutdownInitiatedByTransport => c.serverClosed "QUIC transport closed the connection"
  | .shutdownInitiatedByPeer => c.serverClosed "match server closed the connection"
  | .datagramStateChanged sendEnabled => { c with
      toQuicClient := { c.toQuicClient with datagramSendEnabled := sendEnabled }.updateConnected }
  | .datagramReceived buffer => c.receiveDatagram codec buffer
  | .shutdownComplete => { c with connected := false }
  | .receive buffers => c.receiveStream codec buffers
  | .peerSendAborted | .peerSendShutdown => c.serverClosed "match server closed the stream"
  | .sendInput input => c.sendInput input
  | .datagramSend sends => c.datagramSend codec sends
  | .pollMatchStart => c.pollMatchStart
  | .pollSnapshot => c.pollSnapshot
  | .pollMatchEnd => c.pollMatchEnd

def run (c : Connection) (events : List ClientEvent) : Connection :=
  events.foldl (next codec) c

end

end Connection

/-! ### What a client has been told -/

def ServerEnvelope.getMatchStart : ServerEnvelope → Option MatchStart
  | .matchStart start => some start
  | _ => none

def ServerEnvelope.getMatchEnd : ServerEnvelope → Option MatchEnd
  | .matchEnd last => some last
  | _ => none

/-- The text the client makes of a protocol error. -/
def ServerEnvelope.errorText : ServerEnvelope → Option String
  | .error code message => some (code ++ ": " ++ message)
  | _ => none

theorem ServerEnvelope.errorText_ne {envelope : ServerEnvelope} {text : String}
    (h : envelope.errorText = some text) : text ≠ "" := by
  cases envelope with
  | error code message =>
      cases h
      intro hempty
      have hlength := congrArg String.length hempty
      simp at hlength
  | empty | snapshot | ready | matchStart | matchEnd => cases h

namespace QuicClient

theorem receive_induction {P : QuicClient → Prop} {parse : List UInt8 → Option ServerEnvelope}
    (hbuffer : ∀ c bytes, P c → P { c with receiveBuffer := bytes })
    (hhandle : ∀ c envelope, P c → P (handle c envelope)) (hfail : ∀ c error, P c → P (fail c error))
    {c : QuicClient} (hc : P c) (buffers : List (List UInt8)) : P (c.receive parse buffers) := by
  have hloop : ∀ c, P c → P (receiveLoop parse c) := by
    intro c hc
    fun_induction receiveLoop parse c with
    | case1 c envelope rest hitem hlt ih => exact ih (hhandle _ envelope (hbuffer c rest hc))
    | case2 c error hfailure => exact hfail c error hc
    | case3 c hincomplete => exact hc
  exact hloop _ (hbuffer c _ hc)

/-- What a client knows of the envelopes it has handled. -/
structure Told (c : QuicClient) : Prop where
  failed : c.failed = true ↔ c.error ≠ ""
  connected : c.connected = true → c.authenticated = true ∧ c.datagramSendEnabled = true
  matchEnded : c.matchEnded = true ↔ c.delivered.filterMap ServerEnvelope.getMatchEnd ≠ []
  errors : ∀ text ∈ (c.delivered.filterMap ServerEnvelope.errorText).getLast?,
    c.error ∈ [text, "server frame exceeds 64 KiB", "invalid protobuf response"]

theorem Told.handle {c : QuicClient} (h : Told c) (envelope : ServerEnvelope) :
    Told (handle c envelope) := by
  have hkept : ∀ {envelope : ServerEnvelope}, envelope.errorText = none →
      ∀ text ∈ ((c.delivered ++ [envelope]).filterMap ServerEnvelope.errorText).getLast?,
        c.error ∈ [text, "server frame exceeds 64 KiB", "invalid protobuf response"] := by
    intro envelope hnone text htext
    rw [List.filterMap_append, List.filterMap_cons_none hnone, List.filterMap_nil,
      List.append_nil] at htext
    exact h.errors text htext
  have hends : ∀ {envelope : ServerEnvelope}, envelope.getMatchEnd = none →
      (c.matchEnded = true ↔
        (c.delivered ++ [envelope]).filterMap ServerEnvelope.getMatchEnd ≠ []) := by
    intro envelope hnone
    rw [List.filterMap_append, List.filterMap_cons_none hnone, List.filterMap_nil, List.append_nil]
    exact h.matchEnded
  cases envelope with
  | empty | snapshot | matchStart =>
      exact ⟨h.failed, h.connected, hends rfl, hkept rfl⟩
  | ready datagramsEnabled tickRate =>
      refine ⟨h.failed, fun hconnected => ?_, hends rfl, hkept rfl⟩
      change (datagramsEnabled && c.datagramSendEnabled && !c.failed) = true at hconnected
      simp only [Bool.and_eq_true] at hconnected
      exact hconnected.1
  | error code message =>
      have htext : (ServerEnvelope.error code message).errorText = some (code ++ ": " ++ message) := rfl
      refine ⟨?_, h.connected, hends rfl, ?_⟩
      · exact iff_of_true rfl (ServerEnvelope.errorText_ne htext)
      · intro text hlast
        change text ∈ ((c.delivered ++ [_]).filterMap _).getLast? at hlast
        rw [List.filterMap_append, List.filterMap_cons_some htext, List.filterMap_nil,
          List.getLast?_concat] at hlast
        cases hlast
        exact List.mem_cons_self ..
  | matchEnd matchEnd =>
      refine ⟨h.failed, h.connected, iff_of_true rfl ?_, hkept rfl⟩
      change (c.delivered ++ [_]).filterMap _ ≠ []
      rw [List.filterMap_append]
      simp [ServerEnvelope.getMatchEnd]

theorem Told.fail {c : QuicClient} (h : Told c) (error : FrameError) : Told (fail c error) := by
  cases error with
  | tooLarge =>
      have hne : "server frame exceeds 64 KiB" ≠ "" := by decide
      refine ⟨iff_of_true rfl hne, h.connected, h.matchEnded, fun text _ => ?_⟩
      exact List.mem_cons_of_mem _ (List.mem_cons_self ..)
  | invalid =>
      have hne : "invalid protobuf response" ≠ "" := by decide
      refine ⟨iff_of_true rfl hne, h.connected, h.matchEnded, fun text _ => ?_⟩
      exact List.mem_cons_of_mem _ (List.mem_cons_of_mem _ (List.mem_cons_self ..))

/-- An error of the client's own is only shown when there is no other. -/
theorem Told.fails {c : QuicClient} (h : Told c) {message : String} (hmessage : message ≠ "") :
    Told { c with
      error := if c.error = "" then message else c.error
      failed := true
      connected := false } := by
  refine ⟨iff_of_true rfl ?_, fun hconnected => (Bool.false_ne_true hconnected).elim, h.matchEnded,
    fun text htext => ?_⟩
  · dsimp only
    split_ifs with hnone
    · exact hmessage
    · exact hnone
  · have hmem := h.errors text htext
    have hne : c.error ≠ "" := by
      intro hnone
      rw [hnone] at hmem
      obtain ⟨envelope, -, henvelope⟩ := List.mem_filterMap.1 (List.mem_of_getLast? htext)
      have htextNe := ServerEnvelope.errorText_ne henvelope
      simp [htextNe.symm] at hmem
    dsimp only
    rw [if_neg hne]
    exact hmem

end QuicClient

namespace Connection

/-! ### The invariant -/

variable {codec : Codec} {c : Connection}

/-- What a client has been told, and what it has handed out of it. -/
structure Sound (c : Connection) : Prop where
  told : c.toQuicClient.Told
  starts : Newest c.starts c.matchStart.toList (c.delivered.filterMap ServerEnvelope.getMatchStart)
  ends : Newest c.ends c.matchEnd.toList (c.delivered.filterMap ServerEnvelope.getMatchEnd)
  shown : Newest c.shown c.snapshots c.arrived

theorem newConnection_sound (matchToken playerId : String) :
    Sound (newConnection matchToken playerId) where
  told := ⟨by simp [newConnection], fun h => (Bool.false_ne_true h).elim, by simp [newConnection],
    fun text htext => by cases htext⟩
  starts := .start
  ends := .start
  shown := .start

theorem Sound.setError (h : Sound c) {message : String} (hmessage : message ≠ "") :
    Sound (c.setError message) :=
  ⟨h.told.fails hmessage, h.starts, h.ends, h.shown⟩

theorem Sound.serverClosed (h : Sound c) {message : String} (hmessage : message ≠ "") :
    Sound (c.serverClosed message) := by
  unfold Connection.serverClosed
  by_cases hended : c.matchEnded = true
  · rw [if_pos hended]
    exact ⟨⟨h.told.failed, fun hconnected => (Bool.false_ne_true hconnected).elim, h.told.matchEnded,
      h.told.errors⟩, h.starts, h.ends, h.shown⟩
  · rw [if_neg hended]
    exact h.setError hmessage

theorem Sound.streamSend (h : Sound c) (sends : Bool) : Sound (c.streamSend codec sends) := by
  unfold Connection.streamSend
  split
  · have hfree : Sound { c with authenticating := false } := ⟨h.told, h.starts, h.ends, h.shown⟩
    dsimp only
    split_ifs
    · exact hfree.setError (by decide)
    · exact ⟨h.told, h.starts, h.ends, h.shown⟩
    · exact hfree.setError (ApiCall.failure_ne _)
  · exact h

theorem Sound.openStreamAndAuthenticate (h : Sound c) (failed : Option ApiCall) :
    Sound (c.openStreamAndAuthenticate failed) := by
  have hopen : Sound { c with stream := true } := ⟨h.told, h.starts, h.ends, h.shown⟩
  unfold Connection.openStreamAndAuthenticate
  split
  · exact h.setError (ApiCall.failure_ne _)
  · exact hopen.setError (ApiCall.failure_ne _)
  · unfold Connection.send
    split_ifs
    · exact hopen
    · exact ⟨h.told, h.starts, h.ends, h.shown⟩

theorem Sound.datagramSend (h : Sound c) (sends : Bool) : Sound (c.datagramSend codec sends) := by
  unfold Connection.datagramSend
  split
  · exact h
  · dsimp only
    have hfree : Sound { c with sending := none } := ⟨h.told, h.starts, h.ends, h.shown⟩
    split_ifs
    · exact hfree.setError (by decide)
    · exact ⟨h.told, h.starts, h.ends, h.shown⟩
    · exact ⟨h.told, h.starts, h.ends, h.shown⟩

theorem Sound.connectTimedOut (h : Sound c) : Sound c.connectTimedOut := by
  unfold Connection.connectTimedOut
  split_ifs with hwaited
  · simp only [Bool.and_eq_true, Bool.not_eq_true'] at hwaited
    have hnone : c.error = "" := by
      by_contra hne
      have hfailed := h.told.failed.2 hne
      rw [hwaited.2] at hfailed
      cases hfailed
    have htimeout : "QUIC connection timed out" ≠ "" := by decide
    have hfails := h.told.fails htimeout
    rw [hnone, if_pos rfl] at hfails
    refine ⟨?_, h.starts, h.ends, h.shown⟩
    rw [hwaited.1]
    exact hfails
  · exact h

theorem receive_snapshots (c : QuicClient) (parse : List UInt8 → Option ServerEnvelope)
    (buffers : List (List UInt8)) :
    ∃ later, (c.receive parse buffers).snapshots = c.snapshots ++ later := by
  refine QuicClient.receive_induction (P := fun q => ∃ later, q.snapshots = c.snapshots ++ later)
    (fun _ _ h => h) ?_ ?_ ⟨[], (List.append_nil _).symm⟩ buffers
  · rintro q envelope ⟨later, hlater⟩
    cases envelope with
    | snapshot snapshot =>
        refine ⟨later ++ [snapshot], ?_⟩
        change q.snapshots ++ [snapshot] = _
        rw [hlater, List.append_assoc]
    | empty | error | ready | matchStart | matchEnd => exact ⟨later, hlater⟩
  · rintro q error ⟨later, hlater⟩
    cases error with
    | tooLarge => exact ⟨later, hlater⟩
    | invalid => exact ⟨later, hlater⟩

theorem filterMap_concat_none {α β : Type} {f : α → Option β} (xs : List α) {x : α}
    (h : f x = none) : (xs ++ [x]).filterMap f = xs.filterMap f := by
  rw [List.filterMap_append, List.filterMap_cons_none h, List.filterMap_nil, List.append_nil]

theorem filterMap_concat_some {α β : Type} {f : α → Option β} (xs : List α) {x : α} {y : β}
    (h : f x = some y) : (xs ++ [x]).filterMap f = xs.filterMap f ++ [y] := by
  rw [List.filterMap_append, List.filterMap_cons_some h, List.filterMap_nil]

/-- The stream only replaces a start or an end that waits by a later one. -/
theorem Sound.receive (h : Sound c) (parse : List UInt8 → Option ServerEnvelope)
    (buffers : List (List UInt8)) :
    (c.toQuicClient.receive parse buffers).Told ∧
    Newest c.starts (c.toQuicClient.receive parse buffers).matchStart.toList
      ((c.toQuicClient.receive parse buffers).delivered.filterMap ServerEnvelope.getMatchStart) ∧
    Newest c.ends (c.toQuicClient.receive parse buffers).matchEnd.toList
      ((c.toQuicClient.receive parse buffers).delivered.filterMap ServerEnvelope.getMatchEnd) := by
  refine QuicClient.receive_induction (P := fun q => q.Told ∧
    Newest c.starts q.matchStart.toList (q.delivered.filterMap ServerEnvelope.getMatchStart) ∧
    Newest c.ends q.matchEnd.toList (q.delivered.filterMap ServerEnvelope.getMatchEnd))
    ?_ ?_ ?_ ⟨h.told, h.starts, h.ends⟩ buffers
  · rintro q bytes ⟨⟨hfailed, hconnected, hended, herrors⟩, hstarts, hends⟩
    exact ⟨⟨hfailed, hconnected, hended, herrors⟩, hstarts, hends⟩
  · rintro q envelope ⟨htold, hstarts, hends⟩
    refine ⟨htold.handle envelope, ?_⟩
    cases envelope with
    | matchStart start =>
        change Newest c.starts [start] ((q.delivered ++ [_]).filterMap _) ∧
          Newest c.ends q.matchEnd.toList ((q.delivered ++ [_]).filterMap _)
        rw [filterMap_concat_some (f := ServerEnvelope.getMatchStart) _ rfl,
          filterMap_concat_none (f := ServerEnvelope.getMatchEnd) _ rfl]
        exact ⟨hstarts.replace start, hends⟩
    | matchEnd matchEnd =>
        change Newest c.starts q.matchStart.toList ((q.delivered ++ [_]).filterMap _) ∧
          Newest c.ends [matchEnd] ((q.delivered ++ [_]).filterMap _)
        rw [filterMap_concat_none (f := ServerEnvelope.getMatchStart) _ rfl,
          filterMap_concat_some (f := ServerEnvelope.getMatchEnd) _ rfl]
        exact ⟨hstarts, hends.replace matchEnd⟩
    | empty | snapshot | error | ready =>
        change Newest c.starts q.matchStart.toList ((q.delivered ++ [_]).filterMap _) ∧
          Newest c.ends q.matchEnd.toList ((q.delivered ++ [_]).filterMap _)
        rw [filterMap_concat_none (f := ServerEnvelope.getMatchStart) _ rfl,
          filterMap_concat_none (f := ServerEnvelope.getMatchEnd) _ rfl]
        exact ⟨hstarts, hends⟩
  · rintro q error ⟨htold, hstarts, hends⟩
    refine ⟨htold.fail error, ?_⟩
    cases error with
    | tooLarge => exact ⟨hstarts, hends⟩
    | invalid => exact ⟨hstarts, hends⟩

theorem Sound.next (h : Sound c) (event : ClientEvent) : Sound (c.next codec event) := by
  cases event with
  | connectFailed call => exact h.setError call.failure_ne
  | connectTimedOut => exact h.connectTimedOut
  | connected failed => exact h.openStreamAndAuthenticate failed
  | streamSend sends => exact h.streamSend sends
  | shutdownInitiatedByTransport | shutdownInitiatedByPeer | peerSendAborted | peerSendShutdown =>
      exact h.serverClosed (by decide)
  | datagramStateChanged sendEnabled =>
      refine ⟨⟨h.told.failed, fun hconnected => ?_, h.told.matchEnded, h.told.errors⟩, h.starts,
        h.ends, h.shown⟩
      change (c.authenticated && sendEnabled && !c.failed) = true at hconnected
      simp only [Bool.and_eq_true] at hconnected
      exact hconnected.1
  | datagramReceived buffer =>
      change Sound (c.receiveDatagram codec buffer)
      unfold receiveDatagram
      split_ifs
      · exact h
      · split
        · exact h
        · exact ⟨⟨h.told.failed, h.told.connected, h.told.matchEnded, h.told.errors⟩, h.starts,
            h.ends, h.shown.put [_]⟩
  | shutdownComplete =>
      exact ⟨⟨h.told.failed, fun hconnected => (Bool.false_ne_true hconnected).elim,
        h.told.matchEnded, h.told.errors⟩, h.starts, h.ends, h.shown⟩
  | receive buffers =>
      obtain ⟨htold, hstarts, hends⟩ := h.receive codec.server.parse buffers
      obtain ⟨later, hlater⟩ := receive_snapshots c.toQuicClient codec.server.parse buffers
      refine ⟨htold, hstarts, hends, ?_⟩
      change Newest c.shown (c.toQuicClient.receive codec.server.parse buffers).snapshots
        (c.arrived ++ (c.toQuicClient.receive codec.server.parse buffers).snapshots.drop _)
      rw [hlater, List.drop_left]
      exact h.shown.put later
  | sendInput input =>
      change Sound (c.sendInput input)
      unfold sendInput
      split_ifs
      · exact h
      · exact ⟨h.told, h.starts, h.ends, h.shown⟩
  | datagramSend sends => exact h.datagramSend sends
  | pollMatchStart =>
      exact ⟨⟨h.told.failed, h.told.connected, h.told.matchEnded, h.told.errors⟩, h.starts.take, h.ends,
        h.shown⟩
  | pollSnapshot =>
      exact ⟨⟨h.told.failed, h.told.connected, h.told.matchEnded, h.told.errors⟩, h.starts, h.ends,
        h.shown.poll⟩
  | pollMatchEnd =>
      exact ⟨⟨h.told.failed, h.told.connected, h.told.matchEnded, h.told.errors⟩, h.starts, h.ends.take,
        h.shown⟩

theorem Sound.run (h : Sound c) (events : List ClientEvent) : Sound (c.run codec events) := by
  induction events generalizing c with
  | nil => exact h
  | cons event events ih => exact ih (h.next event)

/-! ### What lasts -/

/-- A client that has failed, beside what it was then: it has sent nothing more, or what a call was about to
send. -/
structure Lost (codec : Codec) (base c : Connection) : Prop where
  failed : c.failed = true
  authentication : c.authentication = base.authentication
  framesSent : c.authenticating = base.authenticating ∧ c.framesSent = base.framesSent ∨
    c.authenticating = false ∧ (c.framesSent = base.framesSent ∨
      base.authenticating = true ∧ c.framesSent = base.framesSent ++ frame codec.client base.authentication)
  datagramsSent : c.sending = base.sending ∧ c.datagramsSent = base.datagramsSent ∨
    c.sending = none ∧ (c.datagramsSent = base.datagramsSent ∨ ∃ input, base.sending = some input ∧
      c.datagramsSent = base.datagramsSent ++ [serialize codec (Client.toProtobuf input)])

section Lost

variable {base : Connection}

theorem Lost.setError (h : Lost codec base c) (message : String) : Lost codec base (c.setError message) :=
  ⟨rfl, h.authentication, h.framesSent, h.datagramsSent⟩

theorem Lost.serverClosed (h : Lost codec base c) (message : String) :
    Lost codec base (c.serverClosed message) := by
  unfold Connection.serverClosed
  by_cases hended : c.matchEnded = true
  · rw [if_pos hended]
    exact ⟨h.failed, h.authentication, h.framesSent, h.datagramsSent⟩
  · rw [if_neg hended]
    exact ⟨rfl, h.authentication, h.framesSent, h.datagramsSent⟩

theorem Lost.openStreamAndAuthenticate (h : Lost codec base c) (failed : Option ApiCall) :
    Lost codec base (c.openStreamAndAuthenticate failed) := by
  unfold Connection.openStreamAndAuthenticate
  split
  · exact h.setError _
  · exact ⟨rfl, h.authentication, h.framesSent, h.datagramsSent⟩
  · have hfailed : (!true || c.failed) = true := by
      rw [h.failed]
      rfl
    unfold Connection.send
    rw [if_pos hfailed]
    exact ⟨h.failed, h.authentication, h.framesSent, h.datagramsSent⟩

theorem Lost.streamSend (h : Lost codec base c) (sends : Bool) :
    Lost codec base (c.streamSend codec sends) := by
  unfold Connection.streamSend
  split
  · rename_i hgoes
    obtain ⟨hwaits, hsent⟩ | ⟨hdone, -⟩ := h.framesSent
    · dsimp only
      split_ifs
      · exact ⟨rfl, h.authentication, .inr ⟨rfl, .inl hsent⟩, h.datagramsSent⟩
      · refine ⟨h.failed, h.authentication, .inr ⟨rfl, .inr ⟨hwaits ▸ hgoes, ?_⟩⟩, h.datagramsSent⟩
        show c.framesSent ++ frame codec.client c.authentication = _
        rw [hsent, h.authentication]
      · exact ⟨rfl, h.authentication, .inr ⟨rfl, .inl hsent⟩, h.datagramsSent⟩
    · rw [hgoes] at hdone
      cases hdone
  · exact h

theorem Lost.datagramSend (h : Lost codec base c) (sends : Bool) :
    Lost codec base (c.datagramSend codec sends) := by
  unfold Connection.datagramSend
  split
  · exact h
  · rename_i input hgoes
    obtain ⟨hwaits, hsent⟩ | ⟨hdone, -⟩ := h.datagramsSent
    · dsimp only
      split_ifs
      · exact ⟨rfl, h.authentication, h.framesSent, .inr ⟨rfl, .inl hsent⟩⟩
      · refine ⟨h.failed, h.authentication, h.framesSent,
          .inr ⟨rfl, .inr ⟨input, hwaits.symm.trans hgoes, ?_⟩⟩⟩
        show c.datagramsSent ++ [_] = _
        rw [hsent]
      · exact ⟨h.failed, h.authentication, h.framesSent, .inr ⟨rfl, .inl hsent⟩⟩
    · rw [hgoes] at hdone
      cases hdone

/-- A failure is for good. -/
theorem Lost.next (h : Lost codec base c) (event : ClientEvent) :
    Lost codec base (c.next codec event) := by
  cases event with
  | connectFailed call => exact h.setError call.failure
  | connectTimedOut =>
      change Lost codec base c.connectTimedOut
      unfold connectTimedOut
      rw [h.failed, Bool.not_true, Bool.and_false, if_neg Bool.false_ne_true]
      exact h
  | connected failed => exact h.openStreamAndAuthenticate failed
  | streamSend sends => exact h.streamSend sends
  | shutdownInitiatedByTransport | shutdownInitiatedByPeer | peerSendAborted | peerSendShutdown =>
      exact h.serverClosed _
  | datagramStateChanged | shutdownComplete | pollMatchStart | pollSnapshot | pollMatchEnd =>
      exact ⟨h.failed, h.authentication, h.framesSent, h.datagramsSent⟩
  | datagramReceived buffer =>
      change Lost codec base (c.receiveDatagram codec buffer)
      unfold receiveDatagram
      split_ifs
      · exact h
      · split
        · exact h
        · exact ⟨h.failed, h.authentication, h.framesSent, h.datagramsSent⟩
  | receive buffers =>
      refine ⟨?_, h.authentication, h.framesSent, h.datagramsSent⟩
      refine QuicClient.receive_induction (P := fun q => q.failed = true) (fun _ _ hq => hq) ?_ ?_
        h.failed buffers
      · intro q envelope hq
        cases envelope with
        | error => rfl
        | empty | snapshot | ready | matchStart | matchEnd => exact hq
      · intro q error hq
        cases error with
        | tooLarge => rfl
        | invalid => rfl
  | sendInput input =>
      change Lost codec base (c.sendInput input)
      unfold sendInput
      rw [h.failed, Bool.or_true, if_pos rfl]
      exact h
  | datagramSend sends => exact h.datagramSend sends

theorem Lost.run (h : Lost codec base c) (events : List ClientEvent) :
    Lost codec base (c.run codec events) := by
  induction events generalizing c with
  | nil => exact h
  | cons event events ih => exact ih (h.next event)

end Lost

/-- The connection closes, in any way, while datagrams arrive and the game polls. -/
def Closing : ClientEvent → Prop
  | .shutdownInitiatedByTransport | .shutdownInitiatedByPeer | .peerSendAborted | .peerSendShutdown
  | .shutdownComplete | .datagramStateChanged _ | .datagramReceived _ | .pollMatchStart
  | .pollSnapshot | .pollMatchEnd => True
  | _ => False

/-- Once the end of the match is here, closing the connection is no error. -/
theorem next_closing (c : Connection) (codec : Codec) (hended : c.matchEnded = true)
    {event : ClientEvent} (hclosing : Closing event) :
    (c.next codec event).matchEnded = true ∧ (c.next codec event).failed = c.failed ∧
      (c.next codec event).error = c.error := by
  have hserver : ∀ message, (c.serverClosed message).matchEnded = true ∧
      (c.serverClosed message).failed = c.failed ∧ (c.serverClosed message).error = c.error := by
    intro message
    unfold serverClosed
    rw [if_pos hended]
    exact ⟨hended, rfl, rfl⟩
  cases event with
  | shutdownInitiatedByTransport | shutdownInitiatedByPeer | peerSendAborted | peerSendShutdown =>
      exact hserver _
  | datagramStateChanged | shutdownComplete | pollMatchStart | pollSnapshot | pollMatchEnd =>
      exact ⟨hended, rfl, rfl⟩
  | datagramReceived buffer =>
      change (c.receiveDatagram codec buffer).matchEnded = true ∧
        (c.receiveDatagram codec buffer).failed = c.failed ∧
        (c.receiveDatagram codec buffer).error = c.error
      unfold receiveDatagram
      split_ifs
      · exact ⟨hended, rfl, rfl⟩
      · split
        · exact ⟨hended, rfl, rfl⟩
        · exact ⟨hended, rfl, rfl⟩
  | connectFailed | connectTimedOut | connected | streamSend | receive | sendInput | datagramSend =>
      exact hclosing.elim

theorem run_closing (hended : c.matchEnded = true) {events : List ClientEvent}
    (hclosing : ∀ event ∈ events, Closing event) :
    (c.run codec events).failed = c.failed ∧ (c.run codec events).error = c.error := by
  induction events generalizing c with
  | nil => exact ⟨rfl, rfl⟩
  | cons event events ih =>
      rw [List.forall_mem_cons] at hclosing
      obtain ⟨hended', hfailed, herror⟩ := c.next_closing codec hended hclosing.1
      obtain ⟨hlaterFailed, hlaterError⟩ := ih hended' hclosing.2
      exact ⟨hlaterFailed.trans hfailed, hlaterError.trans herror⟩

end Connection

/-- A client against any server, in every order of callbacks and calls. It has an error text exactly when
it has failed, and that of the server's last protocol error is replaced by nothing but a broken frame. The
polls hand out what has arrived, each thing at most once and in order, and the newest is never dropped. A
failure is for good: nothing is sent after it, but what a call was about to send, and the client is not
connected again. And once the end of the match is here, no way of closing the connection makes the client
fail. -/
theorem client_in_any_order (codec : Codec) (matchToken playerId : String)
    (events : List ClientEvent) :
    let c := (newConnection matchToken playerId).run codec events
    (c.failed = true ↔ c.error ≠ "") ∧
    (c.isConnected = true → c.authenticated = true ∧ c.datagramSendEnabled = true ∧ c.error = "") ∧
    (∀ text ∈ (c.delivered.filterMap ServerEnvelope.errorText).getLast?,
      c.error ∈ [text, "server frame exceeds 64 KiB", "invalid protobuf response"]) ∧
    Newest c.starts c.matchStart.toList (c.delivered.filterMap ServerEnvelope.getMatchStart) ∧
    Newest c.ends c.matchEnd.toList (c.delivered.filterMap ServerEnvelope.getMatchEnd) ∧
    Newest c.shown c.snapshots c.arrived ∧
    (c.failed = true → ∀ later, (c.run codec later).isConnected = false ∧
      ((c.run codec later).framesSent = c.framesSent ∨ c.authenticating = true ∧
        (c.run codec later).framesSent = c.framesSent ++ frame codec.client c.authentication) ∧
      ((c.run codec later).datagramsSent = c.datagramsSent ∨ ∃ input, c.sending = some input ∧
        (c.run codec later).datagramsSent =
          c.datagramsSent ++ [Connection.serialize codec (Client.toProtobuf input)])) ∧
    (c.delivered.filterMap ServerEnvelope.getMatchEnd ≠ [] → ∀ later,
      (∀ event ∈ later, Connection.Closing event) → (c.run codec later).error = c.error) := by
  intro c
  have hsound : c.Sound := (Connection.newConnection_sound matchToken playerId).run events
  refine ⟨hsound.told.failed, ?_, hsound.told.errors, hsound.starts, hsound.ends, hsound.shown, ?_, ?_⟩
  · intro hconnected
    simp only [Connection.isConnected, Bool.and_eq_true, Bool.not_eq_true'] at hconnected
    obtain ⟨hauthenticated, henabled⟩ := hsound.told.connected hconnected.1
    refine ⟨hauthenticated, henabled, ?_⟩
    by_contra hne
    have hfailed := hsound.told.failed.2 hne
    rw [hconnected.2] at hfailed
    cases hfailed
  · intro hfailed later
    have hlost : Connection.Lost codec c (c.run codec later) :=
      Connection.Lost.run ⟨hfailed, rfl, .inl ⟨rfl, rfl⟩, .inl ⟨rfl, rfl⟩⟩ later
    refine ⟨?_, ?_, ?_⟩
    · unfold Connection.isConnected
      rw [hlost.failed, Bool.not_true, Bool.and_false]
    · exact hlost.framesSent.elim (fun hsame => .inl hsame.2) And.right
    · exact hlost.datagramsSent.elim (fun hsame => .inl hsame.2) And.right
  · intro hended later hclosing
    exact (Connection.run_closing (hsound.told.matchEnded.2 hended) hclosing).2

end PvpDuel.Transport
