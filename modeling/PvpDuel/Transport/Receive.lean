import PvpDuel.Protocol.Messages
import PvpDuel.Transport.Framing

/-!
# The client receives

`Receive` appends what the stream delivers to a buffer and handles the envelopes at its front. It is the
incremental decoder of frames, so the same envelopes are handled in the same order however the stream is
cut, and a frame that is broken stops it for good.
-/

namespace PvpDuel.Transport

open Gamev1 (MatchEnd MatchStart WorldSnapshot)
open Incremental (Encodes consume consume_encoded consume_failure consume_incomplete feed feed_eq)

/-- The message of the server: its `oneof` carries one payload or none. -/
inductive ServerEnvelope
  | empty
  | snapshot (snapshot : WorldSnapshot)
  | error (code message : String)
  | ready (datagramsEnabled : Bool) (tickRate : UInt32)
  | matchStart (start : MatchStart)
  | matchEnd (matchEnd : MatchEnd)
deriving DecidableEq, Repr

/-- What `Receive` reads and writes of the client. The client keeps no list of the envelopes it has
handled; `delivered` records them. -/
structure QuicClient where
  receiveBuffer : List UInt8
  authenticated : Bool
  datagramSendEnabled : Bool
  connected : Bool
  failed : Bool
  error : String
  matchStart : Option MatchStart
  snapshots : List WorldSnapshot
  matchEnd : Option MatchEnd
  matchEnded : Bool
  delivered : List ServerEnvelope
deriving DecidableEq

namespace QuicClient

def updateConnected (c : QuicClient) : QuicClient :=
  { c with connected := c.authenticated && c.datagramSendEnabled && !c.failed }

/-- The loop body of `Receive` once a frame is decoded and erased from the buffer. -/
def handle (c : QuicClient) (envelope : ServerEnvelope) : QuicClient :=
  let c := { c with delivered := c.delivered ++ [envelope] }
  match envelope with
  | .empty => c
  | .error code message => { c with error := code ++ ": " ++ message, failed := true }
  | .ready datagramsEnabled _ => { c with authenticated := datagramsEnabled }.updateConnected
  | .matchStart start => { c with matchStart := some start }
  | .snapshot snapshot => { c with snapshots := c.snapshots ++ [snapshot] }
  | .matchEnd matchEnd => { c with matchEnd := some matchEnd, matchEnded := true }

def fail (c : QuicClient) : FrameError → QuicClient
  | .tooLarge => { c with error := "server frame exceeds 64 KiB", failed := true }
  | .invalid => { c with error := "invalid protobuf response", failed := true }

theorem handle_receiveBuffer (c : QuicClient) (bytes : List UInt8) (envelope : ServerEnvelope) :
    ({ c with receiveBuffer := bytes }.handle envelope) =
      { c.handle envelope with receiveBuffer := bytes } := by
  cases envelope <;> rfl

/-- The loop of `Receive`. -/
def receiveLoop (parse : List UInt8 → Option ServerEnvelope) (c : QuicClient) : QuicClient :=
  match h : nextFrame parse c.receiveBuffer with
  | .item envelope rest =>
      have : ({ c with receiveBuffer := rest }.handle envelope).receiveBuffer.length <
          c.receiveBuffer.length := by
        rw [handle_receiveBuffer]
        exact (frameDecoder parse).shrinks h
      receiveLoop parse ({ c with receiveBuffer := rest }.handle envelope)
  | .failure error => c.fail error
  | .incomplete => c
termination_by c.receiveBuffer.length

def receive (parse : List UInt8 → Option ServerEnvelope) (c : QuicClient)
    (buffers : List (List UInt8)) : QuicClient :=
  receiveLoop parse { c with receiveBuffer := buffers.foldl (· ++ ·) c.receiveBuffer }

def receives (parse : List UInt8 → Option ServerEnvelope) (c : QuicClient)
    (calls : List (List (List UInt8))) : QuicClient :=
  calls.foldl (receive parse) c

/-! ### The loop is the incremental decoder -/

variable {parse : List UInt8 → Option ServerEnvelope} {c : QuicClient}

theorem fail_fail (c : QuicClient) (error : FrameError) : (c.fail error).fail error = c.fail error := by
  cases error <;> rfl

theorem fail_receiveBuffer (c : QuicClient) (bytes : List UInt8) (error : FrameError) :
    { c with receiveBuffer := bytes }.fail error = { c.fail error with receiveBuffer := bytes } := by
  cases error <;> rfl

/-- The loop handles what the decoder consumes, and the rest stays in the buffer. -/
theorem receiveLoop_eq (parse : List UInt8 → Option ServerEnvelope) (c : QuicClient)
    (bytes : List UInt8) : receiveLoop parse { c with receiveBuffer := bytes } =
      { (consume (frameDecoder parse) handle fail c bytes).1 with
        receiveBuffer := (consume (frameDecoder parse) handle fail c bytes).2 } := by
  fun_induction consume (frameDecoder parse) handle fail c bytes with
  | case1 c bytes envelope rest hitem hlt ih =>
      rw [← ih, ← handle_receiveBuffer]
      change nextFrame parse bytes = _ at hitem
      rw [receiveLoop]
      split <;> simp_all
  | case2 c bytes error hfailure =>
      rw [← fail_receiveBuffer]
      change nextFrame parse bytes = _ at hfailure
      rw [receiveLoop]
      split <;> simp_all
  | case3 c bytes hincomplete =>
      change nextFrame parse bytes = _ at hincomplete
      rw [receiveLoop]
      split <;> simp_all

theorem foldl_append_flatten (bytes : List UInt8) (buffers : List (List UInt8)) :
    buffers.foldl (· ++ ·) bytes = bytes ++ buffers.flatten := by
  induction buffers generalizing bytes with
  | nil => simp
  | cons buffer buffers ih => rw [List.foldl_cons, ih, List.flatten_cons, List.append_assoc]

theorem receive_eq (parse : List UInt8 → Option ServerEnvelope) (c : QuicClient) (bytes : List UInt8)
    (buffers : List (List UInt8)) : { c with receiveBuffer := bytes }.receive parse buffers =
      { (consume (frameDecoder parse) handle fail c (bytes ++ buffers.flatten)).1 with
        receiveBuffer := (consume (frameDecoder parse) handle fail c (bytes ++ buffers.flatten)).2 } := by
  rw [receive, foldl_append_flatten]
  exact receiveLoop_eq parse c _

theorem receives_feed (parse : List UInt8 → Option ServerEnvelope) (c : QuicClient)
    (bytes : List UInt8) (calls : List (List (List UInt8))) :
    { c with receiveBuffer := bytes }.receives parse calls =
      { (feed (frameDecoder parse) handle fail c bytes (calls.map List.flatten)).1 with
        receiveBuffer := (feed (frameDecoder parse) handle fail c bytes (calls.map List.flatten)).2 } := by
  induction calls generalizing c bytes with
  | nil => rfl
  | cons buffers calls ih =>
      unfold receives at ih ⊢
      rw [List.foldl_cons, receive_eq, ih]
      rfl

/-- However the bytes are cut into calls and buffers, the client ends up as if they came at once. -/
theorem receives_eq (hempty : c.receiveBuffer = []) (calls : List (List (List UInt8))) :
    c.receives parse calls = c.receive parse [calls.flatten.flatten] ∧
      c.receive parse [calls.flatten.flatten] =
        { (consume (frameDecoder parse) handle fail c calls.flatten.flatten).1 with
          receiveBuffer := (consume (frameDecoder parse) handle fail c calls.flatten.flatten).2 } := by
  have hfresh : { c with receiveBuffer := [] } = c := by
    rw [← hempty]
  have hbytes : (calls.map List.flatten).flatten = calls.flatten.flatten := List.flatten_flatten.symm
  have honce := receive_eq parse c [] [calls.flatten.flatten]
  have hcalls := receives_feed parse c [] calls
  rw [feed_eq fail_fail, hbytes, hfresh] at hcalls
  rw [List.flatten_singleton, List.nil_append, hfresh] at honce
  exact ⟨hcalls.trans honce.symm, honce⟩

theorem foldl_handle_delivered (c : QuicClient) (envelopes : List ServerEnvelope) :
    (envelopes.foldl handle c).delivered = c.delivered ++ envelopes := by
  induction envelopes generalizing c with
  | nil => simp
  | cons envelope envelopes ih =>
      have hone : (c.handle envelope).delivered = c.delivered ++ [envelope] := by
        cases envelope <;> rfl
      rw [List.foldl_cons, ih, hone, List.append_assoc]
      rfl

end QuicClient

/-- Frames of both writers are read back by both readers, in their order and to the last byte, in any
cut; a broken frame ends both readers after the messages before it; and a payload above the bound is
not sent at all. -/
theorem framing {Message : Type} {p : Protobuf Message} (hp : p.Inverse)
    {q : Protobuf ServerEnvelope} (hq : q.Inverse) :
    (∀ messages parts, List.Forall₂ (Sends p) messages parts →
      (∀ r more, r.bytes = parts.flatten ++ more →
        ∃ r', readMessages p messages.length r = (messages, none, r') ∧ r'.bytes = more) ∧
      ∀ r bad count, Broken p.unmarshal bad → r.bytes = parts.flatten ++ bad →
        messages.length < count → ∃ err r', readMessages p count r = (messages, some err, r')) ∧
    (∀ c : QuicClient, c.receiveBuffer = [] → ∀ calls,
      c.receives q.parse calls = c.receive q.parse [calls.flatten.flatten]) ∧
    (∀ envelopes parts, List.Forall₂ (Sends q) envelopes parts →
      ∀ c : QuicClient, c.receiveBuffer = [] → ∀ calls,
      (calls.flatten.flatten = parts.flatten →
        (c.receives q.parse calls).delivered = c.delivered ++ envelopes ∧
        (c.receives q.parse calls).receiveBuffer = []) ∧
      ∀ bad, Broken q.parse bad → calls.flatten.flatten = parts.flatten ++ bad →
        (c.receives q.parse calls).delivered = c.delivered ++ envelopes ∧
        (c.receives q.parse calls).receiveBuffer = bad ∧
        (c.receives q.parse calls).failed = true) ∧
    ∀ message payload, maxMessageSize < payload.length →
      (p.marshal message = some payload → ∀ (σ : Type) (write : Writer σ) (w : σ),
        writeMessage write p w message = ⟨.error (.messageTooLarge payload.length), w, []⟩) ∧
      (p.serialize message = some payload → frame p message = []) := by
  refine ⟨?_, ?_, ?_, ?_⟩
  · intro messages parts hsends
    have hencodes := hsends.imp fun _ _ h => (h.encodes hp).1
    constructor
    · intro r more hbytes
      obtain ⟨r', hmore, hread⟩ := readMessages_encoded hencodes hbytes
      have hnone := hread 0
      rw [readMessages, Nat.add_zero, List.append_nil] at hnone
      exact ⟨r', hnone, hmore⟩
    · intro r bad count hbroken hbytes hcount
      obtain ⟨r', hmore, hread⟩ := readMessages_encoded hencodes hbytes
      obtain ⟨error, hfailure⟩ := hbroken.failure
      rw [← hmore] at hfailure
      obtain ⟨err, r'', hfails⟩ := readMessage_failure hfailure
      obtain ⟨extra, rfl⟩ : ∃ extra, count = messages.length + (extra + 1) :=
        ⟨count - messages.length - 1, by omega⟩
      refine ⟨err, r'', ?_⟩
      rw [hread, readMessages, hfails]
      dsimp only
      rw [List.append_nil]
  · intro c hempty calls
    exact (QuicClient.receives_eq hempty calls).1
  · intro envelopes parts hsends c hempty calls
    have hencodes := hsends.imp fun _ _ h => (h.encodes hq).2
    have hall : c.receives q.parse calls = { (consume (frameDecoder q.parse) QuicClient.handle
        QuicClient.fail c calls.flatten.flatten).1 with receiveBuffer := (consume
          (frameDecoder q.parse) QuicClient.handle QuicClient.fail c calls.flatten.flatten).2 } :=
      (QuicClient.receives_eq hempty calls).1.trans (QuicClient.receives_eq hempty calls).2
    rw [hall]
    constructor
    · intro hbytes
      have hconsumed : consume (frameDecoder q.parse) QuicClient.handle QuicClient.fail c
          (parts.flatten ++ []) = (envelopes.foldl QuicClient.handle c, []) := by
        rw [consume_encoded hencodes, consume_incomplete (frameDecoder q.parse).next_nil]
      rw [hbytes, ← List.append_nil parts.flatten, hconsumed]
      exact ⟨c.foldl_handle_delivered envelopes, rfl⟩
    · intro bad hbroken hbytes
      obtain ⟨error, hfailure⟩ := hbroken.failure
      have hconsumed : consume (frameDecoder q.parse) QuicClient.handle QuicClient.fail c
          (parts.flatten ++ bad) = ((envelopes.foldl QuicClient.handle c).fail error, bad) := by
        rw [consume_encoded hencodes, consume_failure (d := frameDecoder q.parse) hfailure]
      rw [hbytes, hconsumed, ← c.foldl_handle_delivered envelopes]
      cases error
      · exact ⟨rfl, rfl, rfl⟩
      · exact ⟨rfl, rfl, rfl⟩
  · intro message payload hlarge
    refine ⟨fun hmarshal σ write w => writeMessage_tooLarge w hmarshal hlarge, fun hserialize => ?_⟩
    rw [frame_serialized hserialize, if_neg (Nat.not_le.2 hlarge)]

/-- The wire form of `MatchReady` with datagrams and 30 ticks, and of an envelope without a payload. -/
def readyProtobuf : Protobuf ServerEnvelope :=
  let encode := fun envelope =>
    if envelope = .empty then some []
    else if envelope = .ready true 30 then some [26, 4, 8, 1, 16, 30]
    else none
  let decode := fun payload =>
    if payload = [] then some .empty
    else if payload = [26, 4, 8, 1, 16, 30] then some (.ready true 30)
    else none
  { marshal := encode, unmarshal := decode, serialize := encode, parse := decode }

theorem readyProtobuf_inverse : readyProtobuf.Inverse := by
  have hinverse : ∀ envelope payload, readyProtobuf.marshal envelope = some payload →
      readyProtobuf.unmarshal payload = some envelope := by
    intro envelope payload hmarshal
    simp only [readyProtobuf] at hmarshal
    split_ifs at hmarshal with hempty hready
    · cases hmarshal
      rw [hempty]
      rfl
    · cases hmarshal
      rw [hready]
      rfl
  exact ⟨fun envelope payload h => ⟨hinverse _ _ h, hinverse _ _ h⟩,
    fun envelope payload h => ⟨hinverse _ _ h, hinverse _ _ h⟩⟩

/-- One frame by a writer that takes a byte at a time, one by the client's `Frame`; their bytes arrive
with a cut inside the first size. -/
theorem framing_ready : ∃ parts,
    List.Forall₂ (Sends readyProtobuf) [.ready true 30, .empty] parts ∧
    ∀ c : QuicClient, c.receiveBuffer = [] →
      (c.receives readyProtobuf.parse
        [[[0, 0], []], [], [[0, 6, 26, 4], [8, 1]], [[16, 30, 0, 0, 0, 0]]]).delivered =
          c.delivered ++ [.ready true 30, .empty] := by
  have haccepts : Accepts fun (_ : Unit) buffer => (min 1 buffer.length, none, ()) := by
    intro w buffer hbuffer
    have hpos : 1 ≤ buffer.length := List.length_pos_iff.2 hbuffer
    exact ⟨1, (), by simp [Nat.min_eq_left hpos], Nat.one_pos, hpos⟩
  have hready : readyProtobuf.marshal (.ready true 30) = some [26, 4, 8, 1, 16, 30] := rfl
  have hempty : readyProtobuf.serialize .empty = some [] := rfl
  have hsends : List.Forall₂ (Sends readyProtobuf) [.ready true 30, .empty]
      [framed [26, 4, 8, 1, 16, 30], framed []] := by
    have hfirst := Sends.write _ () haccepts hready (by decide)
    have hsecond := Sends.frame hempty (by decide)
    rw [(writeMessage_accepts haccepts () hready (by decide)).2] at hfirst
    rw [frame_serialized hempty, if_pos (by decide)] at hsecond
    exact .cons hfirst (.cons hsecond .nil)
  refine ⟨_, hsends, fun c hfresh => ?_⟩
  have hdelivers := (framing readyProtobuf_inverse readyProtobuf_inverse).2.2.1 _ _ hsends c hfresh
    [[[0, 0], []], [], [[0, 6, 26, 4], [8, 1]], [[16, 30, 0, 0, 0, 0]]]
  exact (hdelivers.1 (by decide)).1

end PvpDuel.Transport
