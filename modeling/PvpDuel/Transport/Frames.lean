import Mathlib.Algebra.Group.Nat.Defs
import Mathlib.Data.List.Forall2
import PvpDuel.Lib.Incremental

/-!
# Frames

Both ends put the size of a message in front of it, in four bytes, and neither writes nor reads more
than 64 KiB. This module has the writers of both languages and the reader of package `protoframe`,
which blocks until a message is complete.
-/

namespace PvpDuel.Transport

/-- The protobuf runtimes: `proto.Marshal` and `proto.Unmarshal` of Go, `SerializeToArray` and
`ParseFromArray` of C++. -/
structure Protobuf (Message : Type) where
  marshal : Message → Option (List UInt8)
  unmarshal : List UInt8 → Option Message
  serialize : Message → Option (List UInt8)
  parse : List UInt8 → Option Message

/-- What either language writes is read back by both. -/
structure Protobuf.Inverse {Message : Type} (p : Protobuf Message) : Prop where
  marshal : ∀ message payload, p.marshal message = some payload →
    p.unmarshal payload = some message ∧ p.parse payload = some message
  serialize : ∀ message payload, p.serialize message = some payload →
    p.unmarshal payload = some message ∧ p.parse payload = some message

/-! ### The size -/

def maxMessageSize : Nat := 64 <<< 10

def kMaxFrameSize : UInt32 := (64 : UInt32) <<< 10

/-- `binary.BigEndian.PutUint32`, and the four assignments in `Frame`. -/
def putUint32 (size : UInt32) : List UInt8 :=
  [(size >>> 24).toUInt8, (size >>> 16).toUInt8, (size >>> 8).toUInt8, size.toUInt8]

/-- `binary.BigEndian.Uint32`, and the size `Receive` computes. -/
def uint32 (b₀ b₁ b₂ b₃ : UInt8) : UInt32 :=
  (b₀.toUInt32 <<< 24) ||| (b₁.toUInt32 <<< 16) ||| (b₂.toUInt32 <<< 8) ||| b₃.toUInt32

theorem toUInt32_shiftLeft (b : UInt8) {shift : UInt32} (hshift : shift.toNat ≤ 24) :
    (b.toUInt32 <<< shift).toNat = b.toNat <<< shift.toNat := by
  have hb := b.toNat_lt
  have hpow : 2 ^ shift.toNat ≤ 2 ^ 24 := Nat.pow_le_pow_right (by decide) hshift
  rw [UInt32.toNat_shiftLeft, Nat.mod_eq_of_lt (show shift.toNat < 32 by omega),
    UInt8.toNat_toUInt32]
  apply Nat.mod_eq_of_lt
  rw [Nat.shiftLeft_eq]
  calc b.toNat * 2 ^ shift.toNat ≤ b.toNat * 2 ^ 24 := Nat.mul_le_mul_left _ hpow
    _ < 2 ^ 32 := by omega

theorem uint32_toNat (b₀ b₁ b₂ b₃ : UInt8) : (uint32 b₀ b₁ b₂ b₃).toNat =
    b₀.toNat * 2 ^ 24 + (b₁.toNat * 2 ^ 16 + (b₂.toNat * 2 ^ 8 + b₃.toNat)) := by
  have h₁ := b₁.toNat_lt
  have h₂ := b₂.toNat_lt
  have h₃ := b₃.toNat_lt
  have hor : ∀ {high low shift : Nat}, low < 2 ^ shift →
      high <<< shift ||| low = high * 2 ^ shift + low := by
    intro high low shift hlow
    rw [← Nat.shiftLeft_add_eq_or_of_lt hlow, Nat.shiftLeft_eq]
  unfold uint32
  rw [UInt32.toNat_or, UInt32.toNat_or, UInt32.toNat_or, toUInt32_shiftLeft b₀ (by decide),
    toUInt32_shiftLeft b₁ (by decide), toUInt32_shiftLeft b₂ (by decide), UInt8.toNat_toUInt32,
    Nat.or_assoc, Nat.or_assoc]
  change b₀.toNat <<< 24 ||| (b₁.toNat <<< 16 ||| (b₂.toNat <<< 8 ||| b₃.toNat)) = _
  rw [@hor b₂.toNat b₃.toNat 8 (by omega), @hor b₁.toNat _ 16 (by omega),
    @hor b₀.toNat _ 24 (by omega)]

theorem uint32_putUint32 (size : UInt32) :
    uint32 (size >>> 24).toUInt8 (size >>> 16).toUInt8 (size >>> 8).toUInt8 size.toUInt8 = size := by
  have hsize := size.toNat_lt
  apply UInt32.toNat_inj.1
  rw [uint32_toNat]
  simp only [UInt32.toNat_toUInt8, UInt32.toNat_shiftRight, Nat.shiftRight_eq_div_pow,
    UInt32.reduceToNat, Nat.reduceMod]
  omega

/-! ### The writers -/

inductive IOError
  | eof
  | unexpectedEOF
  | shortWrite
  | other (message : String)
deriving DecidableEq, Repr

/-- An `io.Writer`: how many bytes of a buffer it takes, its error, and the writer after the call. -/
abbrev Writer (σ : Type) := σ → List UInt8 → Nat × Option IOError × σ

/-- A result with the writer after it and the bytes the writer has taken. -/
structure Written (σ ρ : Type) where
  result : ρ
  writer : σ
  taken : List UInt8

/-- The errors of `Write`, by the text they are wrapped in. -/
inductive WriteError
  | marshal
  | messageTooLarge (size : Nat)
  | frameSize (err : IOError)
  | framePayload (err : IOError)
deriving DecidableEq, Repr

section

variable {σ Message : Type} (write : Writer σ) (p : Protobuf Message)

def writeAll (w : σ) (payload : List UInt8) : Written σ (Except IOError Unit) :=
  if hpayload : payload = [] then
    ⟨.ok (), w, []⟩
  else
    match write w payload with
    | (written, some err, w) => ⟨.error err, w, payload.take written⟩
    | (written, none, w) =>
        if hwritten : written = 0 then
          ⟨.error .shortWrite, w, []⟩
        else
          have hlt : (payload.drop written).length < payload.length := by
            have hpos := List.length_pos_iff.2 hpayload
            rw [List.length_drop]
            omega
          let rest := writeAll w (payload.drop written)
          { rest with taken := payload.take written ++ rest.taken }
termination_by payload.length

/-- `Write` of package `protoframe`. -/
def writeMessage (w : σ) (message : Message) : Written σ (Except WriteError Unit) :=
  match p.marshal message with
  | none => ⟨.error .marshal, w, []⟩
  | some payload =>
      if payload.length > maxMessageSize then
        ⟨.error (.messageTooLarge payload.length), w, []⟩
      else
        let header := writeAll write w (putUint32 (UInt32.ofNat payload.length))
        match header.result with
        | .error err => ⟨.error (.frameSize err), header.writer, header.taken⟩
        | .ok () =>
            let body := writeAll write header.writer payload
            match body.result with
            | .error err => ⟨.error (.framePayload err), body.writer, header.taken ++ body.taken⟩
            | .ok () => ⟨.ok (), body.writer, header.taken ++ body.taken⟩

/-- `Frame` of the client; nothing when the message cannot be serialized or is too large. -/
def frame (message : Message) : List UInt8 :=
  match p.serialize message with
  | none => []
  | some payload =>
      if payload.length > kMaxFrameSize.toNat then []
      else putUint32 (UInt32.ofNat payload.length) ++ payload

end

/-! ### The reader -/

/-- An `io.Reader`: what its calls have to hand out, piece by piece, and the error after it. -/
structure Reader where
  pieces : List (List UInt8)
  err : IOError
deriving DecidableEq, Repr

def Reader.bytes (r : Reader) : List UInt8 := r.pieces.flatten

/-- The loop of `io.ReadAtLeast`: each call fills the buffer from the next piece, as far as it goes. -/
def readAtLeast : Nat → List (List UInt8) → List UInt8 × List (List UInt8)
  | 0, pieces => ([], pieces)
  | _ + 1, [] => ([], [])
  | n + 1, piece :: pieces =>
      if n + 1 ≤ piece.length then
        (piece.take (n + 1), piece.drop (n + 1) :: pieces)
      else
        let rest := readAtLeast (n + 1 - piece.length) pieces
        (piece ++ rest.1, rest.2)

/-- `io.ReadFull`. -/
def readFull (n : Nat) (r : Reader) : Except IOError (List UInt8) × Reader :=
  let read := readAtLeast n r.pieces
  (if n ≤ read.1.length then .ok read.1
    else if read.1 ≠ [] ∧ r.err = .eof then .error .unexpectedEOF
    else .error r.err, { r with pieces := read.2 })

/-- The errors of `Read`, by the text they are wrapped in. -/
inductive ReadError
  | frameSize (err : IOError)
  | messageTooLarge (size : UInt32)
  | framePayload (err : IOError)
  | unmarshal
deriving DecidableEq, Repr

/-- `binary.BigEndian.Uint32` of the header array. -/
def bigEndian : List UInt8 → UInt32
  | [b₀, b₁, b₂, b₃] => uint32 b₀ b₁ b₂ b₃
  | _ => 0

/-- `Read` of package `protoframe`. -/
def readMessage {Message : Type} (p : Protobuf Message) (r : Reader) :
    Except ReadError Message × Reader :=
  match readFull 4 r with
  | (.error err, r) => (.error (.frameSize err), r)
  | (.ok header, r) =>
      let size := bigEndian header
      if size.toNat > maxMessageSize then
        (.error (.messageTooLarge size), r)
      else
        match readFull size.toNat r with
        | (.error err, r) => (.error (.framePayload err), r)
        | (.ok payload, r) =>
            match p.unmarshal payload with
            | none => (.error .unmarshal, r)
            | some message => (.ok message, r)

/-- Calls of `Read` until one fails, at most as many as given: the messages, and the error. -/
def readMessages {Message : Type} (p : Protobuf Message) :
    Nat → Reader → List Message × Option ReadError × Reader
  | 0, r => ([], none, r)
  | count + 1, r =>
      match readMessage p r with
      | (.error err, r) => ([], some err, r)
      | (.ok message, r) =>
          let later := readMessages p count r
          (message :: later.1, later.2)

/-! ### The front of a buffer -/

inductive FrameError
  | tooLarge
  | invalid
deriving DecidableEq, Repr

open Incremental (Decoder Encodes Front)

section

variable {σ Message : Type} {write : Writer σ} {p : Protobuf Message} {payload buffer : List UInt8}
  {decode : List UInt8 → Option Message}

/-- One round of the loop of `Receive`: the size, its bound, the bytes that are there, the message. -/
def nextFrame (decode : List UInt8 → Option Message) : List UInt8 → Front UInt8 Message FrameError
  | b₀ :: b₁ :: b₂ :: b₃ :: payload =>
      let size := uint32 b₀ b₁ b₂ b₃
      if size > kMaxFrameSize then .failure .tooLarge
      else if 4 + payload.length < 4 + size.toNat then .incomplete
      else
        match decode (payload.take size.toNat) with
        | none => .failure .invalid
        | some message => .item message (payload.drop size.toNat)
  | _ => .incomplete

theorem nextFrame_item {message : Message} {rest : List UInt8}
    (h : nextFrame decode buffer = .item message rest) : ∃ b₀ b₁ b₂ b₃ payload,
      buffer = b₀ :: b₁ :: b₂ :: b₃ :: (payload ++ rest) ∧
      payload.length = (uint32 b₀ b₁ b₂ b₃).toNat ∧ ¬ uint32 b₀ b₁ b₂ b₃ > kMaxFrameSize ∧
      decode payload = some message := by
  unfold nextFrame at h
  split at h
  · rename_i b₀ b₁ b₂ b₃ tail
    dsimp only at h
    split_ifs at h with hlarge hshort
    split at h
    · cases h
    · rename_i decoded hdecoded
      cases h
      refine ⟨b₀, b₁, b₂, b₃, tail.take (uint32 b₀ b₁ b₂ b₃).toNat, ?_, ?_, hlarge, hdecoded⟩
      · rw [List.take_append_drop]
      · rw [List.length_take]
        omega
  · cases h

theorem nextFrame_failure {error : FrameError} (h : nextFrame decode buffer = .failure error) :
    ∃ b₀ b₁ b₂ b₃ tail, buffer = b₀ :: b₁ :: b₂ :: b₃ :: tail ∧
      (uint32 b₀ b₁ b₂ b₃ > kMaxFrameSize ∧ error = .tooLarge ∨
        ¬ uint32 b₀ b₁ b₂ b₃ > kMaxFrameSize ∧ (uint32 b₀ b₁ b₂ b₃).toNat ≤ tail.length ∧
          decode (tail.take (uint32 b₀ b₁ b₂ b₃).toNat) = none ∧ error = .invalid) := by
  unfold nextFrame at h
  split at h
  · rename_i b₀ b₁ b₂ b₃ tail
    dsimp only at h
    refine ⟨b₀, b₁, b₂, b₃, tail, rfl, ?_⟩
    split_ifs at h with hlarge hshort
    · cases h
      exact .inl ⟨hlarge, rfl⟩
    · split at h
      · rename_i hdecoded
        cases h
        exact .inr ⟨hlarge, by omega, hdecoded, rfl⟩
      · cases h
  · cases h

theorem nextFrame_of_payload {b₀ b₁ b₂ b₃ : UInt8} (hlength : payload.length = (uint32 b₀ b₁ b₂ b₃).toNat)
    (hlarge : ¬ uint32 b₀ b₁ b₂ b₃ > kMaxFrameSize) {message : Message}
    (hdecode : decode payload = some message) (rest : List UInt8) :
    nextFrame decode (b₀ :: b₁ :: b₂ :: b₃ :: (payload ++ rest)) = .item message rest := by
  unfold nextFrame
  dsimp only
  rw [if_neg hlarge, if_neg (by rw [List.length_append]; omega), ← hlength, List.take_left,
    List.drop_left, hdecode]

def frameDecoder (decode : List UInt8 → Option Message) : Decoder UInt8 Message FrameError where
  next := nextFrame decode
  item_append := by
    intro buffer message rest h more
    obtain ⟨b₀, b₁, b₂, b₃, payload, rfl, hlength, hlarge, hdecode⟩ := nextFrame_item h
    have happend := nextFrame_of_payload hlength hlarge hdecode (rest ++ more)
    rw [← List.append_assoc] at happend
    exact happend
  failure_append := by
    intro buffer error h more
    obtain ⟨b₀, b₁, b₂, b₃, tail, rfl, ⟨hlarge, rfl⟩ | ⟨hlarge, hlength, hdecode, rfl⟩⟩ :=
      nextFrame_failure h
    · exact if_pos hlarge
    · change nextFrame decode (b₀ :: b₁ :: b₂ :: b₃ :: (tail ++ more)) = _
      unfold nextFrame
      dsimp only
      rw [if_neg hlarge, if_neg (by rw [List.length_append]; omega),
        List.take_append_of_le_length hlength, hdecode]
  shrinks := by
    intro buffer message rest h
    obtain ⟨b₀, b₁, b₂, b₃, payload, rfl, -⟩ := nextFrame_item h
    simp only [List.length_cons, List.length_append]
    omega
  next_nil := rfl

end

end PvpDuel.Transport
