import PvpDuel.Transport.Frames

/-!
# What is written is what is read

Both writers put a payload behind its size, whatever the writer takes at a time, and write nothing when
the payload is too large. `Read` finds at the front of its stream what the frame decoder finds there,
however the stream is cut into pieces.
-/

namespace PvpDuel.Transport

open Incremental (Encodes)

section

variable {σ Message : Type} {write : Writer σ} {p : Protobuf Message} {payload : List UInt8}
  {decode : List UInt8 → Option Message} {message : Message}

def framed (payload : List UInt8) : List UInt8 :=
  putUint32 (UInt32.ofNat payload.length) ++ payload

theorem size_of_length (h : payload.length ≤ maxMessageSize) :
    (UInt32.ofNat payload.length).toNat = payload.length ∧
      ¬ UInt32.ofNat payload.length > kMaxFrameSize := by
  have hmax : maxMessageSize = 65536 := rfl
  have hsize : (UInt32.ofNat payload.length).toNat = payload.length := by
    rw [UInt32.toNat_ofNat']
    exact Nat.mod_eq_of_lt (by omega)
  refine ⟨hsize, ?_⟩
  rw [gt_iff_lt, UInt32.lt_iff_toNat_lt, hsize]
  change ¬ 65536 < payload.length
  omega

theorem encodes_framed (h : payload.length ≤ maxMessageSize) (hdecode : decode payload = some message) :
    Encodes (frameDecoder decode) message (framed payload) := by
  intro more
  obtain ⟨hsize, hlarge⟩ := size_of_length h
  apply nextFrame_of_payload
  · rw [uint32_putUint32, hsize]
    rfl
  · rw [uint32_putUint32]
    exact hlarge
  · exact hdecode

/-! ### The writers -/

/-- A writer that takes a positive part of every buffer. -/
def Accepts (write : Writer σ) : Prop :=
  ∀ w buffer, buffer ≠ [] →
    ∃ written w', write w buffer = (written, none, w') ∧ 0 < written ∧ written ≤ buffer.length

theorem writeAll_accepts (haccepts : Accepts write) (w : σ) (payload : List UInt8) :
    (writeAll write w payload).result = .ok () ∧ (writeAll write w payload).taken = payload := by
  fun_induction writeAll write w payload with
  | case1 w => exact ⟨rfl, rfl⟩
  | case2 w payload hpayload written err w' hwrite =>
      obtain ⟨_, _, haccept, -⟩ := haccepts w payload hpayload
      simp [hwrite] at haccept
  | case3 w payload hpayload w' hwrite =>
      obtain ⟨written, _, haccept, hpos, -⟩ := haccepts w payload hpayload
      simp [hwrite] at haccept
      omega
  | case4 w payload hpayload written w' hwrite hwritten hlt rest ih =>
      obtain ⟨hresult, htaken⟩ := ih
      refine ⟨hresult, ?_⟩
      dsimp only
      rw [htaken, List.take_append_drop]

theorem writeMessage_accepts (haccepts : Accepts write) (w : σ)
    (hmarshal : p.marshal message = some payload) (h : payload.length ≤ maxMessageSize) :
    (writeMessage write p w message).result = .ok () ∧
      (writeMessage write p w message).taken = framed payload := by
  obtain ⟨hheader, hheaderTaken⟩ :=
    writeAll_accepts haccepts w (putUint32 (UInt32.ofNat payload.length))
  obtain ⟨hbody, hbodyTaken⟩ := writeAll_accepts haccepts
    (writeAll write w (putUint32 (UInt32.ofNat payload.length))).writer payload
  unfold writeMessage
  simp only [hmarshal, if_neg (Nat.not_lt.2 h), gt_iff_lt, hheader, hbody, hheaderTaken, hbodyTaken]
  exact ⟨trivial, rfl⟩

theorem writeMessage_tooLarge (w : σ) (hmarshal : p.marshal message = some payload)
    (h : maxMessageSize < payload.length) : writeMessage write p w message =
      ⟨.error (.messageTooLarge payload.length), w, []⟩ := by
  unfold writeMessage
  simp only [hmarshal, gt_iff_lt, if_pos h]

theorem frame_serialized (hserialize : p.serialize message = some payload) :
    frame p message = if payload.length ≤ maxMessageSize then framed payload else [] := by
  unfold frame
  simp only [hserialize]
  change (if payload.length > maxMessageSize then _ else _) = _
  split_ifs with hlarge hsmall hsmall
  · omega
  · rfl
  · rfl
  · omega

/-- The bytes of one message as either writer sends it. -/
inductive Sends (p : Protobuf Message) : Message → List UInt8 → Prop
  | write {σ : Type} (write : Writer σ) (w : σ) {message : Message} {payload : List UInt8}
      (accepts : Accepts write) (marshal : p.marshal message = some payload)
      (size : payload.length ≤ maxMessageSize) :
      Sends p message (writeMessage write p w message).taken
  | frame {message : Message} {payload : List UInt8} (serialize : p.serialize message = some payload)
      (size : payload.length ≤ maxMessageSize) : Sends p message (frame p message)

/-- What is sent encodes its message, for the decoders of both languages. -/
theorem Sends.encodes (hp : p.Inverse) {bytes : List UInt8} (h : Sends p message bytes) :
    Encodes (frameDecoder p.unmarshal) message bytes ∧ Encodes (frameDecoder p.parse) message bytes := by
  cases h with
  | write write w accepts marshal size =>
      obtain ⟨hunmarshal, hparse⟩ := hp.marshal _ _ marshal
      rw [(writeMessage_accepts accepts w marshal size).2]
      exact ⟨encodes_framed size hunmarshal, encodes_framed size hparse⟩
  | frame serialize size =>
      obtain ⟨hunmarshal, hparse⟩ := hp.serialize _ _ serialize
      rw [frame_serialized serialize, if_pos size]
      exact ⟨encodes_framed size hunmarshal, encodes_framed size hparse⟩

/-- A frame of an oversized length or with a payload that does not decode, and what follows it. -/
def Broken (decode : List UInt8 → Option Message) (bytes : List UInt8) : Prop :=
  ∃ b₀ b₁ b₂ b₃ tail, bytes = b₀ :: b₁ :: b₂ :: b₃ :: tail ∧
    (maxMessageSize < (uint32 b₀ b₁ b₂ b₃).toNat ∨ (uint32 b₀ b₁ b₂ b₃).toNat ≤ tail.length ∧
      decode (tail.take (uint32 b₀ b₁ b₂ b₃).toNat) = none)

theorem Broken.failure {bytes : List UInt8} (h : Broken decode bytes) :
    ∃ error, nextFrame decode bytes = .failure error := by
  obtain ⟨b₀, b₁, b₂, b₃, tail, rfl, hbroken⟩ := h
  unfold nextFrame
  dsimp only
  by_cases hlarge : uint32 b₀ b₁ b₂ b₃ > kMaxFrameSize
  · exact ⟨.tooLarge, if_pos hlarge⟩
  · have hsmall : ¬ maxMessageSize < (uint32 b₀ b₁ b₂ b₃).toNat := fun hgt =>
      hlarge (UInt32.lt_iff_toNat_lt.2 hgt)
    obtain ⟨hlength, hdecode⟩ := hbroken.resolve_left hsmall
    rw [if_neg hlarge, if_neg (by omega), hdecode]
    exact ⟨.invalid, rfl⟩

/-! ### The reader -/

variable {r : Reader}

theorem readAtLeast_eq (n : Nat) (pieces : List (List UInt8)) :
    (readAtLeast n pieces).1 = pieces.flatten.take n ∧
      (readAtLeast n pieces).2.flatten = pieces.flatten.drop n := by
  fun_induction readAtLeast n pieces with
  | case1 pieces => simp
  | case2 n => simp
  | case3 n piece pieces hle =>
      simp [List.take_append_of_le_length hle, List.drop_append_of_le_length hle]
  | case4 n piece pieces hlt rest ih =>
      obtain ⟨hread, hrest⟩ := ih
      have hall : piece.length ≤ n + 1 := by omega
      dsimp only
      rw [hread, hrest, List.flatten_cons, List.take_append, List.drop_append,
        List.take_of_length_le hall, List.drop_of_length_le hall]
      exact ⟨rfl, rfl⟩

theorem readFull_ok {n : Nat} (h : n ≤ r.bytes.length) :
    ∃ r', readFull n r = (.ok (r.bytes.take n), r') ∧ r'.bytes = r.bytes.drop n := by
  obtain ⟨hread, hrest⟩ := readAtLeast_eq n r.pieces
  refine ⟨{ r with pieces := (readAtLeast n r.pieces).2 }, ?_, hrest⟩
  have hlength : n ≤ (readAtLeast n r.pieces).1.length := by
    rw [hread, List.length_take]
    exact Nat.le_min.2 ⟨Nat.le_refl n, h⟩
  unfold readFull
  dsimp only
  rw [if_pos hlength, hread]
  rfl

/-- `Read` past its header. -/
def readBody (p : Protobuf Message) (size : UInt32) (r : Reader) : Except ReadError Message × Reader :=
  if size.toNat > maxMessageSize then
    (.error (.messageTooLarge size), r)
  else
    match readFull size.toNat r with
    | (.error err, r) => (.error (.framePayload err), r)
    | (.ok payload, r) =>
        match p.unmarshal payload with
        | none => (.error .unmarshal, r)
        | some message => (.ok message, r)

theorem readMessage_eq {b₀ b₁ b₂ b₃ : UInt8} {tail : List UInt8}
    (hbytes : r.bytes = b₀ :: b₁ :: b₂ :: b₃ :: tail) : ∃ r', r'.bytes = tail ∧
      readMessage p r = readBody p (uint32 b₀ b₁ b₂ b₃) r' := by
  obtain ⟨r', hheader, hrest⟩ := readFull_ok (r := r) (n := 4) (by rw [hbytes]; simp)
  rw [hbytes] at hheader hrest
  refine ⟨r', hrest, ?_⟩
  unfold readMessage
  rw [hheader]
  rfl

/-- `Read` returns the message at the front of the stream and leaves what follows it. -/
theorem readMessage_item {rest : List UInt8}
    (h : nextFrame p.unmarshal r.bytes = .item message rest) :
    ∃ r', readMessage p r = (.ok message, r') ∧ r'.bytes = rest := by
  obtain ⟨b₀, b₁, b₂, b₃, payload, hbytes, hlength, hlarge, hdecode⟩ := nextFrame_item h
  obtain ⟨r₁, htail, hread⟩ := readMessage_eq (p := p) hbytes
  obtain ⟨r₂, hpayload, hrest⟩ := readFull_ok (r := r₁) (n := (uint32 b₀ b₁ b₂ b₃).toNat)
    (by rw [htail, List.length_append]; omega)
  rw [htail, ← hlength, List.take_left] at hpayload
  rw [htail, ← hlength, List.drop_left] at hrest
  have hsmall : ¬ (uint32 b₀ b₁ b₂ b₃).toNat > maxMessageSize := fun hgt =>
    hlarge (UInt32.lt_iff_toNat_lt.2 hgt)
  refine ⟨r₂, ?_, hrest⟩
  rw [hread, readBody, if_neg hsmall, ← hlength, hpayload]
  simp only [hdecode]

theorem readMessage_failure {error : FrameError}
    (h : nextFrame p.unmarshal r.bytes = .failure error) :
    ∃ err r', readMessage p r = (.error err, r') := by
  obtain ⟨b₀, b₁, b₂, b₃, tail, hbytes, hcases⟩ := nextFrame_failure h
  obtain ⟨r₁, htail, hread⟩ := readMessage_eq (p := p) hbytes
  rw [hread, readBody]
  obtain ⟨hlarge, -⟩ | ⟨hlarge, hlength, hdecode, -⟩ := hcases
  · have hgt : (uint32 b₀ b₁ b₂ b₃).toNat > maxMessageSize := UInt32.lt_iff_toNat_lt.1 hlarge
    rw [if_pos hgt]
    exact ⟨_, _, rfl⟩
  · have hsmall : ¬ (uint32 b₀ b₁ b₂ b₃).toNat > maxMessageSize := fun hgt =>
      hlarge (UInt32.lt_iff_toNat_lt.2 hgt)
    obtain ⟨r₂, hpayload, -⟩ := readFull_ok (r := r₁) (n := (uint32 b₀ b₁ b₂ b₃).toNat)
      (by rw [htail]; exact hlength)
    rw [htail] at hpayload
    rw [if_neg hsmall, hpayload]
    simp only [hdecode]
    exact ⟨_, _, rfl⟩

/-- Calls of `Read` return the encoded messages in their order and consume their bytes. -/
theorem readMessages_encoded {messages : List Message} {parts : List (List UInt8)}
    (h : List.Forall₂ (Encodes (frameDecoder p.unmarshal)) messages parts) {more : List UInt8}
    (hbytes : r.bytes = parts.flatten ++ more) :
    ∃ r', r'.bytes = more ∧ ∀ count, readMessages p (messages.length + count) r =
      (messages ++ (readMessages p count r').1, (readMessages p count r').2) := by
  induction h generalizing r with
  | nil => exact ⟨r, hbytes, fun count => by simp⟩
  | cons hfirst _ ih =>
      rw [List.flatten_cons, List.append_assoc] at hbytes
      obtain ⟨r₁, hread, hrest⟩ := readMessage_item (p := p) (by rw [hbytes]; exact hfirst _)
      obtain ⟨r', hmore, hlater⟩ := ih hrest
      refine ⟨r', hmore, fun count => ?_⟩
      rw [List.length_cons, Nat.succ_add, readMessages, hread]
      dsimp only
      rw [hlater count]
      rfl

end

end PvpDuel.Transport
