import ChatProject.Message.Stream

/-! The Python client of the tests: the codec of `msg_node` and the receive loop of `ChatClient`. -/

namespace ChatModel

namespace Tests

inductive ClientError where
  | protocolError (message : String)
  | structError (message : String)
  | connectionClosed (message : String)
deriving DecidableEq, Repr

/-- `struct.pack(">IH", id, length)`. -/
def pack (id : Int) (length : Nat) : Except ClientError Bytes :=
  if id < 0 ∨ 2 ^ 32 ≤ id then .error (.structError "'I' format requires 0 <= number <= 4294967295")
  else if 2 ^ 16 ≤ length then .error (.structError "'H' format requires 0 <= number <= 65535")
  else .ok (bigEndian idLen id.toNat ++ bigEndian headLen length)

/-- `struct.unpack(">IH", header)`, for a header of six bytes. -/
def unpack (header : Bytes) : Nat × Nat :=
  (fromBigEndian (header.take idLen), fromBigEndian (header.drop idLen))

def encode (msgId : Int) (body : Bytes) : Except ClientError Bytes :=
  if body.length > maxLength then .error (.protocolError s!"body too large: {body.length} > {maxLength}")
  else (pack msgId body.length).map (· ++ body)

def decodeHeader (header : Bytes) : Except ClientError (Nat × Nat) :=
  if header.length ≠ prefixLen then .error (.protocolError s!"header must be {prefixLen} bytes, got {header.length}")
  else
    let (msgId, bodyLength) := unpack header
    if bodyLength > maxLength then .error (.protocolError s!"declared body_length too large: {bodyLength}")
    else .ok (msgId, bodyLength)

/-- A connection: what the peer still sends before it closes, and how many bytes have arrived by the
    time that so many are left. -/
structure Sock where
  coming : Bytes
  arrived : Nat → Nat

/-- `sock.recv(n)` waits for a first byte and takes what is there; it returns nothing only at the end. -/
def Sock.recv (n : Nat) (sock : Sock) : Bytes × Sock :=
  let size := min n (max 1 (sock.arrived sock.coming.length))
  (sock.coming.take size, { sock with coming := sock.coming.drop size })

def recvLoop (chunks : List Bytes) (remaining : Nat) (sock : Sock) : Except ClientError (Bytes × Sock) :=
  if _ : remaining > 0 then
    match sock.recv remaining with
    | (chunk, sock) =>
      if _ : chunk = [] then .error (.connectionClosed "peer closed connection (EOF)")
      else recvLoop (chunks ++ [chunk]) (remaining - chunk.length) sock
  else .ok (chunks.flatten, sock)
termination_by remaining
decreasing_by
  have := List.length_pos_iff.mpr ‹¬ _ = []›
  omega

/-- `_recv_exact`. -/
def recvExact (n : Nat) (sock : Sock) : Except ClientError (Bytes × Sock) := recvLoop [] n sock

/-- `recv` as far as `body_bytes`; the rest of it only decodes these. -/
def recv (sock : Sock) : Except ClientError ((Nat × Bytes) × Sock) := do
  let (header, sock) ← recvExact prefixLen sock
  let (msgId, bodyLen) ← decodeHeader header
  let (body, sock) ← if bodyLen > 0 then recvExact bodyLen sock else .ok ([], sock)
  return ((msgId, body), sock)

end Tests

end ChatModel

namespace ChatProof

open ChatModel Tests

variable {arrived : Nat → Nat}

/-- However the bytes arrive, `_recv_exact` takes the first `n` of them, or finds the end. -/
theorem recvLoop_spec (chunks : List Bytes) (remaining : Nat) (sock : Sock) :
    recvLoop chunks remaining sock =
      if remaining ≤ sock.coming.length then
        .ok (chunks.flatten ++ sock.coming.take remaining, { sock with coming := sock.coming.drop remaining })
      else .error (.connectionClosed "peer closed connection (EOF)") := by
  induction remaining using Nat.strong_induction_on generalizing chunks sock with
  | _ remaining ih =>
    rw [recvLoop]
    by_cases positive : remaining > 0
    · rw [dif_pos positive]
      dsimp only [Sock.recv]
      generalize chosen : min remaining (max 1 (sock.arrived sock.coming.length)) = size
      have some : 0 < size ∧ size ≤ remaining := by omega
      by_cases ended : sock.coming = []
      · rw [ended, List.take_nil, dif_pos rfl, if_neg]
        rw [List.length_nil]
        omega
      · have left : 0 < sock.coming.length := List.length_pos_iff.mpr ended
        have taken : (sock.coming.take size).length = min size sock.coming.length := List.length_take
        have fresh : ¬ sock.coming.take size = [] := by
          rw [← List.length_eq_zero_iff, taken]
          omega
        rw [dif_neg fresh, ih _ (by omega)]
        dsimp only
        by_cases enough : remaining ≤ sock.coming.length
        · have rest : min size sock.coming.length = size := by omega
          rw [if_pos enough, if_pos, taken, rest, List.drop_drop, List.flatten_append, List.flatten_singleton,
            List.append_assoc, ← List.take_add, Nat.add_sub_cancel' some.2]
          rw [taken, List.length_drop]
          omega
        · rw [if_neg enough, if_neg]
          rw [taken, List.length_drop]
          omega
    · have nothing : remaining = 0 := by omega
      subst nothing
      simp

theorem recvExact_spec (n : Nat) (sock : Sock) :
    recvExact n sock =
      if n ≤ sock.coming.length then .ok (sock.coming.take n, { sock with coming := sock.coming.drop n })
      else .error (.connectionClosed "peer closed connection (EOF)") := by
  rw [recvExact, recvLoop_spec, List.flatten_nil, List.nil_append]

/-! ## One header -/

theorem unpack_header (id : UInt32) {size : Nat} (word : size < 2 ^ 16) : unpack (header id size) = (id.toNat, size) := by
  have first : (header id size).take idLen = bigEndian idLen id.toNat := List.take_left' (bigEndian_length _ _)
  have second : (header id size).drop idLen = bigEndian headLen size := List.drop_left' (bigEndian_length _ _)
  rw [unpack, first, second, fromBigEndian_bigEndian, fromBigEndian_bigEndian]
  exact Prod.ext (Nat.mod_eq_of_lt id.toNat_lt) (Nat.mod_eq_of_lt word)

theorem decodeHeader_small (id : UInt32) {size : Nat} (small : size ≤ maxLength) :
    Tests.decodeHeader (header id size) = .ok (id.toNat, size) := by
  have word : size < 2 ^ 16 := Nat.lt_of_le_of_lt small (by decide)
  unfold Tests.decodeHeader
  rw [if_neg (by simp), unpack_header id word]
  exact if_neg (Nat.not_lt.mpr small)

theorem decodeHeader_tooLong (id : UInt32) {size : Nat} (long : maxLength < size) (word : size < 2 ^ 16) :
    Tests.decodeHeader (header id size) = .error (.protocolError s!"declared body_length too large: {size}") := by
  unfold Tests.decodeHeader
  rw [if_neg (by simp), unpack_header id word]
  exact if_pos long

/-- Both decoders, on six bytes that both have in front of them. -/
theorem decodeHeader_same {front : Bytes} (long : front.length = prefixLen) {node : MsgNode}
    (filled : node.data.take prefixLen = front) :
    node.decodeHeader.1 = (Tests.decodeHeader front).isOk ∧
      ∀ id length, Tests.decodeHeader front = .ok (id, length) →
        node.decodeHeader.2.id.toNat = id ∧ node.decodeHeader.2.bodyLength.toInt = length := by
  obtain ⟨id, size, word, same⟩ := header_surjective long
  have data : node.data = header id size ++ node.data.drop prefixLen := by
    rw [← same, ← filled, List.take_append_drop]
  subst same
  by_cases small : size ≤ maxLength
  · rw [decode_header id small node _ data, decodeHeader_small id small]
    refine ⟨rfl, ?_⟩
    intro id length read
    cases read
    unfold maxLength at small
    exact ⟨rfl, Int32.toInt_ofNat_of_lt (by omega)⟩
  · rw [decodeHeader_tooLong id (Nat.lt_of_not_le small) word]
    exact ⟨decode_tooLong id (Nat.lt_of_not_le small) word node _ data, nofun⟩

/-! ## One frame -/

theorem encode_frame {id : Nat} {body : Bytes} (named : id < 2 ^ 32) (small : body.length ≤ maxLength) :
    encode id body = .ok (frameBytes (UInt32.ofNat id, body)) := by
  have word : ¬ 2 ^ 16 ≤ body.length := Nat.not_le.mpr (Nat.lt_of_le_of_lt small (by decide))
  have same : (UInt32.ofNat id).toNat = id := UInt32.toNat_ofNat_of_lt' named
  unfold encode pack
  rw [if_neg (Nat.not_lt.mpr small), if_neg (by omega), if_neg word, frameBytes, header, same]
  rfl

/-- Behind a good header `recv` takes the body; for an empty one it does not ask the socket. -/
theorem recv_header (id : UInt32) {size : Nat} (small : size ≤ maxLength) (rest : Bytes) :
    recv ⟨header id size ++ rest, arrived⟩ =
      (recvExact size ⟨rest, arrived⟩).map fun read => ((id.toNat, read.1), read.2) := by
  unfold recv
  rw [recvExact_spec, if_pos (by simp), List.take_left' (header_length _ _), List.drop_left' (header_length _ _)]
  show (do
    let (msgId, bodyLen) ← Tests.decodeHeader (header id size)
    let (body, sock) ← if bodyLen > 0 then recvExact bodyLen ⟨rest, arrived⟩ else .ok ([], ⟨rest, arrived⟩)
    return ((msgId, body), sock)) = _
  rw [decodeHeader_small id small]
  show (do
    let (body, sock) ← if size > 0 then recvExact size ⟨rest, arrived⟩ else .ok ([], ⟨rest, arrived⟩)
    return ((id.toNat, body), sock)) = _
  by_cases some : size > 0
  · rw [if_pos some]
    cases recvExact size ⟨rest, arrived⟩ <;> rfl
  · have nothing : size = 0 := by omega
    subst nothing
    rw [recvExact_spec]
    rfl

theorem recv_frame {frame : UInt32 × Bytes} (small : Fits frame) (rest : Bytes) :
    recv ⟨frameBytes frame ++ rest, arrived⟩ = .ok ((frame.1.toNat, frame.2), ⟨rest, arrived⟩) := by
  rw [frameBytes, List.append_assoc, recv_header frame.1 small, recvExact_spec, if_pos (by simp), List.take_left,
    List.drop_left]
  rfl

theorem recv_cutHeader {stream : Bytes} (short : stream.length < prefixLen) :
    recv ⟨stream, arrived⟩ = .error (.connectionClosed "peer closed connection (EOF)") := by
  unfold recv
  rw [recvExact_spec, if_neg (Nat.not_le.mpr short)]
  rfl

theorem recv_tooLong (id : UInt32) {size : Nat} (rest : Bytes) (long : maxLength < size) (word : size < 2 ^ 16) :
    recv ⟨header id size ++ rest, arrived⟩ =
      .error (.protocolError s!"declared body_length too large: {size}") := by
  unfold recv
  rw [recvExact_spec, if_pos (by simp), List.take_left' (header_length _ _)]
  show (Tests.decodeHeader (header id size) >>= _) = _
  rw [decodeHeader_tooLong id long word]
  rfl

theorem recv_cutBody (id : UInt32) {size : Nat} {rest : Bytes} (small : size ≤ maxLength) (short : rest.length < size) :
    recv ⟨header id size ++ rest, arrived⟩ = .error (.connectionClosed "peer closed connection (EOF)") := by
  rw [recv_header id small, recvExact_spec, if_neg (Nat.not_le.mpr short)]
  rfl

/-- The client fails on the streams that halt the server. -/
theorem recv_halts (arrived : Nat → Nat) {stream : Bytes} (halts : Halts stream) : ∃ error, recv ⟨stream, arrived⟩ = .error error := by
  cases halts with
  | cutHeader short => exact ⟨_, recv_cutHeader short⟩
  | tooLong id rest long word => exact ⟨_, recv_tooLong id rest long word⟩
  | cutBody id small short => exact ⟨_, recv_cutBody id small short⟩

end ChatProof

namespace ChatModel.Tests

open ChatProof

/-- One call of `recv` after the other, until one of them raises. -/
def recvReader (arrived : Nat → Nat) : StreamReader UInt8 (Nat × Bytes) where
  read coming :=
    match recv ⟨coming, arrived⟩ with
    | .ok (frame, sock) => some (frame, sock.coming)
    | .error _ => none
  shrinks := by
    intro stream item rest taken
    rcases frame_or_halts stream with halts | ⟨frame, behind, same, small⟩
    · obtain ⟨error, failed⟩ := recv_halts arrived halts
      rw [failed] at taken
      cases taken
    · subst same
      rw [recv_frame small] at taken
      cases taken
      have positive : 0 < prefixLen := by decide
      show behind.length < _
      rw [frameBytes, List.length_append, List.length_append, header_length]
      omega

/-- The frames that the client receives, and what it leaves. -/
def received (arrived : Nat → Nat) (stream : Bytes) : List (Nat × Bytes) × Bytes := (recvReader arrived).readAll stream

end ChatModel.Tests

namespace ChatProof

open ChatModel

theorem recvReader_read (arrived : Nat → Nat) (stream : Bytes) : (Tests.recvReader arrived).read stream =
    (frameReader.read stream).map fun taken => ((taken.1.id.toNat, taken.1.body), taken.2) := by
  rw [frameReader_read]
  unfold Tests.recvReader
  dsimp only
  rcases frame_or_halts stream with halts | ⟨frame, rest, same, small⟩
  · obtain ⟨error, failed⟩ := recv_halts arrived halts
    rw [failed, receive_halts halts]
    rfl
  · obtain ⟨node, taken, named, text⟩ := receive_frame frame.1 small rest
    subst same
    rw [recv_frame small, frameBytes, taken]
    simp [named, text]

/-- However the bytes arrive, the client takes the same frames off a stream as the server. -/
theorem received_same (arrived : Nat → Nat) (stream : Bytes) :
    Tests.received arrived stream = ((received stream).1.map fun frame => (frame.1.toNat, frame.2), (received stream).2) := by
  have same := StreamReader.readAll_map (f := fun node : MsgNode => (node.id.toNat, node.body)) (recvReader_read arrived) stream
  rw [Tests.received, same, received, List.map_map]
  rfl

theorem codecs_agree :
    (∀ (id : Nat) (body : Bytes), id < 2 ^ 32 → body.length ≤ maxLength → (∀ b ∈ body, b ≠ 0) →
      Tests.encode id body = .ok (MsgNode.ofCString (UInt32.ofNat id) body).wire) ∧
    (∀ (front : Bytes) (node : MsgNode), front.length = prefixLen → node.data.take prefixLen = front →
      node.decodeHeader.1 = (Tests.decodeHeader front).isOk ∧
      ∀ id length, Tests.decodeHeader front = .ok (id, length) →
        node.decodeHeader.2.id.toNat = id ∧ node.decodeHeader.2.bodyLength.toInt = length) ∧
    ∀ (arrived : Nat → Nat) (stream : Bytes),
      Tests.received arrived stream = ((received stream).1.map fun frame => (frame.1.toNat, frame.2), (received stream).2) := by
  refine ⟨?_, ?_, received_same⟩
  · intro id body named small visible
    rw [encode_frame named small]
    exact congrArg Except.ok (wire_frameBytes small visible).symm
  · intro front node long filled
    exact decodeHeader_same long filled

/-- A ping, and a header that declares 1025 bytes. -/
theorem codecs_agree_ping :
    Tests.encode 1023 [123, 125] = .ok (MsgNode.ofCString 1023 [123, 125]).wire ∧
    (({} : MsgNode).write 0 [0, 0, 3, 255, 4, 1]).decodeHeader.1 = (Tests.decodeHeader [0, 0, 3, 255, 4, 1]).isOk ∧
    Tests.received (fun _ => 1) [0, 0, 3, 255, 0, 2, 123, 125] =
      ((received [0, 0, 3, 255, 0, 2, 123, 125]).1.map fun frame => (frame.1.toNat, frame.2),
        (received [0, 0, 3, 255, 0, 2, 123, 125]).2) := by
  refine ⟨?_, ?_, ?_⟩
  · exact codecs_agree.1 1023 [123, 125] (by decide) (by decide) (by simp)
  · have long : ([0, 0, 3, 255, 4, 1] : Bytes).length = prefixLen := by decide
    exact (codecs_agree.2.1 _ _ long (write_front long {})).1
  · exact codecs_agree.2.2 _ _

end ChatProof
