import ChatProject.Library.Stream
import ChatProject.Message.RoundTrip

namespace ChatModel

/-- The loop of `reader`: one frame after the other, for as long as a whole one is there. -/
def frameReader : StreamReader UInt8 MsgNode where
  read := MsgNode.receive
  shrinks := by
    intro stream node rest received
    unfold MsgNode.receive at received
    generalize ({} : MsgNode).write 0 (stream.take prefixLen) = front at received
    split at received
    · cases received
    · rename_i enough
      dsimp only at received
      split at received
      · cases received
      · cases received
        have positive : 0 < prefixLen := by decide
        rw [List.length_drop, List.length_drop]
        omega

@[simp] theorem frameReader_read (stream : Bytes) : frameReader.read stream = MsgNode.receive stream := rfl

def receiveAll (stream : Bytes) : List MsgNode × Bytes := frameReader.readAll stream

end ChatModel

namespace ChatProof

open ChatModel

/-! ## What a stream is made of -/

def frameBytes (frame : UInt32 × Bytes) : Bytes := header frame.1 frame.2.length ++ frame.2

def Fits (frame : UInt32 × Bytes) : Prop := frame.2.length ≤ maxLength

def content (node : MsgNode) : UInt32 × Bytes := (node.id, node.body)

/-- No frame can be taken off here: the header or the body is cut off, or the header declares too much. -/
inductive Halts : Bytes → Prop
  | cutHeader {stream : Bytes} : stream.length < prefixLen → Halts stream
  | tooLong (id : UInt32) {size : Nat} (rest : Bytes) : maxLength < size → size < 2 ^ 16 → Halts (header id size ++ rest)
  | cutBody (id : UInt32) {size : Nat} {rest : Bytes} : size ≤ maxLength → rest.length < size →
      Halts (header id size ++ rest)

/-- Any six bytes are a header. -/
theorem header_surjective {front : Bytes} (long : front.length = prefixLen) :
    ∃ id size, size < 2 ^ 16 ∧ front = header id size := by
  have first : (front.take idLen).length = idLen := by
    rw [List.length_take, long]
    rfl
  have second : (front.drop idLen).length = headLen := by
    rw [List.length_drop, long]
    rfl
  have idBound := fromBigEndian_lt (front.take idLen)
  have sizeBound := fromBigEndian_lt (front.drop idLen)
  rw [first] at idBound
  rw [second] at sizeBound
  refine ⟨UInt32.ofNat (fromBigEndian (front.take idLen)), fromBigEndian (front.drop idLen), sizeBound, ?_⟩
  have id : (UInt32.ofNat (fromBigEndian (front.take idLen))).toNat = fromBigEndian (front.take idLen) :=
    UInt32.toNat_ofNat_of_lt' idBound
  have idBytes := bigEndian_fromBigEndian (front.take idLen)
  have sizeBytes := bigEndian_fromBigEndian (front.drop idLen)
  rw [first] at idBytes
  rw [second] at sizeBytes
  rw [header, id, idBytes, sizeBytes, List.take_append_drop]

/-- A header that declares too much is refused. -/
theorem decode_tooLong (id : UInt32) {size : Nat} (long : maxLength < size) (word : size < 2 ^ 16) (node : MsgNode)
    (rest : Bytes) (front : node.data = header id size ++ rest) : node.decodeHeader.1 = false := by
  have declared : fromBigEndian ((node.data.drop idLen).take headLen) = size := by
    rw [front, header, List.append_assoc, List.drop_left' (bigEndian_length _ _), List.take_left' (bigEndian_length _ _),
      fromBigEndian_bigEndian]
    exact Nat.mod_eq_of_lt word
  have above : Int32.ofNat size > Int32.ofNat maxLength := by
    rw [gt_iff_lt, Int32.lt_iff_toInt_lt, Int32.toInt_ofNat_of_lt (by decide), Int32.toInt_ofNat_of_lt (by omega)]
    omega
  unfold MsgNode.decodeHeader
  dsimp only
  rw [declared, MsgNode.setBodyLength, if_pos above]

theorem receive_tooLong (id : UInt32) {size : Nat} (rest : Bytes) (long : maxLength < size) (word : size < 2 ^ 16) :
    MsgNode.receive (header id size ++ rest) = none := by
  have enough : ¬ (header id size ++ rest).length < prefixLen := by
    rw [List.length_append, header_length]
    omega
  have fits : (header id size).length ≤ (List.replicate dataSize (0 : UInt8)).length := by
    rw [header_length, List.length_replicate]
    decide
  have refused : (({} : MsgNode).write 0 (header id size)).decodeHeader.1 = false :=
    decode_tooLong id long word _ _ (memcpy_start fits)
  unfold MsgNode.receive
  rw [if_neg enough, List.take_left' (header_length _ _)]
  dsimp only
  rw [if_pos (.inl refused)]

theorem receive_cutBody (id : UInt32) {size : Nat} {rest : Bytes} (small : size ≤ maxLength) (short : rest.length < size) :
    MsgNode.receive (header id size ++ rest) = none := by
  have enough : ¬ (header id size ++ rest).length < prefixLen := by
    rw [List.length_append, header_length]
    omega
  have fits : (header id size).length ≤ (List.replicate dataSize (0 : UInt8)).length := by
    rw [header_length, List.length_replicate]
    decide
  have decoded := decode_header id small (({} : MsgNode).write 0 (header id size)) _ (memcpy_start fits)
  unfold MsgNode.receive
  rw [if_neg enough, List.take_left' (header_length _ _), List.drop_left' (header_length _ _), decoded]
  dsimp only
  rw [if_pos]
  right
  rw [size_toNat small]
  exact short

/-- Nothing is read exactly where a stream halts. -/
theorem receive_halts {stream : Bytes} (halts : Halts stream) : MsgNode.receive stream = none := by
  cases halts with
  | cutHeader short =>
    unfold MsgNode.receive
    rw [if_pos short]
  | tooLong id rest long word => exact receive_tooLong id rest long word
  | cutBody id small short => exact receive_cutBody id small short

/-- A stream begins with a frame, or halts. -/
theorem frame_or_halts (stream : Bytes) : Halts stream ∨
    ∃ frame rest, stream = frameBytes frame ++ rest ∧ Fits frame := by
  by_cases short : stream.length < prefixLen
  · exact .inl (.cutHeader short)
  · have long : (stream.take prefixLen).length = prefixLen := by
      rw [List.length_take]
      omega
    obtain ⟨id, size, word, front⟩ := header_surjective long
    have split : stream = header id size ++ stream.drop prefixLen := by
      rw [← front, List.take_append_drop]
    generalize stream.drop prefixLen = rest at split
    subst split
    by_cases small : size ≤ maxLength
    · by_cases cut : rest.length < size
      · exact .inl (.cutBody id small cut)
      · have sized : (rest.take size).length = size := by
          rw [List.length_take]
          omega
        refine .inr ⟨(id, rest.take size), rest.drop size, ?_, ?_⟩
        · rw [frameBytes, sized, List.append_assoc, List.take_append_drop]
        · rw [Fits, sized]
          exact small
    · exact .inl (.tooLong id rest (Nat.lt_of_not_le small) word)

theorem receive_read {stream rest : Bytes} {node : MsgNode} (received : MsgNode.receive stream = some (node, rest)) :
    stream = frameBytes (content node) ++ rest ∧ Fits (content node) := by
  rcases frame_or_halts stream with halts | ⟨⟨id, body⟩, after, same, small⟩
  · rw [receive_halts halts] at received
    cases received
  · obtain ⟨read, taken, named, text⟩ := receive_frame id small after
    subst same
    have found : MsgNode.receive (frameBytes (id, body) ++ after) = some (read, after) := taken
    rw [received] at found
    cases found
    rw [content, named, text]
    exact ⟨rfl, small⟩

/-- A frame is whole before whatever comes after it. -/
theorem receive_append {stream rest : Bytes} {node : MsgNode} (received : MsgNode.receive stream = some (node, rest)) (more : Bytes) :
    MsgNode.receive (stream ++ more) = some (node, rest ++ more) := by
  unfold MsgNode.receive at received ⊢
  split at received
  · cases received
  rename_i enough
  have long : prefixLen ≤ stream.length := by omega
  have still : ¬ (stream ++ more).length < prefixLen := by
    rw [List.length_append]
    omega
  rw [if_neg still, List.take_append_of_le_length long, List.drop_append_of_le_length long]
  generalize ({} : MsgNode).write 0 (stream.take prefixLen) = front at received ⊢
  dsimp only at received ⊢
  split at received
  · cases received
  · rename_i fits
    rw [not_or] at fits
    have body := Nat.le_of_not_lt fits.2
    have room : ¬ (front.decodeHeader.1 = false ∨
        (stream.drop prefixLen ++ more).length < front.decodeHeader.2.bodyLength.toInt.toNat) := by
      rw [List.length_append, not_or]
      exact ⟨fits.1, by omega⟩
    cases received
    rw [if_neg room, List.take_append_of_le_length body, List.drop_append_of_le_length body]

/-- The frames that have been read stay the first ones, whatever comes. -/
theorem takes_append {stream rest : Bytes} {frames : List MsgNode} (takes : frameReader.Takes stream frames rest) (more : Bytes) :
    frameReader.Takes (stream ++ more) frames (rest ++ more) := by
  apply takes.append
  intro stream node rest more received
  rw [frameReader_read] at received ⊢
  exact receive_append received more

/-! ## Whole streams -/

/-- What the loop hands out, by id and body, and what it leaves. -/
def received (stream : Bytes) : List (UInt32 × Bytes) × Bytes :=
  ((receiveAll stream).1.map content, (receiveAll stream).2)

theorem received_frames {frames : List (UInt32 × Bytes)} {rest : Bytes} (small : ∀ frame ∈ frames, Fits frame)
    (halts : Halts rest) : received (frames.flatMap frameBytes ++ rest) = (frames, rest) := by
  have reads : ∀ (frame : UInt32 × Bytes) (rest : Bytes), Fits frame →
      ∃ node, frameReader.read (frameBytes frame ++ rest) = some (node, rest) ∧ content node = frame := by
    intro frame rest small
    obtain ⟨node, taken, named, text⟩ := receive_frame frame.1 small rest
    rw [frameReader_read, frameBytes]
    exact ⟨node, taken, Prod.ext named text⟩
  obtain ⟨front, left⟩ := StreamReader.readAll_encoded reads small (receive_halts halts)
  exact Prod.ext front left

theorem received_whole (stream : Bytes) : stream = (received stream).1.flatMap frameBytes ++ (received stream).2 ∧
    (∀ frame ∈ (received stream).1, Fits frame) ∧ Halts (received stream).2 := by
  have whole : ∀ {stream : Bytes} {node : MsgNode} {rest : Bytes}, frameReader.read stream = some (node, rest) →
      stream = frameBytes (content node) ++ rest ∧ Fits (content node) :=
    fun taken => receive_read taken
  obtain ⟨same, small⟩ := StreamReader.encode_readAll whole stream
  refine ⟨same, small, ?_⟩
  have stuck : frameReader.read (received stream).2 = none := frameReader.readAll_stuck stream
  rcases frame_or_halts (received stream).2 with halts | ⟨frame, rest, front, fits⟩
  · exact halts
  · obtain ⟨node, taken, _⟩ := receive_frame frame.1 fits rest
    rw [frameReader_read, front, frameBytes, taken] at stuck
    cases stuck

theorem wire_frameBytes {frame : UInt32 × Bytes} (small : frame.2.length ≤ maxLength) (visible : ∀ b ∈ frame.2, b ≠ 0) :
    (MsgNode.ofCString frame.1 frame.2).wire = frameBytes frame := by
  have whole := cString_pad visible 0
  rw [List.replicate_zero, List.append_nil] at whole
  rw [← whole] at small
  rw [ofCString_wire frame.1 small, whole, frameBytes]

theorem stream_codec :
    (∀ frames : List (UInt32 × Bytes), (∀ frame ∈ frames, frame.2.length ≤ maxLength ∧ ∀ b ∈ frame.2, b ≠ 0) →
      received (frames.flatMap fun frame => (MsgNode.ofCString frame.1 frame.2).wire) = (frames, [])) ∧
    ∀ stream frames rest, received stream = (frames, rest) ↔
      stream = frames.flatMap frameBytes ++ rest ∧ (∀ frame ∈ frames, frame.2.length ≤ maxLength) ∧ Halts rest := by
  constructor
  · intro frames good
    have small : ∀ frame ∈ frames, Fits frame := fun frame member => (good frame member).1
    have bytes : frames.flatMap (fun frame => (MsgNode.ofCString frame.1 frame.2).wire) = frames.flatMap frameBytes := by
      apply List.flatMap_congr
      intro frame member
      exact wire_frameBytes (good frame member).1 (good frame member).2
    have nothing : Halts [] := .cutHeader (by decide)
    have all := received_frames small nothing
    rw [List.append_nil] at all
    rw [bytes]
    exact all
  · intro stream frames rest
    constructor
    · intro same
      have whole := received_whole stream
      rw [same] at whole
      exact whole
    · rintro ⟨same, small, halts⟩
      rw [same]
      exact received_frames small halts

/-- Two frames, and the first bytes of a third. -/
theorem stream_codec_two :
    received ([((1001 : UInt32), ([123, 125] : Bytes)), (1023, [])].flatMap fun frame =>
      (MsgNode.ofCString frame.1 frame.2).wire) = ([(1001, [123, 125]), (1023, [])], []) ∧
    received (frameBytes (1001, [123, 0]) ++ [0, 0, 3]) = ([(1001, [123, 0])], [0, 0, 3]) := by
  constructor
  · apply stream_codec.1
    decide +kernel
  · rw [stream_codec.2]
    refine ⟨?_, by decide, .cutHeader (by decide)⟩
    rw [List.flatMap_singleton]

end ChatProof
