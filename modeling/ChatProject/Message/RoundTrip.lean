import ChatProject.Message.Node

namespace ChatProof

open ChatModel

def header (id : UInt32) (size : Nat) : Bytes := bigEndian idLen id.toNat ++ bigEndian headLen size

@[simp] theorem header_length (id : UInt32) (size : Nat) : (header id size).length = prefixLen := by
  simp [header, prefixLen]

theorem header_id (id : UInt32) (size : Nat) (rest : Bytes) :
    UInt32.ofNat (fromBigEndian ((header id size ++ rest).take idLen)) = id := by
  have front : (header id size ++ rest).take idLen = bigEndian idLen id.toNat := by
    rw [header, List.append_assoc, List.take_left' (bigEndian_length _ _)]
  have bound := id.toNat_lt
  rw [front, fromBigEndian_bigEndian, Nat.mod_eq_of_lt (by simpa [idLen] using bound)]
  exact UInt32.ofNat_toNat

theorem header_size (id : UInt32) (size : Nat) (rest : Bytes) (small : size ≤ maxLength) :
    fromBigEndian (((header id size ++ rest).drop idLen).take headLen) = size := by
  have back : ((header id size ++ rest).drop idLen).take headLen = bigEndian headLen size := by
    rw [header, List.append_assoc, List.drop_left' (bigEndian_length _ _),
      List.take_left' (bigEndian_length _ _)]
  rw [back, fromBigEndian_bigEndian]
  exact Nat.mod_eq_of_lt (Nat.lt_of_le_of_lt small (by decide))

theorem setBodyLength_small (node : MsgNode) {size : Nat} (small : size ≤ maxLength) :
    node.setBodyLength (Int32.ofNat size) = (true, { node with bodyLength := Int32.ofNat size }) := by
  have below : ¬ Int32.ofNat size > Int32.ofNat maxLength := by
    unfold maxLength at small
    rw [gt_iff_lt, Int32.lt_iff_toInt_lt, Int32.toInt_ofNat_of_lt (by decide),
      Int32.toInt_ofNat_of_lt (by omega), maxLength]
    omega
  simp [MsgNode.setBodyLength, below]

theorem size_toNat {size : Nat} (small : size ≤ maxLength) : (Int32.ofNat size).toInt.toNat = size := by
  unfold maxLength at small
  rw [Int32.toInt_ofNat_of_lt (by omega)]
  exact Int.toNat_natCast size

theorem size_word {size : Nat} (small : size ≤ maxLength) :
    (Int32.ofNat size).toUInt32.toNat = size := by
  rw [Int32.toUInt32_ofNat', UInt32.toNat_ofNat_of_lt' (Nat.lt_of_le_of_lt small (by decide))]

theorem encodeHeader_data (node : MsgNode) :
    node.encodeHeader.data = memcpy node.data 0 (header node.id node.bodyLength.toUInt32.toNat) := by
  have whole : (bigEndian idLen node.id.toNat).length +
      (bigEndian headLen node.bodyLength.toUInt32.toNat).length ≤ node.data.length := by
    rw [node.sized]
    simp only [bigEndian_length]
    decide
  have copies := memcpy_memcpy_start whole
  rw [bigEndian_length] at copies
  exact copies

theorem ofCString_data (id : UInt32) {body : Bytes} (small : (cString body).length ≤ maxLength) :
    (MsgNode.ofCString id body).bodyLength = Int32.ofNat (cString body).length ∧
      (MsgNode.ofCString id body).data =
        memcpy (List.replicate dataSize 0) 0 (header id (cString body).length ++ cString body) := by
  simp only [MsgNode.ofCString, setBodyLength_small _ small, MsgNode.write_bodyLength,
    MsgNode.encodeHeader_bodyLength, MsgNode.write_data, encodeHeader_data, size_toNat small, size_word small,
    List.take_length, true_and]
  have whole : (header id (cString body).length).length + (cString body).length ≤
      (List.replicate dataSize (0 : UInt8)).length := by
    rw [header_length, List.length_replicate]
    unfold dataSize
    omega
  have copies := memcpy_memcpy_start whole
  rwa [header_length] at copies

theorem length_toNat {node : MsgNode} {size : Nat} (small : size ≤ maxLength)
    (sized : node.bodyLength = Int32.ofNat size) : node.length.toInt.toNat = prefixLen + size := by
  have sum : node.length = Int32.ofNat (prefixLen + size) := by
    rw [MsgNode.length, sized, Int32.ofNat_add]
  unfold maxLength at small
  rw [sum, Int32.toInt_ofNat_of_lt (by unfold prefixLen idLen headLen; omega)]
  exact Int.toNat_natCast _

/-- What a text of at most `maxLength` bytes puts on the wire. -/
theorem ofCString_wire (id : UInt32) {body : Bytes} (small : (cString body).length ≤ maxLength) :
    (MsgNode.ofCString id body).wire = header id (cString body).length ++ cString body := by
  obtain ⟨sized, data⟩ := ofCString_data id small
  have fits : (header id (cString body).length ++ cString body).length ≤
      (List.replicate dataSize (0 : UInt8)).length := by
    rw [List.length_append, header_length, List.length_replicate]
    unfold dataSize
    omega
  rw [MsgNode.wire, length_toNat small sized, data, memcpy_start fits, List.take_left']
  rw [List.length_append, header_length]

/-- A header that has been read lies in front of the buffer. -/
theorem write_front {front : Bytes} (long : front.length = prefixLen) (node : MsgNode) :
    (node.write 0 front).data.take prefixLen = front := by
  have fits : front.length ≤ node.data.length := by
    rw [long, node.sized]
    decide
  rw [MsgNode.write_data, memcpy_start fits, List.take_left' long]

theorem decode_header (id : UInt32) {size : Nat} (small : size ≤ maxLength) (node : MsgNode) (rest : Bytes)
    (front : node.data = header id size ++ rest) :
    node.decodeHeader = (true, { node with id := id, bodyLength := Int32.ofNat size }) := by
  have idRead := header_id id size rest
  have sizeRead := header_size id size rest small
  rw [← front] at idRead sizeRead
  simp only [MsgNode.decodeHeader, idRead, sizeRead]
  exact setBodyLength_small _ small

/-- A frame whose body fits is read back, whatever follows it, into a buffer of zeros. -/
theorem receive_frame_data (id : UInt32) {text : Bytes} (small : text.length ≤ maxLength) (rest : Bytes) :
    ∃ node, MsgNode.receive (header id text.length ++ text ++ rest) = some (node, rest) ∧
      node.id = id ∧ node.body = text ∧
      node.data.drop prefixLen = text ++ List.replicate (dataSize - prefixLen - text.length) 0 := by
  have long : ¬ (header id text.length ++ text ++ rest).length < prefixLen := by
    rw [List.length_append, List.length_append, header_length]
    omega
  have front : (header id text.length ++ text ++ rest).take prefixLen = header id text.length := by
    rw [List.append_assoc, List.take_left' (header_length _ _)]
  have back : (header id text.length ++ text ++ rest).drop prefixLen = text ++ rest := by
    rw [List.append_assoc, List.drop_left' (header_length _ _)]
  have fits : (header id text.length).length ≤ (List.replicate dataSize (0 : UInt8)).length := by
    rw [header_length, List.length_replicate]
    decide
  let blank := ({} : MsgNode).write 0 (header id text.length)
  have decoded : blank.decodeHeader = (true, { blank with id := id, bodyLength := Int32.ofNat text.length }) :=
    decode_header id small blank _ (memcpy_start fits)
  have enough : ¬ (text ++ rest).length < text.length := by
    rw [List.length_append]
    omega
  let read := MsgNode.write prefixLen text { blank with id := id, bodyLength := Int32.ofNat text.length }
  have whole : (header id text.length).length + text.length ≤ (List.replicate dataSize (0 : UInt8)).length := by
    rw [header_length, List.length_replicate]
    unfold dataSize
    omega
  have copies := memcpy_memcpy_start whole
  have all : (header id text.length ++ text).length ≤ (List.replicate dataSize (0 : UInt8)).length := by
    rw [List.length_append]
    exact whole
  rw [header_length] at copies
  have data : read.data = header id text.length ++ text ++
      (List.replicate dataSize (0 : UInt8)).drop (header id text.length ++ text).length := by
    rw [← memcpy_start all, ← copies]
    simp only [read, blank, MsgNode.write_data]
  have behind : read.data.drop prefixLen = text ++ List.replicate (dataSize - prefixLen - text.length) 0 := by
    rw [data, List.append_assoc, List.drop_left' (header_length _ _), List.drop_replicate, List.length_append,
      header_length, Nat.sub_sub]
  refine ⟨read, ?_, rfl, ?_, behind⟩
  · unfold MsgNode.receive
    rw [if_neg long, front, back, decoded]
    simp only [Bool.true_eq_false, false_or]
    rw [size_toNat small, if_neg enough, List.take_left, List.drop_left]
  · have size : read.bodyLength.toInt.toNat = text.length := size_toNat small
    rw [MsgNode.body, size, behind, List.take_left]

theorem receive_frame (id : UInt32) {text : Bytes} (small : text.length ≤ maxLength) (rest : Bytes) :
    ∃ node, MsgNode.receive (header id text.length ++ text ++ rest) = some (node, rest) ∧
      node.id = id ∧ node.body = text := by
  obtain ⟨node, received, named, same, _⟩ := receive_frame_data id small rest
  exact ⟨node, received, named, same⟩

/-- So is a text that fits, from what it puts on the wire. -/
theorem receive_wire (id : UInt32) {body : Bytes} (small : (cString body).length ≤ maxLength) (rest : Bytes) :
    ∃ node, MsgNode.receive ((MsgNode.ofCString id body).wire ++ rest) = some (node, rest) ∧
      node.id = id ∧ node.body = cString body := by
  rw [ofCString_wire id small]
  exact receive_frame id small rest

theorem setBodyLength_bound {length : Int32} {node after : MsgNode}
    (accepted : node.setBodyLength length = (true, after)) : after.bodyLength.toInt ≤ maxLength := by
  unfold MsgNode.setBodyLength at accepted
  split at accepted
  · cases accepted
  · rename_i below
    cases accepted
    rw [gt_iff_lt, Int32.lt_iff_toInt_lt, Int32.toInt_ofNat_of_lt (by decide)] at below
    exact Int.not_lt.mp below

theorem receive_bound {stream rest : Bytes} {node : MsgNode}
    (received : MsgNode.receive stream = some (node, rest)) : node.body.length ≤ maxLength := by
  unfold MsgNode.receive at received
  generalize ({} : MsgNode).write 0 (stream.take prefixLen) = front at received
  cases decoded : front.decodeHeader with
  | mk ok read =>
    rw [decoded] at received
    dsimp only at received
    split at received
    · cases received
    · split at received
      · cases received
      · rename_i accepted
        cases received
        have yes : ok = true := by
          cases ok
          · exact absurd (.inl rfl) accepted
          · rfl
        rw [yes] at decoded
        have bound := setBodyLength_bound decoded
        rw [MsgNode.body, List.length_take, MsgNode.write_bodyLength]
        omega

theorem setBodyLength_data (node : MsgNode) (length : Int32) : (node.setBodyLength length).2.data = node.data := by
  unfold MsgNode.setBodyLength
  split <;> rfl

/-- Whatever its length, a text leaves nothing but a part of it in the frame, all of it when it fits. -/
theorem ofText_bodyText (id : UInt32) {text : String} (visible : '\x00' ∉ text.toList) :
    ∃ size, (MsgNode.ofText id text).bodyText = (bytesOf text).take size ∧
      ((bytesOf text).length ≤ maxLength → (bytesOf text).length ≤ size) := by
  have fits : (bytesOf text).length ≤ maxLength →
      ({ id : MsgNode }.setBodyLength (Int32.ofNat (bytesOf text).length)).2.bodyLength.toInt.toNat =
        (bytesOf text).length := by
    intro small
    rw [setBodyLength_small _ small]
    exact size_toNat small
  have blank := setBodyLength_data { id : MsgNode } (Int32.ofNat (bytesOf text).length)
  unfold MsgNode.ofText MsgNode.ofCString
  rw [cString_bytesOf visible]
  dsimp only
  generalize ({ id : MsgNode }.setBodyLength (Int32.ofNat (bytesOf text).length)).2 = node at fits blank ⊢
  let front := header node.id node.bodyLength.toUInt32.toNat
  let copied := (bytesOf text).take node.bodyLength.toInt.toNat
  have start : node.encodeHeader.data = front ++ List.replicate (dataSize - prefixLen) 0 := by
    rw [encodeHeader_data, blank, memcpy_start, header_length, List.drop_replicate]
    rw [header_length, List.length_replicate]
    decide
  have data : (node.encodeHeader.write prefixLen copied).data =
      front ++ memcpy (List.replicate (dataSize - prefixLen) 0) 0 copied := by
    have behind : front.length = prefixLen := header_length _ _
    rw [MsgNode.write_data, start, ← behind]
    exact memcpy_append front _
  have body : (node.encodeHeader.write prefixLen copied).bodyText =
      cString (copied.take (dataSize - prefixLen) ++ List.replicate (dataSize - prefixLen - copied.length) 0) := by
    rw [MsgNode.bodyText, data, List.drop_left' (header_length _ _)]
    simp only [memcpy, List.take_zero, List.nil_append, List.length_replicate, Nat.sub_zero, Nat.zero_add,
      List.drop_replicate]
  refine ⟨min (dataSize - prefixLen) node.bodyLength.toInt.toNat, ?_, ?_⟩
  · rw [body, cString_pad]
    · rw [List.take_take]
    · intro b member
      exact bytesOf_ne_zero visible b (List.mem_of_mem_take (List.mem_of_mem_take member))
  · intro small
    rw [fits small]
    apply le_min _ (le_refl _)
    exact le_trans small (by decide)

theorem ofNull_bodyText (id : UInt32) : (MsgNode.ofNull id).bodyText = [] := by
  have data : (MsgNode.ofNull id).data = header id 0 ++ List.replicate (dataSize - prefixLen) 0 := by
    have blank : (MsgNode.ofNull id).data = memcpy (List.replicate dataSize 0) 0 (header id 0) := encodeHeader_data { id : MsgNode }
    rw [blank, memcpy_start, header_length, List.drop_replicate]
    rw [header_length, List.length_replicate]
    decide
  rw [MsgNode.bodyText, data, List.drop_left' (header_length _ _)]
  rfl

/-- The receiver of the frame, whatever comes behind it, reads exactly this text. -/
def Carries (frame : MsgNode) (text : String) : Prop :=
  ∀ rest, ∃ node, MsgNode.receive (frame.wire ++ rest) = some (node, rest) ∧
    node.id = frame.id ∧ node.body = bytesOf text

theorem ofCString_id (id : UInt32) (body : Bytes) : (MsgNode.ofCString id body).id = id := by
  simp only [MsgNode.ofCString, MsgNode.write_id, MsgNode.encodeHeader_id, MsgNode.setBodyLength]
  split <;> rfl

theorem carries_iff (id : UInt32) {text : String} (visible : '\x00' ∉ text.toList) :
    Carries (MsgNode.ofText id text) text ↔ (bytesOf text).length ≤ maxLength := by
  have whole := cString_bytesOf visible
  constructor
  · intro carried
    obtain ⟨node, received, _, same⟩ := carried []
    rw [← same]
    exact receive_bound received
  · intro small rest
    rw [← whole] at small
    obtain ⟨node, received, named, same⟩ := receive_wire id small rest
    refine ⟨node, received, ?_, ?_⟩
    · rw [named, MsgNode.ofText, ofCString_id]
    · rw [same, whole]

end ChatProof
