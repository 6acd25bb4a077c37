import ChatProject.Message.RoundTrip

/-! What is copied into a `MsgNode`, and whether it stays inside `data_`. -/

namespace ChatModel

/-- `send_message` of the client, up to the write: the result of the check, and the node. -/
def Client.sendMessage (id : UInt32) (body : Bytes) : Bool × MsgNode :=
  let (ok, node) := { id : MsgNode }.setBodyLength (Int32.ofNat body.length)
  if ok then (true, node.encodeHeader.write prefixLen body) else (false, node)

/-- A copy to `data_ + offset`. -/
structure Copy where
  offset : Nat
  size : Nat
deriving DecidableEq, Repr

def Copy.Inside (copy : Copy) : Prop := copy.offset + copy.size ≤ dataSize

instance (copy : Copy) : Decidable copy.Inside := inferInstanceAs (Decidable (_ ≤ _))

/-- An `int` where a `size_t` is expected. -/
def sizeT (n : Int32) : Nat := n.toInt64.toUInt64.toNat

/-- The node at hand, and the copies of bodies that were made so far. -/
structure Buffer where
  node : MsgNode := {}
  copies : List Copy := []

/-- What the server and the client do with a node. A size is that of a string, before it becomes an `int`. -/
inductive NodeOp where
  | construct (id : UInt32) (body : Option Bytes)
  | setBodyLength (size : Nat)
  | encodeHeader
  /-- The buffer is filled, `decode_header` looks at it, and the body is read if it accepts. -/
  | receive (content : Bytes)
  | sendMessage (id : UInt32) (body : Bytes)

def Buffer.step (buffer : Buffer) : NodeOp → Buffer
  | .construct id none => { buffer with node := .ofNull id }
  | .construct id (some body) =>
    let node := MsgNode.ofCString id body
    { node, copies := ⟨prefixLen, sizeT node.bodyLength⟩ :: buffer.copies }
  | .setBodyLength size => { buffer with node := (buffer.node.setBodyLength (Int32.ofNat size)).2 }
  | .encodeHeader => { buffer with node := buffer.node.encodeHeader }
  | .receive content =>
    let (ok, node) := (buffer.node.write 0 content).decodeHeader
    { node, copies := if ok then ⟨prefixLen, sizeT node.bodyLength⟩ :: buffer.copies else buffer.copies }
  | .sendMessage id body =>
    let (ok, node) := Client.sendMessage id body
    { node, copies := if ok then ⟨prefixLen, body.length⟩ :: buffer.copies else buffer.copies }

def Buffer.run (ops : List NodeOp) : Buffer := ops.foldl Buffer.step {}

/-- Strings whose size is no negative `int`, and for the client none whose size only looks small as an `int`. -/
def NodeOp.Fits : NodeOp → Prop
  | .construct _ none => True
  | .construct _ (some body) => (cString body).length % 2 ^ 32 < 2 ^ 31
  | .setBodyLength size => size % 2 ^ 32 < 2 ^ 31
  | .encodeHeader => True
  | .receive _ => True
  | .sendMessage _ body => body.length % 2 ^ 32 < 2 ^ 31 ∧ (body.length < 2 ^ 32 ∨ maxLength < body.length % 2 ^ 32)

end ChatModel

namespace ChatProof

open ChatModel

/-! ## Sizes as integers -/

theorem toInt_ofNat_low {size : Nat} (low : size % 2 ^ 32 < 2 ^ 31) : (Int32.ofNat size).toInt = (size % 2 ^ 32 : Nat) := by
  have half : (size : Int) % (Int32.size : Nat) < ((Int32.size : Nat) + 1) / 2 := by
    rw [show Int32.size = 4294967296 from rfl]
    omega
  rw [Int32.toInt_ofNat', Int.bmod_eq_emod_of_lt half]
  rfl

theorem toInt_ofNat_high {size : Nat} (high : 2 ^ 31 ≤ size % 2 ^ 32) : (Int32.ofNat size).toInt < 0 := by
  have half : ¬ (size : Int) % (Int32.size : Nat) < ((Int32.size : Nat) + 1) / 2 := by
    rw [show Int32.size = 4294967296 from rfl]
    omega
  rw [Int32.toInt_ofNat', Int.bmod_def, if_neg half, show Int32.size = 4294967296 from rfl]
  omega

def Bounded (length : Int32) : Prop := 0 ≤ length.toInt ∧ length.toInt ≤ maxLength

theorem bounded_zero : Bounded 0 := ⟨by decide, by decide⟩

theorem sizeT_bounded {length : Int32} (bounded : Bounded length) : sizeT length ≤ maxLength := by
  have nonneg : 0 ≤ length.toInt64 := by
    rw [Int64.le_iff_toInt_le, Int32.toInt_toInt64]
    exact bounded.1
  have same : sizeT length = length.toInt.toNat := by
    rw [sizeT, Int64.toNat_toUInt64_of_le nonneg, Int32.toNatClampNeg_toInt64, Int32.toNat_toInt]
  have above := bounded.2
  omega

theorem inside_bounded {length : Int32} (bounded : Bounded length) : (Copy.mk prefixLen (sizeT length)).Inside := by
  have small := sizeT_bounded bounded
  unfold Copy.Inside dataSize
  dsimp only
  omega

/-- The check of `set_body_length` looks at the size modulo `2 ^ 32`, and only from one side. -/
theorem setBodyLength_cases (node : MsgNode) (size : Nat) :
    (size % 2 ^ 32 ≤ maxLength ∧ Bounded (Int32.ofNat size) ∧
      node.setBodyLength (Int32.ofNat size) = (true, { node with bodyLength := Int32.ofNat size })) ∨
    (maxLength < size % 2 ^ 32 ∧ size % 2 ^ 32 < 2 ^ 31 ∧ node.setBodyLength (Int32.ofNat size) = (false, node)) ∨
    (2 ^ 31 ≤ size % 2 ^ 32 ∧ ¬ Bounded (Int32.ofNat size) ∧
      node.setBodyLength (Int32.ofNat size) = (true, { node with bodyLength := Int32.ofNat size })) := by
  have above : Int32.ofNat size > Int32.ofNat maxLength ↔ (maxLength : Int) < (Int32.ofNat size).toInt := by
    rw [gt_iff_lt, Int32.lt_iff_toInt_lt, Int32.toInt_ofNat_of_lt (by decide)]
  unfold MsgNode.setBodyLength Bounded
  rcases Nat.lt_or_ge (size % 2 ^ 32) (2 ^ 31) with low | high
  · have value := toInt_ofNat_low low
    rcases Nat.lt_or_ge maxLength (size % 2 ^ 32) with long | small
    · right; left
      refine ⟨long, low, if_pos ?_⟩
      rw [above, value]
      omega
    · left
      refine ⟨small, by omega, if_neg ?_⟩
      rw [above, value]
      omega
  · have negative := toInt_ofNat_high high
    right; right
    refine ⟨high, by omega, if_neg ?_⟩
    rw [above]
    omega

theorem setBodyLength_bounded {node : MsgNode} (bounded : Bounded node.bodyLength) (size : Nat) :
    Bounded (node.setBodyLength (Int32.ofNat size)).2.bodyLength ↔ size % 2 ^ 32 < 2 ^ 31 := by
  rcases setBodyLength_cases node size with ⟨small, fits, same⟩ | ⟨_, low, same⟩ | ⟨high, outside, same⟩
  · rw [same]
    have low : size % 2 ^ 32 < 2 ^ 31 := Nat.lt_of_le_of_lt small (by decide)
    exact iff_of_true fits low
  · rw [same]
    exact iff_of_true bounded low
  · rw [same]
    exact iff_of_false outside (by omega)

theorem decodeHeader_bounded {node : MsgNode} (bounded : Bounded node.bodyLength) :
    Bounded node.decodeHeader.2.bodyLength := by
  have declared := fromBigEndian_lt ((node.data.drop idLen).take headLen)
  have short : ((node.data.drop idLen).take headLen).length ≤ headLen := List.length_take_le _ _
  have word : fromBigEndian ((node.data.drop idLen).take headLen) < 256 ^ headLen :=
    Nat.lt_of_lt_of_le declared (Nat.pow_le_pow_right (by decide) short)
  generalize declares : fromBigEndian ((node.data.drop idLen).take headLen) = size at word
  have named : Bounded ({ node with id := UInt32.ofNat (fromBigEndian (node.data.take idLen)) } : MsgNode).bodyLength := bounded
  unfold MsgNode.decodeHeader
  rw [declares]
  apply (setBodyLength_bounded named size).mpr
  unfold headLen at word
  omega

theorem ofCString_bounded (id : UInt32) (body : Bytes) :
    Bounded (MsgNode.ofCString id body).bodyLength ↔ (cString body).length % 2 ^ 32 < 2 ^ 31 := by
  have fresh : Bounded ({ id : MsgNode }).bodyLength := bounded_zero
  rw [← setBodyLength_bounded fresh]
  rfl

/-! ## The buffer -/

structure Safe (buffer : Buffer) : Prop where
  bodyLength : 0 ≤ buffer.node.bodyLength.toInt ∧ buffer.node.bodyLength.toInt ≤ maxLength
  length : prefixLen ≤ buffer.node.length.toInt ∧ buffer.node.length.toInt ≤ prefixLen + maxLength
  inside : ∀ copy ∈ buffer.copies, copy.Inside

theorem length_bounded {node : MsgNode} (bounded : Bounded node.bodyLength) :
    node.length.toInt = prefixLen + node.bodyLength.toInt := by
  have low : ((prefixLen : Nat) : Int) = 6 := rfl
  obtain ⟨nonneg, small⟩ := bounded
  unfold maxLength at small
  rw [MsgNode.length, Int32.toInt_add, Int32.toInt_ofNat_of_lt (by decide), Int.bmod_eq_of_le]
  · rw [low]
    omega
  · rw [low]
    omega

theorem safe_iff {buffer : Buffer} : Safe buffer ↔ Bounded buffer.node.bodyLength ∧ ∀ copy ∈ buffer.copies, copy.Inside := by
  constructor
  · intro safe
    exact ⟨safe.bodyLength, safe.inside⟩
  · rintro ⟨bounded, inside⟩
    refine ⟨bounded, ?_, inside⟩
    rw [length_bounded bounded]
    obtain ⟨nonneg, small⟩ := bounded
    omega

theorem sendMessage_cases (id : UInt32) (body : Bytes) :
    (body.length % 2 ^ 32 ≤ maxLength ∧ (Client.sendMessage id body).1 = true ∧
      Bounded (Client.sendMessage id body).2.bodyLength) ∨
    (maxLength < body.length % 2 ^ 32 ∧ body.length % 2 ^ 32 < 2 ^ 31 ∧
      Client.sendMessage id body = (false, { id : MsgNode })) ∨
    (2 ^ 31 ≤ body.length % 2 ^ 32 ∧ ¬ Bounded (Client.sendMessage id body).2.bodyLength) := by
  unfold Client.sendMessage
  rcases setBodyLength_cases { id : MsgNode } body.length with ⟨small, fits, same⟩ | ⟨long, low, same⟩ | ⟨high, outside, same⟩
  · rw [same]
    exact .inl ⟨small, rfl, fits⟩
  · rw [same]
    exact .inr (.inl ⟨long, low, rfl⟩)
  · rw [same]
    exact .inr (.inr ⟨high, outside⟩)

theorem inside_cons {copy : Copy} {copies : List Copy} (inside : ∀ copy ∈ copies, copy.Inside) :
    (∀ other ∈ copy :: copies, other.Inside) ↔ copy.Inside := by
  rw [List.forall_mem_cons]
  exact and_iff_left inside

theorem sendMessage_safe {buffer : Buffer} (safe : Safe buffer) (id : UInt32) (body : Bytes) :
    Safe (buffer.step (.sendMessage id body)) ↔ NodeOp.Fits (.sendMessage id body) := by
  have copied : (Copy.mk prefixLen body.length).Inside ↔ body.length ≤ maxLength + 1 := by
    unfold Copy.Inside dataSize
    dsimp only
    omega
  rw [safe_iff]
  unfold NodeOp.Fits Buffer.step
  dsimp only
  rcases sendMessage_cases id body with ⟨small, accepted, bounded⟩ | ⟨long, low, refused⟩ | ⟨high, outside⟩
  · rw [accepted, if_pos rfl, inside_cons safe.inside, copied]
    unfold maxLength at *
    constructor
    · rintro ⟨_, inside⟩
      omega
    · intro fits
      refine ⟨bounded, ?_⟩
      omega
  · rw [refused]
    exact iff_of_true ⟨bounded_zero, safe.inside⟩ ⟨low, .inr long⟩
  · apply iff_of_false
    · intro safe
      exact outside safe.1
    · intro fits
      omega

/-- From a safe buffer, exactly the fitting operations lead to a safe one. -/
theorem step_safe {buffer : Buffer} (safe : Safe buffer) (op : NodeOp) : Safe (buffer.step op) ↔ op.Fits := by
  have bounded : Bounded buffer.node.bodyLength := safe.bodyLength
  cases op with
  | construct id body =>
    cases body with
    | none => exact iff_of_true (safe_iff.mpr ⟨bounded_zero, safe.inside⟩) trivial
    | some body =>
      rw [safe_iff, NodeOp.Fits, ← ofCString_bounded id body]
      constructor
      · rintro ⟨kept, _⟩
        exact kept
      · intro kept
        exact ⟨kept, (inside_cons safe.inside).mpr (inside_bounded kept)⟩
  | setBodyLength size =>
    rw [safe_iff, NodeOp.Fits, ← setBodyLength_bounded bounded]
    exact and_iff_left safe.inside
  | encodeHeader => exact iff_of_true (safe_iff.mpr ⟨bounded, safe.inside⟩) trivial
  | receive content =>
    have decoded : Bounded (buffer.node.write 0 content).decodeHeader.2.bodyLength := decodeHeader_bounded bounded
    rw [safe_iff, NodeOp.Fits, iff_true]
    refine ⟨decoded, ?_⟩
    unfold Buffer.step
    dsimp only
    split
    · exact (inside_cons safe.inside).mpr (inside_bounded decoded)
    · exact safe.inside
  | sendMessage id body => exact sendMessage_safe safe id body

theorem run_concat (ops : List NodeOp) (op : NodeOp) : Buffer.run (ops ++ [op]) = (Buffer.run ops).step op := by
  simp only [Buffer.run, List.foldl_append, List.foldl_cons, List.foldl_nil]

theorem start_safe : Safe (Buffer.run []) := safe_iff.mpr ⟨bounded_zero, nofun⟩

theorem node_stays_inside (ops : List NodeOp) :
    (∀ before, before <+: ops → Safe (Buffer.run before)) ↔ ∀ op ∈ ops, op.Fits := by
  induction ops using List.reverseRecOn with
  | nil =>
    refine iff_of_true ?_ nofun
    intro before front
    rw [List.prefix_nil.mp front]
    exact start_safe
  | append_singleton ops op ih =>
    constructor
    · intro safe
      have earlier : ∀ before, before <+: ops → Safe (Buffer.run before) :=
        fun before front => safe before (front.trans (List.prefix_append ops [op]))
      have last := safe (ops ++ [op]) List.prefix_rfl
      rw [run_concat, step_safe (earlier ops List.prefix_rfl)] at last
      rw [List.forall_mem_append]
      exact ⟨ih.mp earlier, List.forall_mem_singleton.mpr last⟩
    · intro fits before front
      rw [List.forall_mem_append, List.forall_mem_singleton] at fits
      have earlier := ih.mpr fits.1
      rcases List.prefix_concat_iff.mp front with whole | proper
      · rw [whole, run_concat, step_safe (earlier ops List.prefix_rfl)]
        exact fits.2
      · exact earlier before proper

/-- A text of `2 ^ 31` bytes passes the check with a negative length, one of `2 ^ 32 + 5` bytes as one of
    five bytes; the client then copies all of it. -/
theorem node_leaves_buffer :
    ¬ Safe (Buffer.run [.sendMessage 1001 (List.replicate (2 ^ 31) 97)]) ∧
    ¬ Safe (Buffer.run [.sendMessage 1001 (List.replicate (2 ^ 32 + 5) 97)]) ∧
    ¬ ∀ ops, Safe (Buffer.run ops) := by
  have first : ∀ op : NodeOp, Safe (Buffer.run [op]) ↔ op.Fits := by
    intro op
    rw [← step_safe start_safe, ← run_concat, List.nil_append]
  have negative : ¬ Safe (Buffer.run [.sendMessage 1001 (List.replicate (2 ^ 31) 97)]) := by
    rw [first, NodeOp.Fits, List.length_replicate]
    decide
  refine ⟨negative, ?_, not_forall_of_exists_not ⟨_, negative⟩⟩
  rw [first, NodeOp.Fits, List.length_replicate]
  decide

end ChatProof
