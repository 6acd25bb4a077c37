import ChatProject.Library.Endian
import ChatProject.Message.Ids

namespace ChatModel

def maxLength : Nat := 1024
def idLen : Nat := 4
def headLen : Nat := 2
def prefixLen : Nat := idLen + headLen
def dataSize : Nat := prefixLen + maxLength + 1

theorem blank_sized : (List.replicate dataSize (0 : UInt8)).length = dataSize := List.length_replicate

/-- A frame: the id, the length of the body, and the buffer that both are encoded into. -/
structure MsgNode where
  id : UInt32 := 0
  bodyLength : Int32 := 0
  data : Bytes := List.replicate dataSize 0
  sized : data.length = dataSize := by exact blank_sized

namespace MsgNode

/-- `memcpy(data_ + offset, source, …)`. -/
def write (offset : Nat) (source : Bytes) (node : MsgNode) : MsgNode :=
  { node with data := memcpy node.data offset source, sized := by rw [memcpy_length, node.sized] }

def setBodyLength (length : Int32) (node : MsgNode) : Bool × MsgNode :=
  if length > Int32.ofNat maxLength then (false, node) else (true, { node with bodyLength := length })

def encodeHeader (node : MsgNode) : MsgNode :=
  (node.write 0 (bigEndian idLen node.id.toNat)).write idLen (bigEndian headLen node.bodyLength.toUInt32.toNat)

/-- `data_` as the two numbers in front of the body. -/
def decodeHeader (node : MsgNode) : Bool × MsgNode :=
  let id := UInt32.ofNat (fromBigEndian (node.data.take idLen))
  let len := fromBigEndian ((node.data.drop idLen).take headLen)
  { node with id }.setBodyLength (Int32.ofNat len)

/-- `MsgNode(id, nullptr)`. -/
def ofNull (id : UInt32) : MsgNode := { id : MsgNode }.encodeHeader

/-- `MsgNode(id, body)` for a C string. The result of `set_body_length` is not looked at; a
    negative length makes the copy undefined, here it copies nothing. -/
def ofCString (id : UInt32) (body : Bytes) : MsgNode :=
  let text := cString body
  let node := ({ id : MsgNode }.setBodyLength (Int32.ofNat text.length)).2
  node.encodeHeader.write prefixLen (text.take node.bodyLength.toInt.toNat)

def ofText (id : UInt32) (body : String) : MsgNode := ofCString id (bytesOf body)

def length (node : MsgNode) : Int32 := Int32.ofNat prefixLen + node.bodyLength

/-- The bytes that `async_write` puts on the socket. -/
def wire (node : MsgNode) : Bytes := node.data.take node.length.toInt.toNat

/-- `std::string(body(), body_length())`. -/
def body (node : MsgNode) : Bytes := (node.data.drop prefixLen).take node.bodyLength.toInt.toNat

/-- `body()` where it is read as a C string. -/
def bodyText (node : MsgNode) : Bytes := cString (node.data.drop prefixLen)

/-- One frame off the front of a stream, as both ends read it. -/
def receive (stream : Bytes) : Option (MsgNode × Bytes) :=
  if stream.length < prefixLen then none
  else
    let (ok, node) := (({} : MsgNode).write 0 (stream.take prefixLen)).decodeHeader
    let size := node.bodyLength.toInt.toNat
    let rest := stream.drop prefixLen
    if ok = false ∨ rest.length < size then none
    else some (node.write prefixLen (rest.take size), rest.drop size)

@[simp] theorem write_id (offset : Nat) (source : Bytes) (node : MsgNode) :
    (node.write offset source).id = node.id := rfl

@[simp] theorem write_bodyLength (offset : Nat) (source : Bytes) (node : MsgNode) :
    (node.write offset source).bodyLength = node.bodyLength := rfl

@[simp] theorem write_data (offset : Nat) (source : Bytes) (node : MsgNode) :
    (node.write offset source).data = memcpy node.data offset source := rfl

@[simp] theorem encodeHeader_id (node : MsgNode) : node.encodeHeader.id = node.id := rfl

@[simp] theorem encodeHeader_bodyLength (node : MsgNode) :
    node.encodeHeader.bodyLength = node.bodyLength := rfl

end MsgNode

end ChatModel
