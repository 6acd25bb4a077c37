import ChatProject.Library.Text

/-! Unsigned numbers as a fixed number of bytes, the most significant first. -/

def bigEndian : Nat → Nat → Bytes
  | 0, _ => []
  | width + 1, n => bigEndian width (n / 256) ++ [UInt8.ofNat n]

def fromBigEndian (bytes : Bytes) : Nat := bytes.foldl (fun high byte => high * 256 + byte.toNat) 0

@[simp] theorem bigEndian_length (width n : Nat) : (bigEndian width n).length = width := by
  induction width generalizing n with
  | zero => rfl
  | succ width ih => simp [bigEndian, ih]

theorem fromBigEndian_append (bytes : Bytes) (byte : UInt8) :
    fromBigEndian (bytes ++ [byte]) = fromBigEndian bytes * 256 + byte.toNat := by
  simp [fromBigEndian]

theorem fromBigEndian_bigEndian (width n : Nat) :
    fromBigEndian (bigEndian width n) = n % 256 ^ width := by
  induction width generalizing n with
  | zero => simp [bigEndian, fromBigEndian, Nat.mod_one]
  | succ width ih =>
    have low : (UInt8.ofNat n).toNat = n % 256 := UInt8.toNat_ofNat'
    have split : n % (256 * 256 ^ width) = n % 256 + 256 * (n / 256 % 256 ^ width) := Nat.mod_mul
    rw [bigEndian, fromBigEndian_append, ih, low, Nat.pow_succ, Nat.mul_comm (256 ^ width), split]
    omega

theorem fromBigEndian_lt (bytes : Bytes) : fromBigEndian bytes < 256 ^ bytes.length := by
  induction bytes using List.reverseRecOn with
  | nil => simp [fromBigEndian]
  | append_singleton bytes byte ih =>
    have bound := byte.toNat_lt
    rw [fromBigEndian_append, List.length_append, List.length_singleton, Nat.pow_succ]
    omega

theorem bigEndian_fromBigEndian (bytes : Bytes) : bigEndian bytes.length (fromBigEndian bytes) = bytes := by
  induction bytes using List.reverseRecOn with
  | nil => rfl
  | append_singleton bytes byte ih =>
    have low := byte.toNat_lt
    have high : (fromBigEndian bytes * 256 + byte.toNat) / 256 = fromBigEndian bytes := by omega
    have same : UInt8.ofNat (fromBigEndian bytes * 256 + byte.toNat) = byte := by
      apply UInt8.toNat_inj.mp
      rw [UInt8.toNat_ofNat']
      omega
    rw [List.length_append, List.length_singleton, bigEndian, fromBigEndian_append, high, ih, same]

/-- Overwrite part of a buffer; what would fall behind its end is dropped. -/
def memcpy (buffer : Bytes) (offset : Nat) (source : Bytes) : Bytes :=
  buffer.take offset ++ source.take (buffer.length - offset) ++ buffer.drop (offset + source.length)

@[simp] theorem memcpy_length (buffer : Bytes) (offset : Nat) (source : Bytes) :
    (memcpy buffer offset source).length = buffer.length := by
  simp only [memcpy, List.length_append, List.length_take, List.length_drop]
  omega

section Fits

variable {buffer source : Bytes} {offset : Nat}

theorem memcpy_start (fits : source.length ≤ buffer.length) :
    memcpy buffer 0 source = source ++ buffer.drop source.length := by
  simp [memcpy, List.take_of_length_le fits]

theorem memcpy_append (front rest : Bytes) :
    memcpy (front ++ rest) front.length source = front ++ memcpy rest 0 source := by
  have room : (front ++ rest).length - front.length = rest.length := by simp
  simp only [memcpy, room, List.take_left, List.append_assoc, List.take_zero, List.nil_append,
    Nat.sub_zero, Nat.zero_add]
  rw [← List.drop_drop, List.drop_left]

/-- Two copies, the second right behind the first, are one copy of both. -/
theorem memcpy_memcpy_start {first second : Bytes} (fits : first.length + second.length ≤ buffer.length) :
    memcpy (memcpy buffer 0 first) first.length second = memcpy buffer 0 (first ++ second) := by
  have whole : (first ++ second).length ≤ buffer.length := by simpa using fits
  have room : second.length ≤ (buffer.drop first.length).length := by
    rw [List.length_drop]
    omega
  rw [memcpy_start (by omega), memcpy_append, memcpy_start room, memcpy_start whole, List.drop_drop,
    List.length_append, List.append_assoc]

end Fits
