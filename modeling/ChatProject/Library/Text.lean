import Mathlib

/-! Texts as the bytes of their UTF-8 encoding, and C strings inside byte buffers. -/

abbrev Bytes := List UInt8

def bytesOf (text : String) : Bytes := text.toList.flatMap String.utf8EncodeChar

/-- What a C function reads at the start of a buffer: everything before the first zero. -/
def cString (buffer : Bytes) : Bytes := buffer.takeWhile (· ≠ 0)

@[simp] theorem bytesOf_append (left right : String) :
    bytesOf (left ++ right) = bytesOf left ++ bytesOf right := by
  simp [bytesOf]

/-- The number of bytes that these characters take. -/
def utf8Length (chars : List Char) : Nat := (chars.map Char.utf8Size).sum

@[simp] theorem utf8Length_nil : utf8Length [] = 0 := rfl

@[simp] theorem utf8Length_cons (c : Char) (chars : List Char) : utf8Length (c :: chars) = c.utf8Size + utf8Length chars := by
  simp only [utf8Length, List.map_cons, List.sum_cons]

@[simp] theorem utf8Length_append (left right : List Char) :
    utf8Length (left ++ right) = utf8Length left + utf8Length right := by
  simp only [utf8Length, List.map_append, List.sum_append]

theorem length_bytesOf (text : String) : (bytesOf text).length = utf8Length text.toList := by
  simp only [bytesOf, List.length_flatMap, String.length_utf8EncodeChar, utf8Length]

theorem uint8_ofNat_ne_zero {n : Nat} (positive : 0 < n) (bound : n < 256) : UInt8.ofNat n ≠ 0 := by
  intro zero
  have same := congrArg UInt8.toNat zero
  rw [UInt8.toNat_ofNat'] at same
  simp only [UInt8.toNat_zero] at same
  omega

theorem utf8EncodeChar_ne_zero {c : Char} (visible : c ≠ '\x00') :
    ∀ b ∈ String.utf8EncodeChar c, b ≠ 0 := by
  have positive : 0 < c.val.toNat := by
    rw [Nat.pos_iff_ne_zero]
    intro zero
    exact visible (Char.ext (UInt32.toNat_inj.mp zero))
  intro b member
  simp only [String.utf8EncodeChar] at member
  split at member
  · have same : b = UInt8.ofNat c.val.toNat := by simpa using member
    rw [same]
    exact uint8_ofNat_ne_zero positive (by omega)
  · split at member
    · simp only [List.mem_cons, List.not_mem_nil, or_false] at member
      rcases member with rfl | rfl <;> exact uint8_ofNat_ne_zero (by omega) (by omega)
    · split at member
      · simp only [List.mem_cons, List.not_mem_nil, or_false] at member
        rcases member with rfl | rfl | rfl <;> exact uint8_ofNat_ne_zero (by omega) (by omega)
      · simp only [List.mem_cons, List.not_mem_nil, or_false] at member
        rcases member with rfl | rfl | rfl | rfl <;> exact uint8_ofNat_ne_zero (by omega) (by omega)

theorem bytesOf_ne_zero {text : String} (visible : '\x00' ∉ text.toList) : ∀ b ∈ bytesOf text, b ≠ 0 := by
  intro b member
  obtain ⟨c, inText, encoded⟩ := List.mem_flatMap.mp member
  have different : c ≠ '\x00' := fun same => visible (same ▸ inText)
  exact utf8EncodeChar_ne_zero different b encoded

theorem cString_pad {text : Bytes} (visible : ∀ b ∈ text, b ≠ 0) (pad : Nat) :
    cString (text ++ List.replicate pad 0) = text := by
  have whole : ∀ b ∈ text, decide (b ≠ 0) = true := fun b member => decide_eq_true (visible b member)
  unfold cString
  rw [List.takeWhile_append_of_pos whole]
  cases pad with
  | zero => exact List.append_nil text
  | succ pad => simp [List.replicate_succ]

/-- A text without the NUL character has no zero byte, so a C string holds all of it. -/
theorem cString_bytesOf {text : String} (visible : '\x00' ∉ text.toList) :
    cString (bytesOf text) = bytesOf text := by
  have whole := cString_pad (bytesOf_ne_zero visible) 0
  rwa [List.replicate_zero, List.append_nil] at whole

/-- Texts with different starts differ. -/
theorem append_ne_of_take {left right a b : String} (size : Nat) (long : size ≤ left.toList.length)
    (other : size ≤ right.toList.length) (different : left.toList.take size ≠ right.toList.take size) :
    left ++ a ≠ right ++ b := by
  intro same
  have lists := congrArg (fun text => text.toList.take size) same
  simp only [String.toList_append, List.take_append_of_le_length long,
    List.take_append_of_le_length other] at lists
  exact different lists
