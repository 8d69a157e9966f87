import SensCord.Python

/-!
# SensCord.TemporalContrast.Buffer

The raw buffer under the event-stream parser and the reads made through it.

The parser in `_temporal_contrast_data.py` reads the engine's buffer with
`ctypes.cast(address + offset, POINTER(c_uintN)).contents`, which trusts the offset.  The
model reads a slice of a byte list instead, and a slice that does not lie inside the
buffer is an explicit outcome, `Fault.outOfBounds`, rather than a read of foreign memory.
Every integer is little-endian:

```
decodeLE [b₀, b₁, …] = b₀ + 256 * b₁ + 256² * b₂ + …
```
-/

namespace SensCord

/-- How a call on the raw buffer ends when it does not return: a Python exception, or a
read outside the buffer. -/
inductive Fault where
  | raise (e : PyError)
  | outOfBounds
  deriving Repr, DecidableEq

/-! ## Little-endian integers -/

theorem UInt8.toNat_lt_256 (b : UInt8) : b.toNat < 256 := b.toNat_lt_size

@[simp] theorem UInt8.toNat_ofNat_eq (n : Nat) : (UInt8.ofNat n).toNat = n % 256 := rfl

theorem UInt8.ext_toNat {a b : UInt8} (h : a.toNat = b.toNat) : a = b :=
  UInt8.eq_of_val_eq (Fin.ext h)

theorem UInt8.ofNat_toNat (b : UInt8) : UInt8.ofNat b.toNat = b :=
  UInt8.ext_toNat (by rw [UInt8.toNat_ofNat_eq, Nat.mod_eq_of_lt (UInt8.toNat_lt_256 b)])

theorem UInt8.eq_ofNat {b : UInt8} {n : Nat} (h : n = b.toNat) : b = UInt8.ofNat n :=
  UInt8.ext_toNat (by rw [UInt8.toNat_ofNat_eq, h, Nat.mod_eq_of_lt (UInt8.toNat_lt_256 b)])

/-- The little-endian value of a byte string. -/
def decodeLE : List UInt8 → Nat
  | [] => 0
  | b :: bs => b.toNat + 256 * decodeLE bs

/-- The `width` little-endian bytes of `n`, modulo `256 ^ width`. -/
def encodeLE : Nat → Nat → List UInt8
  | 0, _ => []
  | w + 1, n => UInt8.ofNat (n % 256) :: encodeLE w (n / 256)

@[simp] theorem length_encodeLE (w n : Nat) : (encodeLE w n).length = w := by
  induction w generalizing n <;> simp [encodeLE, *]

theorem decodeLE_lt (bs : List UInt8) : decodeLE bs < 256 ^ bs.length := by
  induction bs with
  | nil => simp [decodeLE]
  | cons b bs ih =>
    have := UInt8.toNat_lt_256 b
    simp only [decodeLE, List.length_cons, Nat.pow_succ]
    omega

theorem decodeLE_encodeLE {w n : Nat} (h : n < 256 ^ w) : decodeLE (encodeLE w n) = n := by
  induction w generalizing n with
  | zero => simp_all [encodeLE, decodeLE]
  | succ w ih =>
    rw [Nat.pow_succ, Nat.mul_comm] at h
    simp only [encodeLE, decodeLE, ih (Nat.div_lt_of_lt_mul h)]
    show n % 256 % 256 + 256 * (n / 256) = n
    omega

theorem encodeLE_decodeLE {bs : List UInt8} : encodeLE bs.length (decodeLE bs) = bs := by
  induction bs with
  | nil => rfl
  | cons b bs ih =>
    have := UInt8.toNat_lt_256 b
    have hdiv : (b.toNat + 256 * decodeLE bs) / 256 = decodeLE bs := by omega
    simp only [List.length_cons, encodeLE, decodeLE, hdiv, ih, List.cons.injEq, and_true]
    exact UInt8.ext_toNat (show (b.toNat + 256 * decodeLE bs) % 256 % 256 = b.toNat by omega)

/-! ## Reads -/

/-- The `width` bytes at `offset`, when they lie inside the buffer. -/
def slice? (buf : List UInt8) (offset width : Nat) : Option (List UInt8) :=
  if offset + width ≤ buf.length then some ((buf.drop offset).take width) else none

/-- `ctypes.cast(address + offset, POINTER(c_uintN)).contents.value` for a `width`-byte
unsigned integer. -/
def readUInt (buf : List UInt8) (offset width : Nat) : Except Fault Nat :=
  match slice? buf offset width with
  | some bs => .ok (decodeLE bs)
  | none => .error .outOfBounds

theorem slice?_of_le {buf : List UInt8} {offset width : Nat} (h : offset + width ≤ buf.length) :
    slice? buf offset width = some ((buf.drop offset).take width) := if_pos h

theorem readUInt_of_le {buf : List UInt8} {offset width : Nat} (h : offset + width ≤ buf.length) :
    readUInt buf offset width = .ok (decodeLE ((buf.drop offset).take width)) := by
  simp [readUInt, slice?_of_le h]

/-- A read of an integer laid out at the front of what follows `offset`. -/
theorem readUInt_append {buf rest : List UInt8} {offset w n : Nat} (hw : 0 < w)
    (hn : n < 256 ^ w)
    (h : buf.drop offset = encodeLE w n ++ rest) : readUInt buf offset w = .ok n := by
  have hlen : offset + w ≤ buf.length := by
    have := congrArg List.length h
    simp only [List.length_drop, List.length_append, length_encodeLE] at this
    omega
  rw [readUInt_of_le hlen, h, List.take_left' (length_encodeLE w n), decodeLE_encodeLE hn]

end SensCord
