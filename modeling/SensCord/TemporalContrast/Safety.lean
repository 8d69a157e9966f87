import SensCord.TemporalContrast.Parser

/-!
# SensCord.TemporalContrast.Safety

The parser never reads outside the buffer, whatever the buffer holds.

The counts in the stream are untrusted.  `from_bytes` checks the stream header against
`size` before reading the stream count, and each bundle checks its header and its
announced records against the bytes that remain before reading or exposing them, so no
read of the parse ends in `Fault.outOfBounds`.  Every bundle of a successful parse hands
out a record view whose `count` records lie inside the buffer (`InBounds`), and a view
only ever reads the records `0 … count - 1`: integer indexing checks the index,
`slice.indices` clamps a slice into the view, and `__next__` stops at `count`.
-/

namespace SensCord

namespace TemporalContrastEventArray

/-- The view's records `[address, address + 6 * count)` lie inside the buffer. -/
def InBounds (buf : List UInt8) (a : TemporalContrastEventArray) : Prop :=
  a.address + eventSize * a.count ≤ buf.length

/-- The bytes of the view's records, `[address, address + 6 * count)`. -/
def region (buf : List UInt8) (a : TemporalContrastEventArray) : List UInt8 :=
  (buf.drop a.address).take (eventSize * a.count)

variable {buf buf' : List UInt8} {a : TemporalContrastEventArray}

/-- A record below the count of an in-bounds view is read from inside the buffer. -/
theorem event_of_lt (h : a.InBounds buf) (i : Int) (h0 : 0 ≤ i) (hi : i < a.count) :
    a.event buf i = .ok (TemporalContrastEvent.ofBytes
      ((buf.drop (a.address + eventSize * i.toNat)).take eventSize)) := by
  unfold InBounds at h
  have hle : a.address + eventSize * i.toNat + eventSize ≤ buf.length := by
    have : i.toNat + 1 ≤ a.count := by omega
    have := Nat.mul_le_mul_left eventSize this
    rw [Nat.mul_succ] at this
    omega
  have hoff : ((a.address : Int) + eventSize * i).toNat = a.address + eventSize * i.toNat := by
    simp only [eventSize] at *; omega
  simp only [event, if_pos (show (0 : Int) ≤ a.address + eventSize * i by
    simp only [eventSize]; omega), hoff, slice?_of_le hle]

/-- Moving the cursor keeps a view's region. -/
@[simp] theorem region_cursor (k : Nat) :
    ({ a with cursor := k } : TemporalContrastEventArray).region buf = a.region buf :=
  rfl

/-- Moving the cursor keeps a view in bounds. -/
@[simp] theorem inBounds_cursor (k : Nat) : ({ a with cursor := k } : TemporalContrastEventArray).InBounds buf ↔ a.InBounds buf :=
  Iff.rfl

end TemporalContrastEventArray

namespace TemporalContrastEventsTimeslice

/-- A bundle that does not fit raises `BufferError`, before any read past its header. -/
theorem init_error {buf : List UInt8} {address : Nat} {f : Fault}
    (h : init buf address (buf.length - address) = .error f) :
    ∃ msg, f = .raise (.bufferError msg) := by
  rw [init_spec] at h
  dsimp only at h
  split_ifs at h <;> cases h <;> exact ⟨_, rfl⟩

/-- A bundle that fits hands out a fresh view over its records, inside the buffer, and
ends where its `total_size()` says. -/
theorem init_ok {buf : List UInt8} {address : Nat} {t : TemporalContrastEventsTimeslice}
    (h : init buf address (buf.length - address) = .ok t) :
    t.events = { address := address + timesliceHeader, count := t.count } ∧
      t.totalSize = timesliceHeader + eventSize * t.count ∧
      address + t.totalSize ≤ buf.length := by
  rw [init_spec] at h
  dsimp only at h
  split_ifs at h with h1 h2
  cases h
  refine ⟨rfl, ?_, ?_⟩ <;> simp only [totalSize, eventSize, timesliceHeader] at * <;> omega

end TemporalContrastEventsTimeslice

open TemporalContrastEventArray TemporalContrastEventsTimeslice

/-- The bundle loop raises nothing but `BufferError`. -/
theorem readBundles_error {buf : List UInt8} :
    ∀ {n offset : Nat} {f : Fault}, readBundles buf n offset = .error f →
      ∃ msg, f = .raise (.bufferError msg)
  | 0, _, _, h => by cases h
  | n + 1, offset, f, h => by
    simp only [readBundles] at h
    cases hi : init buf offset (buf.length - offset) with
    | error g => rw [hi] at h; cases h; exact init_error hi
    | ok t =>
      cases hr : readBundles buf n (offset + t.totalSize) with
      | error g =>
        simp only [hi, hr, Except.ok_bind, Except.error_bind] at h
        cases h; exact readBundles_error hr
      | ok ts => simp [hi, hr] at h

/-- Every bundle the loop reads hands out a fresh view over its own records, in bounds: the
bundle sits at an offset `o` past the loop's start, and its records fill
`[o + 24, o + 24 + 6 * count)`, inside the buffer. -/
theorem readBundles_views {buf : List UInt8} :
    ∀ {n offset : Nat} {ts : List TemporalContrastEventsTimeslice},
      readBundles buf n offset = .ok ts → ∀ t ∈ ts,
        t.events.cursor = 0 ∧ t.events.count = t.count ∧ t.events.InBounds buf ∧
          ∃ o, offset ≤ o ∧ t.events.address = o + timesliceHeader ∧
            o + timesliceHeader + eventSize * t.count ≤ buf.length
  | 0, _, ts, h => by cases h; simp
  | n + 1, offset, ts, h => by
    simp only [readBundles] at h
    cases hi : init buf offset (buf.length - offset) with
    | error g => rw [hi] at h; cases h
    | ok t =>
      cases hr : readBundles buf n (offset + t.totalSize) with
      | error g => simp [hi, hr] at h
      | ok ts' =>
        simp only [hi, hr, Except.ok_bind, Except.pure_eq, Except.ok.injEq] at h
        subst h
        intro u hu
        rcases List.mem_cons.mp hu with rfl | hu
        · obtain ⟨hev, hsize, hle⟩ := init_ok hi
          simp only [InBounds, hev, timesliceHeader, true_and] at hsize hle ⊢
          exact ⟨by omega, offset, le_rfl, rfl, by omega⟩
        · obtain ⟨hcur, hcount, hin, o, ho, hrest⟩ := readBundles_views hr u hu
          exact ⟨hcur, hcount, hin, o, by omega, hrest⟩

/-- A failed `from_bytes` raised `BufferError` and left the object as it was. -/
theorem fromBytes_error {buf : List UInt8} {self s : TemporalContrastData} {f : Fault}
    (h : self.fromBytes buf = .error f s) : s = self ∧ ∃ msg, f = .raise (.bufferError msg) := by
  unfold TemporalContrastData.fromBytes at h
  split_ifs at h with hlen
  · cases h; exact ⟨rfl, _, rfl⟩
  · unfold readStream at h
    rw [readUInt_of_le (by simp only [dataHeader] at hlen; omega), List.drop_zero] at h
    cases hr : readBundles buf (decodeLE (buf.take 4)) dataHeader with
    | error g =>
      simp only [Except.ok_bind, hr, Except.error_bind] at h
      cases h; exact ⟨rfl, readBundles_error hr⟩
    | ok ts => simp [hr] at h

/-- A successful `from_bytes` read the stream count from the header and then that many
bundles. -/
theorem fromBytes_ok {buf : List UInt8} {self d : TemporalContrastData}
    (h : self.fromBytes buf = .ok () d) :
    dataHeader ≤ buf.length ∧ d.count = decodeLE (buf.take 4) ∧
      ∃ ts, readBundles buf d.count dataHeader = .ok ts ∧ d.bundles = some ts := by
  unfold TemporalContrastData.fromBytes at h
  split_ifs at h with hlen
  unfold readStream at h
  rw [readUInt_of_le (by simp only [dataHeader] at hlen; omega), List.drop_zero] at h
  cases hr : readBundles buf (decodeLE (buf.take 4)) dataHeader with
  | error g => simp [hr] at h
  | ok ts =>
    simp only [Except.ok_bind, hr, Except.pure_eq] at h
    cases h
    exact ⟨by omega, rfl, ts, hr, rfl⟩

end SensCord
