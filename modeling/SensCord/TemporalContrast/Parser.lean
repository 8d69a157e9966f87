import SensCord.TemporalContrast.Buffer

/-!
# SensCord.TemporalContrast.Parser

The event-stream parser of `_temporal_contrast_data.py`: `TemporalContrastData.from_bytes`,
the bundle views (`TemporalContrastEventsTimeslice`) and the record views
(`TemporalContrastEventArray`).

```
stream = count:u32 reserved[12] bundle × count
bundle = timestamp:u64 count:u32 reserved[12] record × count
record = x:u16 y:u16 p:i8 reserved:u8
```

Addresses are offsets into the buffer, which is the `size` bytes at the raw data's
address.  A record view keeps an address and a count and reads its records lazily,
through the buffer it was made from; its cursor is the state `__next__` advances.
-/

namespace SensCord

/-- `TEMPORAL_CONTRAST_DATA_HEADER`. -/
def dataHeader : Nat := 16

/-- `TEMPORAL_CONTRAST_EVENTS_TIMESLICE_HEADER`. -/
def timesliceHeader : Nat := 24

/-- `ctypes.sizeof(TemporalContrastEvent)`. -/
def eventSize : Nat := 6

/-! ## Records -/

/-- `TemporalContrastEvent`: one record, as its ctypes fields read. -/
structure TemporalContrastEvent where
  x : Nat
  y : Nat
  p : Int
  reserved : Nat
  deriving Repr, DecidableEq, Inhabited

/-- The fields of a record from its six bytes, little-endian: `c_uint16` `x`, `c_uint16`
`y`, `c_int8` `p` and `c_uint8` `reserved`.  A read hands over exactly six bytes, so the
last case never arises. -/
def TemporalContrastEvent.ofBytes : List UInt8 → TemporalContrastEvent
  | [x₀, x₁, y₀, y₁, p, r] =>
    { x := decodeLE [x₀, x₁], y := decodeLE [y₀, y₁],
      p := if p.toNat < 128 then p.toNat else (p.toNat : Int) - 256, reserved := r.toNat }
  | _ => { x := 0, y := 0, p := 0, reserved := 0 }

/-- The argument of `__getitem__`: an `int`, a `slice`, or any other object. -/
inductive PyIndex where
  | int (n : Int)
  | slice (start stop step : Option Int)
  | other
  deriving Repr, DecidableEq

/-- What `__getitem__` returns: a record for an `int`, a tuple of records for a `slice`. -/
inductive EventItem where
  | one (e : TemporalContrastEvent)
  | many (es : List TemporalContrastEvent)
  deriving Repr, DecidableEq

/-- `TemporalContrastEventArray`: the record pointer, the event count and the cursor of
the iteration protocol. -/
structure TemporalContrastEventArray where
  address : Nat
  count : Nat
  cursor : Nat := 0
  deriving Repr, DecidableEq

namespace TemporalContrastEventArray

/-- `self.event[i]`: the record at `address + 6 * i`, read through the pointer unchecked. -/
def event (buf : List UInt8) (a : TemporalContrastEventArray) (i : Int) :
    Except Fault TemporalContrastEvent :=
  let offset : Int := a.address + eventSize * i
  if 0 ≤ offset then
    match slice? buf offset.toNat eventSize with
    | some bs => .ok (TemporalContrastEvent.ofBytes bs)
    | none => .error .outOfBounds
  else .error .outOfBounds

/-- `__getitem__`: a slice reads the records of `range(*num.indices(count))`; an integer
is checked against `[0, count)` first. -/
def getItem (buf : List UInt8) (a : TemporalContrastEventArray) :
    PyIndex → Except Fault EventItem
  | .slice start stop step =>
    match sliceIndices start stop step a.count with
    | .ok (lo, hi, st) => EventItem.many <$> (pyRange lo hi st).mapM (a.event buf)
    | .error e => .error (.raise e)
  | .int n =>
    if a.count ≤ n ∨ n < 0 then
      .error (.raise (.indexError ("Index(" ++ toString n ++ ") is out of range.")))
    else EventItem.one <$> a.event buf n
  | .other => .error (.raise (.typeError "Indices must be integers or slices."))

/-- `__next__`: the record under the cursor, and the view after the call. -/
def next (buf : List UInt8) (a : TemporalContrastEventArray) :
    EStateM.Result Fault TemporalContrastEventArray TemporalContrastEvent :=
  if a.count ≤ a.cursor then .error (.raise .stopIteration) a
  else
    match a.event buf a.cursor with
    | .ok e => .ok e { a with cursor := a.cursor + 1 }
    | .error f => .error f a

theorem cursor_lt_of_next {buf : List UInt8} {a a' : TemporalContrastEventArray}
    {e : TemporalContrastEvent} (h : next buf a = .ok e a') :
    a.cursor < a.count ∧ a' = { a with cursor := a.cursor + 1 } := by
  unfold next at h
  split_ifs at h with hc
  split at h
  · cases h; exact ⟨by omega, rfl⟩
  · cases h

/-- A complete `for` loop over the view: `iter` returns the view itself, and `__next__`
is called until it raises `StopIteration`. -/
def forLoop (buf : List UInt8) (a : TemporalContrastEventArray) :
    EStateM.Result Fault TemporalContrastEventArray (List TemporalContrastEvent) :=
  -- `_hnext` is read only by the termination proof
  match _hnext : next buf a with
  | .ok e a' =>
    match forLoop buf a' with
    | .ok es a'' => .ok (e :: es) a''
    | .error f a'' => .error f a''
  | .error (.raise .stopIteration) a' => .ok [] a'
  | .error f a' => .error f a'
termination_by a.count - a.cursor
decreasing_by
  obtain ⟨hlt, rfl⟩ := cursor_lt_of_next _hnext
  simp_wf
  omega

end TemporalContrastEventArray

/-! ## Bundles -/

/-- `TemporalContrastEventsTimeslice`: a bundle view. -/
structure TemporalContrastEventsTimeslice where
  dataSize : Nat
  timestamp : Nat
  count : Nat
  events : TemporalContrastEventArray
  deriving Repr, DecidableEq

namespace TemporalContrastEventsTimeslice

/-- `__init__(address, size)`: the header has to fit in `size`, and so do the records
the header's count announces, before the view over them is made. -/
def init (buf : List UInt8) (address size : Nat) : Except Fault TemporalContrastEventsTimeslice := do
  if size < timesliceHeader then
    throw (.raise (.bufferError "Timeslice index buffer overrun at EventsTimeslice header."))
  let timestamp ← readUInt buf address 8
  let count ← readUInt buf (address + 8) 4
  let dataSize := count * eventSize + timesliceHeader
  if size < dataSize then
    throw (.raise (.bufferError "Timeslice buffer overrun."))
  pure { dataSize, timestamp, count, events := { address := address + timesliceHeader, count } }

/-- What `__init__` does with the bytes that remain after `address`: both checks pass
exactly when the header and the announced records fit, and the reads between them stay
inside the header. -/
theorem init_spec (buf : List UInt8) (address : Nat) :
    init buf address (buf.length - address) =
      if address + timesliceHeader ≤ buf.length then
        let count := decodeLE ((buf.drop (address + 8)).take 4)
        if address + (count * eventSize + timesliceHeader) ≤ buf.length then
          .ok { dataSize := count * eventSize + timesliceHeader,
                timestamp := decodeLE ((buf.drop address).take 8), count,
                events := { address := address + timesliceHeader, count } }
        else .error (.raise (.bufferError "Timeslice buffer overrun."))
      else .error (.raise (.bufferError
        "Timeslice index buffer overrun at EventsTimeslice header.")) := by
  simp only [init, timesliceHeader, eventSize]
  by_cases hh : address + 24 ≤ buf.length
  · simp only [if_neg (show ¬buf.length - address < 24 by omega), if_pos hh,
      readUInt_of_le (show address + 8 ≤ buf.length by omega),
      readUInt_of_le (show address + 8 + 4 ≤ buf.length by omega), Except.pure_eq,
      Except.ok_bind, Except.throw_eq]
    split_ifs <;> first | rfl | omega
  · rw [if_pos (by omega), if_neg hh]
    rfl

/-- `total_size()`. -/
def totalSize (t : TemporalContrastEventsTimeslice) : Nat := t.dataSize

/-- `__len__()`. -/
def len (t : TemporalContrastEventsTimeslice) : Nat := t.count

end TemporalContrastEventsTimeslice

/-! ## The stream -/

/-- `TemporalContrastData`; `bundles` is `None` until a parse succeeds. -/
structure TemporalContrastData where
  count : Nat := 0
  bundles : Option (List TemporalContrastEventsTimeslice) := none
  deriving Repr, DecidableEq

/-- The bundle loop of `from_bytes`: `n` bundles still to read, the next one at `offset`,
each given the `size - offset` bytes that remain. -/
def readBundles (buf : List UInt8) : Nat → Nat → Except Fault (List TemporalContrastEventsTimeslice)
  | 0, _ => pure []
  | n + 1, offset => do
    let bundle ← TemporalContrastEventsTimeslice.init buf offset (buf.length - offset)
    let bundles ← readBundles buf n (offset + bundle.totalSize)
    pure (bundle :: bundles)

/-- The body of `from_bytes` after the size check: the stream count, then its bundles. -/
def readStream (buf : List UInt8) : Except Fault (Nat × List TemporalContrastEventsTimeslice) := do
  let count ← readUInt buf 0 4
  let bundles ← readBundles buf count dataHeader
  pure (count, bundles)

/-- `TemporalContrastData.from_bytes(address, size)` over the buffer: `self` is assigned
only after every bundle has been read. -/
def TemporalContrastData.fromBytes (buf : List UInt8) (self : TemporalContrastData) :
    EStateM.Result Fault TemporalContrastData Unit :=
  if buf.length < dataHeader then
    .error (.raise (.bufferError
      ("size(" ++ toString buf.length ++ ") is smaller than TemporalContrastData header size."))) self
  else
    match readStream buf with
    | .ok (count, bundles) => .ok () { count, bundles := some bundles }
    | .error f => .error f self

end SensCord
