import SensCord.TemporalContrast.Safety

/-!
# SensCord.TemporalContrast.Grammar

The layout of an event stream, and that `from_bytes` accepts exactly the buffers that
start with one and decodes it faithfully.

`EventStream.toBytes` writes a stream the way the engine lays it out, little-endian: a
16-byte header `{count, reserved[12]}`, then each bundle as a 24-byte header
`{timestamp, count, reserved[12]}` followed by its 6-byte records, with no gaps.  The
reserved bytes are part of the layout, so every choice of them is covered.

* `fromBytes_toBytes`: a stream followed by any bytes parses, and every bundle view reads
  back the timestamp, the length, the size and the records that were written;
* `exists_toBytes_of_fromBytes`: whatever parses starts with such a stream.
-/

namespace SensCord

/-! ## Records -/

namespace TemporalContrastEvent

/-- A record the engine can write: every field fits its ctypes width. -/
structure Valid (e : TemporalContrastEvent) : Prop where
  x_lt : e.x < 2 ^ 16
  y_lt : e.y < 2 ^ 16
  p_ge : -128 ≤ e.p
  p_lt : e.p < 128
  reserved_lt : e.reserved < 2 ^ 8

/-- The six bytes of a record. -/
def toBytes (e : TemporalContrastEvent) : List UInt8 :=
  encodeLE 2 e.x ++ encodeLE 2 e.y ++ [UInt8.ofNat (e.p % 256).toNat, UInt8.ofNat e.reserved]

@[simp] theorem length_toBytes (e : TemporalContrastEvent) : e.toBytes.length = eventSize := by
  simp [toBytes, eventSize]

theorem ofBytes_toBytes {e : TemporalContrastEvent} (h : e.Valid) : ofBytes e.toBytes = e := by
  obtain ⟨x, y, p, r⟩ := e
  obtain ⟨hx, hy, hp0, hp1, hr⟩ := h
  dsimp only at hx hy hp0 hp1 hr
  have hx' := @decodeLE_encodeLE 2 _ (show x < 256 ^ 2 by simpa using hx)
  have hy' := @decodeLE_encodeLE 2 _ (show y < 256 ^ 2 by simpa using hy)
  simp only [encodeLE, decodeLE] at hx' hy'
  simp only [toBytes, encodeLE, List.cons_append, List.nil_append, ofBytes, decodeLE, hx', hy',
    mk.injEq, true_and]
  constructor
  · simp only [UInt8.toNat_ofNat_eq]
    split_ifs <;> omega
  · simp only [UInt8.toNat_ofNat_eq]
    omega

theorem toBytes_ofBytes {bs : List UInt8} (h : bs.length = eventSize) : (ofBytes bs).toBytes = bs := by
  match bs, h with
  | [x₀, x₁, y₀, y₁, p, r], _ =>
    have hx := @encodeLE_decodeLE [x₀, x₁]
    have hy := @encodeLE_decodeLE [y₀, y₁]
    have := UInt8.toNat_lt_256 p
    simp only [List.length_cons, List.length_nil] at hx hy
    simp only [ofBytes, toBytes, hx, hy, List.cons_append, List.nil_append, List.cons.injEq,
      true_and, and_true]
    constructor
    · apply UInt8.ext_toNat
      show (_ : Int).toNat % 256 = p.toNat
      split_ifs <;> omega
    · apply UInt8.ext_toNat
      show r.toNat % 256 = r.toNat
      have := UInt8.toNat_lt_256 r
      omega

theorem ofBytes_valid (bs : List UInt8) : (ofBytes bs).Valid := by
  unfold ofBytes
  split
  · next x₀ x₁ y₀ y₁ p r =>
    have := decodeLE_lt [x₀, x₁]
    have := decodeLE_lt [y₀, y₁]
    have := UInt8.toNat_lt_256 p
    have := UInt8.toNat_lt_256 r
    constructor <;> simp only [List.length_cons, List.length_nil] at * <;> (try split_ifs) <;>
      omega
  · constructor <;> simp

end TemporalContrastEvent

open TemporalContrastEvent

@[simp] theorem length_flatten_toBytes (es : List TemporalContrastEvent) :
    ((es.map toBytes).flatten).length = eventSize * es.length := by
  induction es with
  | nil => rfl
  | cons e es ih => simp [ih, Nat.mul_succ, Nat.add_comm]

/-- The `j`-th six bytes of a run of records are the `j`-th record. -/
theorem take_drop_flatten_toBytes (rest : List UInt8) :
    ∀ (es : List TemporalContrastEvent) (j : Nat) (hj : j < es.length),
      ((((es.map toBytes).flatten ++ rest).drop (eventSize * j)).take eventSize) = es[j].toBytes
  | e :: es, 0, _ => by simp [List.take_left' (length_toBytes e)]
  | e :: es, j + 1, hj => by
    have := take_drop_flatten_toBytes rest es j (by simpa using hj)
    simpa [Nat.mul_succ, Nat.add_comm, ← List.drop_drop, List.drop_left' (length_toBytes e)]
      using this

/-- Cutting a byte string into `c` records and writing them again gives its first `6 * c`
bytes back. -/
theorem flatten_toBytes_chunks (L : List UInt8) :
    ∀ c : Nat, eventSize * c ≤ L.length →
      (((List.range c).map fun j => ofBytes ((L.drop (eventSize * j)).take eventSize)).map
        toBytes).flatten = L.take (eventSize * c)
  | 0, _ => by simp
  | c + 1, h => by
    rw [List.range_succ, List.map_append, List.map_append, List.flatten_append,
      flatten_toBytes_chunks L c (by rw [Nat.mul_succ] at h; omega), Nat.mul_succ, List.take_add]
    simp only [List.map_cons, List.map_nil, List.flatten_cons, List.flatten_nil, List.append_nil]
    rw [toBytes_ofBytes]
    simp only [List.length_take, List.length_drop]
    rw [Nat.mul_succ] at h
    omega

/-! ## Bundles and streams -/

/-- One time slice as the engine lays it out. -/
structure EventBundle where
  timestamp : Nat
  reserved : List UInt8
  events : List TemporalContrastEvent
  timestamp_lt : timestamp < 2 ^ 64
  reserved_length : reserved.length = 12
  events_length_lt : events.length < 2 ^ 32
  events_valid : ∀ e ∈ events, e.Valid

/-- An event stream as the engine lays it out. -/
structure EventStream where
  reserved : List UInt8
  bundles : List EventBundle
  reserved_length : reserved.length = 12
  bundles_length_lt : bundles.length < 2 ^ 32

namespace EventBundle

/-- The bytes of a bundle: its 24-byte header, then its records. -/
def toBytes (b : EventBundle) : List UInt8 :=
  encodeLE 8 b.timestamp ++ encodeLE 4 b.events.length ++ b.reserved ++
    (b.events.map TemporalContrastEvent.toBytes).flatten

@[simp] theorem length_toBytes (b : EventBundle) :
    b.toBytes.length = timesliceHeader + eventSize * b.events.length := by
  simp only [toBytes, List.length_append, length_encodeLE, b.reserved_length,
    length_flatten_toBytes, timesliceHeader]

/-- The view `__init__` makes of this bundle laid out at `address`. -/
def timeslice (b : EventBundle) (address : Nat) : TemporalContrastEventsTimeslice where
  dataSize := b.events.length * eventSize + timesliceHeader
  timestamp := b.timestamp
  count := b.events.length
  events := { address := address + timesliceHeader, count := b.events.length }

/-- What a caller reads off the view of this bundle: the timestamp, `len()`,
`total_size()` and `events[j]` for every `j < len()`. -/
def reading (b : EventBundle) : Nat × Nat × Nat × List EventItem :=
  (b.timestamp, b.events.length, timesliceHeader + eventSize * b.events.length,
    b.events.map .one)

end EventBundle

/-- The bytes of a stream: its 16-byte header, then its bundles. -/
def EventStream.toBytes (s : EventStream) : List UInt8 :=
  encodeLE 4 s.bundles.length ++ s.reserved ++ (s.bundles.map EventBundle.toBytes).flatten

/-- What a caller reads off a bundle view: `timestamp`, `len()`, `total_size()` and
`events[j]` for every `j < len()`. -/
def TemporalContrastEventsTimeslice.reading (buf : List UInt8) (t : TemporalContrastEventsTimeslice) :
    Except Fault (Nat × Nat × Nat × List EventItem) := do
  let events ← (List.range t.len).mapM fun j : Nat => t.events.getItem buf (.int j)
  pure (t.timestamp, t.len, t.totalSize, events)

/-! ## Parsing a stream -/

open TemporalContrastEventArray TemporalContrastEventsTimeslice

variable {buf : List UInt8}

/-- A bundle laid out at `address` is read as the view over its records. -/
theorem init_toBytes {rest : List UInt8} {address : Nat} (b : EventBundle)
    (h : buf.drop address = b.toBytes ++ rest) :
    init buf address (buf.length - address) = .ok (b.timeslice address) := by
  have hlen := congrArg List.length h
  simp only [List.length_drop, List.length_append, EventBundle.length_toBytes] at hlen
  simp only [EventBundle.toBytes, List.append_assoc] at h
  have hc : (buf.drop (address + 8)).take 4 = encodeLE 4 b.events.length := by
    rw [← List.drop_drop, h, List.drop_left' (length_encodeLE 8 _),
      List.take_left' (length_encodeLE 4 _)]
  have ht : (buf.drop address).take 8 = encodeLE 8 b.timestamp := by
    rw [h, List.take_left' (length_encodeLE 8 _)]
  rw [init_spec, hc, ht, decodeLE_encodeLE (by simpa using b.events_length_lt),
    decodeLE_encodeLE (by simpa using b.timestamp_lt)]
  simp only [timesliceHeader, eventSize] at hlen ⊢
  rw [if_pos (by omega), if_pos (by omega)]
  rfl

/-- The view of a bundle laid out at `address` reads back what was written. -/
theorem reading_timeslice {rest : List UInt8} {address : Nat} (b : EventBundle)
    (h : buf.drop address = b.toBytes ++ rest) :
    (b.timeslice address).reading buf = .ok b.reading := by
  have hlen := congrArg List.length h
  simp only [List.length_drop, List.length_append, EventBundle.length_toBytes] at hlen
  have hin : (b.timeslice address).events.InBounds buf := by
    simp only [InBounds, EventBundle.timeslice, timesliceHeader] at hlen ⊢
    omega
  have hrec : buf.drop (address + timesliceHeader) =
      (b.events.map TemporalContrastEvent.toBytes).flatten ++ rest := by
    rw [← List.drop_drop, h, EventBundle.toBytes, List.append_assoc,
      List.drop_left' (by simp [b.reserved_length, timesliceHeader])]
  have hget : ∀ j ∈ List.range (b.timeslice address).len,
      (b.timeslice address).events.getItem buf (.int j) = .ok (.one (b.events.getD j default)) := by
    intro j hj
    have hj : j < b.events.length := by simpa [len, EventBundle.timeslice] using hj
    simp only [getItem]
    rw [if_neg (by simp [EventBundle.timeslice]; omega),
      event_of_lt hin j (by omega) (by simpa [EventBundle.timeslice] using hj)]
    simp only [Int.toNat_ofNat, EventBundle.timeslice, ← List.drop_drop, hrec,
      take_drop_flatten_toBytes rest b.events j hj,
      ofBytes_toBytes (b.events_valid _ (List.getElem_mem hj)), List.getD_eq_getElem?_getD,
      List.getElem?_eq_getElem hj, Option.getD_some, Except.map_ok]
  rw [TemporalContrastEventsTimeslice.reading, Except.mapM_of_forall hget]
  simp only [Except.ok_bind, Except.pure_eq, EventBundle.reading, Except.ok.injEq, Prod.mk.injEq]
  refine ⟨rfl, rfl, by simp [totalSize, EventBundle.timeslice, Nat.mul_comm, Nat.add_comm], ?_⟩
  apply List.ext_getElem
  · simp [len, EventBundle.timeslice]
  · intro n h₁ _
    simp only [List.getElem_map, List.getElem_range, List.getD_eq_getElem?_getD,
      List.getElem?_eq_getElem (show n < b.events.length by simpa [len, EventBundle.timeslice] using h₁),
      Option.getD_some]

/-- Bundles laid out one after another from `offset` are read one view each. -/
theorem readBundles_toBytes :
    ∀ (bs : List EventBundle) (offset : Nat) (rest : List UInt8),
      buf.drop offset = (bs.map EventBundle.toBytes).flatten ++ rest →
      ∃ ts, readBundles buf bs.length offset = .ok ts ∧
        ts.mapM (·.reading buf) = .ok (bs.map EventBundle.reading)
  | [], _, _, _ => ⟨[], rfl, rfl⟩
  | b :: bs, offset, rest, h => by
    rw [List.map_cons, List.flatten_cons, List.append_assoc] at h
    have hnext : buf.drop (offset + (b.timeslice offset).totalSize) =
        (bs.map EventBundle.toBytes).flatten ++ rest := by
      rw [← List.drop_drop, h, List.drop_left']
      simp [EventBundle.timeslice, totalSize, Nat.mul_comm, Nat.add_comm]
    obtain ⟨ts, hts, hread⟩ := readBundles_toBytes bs _ rest hnext
    refine ⟨b.timeslice offset :: ts, ?_, ?_⟩
    · simp only [List.length_cons, readBundles, init_toBytes b h, hts, Except.ok_bind,
        Except.pure_eq]
    · rw [List.mapM_cons, reading_timeslice b h, hread]
      rfl

/-- The bytes of a bundle that `__init__` accepts are the layout of a bundle: its header,
then the records its count announces. -/
theorem init_layout {address : Nat} {t : TemporalContrastEventsTimeslice}
    (h : init buf address (buf.length - address) = .ok t) :
    ∃ b : EventBundle, buf.drop address = b.toBytes ++ buf.drop (address + t.totalSize) := by
  rw [init_spec] at h
  dsimp only at h
  split_ifs at h with h1 h2
  cases h
  simp only [timesliceHeader, eventSize] at h1 h2
  set D := buf.drop address with hD
  have hD8 : buf.drop (address + 8) = D.drop 8 := by rw [hD, List.drop_drop, Nat.add_comm]
  rw [hD8] at h2 ⊢
  set c := decodeLE ((D.drop 8).take 4)
  have hlenD : D.length = buf.length - address := List.length_drop _ _
  set R := ((D.drop 8).drop 4).drop 12 with hRdef
  refine ⟨{ timestamp := decodeLE (D.take 8)
            reserved := ((D.drop 8).drop 4).take 12
            events := (List.range c).map fun j => ofBytes ((R.drop (eventSize * j)).take eventSize)
            timestamp_lt := by
              have := decodeLE_lt (D.take 8)
              rwa [List.length_take_of_le (by omega)] at this
            reserved_length := List.length_take_of_le (by simp only [List.length_drop]; omega)
            events_length_lt := by
              have := decodeLE_lt ((D.drop 8).take 4)
              rw [List.length_take_of_le (by simp only [List.length_drop]; omega)] at this
              simpa using this
            events_valid := by simp [ofBytes_valid] }, ?_⟩
  have hR : R.length = buf.length - address - 24 := by
    simp only [hRdef, List.length_drop, hlenD]; omega
  simp only [EventBundle.toBytes, List.length_map, List.length_range,
    flatten_toBytes_chunks R c (by simp only [eventSize]; omega)]
  have hts := @encodeLE_decodeLE (D.take 8)
  have hc := @encodeLE_decodeLE ((D.drop 8).take 4)
  rw [List.length_take_of_le (by omega)] at hts
  rw [List.length_take_of_le (by simp only [List.length_drop]; omega)] at hc
  rw [hts, hc]
  have hrest : buf.drop (address + (c * eventSize + timesliceHeader)) = R.drop (eventSize * c) := by
    simp only [R, hD, List.drop_drop, TemporalContrastEventsTimeslice.totalSize, eventSize,
      timesliceHeader]
    congr 1
    omega
  simp only [TemporalContrastEventsTimeslice.totalSize, hrest, List.append_assoc,
    List.take_append_drop, hRdef]

/-- Whatever the bundle loop accepts is a run of bundle layouts. -/
theorem readBundles_layout :
    ∀ {n offset : Nat} {ts : List TemporalContrastEventsTimeslice},
      readBundles buf n offset = .ok ts →
      ∃ (bs : List EventBundle) (rest : List UInt8),
        bs.length = n ∧ buf.drop offset = (bs.map EventBundle.toBytes).flatten ++ rest
  | 0, offset, _, _ => ⟨[], buf.drop offset, rfl, rfl⟩
  | n + 1, offset, ts, h => by
    simp only [readBundles] at h
    cases hi : init buf offset (buf.length - offset) with
    | error g => rw [hi] at h; cases h
    | ok t =>
      cases hr : readBundles buf n (offset + t.totalSize) with
      | error g => simp [hi, hr] at h
      | ok ts' =>
        obtain ⟨b, hb⟩ := init_layout hi
        obtain ⟨bs, rest, hlen, hbs⟩ := readBundles_layout hr
        exact ⟨b :: bs, rest, by simp [hlen], by simp [hb, hbs]⟩

/-- **Completeness.**  A stream followed by any bytes parses: the object gets the
stream's bundle count and one view per bundle, and each view reads back the bundle's
timestamp, length, size and records. -/
theorem fromBytes_toBytes (S : EventStream) (t : List UInt8) (self : TemporalContrastData) :
    ∃ bundles, self.fromBytes (S.toBytes ++ t) =
        .ok () { count := S.bundles.length, bundles := some bundles } ∧
      bundles.mapM (·.reading (S.toBytes ++ t)) = .ok (S.bundles.map EventBundle.reading) := by
  have hbytes : S.toBytes ++ t = encodeLE 4 S.bundles.length ++
      (S.reserved ++ ((S.bundles.map EventBundle.toBytes).flatten ++ t)) := by
    simp [EventStream.toBytes]
  have hbody : (S.toBytes ++ t).drop dataHeader = (S.bundles.map EventBundle.toBytes).flatten ++ t := by
    rw [hbytes, show dataHeader = 4 + 12 from rfl, ← List.drop_drop,
      List.drop_left' (length_encodeLE 4 _), List.drop_left' S.reserved_length]
  obtain ⟨ts, hts, hread⟩ := readBundles_toBytes S.bundles dataHeader t hbody
  have hcount : readUInt (S.toBytes ++ t) 0 4 = .ok S.bundles.length :=
    readUInt_append (by omega) (by simpa using S.bundles_length_lt) (by rw [List.drop_zero, hbytes])
  refine ⟨ts, ?_, hread⟩
  have hlen : ¬(S.toBytes ++ t).length < dataHeader := by
    simp [EventStream.toBytes, S.reserved_length, dataHeader]
    omega
  simp only [TemporalContrastData.fromBytes, if_neg hlen, readStream, hcount, hts, Except.ok_bind,
    Except.pure_eq]

/-- **Soundness.**  Whatever `from_bytes` accepts starts with a stream's layout. -/
theorem exists_toBytes_of_fromBytes {self d : TemporalContrastData}
    (h : self.fromBytes buf = .ok () d) : ∃ (S : EventStream) (t : List UInt8), buf = S.toBytes ++ t := by
  obtain ⟨hlen, hcount, ts, hts, -⟩ := fromBytes_ok h
  obtain ⟨bs, rest, hbs, hdrop⟩ := readBundles_layout hts
  simp only [dataHeader] at hlen
  have h4 : (buf.take 4).length = 4 := List.length_take_of_le (by omega)
  refine ⟨{ reserved := (buf.drop 4).take 12, bundles := bs,
            reserved_length := List.length_take_of_le (by simp; omega),
            bundles_length_lt := by
              have := decodeLE_lt (buf.take 4)
              rw [h4] at this
              rw [hbs, hcount]
              simpa using this }, rest, ?_⟩
  have hc := @encodeLE_decodeLE (buf.take 4)
  rw [h4, ← hcount, ← hbs] at hc
  rw [EventStream.toBytes, hc, List.append_assoc, List.append_assoc, ← hdrop, dataHeader]
  show buf = buf.take 4 ++ ((buf.drop 4).take 12 ++ buf.drop (4 + 12))
  rw [← List.drop_drop]
  simp only [List.take_append_drop]

/-- **`from_bytes` accepts exactly the event-stream grammar.**  Every stream layout,
whatever its reserved bytes and whatever follows it, parses into its bundle count and one
view per bundle that reads back the bundle's timestamp, `len()`, `total_size()` and
records; every buffer that does not start with a stream layout is rejected with
`BufferError`, and the object is left as it was. -/
theorem fromBytes_accepts_stream_grammar :
    (∀ (S : EventStream) (t : List UInt8) (self : TemporalContrastData), ∃ bundles,
      self.fromBytes (S.toBytes ++ t) = .ok () { count := S.bundles.length, bundles := some bundles } ∧
        bundles.mapM (·.reading (S.toBytes ++ t)) = .ok (S.bundles.map EventBundle.reading)) ∧
    ∀ (buf : List UInt8) (self : TemporalContrastData),
      (¬ ∃ (S : EventStream) (t : List UInt8), buf = S.toBytes ++ t) →
        ∃ msg, self.fromBytes buf = .error (.raise (.bufferError msg)) self := by
  refine ⟨fromBytes_toBytes, fun buf self hnot => ?_⟩
  cases h : self.fromBytes buf with
  | ok u d => cases u; exact absurd (exists_toBytes_of_fromBytes h) hnot
  | error f s =>
    obtain ⟨rfl, msg, rfl⟩ := fromBytes_error h
    exact ⟨msg, rfl⟩

end SensCord
