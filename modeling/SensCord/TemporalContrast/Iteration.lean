import SensCord.TemporalContrast.Safety

/-!
# SensCord.TemporalContrast.Iteration

The ways of reading a bundle's records through its view, and how they relate over any
run of operations on the view.

`TemporalContrastEventArray.__iter__` returns the view itself, and `__next__` advances a
cursor that nothing resets.  Indexing and slicing read the records `0 … count - 1`
whatever the cursor, but a `for` loop starts at the cursor: it reads
`events[cursor:count]` and leaves the cursor at `count`, so a loop over a view that was
iterated or advanced before yields only what is left.
-/

namespace SensCord

namespace TemporalContrastEventArray

/-- The records `0 … count - 1` of the view, read from the buffer. -/
def records (buf : List UInt8) (a : TemporalContrastEventArray) : List TemporalContrastEvent :=
  (List.range a.count).map fun j =>
    TemporalContrastEvent.ofBytes ((buf.drop (a.address + eventSize * j)).take eventSize)

@[simp] theorem length_records (buf : List UInt8) (a : TemporalContrastEventArray) :
    (a.records buf).length = a.count := by simp [records]

/-- The records depend on the address and the count only, not on the cursor. -/
@[simp] theorem records_cursor (buf : List UInt8) (a : TemporalContrastEventArray) (k : Nat) :
    ({ a with cursor := k } : TemporalContrastEventArray).records buf = a.records buf := rfl

variable {buf : List UInt8} {a : TemporalContrastEventArray}

theorem event_eq_records (h : a.InBounds buf) {j : Nat} (hj : j < a.count) :
    a.event buf j = .ok ((a.records buf).get ⟨j, by simpa using hj⟩) := by
  rw [event_of_lt h j (by omega) (by omega)]
  simp [records]

/-- `[events[i] for i in range(count)]` is the list of records. -/
theorem getItem_range (h : a.InBounds buf) :
    (List.range a.count).mapM (fun i : Nat => a.getItem buf (.int i)) =
      .ok ((a.records buf).map .one) := by
  rw [records, List.map_map, Except.mapM_of_forall]
  intro i hi
  rw [List.mem_range] at hi
  simp only [getItem]
  rw [if_neg (by omega), event_of_lt h i (by omega) (by omega)]
  rfl

/-- `events[0:count]` is the list of records. -/
theorem getItem_slice_all (h : a.InBounds buf) :
    a.getItem buf (.slice (some 0) (some a.count) none) = .ok (.many (a.records buf)) := by
  have hrange : pyRange 0 a.count 1 = (List.range a.count).map (fun j : Nat => (j : Int)) := by
    simp only [pyRange, rangeLength]
    split_ifs with h1 <;> simp <;> omega
  have hs : sliceIndices (some 0) (some a.count) none a.count = .ok (0, a.count, 1) :=
    sliceIndices_of_le le_rfl (Int.natCast_nonneg _) (Int.natCast_nonneg _) le_rfl
  have hall : ∀ i ∈ (List.range a.count).map (fun j : Nat => (j : Int)), a.event buf i =
      .ok (TemporalContrastEvent.ofBytes ((buf.drop (a.address + eventSize * i.toNat)).take eventSize)) := by
    intro i hi
    obtain ⟨j, hj, rfl⟩ := List.mem_map.mp hi
    exact event_of_lt h j (by omega) (by simpa using hj)
  simp only [getItem, hs, hrange, Except.mapM_of_forall hall, List.map_map, Except.map_ok]
  simp [records, Function.comp_def]

/-- `__next__` below the count returns the record under the cursor and advances it. -/
theorem next_of_lt (h : a.InBounds buf) (hc : a.cursor < a.count) :
    a.next buf = .ok ((a.records buf).get ⟨a.cursor, by simpa using hc⟩) { a with cursor := a.cursor + 1 } := by
  rw [next, if_neg (by omega), event_eq_records h hc]

/-- `__next__` at the count raises `StopIteration` and leaves the view as it is. -/
theorem next_of_le (hc : a.count ≤ a.cursor) : a.next buf = .error (.raise .stopIteration) a := by
  rw [next, if_pos hc]

/-- A complete `for` loop over an in-bounds view reads the records from the cursor on,
and leaves the cursor at `count`. -/
theorem forLoop_eq (h : a.InBounds buf) (hc : a.cursor ≤ a.count) :
    a.forLoop buf = .ok ((a.records buf).drop a.cursor) { a with cursor := a.count } := by
  generalize hn : a.count - a.cursor = n
  induction n generalizing a with
  | zero =>
    obtain ⟨address, count, cursor⟩ := a
    obtain rfl : cursor = count := by simp at hc hn; omega
    rw [forLoop]
    split <;> rename_i heq <;> rw [next_of_le (by simp)] at heq <;> cases heq
    · simp
    · contradiction
  | succ n ih =>
    have hnext := @ih { a with cursor := a.cursor + 1 } h (by simp; omega) (by simp; omega)
    have hdrop : (a.records buf).drop a.cursor =
        (a.records buf).get ⟨a.cursor, by simp; omega⟩ :: (a.records buf).drop (a.cursor + 1) :=
      List.drop_eq_getElem_cons _
    rw [forLoop]
    split <;> rename_i heq <;> rw [next_of_lt h (by omega)] at heq <;> cases heq
    rw [hnext, records_cursor, hdrop]

/-! ## Runs of operations on a view -/

/-- The state a call leaves, whether it returned or raised. -/
def stateOf {ε σ α : Type} : EStateM.Result ε σ α → σ
  | .ok _ s => s
  | .error _ s => s

/-- An operation a caller makes on a view: an index or a slice, a call of `next()`, or a
complete `for` loop.  A loop left by `break` is the run of `next()` calls it made. -/
inductive ViewOp where
  | getItem (idx : PyIndex)
  | next
  | forLoop
  deriving Repr, DecidableEq

/-- The view after one operation; an exception is caught by the caller. -/
def ViewOp.apply (buf : List UInt8) (a : TemporalContrastEventArray) : ViewOp → TemporalContrastEventArray
  | .getItem _ => a
  | .next => stateOf (a.next buf)
  | .forLoop => stateOf (a.forLoop buf)

/-- The view after a run of operations. -/
def runOps (buf : List UInt8) (a : TemporalContrastEventArray) (ops : List ViewOp) :
    TemporalContrastEventArray :=
  ops.foldl (ViewOp.apply buf) a

/-- A view over the same records as `a`, its cursor at most `count`. -/
def SameView (a v : TemporalContrastEventArray) : Prop :=
  v.address = a.address ∧ v.count = a.count ∧ v.cursor ≤ a.count

theorem records_of_sameView {v : TemporalContrastEventArray} (hv : a.SameView v) :
    v.records buf = a.records buf := by
  simp only [records, hv.1, hv.2.1]

theorem inBounds_of_sameView {v : TemporalContrastEventArray} (hv : a.SameView v)
    (h : a.InBounds buf) : v.InBounds buf := by
  simpa only [InBounds, hv.1, hv.2.1] using h

/-- `next()` either leaves the view or advances its cursor below the count. -/
theorem stateOf_next (buf : List UInt8) (a : TemporalContrastEventArray) :
    stateOf (a.next buf) = a ∨
      a.cursor < a.count ∧ stateOf (a.next buf) = { a with cursor := a.cursor + 1 } := by
  unfold next
  split_ifs with hc
  · exact .inl rfl
  · split <;> simp [stateOf]; omega

/-- Step lemma: every operation keeps the view over the same records. -/
theorem sameView_apply (h : a.InBounds buf) {v : TemporalContrastEventArray} (hv : a.SameView v) :
    ∀ op : ViewOp, a.SameView (op.apply buf v)
  | .getItem _ => hv
  | .next => by
    rcases stateOf_next buf v with hs | ⟨hc, hs⟩ <;> simp only [ViewOp.apply, hs]
    · exact hv
    · exact ⟨hv.1, hv.2.1, by have := hv.2.1; simp only; omega⟩
  | .forLoop => by
    have hv' := inBounds_of_sameView hv h
    simp only [ViewOp.apply, forLoop_eq hv' (hv.2.1 ▸ hv.2.2), stateOf]
    exact ⟨hv.1, hv.2.1, hv.2.1.le⟩

/-- Run lemma: after any run of operations the view is over the same records. -/
theorem sameView_runOps (h : a.InBounds buf) :
    ∀ (ops : List ViewOp) {v : TemporalContrastEventArray}, a.SameView v → a.SameView (runOps buf v ops)
  | [], _, hv => hv
  | op :: ops, _, hv => sameView_runOps h ops (sameView_apply h hv op)

end TemporalContrastEventArray

open TemporalContrastEventArray TemporalContrastEventsTimeslice

/-- **Access paths of a parsed bundle.**  After any run of operations on a bundle's view,
`events[0:len()]` and `[events[i] for i in range(len())]` are the bundle's records, while
a complete `for` loop yields the records from the view's cursor on and leaves the cursor at
`len()`.  On the fresh view the loop yields every record. -/
theorem events_access_paths {buf : List UInt8} {self d : TemporalContrastData}
    (h : self.fromBytes buf = .ok () d) {bs : List TemporalContrastEventsTimeslice}
    (hbs : d.bundles = some bs) {t : TemporalContrastEventsTimeslice} (ht : t ∈ bs)
    (ops : List ViewOp) :
    let R := t.events.records buf
    let v := runOps buf t.events ops
    R.length = t.len ∧
    v.getItem buf (.slice (some 0) (some t.len) none) = .ok (.many R) ∧
    (List.range t.len).mapM (fun i : Nat => v.getItem buf (.int i)) = .ok (R.map .one) ∧
    v.cursor ≤ t.len ∧
    v.forLoop buf = .ok (R.drop v.cursor) { v with cursor := t.len } ∧
    t.events.forLoop buf = .ok R { t.events with cursor := t.len } := by
  obtain ⟨-, -, ts, hr, hts⟩ := fromBytes_ok h
  rw [hbs, Option.some.injEq] at hts
  subst hts
  obtain ⟨hcur, hcount, hin, -⟩ := readBundles_views hr t ht
  replace hcount : t.events.count = t.len := hcount
  have hv := sameView_runOps hin ops (show t.events.SameView t.events from ⟨rfl, rfl, by omega⟩)
  have hvin := inBounds_of_sameView hv hin
  refine ⟨by simp [hcount], ?_, ?_, hcount ▸ hv.2.2, ?_, ?_⟩
  · rw [← records_of_sameView hv, ← hcount, ← hv.2.1]
    exact getItem_slice_all hvin
  · rw [← records_of_sameView hv, ← hcount, ← hv.2.1]
    exact getItem_range hvin
  · rw [forLoop_eq hvin (hv.2.1 ▸ hv.2.2), records_of_sameView hv, hv.2.1, hcount]
  · rw [forLoop_eq hin (by omega), hcur, List.drop_zero, ← hcount]

/-- A stream of one bundle, at timestamp 7, holding the one record `(3, 4, -1)`. -/
def sampleStream : List UInt8 :=
  [1, 0, 0, 0] ++ List.replicate 12 0 ++
  [7, 0, 0, 0, 0, 0, 0, 0] ++ [1, 0, 0, 0] ++ List.replicate 12 0 ++
  [3, 0, 4, 0, 255, 0]

/-- The bundle view `from_bytes` makes for `sampleStream`. -/
def sampleBundle : TemporalContrastEventsTimeslice :=
  { dataSize := 30, timestamp := 7, count := 1, events := { address := 40, count := 1 } }

theorem fromBytes_sampleStream :
    ({} : TemporalContrastData).fromBytes sampleStream =
      .ok () { count := 1, bundles := some [sampleBundle] } := rfl

theorem records_sampleStream :
    sampleBundle.events.records sampleStream = [{ x := 3, y := 4, p := -1, reserved := 0 }] := rfl

theorem inBounds_sampleStream : sampleBundle.events.InBounds sampleStream := by
  unfold InBounds; decide

/-- A second complete `for` loop over the bundle of `sampleStream` yields nothing, while
`events[0:1]` holds its record. -/
theorem forLoop_twice_sampleStream :
    ({} : TemporalContrastData).fromBytes sampleStream =
      .ok () { count := 1, bundles := some [sampleBundle] } ∧
    sampleBundle.events.getItem sampleStream (.slice (some 0) (some 1) none) =
      .ok (.many [{ x := 3, y := 4, p := -1, reserved := 0 }]) ∧
    (runOps sampleStream sampleBundle.events [.forLoop]).forLoop sampleStream =
      .ok [] { sampleBundle.events with cursor := 1 } := by
  refine ⟨fromBytes_sampleStream, ?_, ?_⟩
  · rw [← records_sampleStream]
    exact getItem_slice_all inBounds_sampleStream
  · simp only [runOps, List.foldl, ViewOp.apply, forLoop_eq inBounds_sampleStream (by decide),
      stateOf]
    exact forLoop_eq inBounds_sampleStream (by decide)

theorem events_access_paths_sampleStream :
    let t := sampleBundle
    let R := t.events.records sampleStream
    let v := runOps sampleStream t.events [.next, .forLoop]
    R.length = t.len ∧
    v.getItem sampleStream (.slice (some 0) (some t.len) none) = .ok (.many R) ∧
    (List.range t.len).mapM (fun i : Nat => v.getItem sampleStream (.int i)) = .ok (R.map .one) ∧
    v.cursor ≤ t.len ∧
    v.forLoop sampleStream = .ok (R.drop v.cursor) { v with cursor := t.len } ∧
    t.events.forLoop sampleStream = .ok R { t.events with cursor := t.len } :=
  events_access_paths fromBytes_sampleStream rfl (List.mem_singleton_self _) [.next, .forLoop]

end SensCord
