import SensCord.CApi.Loader
import SensCord.Serialize.Value

/-!
# SensCord.CApi.Setting

`SensCordC._convert_open_stream_setting`: the Python `OpenStreamSetting`, a frame buffering
setting and a dict of stream arguments, written into the ctypes structure
`core_open_stream_with_setting` hands to the library: a zeroed `OpenStreamSetting` with a
count (`arguents_count`, so spelled in the source) and 32 `StreamArgument` slots of a
32-byte `name` and a 256-byte `value`.

A `c_char` array field takes `bytes` only; it copies them up to their first NUL, with a NUL
after them when there is room, and refuses more bytes than the field holds.  Reading it
gives the bytes up to the first NUL.  So the conversion returns exactly when there are at
most 32 arguments and each key and value is `bytes` or `str` whose bytes up to the first NUL
fit its field; the setting then holds the count of the arguments and, in dict order, each
argument's bytes up to the first NUL padded with zeros, and zero slots after them
(`convertOpenStreamSetting_eq_ok_iff`).  Each field reads back as the bytes sent
(`Filled.read`): a key or value is cut at a NUL inside it, and a name of 32 bytes fills
its field with no NUL after it.
-/

namespace SensCord

/-! ## `c_char` array fields -/

/-- `STREAM_ARGUMENT_LENGTH`: the slots for stream arguments. -/
def streamArgumentLength : Nat := 32

/-- `STREAM_ARGUMENT_NAME_LENGTH`. -/
def streamArgumentNameLength : Nat := 32

/-- `STREAM_ARGUMENT_VALUE_LENGTH`. -/
def streamArgumentValueLength : Nat := 256

/-- A C string's bytes: those before the first NUL, which `strlen` counts. -/
def cString (bs : List UInt8) : List UInt8 := bs.takeWhile (· != 0)

/-- A `c_char * n` field of a ctypes structure: its `n` bytes. -/
structure CharArray (n : Nat) where
  bytes : List UInt8
  length_eq : bytes.length = n
  deriving DecidableEq

/-- The field of a zeroed structure. -/
def CharArray.zero (n : Nat) : CharArray n := ⟨List.replicate n 0, List.length_replicate _ _⟩

/-- The field holding a C string: its bytes, then zeros. -/
def CharArray.ofCString (n : Nat) (bs : List UInt8) : CharArray n :=
  ⟨(bs ++ List.replicate n 0).take n, by simp⟩

/-- Reading the field (ctypes' `s_get`): its bytes up to the first NUL. -/
def CharArray.value {n : Nat} (a : CharArray n) : List UInt8 := cString a.bytes

/-- Assigning `v` to the field (ctypes' `s_set`): `bytes` only; their bytes up to the first
NUL, and a NUL after them when there is room, are copied over the field's first bytes, and
more bytes than the field holds raise `ValueError`. -/
def CharArray.set {n : Nat} (a : CharArray n) (v : PyValue) : Except PyError (CharArray n) :=
  match v with
  | .bytes bs =>
    let data := cString bs
    if data.length ≤ n then
      let copied := (data ++ [0]).take n
      .ok ⟨copied ++ a.bytes.drop copied.length, by
        have : copied.length ≤ n := List.length_take_le _ _
        rw [List.length_append, List.length_drop, a.length_eq]; omega⟩
    else
      .error (.valueError ("bytes too long (" ++ toString data.length ++ ", maximum length " ++
        toString n ++ ")"))
  | v => .error (.typeError ("expected bytes, " ++ v.typeName ++ " found"))

/-! ## The fields a value fills -/

/-- The bytes a `c_char` field takes from a value: those of `bytes` up to the first NUL. -/
def PyValue.cBytes? : PyValue → Option (List UInt8)
  | .bytes bs => some (cString bs)
  | _ => Option.none

section Fields

variable {n : Nat}

theorem CharArray.ext {a b : CharArray n} (h : a.bytes = b.bytes) : a = b := by
  cases a; cases b; cases h; rfl

/-- A C string holds no NUL. -/
theorem ne_zero_of_mem_cString {bs : List UInt8} {b : UInt8} (h : b ∈ cString bs) : b ≠ 0 := by
  simpa using List.mem_takeWhile_imp h

/-- The bytes of the field holding a C string that fits: the string, then zeros. -/
theorem CharArray.bytes_ofCString {bs : List UInt8} (h : bs.length ≤ n) :
    (CharArray.ofCString n bs).bytes = bs ++ List.replicate (n - bs.length) 0 := by
  simp [CharArray.ofCString, List.take_append_eq_append_take, List.take_of_length_le h, List.take_replicate]

/-- A field holding a C string that fits reads back as it. -/
theorem CharArray.value_ofCString {bs : List UInt8} (h : bs.length ≤ n) (h0 : ∀ b ∈ bs, b ≠ 0) :
    (CharArray.ofCString n bs).value = bs := by
  rw [CharArray.value, cString, CharArray.bytes_ofCString h,
    List.takeWhile_append_of_pos (by simpa using h0), List.takeWhile_replicate]
  simp

/-- Copying a C string that fits over zeros, with a NUL after it when there is room, leaves
the string padded with zeros. -/
theorem take_append_zero_drop {d : List UInt8} (h : d.length ≤ n) :
    (d ++ [0]).take n ++ (List.replicate n (0 : UInt8)).drop ((d ++ [0]).take n).length =
      d ++ List.replicate (n - d.length) 0 := by
  rcases Nat.lt_or_eq_of_le h with hlt | rfl
  · rw [List.take_of_length_le (by simp; omega), List.drop_replicate, List.length_append,
      List.append_assoc, List.singleton_append, List.length_singleton]
    obtain ⟨k, hk⟩ := Nat.exists_eq_add_of_lt hlt
    simp [hk, show d.length + k + 1 - d.length = k + 1 by omega, List.replicate_succ]
  · simp

/-- Assigning to a zeroed field returns exactly when the value is `bytes` whose C string
fits, and the field then holds that C string. -/
theorem CharArray.zero_set_eq_ok_iff {v : PyValue} {a : CharArray n} :
    (CharArray.zero n).set v = .ok a ↔ ∃ bs, v.cBytes? = some bs ∧ bs.length ≤ n ∧ a = .ofCString n bs := by
  cases v with
  | bytes bs =>
    simp only [CharArray.set, PyValue.cBytes?, Option.some.injEq, exists_eq_left']
    split_ifs with h
    · simp only [Except.ok.injEq, h, true_and]
      have hbytes : (cString bs ++ [0]).take n ++ (CharArray.zero n).bytes.drop ((cString bs ++ [0]).take n).length =
          (CharArray.ofCString n (cString bs)).bytes := by
        rw [CharArray.bytes_ofCString h]; exact take_append_zero_drop h
      exact ⟨fun he => by rw [← he]; exact CharArray.ext hbytes, fun he => by rw [he]; exact CharArray.ext hbytes⟩
    · simp [h]
  | _ => simp [CharArray.set, PyValue.cBytes?]

end Fields

/-! ## The settings -/

/-- `SensCordC._to_bytes(value)`: a `str` encoded as UTF-8, anything else as it is. -/
def SensCordC.toBytes : PyValue → PyValue
  | .str s => .bytes (utf8Encode s)
  | v => v

/-- `FrameBuffering`: `buffering` and `format`, `CEnum`s over `c_int`, and `num`, a
`c_int32`. -/
structure FrameBuffering where
  buffering : Int
  num : Int
  format : Int
  deriving Repr, DecidableEq

/-- The `OpenStreamSetting` of `senscord_types.py`: the frame buffering setting and the
stream arguments, a dict. -/
structure OpenStreamSetting where
  frameBuffering : FrameBuffering
  arguments : List (PyValue × PyValue)

/-- `StreamArgument` of `_c_api.py`: a `name` of `c_char * 32` and a `value` of
`c_char * 256`. -/
structure StreamArgumentC where
  name : CharArray streamArgumentNameLength
  value : CharArray streamArgumentValueLength
  deriving DecidableEq

/-- The slot of a zeroed structure. -/
def StreamArgumentC.zero : StreamArgumentC := ⟨.zero _, .zero _⟩

/-- The ctypes `OpenStreamSetting` of `_c_api.py`: `frame_buffering`, `arguents_count` (a
`c_uint32`) and `arguents`, 32 `StreamArgument`s. -/
structure OpenStreamSettingC where
  frameBuffering : FrameBuffering
  arguentsCount : UInt32
  arguents : List StreamArgumentC
  length_arguents : arguents.length = streamArgumentLength

/-- `OpenStreamSetting()`: zeroed. -/
def OpenStreamSettingC.zero : OpenStreamSettingC :=
  ⟨⟨0, 0, 0⟩, 0, List.replicate streamArgumentLength .zero, List.length_replicate _ _⟩

/-- The loop's body: `setting.arguents[setting.arguents_count].name = _to_bytes(key)`, the
same for `value`, then `setting.arguents_count += 1`.  An index past the array raises
`IndexError('invalid index')`. -/
def OpenStreamSettingC.addArgument (setting : OpenStreamSettingC) (key value : PyValue) :
    Except SdkError OpenStreamSettingC :=
  let i := setting.arguentsCount.toNat
  match setting.arguents[i]? with
  | none => .error (.py (.indexError "invalid index"))
  | some slot => do
    let name ← (slot.name.set (SensCordC.toBytes key)).mapError .py
    let value ← (slot.value.set (SensCordC.toBytes value)).mapError .py
    pure { setting with
      arguents := setting.arguents.set i ⟨name, value⟩
      length_arguents := by rw [List.length_set, setting.length_arguents]
      arguentsCount := setting.arguentsCount + 1 }

/-- `SensCordC._convert_open_stream_setting(src)`. -/
def convertOpenStreamSetting (src : OpenStreamSetting) : Except SdkError OpenStreamSettingC :=
  let setting := { OpenStreamSettingC.zero with frameBuffering := src.frameBuffering }
  if src.arguments.length > streamArgumentLength then
    .error (.operationError "count of arguments exceeded.")
  else
    src.arguments.foldlM (fun setting (key, value) => setting.addArgument key value)
      { setting with arguentsCount := 0 }

/-- `SensCordC.core_open_stream_with_setting(core_handle, stream_key, setting)`: the library
function, answering `answer`, gets the converted setting and writes a stream handle, or
returns non-zero and `ApiError` is raised. -/
def SensCordC.coreOpenStreamWithSetting (libs : Libraries) (answer : OpenStreamSettingC → Option UInt64)
    (setting : OpenStreamSetting) : Except SdkError UInt64 := do
  SensCordC.checkLoaded libs .senscord
  let tmpSetting ← convertOpenStreamSetting setting
  match answer tmpSetting with
  | some handle => .ok handle
  | none => .error .apiError

/-! ## The loop -/

/-- The slot holding an argument's name and value, each a C string. -/
def StreamArgumentC.ofArgument (p : List UInt8 × List UInt8) : StreamArgumentC :=
  ⟨.ofCString _ p.1, .ofCString _ p.2⟩

/-- What the library reads of a slot: its name and its value, each up to the first NUL. -/
def StreamArgumentC.read (a : StreamArgumentC) : List UInt8 × List UInt8 := (a.name.value, a.value.value)

/-- The setting once the loop has written the arguments `done`: the frame buffering setting,
their count, their slots in order, and zero slots after them. -/
structure Filled (fb : FrameBuffering) (done : List (List UInt8 × List UInt8))
    (s : OpenStreamSettingC) : Prop where
  frameBuffering : s.frameBuffering = fb
  count : s.arguentsCount.toNat = done.length
  arguents : s.arguents = done.map StreamArgumentC.ofArgument ++
    List.replicate (streamArgumentLength - done.length) .zero

/-- What the loop sends of one argument: the C strings of its key and value, each fitting
its field. -/
def ArgumentSent (kv : PyValue × PyValue) (p : List UInt8 × List UInt8) : Prop :=
  (SensCordC.toBytes kv.1).cBytes? = some p.1 ∧ (SensCordC.toBytes kv.2).cBytes? = some p.2 ∧
    p.1.length ≤ streamArgumentNameLength ∧ p.2.length ≤ streamArgumentValueLength

section Loop

variable {fb : FrameBuffering} {done : List (List UInt8 × List UInt8)} {s s' : OpenStreamSettingC}

/-- The bytes a value gives a `c_char` field hold no NUL. -/
theorem PyValue.ne_zero_of_cBytes? {v : PyValue} {bs : List UInt8} (h : v.cBytes? = some bs) :
    ∀ b ∈ bs, b ≠ 0 := by
  cases v <;> simp only [PyValue.cBytes?, reduceCtorEq, Option.some.injEq] at h
  exact h ▸ fun _ => ne_zero_of_mem_cString

/-- The slot of a sent argument reads back as what was sent. -/
theorem ArgumentSent.read {kv : PyValue × PyValue} {p : List UInt8 × List UInt8} (h : ArgumentSent kv p) :
    (StreamArgumentC.ofArgument p).read = p :=
  Prod.ext (CharArray.value_ofCString h.2.2.1 (PyValue.ne_zero_of_cBytes? h.1))
    (CharArray.value_ofCString h.2.2.2 (PyValue.ne_zero_of_cBytes? h.2.1))

/-- The slots of the sent arguments read back as what was sent, in order. -/
theorem Filled.read {kvs : List (PyValue × PyValue)} (h : Filled fb done s)
    (hsent : List.Forall₂ ArgumentSent kvs done) : (s.arguents.take done.length).map StreamArgumentC.read = done := by
  rw [h.arguents, List.take_left' (List.length_map _ _), List.map_map]
  clear h
  induction hsent with
  | nil => rfl
  | cons hp _ ih => rw [List.map_cons, Function.comp_apply, hp.read, ih]

/-- A setting is determined by the arguments written into it. -/
theorem Filled.eq (h : Filled fb done s) (h' : Filled fb done s') : s = s' := by
  obtain ⟨fb₁, n₁, a₁, _⟩ := s
  obtain ⟨fb₂, n₂, a₂, _⟩ := s'
  obtain ⟨rfl, hn₁, rfl⟩ := h
  obtain ⟨rfl, hn₂, rfl⟩ := h'
  obtain rfl : n₁ = n₂ := UInt32.ext (hn₁.trans hn₂.symm)
  rfl

/-- An argument is sent by at most one pair of C strings. -/
theorem ArgumentSent.unique {kv : PyValue × PyValue} {p q : List UInt8 × List UInt8}
    (hp : ArgumentSent kv p) (hq : ArgumentSent kv q) : p = q :=
  Prod.ext (Option.some.inj (hp.1.symm.trans hq.1)) (Option.some.inj (hp.2.1.symm.trans hq.2.1))

/-- Writing an argument's slot at the count, and counting it, keeps the setting filled with
the argument after the others. -/
theorem Filled.push (hs : Filled fb done s) (hlen : done.length < streamArgumentLength)
    (p : List UInt8 × List UInt8) :
    Filled fb (done ++ [p]) ⟨s.frameBuffering, s.arguentsCount + 1,
      s.arguents.set s.arguentsCount.toNat (StreamArgumentC.ofArgument p),
      by rw [List.length_set, s.length_arguents]⟩ := by
  have h32 : done.length < 32 := hlen
  obtain ⟨k, hk⟩ := Nat.exists_eq_add_of_lt hlen
  refine ⟨hs.frameBuffering, ?_, ?_⟩
  · simp only [UInt32.toNat_add, hs.count, List.length_append, List.length_singleton]
    rw [show UInt32.toNat 1 = 1 from rfl, Nat.mod_eq_of_lt (by simp [UInt32.size]; omega)]
  · show s.arguents.set s.arguentsCount.toNat _ = _
    rw [hs.arguents, hs.count, List.set_append_right _ _ (by simp), List.length_map, Nat.sub_self,
      hk, show done.length + k + 1 - done.length = k + 1 by omega, List.replicate_succ,
      List.length_append, List.length_singleton, show done.length + k + 1 - (done.length + 1) = k by omega]
    simp

/-- What one round of the loop can do on a setting with a free slot: write a sent argument
after the others, or raise when the argument is not sent. -/
theorem Filled.addArgument_cases (hs : Filled fb done s) (hlen : done.length < streamArgumentLength)
    (key value : PyValue) :
    (∃ p s', ArgumentSent (key, value) p ∧ s.addArgument key value = .ok s' ∧ Filled fb (done ++ [p]) s') ∨
      (∀ p, ¬ ArgumentSent (key, value) p) ∧ ∃ e, s.addArgument key value = .error e := by
  have hslot : s.arguents[s.arguentsCount.toNat]? = some .zero := by
    rw [hs.arguents, hs.count, List.getElem?_append_right (by simp)]
    simp [List.getElem?_replicate, hlen]
  simp only [OpenStreamSettingC.addArgument, hslot]
  have hsent : ∀ p, ArgumentSent (key, value) p →
      StreamArgumentC.zero.name.set (SensCordC.toBytes key) = .ok (.ofCString _ p.1) ∧
        StreamArgumentC.zero.value.set (SensCordC.toBytes value) = .ok (.ofCString _ p.2) :=
    fun _ ⟨hk, hv, hkl, hvl⟩ => ⟨CharArray.zero_set_eq_ok_iff.mpr ⟨_, hk, hkl, rfl⟩,
      CharArray.zero_set_eq_ok_iff.mpr ⟨_, hv, hvl, rfl⟩⟩
  rcases hk : StreamArgumentC.zero.name.set (SensCordC.toBytes key) with e | name
  · exact .inr ⟨fun p hp => by simp [hsent p hp |>.1] at hk, _, rfl⟩
  rcases hv : StreamArgumentC.zero.value.set (SensCordC.toBytes value) with e | val
  · exact .inr ⟨fun p hp => by simp [hsent p hp |>.2] at hv, _, rfl⟩
  obtain ⟨kb, hkb, hkl, rfl⟩ := CharArray.zero_set_eq_ok_iff.mp hk
  obtain ⟨vb, hvb, hvl, rfl⟩ := CharArray.zero_set_eq_ok_iff.mp hv
  exact .inl ⟨(kb, vb), _, ⟨hkb, hvb, hkl, hvl⟩, rfl, hs.push hlen (kb, vb)⟩

/-- The loop from a setting holding `done`, over arguments that fit the free slots, returns
exactly when each argument is sent, and the setting then holds them after `done`. -/
theorem Filled.foldlM_eq_ok_iff {c : OpenStreamSettingC} :
    ∀ {rest : List (PyValue × PyValue)} {done s}, Filled fb done s →
      done.length + rest.length ≤ streamArgumentLength →
      (rest.foldlM (fun setting (key, value) => setting.addArgument key value) s = .ok c ↔
        ∃ args, List.Forall₂ ArgumentSent rest args ∧ Filled fb (done ++ args) c)
  | [], done, s, hs, _ => by
    simp only [List.foldlM_nil, Except.pure_eq, Except.ok.injEq, List.forall₂_nil_left_iff,
      exists_eq_left, List.append_nil]
    exact ⟨fun h => h ▸ hs, hs.eq⟩
  | (key, value) :: rest, done, s, hs, hlen => by
    rw [List.length_cons] at hlen
    have hlt : done.length < streamArgumentLength := by omega
    rw [List.foldlM_cons]
    dsimp only
    rcases hs.addArgument_cases hlt key value with ⟨p, s', hp, he, hF⟩ | ⟨hno, e, he⟩
    · have hlen' : (done ++ [p]).length + rest.length ≤ streamArgumentLength := by
        rw [List.length_append, List.length_singleton]; omega
      rw [he, Except.ok_bind, Filled.foldlM_eq_ok_iff hF hlen']
      constructor
      · rintro ⟨args, hargs, hc⟩
        exact ⟨p :: args, .cons hp hargs, by simpa using hc⟩
      · rintro ⟨args, hargs, hc⟩
        obtain ⟨q, args', hq, hargs', rfl⟩ := List.forall₂_cons_left_iff.mp hargs
        obtain rfl := hp.unique hq
        exact ⟨args', hargs', by simpa using hc⟩
    · rw [he, Except.error_bind]
      simp only [reduceCtorEq, false_iff, not_exists, not_and]
      intro args hargs
      obtain ⟨q, _, hq, -, -⟩ := List.forall₂_cons_left_iff.mp hargs
      exact absurd hq (hno q)

/-- `_convert_open_stream_setting` returns exactly when there are at most 32 arguments and
each key and value is `bytes` or `str` whose bytes up to the first NUL fit its field; the
setting it returns then holds the frame buffering setting, the count of the arguments, and
their C strings in dict order, padded with zeros, before zero slots. -/
theorem convertOpenStreamSetting_eq_ok_iff (src : OpenStreamSetting) (c : OpenStreamSettingC) :
    convertOpenStreamSetting src = .ok c ↔ src.arguments.length ≤ streamArgumentLength ∧
      ∃ args, List.Forall₂ ArgumentSent src.arguments args ∧ Filled src.frameBuffering args c ∧
        (c.arguents.take args.length).map StreamArgumentC.read = args := by
  unfold convertOpenStreamSetting
  split_ifs with h
  · simp only [reduceCtorEq, false_iff, not_and]
    omega
  · have h0 : Filled src.frameBuffering []
        { OpenStreamSettingC.zero with frameBuffering := src.frameBuffering, arguentsCount := 0 } :=
      ⟨rfl, rfl, rfl⟩
    rw [Filled.foldlM_eq_ok_iff h0 (by simpa using h)]
    simp only [List.nil_append, Nat.le_of_not_lt h, true_and]
    exact exists_congr fun args => ⟨fun ⟨hs, hc⟩ => ⟨hs, hc, hc.read hs⟩, fun ⟨hs, hc, _⟩ => ⟨hs, hc⟩⟩

end Loop

end SensCord
