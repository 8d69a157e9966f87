import SensCord.Serialize.Loops

/-!
# SensCord.Serialize.Serializable

The `Serializable` protocol of `serialize.py` below `Structure`: the `Encoder` that writes
packed objects into a buffer, the `Decoder` that reads them back one by one, and the
`MutableValue` classes (`Integer`, `Float`, `Bool`, `Array`) and `String` beside
`Structure`.

`to_bytes()` runs the instance's `encode` on a fresh `Encoder`; `cls.from_bytes(b)` builds
`cls()` and runs its `decode` on a `Decoder` over `b`.  A `MutableValue` pushes its
`value` and reads it back with `self.value = decoder.pop()`, whatever its type; a `String`
goes through `push_string`, which sends `bytes` only as UTF-8 text, and reads back
`bytes(decoder.pop())`.  `Encoder.push` converts only the value it is given, by the class
table `_ENCODE_FUNC_TABLE`: a `CEnum` to its `int`, `bytes` through `push_string`, a
`bytearray` to `bytes`.  Values inside a list, a dict or a structure go to msgpack as they
are.

The decoder reads the first object of its buffer and leaves the rest, so what `from_bytes`
reads does not depend on trailing bytes.  msgpack's byte format enters through
`StreamCodec`: each object packs to bytes that the unpacker reads back from the front of
any stream.

A value `from_bytes` reads is sent again unchanged (`fromBytes_toBytes_resend`): reading the
packed bytes of a wire object into a `MutableValue` or a `String` and writing it back sends
the same bytes, except for a top-level raw string that is not UTF-8, which `push_string`
refuses.  The wire objects are those `msgpack.packb(..., use_bin_type=False)` writes (nil,
booleans, integers, 64-bit floats, raw strings, arrays and maps); the bin, 32-bit float and
ext objects the unpacker also reads are not modelled.
-/

namespace SensCord

open List (Forall₂)

/-! ## The wire objects that come back unchanged -/

/-- The Python value msgpack reads a scalar wire object as; an array or a map is no
scalar. -/
def MsgObj.scalarValue? : MsgObj → Option PyValue
  | .nil => some .none
  | .bool b => some (.bool b)
  | .int n => some (.int n)
  | .float bits => some (.float bits)
  | .raw bs => some (.bytes bs)
  | .array _ | .map _ => none

/-- A wire object that `unpackb` reads as a Python value `packb` sends back as it was: its
integers in msgpack's range, and the keys of each of its maps scalars that read back
pairwise unequal, so that no two of them collapse into one dict key. -/
inductive Resendable : MsgObj → Prop
  | nil : Resendable .nil
  | bool (b : Bool) : Resendable (.bool b)
  | int {n : Int} : inInt64Range n → Resendable (.int n)
  | float (bits : UInt64) : Resendable (.float bits)
  | raw (bs : List UInt8) : Resendable (.raw bs)
  | array {xs : List MsgObj} : (∀ x ∈ xs, Resendable x) → Resendable (.array xs)
  | map {entries : List (MsgObj × MsgObj)} :
      (∀ e ∈ entries, Resendable e.1) → (∀ e ∈ entries, Resendable e.2) →
      (∀ e ∈ entries, (e.1.scalarValue?).isSome) →
      (entries.filterMap (·.1.scalarValue?)).Pairwise (fun a b => a.keyEq b = false) →
      Resendable (.map entries)

/-- Whether `push` sends a wire object back as it was read: all but a raw string that is not
UTF-8, which `push_string` refuses. -/
def MsgObj.pushable : MsgObj → Bool
  | .raw bs => (utf8Decode bs).isSome
  | _ => true

theorem MsgObj.unpackb_of_scalarValue? {o : MsgObj} {v : PyValue} (h : o.scalarValue? = some v) :
    unpackb o = .ok v := by
  cases o <;> cases h <;> rfl

theorem MsgObj.hashable_of_scalarValue? {o : MsgObj} {v : PyValue} (h : o.scalarValue? = some v) :
    v.hashable := by
  cases o <;> cases h <;> rfl

/-- The keys of a map of scalar keys, as `unpackb` reads them. -/
theorem filterMap_scalarValue?_eq {entries : List (MsgObj × MsgObj)} {ps : List (PyValue × PyValue)}
    (hs : ∀ e ∈ entries, (e.1.scalarValue?).isSome)
    (h : Forall₂ (fun e p => unpackb e.1 = .ok p.1) entries ps) :
    entries.filterMap (·.1.scalarValue?) = ps.map Prod.fst := by
  induction h with
  | nil => rfl
  | @cons e p entries ps hep _ ih =>
    obtain ⟨k, hk⟩ := Option.isSome_iff_exists.mp (hs e (List.mem_cons_self _ _))
    have hkp : k = p.1 := Except.ok.inj ((MsgObj.unpackb_of_scalarValue? hk).symm.trans hep)
    simp only [List.filterMap_cons, hk, ih fun e' he' => hs e' (List.mem_cons_of_mem _ he'), hkp,
      List.map_cons]

/-- msgpack reads a resendable wire object as a value it sends back as that object. -/
theorem Resendable.unpackb_packb {o : MsgObj} (h : Resendable o) :
    ∃ v, unpackb o = .ok v ∧ packb v = .ok o := by
  induction h with
  | nil => exact ⟨_, rfl, rfl⟩
  | bool b => exact ⟨_, rfl, rfl⟩
  | int hn => exact ⟨_, rfl, by simp [packb, hn]⟩
  | float bits => exact ⟨_, rfl, rfl⟩
  | raw bs => exact ⟨_, rfl, rfl⟩
  | @array xs _ ih =>
    obtain ⟨vs, hvs, -⟩ := exists_forall₂ fun x hx =>
      (ih x hx).imp fun _ h => (⟨h, trivial⟩ : _ ∧ True)
    exact ⟨_, unpackb_array_of (hvs.imp fun _ _ h => h.1), packb_list_of (hvs.imp fun _ _ h => h.2).flip⟩
  | @map entries _ _ hs hd ihk ihv =>
    have hx : ∀ e ∈ entries, ∃ p : PyValue × PyValue, ((unpackb e.1 = .ok p.1 ∧ packb p.1 = .ok e.1) ∧
        (unpackb e.2 = .ok p.2 ∧ packb p.2 = .ok e.2)) ∧ True := fun e he =>
      let ⟨k, hk⟩ := ihk e he
      let ⟨w, hw⟩ := ihv e he
      ⟨(k, w), ⟨hk, hw⟩, trivial⟩
    obtain ⟨ps, hps, -⟩ := exists_forall₂ hx
    have hkeys := filterMap_scalarValue?_eq hs (hps.imp fun _ _ h => h.1.1)
    have hdist : PyDict.Distinct ps := by
      refine ⟨fun p hp => ?_, hkeys ▸ hd⟩
      obtain ⟨e, -, he⟩ := List.mem_filterMap.mp (hkeys ▸ List.mem_map_of_mem Prod.fst hp)
      exact MsgObj.hashable_of_scalarValue? he
    exact ⟨_, unpackb_map_of (hps.imp fun _ _ h => ⟨h.1.1, h.2.1⟩) hdist,
      packb_dict_of (hps.imp fun _ _ h => ⟨h.1.2, h.2.2⟩).flip⟩

/-! ## The byte stream -/

/-- msgpack's byte format as a stream: each wire object packs to bytes that the unpacker
reads back from the front of a stream, whatever follows them. -/
structure StreamCodec (τ : Type) where
  pack : MsgObj → List τ
  unpackFirst : List τ → Except PyError (MsgObj × List τ)
  unpackFirst_pack : ∀ o rest, unpackFirst (pack o ++ rest) = .ok (o, rest)

/-- The message codec of a stream codec: a message is read as its first object. -/
def StreamCodec.toCodec {τ : Type} (sc : StreamCodec τ) : Codec (List τ) where
  pack := sc.pack
  unpack bs := Prod.fst <$> sc.unpackFirst bs
  unpack_pack o := by
    show Prod.fst <$> sc.unpackFirst (sc.pack o) = .ok o
    rw [← List.append_nil (sc.pack o), sc.unpackFirst_pack]; rfl

/-- The stream whose tokens are the wire objects themselves. -/
def StreamCodec.wire : StreamCodec MsgObj where
  pack o := [o]
  unpackFirst
    | o :: rest => .ok (o, rest)
    | [] => .error .unpackError
  unpackFirst_pack _ _ := rfl

/-- `Encoder()`: the bytes written so far. -/
structure Encoder (τ : Type) where
  buffer : List τ

/-- `Decoder(buf)`: the bytes not read yet. -/
structure Decoder (τ : Type) where
  stream : List τ

/-- `bytes(value)`: a byte string copied, an integer (a `bool`, a `CEnum`) as that many zero
bytes, or the items of a `list` or the keys of a `dict`, each an integer below 256. -/
def pyBytes : PyValue → Except PyError (List UInt8)
  | .bytes bs | .bytearray bs => .ok bs
  | .int n | .enum _ n =>
    if n < 0 then .error (.valueError "negative count") else .ok (List.replicate n.toNat 0)
  | .bool b => .ok (if b then [0] else [])
  | .str _ => .error (.typeError "string argument without an encoding")
  | .list xs => xs.mapM byte
  | .dict entries => entries.mapM (byte ·.1)
  | v => .error (.typeError ("cannot convert '" ++ v.typeName ++ "' object to bytes"))
where
  /-- One item of the iterable, as a byte. -/
  byte : PyValue → Except PyError UInt8
    | .int n | .enum _ n =>
      if 0 ≤ n ∧ n < 256 then .ok n.toNat.toUInt8 else .error (.valueError "bytes must be in range(0, 256)")
    | .bool b => .ok (if b then 1 else 0)
    | v => .error (.typeError ("'" ++ v.typeName ++ "' object cannot be interpreted as an integer"))

section Stream

variable {τ : Type} (sc : StreamCodec τ)

/-- `Encoder._write(value)`: `msgpack.packb(value)` appended to the buffer. -/
def Encoder.write (enc : Encoder τ) (value : PyValue) : Except PyError (Encoder τ) :=
  (fun o => ⟨enc.buffer ++ sc.pack o⟩) <$> packb value

/-- `Encoder.push_int(value)` for a `CEnum`: `_write(int(value))`, its value. -/
def Encoder.pushInt (enc : Encoder τ) (n : Int) : Except PyError (Encoder τ) :=
  enc.write sc (.int n)

/-- `Encoder.push_string(value)`: a `str` as it is and `bytes` decoded as UTF-8; anything
else raises. -/
def Encoder.pushString (enc : Encoder τ) : PyValue → Except PyError (Encoder τ)
  | .str s => enc.write sc (.str s)
  | .bytes bs =>
    match utf8Decode bs with
    | some s => enc.write sc (.str s)
    | none => .error .unicodeDecodeError
  | _ => .error (.typeError "Invalid type")

/-- `Encoder.push_bytes(value)` for a `bytearray`: `_write(bytes(value))`. -/
def Encoder.pushBytes (enc : Encoder τ) (bs : List UInt8) : Except PyError (Encoder τ) :=
  enc.write sc (.bytes bs)

/-- `Structure.encode(encoder)`: `encoder.push(self.to_dict())`; the dict is no
`Serializable` and of no class of the table, so `push` hands it to `_write`.  The instance
after the call is returned beside the encoder. -/
def Encoder.pushStructure (enc : Encoder τ) (inst : PyValue) : EStateM.Result PyError PyValue (Encoder τ) :=
  match Structure.toDict inst with
  | .ok d inst =>
    match enc.write sc d with
    | .ok enc => .ok enc inst
    | .error e => .error e inst
  | .error e inst => .error e inst

/-- `Encoder.push(value)`: a `Serializable` encodes itself; a value of a class of
`_ENCODE_FUNC_TABLE` goes to the first matching method, `push_int` for a `CEnum`,
`push_string` for `bytes` and `str`, `push_bytes` for a `bytearray`; anything else goes to
`_write`.  The value after the call is returned beside the encoder. -/
def Encoder.push (enc : Encoder τ) (value : PyValue) : EStateM.Result PyError PyValue (Encoder τ) :=
  let done : Except PyError (Encoder τ) → EStateM.Result PyError PyValue (Encoder τ)
    | .ok enc => .ok enc value
    | .error e => .error e value
  match value with
  | .struct .. => enc.pushStructure sc value
  | .enum _ n => done (enc.pushInt sc n)
  | .bytes _ | .str _ => done (enc.pushString sc value)
  | .bytearray bs => done (enc.pushBytes sc bs)
  | _ => done (enc.write sc value)

/-- `Decoder.pop()`: the first object of the stream, unpacked, and the rest. -/
def Decoder.pop (dec : Decoder τ) : Except PyError (PyValue × Decoder τ) := do
  let (o, rest) ← sc.unpackFirst dec.stream
  let v ← unpackb o
  pure (v, ⟨rest⟩)

/-- `_write` appends the bytes of the object msgpack packs the value to. -/
theorem Encoder.write_of_packb {v : PyValue} {o : MsgObj} (h : packb v = .ok o) (enc : Encoder τ) :
    enc.write sc v = .ok ⟨enc.buffer ++ sc.pack o⟩ := by
  simp [Encoder.write, h]

/-- `pop` on a stream that starts with a packed object: that object, unpacked, and the rest
of the stream. -/
theorem Decoder.pop_pack (o : MsgObj) (rest : List τ) :
    (⟨sc.pack o ++ rest⟩ : Decoder τ).pop sc = (fun v => (v, ⟨rest⟩)) <$> unpackb o := by
  rw [Decoder.pop, sc.unpackFirst_pack]
  show unpackb o >>= _ = _
  cases unpackb o <;> rfl

/-- `push_string` of a byte string sends it as it is, once it decodes as UTF-8. -/
theorem Encoder.pushString_bytes (enc : Encoder τ) (bs : List UInt8) :
    enc.pushString sc (.bytes bs) =
      if (utf8Decode bs).isSome then .ok ⟨enc.buffer ++ sc.pack (.raw bs)⟩ else .error .unicodeDecodeError := by
  rcases Option.eq_none_or_eq_some (utf8Decode bs) with hd | ⟨s, hd⟩
  · simp only [Encoder.pushString, hd]; rfl
  · simp only [Encoder.pushString, hd, Encoder.write_of_packb sc (show packb (.str s) = .ok (.raw bs) by
      rw [← utf8Encode_utf8Decode hd]; rfl)]
    rfl

/-- `push` of a value `unpackb` read from a wire object: the object as it was read, unless it
is a raw string that is not UTF-8. -/
theorem Encoder.push_unpackb {o : MsgObj} {v : PyValue} (hu : unpackb o = .ok v)
    (hp : packb v = .ok o) (enc : Encoder τ) :
    enc.push sc v = if o.pushable then .ok ⟨enc.buffer ++ sc.pack o⟩ v else .error .unicodeDecodeError v := by
  cases o with
  | raw bs =>
    cases hu
    simp only [MsgObj.pushable, Encoder.push, Encoder.pushString_bytes]
    split_ifs <;> rfl
  | array xs =>
    simp only [unpackb] at hu
    cases h : unpackbList xs <;> rw [h] at hu <;> cases hu
    simp only [Encoder.push, MsgObj.pushable, if_true, Encoder.write_of_packb sc hp]
  | map entries =>
    simp only [unpackb] at hu
    cases h : unpackbEntries entries [] <;> rw [h] at hu <;> cases hu
    simp only [Encoder.push, MsgObj.pushable, if_true, Encoder.write_of_packb sc hp]
  | nil | bool _ | int _ | float _ =>
    cases hu
    simp only [Encoder.push, MsgObj.pushable, if_true, Encoder.write_of_packb sc hp]

end Stream

/-! ## `Serializable` instances -/

/-- The classes whose instances encode and decode as `MutableValue` does, with
`encoder.push(self.value)` and `self.value = decoder.pop()`: `MutableValue` itself,
`Integer` (and `Int8` … `Uint64`), `Float` (and `Double`), `Bool`, and `Array`, whose
`encode` also hands its `_class_type` to `push`, where no branch reads it. -/
inductive ValueClass where
  | mutableValue
  | integer
  | float
  | bool
  | array
  deriving Repr, DecidableEq

/-- A `Serializable` class of `serialize.py`: a `Structure` subclass, a `MutableValue`
class, or `String`. -/
inductive SerialClass where
  | structure (name : String) (fields : List (String × ClassType))
  | value (cls : ValueClass)
  | string
  deriving Repr

/-- An instance of a `Serializable` class, with what its `encode` and `decode` read and
write: a `Structure` instance, or a `MutableValue`'s or a `String`'s `value`. -/
inductive Serial where
  | structure (inst : PyValue)
  | value (cls : ValueClass) (value : PyValue)
  | string (value : PyValue)
  deriving Repr

/-- `cls()`: a structure class's fresh instance, and each `MutableValue` class's default:
`None`, `int()`, `float()`, `bool()`, `Array()` (no element class, so `[]`), and for
`String`, `bytes()`. -/
def SerialClass.new : SerialClass → Except PyError Serial
  | .structure name fields => .structure <$> ClassType.default (.structure name fields)
  | .value .mutableValue => .ok (.value .mutableValue .none)
  | .value .integer => .ok (.value .integer (.int 0))
  | .value .float => .ok (.value .float (.float 0))
  | .value .bool => .ok (.value .bool (.bool false))
  | .value .array => .ok (.value .array (.list []))
  | .string => .ok (.string (.bytes []))

section Instances

variable {τ : Type} (sc : StreamCodec τ)

/-- `self.encode(encoder)`: `Structure.encode`, `MutableValue.encode` (`push(self.value)`)
or `String.encode` (`push_string(self.value)`), and the instance after the call. -/
def Serial.encode (enc : Encoder τ) : Serial → EStateM.Result PyError Serial (Encoder τ)
  | .structure inst =>
    match enc.pushStructure sc inst with
    | .ok enc inst => .ok enc (.structure inst)
    | .error e inst => .error e (.structure inst)
  | .value cls v =>
    match enc.push sc v with
    | .ok enc v => .ok enc (.value cls v)
    | .error e v => .error e (.value cls v)
  | .string v =>
    match enc.pushString sc v with
    | .ok enc => .ok enc (.string v)
    | .error e => .error e (.string v)

/-- `self.decode(decoder)`: `Structure.decode` (`self.from_dict(decoder.pop())`),
`MutableValue.decode` (`self.value = decoder.pop()`, whatever its type) or `String.decode`
(`self.value = bytes(decoder.pop())`), and the instance after the call: a `from_dict` that
raises leaves the attributes it set. -/
def Serial.decode (dec : Decoder τ) (self : Serial) : EStateM.Result PyError Serial (Decoder τ) :=
  match dec.pop sc with
  | .error e => .error e self
  | .ok (v, dec) =>
    match self with
    | .structure inst =>
      match Structure.fromDict inst v with
      | .ok () inst => .ok dec (.structure inst)
      | .error e inst => .error e (.structure inst)
    | .value cls _ => .ok dec (.value cls v)
    | .string s =>
      match pyBytes v with
      | .ok bs => .ok dec (.string (.bytes bs))
      | .error e => .error e (.string s)

/-- `Serializable.to_bytes()`: `encode` on a fresh `Encoder`, its buffer, and the instance
after the call. -/
def Serial.toBytes (self : Serial) : EStateM.Result PyError Serial (List τ) :=
  match self.encode sc ⟨[]⟩ with
  | .ok enc self => .ok enc.buffer self
  | .error e self => .error e self

/-- `cls.from_bytes(encoded_bytes)`: `cls()`, then its `decode` on a `Decoder` over the
bytes. -/
def SerialClass.fromBytes (cls : SerialClass) (encoded : List τ) : Except PyError Serial := do
  let inst ← cls.new
  match inst.decode sc ⟨encoded⟩ with
  | .ok _ inst => .ok inst
  | .error e _ => .error e

/-- `self == other` between two `Serializable` instances: their `to_bytes()` compared, and
the two instances after the calls. -/
def Serial.eq [DecidableEq τ] (self other : Serial) : EStateM.Result PyError (Serial × Serial) Bool :=
  match self.toBytes sc with
  | .error e self => .error e (self, other)
  | .ok b self =>
    match other.toBytes sc with
    | .error e other => .error e (self, other)
    | .ok b' other => .ok (decide (b = b')) (self, other)

/-! ## Reading and sending back -/

/-- `from_bytes` of a `MutableValue` class: the class's instance holding the first value the
bytes hold. -/
theorem SerialClass.fromBytes_value (cls : ValueClass) (bs : List τ) :
    (SerialClass.value cls).fromBytes sc bs = (fun p => Serial.value cls p.1) <$> (⟨bs⟩ : Decoder τ).pop sc := by
  cases cls <;>
  · simp only [SerialClass.fromBytes, SerialClass.new, Serial.decode]
    cases Decoder.pop sc ⟨bs⟩ <;> rfl

/-- A wire object `from_bytes` reads from its packed bytes, whatever follows them, is sent
again unchanged: reading it into a `MutableValue` class (or, for a raw string, a `String`)
and calling `to_bytes` gives the same packed bytes, unless it is a raw string that is not
UTF-8, which `push_string` refuses. -/
theorem fromBytes_toBytes_resend {o : MsgObj} (ho : Resendable o) (rest : List τ) :
    (∀ cls : ValueClass, ∃ v, unpackb o = .ok v ∧
      (SerialClass.value cls).fromBytes sc (sc.pack o ++ rest) = .ok (.value cls v) ∧
      (Serial.value cls v).toBytes sc =
        if o.pushable then .ok (sc.pack o) (.value cls v) else .error .unicodeDecodeError (.value cls v)) ∧
    (∀ bs, o = .raw bs →
      SerialClass.string.fromBytes sc (sc.pack o ++ rest) = .ok (.string (.bytes bs)) ∧
      (Serial.string (.bytes bs)).toBytes sc =
        if o.pushable then .ok (sc.pack o) (.string (.bytes bs))
        else .error .unicodeDecodeError (.string (.bytes bs))) := by
  obtain ⟨v, hu, hp⟩ := ho.unpackb_packb
  refine ⟨fun cls => ⟨v, hu, ?_, ?_⟩, fun bs ho => ?_⟩
  · rw [SerialClass.fromBytes_value, Decoder.pop_pack, hu]; rfl
  · simp only [Serial.toBytes, Serial.encode, Encoder.push_unpackb sc hu hp]
    split_ifs <;> rfl
  · subst ho
    refine ⟨by simp only [SerialClass.fromBytes, SerialClass.new, Serial.decode, Decoder.pop_pack]; rfl, ?_⟩
    simp only [Serial.toBytes, Serial.encode, Encoder.pushString_bytes, MsgObj.pushable]
    split_ifs <;> rfl

theorem fromBytes_toBytes_resend_map :
    Resendable (.map [(.raw [0x6E], .int 3)]) ∧
    (∀ cls : ValueClass, ∃ v, unpackb (.map [(.raw [0x6E], .int 3)]) = .ok v ∧
      (SerialClass.value cls).fromBytes StreamCodec.wire
        (StreamCodec.wire.pack (.map [(.raw [0x6E], .int 3)]) ++ []) = .ok (.value cls v) ∧
      (Serial.value cls v).toBytes StreamCodec.wire =
        if MsgObj.pushable (.map [(.raw [0x6E], .int 3)]) then
          .ok (StreamCodec.wire.pack (.map [(.raw [0x6E], .int 3)])) (.value cls v)
        else .error .unicodeDecodeError (.value cls v)) ∧
    (∀ bs, MsgObj.map [(.raw [0x6E], .int 3)] = .raw bs →
      SerialClass.string.fromBytes StreamCodec.wire
        (StreamCodec.wire.pack (.map [(.raw [0x6E], .int 3)]) ++ []) = .ok (.string (.bytes bs)) ∧
      (Serial.string (.bytes bs)).toBytes StreamCodec.wire =
        if MsgObj.pushable (.map [(.raw [0x6E], .int 3)]) then
          .ok (StreamCodec.wire.pack (.map [(.raw [0x6E], .int 3)])) (.string (.bytes bs))
        else .error .unicodeDecodeError (.string (.bytes bs))) :=
  have h : Resendable (.map [(.raw [0x6E], .int 3)]) :=
    .map (fun e he => by rw [List.mem_singleton.mp he]; exact .raw _)
      (fun e he => by rw [List.mem_singleton.mp he]; exact .int (by decide))
      (fun e he => by rw [List.mem_singleton.mp he]; rfl) (List.pairwise_singleton _ _)
  ⟨h, fromBytes_toBytes_resend StreamCodec.wire h []⟩

end Instances

end SensCord
