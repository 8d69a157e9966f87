import SensCord.Serialize.Msgpack

/-!
# SensCord.Serialize.Structure

`Structure` of `serialize.py`: `__init__`, `to_dict` with `_encode`, `from_dict` with
`_decode`, and the byte-level `to_bytes`, `from_bytes` and `__eq__` of `Serializable`.

`_encode` peels a tuple descriptor into its head and rest.  A `list` head walks the
list and **assigns every element's encoding back into the list**, `value[index] = …`, so
the caller's list holds encodings afterwards; a `dict` head builds a new dict from the
encoded keys and values; then a `Structure` becomes its `to_dict()` and a `CEnum` its
`int`.  Every encoding therefore returns, beside its result, the value it was given as
the call left it.  `_decode` mirrors the first two branches, turns a map into a fresh
instance for a `Structure` head, and calls `bytearray` for a `bytearray` head.

`to_dict` reads every attribute as it stood when `to_dict` began.  With pairwise distinct
field names that is what Python does; a repeated field name reads, in Python, the
attribute after the earlier field's encoding changed it.

An attribute that is missing from an instance raises `AttributeError` here; Python reads
the class attribute instead, which is the descriptor, and fails later in msgpack.
-/

namespace SensCord

/-! ## `__init__` -/

mutual

/-- `class_type()`, unwrapped from a `MutableValue` as `Structure.__init__` and
`Array.__init__` do.  An `Array` instance is called for a deep copy of itself, whose value
`Array.__init__` built: the element default nested in lists of the sizes `reversed(args)`
gives, or `[]` without an element class or sizes. -/
def ClassType.default : ClassType → Except PyError PyValue
  | .list => .ok (.list [])
  | .dict => .ok (.dict [])
  | .bytearray => .ok (.bytearray [])
  | .integer => .ok (.int 0)
  | .float => .ok (.float 0)
  | .bool => .ok (.bool false)
  | .string => .ok (.bytes [])
  | .cenum name => .ok (.enum name 0)
  | .structure name fields => .struct name fields <$> initFields fields []
  | .array classType dims =>
    if classType.truthy ∧ dims ≠ [] then do
      let tmpValue ← classType.default
      let tmpValue := dims.reverse.foldl (fun v i => .list (List.replicate i v)) tmpValue
      pure (if tmpValue.truthy then tmpValue else .list [])
    else .ok (.list [])
  | .tuple _ => .error (.typeError "'tuple' object is not callable")
  | .none => .error (.typeError "'NoneType' object is not callable")

/-- The field loop of `Structure.__init__`: each attribute set to its class's default, a
tuple descriptor's class being its first item. -/
def initFields : List (String × ClassType) → List (String × PyValue) →
    Except PyError (List (String × PyValue))
  | [], attrs => .ok attrs
  | (_, .tuple []) :: _, _ => .error (.indexError "tuple index out of range")
  | (name, .tuple (classType :: _)) :: fields, attrs => do
    let value ← classType.default
    initFields fields (Dict.set attrs name value)
  | (name, classType) :: fields, attrs => do
    let value ← classType.default
    initFields fields (Dict.set attrs name value)

end

/-- `Array(class_type, *args)._class_type`: `list` once per dimension, or once when there is
none, then the element class when it is true. -/
def ClassType.arrayClassType (classType : ClassType) (dims : List Nat) : ClassType :=
  let tmpClassType := List.replicate dims.length ClassType.list
  let tmpClassType := if tmpClassType.isEmpty then tmpClassType ++ [.list] else tmpClassType
  .tuple (if classType.truthy then tmpClassType ++ [classType] else tmpClassType)

/-! ## `_encode` and `to_dict` -/

/-- What `_encode(item, class_type)` raises on one item of a `str`, `bytes` or `bytearray`
that the list branch walks, a one-character `str` or an `int`, given the head `c` of the
descriptor and what the descriptor after it raises.  No branch changes such an item: a
`list` head walks a `str` item and then stores into it, and cannot walk an `int`; a `dict`
head asks for its `items`. -/
def encodeItemAt (item : PyValue) (c : ClassType) (rest : Except PyError Unit) : Except PyError Unit :=
  match c, item with
  | .list, .str _ => rest.bind fun _ => .error (.typeError "'str' object does not support item assignment")
  | .list, _ => .error (.typeError ("'" ++ item.typeName ++ "' object is not iterable"))
  | .dict, _ => .error (.attributeError ("'" ++ item.typeName ++ "' object has no attribute 'items'"))
  | _, _ => .ok ()

/-- `encodeItemAt` under the items of a tuple descriptor. -/
def encodeItemIn (item : PyValue) : List ClassType → Except PyError Unit
  | [] => .error (.indexError "tuple index out of range")
  | c :: items => encodeItemAt item c (encodeItemIn item items)

/-- `encodeItemAt` under any descriptor; after a class comes `None`, under which nothing
raises. -/
def encodeItem (item : PyValue) : ClassType → Except PyError Unit
  | .tuple items => encodeItemIn item items
  | c => encodeItemAt item c (.ok ())

/-- The list branch of `_encode` on a value that is not a `list`.  `enumerate` runs no
iteration over an empty `str`, `bytes`, `bytearray` or `dict`.  The items of a `bytearray`
are stored back unchanged unless the element descriptor raises on them, as it raises on
all of them alike; a `str` and a `bytes` refuse the store.  Anything else is not iterable.
Python walks a non-empty `dict` by its keys and stores into it under the indices; the
model raises `TypeError` there. -/
def encodeIterable (rest : ClassType) (v : PyValue) : EStateM.Result PyError PyValue PyValue :=
  let refuse : EStateM.Result PyError PyValue PyValue :=
    .error (.typeError ("'" ++ v.typeName ++ "' object does not support item assignment")) v
  match v with
  | .str [] | .bytes [] | .bytearray [] | .dict [] => .ok v v
  | .bytearray (b :: _) =>
    match encodeItem (.int b.toNat) rest with
    | .error e => .error e v
    | .ok () => .ok v v
  | .bytes (b :: _) =>
    match encodeItem (.int b.toNat) rest with
    | .error e => .error e v
    | .ok () => refuse
  | .str (c :: _) =>
    match encodeItem (.str [c]) rest with
    | .error e => .error e v
    | .ok () => refuse
  | .dict _ => refuse
  | _ => .error (.typeError ("'" ++ v.typeName ++ "' object is not iterable")) v

/-- The field loop of `to_dict`: each attribute encoded under its field's descriptor and
stored under the field's name; the attributes are left as the encodings changed them. -/
def toDictLoop (encodeAttr : String → ClassType → Option (EStateM.Result PyError PyValue PyValue)) :
    List (String × ClassType) → List (String × PyValue) → List (PyValue × PyValue) →
    EStateM.Result PyError (List (String × PyValue)) (List (PyValue × PyValue))
  | [], attrs, out => .ok out attrs
  | (name, classType) :: fields, attrs, out =>
    match encodeAttr name classType with
    | none => .error (.attributeError ("object has no attribute '" ++ name ++ "'")) attrs
    | some (.error e value) => .error e (Dict.set attrs name value)
    | some (.ok r value) =>
      match PyDict.setItem out (.str name.toList) r with
      | .error e => .error e (Dict.set attrs name value)
      | .ok out => toDictLoop encodeAttr fields (Dict.set attrs name value) out

mutual

/-- `Structure._encode(value, class_type)`: the encoding, and `value` after the call. -/
def encode (v : PyValue) (classType : ClassType) : EStateM.Result PyError PyValue PyValue :=
  match classType.peel with
  | .error e => .error e v
  | .ok (current, rest) =>
    match current, v with
    | .list, .list xs =>
      match encodeElems xs rest with
      | .ok rs _ => .ok (.list rs) (.list rs)
      | .error e xs => .error e (.list xs)
    | .list, v => encodeIterable rest v
    | .dict, .dict entries =>
      match encodeEntries entries (rest.unwrap.getItem 0) (rest.unwrap.getItem 1) [] with
      | .ok newDict entries => .ok (.dict newDict) (.dict entries)
      | .error e entries => .error e (.dict entries)
    | .dict, v => .error (.attributeError ("'" ++ v.typeName ++ "' object has no attribute 'items'")) v
    | _, .struct cls fields attrs =>
      match toDictLoop (encodeAttr attrs) fields attrs [] with
      | .ok out attrs => .ok (.dict out) (.struct cls fields attrs)
      | .error e attrs => .error e (.struct cls fields attrs)
    | _, .enum cls n => .ok (.int n) (.enum cls n)
    | _, v => .ok v v

/-- The element loop of the list branch, `value[index] = _encode(element, class_type)`:
the encodings, which are also the list after the loop. -/
def encodeElems : List PyValue → ClassType → EStateM.Result PyError (List PyValue) (List PyValue)
  | [], _ => .ok [] []
  | x :: xs, classType =>
    match encode x classType with
    | .error e x => .error e (x :: xs)
    | .ok r _ =>
      match encodeElems xs classType with
      | .ok rs _ => .ok (r :: rs) (r :: rs)
      | .error e xs => .error e (r :: xs)

/-- The entry loop of the dict branch: `new_dict` as the result, and the entries after the
loop, whose values the encodings may have changed. -/
def encodeEntries : List (PyValue × PyValue) → Except PyError ClassType → Except PyError ClassType →
    List (PyValue × PyValue) →
    EStateM.Result PyError (List (PyValue × PyValue)) (List (PyValue × PyValue))
  | [], _, _, newDict => .ok newDict []
  | (key, val) :: entries, keyType, valType, newDict =>
    match keyType with
    | .error e => .error e ((key, val) :: entries)
    | .ok kc =>
      match encode key kc with
      | .error e key => .error e ((key, val) :: entries)
      | .ok k key =>
        match valType with
        | .error e => .error e ((key, val) :: entries)
        | .ok vc =>
          match encode val vc with
          | .error e val => .error e ((key, val) :: entries)
          | .ok v val =>
            match PyDict.setItem newDict k v with
            | .error e => .error e ((key, val) :: entries)
            | .ok newDict =>
              match encodeEntries entries keyType valType newDict with
              | .ok out entries => .ok out ((key, val) :: entries)
              | .error e entries => .error e ((key, val) :: entries)

/-- `getattr(self, name)` encoded under a descriptor, `none` when the attribute is
missing. -/
def encodeAttr : List (String × PyValue) → String → ClassType →
    Option (EStateM.Result PyError PyValue PyValue)
  | [], _, _ => none
  | (n, v) :: attrs, name, classType =>
    if n = name then some (encode v classType) else encodeAttr attrs name classType

end

/-- `Structure.to_dict()` of an instance: the dict, and the instance after the call. -/
def Structure.toDict : PyValue → EStateM.Result PyError PyValue PyValue
  | .struct cls fields attrs =>
    match toDictLoop (encodeAttr attrs) fields attrs [] with
    | .ok out attrs => .ok (.dict out) (.struct cls fields attrs)
    | .error e attrs => .error e (.struct cls fields attrs)
  | v => .error (.attributeError ("'" ++ v.typeName ++ "' object has no attribute 'to_dict'")) v

/-! ## `_decode` and `from_dict` -/

/-- `bytearray(value)`: a byte string copied, an integer (a `bool`, a `CEnum`) as that
many zero bytes, or the items of a `list` or the keys of a `dict`, each an integer below
256. -/
def toBytearray : PyValue → Except PyError PyValue
  | .bytes bs | .bytearray bs => .ok (.bytearray bs)
  | .int n | .enum _ n =>
    if n < 0 then .error (.valueError "negative count") else .ok (.bytearray (List.replicate n.toNat 0))
  | .bool b => .ok (.bytearray (if b then [0] else []))
  | .str _ => .error (.typeError "string argument without an encoding")
  | .list xs => .bytearray <$> xs.mapM byte
  | .dict entries => .bytearray <$> entries.mapM (byte ·.1)
  | v => .error (.typeError ("cannot convert '" ++ v.typeName ++ "' object to bytearray"))
where
  /-- One item of the iterable, as a byte. -/
  byte : PyValue → Except PyError UInt8
    | .int n | .enum _ n =>
      if 0 ≤ n ∧ n < 256 then .ok n.toNat.toUInt8 else .error (.valueError "byte must be in range(0, 256)")
    | .bool b => .ok (if b then 1 else 0)
    | v => .error (.typeError ("'" ++ v.typeName ++ "' object cannot be interpreted as an integer"))

/-- `_decode(item, class_type)` on one item of a `str`, `bytes` or `bytearray` that the list
branch walks, a one-character `str` or an `int`, given the head `c` of the descriptor and
the decoding under the descriptor after it: the decoded item.  A `Structure` head makes a
fresh instance and reads the item as its input dict, which only an instance without fields
survives; a `bytearray` head calls `bytearray` on it. -/
def decodeItemAt (item : PyValue) (c : ClassType) (rest : Except PyError PyValue) :
    Except PyError PyValue :=
  match c, item with
  | .list, .str _ => rest.bind fun _ => .error (.typeError "'str' object does not support item assignment")
  | .list, _ => .error (.typeError ("'" ++ item.typeName ++ "' object is not iterable"))
  | .dict, _ => .error (.attributeError ("'" ++ item.typeName ++ "' object has no attribute 'items'"))
  | .structure name fields, _ => do
    let attrs ← initFields fields []
    if fields.isEmpty then .ok (.struct name fields attrs)
    else .error (.attributeError ("'" ++ item.typeName ++ "' object has no attribute 'get'"))
  | .bytearray, _ => toBytearray item
  | _, _ => .ok item

/-- `decodeItemAt` under the items of a tuple descriptor. -/
def decodeItemIn (item : PyValue) : List ClassType → Except PyError PyValue
  | [] => .error (.indexError "tuple index out of range")
  | c :: items => decodeItemAt item c (decodeItemIn item items)

/-- `decodeItemAt` under any descriptor; after a class comes `None`, under which the item
is its own decoding. -/
def decodeItem (item : PyValue) : ClassType → Except PyError PyValue
  | .tuple items => decodeItemIn item items
  | c => decodeItemAt item c (.ok item)

/-- The list branch of `_decode` on a value that is not a `list`, as for `_encode`: a
`bytearray` keeps its items when they decode to integers, and takes no other value. -/
def decodeIterable (rest : ClassType) (v : PyValue) : Except PyError PyValue :=
  let refuse : Except PyError PyValue :=
    .error (.typeError ("'" ++ v.typeName ++ "' object does not support item assignment"))
  match v with
  | .str [] | .bytes [] | .bytearray [] | .dict [] => .ok v
  | .bytearray (b :: _) =>
    match decodeItem (.int b.toNat) rest with
    | .error e => .error e
    | .ok (.int _) => .ok v
    | .ok r => .error (.typeError ("'" ++ r.typeName ++ "' object cannot be interpreted as an integer"))
  | .bytes (b :: _) => (decodeItem (.int b.toNat) rest).bind fun _ => refuse
  | .str (c :: _) => (decodeItem (.str [c]) rest).bind fun _ => refuse
  | .dict _ => refuse
  | _ => .error (.typeError ("'" ++ v.typeName ++ "' object is not iterable"))

/-- One field of `from_dict`: the value looked up under the field's name as text, and when
that finds nothing true, under its name as UTF-8 bytes; a true value is decoded, any other
is stored as found, and a missing one is stored as `None`. -/
def fromDictValue (lookup : PyValue → ClassType → Except PyError (Option (PyValue × Except PyError PyValue)))
    (name : String) (classType : ClassType) : Except PyError PyValue := do
  let first ← lookup (.str name.toList) classType
  let found ← if ((first.map Prod.fst).getD PyValue.none).truthy then pure first
    else lookup (.bytes (utf8Encode name.toList)) classType
  match found with
  | none => pure .none
  | some (raw, decoded) => if raw.truthy then decoded else pure raw

/-- The field loop of `from_dict`, setting each field's attribute to `fromDictValue`; the
attributes set before a field that raises stay set. -/
def fromDictLoop (lookup : PyValue → ClassType → Except PyError (Option (PyValue × Except PyError PyValue))) :
    List (String × ClassType) → List (String × PyValue) → EStateM.Result PyError (List (String × PyValue)) Unit
  | [], attrs => .ok () attrs
  | (name, classType) :: fields, attrs =>
    match fromDictValue lookup name classType with
    | .error e => .error e attrs
    | .ok value => fromDictLoop lookup fields (Dict.set attrs name value)

/-- `input_dict.get` on a value without a `get` method. -/
def noGet (v : PyValue) : PyValue → ClassType → Except PyError (Option (PyValue × Except PyError PyValue)) :=
  fun _ _ => .error (.attributeError ("'" ++ v.typeName ++ "' object has no attribute 'get'"))

mutual

/-- `Structure._decode(value, class_type)`. -/
def decode (v : PyValue) (classType : ClassType) : Except PyError PyValue :=
  match classType.peel with
  | .error e => .error e
  | .ok (current, rest) =>
    match current, v with
    | .list, .list xs => .list <$> decodeElems xs rest
    | .list, v => decodeIterable rest v
    | .dict, .dict entries =>
      .dict <$> decodeEntries entries (rest.unwrap.getItem 0) (rest.unwrap.getItem 1) []
    | .dict, v => .error (.attributeError ("'" ++ v.typeName ++ "' object has no attribute 'items'"))
    | .structure name fields, .dict entries => do
      let attrs ← initFields fields []
      match fromDictLoop (fun key ct => .ok (lookupDecode entries key ct)) fields attrs with
      | .ok () attrs => .ok (.struct name fields attrs)
      | .error e _ => .error e
    | .structure name fields, v => do
      let attrs ← initFields fields []
      match fromDictLoop (noGet v) fields attrs with
      | .ok () attrs => .ok (.struct name fields attrs)
      | .error e _ => .error e
    | .bytearray, v => toBytearray v
    | _, v => .ok v

/-- The element loop of the list branch. -/
def decodeElems : List PyValue → ClassType → Except PyError (List PyValue)
  | [], _ => .ok []
  | x :: xs, classType => do
    let r ← decode x classType
    let rs ← decodeElems xs classType
    pure (r :: rs)

/-- The entry loop of the dict branch, building `new_dict`. -/
def decodeEntries : List (PyValue × PyValue) → Except PyError ClassType → Except PyError ClassType →
    List (PyValue × PyValue) → Except PyError (List (PyValue × PyValue))
  | [], _, _, newDict => .ok newDict
  | (key, val) :: entries, keyType, valType, newDict => do
    let k ← decode key (← keyType)
    let v ← decode val (← valType)
    let newDict ← PyDict.setItem newDict k v
    decodeEntries entries keyType valType newDict

/-- `input_dict.get(key)`, with the decoding of the value found. -/
def lookupDecode : List (PyValue × PyValue) → PyValue → ClassType → Option (PyValue × Except PyError PyValue)
  | [], _, _ => none
  | (k, v) :: entries, key, classType =>
    if k.keyEq key then some (v, decode v classType) else lookupDecode entries key classType

end

/-- `input_dict.get` as `from_dict` calls it, with the decoding of the value found. -/
def inputDictGet : PyValue → PyValue → ClassType → Except PyError (Option (PyValue × Except PyError PyValue))
  | .dict entries => fun key ct => .ok (lookupDecode entries key ct)
  | v => noGet v

/-- `Structure.from_dict(input_dict)` on an instance: the instance after the call. -/
def Structure.fromDict (self input : PyValue) : EStateM.Result PyError PyValue Unit :=
  match self with
  | .struct cls fields attrs =>
    match fromDictLoop (inputDictGet input) fields attrs with
    | .ok () attrs => .ok () (.struct cls fields attrs)
    | .error e attrs => .error e (.struct cls fields attrs)
  | v => .error (.attributeError ("'" ++ v.typeName ++ "' object has no attribute 'from_dict'")) v

/-! ## Bytes -/

variable {β : Type}

/-- `Serializable.to_bytes()` of an instance: `to_dict()` packed, and the instance after
the call. -/
def Structure.toBytes (codec : Codec β) (v : PyValue) : EStateM.Result PyError PyValue β :=
  match Structure.toDict v with
  | .ok d v =>
    match packb d with
    | .ok o => .ok (codec.pack o) v
    | .error e => .error e v
  | .error e v => .error e v

/-- `cls.from_bytes(encoded_bytes)` for the structure class `name` with `fields`: a fresh
instance, then `from_dict` of the first unpacked object. -/
def Structure.fromBytes (codec : Codec β) (name : String) (fields : List (String × ClassType))
    (encoded : β) : Except PyError PyValue := do
  let inst ← ClassType.default (.structure name fields)
  let obj ← codec.unpack encoded >>= unpackb
  match Structure.fromDict inst obj with
  | .ok () inst => .ok inst
  | .error e _ => .error e

/-- `self == other` between two instances: their `to_bytes()` compared, and the two
instances after the calls. -/
def Structure.eq [DecidableEq β] (codec : Codec β) (v w : PyValue) :
    EStateM.Result PyError (PyValue × PyValue) Bool :=
  match Structure.toBytes codec v with
  | .error e v => .error e (v, w)
  | .ok b v =>
    match Structure.toBytes codec w with
    | .error e w => .error e (v, w)
    | .ok b' w => .ok (decide (b = b')) (v, w)

end SensCord
