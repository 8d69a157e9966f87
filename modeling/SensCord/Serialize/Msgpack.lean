import SensCord.Serialize.Value

/-!
# SensCord.Serialize.Msgpack

msgpack as `serialize.py` calls it.  `Encoder._write` packs with
`msgpack.packb(value, use_bin_type=False)` and `decode`/`Decoder` unpack with `raw=True`
and `strict_map_key=False`.  The model splits each call in two.  The first half is the
exact Python side: which Python values have a wire form (`packb`), and which Python value
a wire object unpacks to (`unpackb`).  With `use_bin_type=False`, `str`, `bytes` and
`bytearray` all pack to the one raw type, a `str` as its UTF-8 bytes, and with `raw=True`
every raw object unpacks to `bytes`.  The second half, the byte format, is a lossless
codec (`Codec`): unpacking what was packed gives the wire object back.  The format's
length limits (`2³²` bytes or entries) and its nesting limit are not modelled.
-/

namespace SensCord

/-- A msgpack wire object. -/
inductive MsgObj where
  | nil
  | bool (b : Bool)
  | int (n : Int)
  | float (bits : UInt64)
  | raw (bs : List UInt8)
  | array (xs : List MsgObj)
  | map (entries : List (MsgObj × MsgObj))
  deriving Repr, Inhabited

namespace MsgObj

mutual

/-- Structural equality of wire objects. -/
def beq : MsgObj → MsgObj → Bool
  | .nil, .nil => true
  | .bool a, .bool b => a == b
  | .int a, .int b => a == b
  | .float a, .float b => a == b
  | .raw a, .raw b => a == b
  | .array xs, .array ys => beqList xs ys
  | .map xs, .map ys => beqEntries xs ys
  | _, _ => false

def beqList : List MsgObj → List MsgObj → Bool
  | [], [] => true
  | x :: xs, y :: ys => beq x y && beqList xs ys
  | _, _ => false

def beqEntries : List (MsgObj × MsgObj) → List (MsgObj × MsgObj) → Bool
  | [], [] => true
  | (k, v) :: xs, (k', v') :: ys => beq k k' && beq v v' && beqEntries xs ys
  | _, _ => false

end

/-! The catch-all arm of `beq` gives its equation lemmas side conditions, so the proofs below
let it compute: two kinds that differ compare `false` by `rfl`. -/

mutual

theorem beq_iff : ∀ a b : MsgObj, beq a b = true ↔ a = b
  | .nil, b => by
    cases b
    case nil => exact iff_of_true rfl rfl
    all_goals exact iff_of_false nofun nofun
  | .bool a, b => by
    cases b
    case bool b => rw [bool.injEq]; exact beq_iff_eq
    all_goals exact iff_of_false nofun nofun
  | .int a, b => by
    cases b
    case int b => rw [int.injEq]; exact beq_iff_eq
    all_goals exact iff_of_false nofun nofun
  | .float a, b => by
    cases b
    case float b => rw [float.injEq]; exact beq_iff_eq
    all_goals exact iff_of_false nofun nofun
  | .raw a, b => by
    cases b
    case raw b => rw [raw.injEq]; exact beq_iff_eq
    all_goals exact iff_of_false nofun nofun
  | .array xs, b => by
    cases b
    case array ys => rw [array.injEq]; exact beqList_iff xs ys
    all_goals exact iff_of_false nofun nofun
  | .map xs, b => by
    cases b
    case map ys => rw [map.injEq]; exact beqEntries_iff xs ys
    all_goals exact iff_of_false nofun nofun

theorem beqList_iff : ∀ xs ys : List MsgObj, beqList xs ys = true ↔ xs = ys
  | [], [] => iff_of_true rfl rfl
  | [], _ :: _ | _ :: _, [] => iff_of_false nofun nofun
  | x :: xs, y :: ys => by
    rw [List.cons_eq_cons, ← beq_iff x, ← beqList_iff xs]
    exact Bool.and_eq_true_iff

theorem beqEntries_iff : ∀ xs ys : List (MsgObj × MsgObj), beqEntries xs ys = true ↔ xs = ys
  | [], [] => iff_of_true rfl rfl
  | [], _ :: _ | _ :: _, [] => iff_of_false nofun nofun
  | (k, v) :: xs, (k', v') :: ys => by
    rw [List.cons_eq_cons, Prod.mk.injEq, ← beq_iff k, ← beq_iff v, ← beqEntries_iff xs]
    exact Bool.and_eq_true_iff.trans (and_congr_left' Bool.and_eq_true_iff)

end

instance : DecidableEq MsgObj := fun a b => decidable_of_iff _ (beq_iff a b)

end MsgObj

/-- The byte format: packing into byte strings `β` and unpacking them, without loss. -/
structure Codec (β : Type) where
  pack : MsgObj → β
  unpack : β → Except PyError MsgObj
  unpack_pack : ∀ o, unpack (pack o) = .ok o

/-- A lossless codec sends different wire objects as different byte strings. -/
theorem Codec.pack_inj {β : Type} (codec : Codec β) {o o' : MsgObj} :
    codec.pack o = codec.pack o' ↔ o = o' :=
  ⟨fun h => Except.ok.inj ((codec.unpack_pack o).symm.trans (h ▸ codec.unpack_pack o')),
    congrArg _⟩

/-- The byte strings are the wire objects themselves. -/
def Codec.wire : Codec MsgObj := ⟨id, .ok, fun _ => rfl⟩

/-- An `int` msgpack can pack: `-2⁶³ ≤ n < 2⁶⁴`. -/
def inInt64Range (n : Int) : Bool := -2 ^ 63 ≤ n ∧ n < 2 ^ 64

mutual

/-- `msgpack.packb(value, use_bin_type=False)`, up to the byte format. -/
def packb : PyValue → Except PyError MsgObj
  | .none => .ok .nil
  | .bool b => .ok (.bool b)
  | .int n => if inInt64Range n then .ok (.int n) else .error .overflowError
  | .float bits => .ok (.float bits)
  | .str s => .ok (.raw (utf8Encode s))
  | .bytes bs => .ok (.raw bs)
  | .bytearray bs => .ok (.raw bs)
  | .list xs => .array <$> packbList xs
  | .dict entries => .map <$> packbEntries entries
  | v => .error (.typeError ("can not serialize '" ++ v.typeName ++ "' object"))

def packbList : List PyValue → Except PyError (List MsgObj)
  | [] => .ok []
  | x :: xs => do
    let o ← packb x
    let os ← packbList xs
    pure (o :: os)

def packbEntries : List (PyValue × PyValue) → Except PyError (List (MsgObj × MsgObj))
  | [] => .ok []
  | (k, v) :: entries => do
    let ko ← packb k
    let vo ← packb v
    let os ← packbEntries entries
    pure ((ko, vo) :: os)

end

mutual

/-- `msgpack.unpackb(..., raw=True, strict_map_key=False)`, up to the byte format: a map
is built with `d[key] = value` in wire order. -/
def unpackb : MsgObj → Except PyError PyValue
  | .nil => .ok .none
  | .bool b => .ok (.bool b)
  | .int n => .ok (.int n)
  | .float bits => .ok (.float bits)
  | .raw bs => .ok (.bytes bs)
  | .array xs => .list <$> unpackbList xs
  | .map entries => .dict <$> unpackbEntries entries []

def unpackbList : List MsgObj → Except PyError (List PyValue)
  | [] => .ok []
  | x :: xs => do
    let v ← unpackb x
    let vs ← unpackbList xs
    pure (v :: vs)

def unpackbEntries : List (MsgObj × MsgObj) → List (PyValue × PyValue) →
    Except PyError (List (PyValue × PyValue))
  | [], d => .ok d
  | (k, v) :: entries, d => do
    let key ← unpackb k
    let val ← unpackb v
    let d ← PyDict.setItem d key val
    unpackbEntries entries d

end

end SensCord
