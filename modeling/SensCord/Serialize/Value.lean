import SensCord.Utf8

/-!
# SensCord.Serialize.Value

The Python values that `serialize.py` reads and writes, and the descriptors a structure
declares its fields with.

A descriptor (`class_type`) is a class, an `Array` instance, a tuple of descriptors, or
`None`.  The classes are the builtin containers, the value wrappers of `serialize.py`
(`Int8` … `Uint64` are `Integer`, `Double` is `Float`: subclasses that change nothing
here), and the `CEnum` and `Structure` subclasses a schema defines.  A structure class is
its name and its `_fields_`; an `Array` instance is its element class and its dimensions,
from which `Array.__init__` computes everything else.

A value is a tree: the model follows what each call reads and returns, and where a call
changes its argument in place it returns the changed argument as well.  Objects are not
shared, so a change made through one field is never seen through another.  A float is
its IEEE-754 bit pattern, and a `Structure` instance is its class and its attributes.
-/

namespace SensCord

/-- A field descriptor, `class_type`. -/
inductive ClassType where
  | list
  | dict
  | bytearray
  | integer
  | float
  | bool
  | string
  | cenum (name : String)
  | structure (name : String) (fields : List (String × ClassType))
  | array (classType : ClassType) (dims : List Nat)
  | tuple (items : List ClassType)
  | none
  deriving Repr, Inhabited

/-- A Python value. -/
inductive PyValue where
  | none
  | bool (b : Bool)
  | int (n : Int)
  | float (bits : UInt64)
  | str (s : List Char)
  | bytes (bs : List UInt8)
  | bytearray (bs : List UInt8)
  | list (xs : List PyValue)
  | dict (entries : List (PyValue × PyValue))
  | enum (cls : String) (value : Int)
  | struct (cls : String) (fields : List (String × ClassType)) (attrs : List (String × PyValue))
  deriving Repr, Inhabited

namespace ClassType

/-- `isinstance(class_type, type)`: a class, not an `Array` instance, a tuple or `None`. -/
def isType : ClassType → Bool
  | .array .. | .tuple _ | .none => false
  | _ => true

/-- `bool(class_type)`. -/
def truthy : ClassType → Bool
  | .none | .tuple [] => false
  | _ => true

/-- The head and the rest of a descriptor, as `_encode` and `_decode` take it apart: a
tuple gives `class_type[0]` and `class_type[1:]`, anything else itself and `None`. -/
def peel : ClassType → Except PyError (ClassType × ClassType)
  | .tuple [] => .error (.indexError "tuple index out of range")
  | .tuple (c :: rest) => .ok (c, .tuple rest)
  | c => .ok (c, .none)

/-- `class_type[i]`.  Subscripting the `list` or `dict` class makes a generic alias in
Python; the model raises for every class. -/
def getItem : ClassType → Nat → Except PyError ClassType
  | .tuple items, i =>
    match items.get? i with
    | some c => .ok c
    | Option.none => .error (.indexError "tuple index out of range")
  | .none, _ => .error (.typeError "'NoneType' object is not subscriptable")
  | .array .., _ => .error (.typeError "'Array' object is not subscriptable")
  | .structure .., _ => .error (.typeError "'StructureMeta' object is not subscriptable")
  | .cenum _, _ => .error (.typeError "'CEnumMeta' object is not subscriptable")
  | _, _ => .error (.typeError "'type' object is not subscriptable")

/-- The descriptor of a dict's keys and values, `(K, V)`, unwrapped from a one-element
tuple as the dict branches do. -/
def unwrap : ClassType → ClassType
  | .tuple [c] => c
  | c => c

end ClassType

namespace PyValue

/-- `type(value).__name__`. -/
def typeName : PyValue → String
  | .none => "NoneType"
  | .bool _ => "bool"
  | .int _ => "int"
  | .float _ => "float"
  | .str _ => "str"
  | .bytes _ => "bytes"
  | .bytearray _ => "bytearray"
  | .list _ => "list"
  | .dict _ => "dict"
  | .enum cls _ => cls
  | .struct cls .. => cls

/-- A float is zero when all but its sign bit are clear. -/
def floatIsZero (bits : UInt64) : Bool := bits.toNat % 2 ^ 63 = 0

/-- A float is a NaN when its exponent is all ones and its mantissa is not zero. -/
def floatIsNaN (bits : UInt64) : Bool := bits.toNat / 2 ^ 52 % 2 ^ 11 = 2047 ∧ bits.toNat % 2 ^ 52 ≠ 0

/-- The integer a finite float equals, if it is integral. -/
def floatToInt? (bits : UInt64) : Option Int :=
  let n := bits.toNat
  let e := n / 2 ^ 52 % 2 ^ 11
  let sig : Nat := 2 ^ 52 + n % 2 ^ 52
  let sign : Int := if n / 2 ^ 63 = 1 then -1 else 1
  if e = 0 then (if n % 2 ^ 52 = 0 then some 0 else Option.none)
  else if e = 2047 then Option.none
  else if 1075 ≤ e then some (sign * (sig * 2 ^ (e - 1075) : Nat))
  else if sig % 2 ^ (1075 - e) = 0 then some (sign * (sig / 2 ^ (1075 - e) : Nat)) else Option.none

/-- The number an `int`, a `bool`, an integral float or a `CEnum` compares equal to; a
`CEnum` compares and hashes as `int(self)`. -/
def toInt? : PyValue → Option Int
  | .bool b => some (if b then 1 else 0)
  | .int n => some n
  | .float bits => floatToInt? bits
  | .enum _ n => some n
  | _ => Option.none

/-- Whether two hashable values are one `dict` key: equal hashes and `a == b`.  Numbers,
`bool`s and `CEnum`s compare by their integer value, so `CEnum` members are the key of
their `int`; a `CEnum` and a `str` are two keys, their hashes differing. -/
def keyEq : PyValue → PyValue → Bool
  | .none, .none => true
  | .str a, .str b => a == b
  | .bytes a, .bytes b => a == b
  | .float a, .float b => !floatIsNaN a && !floatIsNaN b && (a == b || floatIsZero a && floatIsZero b)
  | a, b =>
    match a.toInt?, b.toInt? with
    | some x, some y => x == y
    | _, _ => false

/-- Whether the value can be a `dict` key: `None`, numbers, `str`, `bytes`, and a `CEnum`,
whose `__hash__` is `hash(int(self))`.  A `Structure` defines `__eq__` without `__hash__`
and is unhashable, as are `bytearray`, `list` and `dict`. -/
def hashable : PyValue → Bool
  | .none | .bool _ | .int _ | .float _ | .str _ | .bytes _ | .enum .. => true
  | _ => false

/-- `bool(value)`.  A `CEnum` is a `c_int`, true when its value is not zero; a
`Structure` instance is always true. -/
def truthy : PyValue → Bool
  | .none => false
  | .bool b => b
  | .int n => n != 0
  | .float bits => !floatIsZero bits
  | .str s => !s.isEmpty
  | .bytes bs => !bs.isEmpty
  | .bytearray bs => !bs.isEmpty
  | .list xs => !xs.isEmpty
  | .dict entries => !entries.isEmpty
  | .enum _ n => n != 0
  | .struct .. => true

end PyValue

/-! ## `dict` with Python keys -/

namespace PyDict

/-- `d[k] = v`: a new key goes to the end, an equal key keeps its place. -/
def setItem (d : List (PyValue × PyValue)) (k v : PyValue) : Except PyError (List (PyValue × PyValue)) :=
  if k.hashable then .ok (@Dict.set _ _ ⟨PyValue.keyEq⟩ d k v)
  else .error (.typeError ("unhashable type: '" ++ k.typeName ++ "'"))

/-- `d.get(k)` for a hashable `k`. -/
def get? (d : List (PyValue × PyValue)) (k : PyValue) : Option PyValue :=
  @Dict.get? _ _ ⟨PyValue.keyEq⟩ d k

/-- The keys of a dict are hashable and pairwise unequal, as the keys of a Python dict
are. -/
def Distinct (d : List (PyValue × PyValue)) : Prop :=
  (∀ e ∈ d, e.1.hashable) ∧ (d.map Prod.fst).Pairwise fun a b => a.keyEq b = false

theorem Distinct.of_append {d d' : List (PyValue × PyValue)} (h : Distinct (d ++ d')) :
    Distinct d :=
  ⟨fun e he => h.1 e (List.mem_append_left _ he),
    (List.pairwise_append.mp (List.map_append Prod.fst d d' ▸ h.2)).1⟩

/-- Whether a dict built entry by entry has distinct keys depends on its keys alone. -/
theorem distinct_map {α : Type} {l : List α} {f g : α → PyValue} :
    Distinct (l.map fun r => (f r, g r)) ↔
      (∀ r ∈ l, (f r).hashable) ∧ (l.map f).Pairwise fun a b => a.keyEq b = false := by
  simp [Distinct, List.map_map, Function.comp_def]

/-- Storing a key unequal to every key of a dict appends it. -/
theorem setItem_of_distinct {d : List (PyValue × PyValue)} {k v : PyValue}
    (h : Distinct (d ++ [(k, v)])) : setItem d k v = .ok (d ++ [(k, v)]) := by
  rw [setItem, if_pos (h.1 _ (List.mem_append_right _ (List.mem_singleton_self _))),
    @Dict.set_of_forall_ne _ _ ⟨PyValue.keyEq⟩]
  intro e he
  exact (List.pairwise_append.mp (List.map_append Prod.fst d _ ▸ h.2)).2.2 _
    (List.mem_map_of_mem _ he) k (List.mem_singleton_self _)

/-- A key equal to itself reads its entry in a dict of distinct keys. -/
theorem get?_of_mem {d : List (PyValue × PyValue)} {k v : PyValue} (hd : Distinct d)
    (hk : k.keyEq k = true) (h : (k, v) ∈ d) : get? d k = some v := by
  induction d with
  | nil => simp at h
  | cons e d ih =>
    obtain ⟨k', v'⟩ := e
    have hd' : Distinct d := ⟨fun e he => hd.1 e (List.mem_cons_of_mem _ he),
      (List.pairwise_cons.mp hd.2).2⟩
    rcases List.mem_cons.mp h with h | h
    · obtain ⟨rfl, rfl⟩ := Prod.mk.inj h
      simp [get?, Dict.get?, hk]
    · have hne : k'.keyEq k = false :=
        (List.pairwise_cons.mp hd.2).1 k (List.mem_map_of_mem Prod.fst h)
      have := ih hd' h
      simp only [get?, Dict.get?] at this ⊢
      simp [hne, this]

/-- A key unequal to every key of a dict reads nothing. -/
theorem get?_eq_none {d : List (PyValue × PyValue)} {k : PyValue}
    (h : ∀ e ∈ d, e.1.keyEq k = false) : get? d k = none := by
  induction d with
  | nil => rfl
  | cons e d ih =>
    have := ih fun e' he' => h e' (List.mem_cons_of_mem _ he')
    simp only [get?, Dict.get?] at this ⊢
    simp [h e (List.mem_cons_self _ _), this]

end PyDict

end SensCord
