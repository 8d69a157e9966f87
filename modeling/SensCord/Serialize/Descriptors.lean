import SensCord.Serialize.Loops

/-!
# SensCord.Serialize.Descriptors

What `Structure._encode` and `Structure._decode` do under each form of descriptor, and what
the list branch leaves behind.

`_encode` and `_decode` peel one item off a tuple descriptor and test the head with
`isinstance(current_class, type)`.  So:

* the **flat tuple style** `(list, D…)` is compositional: a list is encoded and decoded
  elementwise under the rest `(D…)`, and a one-item rest `(C,)` of a class `C` acts as `C`
  (`encode_list_eq_ok_iff`, `decode_list`, `encode_single`, `decode_single`);
* a **tuple nested as an item**, as in `(list, (list, S))`, is not a class: the list under
  it is returned as it is (`encode_tuple_head`, `decode_tuple_head`);
* an **`Array` instance** is not a class either: its value is returned as it is, whatever
  its leaves (`encode_array`, `decode_array`);
* the list branch **stores every encoding back** with `value[index] = …`, so a list is left
  holding its own encoding (`encode_list_post`).
-/

namespace SensCord

open List (Forall₂)

section ListBranch

variable {rest : List ClassType} {xs : List PyValue} {e v' : PyValue}

/-- Under `(list, D…)` a list encodes when its elements encode under `(D…)`, to the list of
their encodings, and is left holding them. -/
theorem encode_list_eq_ok_iff :
    encode (.list xs) (.tuple (.list :: rest)) = .ok e v' ↔
      ∃ es, e = .list es ∧ v' = .list es ∧
        Forall₂ (fun x e => ∃ x', encode x (.tuple rest) = .ok e x') xs es := by
  rw [encode_list]
  cases h : encodeElems xs (.tuple rest) with
  | ok rs rs' =>
    obtain ⟨h', hrs⟩ := encodeElems_eq_ok_iff.mp h
    subst rs'
    simp only [EStateM.Result.ok.injEq]
    constructor
    · rintro ⟨rfl, rfl⟩
      exact ⟨rs, rfl, rfl, hrs⟩
    · rintro ⟨es, rfl, rfl, hes⟩
      rw [encodeElems_eq_ok_iff.mpr ⟨rfl, hes⟩] at h
      cases h
      exact ⟨rfl, rfl⟩
  | error err xs' =>
    refine ⟨fun h' => (nomatch h'), fun ⟨es, _, _, hes⟩ => ?_⟩
    rw [encodeElems_eq_ok_iff.mpr ⟨rfl, hes⟩] at h
    cases h

/-- The list branch leaves the list it was given equal to its encoding: the caller's list
holds the encodings of its elements afterwards. -/
theorem encode_list_post (h : encode (.list xs) (.tuple (.list :: rest)) = .ok e v') : v' = e := by
  obtain ⟨es, rfl, rfl, -⟩ := encode_list_eq_ok_iff.mp h
  rfl

end ListBranch

section NotAClass

variable (xs : List PyValue)

/-- A tuple at the head of a descriptor is not a class: a list under it is kept. -/
theorem encode_tuple_head (items rest : List ClassType) :
    encode (.list xs) (.tuple (.tuple items :: rest)) = .ok (.list xs) (.list xs) := rfl

theorem decode_tuple_head (items rest : List ClassType) :
    decode (.list xs) (.tuple (.tuple items :: rest)) = .ok (.list xs) := rfl

/-- An `Array` instance is not a class: the list it describes is kept, leaves included. -/
theorem encode_array (c : ClassType) (dims : List Nat) :
    encode (.list xs) (.array c dims) = .ok (.list xs) (.list xs) := rfl

theorem decode_array (c : ClassType) (dims : List Nat) :
    decode (.list xs) (.array c dims) = .ok (.list xs) := rfl

end NotAClass

/-- The descriptor laws of `_encode` and `_decode`: the flat tuple style is compositional,
a one-item tuple of a class acts as the class, and a nested tuple item or an `Array`
instance leaves the list as it is. -/
theorem encode_decode_descriptor_laws :
    (∀ (rest : List ClassType) (xs : List PyValue) (e v' : PyValue),
      encode (.list xs) (.tuple (.list :: rest)) = .ok e v' ↔
        ∃ es, e = .list es ∧ v' = .list es ∧
          Forall₂ (fun x e => ∃ x', encode x (.tuple rest) = .ok e x') xs es) ∧
    (∀ (rest : List ClassType) (ys : List PyValue),
      decode (.list ys) (.tuple (.list :: rest)) = .list <$> ys.mapM (decode · (.tuple rest))) ∧
    (∀ c : ClassType, (∀ items, c ≠ .tuple items) → c ≠ .list → c ≠ .dict →
      ∀ v, encode v (.tuple [c]) = encode v c ∧ decode v (.tuple [c]) = decode v c) ∧
    (∀ (items rest : List ClassType) (xs : List PyValue),
      encode (.list xs) (.tuple (.tuple items :: rest)) = .ok (.list xs) (.list xs) ∧
        decode (.list xs) (.tuple (.tuple items :: rest)) = .ok (.list xs)) ∧
    (∀ (c : ClassType) (dims : List Nat) (xs : List PyValue),
      encode (.list xs) (.array c dims) = .ok (.list xs) (.list xs) ∧
        decode (.list xs) (.array c dims) = .ok (.list xs)) :=
  ⟨fun _ _ _ _ => encode_list_eq_ok_iff, fun rest ys => decode_list ys rest,
    fun _ hc hl hd v => ⟨encode_single hc hl hd v, decode_single hc hl hd v⟩,
    fun items rest xs => ⟨encode_tuple_head xs items rest, decode_tuple_head xs items rest⟩,
    fun c dims xs => ⟨encode_array xs c dims, decode_array xs c dims⟩⟩

theorem encode_decode_descriptor_laws_point :
    encode (.dict [(.bytes [120], .int 3)]) (.tuple [.structure "Point" [("x", .integer)]]) =
      encode (.dict [(.bytes [120], .int 3)]) (.structure "Point" [("x", .integer)]) ∧
    decode (.dict [(.bytes [120], .int 3)]) (.tuple [.structure "Point" [("x", .integer)]]) =
      decode (.dict [(.bytes [120], .int 3)]) (.structure "Point" [("x", .integer)]) :=
  encode_decode_descriptor_laws.2.2.1 (.structure "Point" [("x", .integer)])
    (fun _ h => nomatch h) (fun h => nomatch h) (fun h => nomatch h) _

/-- Under `(list, (list, Point))` the inner lists are kept, while `(list, Point)` encodes
the same inner list to maps; under `Array(Color, 1)` a member stays a member, while `Color`
encodes it to its `int`. -/
theorem encode_nested_descriptors :
    encode (.list [.list [.struct "Point" [("x", .integer)] [("x", .int 3)]]])
        (.tuple [.list, .tuple [.list, .structure "Point" [("x", .integer)]]]) =
      .ok (.list [.list [.struct "Point" [("x", .integer)] [("x", .int 3)]]])
        (.list [.list [.struct "Point" [("x", .integer)] [("x", .int 3)]]]) ∧
    encode (.list [.struct "Point" [("x", .integer)] [("x", .int 3)]])
        (.tuple [.list, .structure "Point" [("x", .integer)]]) =
      .ok (.list [.dict [(.str ['x'], .int 3)]]) (.list [.dict [(.str ['x'], .int 3)]]) ∧
    encode (.list [.enum "Color" 1]) (.array (.cenum "Color") [1]) =
      .ok (.list [.enum "Color" 1]) (.list [.enum "Color" 1]) ∧
    encode (.enum "Color" 1) (.cenum "Color") = .ok (.int 1) (.enum "Color" 1) :=
  ⟨rfl, rfl, rfl, rfl⟩

/-! ## The list branch changes the instance -/

/-- `to_bytes()` of a `Holder` whose `points` field, declared `(list, Point)`, holds one
`Point`: the bytes of `{"points": [{"x": 3}]}`, and the instance left with the `Point`
replaced by its dict in the caller's list. -/
theorem toBytes_rewrites_points {β : Type} (codec : Codec β) :
    Structure.toBytes codec
        (.struct "Holder" [("points", .tuple [.list, .structure "Point" [("x", .integer)]])]
          [("points", .list [.struct "Point" [("x", .integer)] [("x", .int 3)]])]) =
      .ok (codec.pack (.map [(.raw (utf8Encode "points".toList),
          .array [.map [(.raw (utf8Encode ['x']), .int 3)]])]))
        (.struct "Holder" [("points", .tuple [.list, .structure "Point" [("x", .integer)]])]
          [("points", .list [.dict [(.str ['x'], .int 3)]])]) := rfl

end SensCord
