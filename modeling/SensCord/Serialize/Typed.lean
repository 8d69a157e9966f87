import SensCord.Serialize.Loops

/-!
# SensCord.Serialize.Typed

The values a structure's fields hold when they are well typed for the fields' descriptors:
`Typed ct v`.  The descriptors are the forms the repository's schemas use:

* a scalar class (`Integer` and its aliases, `Float`, `Bool`, `String`), holding an `int`
  in msgpack's range, a float, a `bool`, or text as `str` or `bytes`;
* a `CEnum` class, holding a member or, as decoding leaves it, its `int`;
* a structure class with pairwise distinct field names, holding an instance of exactly that
  class whose attributes are typed for the fields;
* an `Array` instance over a scalar class, holding lists of its scalars nested to any depth;
* `(list, D…)` in the code's flat tuple style, holding a list whose elements are typed for
  the descriptor after the head, `(D…)`; a one-item tuple `(C,)` of a class describes what
  `C` describes;
* `(dict, (K, V))` with a scalar or `CEnum` key class `K`, holding a dict whose keys are
  typed for `K`, read back pairwise unequal, and whose values are typed for `V`.

Every such descriptor has a default that `Structure.__init__` can build (`Typed.init_ok`).
-/

namespace SensCord

namespace ClassType

/-- The scalar classes: `Integer` and its aliases, `Float`, `Bool` and `String`. -/
def isScalar : ClassType → Bool
  | .integer | .float | .bool | .string => true
  | _ => false

/-- The classes a dict's keys may be declared with: a scalar class or a `CEnum`. -/
def isKey : ClassType → Bool
  | .cenum _ => true
  | c => c.isScalar

/-- The class `Structure.__init__` calls for a field: a tuple descriptor's first item. -/
def initClass : ClassType → ClassType
  | .tuple (c :: _) => c
  | c => c

end ClassType

/-- A value of a scalar class. -/
inductive Scalar : ClassType → PyValue → Prop
  | integer {n : Int} : inInt64Range n → Scalar .integer (.int n)
  | float (bits : UInt64) : Scalar .float (.float bits)
  | bool (b : Bool) : Scalar .bool (.bool b)
  | str (s : List Char) : Scalar .string (.str s)
  | bytes (bs : List UInt8) : Scalar .string (.bytes bs)

/-- The value of an `Array` over the class `c`: lists of its scalars, nested to any depth. -/
inductive Nested (c : ClassType) : PyValue → Prop
  | leaf {v : PyValue} : Scalar c v → Nested c v
  | list {xs : List PyValue} : (∀ x ∈ xs, Nested c x) → Nested c (.list xs)

/-- A dict key as `from_bytes` reads it back: encoded under the key class, packed, and
unpacked. -/
def readBackKey (keyType : ClassType) (key : PyValue) : Option PyValue :=
  match encode key keyType with
  | .ok e _ => (packb e >>= unpackb).toOption
  | .error .. => none

/-- The keys of a dict stay pairwise distinct after encoding: they read back pairwise
unequal. -/
def DistinctKeys (keyType : ClassType) (entries : List (PyValue × PyValue)) : Prop :=
  (entries.filterMap fun e => readBackKey keyType e.1).Pairwise fun a b => a.keyEq b = false

/-- `v` is well typed for the descriptor `ct`. -/
inductive Typed : ClassType → PyValue → Prop
  | scalar {c : ClassType} {v : PyValue} : Scalar c v → Typed c v
  | enum {name : String} {n : Int} : inInt64Range n → Typed (.cenum name) (.enum name n)
  | enumInt {name : String} {n : Int} : inInt64Range n → Typed (.cenum name) (.int n)
  | struct {name : String} {fields : List (String × ClassType)} {attrs : List (String × PyValue)} :
      (fields.map Prod.fst).Nodup →
      (∀ f ∈ fields, (Dict.get? attrs f.1).isSome) →
      (∀ f ∈ fields, ∀ x, Dict.get? attrs f.1 = some x → Typed f.2 x) →
      Typed (.structure name fields) (.struct name fields attrs)
  | array {c : ClassType} {dims : List Nat} {v : PyValue} :
      c.isScalar → Nested c v → Typed (.array c dims) v
  | list {rest : List ClassType} {xs : List PyValue} :
      (∀ x ∈ xs, Typed (.tuple rest) x) → Typed (.tuple (.list :: rest)) (.list xs)
  | dict {k w : ClassType} {entries : List (PyValue × PyValue)} :
      k.isKey → (∀ e ∈ entries, Typed k e.1) → DistinctKeys k entries →
      (∀ e ∈ entries, Typed w e.2) → Typed (.tuple [.dict, .tuple [k, w]]) (.dict entries)
  | single {c : ClassType} {v : PyValue} :
      (∀ items, c ≠ .tuple items) → Typed c v → Typed (.tuple [c]) v

namespace Typed

/-- A typed value's descriptor is not the bare `list` or `dict` class. -/
theorem head_ne {c : ClassType} {v : PyValue} (h : Typed c v) : c ≠ .list ∧ c ≠ .dict := by
  cases h with
  | scalar h => cases h <;> simp
  | _ => simp

end Typed

/-! ## `Structure.__init__` -/

/-- `Structure.__init__` on a field whose descriptor is not the empty tuple calls its
class. -/
theorem initFields_cons {name : String} {ct : ClassType} (hct : ct ≠ .tuple [])
    (fields : List (String × ClassType)) (attrs : List (String × PyValue)) :
    initFields ((name, ct) :: fields) attrs =
      ct.initClass.default >>= fun value => initFields fields (Dict.set attrs name value) := by
  cases ct with
  | tuple items => cases items with
    | nil => exact absurd rfl hct
    | cons c items => rfl
  | _ => rfl

/-- `Structure.__init__` returns when every field's class can be called. -/
theorem initFields_ok {fields : List (String × ClassType)}
    (h : ∀ f ∈ fields, f.2 ≠ .tuple [] ∧ ∃ d, f.2.initClass.default = .ok d) :
    ∀ attrs, ∃ attrs', initFields fields attrs = .ok attrs' := by
  induction fields with
  | nil => exact fun attrs => ⟨attrs, rfl⟩
  | cons f fields ih =>
    intro attrs
    obtain ⟨hne, d, hd⟩ := h f (List.mem_cons_self _ _)
    rw [initFields_cons hne, hd, Except.ok_bind]
    exact ih (fun g hg => h g (List.mem_cons_of_mem _ hg)) _

/-- The default of a scalar class. -/
theorem default_of_isScalar {c : ClassType} (hc : c.isScalar) : ∃ d, c.default = .ok d := by
  cases c <;> simp_all [ClassType.isScalar, ClassType.default]

/-- A descriptor that some value is typed for has a default `Structure.__init__` can build. -/
theorem Typed.init_ok {ct : ClassType} {v : PyValue} (h : Typed ct v) :
    ct ≠ .tuple [] ∧ ∃ d, ct.initClass.default = .ok d := by
  induction h with
  | scalar h => cases h <;> exact ⟨by simp, _, rfl⟩
  | enum _ | enumInt _ => exact ⟨by simp, _, rfl⟩
  | @struct name fields attrs _ hsome _ ih =>
    obtain ⟨attrs', h⟩ := @initFields_ok fields (fun f hf => by
      obtain ⟨x, hx⟩ := Option.isSome_iff_exists.mp (hsome f hf)
      exact ih f hf x hx) []
    exact ⟨by simp, .struct name fields attrs', by simp [ClassType.initClass, ClassType.default, h]⟩
  | @array c dims _ hc _ =>
    obtain ⟨d, hd⟩ := default_of_isScalar hc
    refine ⟨by simp, ?_⟩
    simp only [ClassType.initClass, ClassType.default]
    split_ifs <;> simp [hd]
  | list _ _ | dict _ _ _ _ _ _ => exact ⟨by simp, _, rfl⟩
  | @single c _ hc _ ih =>
    refine ⟨by simp, ?_⟩
    obtain ⟨-, d, hd⟩ := ih
    cases c <;> first | exact ⟨d, hd⟩ | exact absurd rfl (hc _)

end SensCord
