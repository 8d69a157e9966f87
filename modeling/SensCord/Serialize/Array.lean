import SensCord.Serialize.Typed

/-!
# SensCord.Serialize.Array

`Array(class_type, *args)`: the value `Array.__init__` builds, and its `_class_type`.

```
v = class_type()                      # unwrapped from a MutableValue
for i in reversed(args):
    v = [copy.deepcopy(v) for _ in range(i)]
```

`reversed(args)` wraps the innermost dimension first, so the outermost list has `args[0]`
items: the value is a rectangular nested list of the shape `args` whose leaves are the
element class's default (`rectangular_nest`, `default_array`).  `Structure.__init__` calls
the `Array` instance, which returns a deep copy of itself, so a field declared with it
starts from that value (`initFields_get?`).  `_class_type` is `list` once per dimension,
then the element class (`arrayClassType_eq`).
-/

namespace SensCord

/-- `v` is a nested list of the shape `dims` whose leaves are all `leaf`: at depth `i` every
list has `dims[i]` items. -/
inductive Rectangular (leaf : PyValue) : List Nat → PyValue → Prop
  | leaf : Rectangular leaf [] leaf
  | list {n : Nat} {dims : List Nat} {xs : List PyValue} :
      xs.length = n → (∀ x ∈ xs, Rectangular leaf dims x) → Rectangular leaf (n :: dims) (.list xs)

/-- The nesting of `Array.__init__` has the shape of its dimensions. -/
theorem rectangular_nest (leaf : PyValue) (dims : List Nat) :
    Rectangular leaf dims (dims.reverse.foldl (fun v i => .list (List.replicate i v)) leaf) := by
  rw [List.foldl_reverse]
  induction dims with
  | nil => exact .leaf
  | cons n dims ih =>
    exact .list (List.length_replicate _ _) fun x hx => List.eq_of_mem_replicate hx ▸ ih

/-- `if not tmp_value: tmp_value = []` leaves a list as it is. -/
theorem ite_truthy_list (xs : List PyValue) :
    (if (PyValue.list xs).truthy then PyValue.list xs else .list []) = .list xs := by
  cases xs <;> rfl

/-! ## The value -/

section Value

variable {E : ClassType} {dims : List Nat}

/-- `Array(E, *dims)` with at least one dimension and a true element class raises what
`E()` raises, and otherwise holds `E()` nested in lists of the sizes `dims`. -/
theorem default_array (hE : E.truthy) (hdims : dims ≠ []) :
    (ClassType.array E dims).default =
      (fun d => dims.reverse.foldl (fun v i => .list (List.replicate i v)) d) <$> E.default := by
  obtain ⟨n, ds, rfl⟩ := List.exists_cons_of_ne_nil hdims
  simp only [ClassType.default, if_pos (And.intro hE hdims)]
  cases E.default with
  | error e => rfl
  | ok d =>
    simp only [Except.ok_bind, Except.pure_eq, Except.map_ok]
    rw [List.foldl_reverse, List.foldr_cons, ite_truthy_list]

/-- Without a dimension, or without a true element class, the value is `[]`. -/
theorem default_array_empty (h : ¬(E.truthy ∧ dims ≠ [])) :
    (ClassType.array E dims).default = .ok (.list []) := by
  simp only [ClassType.default, if_neg h]

/-- `_class_type` of an `Array` with at least one dimension and a true element class. -/
theorem arrayClassType_eq (hE : E.truthy) (hdims : dims ≠ []) :
    E.arrayClassType dims = .tuple (List.replicate dims.length .list ++ [E]) := by
  obtain ⟨n, ds, rfl⟩ := List.exists_cons_of_ne_nil hdims
  simp [ClassType.arrayClassType, hE]

end Value

/-! ## `Structure.__init__` -/

/-- One field of `Structure.__init__`: the field's class is called and the loop goes on with
the attribute set. -/
theorem initFields_cons_ok {name : String} {ct : ClassType} {fields : List (String × ClassType)}
    {attrs attrs' : List (String × PyValue)}
    (h : initFields ((name, ct) :: fields) attrs = .ok attrs') :
    ∃ d, ct.initClass.default = .ok d ∧ initFields fields (Dict.set attrs name d) = .ok attrs' := by
  by_cases hct : ct = .tuple []
  · subst hct
    cases h
  · rw [initFields_cons hct] at h
    cases hd : ct.initClass.default with
    | error e => rw [hd] at h; cases h
    | ok d => rw [hd] at h; exact ⟨d, rfl, h⟩

/-- `Structure.__init__` leaves alone an attribute no field names. -/
theorem get?_initFields_of_not_mem {name : String} :
    ∀ {fields : List (String × ClassType)} {attrs attrs' : List (String × PyValue)},
      name ∉ fields.map Prod.fst → initFields fields attrs = .ok attrs' →
        Dict.get? attrs' name = Dict.get? attrs name
  | [], _, _, _, h => by cases h; rfl
  | (n, _) :: fields, attrs, _, hn, h => by
    obtain ⟨d, -, h⟩ := initFields_cons_ok h
    simp only [List.map_cons, List.mem_cons, not_or] at hn
    rw [get?_initFields_of_not_mem hn.2 h, Dict.get?_set, if_neg (by simpa using Ne.symm hn.1)]

/-- `Structure.__init__` sets a field's attribute to its class's default, the last field of
a name winning. -/
theorem initFields_get? {name : String} {ct : ClassType} {post : List (String × ClassType)}
    (hpost : name ∉ post.map Prod.fst) :
    ∀ {pre : List (String × ClassType)} {attrs attrs' : List (String × PyValue)},
      initFields (pre ++ (name, ct) :: post) attrs = .ok attrs' →
        ∃ d, ct.initClass.default = .ok d ∧ Dict.get? attrs' name = some d
  | [], _, _, h => by
    obtain ⟨d, hd, h⟩ := initFields_cons_ok h
    refine ⟨d, hd, ?_⟩
    rw [get?_initFields_of_not_mem hpost h, Dict.get?_set, if_pos (beq_self_eq_true _)]
  | (_, _) :: _, _, _, h => by
    obtain ⟨_, -, h⟩ := initFields_cons_ok h
    exact initFields_get? hpost h

/-- `Array(E, n1, …, nk)` for a true element class `E` and `k ≥ 1` raises what `E()` raises;
otherwise its value, and the attribute `Structure.__init__` gives a field declared with
it, are rectangular nested lists of the shape `n1, …, nk` whose leaves are `E()`; and its
`_class_type` is `k` times `list`, then `E`. -/
theorem array_default_rectangular {E : ClassType} {dims : List Nat} (hE : E.truthy)
    (hdims : dims ≠ []) :
    (∀ e, E.default = .error e → (ClassType.array E dims).default = .error e) ∧
    (∀ d, E.default = .ok d →
      (∃ v, (ClassType.array E dims).default = .ok v ∧ Rectangular d dims v) ∧
      ∀ (name : String) (pre post : List (String × ClassType)) (attrs : List (String × PyValue)),
        name ∉ post.map Prod.fst →
          initFields (pre ++ (name, .array E dims) :: post) [] = .ok attrs →
            ∃ v, Dict.get? attrs name = some v ∧ Rectangular d dims v) ∧
    E.arrayClassType dims = .tuple (List.replicate dims.length .list ++ [E]) := by
  refine ⟨fun e he => by rw [default_array hE hdims, he]; rfl, fun d hd => ?_,
    arrayClassType_eq hE hdims⟩
  have hv : (ClassType.array E dims).default =
      .ok (dims.reverse.foldl (fun v i => .list (List.replicate i v)) d) := by
    rw [default_array hE hdims, hd]; rfl
  refine ⟨⟨_, hv, rectangular_nest d dims⟩, fun name pre post attrs hpost h => ?_⟩
  obtain ⟨v, hv', hget⟩ := initFields_get? hpost h
  rw [show (ClassType.array E dims).initClass = .array E dims from rfl, hv] at hv'
  cases hv'
  exact ⟨_, hget, rectangular_nest d dims⟩

theorem array_default_rectangular_color :
    ∃ v, (ClassType.array (.cenum "Color") [2, 3]).default = .ok v ∧
      Rectangular (.enum "Color" 0) [2, 3] v :=
  ((@array_default_rectangular (.cenum "Color") [2, 3] rfl (List.cons_ne_nil _ _)).2.1 _ rfl).1

end SensCord
