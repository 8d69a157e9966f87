import SensCord.Serialize.RoundTrip

/-!
# SensCord.Serialize.Equality

`Serializable.__eq__` compares `to_bytes()`.  Between two instances typed for one
structure class this is the structural comparison `SameValue` (`eq_iff_sameValue`):

* a scalar compares as msgpack sends it: text as its UTF-8 bytes, a float as its bit
  pattern;
* a `CEnum` member compares as its `int`;
* lists, and the nested lists of an `Array`, compare elementwise in order;
* a dict compares **entry by entry in insertion order**: `_encode` builds the new dict in
  the order of `items()` and msgpack writes a map in its order, so two dicts holding one
  map in different orders are unequal;
* an instance compares field by field.

The proof goes through `wireOf`, the wire object `to_bytes` sends a value as.  One walker
lemma per descriptor form computes it from the wire objects of the parts, and two wire
objects built by one walker are equal exactly when the parts' are, pairwise
(`eq_iff_of_forall₂`).
-/

namespace SensCord

open List (Forall₂)

/-! ## Lists of images -/

section Images

variable {α β : Type} {f g : α → Option β}

/-- Elements that all have images have a list of images. -/
theorem exists_forall₂_some {l : List α} (h : ∀ x ∈ l, ∃ o, f x = some o) :
    ∃ os, Forall₂ (fun x o => f x = some o) l os :=
  (exists_forall₂ fun x hx => (h x hx).imp fun _ ho => ⟨ho, trivial⟩).imp fun _ h => h.1

/-- Two lists of images are equal exactly when the lists have one length and their
elements' images agree pairwise. -/
theorem eq_iff_of_forall₂ {xs ys : List α} {os os' : List β}
    (hx : Forall₂ (fun x o => f x = some o) xs os) (hy : Forall₂ (fun y o => g y = some o) ys os') :
    os = os' ↔ xs.length = ys.length ∧ ∀ p ∈ xs.zip ys, f p.1 = g p.2 := by
  induction hx generalizing ys os' with
  | nil => cases hy <;> simp
  | cons hxo _ ih =>
    cases hy with
    | nil => simp
    | cons hyo hys =>
      simp only [List.cons.injEq, List.length_cons, Nat.add_right_cancel_iff, List.zip_cons_cons,
        List.forall_mem_cons, hxo, hyo, Option.some.injEq, ih hys]
      exact and_left_comm

/-- Two lists of images of one list are equal exactly when the images agree. -/
theorem eq_iff_of_forall₂_same {l : List α} {os os' : List β}
    (hx : Forall₂ (fun x o => f x = some o) l os) (hy : Forall₂ (fun x o => g x = some o) l os') :
    os = os' ↔ ∀ x ∈ l, f x = g x := by
  induction hx generalizing os' with
  | nil => cases hy; simp
  | cons hxo _ ih =>
    cases hy with
    | cons hyo hys =>
      simp only [List.cons.injEq, List.forall_mem_cons, hxo, hyo, Option.some.injEq, ih hys]

end Images

theorem Except.toOption_eq_some {ε α : Type} {x : Except ε α} {a : α} :
    x.toOption = some a ↔ x = .ok a := by
  cases x <;> simp [Except.toOption]

/-! ## Structural equality -/

/-- Structural equality of two values under the descriptor `ct`: scalars equal as msgpack
reads them back, `CEnum` members by their `int`, structures field by field, lists and
arrays element by element, and dicts entry by entry in insertion order. -/
inductive SameValue : ClassType → PyValue → PyValue → Prop
  | scalar {c : ClassType} {v u : PyValue} :
      Scalar c v → Scalar c u → v.readBack = u.readBack → SameValue c v u
  | cenum {name : String} {v u : PyValue} : v.keyImage = u.keyImage → SameValue (.cenum name) v u
  | struct {name : String} {fields : List (String × ClassType)} {a b : List (String × PyValue)} :
      (∀ f ∈ fields, ∀ x y, Dict.get? a f.1 = some x → Dict.get? b f.1 = some y →
        SameValue f.2 x y) →
      SameValue (.structure name fields) (.struct name fields a) (.struct name fields b)
  | arrayLeaf {c : ClassType} {dims : List Nat} {v u : PyValue} :
      Scalar c v → Scalar c u → v.readBack = u.readBack → SameValue (.array c dims) v u
  | arrayList {c : ClassType} {dims : List Nat} {xs ys : List PyValue} :
      xs.length = ys.length → (∀ p ∈ xs.zip ys, SameValue (.array c dims) p.1 p.2) →
      SameValue (.array c dims) (.list xs) (.list ys)
  | list {rest : List ClassType} {xs ys : List PyValue} :
      xs.length = ys.length → (∀ p ∈ xs.zip ys, SameValue (.tuple rest) p.1 p.2) →
      SameValue (.tuple (.list :: rest)) (.list xs) (.list ys)
  | dict {k w : ClassType} {es fs : List (PyValue × PyValue)} :
      es.length = fs.length → (∀ p ∈ es.zip fs, SameValue k p.1.1 p.2.1) →
      (∀ p ∈ es.zip fs, SameValue w p.1.2 p.2.2) →
      SameValue (.tuple [.dict, .tuple [k, w]]) (.dict es) (.dict fs)
  | single {c : ClassType} {v u : PyValue} :
      (∀ items, c ≠ .tuple items) → SameValue c v u → SameValue (.tuple [c]) v u

namespace SameValue

theorem scalar_iff {c : ClassType} {v u : PyValue} (hv : Scalar c v) :
    SameValue c v u ↔ Scalar c u ∧ v.readBack = u.readBack := by
  refine ⟨fun h => ?_, fun ⟨hu, h⟩ => .scalar hv hu h⟩
  cases hv <;> cases h <;> exact ⟨‹_›, ‹_›⟩

theorem cenum_iff {name : String} {v u : PyValue} :
    SameValue (.cenum name) v u ↔ v.keyImage = u.keyImage := by
  refine ⟨fun h => ?_, .cenum⟩
  cases h with
  | scalar h => cases h
  | cenum h => exact h

theorem struct_iff {name : String} {fields : List (String × ClassType)}
    {a b : List (String × PyValue)} :
    SameValue (.structure name fields) (.struct name fields a) (.struct name fields b) ↔
      ∀ f ∈ fields, ∀ x y, Dict.get? a f.1 = some x → Dict.get? b f.1 = some y →
        SameValue f.2 x y := by
  refine ⟨fun h => ?_, .struct⟩
  cases h with
  | scalar h => cases h
  | struct h => exact h

theorem arrayList_iff {c : ClassType} {dims : List Nat} {xs ys : List PyValue} :
    SameValue (.array c dims) (.list xs) (.list ys) ↔
      xs.length = ys.length ∧ ∀ p ∈ xs.zip ys, SameValue (.array c dims) p.1 p.2 := by
  refine ⟨fun h => ?_, fun ⟨hl, h⟩ => .arrayList hl h⟩
  cases h with
  | scalar h | arrayLeaf h => cases h
  | arrayList hl h => exact ⟨hl, h⟩

theorem list_iff {rest : List ClassType} {xs ys : List PyValue} :
    SameValue (.tuple (.list :: rest)) (.list xs) (.list ys) ↔
      xs.length = ys.length ∧ ∀ p ∈ xs.zip ys, SameValue (.tuple rest) p.1 p.2 := by
  refine ⟨fun h => ?_, fun ⟨hl, h⟩ => .list hl h⟩
  cases h with
  | scalar h => cases h
  | list hl h => exact ⟨hl, h⟩
  | single _ h => cases h with | scalar h => cases h

theorem dict_iff {k w : ClassType} {es fs : List (PyValue × PyValue)} :
    SameValue (.tuple [.dict, .tuple [k, w]]) (.dict es) (.dict fs) ↔
      es.length = fs.length ∧
        ∀ p ∈ es.zip fs, SameValue k p.1.1 p.2.1 ∧ SameValue w p.1.2 p.2.2 := by
  refine ⟨fun h => ?_, fun ⟨hl, h⟩ => .dict hl (fun p hp => (h p hp).1) fun p hp => (h p hp).2⟩
  cases h with
  | scalar h => cases h
  | dict hl hk hw => exact ⟨hl, fun p hp => ⟨hk p hp, hw p hp⟩⟩

theorem single_iff {c : ClassType} {v u : PyValue} (hc : ∀ items, c ≠ .tuple items)
    (hl : c ≠ .list) : SameValue (.tuple [c]) v u ↔ SameValue c v u := by
  refine ⟨fun h => ?_, .single hc⟩
  cases h with
  | scalar h => cases h
  | list => exact absurd rfl hl
  | single _ h => exact h

end SameValue

/-! ## The wire object of a value -/

/-- The wire object `to_bytes` sends for `v` under the descriptor `ct`: `_encode`'s result
as msgpack packs it, when both succeed. -/
def wireOf (ct : ClassType) (v : PyValue) : Option MsgObj :=
  match encode v ct with
  | .ok e _ => (packb e).toOption
  | .error .. => none

theorem wireOf_eq_some {ct : ClassType} {v : PyValue} {o : MsgObj} :
    wireOf ct v = some o ↔ ∃ e v', encode v ct = .ok e v' ∧ packb e = .ok o := by
  unfold wireOf
  cases encode v ct with
  | ok e v' => simp [Except.toOption_eq_some]
  | error => simp

theorem HasPassage.wireOf_some {ct : ClassType} {v : PyValue} (h : HasPassage ct v) :
    ∃ o, wireOf ct v = some o :=
  let ⟨p, hp, hok⟩ := h
  ⟨p.wire, wireOf_eq_some.mpr ⟨_, _, hp, hok.packb_enc⟩⟩

theorem Typed.wireOf_some {ct : ClassType} {v : PyValue} (h : Typed ct v) :
    ∃ o, wireOf ct v = some o :=
  h.passage.wireOf_some

/-- The entry msgpack sends for a field of an instance: the field's name as raw bytes and
its attribute's wire object. -/
def fieldWire (attrs : List (String × PyValue)) (f : String × ClassType) :
    Option (MsgObj × MsgObj) :=
  ((Dict.get? attrs f.1).bind (wireOf f.2)).map (.raw (utf8Encode f.1.toList), ·)

/-- The entry msgpack sends for a dict entry: its key's and its value's wire objects. -/
def entryWire (k w : ClassType) (e : PyValue × PyValue) : Option (MsgObj × MsgObj) :=
  (wireOf k e.1).bind fun a => (wireOf w e.2).map (a, ·)

theorem entryWire_eq_some {k w : ClassType} {e : PyValue × PyValue} {o : MsgObj × MsgObj} :
    entryWire k w e = some o ↔ wireOf k e.1 = some o.1 ∧ wireOf w e.2 = some o.2 := by
  obtain ⟨a, b⟩ := o
  simp [entryWire, Option.bind_eq_some, Option.map_eq_some']

/-- Every field of a typed instance has its entry on the wire. -/
theorem exists_fieldWires {fields : List (String × ClassType)} {attrs : List (String × PyValue)}
    (hsome : ∀ f ∈ fields, (Dict.get? attrs f.1).isSome)
    (hty : ∀ f ∈ fields, ∀ x, Dict.get? attrs f.1 = some x → Typed f.2 x) :
    ∃ os, Forall₂ (fun f o => fieldWire attrs f = some o) fields os :=
  exists_forall₂_some fun f hf => by
    obtain ⟨x, hx⟩ := Option.isSome_iff_exists.mp (hsome f hf)
    obtain ⟨o, ho⟩ := (hty f hf x hx).wireOf_some
    exact ⟨_, by rw [fieldWire, hx, Option.some_bind, ho, Option.map_some']⟩

/-- Every entry of a typed dict has its pair on the wire. -/
theorem exists_entryWires {k w : ClassType} {es : List (PyValue × PyValue)}
    (hkeys : ∀ e ∈ es, Typed k e.1) (hvals : ∀ e ∈ es, Typed w e.2) :
    ∃ os, Forall₂ (fun e o => entryWire k w e = some o) es os :=
  exists_forall₂_some fun e he => by
    obtain ⟨a, ha⟩ := (hkeys e he).wireOf_some
    obtain ⟨b, hb⟩ := (hvals e he).wireOf_some
    exact ⟨(a, b), entryWire_eq_some.mpr ⟨ha, hb⟩⟩

/-! ## Atoms -/

section Atoms

variable {c : ClassType} {v u : PyValue}

theorem Scalar.wireOf_eq (h : Scalar c v) : wireOf c v = (packb v).toOption := by
  simp only [wireOf, h.encode_eq]

/-- msgpack sends two scalars of one class alike exactly when they read back alike. -/
theorem Scalar.packb_eq_iff (hv : Scalar c v) (hu : Scalar c u) :
    (packb v).toOption = (packb u).toOption ↔ v.readBack = u.readBack := by
  cases hv <;> cases hu <;> simp [packb, PyValue.readBack, Except.toOption, *]

theorem Scalar.packb_ne_array (h : Scalar c v) (os : List MsgObj) :
    (packb v).toOption ≠ some (.array os) := by
  cases h <;> simp [packb, Except.toOption, *]

/-- A value typed for a scalar class is a scalar of it. -/
theorem Scalar.of_typed (hv : Scalar c v) (hu : Typed c u) : Scalar c u := by
  cases hv <;> cases hu <;> assumption

theorem Typed.cenum_wire {name : String} (h : Typed (.cenum name) v) :
    ∃ n, v.keyImage = .int n ∧ wireOf (.cenum name) v = some (.int n) := by
  cases h with
  | scalar h => cases h
  | @enum _ n hn =>
    have he : encode (.enum name n) (.cenum name) = .ok (.int n) (.enum name n) := rfl
    exact ⟨n, rfl, by simp [wireOf, he, packb, hn, Except.toOption]⟩
  | @enumInt _ n hn =>
    have he : encode (.int n) (.cenum name) = .ok (.int n) (.int n) := rfl
    exact ⟨n, rfl, by simp [wireOf, he, packb, hn, Except.toOption]⟩

theorem Typed.cenum_wireOf_eq_iff {name : String} (hv : Typed (.cenum name) v)
    (hu : Typed (.cenum name) u) :
    wireOf (.cenum name) v = wireOf (.cenum name) u ↔ SameValue (.cenum name) v u := by
  obtain ⟨n, hvn, hv'⟩ := hv.cenum_wire
  obtain ⟨m, hum, hu'⟩ := hu.cenum_wire
  rw [hv', hu', SameValue.cenum_iff, hvn, hum]
  simp

theorem Nested.wireOf_eq {dims : List Nat} (h : Nested c v) :
    wireOf (.array c dims) v = (packb v).toOption := by
  simp only [wireOf, h.encode_eq]

theorem Nested.packb_some (h : Nested c v) : ∃ o, (packb v).toOption = some o :=
  let ⟨o, _, hp, _⟩ := h.wire
  ⟨o, Except.toOption_eq_some.mpr hp⟩

theorem packb_list_toOption {xs : List PyValue} {os : List MsgObj}
    (h : Forall₂ (fun x o => (packb x).toOption = some o) xs os) :
    (packb (.list xs)).toOption = some (.array os) := by
  rw [packb_list_of (h.imp fun _ _ => Except.toOption_eq_some.mp)]
  rfl

/-- msgpack sends two nested lists of scalars alike exactly when they are the same. -/
theorem Nested.packb_eq_iff {dims : List Nat} (hv : Nested c v) (hu : Nested c u) :
    (packb v).toOption = (packb u).toOption ↔ SameValue (.array c dims) v u := by
  induction hv generalizing u with
  | leaf hsv =>
    cases hu with
    | leaf hsu =>
      rw [hsv.packb_eq_iff hsu]
      refine ⟨.arrayLeaf hsv hsu, fun h => ?_⟩
      cases h with
      | scalar h => cases h
      | arrayLeaf _ _ h => exact h
      | arrayList => cases hsv
    | @list ys hys =>
      obtain ⟨os, hos⟩ := exists_forall₂_some fun y hy => (hys y hy).packb_some
      rw [packb_list_toOption hos]
      refine ⟨fun h => absurd h (hsv.packb_ne_array os), fun h => ?_⟩
      cases h with
      | scalar h => cases h
      | arrayLeaf _ h => cases h
      | arrayList => cases hsv
  | @list xs hxs ih =>
    obtain ⟨os, hos⟩ := exists_forall₂_some fun x hx => (hxs x hx).packb_some
    rw [packb_list_toOption hos]
    cases hu with
    | leaf hsu =>
      refine ⟨fun h => absurd h.symm (hsu.packb_ne_array os), fun h => ?_⟩
      cases h with
      | scalar h | arrayLeaf h => cases h
      | arrayList => cases hsu
    | @list ys hys =>
      obtain ⟨os', hos'⟩ := exists_forall₂_some fun y hy => (hys y hy).packb_some
      rw [packb_list_toOption hos', Option.some.injEq, MsgObj.array.injEq,
        eq_iff_of_forall₂ hos hos', SameValue.arrayList_iff]
      exact and_congr_right fun _ => forall₂_congr fun p hp =>
        ih p.1 (List.of_mem_zip hp).1 (hys p.2 (List.of_mem_zip hp).2)

end Atoms

/-! ## Walkers -/

/-- The wire object of a list under `(list, D…)`: the array of its elements'. -/
theorem wireOf_list_of {rest : List ClassType} {xs : List PyValue} {os : List MsgObj}
    (h : Forall₂ (fun x o => wireOf (.tuple rest) x = some o) xs os) :
    wireOf (.tuple (.list :: rest)) (.list xs) = some (.array os) := by
  have hx : Forall₂ (fun x o => ∃ e, (∃ x', encode x (.tuple rest) = .ok e x') ∧
      packb e = .ok o) xs os :=
    h.imp fun _ _ hx =>
      let ⟨e, x', he, hp⟩ := wireOf_eq_some.mp hx
      ⟨e, ⟨x', he⟩, hp⟩
  obtain ⟨es, hes, hos⟩ := forall₂_comp_iff.mpr hx
  simp only [wireOf, encode_list_of hes, packb_list_of hos]
  rfl

/-- The wire object of a dict with typed keys that read back pairwise unequal: the map of
its entries'. -/
theorem wireOf_dict_of {k w : ClassType} {entries : List (PyValue × PyValue)}
    {os : List (MsgObj × MsgObj)} (hk : k.isKey) (hkeys : ∀ e ∈ entries, Typed k e.1)
    (hd : DistinctKeys k entries) (h : Forall₂ (fun e o => entryWire k w e = some o) entries os) :
    wireOf (.tuple [.dict, .tuple [k, w]]) (.dict entries) = some (.map os) := by
  have hx : Forall₂ (fun e o => ∃ r : (PyValue × PyValue) × PyValue × PyValue,
      (r.1 = e ∧ encode e.2 w = .ok r.2.1 r.2.2) ∧
        (packb r.1.1.keyImage = .ok o.1 ∧ packb r.2.1 = .ok o.2)) entries os :=
    ((List.forall₂_and_left _ _).mpr ⟨hkeys, h⟩).imp fun e o ⟨hke, ho⟩ => by
      obtain ⟨hwk, hwv⟩ := entryWire_eq_some.mp ho
      obtain ⟨ev, pv, hev, hpv⟩ := wireOf_eq_some.mp hwv
      simp only [wireOf, (hke.keyFacts hk).encode_key, Except.toOption_eq_some] at hwk
      exact ⟨(e, ev, pv), ⟨rfl, hev⟩, hwk, hpv⟩
  obtain ⟨l, hl, hlo⟩ := forall₂_comp_iff.mpr hx
  have hfst : l.map Prod.fst = entries := by
    simpa using (@map_eq_map_of_forall₂ _ _ _ id Prod.fst _ _ (hl.imp fun _ _ h => h.1.symm)).symm
  have hmem {r} (hr : r ∈ l) : Typed k r.1.1 := hkeys _ (hfst ▸ List.mem_map_of_mem _ hr)
  have hdist : PyDict.Distinct (l.map fun r => (r.1.1.keyImage, r.2.1)) := by
    refine PyDict.distinct_map.mpr ⟨fun r hr => ((hmem hr).keyFacts hk).hashable_image, ?_⟩
    have := hd.keyImage hk hkeys
    rwa [← hfst, List.map_map] at this
  have henc := @encode_dict_of k w _ entries l (fun r => r.1.1.keyImage) (fun r => r.2.1)
    (fun r => r.1.1) (fun r => r.2.2)
    (((List.forall₂_and_left _ _).mpr ⟨hkeys, hl⟩).imp fun _ _ ⟨hke, hre, hv⟩ => by
      subst hre
      exact ⟨(hke.keyFacts hk).encode_key, hv⟩) hdist
  have hpack : packb (.dict (l.map fun r => (r.1.1.keyImage, r.2.1))) = .ok (.map os) :=
    packb_dict_of (List.forall₂_map_left_iff.mpr hlo)
  simp only [wireOf, henc, hpack]
  rfl

/-- The wire object of an instance with pairwise distinct field names: the map of its
fields'. -/
theorem wireOf_struct_of {name : String} {fields : List (String × ClassType)}
    {attrs : List (String × PyValue)} {os : List (MsgObj × MsgObj)}
    (hnd : (fields.map Prod.fst).Nodup) (h : Forall₂ (fun f o => fieldWire attrs f = some o) fields os) :
    wireOf (.structure name fields) (.struct name fields attrs) = some (.map os) := by
  have hx : Forall₂ (fun f o => ∃ t : (String × ClassType) × PyValue × PyValue,
      (t.1 = f ∧ encodeAttr attrs f.1 f.2 = some (.ok t.2.1 t.2.2)) ∧
        (o.1 = .raw (utf8Encode t.1.1.toList) ∧ packb t.2.1 = .ok o.2)) fields os :=
    h.imp fun f o ho => by
      simp only [fieldWire, Option.map_eq_some', Option.bind_eq_some] at ho
      obtain ⟨o₂, ⟨x, hx, hw⟩, rfl⟩ := ho
      obtain ⟨e, x', he, hp⟩ := wireOf_eq_some.mp hw
      exact ⟨(f, e, x'), ⟨rfl, by rw [encodeAttr_eq, hx, Option.map_some', he]⟩, rfl, hp⟩
  obtain ⟨ts, hts, hos⟩ := forall₂_comp_iff.mpr hx
  obtain rfl : fields = ts.map Prod.fst := by
    simpa using @map_eq_map_of_forall₂ _ _ _ id Prod.fst _ _ (hts.imp fun _ _ h => h.1.symm)
  have hnd' : (ts.map fun t => t.1.1).Nodup := by simpa [List.map_map, Function.comp_def] using hnd
  have henc := @encode_struct_of _ name name (ts.map Prod.fst) attrs ts Prod.fst (·.2.1) (·.2.2)
    (distinct_str hnd') fun t ht => (List.forall₂_same.mp (List.forall₂_map_left_iff.mp hts) t ht).2
  have hpack : packb (.dict (ts.map fun t => (.str t.1.1.toList, t.2.1))) = .ok (.map os) :=
    packb_dict_of (List.forall₂_map_left_iff.mpr (hos.imp fun _ _ h => ⟨by rw [h.1]; rfl, h.2⟩))
  simp only [wireOf, henc, hpack]
  rfl

theorem wireOf_single {c : ClassType} (hc : ∀ items, c ≠ .tuple items) (hl : c ≠ .list)
    (hd : c ≠ .dict) (v : PyValue) : wireOf (.tuple [c]) v = wireOf c v := by
  simp only [wireOf, encode_single hc hl hd]

/-! ## The wire objects of two typed values -/

/-- Two values typed for one descriptor are sent as one wire object exactly when they are
the same value. -/
theorem Typed.wireOf_eq_iff {ct : ClassType} {v u : PyValue} (hv : Typed ct v) (hu : Typed ct u) :
    wireOf ct v = wireOf ct u ↔ SameValue ct v u := by
  induction hv generalizing u with
  | scalar hsv =>
    have hsu := hsv.of_typed hu
    rw [hsv.wireOf_eq, hsu.wireOf_eq, hsv.packb_eq_iff hsu, SameValue.scalar_iff hsv]
    exact (and_iff_right hsu).symm
  | enum hn => exact Typed.cenum_wireOf_eq_iff (.enum hn) hu
  | enumInt hn => exact Typed.cenum_wireOf_eq_iff (.enumInt hn) hu
  | @struct name fields a hnd hsome hty ih =>
    cases hu with
    | scalar h => cases h
    | @struct _ _ b _ hsome' hty' =>
      obtain ⟨os, hos⟩ := exists_fieldWires hsome hty
      obtain ⟨os', hos'⟩ := exists_fieldWires hsome' hty'
      rw [wireOf_struct_of hnd hos, wireOf_struct_of hnd hos', Option.some.injEq,
        MsgObj.map.injEq, eq_iff_of_forall₂_same hos hos', SameValue.struct_iff]
      refine forall₂_congr fun f hf => ?_
      obtain ⟨x, hx⟩ := Option.isSome_iff_exists.mp (hsome f hf)
      obtain ⟨y, hy⟩ := Option.isSome_iff_exists.mp (hsome' f hf)
      rw [fieldWire, fieldWire, hx, hy, Option.some_bind, Option.some_bind,
        (Option.map_injective (Prod.mk.inj_left _)).eq_iff, ih f hf x hx (hty' f hf y hy)]
      exact ⟨fun h x' y' hx' hy' => Option.some.inj hx' ▸ Option.some.inj hy' ▸ h,
        fun h => h x y rfl rfl⟩
  | array _ hn =>
    cases hu with
    | scalar h => cases h
    | array _ hn' => rw [hn.wireOf_eq, hn'.wireOf_eq]; exact hn.packb_eq_iff hn'
  | @list rest xs hxs ih =>
    cases hu with
    | scalar h => cases h
    | @list _ ys hys =>
      obtain ⟨os, hos⟩ := exists_forall₂_some fun x hx => (hxs x hx).wireOf_some
      obtain ⟨os', hos'⟩ := exists_forall₂_some fun y hy => (hys y hy).wireOf_some
      rw [wireOf_list_of hos, wireOf_list_of hos', Option.some.injEq, MsgObj.array.injEq,
        eq_iff_of_forall₂ hos hos', SameValue.list_iff]
      exact and_congr_right fun _ => forall₂_congr fun p hp =>
        ih p.1 (List.of_mem_zip hp).1 (hys p.2 (List.of_mem_zip hp).2)
    | single _ hty => exact absurd rfl hty.head_ne.1
  | @dict k w es hk hkeys hd hvals ihk ihv =>
    cases hu with
    | scalar h => cases h
    | @dict _ _ fs _ hkeys' hd' hvals' =>
      obtain ⟨os, hos⟩ := exists_entryWires hkeys hvals
      obtain ⟨os', hos'⟩ := exists_entryWires hkeys' hvals'
      rw [wireOf_dict_of hk hkeys hd hos, wireOf_dict_of hk hkeys' hd' hos', Option.some.injEq,
        MsgObj.map.injEq, eq_iff_of_forall₂ hos hos', SameValue.dict_iff]
      refine and_congr_right fun _ => forall₂_congr fun p hp => ?_
      obtain ⟨he, hf⟩ := List.of_mem_zip hp
      obtain ⟨a, ha⟩ := (hkeys p.1 he).wireOf_some
      obtain ⟨b, hb⟩ := (hvals p.1 he).wireOf_some
      obtain ⟨a', ha'⟩ := (hkeys' p.2 hf).wireOf_some
      obtain ⟨b', hb'⟩ := (hvals' p.2 hf).wireOf_some
      rw [← ihk p.1 he (hkeys' p.2 hf), ← ihv p.1 he (hvals' p.2 hf), ha, hb, ha', hb']
      simp [entryWire, ha, hb, ha', hb']
  | @single c v hc hty ih =>
    have hl := hty.head_ne
    cases hu with
    | scalar h => cases h
    | list _ => exact absurd rfl hl.1
    | single _ hty' =>
      rw [wireOf_single hc hl.1 hl.2, wireOf_single hc hl.1 hl.2, SameValue.single_iff hc hl.1]
      exact ih hty'

/-! ## `__eq__` -/

/-- A value typed for a structure class is an instance of it. -/
theorem Typed.struct_inv {name : String} {fields : List (String × ClassType)} {v : PyValue}
    (h : Typed (.structure name fields) v) : ∃ a, v = .struct name fields a := by
  cases h with
  | scalar h => cases h
  | struct => exact ⟨_, rfl⟩

/-- `to_bytes()` of a typed instance is its wire object packed. -/
theorem Typed.toBytes_eq {β : Type} (codec : Codec β) {name : String}
    {fields : List (String × ClassType)} {v : PyValue} (h : Typed (.structure name fields) v) :
    ∃ o v', wireOf (.structure name fields) v = some o ∧
      Structure.toBytes codec v = .ok (codec.pack o) v' := by
  obtain ⟨p, hp, hok⟩ := h.passage
  obtain ⟨a, rfl⟩ := h.struct_inv
  exact ⟨p.wire, p.post, wireOf_eq_some.mpr ⟨_, _, hp, hok.packb_enc⟩,
    toBytes_of_encode codec hp hok.packb_enc⟩

/-- `v == u` between two instances typed for one structure class returns, and is true
exactly when they are the same value, field by field. -/
theorem eq_iff_sameValue {β : Type} [DecidableEq β] (codec : Codec β) {name : String}
    {fields : List (String × ClassType)} {v u : PyValue}
    (hv : Typed (.structure name fields) v) (hu : Typed (.structure name fields) u) :
    ∃ b v' u', Structure.eq codec v u = .ok b (v', u') ∧
      (b = true ↔ SameValue (.structure name fields) v u) := by
  obtain ⟨o, v', hov, hbv⟩ := hv.toBytes_eq codec
  obtain ⟨o', u', hou, hbu⟩ := hu.toBytes_eq codec
  refine ⟨decide (codec.pack o = codec.pack o'), v', u', by simp only [Structure.eq, hbv, hbu], ?_⟩
  rw [decide_eq_true_iff, codec.pack_inj, ← Option.some.injEq, ← hov, ← hou]
  exact hv.wireOf_eq_iff hu

/-- A `Table` whose one field `m` is declared `(dict, (Integer, Integer))`. -/
theorem typed_table {es : List (PyValue × PyValue)} (hkeys : ∀ e ∈ es, Typed .integer e.1)
    (hd : DistinctKeys .integer es) (hvals : ∀ e ∈ es, Typed .integer e.2) :
    Typed (.structure "Table" [("m", .tuple [.dict, .tuple [.integer, .integer]])])
      (.struct "Table" [("m", .tuple [.dict, .tuple [.integer, .integer]])] [("m", .dict es)]) :=
  .struct (by decide) (by simp [Dict.get?]) fun f hf x hx => by
    obtain rfl := List.mem_singleton.mp hf
    obtain rfl : x = .dict es := by simpa [Dict.get?] using hx.symm
    exact .dict rfl hkeys hd hvals

/-- The tables `{1: 1, 2: 2}` and `{2: 2, 1: 1}` are typed. -/
theorem typed_tables_swapped :
    Typed (.structure "Table" [("m", .tuple [.dict, .tuple [.integer, .integer]])])
        (.struct "Table" [("m", .tuple [.dict, .tuple [.integer, .integer]])]
          [("m", .dict [(.int 1, .int 1), (.int 2, .int 2)])]) ∧
      Typed (.structure "Table" [("m", .tuple [.dict, .tuple [.integer, .integer]])])
        (.struct "Table" [("m", .tuple [.dict, .tuple [.integer, .integer]])]
          [("m", .dict [(.int 2, .int 2), (.int 1, .int 1)])]) := by
  have h1 : Typed .integer (.int 1) := .scalar (.integer (by decide))
  have h2 : Typed .integer (.int 2) := .scalar (.integer (by decide))
  constructor <;> refine typed_table ?_ (by unfold DistinctKeys; decide) ?_ <;>
    simp only [List.mem_cons, List.mem_singleton, List.not_mem_nil, or_false] <;>
    rintro e (rfl | rfl) <;> assumption

theorem eq_iff_sameValue_tables :
    Typed (.structure "Table" [("m", .tuple [.dict, .tuple [.integer, .integer]])])
        (.struct "Table" [("m", .tuple [.dict, .tuple [.integer, .integer]])]
          [("m", .dict [(.int 1, .int 1), (.int 2, .int 2)])]) ∧
      Typed (.structure "Table" [("m", .tuple [.dict, .tuple [.integer, .integer]])])
        (.struct "Table" [("m", .tuple [.dict, .tuple [.integer, .integer]])]
          [("m", .dict [(.int 2, .int 2), (.int 1, .int 1)])]) ∧
      ∃ b v' u', Structure.eq Codec.wire
          (.struct "Table" [("m", .tuple [.dict, .tuple [.integer, .integer]])]
            [("m", .dict [(.int 1, .int 1), (.int 2, .int 2)])])
          (.struct "Table" [("m", .tuple [.dict, .tuple [.integer, .integer]])]
            [("m", .dict [(.int 2, .int 2), (.int 1, .int 1)])]) = .ok b (v', u') ∧
        (b = true ↔ SameValue (.structure "Table" [("m", .tuple [.dict, .tuple [.integer, .integer]])])
          (.struct "Table" [("m", .tuple [.dict, .tuple [.integer, .integer]])]
            [("m", .dict [(.int 1, .int 1), (.int 2, .int 2)])])
          (.struct "Table" [("m", .tuple [.dict, .tuple [.integer, .integer]])]
            [("m", .dict [(.int 2, .int 2), (.int 1, .int 1)])])) :=
  ⟨typed_tables_swapped.1, typed_tables_swapped.2,
    eq_iff_sameValue Codec.wire typed_tables_swapped.1 typed_tables_swapped.2⟩

/-- Two typed tables holding one map, `{1: 1, 2: 2}` built in two orders, are unequal under
`==`: their entries are a permutation of each other, but `to_bytes` writes them in
insertion order. -/
theorem eq_dict_insertion_order :
    Typed (.structure "Table" [("m", .tuple [.dict, .tuple [.integer, .integer]])])
        (.struct "Table" [("m", .tuple [.dict, .tuple [.integer, .integer]])]
          [("m", .dict [(.int 1, .int 1), (.int 2, .int 2)])]) ∧
      Typed (.structure "Table" [("m", .tuple [.dict, .tuple [.integer, .integer]])])
        (.struct "Table" [("m", .tuple [.dict, .tuple [.integer, .integer]])]
          [("m", .dict [(.int 2, .int 2), (.int 1, .int 1)])]) ∧
      [(PyValue.int 1, PyValue.int 1), (.int 2, .int 2)].Perm [(.int 2, .int 2), (.int 1, .int 1)] ∧
      Structure.eq Codec.wire
          (.struct "Table" [("m", .tuple [.dict, .tuple [.integer, .integer]])]
            [("m", .dict [(.int 1, .int 1), (.int 2, .int 2)])])
          (.struct "Table" [("m", .tuple [.dict, .tuple [.integer, .integer]])]
            [("m", .dict [(.int 2, .int 2), (.int 1, .int 1)])]) =
        .ok false (.struct "Table" [("m", .tuple [.dict, .tuple [.integer, .integer]])]
            [("m", .dict [(.int 1, .int 1), (.int 2, .int 2)])],
          .struct "Table" [("m", .tuple [.dict, .tuple [.integer, .integer]])]
            [("m", .dict [(.int 2, .int 2), (.int 1, .int 1)])]) :=
  ⟨typed_tables_swapped.1, typed_tables_swapped.2, .swap _ _ _, rfl⟩

end SensCord
