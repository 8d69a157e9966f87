import SensCord.Serialize.Structure

/-!
# SensCord.Serialize.Loops

The loops of `serialize.py`'s structure codec, each stated once as a relation between what
it returns and its input, elementwise, so that the proofs about whole values cite them and
never unfold a loop: the element loops of `_encode`, `_decode` and msgpack, the entry
loops that build a dict (which append when the keys are pairwise unequal), and the field
loops of `to_dict` and `from_dict`.  After them, one equation per descriptor form for
`_encode` and `_decode`; Lean does not derive equation lemmas for `encode`, whose match
on the head and the value overlaps, so each form is stated by `rfl`.
-/

namespace SensCord

open List (Forall₂)

/-! ## Element loops -/

section Elements

variable {ct : ClassType} {xs es es' : List PyValue}

/-- The element loop returns the encodings of the elements, and leaves them in the list. -/
theorem encodeElems_eq_ok_iff :
    encodeElems xs ct = .ok es es' ↔
      es' = es ∧ Forall₂ (fun x e => ∃ x', encode x ct = .ok e x') xs es := by
  induction xs generalizing es es' with
  | nil =>
    simp only [encodeElems, EStateM.Result.ok.injEq, List.forall₂_nil_left_iff]
    constructor <;> rintro ⟨rfl, rfl⟩ <;> simp
  | cons x xs ih =>
    rw [encodeElems, List.forall₂_cons_left_iff]
    cases hx : encode x ct with
    | error e x' => simp [hx]
    | ok r x' =>
      cases hs : encodeElems xs ct with
      | error e xs' =>
        have := (@ih es' es').not.mp
        simp_all
      | ok rs rs' =>
        obtain ⟨rfl, hrs⟩ := ih.mp hs
        simp only [EStateM.Result.ok.injEq]
        constructor
        · rintro ⟨rfl, rfl⟩
          exact ⟨rfl, r, rs', ⟨x', rfl, rfl⟩, hrs, rfl⟩
        · rintro ⟨rfl, r', rs'', ⟨x'', rfl, -⟩, hrs'', rfl⟩
          obtain ⟨-, h⟩ := (ih.mpr ⟨rfl, hrs''⟩).symm.trans hs |> EStateM.Result.ok.inj
          subst h; exact ⟨rfl, rfl⟩

/-- msgpack packs a list's items in order. -/
theorem packbList_eq_mapM : ∀ xs : List PyValue, packbList xs = xs.mapM packb
  | [] => rfl
  | x :: xs => by rw [packbList, List.mapM_cons, packbList_eq_mapM xs]

/-- msgpack unpacks an array's items in order. -/
theorem unpackbList_eq_mapM : ∀ os : List MsgObj, unpackbList os = os.mapM unpackb
  | [] => rfl
  | o :: os => by rw [unpackbList, List.mapM_cons, unpackbList_eq_mapM os]

/-- The element loop of `_decode` decodes the elements in order. -/
theorem decodeElems_eq_mapM (ct : ClassType) :
    ∀ xs : List PyValue, decodeElems xs ct = xs.mapM (decode · ct)
  | [] => rfl
  | x :: xs => by rw [decodeElems, List.mapM_cons, decodeElems_eq_mapM ct xs]

end Elements

/-! ## Entry loops -/

/-- msgpack packs a dict's keys and values entry by entry. -/
theorem packbEntries_eq_ok_iff : ∀ {es : List (PyValue × PyValue)} {os : List (MsgObj × MsgObj)},
    packbEntries es = .ok os ↔ Forall₂ (fun e o => packb e.1 = .ok o.1 ∧ packb e.2 = .ok o.2) es os
  | [], os => by simp [packbEntries, eq_comm]
  | (k, v) :: es, os => by
    have ih : ∀ {os'}, _ ↔ _ := fun {os'} => @packbEntries_eq_ok_iff es os'
    rw [packbEntries, List.forall₂_cons_left_iff]
    cases hk : packb k with
    | error e => simp
    | ok ko =>
      cases hv : packb v with
      | error e => simp
      | ok vo =>
        cases hs : packbEntries es with
        | error e => simp only [hs, reduceCtorEq, false_iff] at ih; simp [ih]
        | ok os' =>
          simp only [hs, Except.ok.injEq] at ih
          simp only [hk, hv, hs, Except.ok_bind, Except.pure_eq, Except.ok.injEq, ← ih]
          constructor
          · rintro rfl; exact ⟨(ko, vo), os', ⟨rfl, rfl⟩, rfl, rfl⟩
          · rintro ⟨_, _, ⟨rfl, rfl⟩, rfl, rfl⟩; rfl

/-- Unpacking a map whose keys unpack pairwise unequal keeps its entries in order. -/
theorem unpackbEntries_eq_ok {entries : List (MsgObj × MsgObj)} {ps : List (PyValue × PyValue)}
    (h : Forall₂ (fun e p => unpackb e.1 = .ok p.1 ∧ unpackb e.2 = .ok p.2) entries ps) :
    ∀ {d}, PyDict.Distinct (d ++ ps) → unpackbEntries entries d = .ok (d ++ ps) := by
  induction h with
  | nil => intro d _; simp [unpackbEntries]
  | @cons e p entries ps hep _ ih =>
    intro d hd
    rw [← List.singleton_append, ← List.append_assoc] at hd
    simp only [unpackbEntries, hep.1, hep.2, Except.ok_bind, PyDict.setItem_of_distinct hd.of_append,
      ih hd]
    simp

/-- The dict branch of `_decode` keeps the entries in order when their decoded keys are
pairwise unequal. -/
theorem decodeEntries_eq_ok {k w : ClassType} {entries ps : List (PyValue × PyValue)}
    (h : Forall₂ (fun e p => decode e.1 k = .ok p.1 ∧ decode e.2 w = .ok p.2) entries ps) :
    ∀ {d}, PyDict.Distinct (d ++ ps) → decodeEntries entries (.ok k) (.ok w) d = .ok (d ++ ps) := by
  induction h with
  | nil => intro d _; simp [decodeEntries]
  | @cons e p entries ps hep _ ih =>
    intro d hd
    rw [← List.singleton_append, ← List.append_assoc] at hd
    simp only [decodeEntries, hep.1, hep.2, Except.ok_bind, PyDict.setItem_of_distinct hd.of_append,
      ih hd]
    simp

/-- The dict branch of `_encode` keeps the entries in order when their encoded keys are
pairwise unequal; the dict it was given keeps its keys, each value as encoding left it. -/
theorem encodeEntries_eq_ok {k w : ClassType} {entries : List (PyValue × PyValue)}
    {qs : List ((PyValue × PyValue) × (PyValue × PyValue))}
    (h : Forall₂ (fun e q => encode e.1 k = .ok q.1.1 q.2.1 ∧ encode e.2 w = .ok q.1.2 q.2.2)
      entries qs) :
    ∀ {d}, PyDict.Distinct (d ++ qs.map Prod.fst) →
      encodeEntries entries (.ok k) (.ok w) d = .ok (d ++ qs.map Prod.fst) (qs.map Prod.snd) := by
  induction h with
  | nil => intro d _; simp [encodeEntries]
  | @cons e q entries qs heq _ ih =>
    intro d hd
    rw [List.map_cons, ← List.singleton_append, ← List.append_assoc] at hd
    obtain ⟨key, val⟩ := e
    simp only [encodeEntries, heq.1, heq.2, PyDict.setItem_of_distinct hd.of_append, ih hd]
    simp

/-! ## Field loops -/

/-- `getattr` reads the first attribute of the name. -/
theorem encodeAttr_eq (name : String) (ct : ClassType) :
    ∀ attrs : List (String × PyValue),
      encodeAttr attrs name ct = (Dict.get? attrs name).map (encode · ct)
  | [] => rfl
  | (n, v) :: attrs => by
    by_cases h : n = name <;> simp [encodeAttr, Dict.get?, h, encodeAttr_eq name ct attrs]

/-- `input_dict.get` reads the first equal key. -/
theorem lookupDecode_eq (key : PyValue) (ct : ClassType) :
    ∀ entries : List (PyValue × PyValue),
      lookupDecode entries key ct = (PyDict.get? entries key).map fun v => (v, decode v ct)
  | [] => rfl
  | (k, v) :: entries => by
    by_cases h : k.keyEq key <;>
      simp [lookupDecode, PyDict.get?, Dict.get?, h, lookupDecode_eq key ct entries]

/-- `to_dict` stores every field under its name as text, in field order, when each
attribute encodes and the names are pairwise distinct. -/
theorem toDictLoop_eq_ok {get : String → ClassType → Option (EStateM.Result PyError PyValue PyValue)}
    {fields : List (String × ClassType)} {ts : List (String × PyValue × PyValue)}
    (h : Forall₂ (fun f t => t.1 = f.1 ∧ get f.1 f.2 = some (.ok t.2.1 t.2.2)) fields ts) :
    ∀ {attrs out}, PyDict.Distinct (out ++ ts.map fun t => (.str t.1.toList, t.2.1)) →
      toDictLoop get fields attrs out =
        .ok (out ++ ts.map fun t => (.str t.1.toList, t.2.1))
          (ts.foldl (fun a t => Dict.set a t.1 t.2.2) attrs) := by
  induction h with
  | nil => intro attrs out _; simp [toDictLoop]
  | @cons f t fields ts hft _ ih =>
    intro attrs out hd
    rw [List.map_cons, ← List.singleton_append, ← List.append_assoc] at hd
    obtain ⟨name, ct⟩ := f
    obtain ⟨n, r, p⟩ := t
    obtain ⟨rfl, hget⟩ := hft
    simp only [toDictLoop, hget, PyDict.setItem_of_distinct hd.of_append, ih hd]
    simp

/-- `from_dict` sets every field to its value, in field order, when each value is read. -/
theorem fromDictLoop_eq_ok
    {lookup : PyValue → ClassType → Except PyError (Option (PyValue × Except PyError PyValue))}
    {fields : List (String × ClassType)} {ts : List (String × PyValue)}
    (h : Forall₂ (fun f t => t.1 = f.1 ∧ fromDictValue lookup f.1 f.2 = .ok t.2) fields ts) :
    ∀ {attrs}, fromDictLoop lookup fields attrs =
      .ok () (ts.foldl (fun a t => Dict.set a t.1 t.2) attrs) := by
  induction h with
  | nil => intro attrs; rfl
  | @cons f t fields ts hft _ ih =>
    intro attrs
    obtain ⟨name, ct⟩ := f
    obtain ⟨n, v⟩ := t
    obtain ⟨rfl, hv⟩ := hft
    simp only [fromDictLoop, hv, ih]
    rfl

/-! ## One equation per descriptor form -/

theorem encode_list (xs : List PyValue) (rest : List ClassType) :
    encode (.list xs) (.tuple (.list :: rest)) =
      match encodeElems xs (.tuple rest) with
      | .ok rs _ => .ok (.list rs) (.list rs)
      | .error e xs => .error e (.list xs) := rfl

theorem decode_list (xs : List PyValue) (rest : List ClassType) :
    decode (.list xs) (.tuple (.list :: rest)) = .list <$> xs.mapM (decode · (.tuple rest)) := by
  rw [← decodeElems_eq_mapM]; rfl

theorem encode_dict (entries : List (PyValue × PyValue)) (k w : ClassType) :
    encode (.dict entries) (.tuple [.dict, .tuple [k, w]]) =
      match encodeEntries entries (.ok k) (.ok w) [] with
      | .ok newDict entries => .ok (.dict newDict) (.dict entries)
      | .error e entries => .error e (.dict entries) := rfl

theorem decode_dict (entries : List (PyValue × PyValue)) (k w : ClassType) :
    decode (.dict entries) (.tuple [.dict, .tuple [k, w]]) =
      .dict <$> decodeEntries entries (.ok k) (.ok w) [] := rfl

theorem encode_struct (cls name : String) (fields fs : List (String × ClassType))
    (attrs : List (String × PyValue)) :
    encode (.struct cls fields attrs) (.structure name fs) = Structure.toDict (.struct cls fields attrs) := rfl

/-- A list whose elements encode is encoded, and left, as the list of their encodings. -/
theorem encode_list_of {rest : List ClassType} {xs es : List PyValue}
    (h : Forall₂ (fun x e => ∃ x', encode x (.tuple rest) = .ok e x') xs es) :
    encode (.list xs) (.tuple (.list :: rest)) = .ok (.list es) (.list es) := by
  rw [encode_list, encodeElems_eq_ok_iff.mpr ⟨rfl, h⟩]

theorem decode_list_of {rest : List ClassType} {xs ds : List PyValue}
    (h : Forall₂ (fun x d => decode x (.tuple rest) = .ok d) xs ds) :
    decode (.list xs) (.tuple (.list :: rest)) = .ok (.list ds) := by
  rw [decode_list, Except.mapM_eq_ok_iff.mpr h]; rfl

theorem packb_list_of {xs : List PyValue} {os : List MsgObj}
    (h : Forall₂ (fun x o => packb x = .ok o) xs os) : packb (.list xs) = .ok (.array os) := by
  show MsgObj.array <$> packbList xs = _
  rw [packbList_eq_mapM, Except.mapM_eq_ok_iff.mpr h]; rfl

theorem unpackb_array_of {os : List MsgObj} {xs : List PyValue}
    (h : Forall₂ (fun o x => unpackb o = .ok x) os xs) : unpackb (.array os) = .ok (.list xs) := by
  show PyValue.list <$> unpackbList os = _
  rw [unpackbList_eq_mapM, Except.mapM_eq_ok_iff.mpr h]; rfl

theorem packb_dict_of {es : List (PyValue × PyValue)} {os : List (MsgObj × MsgObj)}
    (h : Forall₂ (fun e o => packb e.1 = .ok o.1 ∧ packb e.2 = .ok o.2) es os) :
    packb (.dict es) = .ok (.map os) := by
  show MsgObj.map <$> packbEntries es = _
  rw [packbEntries_eq_ok_iff.mpr h]; rfl

theorem unpackb_map_of {os : List (MsgObj × MsgObj)} {es : List (PyValue × PyValue)}
    (h : Forall₂ (fun o e => unpackb o.1 = .ok e.1 ∧ unpackb o.2 = .ok e.2) os es)
    (hd : PyDict.Distinct es) : unpackb (.map os) = .ok (.dict es) := by
  show PyValue.dict <$> unpackbEntries os [] = _
  rw [unpackbEntries_eq_ok h (by simpa using hd)]; rfl

/-- A dict whose keys and values encode, to pairwise unequal keys, is encoded as the dict
of their encodings and left holding what the encodings left. -/
theorem encode_dict_of {k w : ClassType} {α : Type} {entries : List (PyValue × PyValue)}
    {l : List α} {ek ev pk pv : α → PyValue}
    (h : Forall₂ (fun e r => encode e.1 k = .ok (ek r) (pk r) ∧ encode e.2 w = .ok (ev r) (pv r))
      entries l)
    (hd : PyDict.Distinct (l.map fun r => (ek r, ev r))) :
    encode (.dict entries) (.tuple [.dict, .tuple [k, w]]) =
      .ok (.dict (l.map fun r => (ek r, ev r))) (.dict (l.map fun r => (pk r, pv r))) := by
  have h' : Forall₂ (fun e q => encode e.1 k = .ok q.1.1 q.2.1 ∧ encode e.2 w = .ok q.1.2 q.2.2)
      entries (l.map fun r => ((ek r, ev r), (pk r, pv r))) := List.forall₂_map_right_iff.mpr h
  rw [encode_dict, encodeEntries_eq_ok h' (by simpa [List.map_map, Function.comp_def] using hd)]
  simp [List.map_map, Function.comp_def]

theorem decode_dict_of {k w : ClassType} {entries ps : List (PyValue × PyValue)}
    (h : Forall₂ (fun e p => decode e.1 k = .ok p.1 ∧ decode e.2 w = .ok p.2) entries ps)
    (hd : PyDict.Distinct ps) :
    decode (.dict entries) (.tuple [.dict, .tuple [k, w]]) = .ok (.dict ps) := by
  rw [decode_dict, decodeEntries_eq_ok h (by simpa using hd)]; rfl

/-- A dict under a structure class is left as it is: `from_dict` reads it, `_encode` does
not. -/
theorem encode_dict_structure (entries : List (PyValue × PyValue)) (name : String)
    (fields : List (String × ClassType)) :
    encode (.dict entries) (.structure name fields) = .ok (.dict entries) (.dict entries) := rfl

theorem decode_dict_structure (entries : List (PyValue × PyValue)) (name : String)
    (fields : List (String × ClassType)) :
    decode (.dict entries) (.structure name fields) =
      (initFields fields []).bind fun attrs =>
        match fromDictLoop (fun key ct => .ok (lookupDecode entries key ct)) fields attrs with
        | .ok () attrs => .ok (.struct name fields attrs)
        | .error e _ => .error e := rfl

/-- `_decode` under a structure class is `from_dict` into a fresh instance. -/
theorem decode_structure (v : PyValue) (name : String) (fields : List (String × ClassType)) :
    decode v (.structure name fields) =
      (initFields fields []).bind fun attrs =>
        match fromDictLoop (inputDictGet v) fields attrs with
        | .ok () attrs => .ok (.struct name fields attrs)
        | .error e _ => .error e := by
  cases v <;> rfl

/-- A one-item tuple of a class other than `list` and `dict` describes what the class
describes: the `()` left after the head is never read. -/
theorem encode_single {c : ClassType} (hc : ∀ items, c ≠ .tuple items) (hl : c ≠ .list)
    (hd : c ≠ .dict) (v : PyValue) : encode v (.tuple [c]) = encode v c := by
  cases c <;> cases v <;> first | rfl | simp at hc hl hd

theorem decode_single {c : ClassType} (hc : ∀ items, c ≠ .tuple items) (hl : c ≠ .list)
    (hd : c ≠ .dict) (v : PyValue) : decode v (.tuple [c]) = decode v c := by
  cases c <;> cases v <;> first | rfl | simp at hc hl hd

/-! ## Walkers over the field loops -/

/-- `to_dict` of an instance whose fields' attributes encode, under pairwise distinct
names: the dict of the encodings under the names as text, and the instance holding each
attribute as its encoding left it. -/
theorem encode_struct_of {β : Type} {cls name : String} {fs : List (String × ClassType)}
    {attrs : List (String × PyValue)} {ts : List β} {field : β → String × ClassType}
    {res post : β → PyValue}
    (hd : PyDict.Distinct (ts.map fun t => (.str (field t).1.toList, res t)))
    (h : ∀ t ∈ ts, encodeAttr attrs (field t).1 (field t).2 = some (.ok (res t) (post t))) :
    encode (.struct cls (ts.map field) attrs) (.structure name fs) =
      .ok (.dict (ts.map fun t => (.str (field t).1.toList, res t)))
        (.struct cls (ts.map field) (ts.foldl (fun a t => Dict.set a (field t).1 (post t)) attrs)) := by
  have hts : Forall₂ (fun f t => t.1 = f.1 ∧ encodeAttr attrs f.1 f.2 = some (.ok t.2.1 t.2.2))
      (ts.map field) (ts.map fun t => ((field t).1, res t, post t)) :=
    forall₂_map_map.mpr fun t ht => ⟨rfl, h t ht⟩
  rw [encode_struct, Structure.toDict,
    toDictLoop_eq_ok hts (by simpa [List.map_map, Function.comp_def] using hd)]
  simp [List.map_map, List.foldl_map, Function.comp_def]

/-- `from_dict` on a field missing under its name as text and present under its name as
bytes reads the value there, decoded when it is true. -/
theorem fromDictValue_of {raws : List (PyValue × PyValue)} {name : String} {ct : ClassType}
    {u d : PyValue} (hnone : PyDict.get? raws (.str name.toList) = none)
    (hsome : PyDict.get? raws (.bytes (utf8Encode name.toList)) = some u)
    (hd : decode u ct = .ok d) :
    fromDictValue (fun key ct => .ok (lookupDecode raws key ct)) name ct =
      .ok (if u.truthy then d else u) := by
  simp only [fromDictValue, lookupDecode_eq, hnone, hsome, Except.ok_bind, Option.map_none',
    Option.map_some', Option.getD_none, PyValue.truthy, Bool.false_eq_true, if_false]
  split_ifs <;> simp [hd]

end SensCord
