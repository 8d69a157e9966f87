import SensCord.Serialize.Typed

/-!
# SensCord.Serialize.RoundTrip

`to_bytes` then `from_bytes` gives a typed structure back, up to the byte comparison that
`Serializable.__eq__` makes.

Each typed value goes through a **passage** (`Passage`): `_encode` turns it into `enc` and
leaves it as `post`; msgpack sends `enc` as the wire object `wire`, which unpacks to
`raw`; `_decode` turns `raw` into `dec`, and encoding `dec` again gives `denc`, leaving
`dpost`.  `Passage.Ok` collects what the round trip needs of a passage: `post` and `enc`
encode to `enc` again, `raw` packs to `wire` again, and `denc` packs to `wire` too.  Every
typed value has such a passage (`Typed.passage`), by induction over the typing:

* **atoms**: a scalar, a `CEnum` member or `int`, an `Array` value;
* **walkers**: the list branch over the elements' passages, the dict branch over the
  keys' read-back and the values' passages, a structure over its fields' passages, where
  `from_dict` keeps the unpacked value of a field when it is false.

`fromBytes_toBytes_roundTrip` assembles the structure case into the byte-level statement.
-/

namespace SensCord

open List (Forall₂)

/-- A scalar as msgpack's raw mode reads it back: text as its UTF-8 bytes. -/
def PyValue.readBack : PyValue → PyValue
  | .str s => .bytes (utf8Encode s)
  | v => v

/-- A dict key as `_encode` leaves it: a `CEnum` member as its `int`. -/
def PyValue.keyImage : PyValue → PyValue
  | .enum _ n => .int n
  | v => v

/-- The values one value goes through in a round trip. -/
structure Passage where
  /-- `_encode`'s result. -/
  enc : PyValue
  /-- The value as `_encode` left it. -/
  post : PyValue
  /-- The wire object msgpack sends `enc` as. -/
  wire : MsgObj
  /-- The value the wire object unpacks to. -/
  raw : PyValue
  /-- `_decode`'s result on `raw`. -/
  dec : PyValue
  /-- `_encode`'s result on `dec`. -/
  denc : PyValue
  /-- `dec` as `_encode` left it. -/
  dpost : PyValue

namespace Passage

/-- What the round trip needs of a passage under the descriptor `ct`. -/
structure Ok (ct : ClassType) (p : Passage) : Prop where
  encode_post : encode p.post ct = .ok p.enc p.post
  encode_enc : encode p.enc ct = .ok p.enc p.enc
  packb_enc : packb p.enc = .ok p.wire
  unpackb_wire : unpackb p.wire = .ok p.raw
  packb_raw : packb p.raw = .ok p.wire
  encode_raw : p.raw.truthy = false → encode p.raw ct = .ok p.raw p.raw
  decode_raw : decode p.raw ct = .ok p.dec
  encode_dec : encode p.dec ct = .ok p.denc p.dpost
  packb_denc : packb p.denc = .ok p.wire

/-- What `from_dict` stores for a field whose value unpacked to `raw`: its decoding when
`raw` is true, `raw` itself otherwise. -/
def field (p : Passage) : PyValue := if p.raw.truthy then p.dec else p.raw

/-- `_encode`'s result on `field`. -/
def fieldEnc (p : Passage) : PyValue := if p.raw.truthy then p.denc else p.raw

/-- `field` as `_encode` leaves it. -/
def fieldPost (p : Passage) : PyValue := if p.raw.truthy then p.dpost else p.raw

variable {ct : ClassType} {p : Passage}

theorem Ok.encode_field (h : p.Ok ct) : encode p.field ct = .ok p.fieldEnc p.fieldPost := by
  unfold field fieldEnc fieldPost
  cases hr : p.raw.truthy
  · exact h.encode_raw hr
  · exact h.encode_dec

theorem Ok.packb_fieldEnc (h : p.Ok ct) : packb p.fieldEnc = .ok p.wire := by
  unfold fieldEnc
  split_ifs
  · exact h.packb_denc
  · exact h.packb_raw

/-- A passage whose value decodes and re-encodes to what it unpacks to. -/
def fixed (enc post : PyValue) (wire : MsgObj) (raw : PyValue) : Passage :=
  ⟨enc, post, wire, raw, raw, raw, raw⟩

theorem ok_fixed {enc post raw : PyValue} {wire : MsgObj}
    (hpost : encode post ct = .ok enc post) (henc : encode enc ct = .ok enc enc)
    (hpack : packb enc = .ok wire) (hunpack : unpackb wire = .ok raw)
    (hrepack : packb raw = .ok wire) (hraw : encode raw ct = .ok raw raw)
    (hdec : decode raw ct = .ok raw) : (fixed enc post wire raw).Ok ct :=
  ⟨hpost, henc, hpack, hunpack, hrepack, fun _ => hraw, hdec, hraw, hrepack⟩

end Passage

/-- `v` has a passage under `ct`. -/
def HasPassage (ct : ClassType) (v : PyValue) : Prop :=
  ∃ p : Passage, encode v ct = .ok p.enc p.post ∧ p.Ok ct

/-! ## Atoms -/

section Atoms

variable {c : ClassType} {v : PyValue}

theorem Scalar.encode_eq (h : Scalar c v) : encode v c = .ok v v := by
  cases h <;> rfl

theorem Scalar.decode_eq (h : Scalar c v) : decode v c = .ok v := by
  cases h <;> rfl

theorem Scalar.readBack (h : Scalar c v) : Scalar c v.readBack := by
  cases h <;> first | exact .integer ‹_› | constructor

/-- msgpack sends a scalar and reads it back as `readBack`, which it sends the same way. -/
theorem Scalar.wire (h : Scalar c v) :
    ∃ o, packb v = .ok o ∧ unpackb o = .ok v.readBack ∧ packb v.readBack = .ok o := by
  cases h with
  | integer hn => exact ⟨.int _, by simp [packb, hn], rfl, by simp [PyValue.readBack, packb, hn]⟩
  | _ => exact ⟨_, rfl, rfl, rfl⟩

theorem Scalar.passage (h : Scalar c v) : HasPassage c v := by
  obtain ⟨o, hp, hu, hr⟩ := h.wire
  exact ⟨.fixed v v o v.readBack, h.encode_eq, Passage.ok_fixed h.encode_eq h.encode_eq hp hu hr
    h.readBack.encode_eq h.readBack.decode_eq⟩

theorem Nested.encode_eq {dims : List Nat} (h : Nested c v) : encode v (.array c dims) = .ok v v := by
  cases h with
  | leaf h => cases h <;> rfl
  | list _ => rfl

theorem Nested.decode_eq {dims : List Nat} (h : Nested c v) : decode v (.array c dims) = .ok v := by
  cases h with
  | leaf h => cases h <;> rfl
  | list _ => rfl

/-- msgpack sends a nested list of scalars and reads it back as one, which it sends the
same way. -/
theorem Nested.wire (h : Nested c v) :
    ∃ o u, packb v = .ok o ∧ unpackb o = .ok u ∧ packb u = .ok o ∧ Nested c u := by
  induction h with
  | leaf h =>
    obtain ⟨o, hp, hu, hr⟩ := h.wire
    exact ⟨o, _, hp, hu, hr, .leaf h.readBack⟩
  | @list xs _ ih =>
    have hx : ∀ x ∈ xs, ∃ y : MsgObj × PyValue, packb x = .ok y.1 ∧
        (unpackb y.1 = .ok y.2 ∧ packb y.2 = .ok y.1 ∧ Nested c y.2) := fun x hx => by
      obtain ⟨o, u, h⟩ := ih x hx
      exact ⟨(o, u), h⟩
    obtain ⟨ys, hys, hys'⟩ := exists_forall₂ hx
    refine ⟨.array (ys.map Prod.fst), .list (ys.map Prod.snd), ?_, ?_, ?_, ?_⟩
    · exact packb_list_of (List.forall₂_map_right_iff.mpr hys)
    · exact unpackb_array_of (forall₂_map_map.mpr fun y hy => (hys' y hy).1)
    · exact packb_list_of (forall₂_map_map.mpr fun y hy => (hys' y hy).2.1)
    · exact .list fun u hu => by
        obtain ⟨y, hy, rfl⟩ := List.mem_map.mp hu
        exact (hys' y hy).2.2

theorem Nested.passage {dims : List Nat} (h : Nested c v) : HasPassage (.array c dims) v := by
  obtain ⟨o, u, hp, hu, hr, hn⟩ := h.wire
  exact ⟨.fixed v v o u, h.encode_eq, Passage.ok_fixed h.encode_eq h.encode_eq hp hu hr
    hn.encode_eq hn.decode_eq⟩

theorem enum_passage {name : String} {n : Int} (hn : inInt64Range n) :
    HasPassage (.cenum name) (.enum name n) :=
  ⟨.fixed (.int n) (.enum name n) (.int n) (.int n), rfl,
    Passage.ok_fixed rfl rfl (by simp [packb, hn]) rfl (by simp [packb, hn]) rfl rfl⟩

theorem enumInt_passage {name : String} {n : Int} (hn : inInt64Range n) :
    HasPassage (.cenum name) (.int n) :=
  ⟨.fixed (.int n) (.int n) (.int n) (.int n), rfl,
    Passage.ok_fixed rfl rfl (by simp [packb, hn]) rfl (by simp [packb, hn]) rfl rfl⟩

end Atoms

/-! ## The list branch -/

/-- A list whose elements have passages has the passage of their passages, elementwise:
the list branch leaves the list holding the encodings. -/
theorem list_passage {rest : List ClassType} {xs : List PyValue}
    (h : ∀ x ∈ xs, HasPassage (.tuple rest) x) : HasPassage (.tuple (.list :: rest)) (.list xs) := by
  obtain ⟨ps, hps, hok⟩ := exists_forall₂ h
  have each {T : PyValue → PyValue → Prop} {f g : Passage → PyValue}
      (hT : ∀ p, p.Ok (.tuple rest) → T (f p) (g p)) : Forall₂ T (ps.map f) (ps.map g) :=
    forall₂_map_map.mpr fun p hp => hT p (hok p hp)
  refine ⟨⟨.list (ps.map (·.enc)), .list (ps.map (·.enc)), .array (ps.map (·.wire)),
    .list (ps.map (·.raw)), .list (ps.map (·.dec)), .list (ps.map (·.denc)),
    .list (ps.map (·.denc))⟩,
    encode_list_of (List.forall₂_map_right_iff.mpr (hps.imp fun _ _ h => ⟨_, h⟩)), ?_⟩
  have henc := encode_list_of (each fun p h => ⟨_, h.encode_enc⟩)
  refine ⟨henc, henc, packb_list_of ?_, unpackb_array_of ?_, packb_list_of ?_, fun hr => ?_,
    decode_list_of ?_, encode_list_of (each fun p h => ⟨_, h.encode_dec⟩), packb_list_of ?_⟩
  · exact forall₂_map_map.mpr fun p hp => (hok p hp).packb_enc
  · exact forall₂_map_map.mpr fun p hp => (hok p hp).unpackb_wire
  · exact forall₂_map_map.mpr fun p hp => (hok p hp).packb_raw
  · cases ps with
    | nil => rfl
    | cons => simp [PyValue.truthy] at hr
  · exact forall₂_map_map.mpr fun p hp => (hok p hp).decode_raw
  · exact forall₂_map_map.mpr fun p hp => (hok p hp).packb_denc

/-! ## The dict branch -/

/-- What encoding, packing and unpacking do to a dict key typed for a key class. -/
structure KeyFacts (k : ClassType) (key : PyValue) : Prop where
  encode_key : encode key k = .ok key.keyImage key
  encode_image : encode key.keyImage k = .ok key.keyImage key.keyImage
  hashable_image : key.keyImage.hashable
  hashable_readBack : key.keyImage.readBack.hashable
  encode_readBack :
    encode key.keyImage.readBack k = .ok key.keyImage.readBack key.keyImage.readBack
  decode_readBack : decode key.keyImage.readBack k = .ok key.keyImage.readBack
  wire : ∃ o, packb key.keyImage = .ok o ∧ unpackb o = .ok key.keyImage.readBack ∧
    packb key.keyImage.readBack = .ok o

theorem Typed.keyFacts {k key : _} (hk : k.isKey) (h : Typed k key) : KeyFacts k key := by
  cases h with
  | scalar h =>
    cases h with
    | @integer n hn =>
      have : packb (.int n) = .ok (.int n) := by simp [packb, hn]
      exact ⟨rfl, rfl, rfl, rfl, rfl, rfl, ⟨_, this, rfl, this⟩⟩
    | _ => exact ⟨rfl, rfl, rfl, rfl, rfl, rfl, ⟨_, rfl, rfl, rfl⟩⟩
  | @enum _ n hn | @enumInt _ n hn =>
    have : packb (.int n) = .ok (.int n) := by simp [packb, hn]
    exact ⟨rfl, rfl, rfl, rfl, rfl, rfl, ⟨_, this, rfl, this⟩⟩
  | _ => simp [ClassType.isKey, ClassType.isScalar] at hk

theorem KeyFacts.readBackKey {k key : _} (h : KeyFacts k key) :
    readBackKey k key = some key.keyImage.readBack := by
  obtain ⟨o, h1, h2, -⟩ := h.wire
  simp [SensCord.readBackKey, h.encode_key, h1, h2, Except.toOption]

/-- Keys that read back unequal were unequal when encoded: reading back only turns text into
its UTF-8 bytes. -/
theorem keyEq_of_readBack {a b : PyValue} (h : a.readBack.keyEq b.readBack = false) :
    a.keyEq b = false := by
  cases a <;> cases b <;> first | exact h | rfl | skip
  simp only [PyValue.keyEq, PyValue.readBack, beq_eq_false_iff_ne] at h ⊢
  exact fun hst => h (hst ▸ rfl)

section DistinctKeys

variable {k : ClassType} {entries : List (PyValue × PyValue)} (hk : k.isKey)
  (hkeys : ∀ e ∈ entries, Typed k e.1)

include hk hkeys

/-- Typed keys that read back pairwise unequal read back as their images' UTF-8 forms. -/
theorem DistinctKeys.readBack (hd : DistinctKeys k entries) :
    (entries.map fun e => e.1.keyImage.readBack).Pairwise fun a b => a.keyEq b = false := by
  have : entries.filterMap (fun e => readBackKey k e.1) = entries.map fun e => e.1.keyImage.readBack := by
    rw [List.filterMap_congr (fun e he => ((hkeys e he).keyFacts hk).readBackKey),
      show entries.filterMap (fun e => some e.1.keyImage.readBack) =
        entries.map fun e => e.1.keyImage.readBack by rw [← List.filterMap_eq_map]; rfl]
  exact this ▸ hd

/-- Typed keys that read back pairwise unequal are pairwise unequal as `_encode` leaves
them. -/
theorem DistinctKeys.keyImage (hd : DistinctKeys k entries) :
    (entries.map fun e => e.1.keyImage).Pairwise fun a b => a.keyEq b = false := by
  have := hd.readBack hk hkeys
  rw [List.pairwise_map] at this ⊢
  exact this.imp keyEq_of_readBack

end DistinctKeys

/-- A dict whose keys are typed for a key class and read back pairwise unequal, and whose
values have passages, has the passage of its entries': the dict branch builds a new dict
and leaves the given one holding its values as their encodings left them. -/
theorem dict_passage {k w : ClassType} {entries : List (PyValue × PyValue)} (hk : k.isKey)
    (hkeys : ∀ e ∈ entries, Typed k e.1) (hd : DistinctKeys k entries)
    (h : ∀ e ∈ entries, HasPassage w e.2) :
    HasPassage (.tuple [.dict, .tuple [k, w]]) (.dict entries) := by
  have hx : ∀ e ∈ entries, ∃ r : PyValue × MsgObj × Passage,
      (r.1 = e.1 ∧ encode e.1 k = .ok r.1.keyImage r.1 ∧
        encode e.2 w = .ok r.2.2.enc r.2.2.post) ∧
      (r.2.2.Ok w ∧ KeyFacts k r.1 ∧ packb r.1.keyImage = .ok r.2.1 ∧
        unpackb r.2.1 = .ok r.1.keyImage.readBack ∧ packb r.1.keyImage.readBack = .ok r.2.1) := by
    intro e he
    obtain ⟨p, hp, hok⟩ := h e he
    have kf := (hkeys e he).keyFacts hk
    obtain ⟨o, h1, h2, h3⟩ := kf.wire
    exact ⟨(e.1, o, p), ⟨rfl, kf.encode_key, hp⟩, hok, kf, h1, h2, h3⟩
  obtain ⟨rs, hrs, hr⟩ := exists_forall₂ hx
  have hrb : (rs.map fun r => r.1.keyImage.readBack).Pairwise fun a b => a.keyEq b = false := by
    rw [← @map_eq_map_of_forall₂ _ _ _ (fun e => e.1.keyImage.readBack) _ _ _
      (hrs.imp fun _ _ h => h.1 ▸ rfl)]
    exact hd.readBack hk hkeys
  have himg : (rs.map fun r => r.1.keyImage).Pairwise fun a b => a.keyEq b = false := by
    rw [← @map_eq_map_of_forall₂ _ _ _ (fun e => e.1.keyImage) _ _ _
      (hrs.imp fun _ _ h => h.1 ▸ rfl)]
    exact hd.keyImage hk hkeys
  have dimg {g : PyValue × MsgObj × Passage → PyValue} :
      PyDict.Distinct (rs.map fun r => (r.1.keyImage, g r)) :=
    PyDict.distinct_map.mpr ⟨fun r hr' => (hr r hr').2.1.hashable_image, himg⟩
  have drb {g : PyValue × MsgObj × Passage → PyValue} :
      PyDict.Distinct (rs.map fun r => (r.1.keyImage.readBack, g r)) :=
    PyDict.distinct_map.mpr ⟨fun r hr' => (hr r hr').2.1.hashable_readBack, hrb⟩
  have self {R : PyValue × PyValue → PyValue × MsgObj × Passage → Prop}
      {f : PyValue × MsgObj × Passage → PyValue × PyValue} (hR : ∀ r ∈ rs, R (f r) r) :
      Forall₂ R (rs.map f) rs :=
    List.forall₂_map_left_iff.mpr (List.forall₂_same.mpr hR)
  refine ⟨⟨.dict (rs.map fun r => (r.1.keyImage, r.2.2.enc)), .dict (rs.map fun r => (r.1, r.2.2.post)),
    .map (rs.map fun r => (r.2.1, r.2.2.wire)), .dict (rs.map fun r => (r.1.keyImage.readBack, r.2.2.raw)),
    .dict (rs.map fun r => (r.1.keyImage.readBack, r.2.2.dec)),
    .dict (rs.map fun r => (r.1.keyImage.readBack, r.2.2.denc)),
    .dict (rs.map fun r => (r.1.keyImage.readBack, r.2.2.dpost))⟩,
    @encode_dict_of _ _ _ _ _ (fun r => r.1.keyImage) (fun r => r.2.2.enc) (fun r => r.1)
      (fun r => r.2.2.post) (hrs.imp fun _ _ h => h.2) dimg, ?_⟩
  refine ⟨@encode_dict_of _ _ _ _ _ (fun r => r.1.keyImage) (fun r => r.2.2.enc) (fun r => r.1)
      (fun r => r.2.2.post) (self fun r hr' => ⟨(hr r hr').2.1.encode_key, (hr r hr').1.encode_post⟩)
      dimg,
    @encode_dict_of _ _ _ _ _ (fun r => r.1.keyImage) (fun r => r.2.2.enc) (fun r => r.1.keyImage)
      (fun r => r.2.2.enc)
      (self fun r hr' => ⟨(hr r hr').2.1.encode_image, (hr r hr').1.encode_enc⟩) dimg,
    packb_dict_of (forall₂_map_map.mpr fun r hr' => ⟨(hr r hr').2.2.1, (hr r hr').1.packb_enc⟩),
    unpackb_map_of (forall₂_map_map.mpr fun r hr' =>
      ⟨(hr r hr').2.2.2.1, (hr r hr').1.unpackb_wire⟩) drb,
    packb_dict_of (forall₂_map_map.mpr fun r hr' => ⟨(hr r hr').2.2.2.2, (hr r hr').1.packb_raw⟩),
    fun hraw => ?_,
    decode_dict_of (forall₂_map_map.mpr fun r hr' =>
      ⟨(hr r hr').2.1.decode_readBack, (hr r hr').1.decode_raw⟩) drb,
    @encode_dict_of _ _ _ _ _ (fun r => r.1.keyImage.readBack) (fun r => r.2.2.denc)
      (fun r => r.1.keyImage.readBack) (fun r => r.2.2.dpost)
      (self fun r hr' => ⟨(hr r hr').2.1.encode_readBack, (hr r hr').1.encode_dec⟩) drb,
    packb_dict_of (forall₂_map_map.mpr fun r hr' => ⟨(hr r hr').2.2.2.2, (hr r hr').1.packb_denc⟩)⟩
  cases rs with
  | nil => rfl
  | cons => simp [PyValue.truthy] at hraw

/-! ## Structures -/

section Names

variable {β : Type} {l : List β} {name : β → String} {g : β → PyValue}

/-- Pairwise distinct field names are pairwise unequal keys as text. -/
theorem distinct_str (h : (l.map name).Nodup) :
    PyDict.Distinct (l.map fun t => (.str (name t).toList, g t)) :=
  PyDict.distinct_map.mpr ⟨fun _ _ => rfl, List.pairwise_map.mpr ((List.pairwise_map.mp h).imp
    fun hne => beq_eq_false_iff_ne.mpr fun h' => hne (String.ext h'))⟩

/-- Pairwise distinct field names are pairwise unequal keys as UTF-8 bytes. -/
theorem distinct_bytes (h : (l.map name).Nodup) :
    PyDict.Distinct (l.map fun t => (.bytes (utf8Encode (name t).toList), g t)) :=
  PyDict.distinct_map.mpr ⟨fun _ _ => rfl, List.pairwise_map.mpr ((List.pairwise_map.mp h).imp
    fun hne => beq_eq_false_iff_ne.mpr fun h' => hne (String.ext (utf8Encode_injective h')))⟩

end Names

/-- An instance whose fields, under pairwise distinct names, hold values with passages has
a passage: `to_dict` gives the dict of the fields' encodings under their names, msgpack
reads it back with the names as bytes, and `from_dict` finds every field there, keeping a
false value as it was read.  The instance is left an instance, and so is its decoding. -/
theorem struct_passage {name : String} {fields : List (String × ClassType)}
    {attrs : List (String × PyValue)} (hnd : (fields.map Prod.fst).Nodup)
    (hsome : ∀ f ∈ fields, (Dict.get? attrs f.1).isSome)
    (h : ∀ f ∈ fields, ∀ x, Dict.get? attrs f.1 = some x → Typed f.2 x ∧ HasPassage f.2 x) :
    ∃ p : Passage, encode (.struct name fields attrs) (.structure name fields) = .ok p.enc p.post ∧
      p.Ok (.structure name fields) ∧ (∃ a, p.post = .struct name fields a) ∧
      (∃ a, p.dec = .struct name fields a) := by
  have hx : ∀ f ∈ fields, ∃ t : (String × ClassType) × PyValue × Passage,
      (t.1 = f ∧ Dict.get? attrs f.1 = some t.2.1 ∧ encode t.2.1 f.2 = .ok t.2.2.enc t.2.2.post ∧
        Typed f.2 t.2.1) ∧ t.2.2.Ok t.1.2 := by
    intro f hf
    obtain ⟨x, hx⟩ := Option.isSome_iff_exists.mp (hsome f hf)
    obtain ⟨hty, p, hp, hok⟩ := h f hf x hx
    exact ⟨(f, x, p), ⟨rfl, hx, hp, hty⟩, hok⟩
  obtain ⟨ts, hts, hok⟩ := exists_forall₂ hx
  obtain rfl : fields = ts.map Prod.fst := by
    simpa using @map_eq_map_of_forall₂ _ _ _ id Prod.fst _ _ (hts.imp fun _ _ h => h.1.symm)
  have ht : ∀ t ∈ ts, Dict.get? attrs t.1.1 = some t.2.1 ∧
      encode t.2.1 t.1.2 = .ok t.2.2.enc t.2.2.post ∧ Typed t.1.2 t.2.1 := fun t ht' =>
    (List.forall₂_same.mp (List.forall₂_map_left_iff.mp hts) t ht').2
  have hnd' : (ts.map fun t => t.1.1).Nodup := by simpa [List.map_map, Function.comp_def] using hnd
  obtain ⟨attrs₀, hinit⟩ := initFields_ok (fun f hf => by
    obtain ⟨t, ht', rfl⟩ := List.mem_map.mp hf
    exact (ht t ht').2.2.init_ok) []
  -- where `from_dict` finds each field in the unpacked map
  have hraws : PyDict.Distinct (ts.map fun t => (.bytes (utf8Encode t.1.1.toList), t.2.2.raw)) :=
    distinct_bytes hnd'
  have hread : ∀ t ∈ ts, fromDictValue (fun key ct => .ok (lookupDecode
      (ts.map fun t => (.bytes (utf8Encode t.1.1.toList), t.2.2.raw)) key ct)) t.1.1 t.1.2 =
      .ok t.2.2.field := fun t ht' =>
    fromDictValue_of
      (PyDict.get?_eq_none fun e he => by obtain ⟨_, _, rfl⟩ := List.mem_map.mp he; rfl)
      (PyDict.get?_of_mem hraws (by simp [PyValue.keyEq]) (List.mem_map_of_mem _ ht'))
      (hok t ht').decode_raw
  have hdec : decode (.dict (ts.map fun t => (.bytes (utf8Encode t.1.1.toList), t.2.2.raw)))
      (.structure name (ts.map Prod.fst)) =
      .ok (.struct name (ts.map Prod.fst) (ts.foldl (fun a t => Dict.set a t.1.1 t.2.2.field) attrs₀)) := by
    rw [decode_dict_structure, hinit, Except.bind,
      @fromDictLoop_eq_ok _ _ (ts.map fun t => (t.1.1, t.2.2.field))
        (forall₂_map_map.mpr fun t ht' => ⟨rfl, hread t ht'⟩)]
    simp [List.foldl_map]
  -- the instance as encoding leaves it, and as decoding builds it
  let postAttrs := ts.foldl (fun a t => Dict.set a t.1.1 t.2.2.post) attrs
  let decAttrs := ts.foldl (fun a t => Dict.set a t.1.1 t.2.2.field) attrs₀
  have hpost : ∀ t ∈ ts, Dict.get? postAttrs t.1.1 = some t.2.2.post := fun t ht' =>
    Dict.get?_foldl_set hnd' ht' attrs
  have hdecA : ∀ t ∈ ts, Dict.get? decAttrs t.1.1 = some t.2.2.field := fun t ht' =>
    Dict.get?_foldl_set hnd' ht' attrs₀
  refine ⟨⟨.dict (ts.map fun t => (.str t.1.1.toList, t.2.2.enc)),
    .struct name (ts.map Prod.fst) postAttrs,
    .map (ts.map fun t => (.raw (utf8Encode t.1.1.toList), t.2.2.wire)),
    .dict (ts.map fun t => (.bytes (utf8Encode t.1.1.toList), t.2.2.raw)),
    .struct name (ts.map Prod.fst) decAttrs,
    .dict (ts.map fun t => (.str t.1.1.toList, t.2.2.fieldEnc)),
    .struct name (ts.map Prod.fst) (ts.foldl (fun a t => Dict.set a t.1.1 t.2.2.fieldPost) decAttrs)⟩,
    encode_struct_of (distinct_str hnd') fun t ht' => by
      rw [encodeAttr_eq, (ht t ht').1, Option.map_some', (ht t ht').2.1],
    ⟨?_, encode_dict_structure _ _ _, ?_, ?_, ?_, fun _ => encode_dict_structure _ _ _, hdec, ?_, ?_⟩,
    ⟨_, rfl⟩, ⟨_, rfl⟩⟩
  · have := @encode_struct_of _ name name (ts.map Prod.fst) postAttrs ts Prod.fst (·.2.2.enc)
      (·.2.2.post) (distinct_str hnd') fun t ht' => by
        rw [encodeAttr_eq, hpost t ht', Option.map_some', (hok t ht').encode_post]
    rwa [Dict.foldl_set_of_get? hpost] at this
  · exact packb_dict_of (forall₂_map_map.mpr fun t ht' => ⟨rfl, (hok t ht').packb_enc⟩)
  · exact unpackb_map_of (forall₂_map_map.mpr fun t ht' => ⟨rfl, (hok t ht').unpackb_wire⟩) hraws
  · exact packb_dict_of (forall₂_map_map.mpr fun t ht' => ⟨rfl, (hok t ht').packb_raw⟩)
  · exact encode_struct_of (distinct_str hnd') fun t ht' => by
      rw [encodeAttr_eq, hdecA t ht', Option.map_some', (hok t ht').encode_field]
  · exact packb_dict_of (forall₂_map_map.mpr fun t ht' => ⟨rfl, (hok t ht').packb_fieldEnc⟩)

/-! ## Every typed value has a passage -/

/-- A passage under a class is one under the class's one-item tuple. -/
theorem single_passage {c : ClassType} {v : PyValue} (hc : ∀ items, c ≠ .tuple items)
    (hl : c ≠ .list) (hd : c ≠ .dict) (h : HasPassage c v) : HasPassage (.tuple [c]) v := by
  obtain ⟨p, hp, hok⟩ := h
  simp only [HasPassage, encode_single hc hl hd]
  refine ⟨p, hp, ?_⟩
  obtain ⟨h1, h2, h3, h4, h5, h6, h7, h8, h9⟩ := hok
  exact ⟨by rwa [encode_single hc hl hd], by rwa [encode_single hc hl hd], h3, h4, h5,
    by simpa only [encode_single hc hl hd] using h6, by rwa [decode_single hc hl hd],
    by rwa [encode_single hc hl hd], h9⟩

theorem Typed.passage {ct : ClassType} {v : PyValue} (h : Typed ct v) : HasPassage ct v := by
  induction h with
  | scalar h => exact h.passage
  | enum hn => exact enum_passage hn
  | enumInt hn => exact enumInt_passage hn
  | struct hnd hsome hty ih =>
    obtain ⟨p, hp, hok, -⟩ := struct_passage hnd hsome fun f hf x hx => ⟨hty f hf x hx, ih f hf x hx⟩
    exact ⟨p, hp, hok⟩
  | array _ hn => exact hn.passage
  | list _ ih => exact list_passage ih
  | dict hk hkeys hd _ _ ih => exact dict_passage hk hkeys hd ih
  | single hc hty ih => exact single_passage hc hty.head_ne.1 hty.head_ne.2 ih

/-! ## `to_bytes` and `from_bytes` -/

/-- `from_bytes` is `_decode` of the unpacked object under the structure class, once the
bytes unpack. -/
theorem fromBytes_eq {β : Type} (codec : Codec β) (name : String)
    (fields : List (String × ClassType)) {b : β} {obj : PyValue}
    (h : (codec.unpack b >>= unpackb) = .ok obj) :
    Structure.fromBytes codec name fields b = decode obj (.structure name fields) := by
  rw [decode_structure]
  simp only [Structure.fromBytes, ClassType.default, h]
  cases initFields fields [] with
  | error => rfl
  | ok attrs =>
    show (match Structure.fromDict (.struct name fields attrs) obj with
      | EStateM.Result.ok () inst => Except.ok inst
      | EStateM.Result.error e _ => Except.error e : Except PyError PyValue) = _
    simp only [Structure.fromDict, Except.bind]
    cases fromDictLoop (inputDictGet obj) fields attrs <;> rfl

/-- `to_bytes` of an instance whose encoding msgpack sends as `o`. -/
theorem toBytes_of_encode {β : Type} (codec : Codec β) {name : String}
    {fields : List (String × ClassType)} {attrs : List (String × PyValue)} {e v' : PyValue}
    {o : MsgObj} (he : encode (.struct name fields attrs) (.structure name fields) = .ok e v')
    (hp : packb e = .ok o) :
    Structure.toBytes codec (.struct name fields attrs) = .ok (codec.pack o) v' := by
  rw [encode_struct] at he
  simp [Structure.toBytes, he, hp]

/-- Byte-level round trip: for an instance `v` typed for its structure class,
`S.from_bytes(v.to_bytes())` returns an instance `x` whose `to_bytes()` are `v`'s bytes, so
that `x == v` holds, `v` being the instance as `to_bytes` left it. -/
theorem fromBytes_toBytes_roundTrip {β : Type} [DecidableEq β] (codec : Codec β) {name : String}
    {fields : List (String × ClassType)} {v : PyValue} (hv : Typed (.structure name fields) v) :
    ∃ b v₁ x x₁, Structure.toBytes codec v = .ok b v₁ ∧
      Structure.fromBytes codec name fields b = .ok x ∧
      Structure.toBytes codec x = .ok b x₁ ∧
      Structure.eq codec x v₁ = .ok true (x₁, v₁) := by
  cases hv with
  | scalar h => cases h
  | struct hnd hsome hty =>
    obtain ⟨p, hp, hok, ⟨a, hpost⟩, ⟨a', hdec⟩⟩ :=
      @struct_passage name _ _ hnd hsome fun f hf x hx => ⟨hty f hf x hx, (hty f hf x hx).passage⟩
    have hx : Structure.toBytes codec p.dec = .ok (codec.pack p.wire) p.dpost := by
      have he := hok.encode_dec
      rw [hdec] at he ⊢
      exact toBytes_of_encode codec he hok.packb_denc
    have hv₁ : Structure.toBytes codec p.post = .ok (codec.pack p.wire) p.post := by
      have he := hok.encode_post
      rw [hpost] at he ⊢
      exact toBytes_of_encode codec he hok.packb_enc
    refine ⟨codec.pack p.wire, p.post, p.dec, p.dpost, toBytes_of_encode codec hp hok.packb_enc,
      ?_, hx, by simp [Structure.eq, hx, hv₁]⟩
    rw [fromBytes_eq codec name fields (by rw [codec.unpack_pack]; exact hok.unpackb_wire)]
    exact hok.decode_raw

theorem fromBytes_toBytes_point :
    Typed (.structure "Point" [("x", .integer), ("label", .string)])
        (.struct "Point" [("x", .integer), ("label", .string)] [("x", .int 3), ("label", .str ['a'])]) ∧
      ∃ b v₁ x x₁,
        Structure.toBytes Codec.wire
            (.struct "Point" [("x", .integer), ("label", .string)] [("x", .int 3), ("label", .str ['a'])]) =
          .ok b v₁ ∧
        Structure.fromBytes Codec.wire "Point" [("x", .integer), ("label", .string)] b = .ok x ∧
        Structure.toBytes Codec.wire x = .ok b x₁ ∧ Structure.eq Codec.wire x v₁ = .ok true (x₁, v₁) := by
  have h : Typed (.structure "Point" [("x", .integer), ("label", .string)])
      (.struct "Point" [("x", .integer), ("label", .string)] [("x", .int 3), ("label", .str ['a'])]) := by
    refine .struct (by decide) (by decide) fun f hf x hx => ?_
    simp only [List.mem_cons, List.mem_singleton, List.not_mem_nil, or_false] at hf
    rcases hf with rfl | rfl <;> simp [Dict.get?] at hx <;> subst hx
    · exact .scalar (.integer (by decide))
    · exact .scalar (.str _)
  exact ⟨h, fromBytes_toBytes_roundTrip Codec.wire h⟩

end SensCord
