import Mathlib

/-!
# SensCord.Python

The pieces of the Python runtime that the modelled modules share: the exceptions they
raise, the insertion-ordered `dict`, and the index arithmetic of `slice` and `range`.

A `dict` is an association list kept in insertion order.  `d[k] = v` overwrites the value
of an equal key where it stands and appends a new key at the end, which is CPython's dict
since 3.7; `d.get(k)` reads the value of the first equal key.  Key equality is the key
type's `==`, passed as a `BEq` instance.
-/

namespace SensCord

/-- The Python exceptions the modelled code raises, with the message where the code
writes one. -/
inductive PyError where
  | typeError (msg : String)
  | indexError (msg : String)
  | attributeError (msg : String)
  | valueError (msg : String)
  | unicodeDecodeError
  | overflowError
  | bufferError (msg : String)
  | stopIteration
  | unpackError
  deriving Repr, DecidableEq

/-! ## Raising through `Except` -/

namespace Except

variable {ε α β : Type}

@[simp] theorem ok_bind (a : α) (f : α → Except ε β) : (Except.ok a >>= f) = f a := rfl

@[simp] theorem error_bind (e : ε) (f : α → Except ε β) :
    (Except.error e >>= f) = Except.error e := rfl

@[simp] theorem pure_eq (a : α) : (pure a : Except ε α) = .ok a := rfl

@[simp] theorem throw_eq (e : ε) : (throw e : Except ε α) = .error e := rfl

@[simp] theorem map_ok (f : α → β) (a : α) : (f <$> (Except.ok a : Except ε α)) = .ok (f a) := rfl

@[simp] theorem map_error (f : α → β) (e : ε) :
    (f <$> (Except.error e : Except ε α)) = .error e := rfl

/-- A `mapM` whose every call returns gives the list of the results. -/
theorem mapM_of_forall {f : α → Except ε β} {g : α → β} :
    ∀ {l : List α}, (∀ x ∈ l, f x = .ok (g x)) → l.mapM f = .ok (l.map g)
  | [], _ => rfl
  | x :: l, h => by
    rw [List.mapM_cons, h x (List.mem_cons_self _ _),
      mapM_of_forall fun y hy => h y (List.mem_cons_of_mem _ hy)]
    rfl

/-- A `mapM` returns exactly when every call returns, each with its own result. -/
theorem mapM_eq_ok_iff {f : α → Except ε β} :
    ∀ {l : List α} {l' : List β}, l.mapM f = .ok l' ↔ List.Forall₂ (fun x y => f x = .ok y) l l'
  | [], l' => by
    rw [List.mapM_nil, List.forall₂_nil_left_iff]
    exact ⟨fun h => (Except.ok.inj h).symm, fun h => h ▸ rfl⟩
  | x :: l, l' => by
    have ih : ∀ {ys}, l.mapM f = .ok ys ↔ _ := fun {ys} => @mapM_eq_ok_iff f l ys
    rw [List.mapM_cons, List.forall₂_cons_left_iff]
    cases hx : f x with
    | error e => simp
    | ok y =>
      cases hl : l.mapM f with
      | error e =>
        simp only [hl, reduceCtorEq, false_iff] at ih
        simp [ih]
      | ok ys =>
        simp only [hl, Except.ok.injEq] at ih
        simp [← ih, eq_comm]
end Except

/-! ## Lists related elementwise -/

section Forall₂

variable {α β γ : Type} {R : α → β → Prop} {S : β → γ → Prop}

/-- Choosing a related element for every element of a list, keeping a property of the
choices. -/
theorem exists_forall₂ {P : β → Prop} :
    ∀ {l : List α}, (∀ x ∈ l, ∃ y, R x y ∧ P y) → ∃ l', List.Forall₂ R l l' ∧ ∀ y ∈ l', P y
  | [], _ => ⟨[], .nil, by simp⟩
  | x :: l, h => by
    obtain ⟨y, hxy, hy⟩ := h x (List.mem_cons_self _ _)
    obtain ⟨l', hl, hl'⟩ := exists_forall₂ fun z hz => h z (List.mem_cons_of_mem _ hz)
    exact ⟨y :: l', .cons hxy hl, by simpa [hy] using hl'⟩

/-- Two elementwise relations in a row are one, through the intermediate elements. -/
theorem forall₂_comp_iff :
    ∀ {l : List α} {l'' : List γ}, (∃ l', List.Forall₂ R l l' ∧ List.Forall₂ S l' l'') ↔
      List.Forall₂ (fun x z => ∃ y, R x y ∧ S y z) l l''
  | [], l'' => by simp [eq_comm]
  | x :: l, l'' => by
    have ih : ∀ {zs}, _ ↔ _ := fun {zs} => @forall₂_comp_iff l zs
    simp only [List.forall₂_cons_left_iff]
    constructor
    · rintro ⟨_, ⟨y, l', hxy, hl, rfl⟩, hS⟩
      obtain ⟨z, l'', hyz, hl'', rfl⟩ := List.forall₂_cons_left_iff.mp hS
      exact ⟨z, l'', ⟨y, hxy, hyz⟩, ih.mp ⟨l', hl, hl''⟩, rfl⟩
    · rintro ⟨z, l'', ⟨y, hxy, hyz⟩, hl, rfl⟩
      obtain ⟨l', hl, hl''⟩ := ih.mpr hl
      exact ⟨y :: l', ⟨y, l', hxy, hl, rfl⟩, .cons hyz hl''⟩

/-- Two images of one list are related elementwise when each element's images are. -/
theorem forall₂_map_map {T : β → γ → Prop} {f : α → β} {g : α → γ} {l : List α} :
    List.Forall₂ T (l.map f) (l.map g) ↔ ∀ x ∈ l, T (f x) (g x) := by
  rw [List.forall₂_map_left_iff, List.forall₂_map_right_iff, List.forall₂_same]

/-- Lists related by equal images have equal images. -/
theorem map_eq_map_of_forall₂ {f : α → γ} {g : β → γ} {l : List α} {l' : List β}
    (h : List.Forall₂ (fun x y => f x = g y) l l') : l.map f = l'.map g := by
  induction h with
  | nil => rfl
  | cons hxy _ ih => simp [hxy, ih]

end Forall₂

namespace Dict

variable {κ α : Type} [BEq κ]

/-- `d[k] = v`. -/
def set : List (κ × α) → κ → α → List (κ × α)
  | [], k, v => [(k, v)]
  | (k', v') :: d, k, v => if k' == k then (k', v) :: d else (k', v') :: set d k v

/-- `d.get(k)`, with `none` for a missing key. -/
def get? : List (κ × α) → κ → Option α
  | [], _ => none
  | (k', v') :: d, k => if k' == k then some v' else get? d k

theorem set_ne_nil (d : List (κ × α)) (k : κ) (v : α) : set d k v ≠ [] := by
  cases d with
  | nil => simp [set]
  | cons e d => simp only [set]; split_ifs <;> simp

/-- Setting a key no entry equals appends it. -/
theorem set_of_forall_ne {d : List (κ × α)} {k : κ} (v : α)
    (h : ∀ e ∈ d, (e.1 == k) = false) : set d k v = d ++ [(k, v)] := by
  induction d with
  | nil => rfl
  | cons e d ih =>
    obtain ⟨k', v'⟩ := e
    simp only [List.mem_cons, forall_eq_or_imp] at h
    simp [set, h.1, ih h.2]

/-- Setting a key some entry equals keeps every key where it was. -/
theorem map_fst_set {d : List (κ × α)} {k : κ} (v : α) (h : ∃ e ∈ d, (e.1 == k) = true) :
    (set d k v).map Prod.fst = d.map Prod.fst := by
  induction d with
  | nil => simp at h
  | cons e d ih =>
    obtain ⟨k', v'⟩ := e
    by_cases hk : (k' == k) = true
    · simp only [set, hk, if_true, List.map_cons]
    · simp only [List.mem_cons, exists_eq_or_imp, hk, Bool.false_eq_true, false_or] at h
      simp only [set, hk, Bool.false_eq_true, if_false, List.map_cons, ih h]

section Lawful

variable [LawfulBEq κ]

/-- Every entry after `d[k] = v` was an entry before, or is `(k, v)`. -/
theorem mem_set {d : List (κ × α)} {k : κ} {v : α} {e : κ × α} (h : e ∈ set d k v) :
    e ∈ d ∨ e = (k, v) := by
  induction d with
  | nil => simpa [set] using h
  | cons e' d ih =>
    obtain ⟨k', v'⟩ := e'
    by_cases hk : k' = k
    · subst hk
      simp only [set, beq_self_eq_true, if_true, List.mem_cons] at h
      rcases h with rfl | h
      · exact .inr rfl
      · exact .inl (List.mem_cons_of_mem _ h)
    · simp only [set, beq_iff_eq, hk, if_false, List.mem_cons] at h
      rcases h with rfl | h
      · exact .inl (List.mem_cons_self _ _)
      · exact (ih h).imp_left (List.mem_cons_of_mem _)

/-- `d[k] = v` keeps the keys pairwise distinct. -/
theorem nodup_set {d : List (κ × α)} (k : κ) (v : α) (h : (d.map Prod.fst).Nodup) :
    ((set d k v).map Prod.fst).Nodup := by
  by_cases hk : ∃ e ∈ d, (e.1 == k) = true
  · rwa [map_fst_set v hk]
  · simp only [not_exists, not_and, Bool.not_eq_true] at hk
    rw [set_of_forall_ne v hk, List.map_append, List.nodup_append]
    refine ⟨h, List.nodup_singleton _, ?_⟩
    simp only [List.map_cons, List.map_nil, List.disjoint_singleton, List.mem_map, not_exists,
      not_and]
    intro e he hek
    simpa [hek] using hk e he

/-- Setting a key twice is setting it once, to the second value. -/
theorem set_set (d : List (κ × α)) (k : κ) (v w : α) : set (set d k v) k w = set d k w := by
  induction d with
  | nil => simp [set]
  | cons e d ih =>
    obtain ⟨k', v'⟩ := e
    by_cases hk : k' = k
    · simp [set, hk]
    · simp [set, beq_iff_eq, hk, ih]

theorem get?_set (d : List (κ × α)) (k k' : κ) (v : α) :
    get? (set d k v) k' = if k == k' then some v else get? d k' := by
  induction d with
  | nil => simp [set, get?]
  | cons e d ih =>
    obtain ⟨k'', v'⟩ := e
    by_cases h1 : k'' = k
    · subst h1
      by_cases h2 : k'' = k' <;> simp [set, get?, h2]
    · by_cases h2 : k'' = k'
      · subst h2
        simp [set, get?, h1, Ne.symm h1]
      · simp [set, get?, h1, h2, ih]

/-- Setting a key to the value it reads changes nothing. -/
theorem set_of_get? {d : List (κ × α)} {k : κ} {v : α} (h : get? d k = some v) : set d k v = d := by
  induction d with
  | nil => simp [get?] at h
  | cons e d ih =>
    obtain ⟨k', v'⟩ := e
    by_cases hk : k' = k
    · subst hk
      simp only [get?, beq_self_eq_true, if_true, Option.some.injEq] at h
      simp [set, h]
    · simp only [get?, beq_iff_eq, hk, if_false] at h
      simp [set, hk, ih h]

section Foldl

variable {β : Type} {key : β → κ} {val : β → α}

/-- Setting keys to the values they read changes nothing. -/
theorem foldl_set_of_get? {ts : List β} {d : List (κ × α)}
    (h : ∀ t ∈ ts, get? d (key t) = some (val t)) :
    ts.foldl (fun a t => set a (key t) (val t)) d = d := by
  induction ts with
  | nil => rfl
  | cons t ts ih =>
    rw [List.foldl_cons, set_of_get? (h t (List.mem_cons_self _ _))]
    exact ih fun t' ht' => h t' (List.mem_cons_of_mem _ ht')

/-- Setting keys none of which is `k` leaves what `k` reads. -/
theorem get?_foldl_set_of_not_mem {ts : List β} {k : κ} (h : k ∉ ts.map key)
    (d : List (κ × α)) : get? (ts.foldl (fun a t => set a (key t) (val t)) d) k = get? d k := by
  induction ts generalizing d with
  | nil => rfl
  | cons t ts ih =>
    simp only [List.map_cons, List.mem_cons, not_or] at h
    rw [List.foldl_cons, ih h.2, get?_set, if_neg (by simpa using Ne.symm h.1)]

/-- After setting keys pairwise distinct, each key reads the value it was set to. -/
theorem get?_foldl_set {ts : List β} (h : (ts.map key).Nodup) {t : β} (ht : t ∈ ts)
    (d : List (κ × α)) : get? (ts.foldl (fun a t => set a (key t) (val t)) d) (key t) = some (val t) := by
  induction ts generalizing d with
  | nil => simp at ht
  | cons s ts ih =>
    simp only [List.map_cons, List.nodup_cons] at h
    rw [List.foldl_cons]
    rcases List.mem_cons.mp ht with rfl | ht
    · rw [get?_foldl_set_of_not_mem h.1, get?_set, if_pos (beq_self_eq_true _)]
    · exact ih h.2 ht _

end Foldl

/-- Building a dict from its own entries, in order, gives it back when its keys are
pairwise distinct. -/
theorem foldl_set_self {d : List (κ × α)} (h : (d.map Prod.fst).Nodup) :
    d.foldl (fun acc e => set acc e.1 e.2) [] = d := by
  suffices ∀ acc : List (κ × α), ((acc ++ d).map Prod.fst).Nodup →
      d.foldl (fun acc e => set acc e.1 e.2) acc = acc ++ d by
    simpa using this [] (by simpa using h)
  clear h
  induction d with
  | nil => simp
  | cons e d ih =>
    intro acc hnd
    have hne : ∀ e' ∈ acc, (e'.1 == e.1) = false := by
      intro e' he'
      have := (List.nodup_append.mp (by simpa using hnd)).2.2
      simp only [List.map_cons, List.disjoint_cons_right, List.mem_map, not_exists, not_and] at this
      simpa using fun hk => this.1 e' he' hk
    simp only [List.foldl_cons, set_of_forall_ne e.2 hne]
    rw [ih (acc ++ [(e.1, e.2)]) (by simpa using hnd)]
    simp

end Lawful

end Dict

/-! ## Slices and ranges -/

/-- `slice(start, stop, step).indices(length)`, as CPython's `_PySlice_GetLongIndices`
computes it: a negative bound counts from the end, and both bounds are clamped into
`[lower, upper]`, which is `[0, length]` for a positive step and `[-1, length - 1]` for a
negative one. -/
def sliceIndices (start stop step : Option Int) (length : Nat) : Except PyError (Int × Int × Int) :=
  let step := step.getD 1
  if step = 0 then .error (.valueError "slice step cannot be zero") else
  let lower : Int := if step < 0 then -1 else 0
  let upper : Int := if step < 0 then length - 1 else length
  let clamp (i : Int) : Int :=
    if i < 0 then (if i + length < lower then lower else i + length)
    else if upper < i then upper else i
  .ok (start.elim (if step < 0 then upper else lower) clamp,
    stop.elim (if step < 0 then lower else upper) clamp, step)

/-- `len(range(start, stop, step))` for a nonzero step. -/
def rangeLength (start stop step : Int) : Nat :=
  if 0 < step then
    if start < stop then ((stop - start - 1) / step + 1).toNat else 0
  else
    if stop < start then ((start - stop - 1) / (-step) + 1).toNat else 0

/-- The elements of `range(start, stop, step)`, in order. -/
def pyRange (start stop step : Int) : List Int :=
  (List.range (rangeLength start stop step)).map fun j : Nat => start + step * (j : Int)

/-- Bounds inside the sequence and no step: `slice.indices` keeps them, with step 1. -/
theorem sliceIndices_of_le {a b : Int} {length : Nat} (ha : 0 ≤ a) (hb : 0 ≤ b)
    (ha' : a ≤ length) (hb' : b ≤ length) :
    sliceIndices (some a) (some b) none length = .ok (a, b, 1) := by
  simp only [sliceIndices, Option.getD_none, Option.elim]
  rw [if_neg (by omega)]
  simp only [if_neg (show ¬(1 : Int) < 0 by omega), if_neg (show ¬a < 0 by omega),
    if_neg (show ¬b < 0 by omega), if_neg (show ¬(length : Int) < a by omega),
    if_neg (show ¬(length : Int) < b by omega)]

section Text

variable {α : Type}

/-- `s[start:stop]`: the bounds clamped by `slice.indices`, step 1. -/
def pySlice (s : List α) (start stop : Int) : List α :=
  match sliceIndices (some start) (some stop) none s.length with
  | .ok (lo, hi, _) => (s.drop lo.toNat).take (hi - lo).toNat
  | .error _ => []

/-- A slice with bounds inside the sequence is its plain `drop`/`take`. -/
theorem pySlice_of_le {s : List α} {a b : Int} (ha : 0 ≤ a) (hb : 0 ≤ b) (ha' : a ≤ s.length)
    (hb' : b ≤ s.length) : pySlice s a b = (s.drop a.toNat).take (b - a).toNat := by
  rw [pySlice, sliceIndices_of_le ha hb ha' hb']

/-- A slice holds only elements of the sequence. -/
theorem mem_of_mem_pySlice {s : List α} {a b : Int} {x : α} (h : x ∈ pySlice s a b) : x ∈ s := by
  unfold pySlice at h
  split at h
  · exact List.mem_of_mem_drop (List.mem_of_mem_take h)
  · simp at h

/-- A slice starting at `a` holds only elements from `a` on. -/
theorem mem_drop_of_mem_pySlice {s : List α} {a b : Int} {x : α} (ha : 0 ≤ a) (ha' : a ≤ s.length)
    (h : x ∈ pySlice s a b) : x ∈ s.drop a.toNat := by
  simp only [pySlice, sliceIndices, Option.getD_none, Option.elim] at h
  rw [if_neg (by omega)] at h
  simp only [if_neg (show ¬(1 : Int) < 0 by omega), if_neg (show ¬a < 0 by omega),
    if_neg (show ¬(s.length : Int) < a by omega)] at h
  exact List.mem_of_mem_take h

/-- A slice stopping at `b` holds only elements before `b`. -/
theorem mem_take_of_mem_pySlice {s : List α} {a b : Int} {x : α} (hb : 0 ≤ b) (hb' : b ≤ s.length)
    (h : x ∈ pySlice s a b) : x ∈ s.take b.toNat := by
  simp only [pySlice, sliceIndices, Option.getD_none, Option.elim] at h
  rw [if_neg (by omega)] at h
  simp only [if_neg (show ¬(1 : Int) < 0 by omega), if_neg (show ¬b < 0 by omega),
    if_neg (show ¬(s.length : Int) < b by omega)] at h
  generalize hlo : (if a < 0 then (if a + s.length < 0 then 0 else a + s.length)
    else if (s.length : Int) < a then (s.length : Int) else a) = lo at h
  have hlo0 : 0 ≤ lo := by rw [← hlo]; split_ifs <;> omega
  by_cases hle : lo ≤ b
  · rw [List.take_drop, show lo.toNat + (b - lo).toNat = b.toNat by omega] at h
    exact List.mem_of_mem_drop h
  · simp [show (b - lo).toNat = 0 by omega] at h

variable [DecidableEq α]

/-- `s.find(c)`: the index of the first `c`, or `-1`. -/
def find (s : List α) (c : α) : Int := if c ∈ s then s.indexOf c else -1

/-- `s.rfind(c)`: the index of the last `c`, or `-1`. -/
def rfind (s : List α) (c : α) : Int :=
  if c ∈ s then s.length - 1 - s.reverse.indexOf c else -1

/-- The first `c` of a sequence is found where the part before it ends. -/
theorem find_append_cons {l t : List α} {c : α} (h : c ∉ l) : find (l ++ c :: t) c = l.length := by
  simp [find, List.indexOf_append_of_not_mem h, List.indexOf_cons_self]

theorem find_of_not_mem {l : List α} {c : α} (h : c ∉ l) : find l c = -1 := if_neg h

/-- The last `c` of a sequence is found where the part before it ends. -/
theorem rfind_append_cons {l t : List α} {c : α} (h : c ∉ t) : rfind (l ++ c :: t) c = l.length := by
  have hr : (t.reverse ++ c :: l.reverse).indexOf c = t.length := by
    rw [List.indexOf_append_of_not_mem (by simpa using h), List.indexOf_cons_self]
    simp
  simp only [rfind, List.mem_append, List.mem_cons, true_or, or_true, if_true,
    List.reverse_append, List.reverse_cons, List.append_assoc, List.singleton_append, hr,
    List.length_append, List.length_cons]
  omega

theorem rfind_of_not_mem {l : List α} {c : α} (h : c ∉ l) : rfind l c = -1 := if_neg h

theorem rfind_lt_length (l : List α) (c : α) : rfind l c < l.length := by
  unfold rfind
  split_ifs with h
  · have := List.length_pos_of_mem h
    omega
  · omega

/-- A sequence holding `c` splits at its first `c`. -/
theorem exists_first {s : List α} {c : α} (h : c ∈ s) : ∃ l t, s = l ++ c :: t ∧ c ∉ l := by
  induction s with
  | nil => simp at h
  | cons x s ih =>
    by_cases hx : x = c
    · exact ⟨[], s, by simp [hx], by simp⟩
    · obtain ⟨l, t, rfl, hl⟩ := ih (by simpa [Ne.symm hx] using h)
      exact ⟨x :: l, t, rfl, by simp [Ne.symm hx, hl]⟩

/-- A sequence holding `c` splits at its last `c`. -/
theorem exists_last {s : List α} {c : α} (h : c ∈ s) : ∃ l t, s = l ++ c :: t ∧ c ∉ t := by
  induction s with
  | nil => simp at h
  | cons x s ih =>
    by_cases hs : c ∈ s
    · obtain ⟨l, t, rfl, ht⟩ := ih hs
      exact ⟨x :: l, t, rfl, ht⟩
    · exact ⟨[], s, by simp [(List.mem_cons.mp h).resolve_right hs], hs⟩

/-- The first `c` of a sequence lies in a part before it that holds a `c`. -/
theorem find_append_of_mem {l t : List α} {c : α} (h : c ∈ l) :
    0 ≤ find (l ++ t) c ∧ find (l ++ t) c < l.length := by
  obtain ⟨l₁, l₂, rfl, hl₁⟩ := exists_first h
  rw [List.append_assoc, List.cons_append, find_append_cons hl₁]
  simp only [List.length_append, List.length_cons]
  omega

/-- The last `c` of a sequence lies at or after any of its `c`. -/
theorem le_rfind (l t : List α) (c : α) : (l.length : Int) ≤ rfind (l ++ c :: t) c := by
  by_cases ht : c ∈ t
  · obtain ⟨t₁, t₂, rfl, ht₂⟩ := exists_last ht
    rw [show l ++ c :: (t₁ ++ c :: t₂) = (l ++ c :: t₁) ++ c :: t₂ by simp,
      rfind_append_cons ht₂]
    simp only [List.length_append, List.length_cons]
    omega
  · rw [rfind_append_cons ht]

end Text

end SensCord
