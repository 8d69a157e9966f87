import SensCord.PropertyUtils

/-!
# SensCord.PropertyUtils.Reparse

A key that `PropertyUtils.set_channel_id` composes parses back.  The composer writes the
base, then `[`, the attributes `name=value` joined by `,`, then `]`; the attributes that
`_parse_append_info` stores never hold `,`, `[` or `]` (`AttrOk`), so on a base without
brackets the last `[` and the first `]` of the composed key are the ones around the
attribute block, `split(',')` undoes the join, and every item splits at its first `=`
into the stored name and value (`parseDecodedKey_compose`).  A base can hold a `]`, though:
then the first `]` lies in the base, before the last `[`, and the key reads with no
attributes at all (`parseDecodedKey_bracket`).
-/

namespace SensCord

namespace PropertyUtilsParam

/-! ## Delimiting characters -/

/-- Text with no `,`, `[` or `]` in it. -/
def Plain (s : List Char) : Prop := ∀ x ∈ s, x ≠ ',' ∧ x ≠ '[' ∧ x ≠ ']'

theorem Plain.mono {s t : List Char} (h : ∀ x ∈ t, x ∈ s) (hs : Plain s) : Plain t :=
  fun x hx => hs x (h x hx)

/-- An attribute as `_parse_append_info` stores it: the name ends at its only `=`, and
neither name nor value holds a delimiter. -/
structure AttrOk (e : List Char × List Char) : Prop where
  name_eq : ∃ n, e.1 = n ++ ['='] ∧ '=' ∉ n
  plain_name : Plain e.1
  plain_value : Plain e.2

/-- The attributes as `get_full_key` writes them between the brackets. -/
def body (d : List (List Char × List Char)) : List Char :=
  [','].intercalate (d.map fun e => e.1 ++ e.2)

@[simp] theorem body_nil : body [] = [] := rfl

@[simp] theorem body_singleton (e : List Char × List Char) : body [e] = e.1 ++ e.2 := by
  simp [body, List.intercalate]

theorem body_cons_cons (e e' : List Char × List Char) (d : List (List Char × List Char)) :
    body (e :: e' :: d) = e.1 ++ e.2 ++ ',' :: body (e' :: d) := by
  simp [body, List.intercalate, List.intersperse_cons_cons]

/-- Between the brackets there are only the attributes' characters and `,`. -/
theorem mem_body {x : Char} : ∀ {d : List (List Char × List Char)}, x ∈ body d →
    x = ',' ∨ ∃ e ∈ d, x ∈ e.1 ++ e.2
  | [], h => by simp at h
  | [e], h => .inr ⟨e, List.mem_singleton_self _, by simpa using h⟩
  | e :: e' :: d, h => by
    rw [body_cons_cons] at h
    simp only [List.append_assoc, List.mem_append, List.mem_cons] at h
    rcases h with h | h | h | h
    · exact .inr ⟨e, List.mem_cons_self _ _, List.mem_append_left _ h⟩
    · exact .inr ⟨e, List.mem_cons_self _ _, List.mem_append_right _ h⟩
    · exact .inl h
    · rcases mem_body h with h | ⟨e'', he'', hx⟩
      · exact .inl h
      · exact .inr ⟨e'', List.mem_cons_of_mem _ he'', hx⟩

theorem plain_body {d : List (List Char × List Char)} (hd : ∀ e ∈ d, AttrOk e) :
    '[' ∉ body d ∧ ']' ∉ body d := by
  have hne : ∀ x ∈ body d, x ≠ '[' ∧ x ≠ ']' := fun x hx => by
    rcases mem_body hx with rfl | ⟨e, he, hx⟩
    · decide
    · rcases List.mem_append.mp hx with hx | hx
      · exact ((hd e he).plain_name x hx).2
      · exact ((hd e he).plain_value x hx).2
  exact ⟨fun h => (hne _ h).1 rfl, fun h => (hne _ h).2 rfl⟩

/-- `str(n)` of a natural number is its decimal digits. -/
theorem plain_toDigitsCore : ∀ (fuel n : Nat) (acc : List Char), Plain acc →
    Plain (Nat.toDigitsCore 10 fuel n acc)
  | 0, _, _, h => h
  | fuel + 1, n, acc, h => by
    have hd : Plain [Nat.digitChar (n % 10)] := by
      have : ∀ k < 10, Nat.digitChar k ≠ ',' ∧ Nat.digitChar k ≠ '[' ∧ Nat.digitChar k ≠ ']' := by
        decide
      simpa [Plain] using this _ (Nat.mod_lt n (by omega))
    have hcons : Plain (Nat.digitChar (n % 10) :: acc) := fun x hx => by
      rcases List.mem_cons.mp hx with rfl | hx
      exacts [hd _ (List.mem_singleton_self _), h x hx]
    simp only [Nat.toDigitsCore]
    split_ifs
    · exact hcons
    · exact plain_toDigitsCore fuel _ _ hcons

theorem plain_toString {c : Int} (hc : 0 ≤ c) : Plain (toString c).toList := by
  obtain ⟨n, rfl⟩ := Int.eq_ofNat_of_zero_le hc
  exact plain_toDigitsCore _ _ _ (by simp [Plain])

/-! ## What the parser stores -/

/-- An item of `split(c)` holds no `c`, and only characters of the split text. -/
theorem mem_splitOn {c : Char} : ∀ {xs l : List Char}, l ∈ xs.splitOn c → c ∉ l ∧ ∀ x ∈ l, x ∈ xs
  | [], l, h => by simp_all
  | a :: xs, l, h => by
    have ih := @mem_splitOn c xs
    simp only [List.splitOn, List.splitOnP_cons] at h ih
    split_ifs at h with ha
    · rcases List.mem_cons.mp h with rfl | h
      · simp
      · exact (ih h).imp_right fun hx x hmem => List.mem_cons_of_mem _ (hx x hmem)
    · cases hs : xs.splitOnP (· == c) with
      | nil => exact absurd hs (List.splitOnP_ne_nil _ _)
      | cons l₀ ls =>
        rw [hs] at h ih
        rcases List.mem_cons.mp h with rfl | h
        · obtain ⟨hc, hsub⟩ := ih (List.mem_cons_self _ _)
          refine ⟨?_, fun x hx => ?_⟩
          · simp only [List.mem_cons, not_or]
            exact ⟨fun hca => ha (by simp [hca]), hc⟩
          · rcases List.mem_cons.mp hx with rfl | hx
            exacts [List.mem_cons_self _ _, List.mem_cons_of_mem _ (hsub x hx)]
        · exact (ih (List.mem_cons_of_mem _ h)).imp_right
            fun hx x hmem => List.mem_cons_of_mem _ (hx x hmem)

/-- The attribute block lies after the last `[` and before the first `]`. -/
theorem segment_ne {s : List Char} {x : Char}
    (h : x ∈ pySlice s (rfind s '[' + 1) (find s ']')) : x ≠ '[' ∧ x ≠ ']' := by
  refine ⟨fun hx => ?_, fun hx => ?_⟩ <;> subst hx
  · by_cases hl : '[' ∈ s
    · obtain ⟨l, t, rfl, ht⟩ := exists_last hl
      rw [rfind_append_cons ht] at h
      have := mem_drop_of_mem_pySlice (by omega)
        (by simp only [List.length_append, List.length_cons]; omega) h
      simp [show (l.length + 1 : Int).toNat = l.length + 1 by omega] at this
      exact ht this
    · exact hl (mem_of_mem_pySlice h)
  · by_cases hr : ']' ∈ s
    · obtain ⟨p, q, rfl, hp⟩ := exists_first hr
      rw [find_append_cons hp] at h
      have := mem_take_of_mem_pySlice (by omega)
        (by simp only [List.length_append, List.length_cons]; omega) h
      simp at this
      exact hp this
    · exact hr (mem_of_mem_pySlice h)

/-- An item with a `=` splits at its first `=`, the `=` kept with the name. -/
theorem readAttr {n w : List Char} (hn : '=' ∉ n) :
    let item := n ++ '=' :: w
    find item '=' ≠ -1 ∧ pySlice item 0 (find item '=' + 1) = n ++ ['='] ∧
      pySlice item (find item '=' + 1) item.length = w := by
  have hitem : n ++ '=' :: w = (n ++ ['=']) ++ w := by simp
  have hlen : ((n.length : Int) + 1).toNat = (n ++ ['=']).length := by simp
  have hL : (((n ++ ['=']) ++ w).length : Int) = n.length + 1 + w.length := by simp; omega
  simp only [find_append_cons hn]
  refine ⟨by omega, ?_, ?_⟩ <;> rw [hitem]
  · rw [pySlice_of_le (by omega) (by omega) (by omega) (by omega), Int.sub_zero, hlen,
      Int.toNat_zero, List.drop_zero, List.take_left]
  · rw [pySlice_of_le (by omega) (by omega) (by omega) le_rfl, hlen, List.drop_left,
      List.take_of_length_le]
    omega

/-- Storing an attribute read from a delimiter-free item keeps every attribute well formed
and the names distinct. -/
theorem step_ok {d : List (List Char × List Char)} {item : List Char} (hitem : Plain item)
    (hd : ∀ e ∈ d, AttrOk e) (hnd : (d.map Prod.fst).Nodup) :
    let d' := if find item '=' ≠ -1 then
      Dict.set d (pySlice item 0 (find item '=' + 1))
        (pySlice item (find item '=' + 1) item.length) else d
    (∀ e ∈ d', AttrOk e) ∧ (d'.map Prod.fst).Nodup := by
  by_cases heq : '=' ∈ item
  · obtain ⟨n, w, rfl, hn⟩ := exists_first heq
    obtain ⟨hpos, hname, hvalue⟩ := @readAttr n w hn
    simp only [if_pos hpos, hname, hvalue]
    refine ⟨fun e he => ?_, Dict.nodup_set _ _ hnd⟩
    rcases Dict.mem_set he with he | rfl
    · exact hd e he
    · have hsub₁ : ∀ x ∈ n ++ ['='], x ∈ n ++ '=' :: w := by
        simp only [List.mem_append, List.mem_cons, List.mem_singleton]; tauto
      have hsub₂ : ∀ x ∈ w, x ∈ n ++ '=' :: w := by
        simp only [List.mem_append, List.mem_cons]; tauto
      exact ⟨⟨n, rfl, hn⟩, hitem.mono hsub₁, hitem.mono hsub₂⟩
  · simp only [find_of_not_mem heq, ne_eq, not_true_eq_false, if_false]
    exact ⟨hd, hnd⟩

/-- Every attribute `_parse_append_info` stores is well formed, and the names stay
distinct. -/
theorem parseAppendInfo_ok (key : List Char) {d : List (List Char × List Char)}
    (hd : ∀ e ∈ d, AttrOk e) (hnd : (d.map Prod.fst).Nodup) :
    (∀ e ∈ parseAppendInfo d key, AttrOk e) ∧ ((parseAppendInfo d key).map Prod.fst).Nodup := by
  have hitems : ∀ item ∈ (pySlice key (rfind key '[' + 1) (find key ']')).splitOn ',',
      Plain item := fun item hitem x hx => by
    obtain ⟨hc, hsub⟩ := mem_splitOn hitem
    exact ⟨fun h => hc (h ▸ hx), segment_ne (hsub x hx)⟩
  simp only [parseAppendInfo]
  generalize (pySlice key (rfind key '[' + 1) (find key ']')).splitOn ',' = items at hitems
  induction items generalizing d with
  | nil => exact ⟨hd, hnd⟩
  | cons item items ih =>
    obtain ⟨hd', hnd'⟩ := step_ok (hitems item (List.mem_cons_self _ _)) hd hnd
    rw [List.foldl_cons]
    exact ih hd' hnd' fun i hi => hitems i (List.mem_cons_of_mem _ hi)

/-- An empty attribute block stores nothing. -/
theorem parseAppendInfo_of_le {key : List Char} (d : List (List Char × List Char))
    (h0 : 0 ≤ find key ']') (hle : find key ']' ≤ rfind key '[') (hr : rfind key '[' < key.length) :
    parseAppendInfo d key = d := by
  have hseg : pySlice key (rfind key '[' + 1) (find key ']') = [] := by
    rw [pySlice_of_le (by omega) h0 (by omega) (by omega)]
    simp [show (find key ']' - (rfind key '[' + 1)).toNat = 0 by omega]
  simp only [parseAppendInfo, hseg, List.splitOn_nil, List.foldl_cons, List.foldl_nil,
    find_of_not_mem (List.not_mem_nil _)]
  rfl

/-! ## Composing and parsing again -/

/-- The loop of `get_full_key` puts a `,` after every attribute but the last. -/
theorem foldl_makeKey (n : Nat) : ∀ (L : List (List Char × List Char)) (acc : List Char) (i : Nat),
    i + L.length = n →
    (L.foldl (fun (acc : List Char × Nat) e =>
      (if acc.2 + 1 ≠ n then acc.1 ++ e.1 ++ e.2 ++ [','] else acc.1 ++ e.1 ++ e.2, acc.2 + 1))
      (acc, i)).1 = acc ++ body L
  | [], acc, _, _ => by simp
  | [e], acc, i, h => by simp at h; simp [h]
  | e :: e' :: L, acc, i, h => by
    simp only [List.length_cons] at h
    rw [List.foldl_cons]
    dsimp only
    rw [if_pos (by omega), foldl_makeKey n (e' :: L) _ (i + 1) (by simp; omega), body_cons_cons]
    simp

/-- `get_full_key()` of a non-empty base: the base, then the attributes in brackets. -/
theorem getFullKey_eq {p : PropertyUtilsParam} (h : p.key ≠ []) :
    p.getFullKey = p.key ++ '[' :: body p.appendDict ++ [']'] := by
  rw [getFullKey, if_neg h]
  dsimp only
  rw [foldl_makeKey _ _ _ 0 (by simp)]
  simp

theorem find_compose {b x : List Char} (hl : '[' ∉ b) : find (b ++ '[' :: x ++ [']']) '[' = b.length := by
  rw [List.append_assoc, List.cons_append]
  exact find_append_cons hl

theorem rfind_compose (b x : List Char) :
    rfind (b ++ '[' :: x ++ [']']) ']' = (b ++ '[' :: x ++ [']']).length - 1 := by
  rw [rfind_append_cons (List.not_mem_nil _)]
  simp; omega

theorem pySlice_base {b x : List Char} : pySlice (b ++ '[' :: x ++ [']']) 0 b.length = b := by
  rw [pySlice_of_le le_rfl (by omega) (by omega) (by simp; omega), Int.sub_zero]
  simp [List.append_assoc]

/-- `_parse_key` of a composed key whose base holds no bracket reads the base and the
attributes back. -/
theorem parseDecodedKey_compose {b : List Char} {d : List (List Char × List Char)} (hb : b ≠ [])
    (hl : '[' ∉ b) (hr : ']' ∉ b) (hd : ∀ e ∈ d, AttrOk e) (hnd : (d.map Prod.fst).Nodup)
    (hne : d ≠ []) : parseDecodedKey [] (b ++ '[' :: body d ++ [']']) = (d, b) := by
  obtain ⟨hbl, hbr⟩ := plain_body hd
  have hblen : b.length ≠ 0 := by simpa using hb
  have hlast : rfind (b ++ '[' :: body d ++ [']']) '[' = b.length := by
    rw [List.append_assoc, List.cons_append]
    exact rfind_append_cons (by simpa using hbl)
  have hfirst : find (b ++ '[' :: body d ++ [']']) ']' = b.length + 1 + (body d).length := by
    rw [show b ++ '[' :: body d ++ [']'] = (b ++ '[' :: body d) ++ ']' :: [] by simp,
      find_append_cons (by simp [hr, hbr])]
    simp; omega
  have hseg : pySlice (b ++ '[' :: body d ++ [']']) (b.length + 1) (b.length + 1 + (body d).length)
      = body d := by
    rw [pySlice_of_le (by omega) (by omega) (by simp; omega) (by simp; omega)]
    rw [show (b.length + 1 + ((body d).length : Int) - (b.length + 1)).toNat = (body d).length by
      omega, show ((b.length : Int) + 1).toNat = (b ++ ['[']).length by simp]
    simp [List.append_assoc]
  have hitems : (body d).splitOn ',' = d.map fun e => e.1 ++ e.2 :=
    List.splitOn_intercalate _ ',' (fun l hl => by
      obtain ⟨e, he, rfl⟩ := List.mem_map.mp hl
      intro hc
      rcases List.mem_append.mp hc with hc | hc
      exacts [((hd e he).plain_name _ hc).1 rfl, ((hd e he).plain_value _ hc).1 rfl])
      (by simpa using hne)
  have hstep : ∀ (acc : List (List Char × List Char)), ∀ e ∈ d,
      (let pos := find (e.1 ++ e.2) '='
       if pos ≠ -1 then Dict.set acc (pySlice (e.1 ++ e.2) 0 (pos + 1))
         (pySlice (e.1 ++ e.2) (pos + 1) (e.1 ++ e.2).length) else acc) = Dict.set acc e.1 e.2 := by
    intro acc e he
    obtain ⟨n, hn, hne⟩ := (hd e he).name_eq
    obtain ⟨hpos, hname, hvalue⟩ := @readAttr n e.2 hne
    rw [hn, List.append_assoc, List.singleton_append]
    simp only [if_pos hpos, hname, hvalue]
  simp only [parseDecodedKey, find_compose hl, rfind_compose, pySlice_base]
  rw [if_neg (by omega), if_neg (by omega), if_neg (by omega)]
  simp only [parseAppendInfo, hlast, hfirst, hseg, hitems, List.foldl_map]
  rw [List.foldl_ext _ _ _ (hstep), Dict.foldl_set_self hnd]

/-- `_parse_key` of a key whose base holds a `]` reads the base and no attribute. -/
theorem parseDecodedKey_bracket {b : List Char} (hb : b ≠ []) (hl : '[' ∉ b) (hr : ']' ∈ b)
    (x : List Char) : parseDecodedKey [] (b ++ '[' :: x ++ [']']) = ([], b) := by
  have hblen : b.length ≠ 0 := by simpa using hb
  obtain ⟨h0, hlt⟩ := @find_append_of_mem _ _ b ('[' :: x ++ [']']) _ hr
  have hle := le_rfind b (x ++ [']']) '['
  simp only [parseDecodedKey, find_compose hl, rfind_compose, pySlice_base]
  rw [if_neg (by omega), if_neg (by omega), if_neg (by omega),
    parseAppendInfo_of_le [] (by simpa [List.append_assoc] using h0)
      (by simp only [List.append_assoc, List.cons_append] at hlt hle ⊢; omega) (rfind_lt_length _ _)]

/-- What `_parse_key` gives a key it accepts with a non-empty base: a base with no `[`,
well-formed attributes under distinct names, and none at all when the base holds a `]`. -/
theorem parseDecodedKey_accepted {s b : List Char} {d : List (List Char × List Char)}
    (h : parseDecodedKey [] s = (d, b)) (hb : b ≠ []) :
    '[' ∉ b ∧ (∀ e ∈ d, AttrOk e) ∧ (d.map Prod.fst).Nodup ∧ (']' ∈ b → d = []) := by
  simp only [parseDecodedKey] at h
  split_ifs at h with h1 h2 h3 h4 <;> simp only [Prod.mk.injEq] at h <;>
    obtain ⟨rfl, rfl⟩ := h
  · have : '[' ∉ s := fun hm => by
      have := (@find_append_of_mem _ _ s [] _ hm).1
      simp at this; omega
    exact ⟨this, by simp, by simp, fun _ => rfl⟩
  all_goals try exact absurd rfl hb
  have hm : '[' ∈ s := by
    by_contra hm
    exact h1 (find_of_not_mem hm)
  obtain ⟨l, t, rfl, hl⟩ := exists_first hm
  rw [find_append_cons hl, pySlice_of_le le_rfl (by omega) (by omega) (by simp; omega)]
  simp only [Int.toNat_zero, List.drop_zero, Int.sub_zero, Int.toNat_ofNat, List.take_left]
  obtain ⟨hok, hnd⟩ := @parseAppendInfo_ok (l ++ '[' :: t) [] (by simp) (by simp)
  refine ⟨hl, hok, hnd, fun hr => ?_⟩
  obtain ⟨h0, hlt⟩ := @find_append_of_mem _ _ l ('[' :: t) _ hr
  exact parseAppendInfo_of_le [] h0 (by have := le_rfind l t '['; omega) (rfind_lt_length _ _)

end PropertyUtilsParam

open PropertyUtilsParam

/-- A key accepted with a non-empty base is true. -/
theorem truthy_of_init {k : PropertyKey} {p : PropertyUtilsParam} (hk : init k = .ok p)
    (hb : p.key ≠ []) : k.truthy = true := by
  cases k with
  | str s =>
    cases s with
    | nil => simp [init, parseKey] at hk; cases hk; exact absurd rfl hb
    | cons => rfl
  | bytes bs =>
    cases bs with
    | nil => simp [init, parseKey] at hk; cases hk; exact absurd rfl hb
    | cons => rfl
  | other t => simp [init, parseKey] at hk; cases hk; exact absurd rfl hb


/-- A key that `PropertyUtilsParam` accepts was text when it was read. -/
theorem exists_decoded {k : PropertyKey} {p : PropertyUtilsParam} (hk : init k = .ok p)
    (hb : p.key ≠ []) : ∃ s, parseDecodedKey [] s = (p.appendDict, p.key) := by
  cases k with
  | str s => exact ⟨s, by simp only [init, parseKey, Except.map_ok] at hk; cases hk; rfl⟩
  | bytes bs =>
    cases hd : utf8Decode bs with
    | none => simp [init, parseKey, hd] at hk
    | some s => exact ⟨s, by simp only [init, parseKey, hd, Except.map_ok] at hk; cases hk; rfl⟩
  | other t => simp only [init, parseKey, Except.map_ok] at hk; cases hk; exact absurd rfl hb

/-- Two keys whose parses set the channel id alike compose alike. -/
theorem setChannelId_congr {k k' : PropertyKey} {p p' : PropertyUtilsParam}
    (hk : init k = .ok p) (hb : p.key ≠ []) (hk' : init k' = .ok p') (hb' : p'.key ≠ [])
    (hset : ∀ v, p'.setChannelId v = p.setChannelId v) (c : ChannelId) :
    PropertyUtils.setChannelId k' c = PropertyUtils.setChannelId k c := by
  simp only [PropertyUtils.setChannelId, truthy_of_init hk hb, truthy_of_init hk' hb', hk, hk',
    Except.map_ok, hset]

/-- The attributes of a parsed key with `ch=` set to the decimal text of an id are well
formed under distinct names. -/
theorem setChannelId_ok {d : List (List Char × List Char)} (hd : ∀ e ∈ d, AttrOk e)
    (hnd : (d.map Prod.fst).Nodup) {c : Int} (hc : 0 ≤ c) :
    let d' := Dict.set d channelIdName (toString c).toList
    (∀ e ∈ d', AttrOk e) ∧ (d'.map Prod.fst).Nodup := by
  refine ⟨fun e he => ?_, Dict.nodup_set _ _ hnd⟩
  rcases Dict.mem_set he with he | rfl
  · exact hd e he
  · exact ⟨⟨"ch".toList, rfl, by decide⟩, show Plain channelIdName by unfold Plain channelIdName; decide,
      plain_toString hc⟩

/-- **The composed key parses back.**  For a key that `PropertyUtilsParam` accepts with a
non-empty base and a channel id in `[0, 2³² - 1]`, `PropertyUtilsParam(r)` of the composed
key `r` reads the same base.  When the base holds no `]` it also reads the key's attributes
with `ch=` set to `str(c)`, so `get_full_key()` composes `r` again; when the base holds a
`]`, neither key has any attribute.  Setting a channel id on `r` is, in every case, setting
it on the key. -/
theorem setChannelId_reparse {k : PropertyKey} {p : PropertyUtilsParam} (hk : init k = .ok p)
    (hb : p.key ≠ []) {c : Int} (hc0 : 0 ≤ c) (hc : c ≤ 0xFFFFFFFF) :
    ∃ r p', PropertyUtils.setChannelId k (.int c) = .ok r ∧ init (.bytes r) = .ok p' ∧
      p'.key = p.key ∧
      (']' ∉ p.key → p'.appendDict = Dict.set p.appendDict channelIdName (toString c).toList ∧
        utf8Encode p'.getFullKey = r) ∧
      (']' ∈ p.key → p.appendDict = [] ∧ p'.appendDict = []) ∧
      ∀ c', PropertyUtils.setChannelId (.bytes r) c' = PropertyUtils.setChannelId k c' := by
  obtain ⟨s, hs⟩ := exists_decoded hk hb
  obtain ⟨hl, hok, hnd, hbr⟩ := parseDecodedKey_accepted hs hb
  obtain ⟨hok', hnd'⟩ := setChannelId_ok hok hnd hc0
  have hfull := @getFullKey_eq (p.setChannelId (toString c).toList) hb
  have hr : PropertyUtils.setChannelId k (.int c) =
      .ok (utf8Encode (p.key ++ '[' :: body (Dict.set p.appendDict channelIdName
        (toString c).toList) ++ [']'])) := by
    simp only [PropertyUtils.setChannelId, truthy_of_init hk hb, ChannelId.toInt?, ChannelId.str,
      hk, Except.map_ok, hfull]
    rw [if_neg (show ¬(c < 0 ∨ c > 0xFFFFFFFF) by omega)]
    rfl
  have hdec : ∀ d : List (List Char × List Char),
      parseDecodedKey [] (p.key ++ '[' :: body (Dict.set p.appendDict channelIdName
        (toString c).toList) ++ [']']) = (d, p.key) →
      init (.bytes (utf8Encode (p.key ++ '[' :: body (Dict.set p.appendDict channelIdName
        (toString c).toList) ++ [']']))) = .ok ⟨d, p.key⟩ := fun d h => by
    simp only [init, parseKey, utf8Decode_utf8Encode, h, Except.map_ok]
  by_cases hbr' : ']' ∈ p.key
  · have hd := hbr hbr'
    have hp : init (.bytes _) = .ok p := (hdec [] (parseDecodedKey_bracket hb hl hbr' _)).trans
      (by rw [← hd])
    exact ⟨_, p, hr, hp, rfl, fun h => absurd hbr' h, fun _ => ⟨hd, hd⟩,
      setChannelId_congr hk hb hp hb fun _ => rfl⟩
  · have hp := hdec _ (parseDecodedKey_compose hb hl hbr' hok' hnd' (Dict.set_ne_nil _ _ _))
    refine ⟨_, _, hr, hp, rfl, fun _ => ⟨rfl, congrArg utf8Encode hfull⟩,
      fun h => absurd h hbr',
      setChannelId_congr hk hb hp hb fun v => ?_⟩
    simp only [PropertyUtilsParam.setChannelId, Dict.set_set]

theorem setChannelId_reparse_key :
    init (.str "key".toList) = .ok ⟨[], "key".toList⟩ ∧ ("key".toList ≠ []) ∧ (0 : Int) ≤ 7 ∧
      (7 : Int) ≤ 0xFFFFFFFF ∧
      ∃ r p', PropertyUtils.setChannelId (.str "key".toList) (.int 7) = .ok r ∧
        init (.bytes r) = .ok p' ∧ p'.key = "key".toList ∧
        (']' ∉ "key".toList → p'.appendDict = Dict.set [] channelIdName (toString (7 : Int)).toList ∧
          utf8Encode p'.getFullKey = r) ∧
        (']' ∈ "key".toList → ([] : List (List Char × List Char)) = [] ∧ p'.appendDict = []) ∧
        ∀ c', PropertyUtils.setChannelId (.bytes r) c' = PropertyUtils.setChannelId (.str "key".toList) c' :=
  ⟨rfl, by decide, by decide, by decide,
    @setChannelId_reparse (.str "key".toList) ⟨[], "key".toList⟩ rfl (by decide) 7 (by decide)
      (by decide)⟩

/-- A base holding `]`: `"a]b[]"` composes to `"a]b[ch=0]"`, which parses with no
attributes and composes back to `"a]b[]"`. -/
theorem setChannelId_bracket_base :
    init (.str "a]b[]".toList) = .ok ⟨[], "a]b".toList⟩ ∧
    PropertyUtils.setChannelId (.str "a]b[]".toList) (.int 0) = .ok (utf8Encode "a]b[ch=0]".toList) ∧
    init (.bytes (utf8Encode "a]b[ch=0]".toList)) = .ok ⟨[], "a]b".toList⟩ ∧
    getFullKey ⟨[], "a]b".toList⟩ = "a]b[]".toList := ⟨rfl, rfl, rfl, rfl⟩

end SensCord
