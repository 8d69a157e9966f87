import SensCord.TemporalContrast.Buffer

/-!
# SensCord.Utf8

`str.encode('utf-8')` and `bytes.decode('utf-8')`, over a Python string as its list of
code points.  The encoder writes a code point `n` in one to four bytes:

```
n < 0x80      0xxxxxxx
n < 0x800     110xxxxx 10xxxxxx
n < 0x10000   1110xxxx 10xxxxxx 10xxxxxx
otherwise     11110xxx 10xxxxxx 10xxxxxx 10xxxxxx
```

The decoder is strict, as CPython's: a truncated sequence, a bad continuation byte, an
overlong form, a surrogate or a code point past `0x10FFFF` is an error (`none`).  The
decoder undoes the encoder (`utf8Decode_utf8Encode`), so the encoding is injective.
-/

namespace SensCord

/-! ## Encoding -/

/-- The UTF-8 bytes of one code point. -/
def utf8EncodeChar (c : Char) : List UInt8 :=
  let n := c.toNat
  if n < 0x80 then [UInt8.ofNat n]
  else if n < 0x800 then [UInt8.ofNat (0xC0 + n / 64), UInt8.ofNat (0x80 + n % 64)]
  else if n < 0x10000 then
    [UInt8.ofNat (0xE0 + n / 4096), UInt8.ofNat (0x80 + n / 64 % 64), UInt8.ofNat (0x80 + n % 64)]
  else
    [UInt8.ofNat (0xF0 + n / 262144), UInt8.ofNat (0x80 + n / 4096 % 64),
      UInt8.ofNat (0x80 + n / 64 % 64), UInt8.ofNat (0x80 + n % 64)]

/-- `s.encode('utf-8')`. -/
def utf8Encode (s : List Char) : List UInt8 := s.flatMap utf8EncodeChar

@[simp] theorem utf8Encode_nil : utf8Encode [] = [] := rfl

@[simp] theorem utf8Encode_append (s t : List Char) :
    utf8Encode (s ++ t) = utf8Encode s ++ utf8Encode t := List.flatMap_append _ _ _

@[simp] theorem utf8Encode_cons (c : Char) (s : List Char) :
    utf8Encode (c :: s) = utf8EncodeChar c ++ utf8Encode s := List.flatMap_cons _ _ _

/-! ## Decoding -/

/-- The code point `n` if it is at least `least` (no overlong form) and a Unicode scalar
value (no surrogate, at most `0x10FFFF`). -/
def scalar? (least n : Nat) : Option Char :=
  if least ≤ n ∧ n.isValidChar then some (Char.ofNat n) else none

/-- The payload bits of a continuation byte `10xxxxxx`. -/
def cont? (b : UInt8) : Option Nat :=
  if 0x80 ≤ b.toNat ∧ b.toNat < 0xC0 then some (b.toNat - 0x80) else none

/-- `bytes.decode('utf-8')`: `none` where CPython raises `UnicodeDecodeError`. -/
def utf8Decode : List UInt8 → Option (List Char)
  | [] => some []
  | b₀ :: bs =>
    if b₀.toNat < 0x80 then (Char.ofNat b₀.toNat :: ·) <$> utf8Decode bs
    else if b₀.toNat < 0xC0 then none
    else match bs with
    | [] => none
    | b₁ :: bs₁ =>
      if b₀.toNat < 0xE0 then do
        let c ← scalar? 0x80 ((b₀.toNat - 0xC0) * 64 + (← cont? b₁))
        (c :: ·) <$> utf8Decode bs₁
      else match bs₁ with
      | [] => none
      | b₂ :: bs₂ =>
        if b₀.toNat < 0xF0 then do
          let c ← scalar? 0x800 ((b₀.toNat - 0xE0) * 4096 + (← cont? b₁) * 64 + (← cont? b₂))
          (c :: ·) <$> utf8Decode bs₂
        else match bs₂ with
        | [] => none
        | b₃ :: bs₃ => do
          let c ← scalar? 0x10000 ((b₀.toNat - 0xF0) * 262144 + (← cont? b₁) * 4096 +
            (← cont? b₂) * 64 + (← cont? b₃))
          (c :: ·) <$> utf8Decode bs₃

/-! ## The round trip -/

theorem isValidChar_toNat (c : Char) : c.toNat.isValidChar := c.valid

theorem scalar?_toNat {c : Char} {least : Nat} (h : least ≤ c.toNat) :
    scalar? least c.toNat = some c := by
  rw [scalar?, if_pos ⟨h, isValidChar_toNat c⟩, Char.ofNat_toNat]

theorem cont?_ofNat {k : Nat} (h : k < 64) : cont? (UInt8.ofNat (0x80 + k)) = some k := by
  simp only [cont?, UInt8.toNat_ofNat_eq, Nat.mod_eq_of_lt (show 0x80 + k < 256 by omega)]
  rw [if_pos (by omega), Nat.add_sub_cancel_left]

theorem toNat_ofNat_of_valid {n : Nat} (h : n.isValidChar) : (Char.ofNat n).toNat = n := by
  have hn : n < 2 ^ 32 := by unfold Nat.isValidChar at h; omega
  simp [Char.ofNat, h, Char.ofNatAux, Char.toNat, UInt32.toNat, Nat.mod_eq_of_lt hn]

theorem scalar?_eq_some {least n : Nat} {c : Char} :
    scalar? least n = some c ↔ least ≤ n ∧ n.isValidChar ∧ c.toNat = n := by
  unfold scalar?
  split_ifs with h
  · simp only [Option.some.injEq]
    exact ⟨fun hc => ⟨h.1, h.2, hc ▸ toNat_ofNat_of_valid h.2⟩,
      fun ⟨_, _, hc⟩ => hc ▸ Char.ofNat_toNat c⟩
  · exact iff_of_false nofun fun ⟨h1, h2, _⟩ => h ⟨h1, h2⟩

theorem cont?_eq_some {b : UInt8} {k : Nat} :
    cont? b = some k ↔ 0x80 ≤ b.toNat ∧ b.toNat < 0xC0 ∧ k = b.toNat - 0x80 := by
  unfold cont?
  split_ifs with h
  · simp only [Option.some.injEq]; exact ⟨fun hk => ⟨h.1, h.2, hk.symm⟩, fun h' => h'.2.2.symm⟩
  · exact iff_of_false nofun fun ⟨h1, h2, _⟩ => h ⟨h1, h2⟩

/-- Decoding reads one encoded code point back and goes on with what follows. -/
theorem utf8Decode_encodeChar (c : Char) (rest : List UInt8) :
    utf8Decode (utf8EncodeChar c ++ rest) = (c :: ·) <$> utf8Decode rest := by
  have hc : c.toNat < 0x110000 := by
    have := isValidChar_toNat c
    simp only [Nat.isValidChar] at this
    omega
  simp only [utf8EncodeChar]
  split_ifs with h1 h2 h3 <;> simp only [List.cons_append, List.nil_append] <;>
    rw [utf8Decode.eq_def]
  · simp only [UInt8.toNat_ofNat_eq, Nat.mod_eq_of_lt (show c.toNat < 256 by omega), if_pos h1,
      Char.ofNat_toNat]
  · have hb : (0xC0 + c.toNat / 64) % 256 = 0xC0 + c.toNat / 64 := by omega
    simp (disch := omega) only [UInt8.toNat_ofNat_eq, hb, if_pos, if_neg, cont?_ofNat,
      Nat.add_sub_cancel_left, Option.bind_eq_bind, Option.some_bind, Nat.div_add_mod',
      scalar?_toNat]
  · have hb : (0xE0 + c.toNat / 4096) % 256 = 0xE0 + c.toNat / 4096 := by omega
    have hn : c.toNat / 4096 * 4096 + c.toNat / 64 % 64 * 64 + c.toNat % 64 = c.toNat := by
      omega
    simp (disch := omega) only [UInt8.toNat_ofNat_eq, hb, if_pos, if_neg, cont?_ofNat,
      Nat.add_sub_cancel_left, Option.bind_eq_bind, Option.some_bind, hn, scalar?_toNat]
  · have hb : (0xF0 + c.toNat / 262144) % 256 = 0xF0 + c.toNat / 262144 := by omega
    have hn : c.toNat / 262144 * 262144 + c.toNat / 4096 % 64 * 4096 + c.toNat / 64 % 64 * 64 +
        c.toNat % 64 = c.toNat := by omega
    simp (disch := omega) only [UInt8.toNat_ofNat_eq, hb, if_pos, if_neg, cont?_ofNat,
      Nat.add_sub_cancel_left, Option.bind_eq_bind, Option.some_bind, hn, scalar?_toNat]

/-- **Decoding undoes encoding.** -/
theorem utf8Decode_utf8Encode (s : List Char) : utf8Decode (utf8Encode s) = some s := by
  induction s with
  | nil => rfl
  | cons c s ih => rw [utf8Encode_cons, utf8Decode_encodeChar, ih]; rfl

theorem utf8Encode_injective {s t : List Char} (h : utf8Encode s = utf8Encode t) : s = t := by
  simpa [utf8Decode_utf8Encode] using congrArg utf8Decode h

/-! ## Decoding reads only encodings

The decoder is strict: each step reads one code point, and the bytes it read are that code
point's encoding, so encoding what it returns gives back the bytes it read
(`utf8Encode_utf8Decode`). -/

/-- A code point written with two bytes `110xxxxx 10xxxxxx` is encoded as them. -/
theorem utf8EncodeChar_two {c : Char} {b₀ b₁ : UInt8} (h₀ : 0xC0 ≤ b₀.toNat) (h₀' : b₀.toNat < 0xE0)
    (h₁ : 0x80 ≤ b₁.toNat) (h₁' : b₁.toNat < 0xC0) (hlo : 0x80 ≤ c.toNat)
    (hc : c.toNat = (b₀.toNat - 0xC0) * 64 + (b₁.toNat - 0x80)) : utf8EncodeChar c = [b₀, b₁] := by
  simp only [utf8EncodeChar, if_neg (show ¬c.toNat < 0x80 by omega),
    if_pos (show c.toNat < 0x800 by omega)]
  rw [← @UInt8.eq_ofNat b₀ _ (by omega), ← @UInt8.eq_ofNat b₁ _ (by omega)]

/-- A code point written with three bytes `1110xxxx 10xxxxxx 10xxxxxx` is encoded as them. -/
theorem utf8EncodeChar_three {c : Char} {b₀ b₁ b₂ : UInt8} (h₀ : 0xE0 ≤ b₀.toNat)
    (h₀' : b₀.toNat < 0xF0) (h₁ : 0x80 ≤ b₁.toNat) (h₁' : b₁.toNat < 0xC0) (h₂ : 0x80 ≤ b₂.toNat)
    (h₂' : b₂.toNat < 0xC0) (hlo : 0x800 ≤ c.toNat)
    (hc : c.toNat = (b₀.toNat - 0xE0) * 4096 + (b₁.toNat - 0x80) * 64 + (b₂.toNat - 0x80)) :
    utf8EncodeChar c = [b₀, b₁, b₂] := by
  simp only [utf8EncodeChar, if_neg (show ¬c.toNat < 0x80 by omega),
    if_neg (show ¬c.toNat < 0x800 by omega), if_pos (show c.toNat < 0x10000 by omega)]
  rw [← @UInt8.eq_ofNat b₀ _ (by omega), ← @UInt8.eq_ofNat b₁ _ (by omega),
    ← @UInt8.eq_ofNat b₂ _ (by omega)]

/-- A code point written with four bytes `11110xxx 10xxxxxx 10xxxxxx 10xxxxxx` is encoded as
them: a scalar value stays below `0x110000`, so the lead byte's payload is its top bits. -/
theorem utf8EncodeChar_four {c : Char} {b₀ b₁ b₂ b₃ : UInt8} (h₀ : 0xF0 ≤ b₀.toNat)
    (h₁ : 0x80 ≤ b₁.toNat) (h₁' : b₁.toNat < 0xC0) (h₂ : 0x80 ≤ b₂.toNat) (h₂' : b₂.toNat < 0xC0)
    (h₃ : 0x80 ≤ b₃.toNat) (h₃' : b₃.toNat < 0xC0) (hlo : 0x10000 ≤ c.toNat)
    (hc : c.toNat = (b₀.toNat - 0xF0) * 262144 + (b₁.toNat - 0x80) * 4096 +
      (b₂.toNat - 0x80) * 64 + (b₃.toNat - 0x80)) :
    utf8EncodeChar c = [b₀, b₁, b₂, b₃] := by
  have hmax : c.toNat < 0x110000 := by have := isValidChar_toNat c; unfold Nat.isValidChar at this; omega
  simp only [utf8EncodeChar, if_neg (show ¬c.toNat < 0x80 by omega),
    if_neg (show ¬c.toNat < 0x800 by omega), if_neg (show ¬c.toNat < 0x10000 by omega)]
  rw [← @UInt8.eq_ofNat b₀ _ (by omega), ← @UInt8.eq_ofNat b₁ _ (by omega),
    ← @UInt8.eq_ofNat b₂ _ (by omega), ← @UInt8.eq_ofNat b₃ _ (by omega)]

/-- One step of decoding: what `bytes.decode('utf-8')` reads at the front is one code point
followed by the decoding of the rest, and the bytes it read are that code point's
encoding. -/
theorem utf8Decode_cons_eq_some {b₀ : UInt8} {bs : List UInt8} {s : List Char}
    (h : utf8Decode (b₀ :: bs) = some s) :
    ∃ c s' rest, s = c :: s' ∧ utf8Decode rest = some s' ∧ b₀ :: bs = utf8EncodeChar c ++ rest := by
  have hb := UInt8.toNat_lt_256 b₀
  rw [utf8Decode.eq_def] at h
  simp only at h
  split_ifs at h with h1 h2 h3 h4
  · obtain ⟨s', hs', rfl⟩ := Option.map_eq_some'.mp h
    have hv : b₀.toNat.isValidChar := by unfold Nat.isValidChar; omega
    exact ⟨_, s', bs, rfl, hs', by simp [utf8EncodeChar, toNat_ofNat_of_valid hv, h1, UInt8.ofNat_toNat]⟩
  · obtain _ | ⟨b₁, bs₁⟩ := bs
    · cases h
    simp only [Option.bind_eq_bind, Option.map_eq_map, Option.bind_eq_some, Option.map_eq_some'] at h
    obtain ⟨k₁, hk₁, c, hc, s', hs', rfl⟩ := h
    obtain ⟨hb₁, hb₁', hk₁⟩ := cont?_eq_some.mp hk₁
    obtain ⟨hlo, -, hcn⟩ := scalar?_eq_some.mp hc
    exact ⟨c, s', bs₁, rfl, hs', by rw [utf8EncodeChar_two (Nat.le_of_not_lt h2) h3 hb₁ hb₁' (by omega) (by omega)]; rfl⟩
  · obtain _ | ⟨b₁, _ | ⟨b₂, bs₂⟩⟩ := bs
    · cases h
    · cases h
    simp only [Option.bind_eq_bind, Option.map_eq_map, Option.bind_eq_some, Option.map_eq_some'] at h
    obtain ⟨k₁, hk₁, k₂, hk₂, c, hc, s', hs', rfl⟩ := h
    obtain ⟨hb₁, hb₁', hk₁⟩ := cont?_eq_some.mp hk₁
    obtain ⟨hb₂, hb₂', hk₂⟩ := cont?_eq_some.mp hk₂
    obtain ⟨hlo, -, hcn⟩ := scalar?_eq_some.mp hc
    exact ⟨c, s', bs₂, rfl, hs',
      by rw [utf8EncodeChar_three (Nat.le_of_not_lt h3) h4 hb₁ hb₁' hb₂ hb₂' (by omega) (by omega)]; rfl⟩
  · obtain _ | ⟨b₁, _ | ⟨b₂, _ | ⟨b₃, bs₃⟩⟩⟩ := bs
    · cases h
    · cases h
    · cases h
    simp only [Option.bind_eq_bind, Option.map_eq_map, Option.bind_eq_some, Option.map_eq_some'] at h
    obtain ⟨k₁, hk₁, k₂, hk₂, k₃, hk₃, c, hc, s', hs', rfl⟩ := h
    obtain ⟨hb₁, hb₁', hk₁⟩ := cont?_eq_some.mp hk₁
    obtain ⟨hb₂, hb₂', hk₂⟩ := cont?_eq_some.mp hk₂
    obtain ⟨hb₃, hb₃', hk₃⟩ := cont?_eq_some.mp hk₃
    obtain ⟨hlo, -, hcn⟩ := scalar?_eq_some.mp hc
    exact ⟨c, s', bs₃, rfl, hs',
      by rw [utf8EncodeChar_four (Nat.le_of_not_lt h4) hb₁ hb₁' hb₂ hb₂' hb₃ hb₃' (by omega) (by omega)]; rfl⟩

theorem utf8EncodeChar_ne_nil (c : Char) : utf8EncodeChar c ≠ [] := by
  dsimp only [utf8EncodeChar]
  split_ifs <;> simp

/-- **Encoding undoes decoding.**  Whatever the strict decoder accepts is the encoding of
what it returns: it reads no overlong form, surrogate or code point past `0x10FFFF`. -/
theorem utf8Encode_utf8Decode {bs : List UInt8} {s : List Char} (h : utf8Decode bs = some s) :
    utf8Encode s = bs := by
  obtain ⟨n, hn⟩ : ∃ n, bs.length = n := ⟨_, rfl⟩
  induction n using Nat.strong_induction_on generalizing bs s with
  | _ n ih =>
    cases bs with
    | nil => cases h; rfl
    | cons b₀ bs =>
      obtain ⟨c, s', rest, rfl, hs', he⟩ := utf8Decode_cons_eq_some h
      have hlen : rest.length < n := by
        rw [← hn, he, List.length_append]
        have := List.length_pos.mpr (utf8EncodeChar_ne_nil c)
        omega
      rw [utf8Encode_cons, ih _ hlen hs' rfl, he]

end SensCord
