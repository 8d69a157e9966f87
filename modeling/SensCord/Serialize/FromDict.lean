import SensCord.Serialize.Loops

/-!
# SensCord.Serialize.FromDict

How `Structure.from_dict` reads a field out of a map.

`from_dict` looks the field up under its name as text, and **when the value found is not
true** it looks again under the name as UTF-8 bytes, storing whatever the second lookup
gives: `None` when it finds nothing.  Only a true value is decoded.  A field present under
its text name with a false value (`0`, `False`, `''`, `b''`, `[]`, `{}`) is therefore read
as `None` unless its bytes name holds something (`fromDictValue_false_text`), and
`S().from_dict(v.to_dict())`, whose keys are text, loses every false field of `v`.
-/

namespace SensCord

section Lookup

variable {entries : List (PyValue × PyValue)} {name : String} {ct : ClassType} {x : PyValue}

/-- A true value under the field's name as text is decoded. -/
theorem fromDictValue_true (hx : PyDict.get? entries (.str name.toList) = some x)
    (ht : x.truthy) : fromDictValue (inputDictGet (.dict entries)) name ct = decode x ct := by
  simp only [fromDictValue, inputDictGet, Except.ok_bind, lookupDecode_eq, hx, Option.map_some',
    Option.getD_some, ht, if_true, Except.pure_eq]

/-- When the field's name as text finds nothing true, what its name as bytes finds is
stored: decoded when true, as found when false, `None` when missing. -/
theorem fromDictValue_retry
    (hx : ∀ x, PyDict.get? entries (.str name.toList) = some x → x.truthy = false) :
    fromDictValue (inputDictGet (.dict entries)) name ct =
      match PyDict.get? entries (.bytes (utf8Encode name.toList)) with
      | none => .ok .none
      | some y => if y.truthy then decode y ct else .ok y := by
  simp only [fromDictValue, inputDictGet, Except.ok_bind, lookupDecode_eq]
  rw [if_neg]
  · cases PyDict.get? entries (.bytes (utf8Encode name.toList)) <;> rfl
  · cases h : PyDict.get? entries (.str name.toList) with
    | none => simp [PyValue.truthy]
    | some x => simpa using hx x h

/-- A false value under the field's name as text, with nothing under its name as bytes, is
read as `None`. -/
theorem fromDictValue_false_text (hx : PyDict.get? entries (.str name.toList) = some x)
    (hf : x.truthy = false) (hb : PyDict.get? entries (.bytes (utf8Encode name.toList)) = none) :
    fromDictValue (inputDictGet (.dict entries)) name ct = .ok .none := by
  rw [fromDictValue_retry fun y hy => (Option.some.inj (hx.symm.trans hy)) ▸ hf, hb]

end Lookup

/-- `S()` for `S` with one `Integer` field `n` holds `n = 0`; `S().to_dict()` is `{'n': 0}`,
from which `from_dict` reads `n = None` where `_decode(0, Integer)` is `0`; and the
instance read back differs from `S()` under `==`, whatever the codec. -/
theorem fromDict_toDict_zero {β : Type} [DecidableEq β] (codec : Codec β) :
    ClassType.default (.structure "S" [("n", .integer)]) =
      .ok (.struct "S" [("n", .integer)] [("n", .int 0)]) ∧
    Structure.toDict (.struct "S" [("n", .integer)] [("n", .int 0)]) =
      .ok (.dict [(.str ['n'], .int 0)]) (.struct "S" [("n", .integer)] [("n", .int 0)]) ∧
    Structure.fromDict (.struct "S" [("n", .integer)] [("n", .int 0)])
        (.dict [(.str ['n'], .int 0)]) =
      .ok () (.struct "S" [("n", .integer)] [("n", .none)]) ∧
    decode (.int 0) .integer = .ok (.int 0) ∧
    Structure.eq codec (.struct "S" [("n", .integer)] [("n", .none)])
        (.struct "S" [("n", .integer)] [("n", .int 0)]) =
      .ok false (.struct "S" [("n", .integer)] [("n", .none)],
        .struct "S" [("n", .integer)] [("n", .int 0)]) := by
  refine ⟨rfl, rfl, rfl, rfl, ?_⟩
  have hw : Structure.toBytes codec (.struct "S" [("n", .integer)] [("n", .none)]) =
      .ok (codec.pack (.map [(.raw [110], .nil)])) (.struct "S" [("n", .integer)] [("n", .none)]) :=
    rfl
  have hv : Structure.toBytes codec (.struct "S" [("n", .integer)] [("n", .int 0)]) =
      .ok (codec.pack (.map [(.raw [110], .int 0)])) (.struct "S" [("n", .integer)] [("n", .int 0)]) :=
    rfl
  simp [Structure.eq, hw, hv, codec.pack_inj]

end SensCord
