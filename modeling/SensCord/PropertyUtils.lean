import SensCord.Python
import SensCord.Utf8

/-!
# SensCord.PropertyUtils

The property-key composer of `senscord_property_utils.py`.  A property key carries its
append information after the base, in brackets:

```
key = base "[" name₁ "=" value₁ "," … "," nameₙ "=" valueₙ "]"
```

`_parse_key` accepts a key when its first `[` is not at the front and its last `]` is its
last character; `_parse_append_info` then reads the attributes between the **last** `[`
and the **first** `]`.  The two searches agree unless the base holds a `]`: then the first
`]` lies in the base, the attribute block is empty, and the key parses with no attributes.
`PropertyUtils.set_channel_id` sets the attribute `ch=` and composes the key again, as
UTF-8 bytes.
-/

namespace SensCord

/-- The `key` argument: a `str`, a `bytes`, or any other object, with its truth value. -/
inductive PropertyKey where
  | str (s : List Char)
  | bytes (bs : List UInt8)
  | other (truthy : Bool)
  deriving Repr, DecidableEq

/-- `bool(key)`. -/
def PropertyKey.truthy : PropertyKey → Bool
  | .str s => !s.isEmpty
  | .bytes bs => !bs.isEmpty
  | .other t => t

/-- `PropertyUtilsParam`: the append information in insertion order, and the base of the
key (`_key`). -/
structure PropertyUtilsParam where
  appendDict : List (List Char × List Char)
  key : List Char
  deriving Repr, DecidableEq

namespace PropertyUtilsParam

/-- `SET_CHANNEL_ID`. -/
def channelIdName : List Char := "ch=".toList

/-- `_parse_append_info(key)`: the items of the attribute block, split at `,`; an item
with a `=` sets its text up to the first `=` (included) to the text after it. -/
def parseAppendInfo (appendDict : List (List Char × List Char)) (key : List Char) :
    List (List Char × List Char) :=
  let lastSpos := rfind key '['
  let firstEpos := find key ']'
  let append := pySlice key (lastSpos + 1) firstEpos
  (append.splitOn ',').foldl (fun d append =>
    let pos := find append '='
    if pos ≠ -1 then Dict.set d (pySlice append 0 (pos + 1)) (pySlice append (pos + 1) append.length)
    else d) appendDict

/-- `_parse_key` after the key is text: the base of a well-formed key, with its append
information read into the dict, and `""` for any other key. -/
def parseDecodedKey (appendDict : List (List Char × List Char)) (decodeKey : List Char) :
    List (List Char × List Char) × List Char :=
  let spos := find decodeKey '['
  let epos := rfind decodeKey ']'
  if spos = -1 then
    if epos = -1 then (appendDict, decodeKey) else (appendDict, [])
  else if epos ≠ decodeKey.length - 1 then (appendDict, [])
  else if spos = 0 then (appendDict, [])
  else (parseAppendInfo appendDict decodeKey, pySlice decodeKey 0 spos)

/-- `_parse_key(key)`: `bytes` are decoded as UTF-8 first, and a key that is neither text
nor bytes has the base `""`. -/
def parseKey (appendDict : List (List Char × List Char)) :
    PropertyKey → Except PyError (List (List Char × List Char) × List Char)
  | .str s => .ok (parseDecodedKey appendDict s)
  | .bytes bs =>
    match utf8Decode bs with
    | some s => .ok (parseDecodedKey appendDict s)
    | none => .error .unicodeDecodeError
  | .other _ => .ok (appendDict, [])

/-- `PropertyUtilsParam(key)`. -/
def init (key : PropertyKey) : Except PyError PropertyUtilsParam :=
  (fun r => { appendDict := r.1, key := r.2 }) <$> parseKey [] key

/-- `set_channel_id(value)`, given `str(value)`. -/
def setChannelId (p : PropertyUtilsParam) (value : List Char) : PropertyUtilsParam :=
  { p with appendDict := Dict.set p.appendDict channelIdName value }

/-- `get_full_key()`: the base and the bracketed attributes, `,` between them. -/
def getFullKey (p : PropertyUtilsParam) : List Char :=
  if p.key = [] then [] else
  let makeKey := (p.appendDict.foldl (fun (acc : List Char × Nat) e =>
    let makeKey := acc.1 ++ e.1 ++ e.2
    let count := acc.2 + 1
    (if count ≠ p.appendDict.length then makeKey ++ [','] else makeKey, count)) (['['], 0)).1
  p.key ++ makeKey ++ [']']

end PropertyUtilsParam

/-- The `channel_id` argument: an `int`, a `bool` (an `int` to `isinstance`), or another
object. -/
inductive ChannelId where
  | int (n : Int)
  | bool (b : Bool)
  | other
  deriving Repr, DecidableEq

namespace ChannelId

/-- The value of an `int` argument. -/
def toInt? : ChannelId → Option Int
  | .int n => some n
  | .bool b => some (if b then 1 else 0)
  | .other => none

/-- `str(channel_id)` of an `int` argument. -/
def str : ChannelId → List Char
  | .int n => (toString n).toList
  | .bool b => if b then "True".toList else "False".toList
  | .other => []

end ChannelId

/-- `PropertyUtils.set_channel_id(key, channel_id)`. -/
def PropertyUtils.setChannelId (key : PropertyKey) (channelId : ChannelId) :
    Except PyError (List UInt8) :=
  if !key.truthy then .ok [] else
  match channelId.toInt? with
  | none => .ok []
  | some n =>
    if n < 0 ∨ n > 0xFFFFFFFF then .ok [] else
    (fun utils => utf8Encode (utils.setChannelId channelId.str).getFullKey) <$>
      PropertyUtilsParam.init key

end SensCord
