import SensCord.Python

/-!
# SensCord.Version

The conversion of the engine's version tree into Python objects
(`SensCordC._convert_senscord_version` and its helpers in `_c_api.py`).

The engine hands back a ctypes `SensCordVersion`: two `Version` records, a pointer to
`stream_count` `StreamVersion` records, the node's `destination_id`, and a pointer to
`server_count` nested `SensCordVersion` trees.  A pointer with its count is modelled as
the list of the records it points to, so `stream_count` is the length of that list.
`c_char` arrays read as the bytes before their first NUL, which is what Python sees.

The converted tree keeps its streams in a dict keyed by `stream_key` and its servers in a
dict keyed by destination id.  The server loop keys every converted server by the
*parent's* `src.destination_id`; `serverVersions_convert` below states what that gives.
-/

namespace SensCord

/-! ## The ctypes records -/

/-- `Version` (ctypes). -/
structure VersionC where
  name : List UInt8
  major : Nat
  minor : Nat
  patch : Nat
  description : List UInt8
  deriving Repr, DecidableEq

/-- `StreamVersion` (ctypes); `linkageVersions` are the `linkage_count` records behind
`linkage_versions`. -/
structure StreamVersionC where
  streamKey : List UInt8
  streamVersion : VersionC
  linkageVersions : List VersionC
  destinationId : Int
  deriving Repr, DecidableEq

/-- `SensCordVersion` (ctypes): the version records, the streams, the node's destination
id and the nested server trees. -/
inductive SensCordVersionC where
  | mk (senscordVersion projectVersion : VersionC) (streamVersions : List StreamVersionC)
      (destinationId : Int) (serverVersions : List SensCordVersionC)
  deriving Repr

namespace SensCordVersionC

/-- The nested server trees. -/
def serverVersions : SensCordVersionC → List SensCordVersionC
  | mk _ _ _ _ servers => servers

/-- `server_count`. -/
def serverCount (v : SensCordVersionC) : Nat := v.serverVersions.length

/-- The node's own `destination_id`. -/
def destinationId : SensCordVersionC → Int
  | mk _ _ _ d _ => d

end SensCordVersionC

/-! ## The Python objects -/

/-- `senscord_types.Version`. -/
structure Version where
  name : List UInt8 := []
  major : Nat := 0
  minor : Nat := 0
  patch : Nat := 0
  description : List UInt8 := []
  deriving Repr, DecidableEq

/-- `senscord_types.StreamVersion`; `__init__` leaves `stream_version` at `None`. -/
structure StreamVersion where
  streamVersion : Option Version := none
  linkageVersions : List Version := []
  destinationId : Int := -1
  deriving Repr, DecidableEq

/-- `senscord_types.SensCordVersion`: `stream_versions` keyed by stream key,
`server_versions` keyed by destination id. -/
inductive SensCordVersion where
  | mk (senscordVersion projectVersion : Option Version)
      (streamVersions : List (List UInt8 × StreamVersion))
      (serverVersions : List (Int × SensCordVersion))
  deriving Repr

namespace SensCordVersion

/-- `stream_versions`. -/
def streamVersions : SensCordVersion → List (List UInt8 × StreamVersion)
  | mk _ _ streams _ => streams

/-- `server_versions`. -/
def serverVersions : SensCordVersion → List (Int × SensCordVersion)
  | mk _ _ _ servers => servers

end SensCordVersion

/-! ## The conversion -/

/-- `SensCordC._convert_version`. -/
def convertVersion (src : VersionC) : Version :=
  { name := src.name, major := src.major, minor := src.minor, patch := src.patch,
    description := src.description }

/-- `SensCordC._convert_stream_version`: the linkage versions are appended in source order. -/
def convertStreamVersion (src : StreamVersionC) : StreamVersion :=
  { streamVersion := some (convertVersion src.streamVersion),
    linkageVersions := src.linkageVersions.foldl (fun acc e => acc ++ [convertVersion e]) [],
    destinationId := src.destinationId }

/-- The stream loop of `_convert_senscord_version`:
`version.stream_versions[src_stream.stream_key] = stream`. -/
def convertStreams (streams : List (List UInt8 × StreamVersion)) :
    List StreamVersionC → List (List UInt8 × StreamVersion)
  | [] => streams
  | s :: ss => convertStreams (Dict.set streams s.streamKey (convertStreamVersion s)) ss

mutual
/-- `SensCordC._convert_senscord_version`. -/
def convertSensCordVersion : SensCordVersionC → SensCordVersion
  | .mk sv pv streams dest servers =>
    .mk (some (convertVersion sv)) (some (convertVersion pv)) (convertStreams [] streams)
      (convertServers dest [] servers)

/-- The server loop of `_convert_senscord_version`: every converted server is stored
under `src.destination_id`, the destination id of the node being converted. -/
def convertServers (dest : Int) (servers : List (Int × SensCordVersion)) :
    List SensCordVersionC → List (Int × SensCordVersion)
  | [] => servers
  | s :: ss => convertServers dest (Dict.set servers dest (convertSensCordVersion s)) ss
end

/-! ## What the conversion produces -/

/-- The linkage loop keeps the source order. -/
theorem linkageVersions_convertStreamVersion (src : StreamVersionC) :
    (convertStreamVersion src).linkageVersions = src.linkageVersions.map convertVersion := by
  suffices h : ∀ (acc : List Version) (l : List VersionC),
      l.foldl (fun acc e => acc ++ [convertVersion e]) acc = acc ++ l.map convertVersion from
    by simpa using h [] src.linkageVersions
  intro acc l
  induction l generalizing acc <;> simp [*]

/-- Streams with pairwise distinct keys land one entry each, in source order. -/
theorem convertStreams_of_nodup (streams : List (List UInt8 × StreamVersion))
    (ss : List StreamVersionC) (h : (streams.map Prod.fst ++ ss.map (·.streamKey)).Nodup) :
    convertStreams streams ss =
      streams ++ ss.map fun s => (s.streamKey, convertStreamVersion s) := by
  induction ss generalizing streams with
  | nil => simp [convertStreams]
  | cons s ss ih =>
    obtain ⟨-, -, hdisj⟩ := List.nodup_append.mp h
    have hfresh : ∀ e ∈ streams, (e.1 == s.streamKey) = false := fun e he =>
      beq_false_of_ne fun hk => hdisj (List.mem_map_of_mem Prod.fst he) (by simp [hk])
    rw [convertStreams, Dict.set_of_forall_ne _ hfresh, ih]
    · simp
    · simpa using h

/-- Once the parent's id holds an entry, every further server overwrites it. -/
theorem convertServers_single (dest : Int) (x : SensCordVersion) (ss : List SensCordVersionC) :
    convertServers dest [(dest, x)] ss =
      [(dest, (ss.getLast?.map convertSensCordVersion).getD x)] := by
  induction ss generalizing x with
  | nil => rfl
  | cons s ss ih =>
    rw [convertServers, Dict.set, if_pos (beq_self_eq_true dest), ih]
    cases h : ss.getLast? <;> simp [h, List.getLast?_cons]

/-- The converted tree holds at most one server: the last one, stored under the id of
the node being converted. -/
theorem serverVersions_convert (sv pv : VersionC) (streams : List StreamVersionC) (dest : Int)
    (servers : List SensCordVersionC) :
    (convertSensCordVersion (.mk sv pv streams dest servers)).serverVersions =
      (servers.getLast?.map fun s => (dest, convertSensCordVersion s)).toList := by
  cases servers with
  | nil => rfl
  | cons s ss =>
    rw [convertSensCordVersion, SensCordVersion.serverVersions, convertServers, Dict.set,
      convertServers_single]
    cases h : ss.getLast? <;> simp [h, List.getLast?_cons]

/-- Two servers with destination ids `1` and `2` under a node with id `0` come out as one
entry, keyed `0`. -/
theorem serverVersions_convert_two_servers :
    let v : VersionC := ⟨[], 0, 0, 0, []⟩
    let server (d : Int) := SensCordVersionC.mk v v [] d []
    (convertSensCordVersion (.mk v v [] 0 [server 1, server 2])).serverVersions.map Prod.fst =
      [0] := rfl

end SensCord
