import SensCord.CApi.Loader
import SensCord.Serialize.Serializable

/-!
# SensCord.CApi.Property

The property calls of `SensCordC` over the `Serializable` protocol.  `stream_set_property`
sends `to_bytes()` of the value through `_senscord_dll`.  `stream_get_property` and
`channel_get_property` send it through `_senscord_py_dll`, in a `bytearray` that the library
fills, and `decode` what it wrote into the same instance.

The two libraries are checked apart, and `load_dll` can leave the first without the
second: a `Core.init` that finds the SensCord library but not the python library beside it
raises, and leaves `_senscord_dll` set.  From then on the next `Core.init` that finds a
library returns a handle as if all were loaded, every call through `_senscord_dll` passes
its check, and every property read raises `OperationError('dll is not loaded.')`, whatever
is installed later (`init_without_python_library`).
-/

namespace SensCord

/-- The `property_value` of a property call: a `Serializable` instance, or any other value
(`None`, a `bytearray`, ...). -/
inductive PropertyValue where
  | serial (s : Serial)
  | value (v : PyValue)
  deriving Repr

section Calls

variable (sc : StreamCodec UInt8)

/-- `to_bytes()` of a `Serializable` property value, and the value after the call. -/
def PropertyValue.serialBytes (s : Serial) : EStateM.Result SdkError PropertyValue (List UInt8) :=
  match s.toBytes sc with
  | .ok bs s => .ok bs (.serial s)
  | .error e s => .error (.py e) (.serial s)

/-- `SensCordC.stream_get_property` and `SensCordC.channel_get_property`, which differ only in
the handle they pass: the library function, answering `answer`, gets the bytes of the
`bytearray` and fills it, or returns non-zero (`none`), and `ApiError` is raised.  The value
after the call is returned beside. -/
def getSerializedProperty (libs : Libraries) (answer : List UInt8 → Option (List UInt8))
    (pv : PropertyValue) : EStateM.Result SdkError PropertyValue Unit :=
  match SensCordC.checkLoaded libs .python with
  | .error e => .error e pv
  | .ok () =>
    let request : EStateM.Result SdkError PropertyValue (List UInt8) :=
      match pv with
      | .serial s => PropertyValue.serialBytes sc s
      | .value (.bytearray bs) => .ok bs pv
      | .value _ => .error (.py (.typeError "Unsupported type. (property_value)")) pv
    match request with
    | .error e pv => .error e pv
    | .ok bytes pv =>
      match answer bytes, pv with
      | none, pv => .error .apiError pv
      | some filled, .serial s =>
        match s.decode sc ⟨filled⟩ with
        | .ok _ s => .ok () (.serial s)
        | .error e s => .error (.py e) (.serial s)
      | some filled, .value _ => .ok () (.value (.bytearray filled))

/-- `SensCordC.stream_get_property(stream_handle, property_key, property_value)`. -/
def SensCordC.streamGetProperty (libs : Libraries) (answer : List UInt8 → Option (List UInt8))
    (pv : PropertyValue) : EStateM.Result SdkError PropertyValue Unit :=
  getSerializedProperty sc libs answer pv

/-- `SensCordC.channel_get_property(channel_handle, property_key, property_value)`. -/
def SensCordC.channelGetProperty (libs : Libraries) (answer : List UInt8 → Option (List UInt8))
    (pv : PropertyValue) : EStateM.Result SdkError PropertyValue Unit :=
  getSerializedProperty sc libs answer pv

/-- `SensCordC.stream_set_property(stream_handle, property_key, property_value)`: the
library function, answering `accepts`, gets the bytes of the value (a null pointer for
`None`) and returns zero, or non-zero and `ApiError` is raised.  The value after the call is
returned beside. -/
def SensCordC.streamSetProperty (libs : Libraries) (accepts : Option (List UInt8) → Bool)
    (pv : PropertyValue) : EStateM.Result SdkError PropertyValue Unit :=
  match SensCordC.checkLoaded libs .senscord with
  | .error e => .error e pv
  | .ok () =>
    let payload : EStateM.Result SdkError PropertyValue (Option (List UInt8)) :=
      match pv with
      | .value .none => .ok none pv
      | .serial s =>
        match PropertyValue.serialBytes sc s with
        | .ok bs pv => .ok (some bs) pv
        | .error e pv => .error e pv
      | .value (.bytearray bs) => .ok (some bs) pv
      | .value _ => .error (.py (.typeError "Unsupported type. (property_value)")) pv
    match payload with
    | .error e pv => .error e pv
    | .ok p pv => if accepts p then .ok () pv else .error .apiError pv

end Calls

/-! ## A SensCord library without its python library -/

section HalfLoaded

variable {host : Host} {dllPath : String}

/-- `load_dll` on a host where the SensCord library loads but the python library beside it
is missing: it raises `OperationError` naming that file, with `_senscord_dll` set and no
python library. -/
theorem loadDll_without_python_library
    (hosal : host.system = .windows →
      host.isFile (host.besides dllPath "senscord_osal.dll") = true ∧
        host.loads (host.besides dllPath "senscord_osal.dll") = true)
    (hloads : host.loads dllPath = true)
    (hmissing : host.isFile (host.besides dllPath (pythonLibName host.system)) = false) :
    ∃ libs, loadDll host dllPath ⟨none, none, none⟩ =
        .error (.operationError (host.besides dllPath (pythonLibName host.system) ++ " is not found.")) libs ∧
      libs.senscordDll = some dllPath ∧ libs.senscordPyDll = none := by
  have hthen : ∀ libs : Libraries, loadDll.senscordThenPython host dllPath libs =
      .error (.operationError (host.besides dllPath (pythonLibName host.system) ++ " is not found."))
        { libs with senscordDll := some dllPath } := fun libs => by
    simp [loadDll.senscordThenPython, Host.cdll, makeLinkLibPath, hloads, hmissing]
  simp only [loadDll, Option.isSome_none, Bool.false_eq_true, if_false]
  split
  · next hw =>
    obtain ⟨hf, hl⟩ := hosal hw
    simp only [makeLinkLibPath, hf, if_true, Except.ok_bind, Host.cdll, hl]
    exact ⟨_, hthen _, rfl, rfl⟩
  · exact ⟨_, hthen _, rfl, rfl⟩

/-- A `Core.init` whose search finds a library, once `_senscord_dll` is set: `load_dll`
returns at once, and the handle `core_init` answers is returned with `Core._loaded` set.  The
search path is `path`, or `SENSCORD_FILE_PATH` without one; `set_file_search_path` is called
only with a `path`. -/
theorem init_of_senscordDll {libs : Libraries} (hd : libs.senscordDll.isSome) (answers : InitAnswers)
    {path : Option String} {p : String} {h : UInt64} (hpath : path.or host.fileSearchPath = some p)
    (hfound : searchDirs host (dllNameAndDelimiter host.system).1 (searchPaths host p) [] = .ok dllPath)
    (hs : path.isSome → answers.setFileSearchPath = true) (hc : answers.coreInit = some h) :
    Core.init host answers 0 path ⟨false, libs⟩ = .ok h ⟨true, libs⟩ := by
  have hcheck : SensCordC.checkLoaded libs .senscord = .ok () := by
    simp [SensCordC.checkLoaded, Libraries.get, hd]
  cases path <;> simp [Core.init, loadLibrary, hpath, hfound, loadDll_of_isSome hd,
    SensCordC.setFileSearchPath, SensCordC.coreInit, hcheck, hs, hc]

/-- `Core.init` on a host where the SensCord library is found and loads but the python
library beside it is missing (on Windows, with `senscord_osal.dll` beside it loading),
searching `path` or, without one, `SENSCORD_FILE_PATH`: it raises `OperationError` naming the
missing file, and leaves `_senscord_dll` set without the python library.  The next
`Core.init` whose search finds a library, on any host and with or without a path, returns
the handle `core_init` answers, with `Core._loaded` set; and in every state a run of
`Core.init` calls reaches, each call through `_senscord_dll` passes its check while every
`stream_get_property` and `channel_get_property` raises `OperationError('dll is not
loaded.')`, leaving its value as it was. -/
theorem init_without_python_library {path : Option String} {p : String} (answers : InitAnswers)
    (hpath : path.or host.fileSearchPath = some p)
    (hfound : searchDirs host (dllNameAndDelimiter host.system).1 (searchPaths host p) [] = .ok dllPath)
    (hosal : host.system = .windows →
      host.isFile (host.besides dllPath "senscord_osal.dll") = true ∧
        host.loads (host.besides dllPath "senscord_osal.dll") = true)
    (hloads : host.loads dllPath = true)
    (hmissing : host.isFile (host.besides dllPath (pythonLibName host.system)) = false) :
    ∃ st₁ : LoaderState,
      Core.init host answers 0 path LoaderState.initial =
        .error (.operationError (host.besides dllPath (pythonLibName host.system) ++ " is not found.")) st₁ ∧
      st₁.libs.senscordDll = some dllPath ∧ st₁.libs.senscordPyDll = none ∧
      (∀ (host' : Host) (answers' : InitAnswers) (path' : Option String) (p' dllPath' : String)
        (h : UInt64), path'.or host'.fileSearchPath = some p' →
        searchDirs host' (dllNameAndDelimiter host'.system).1 (searchPaths host' p') [] = .ok dllPath' →
        (path'.isSome → answers'.setFileSearchPath = true) → answers'.coreInit = some h →
        Core.init host' answers' 0 path' st₁ = .ok h ⟨true, st₁.libs⟩) ∧
      ∀ st, Run st₁ st → SensCordC.checkLoaded st.libs .senscord = .ok () ∧
        ∀ (sc : StreamCodec UInt8) answer pv,
          SensCordC.streamGetProperty sc st.libs answer pv = .error (.operationError "dll is not loaded.") pv ∧
          SensCordC.channelGetProperty sc st.libs answer pv = .error (.operationError "dll is not loaded.") pv := by
  obtain ⟨libs, hload, hd, hpy⟩ := loadDll_without_python_library hosal hloads hmissing
  have hdll : libs.senscordDll.isSome := by simp [hd]
  refine ⟨⟨false, libs⟩, ?_, hd, hpy, fun host' answers' path' p' dllPath' h hp hf hs hc =>
    init_of_senscordDll hdll answers' hp hf hs hc, fun st hrun => ?_⟩
  · simp [Core.init, loadLibrary, LoaderState.initial, hpath, hfound, hload]
  · have hlibs : st.libs = libs := hrun.libs_eq hdll
    have hpython : SensCordC.checkLoaded st.libs .python = .error (.operationError "dll is not loaded.") := by
      simp [SensCordC.checkLoaded, Libraries.get, hlibs, hpy]
    refine ⟨by simp [SensCordC.checkLoaded, Libraries.get, hlibs, hd], fun sc answer pv => ?_⟩
    simp [SensCordC.streamGetProperty, SensCordC.channelGetProperty, getSerializedProperty, hpython]

end HalfLoaded

/-- The host of `hostWithoutPythonLibrary` with `SENSCORD_FILE_PATH=/lib`, on which the
samples' `Core.init()` searches `/lib`. -/
def hostWithFilePath : Host := { hostWithoutPythonLibrary with fileSearchPath := some "/lib" }

theorem init_without_python_library_lib :
    (none : Option String).or hostWithFilePath.fileSearchPath = some "/lib" ∧
      searchDirs hostWithFilePath "libsenscord.so" (searchPaths hostWithFilePath "/lib") [] =
        .ok "/lib/libsenscord.so" ∧
      hostWithFilePath.isFile "/lib/libsenscord.so/../libsenscord_python.so" = false ∧
      ∃ st₁ : LoaderState,
        Core.init hostWithFilePath ⟨true, some 1⟩ 0 none LoaderState.initial =
          .error (.operationError ("/lib/libsenscord.so/../libsenscord_python.so" ++ " is not found.")) st₁ ∧
        st₁.libs.senscordDll = some "/lib/libsenscord.so" ∧ st₁.libs.senscordPyDll = none ∧
        (∀ (host' : Host) (answers' : InitAnswers) (path' : Option String) (p' dllPath' : String)
          (h : UInt64), path'.or host'.fileSearchPath = some p' →
          searchDirs host' (dllNameAndDelimiter host'.system).1 (searchPaths host' p') [] = .ok dllPath' →
          (path'.isSome → answers'.setFileSearchPath = true) → answers'.coreInit = some h →
          Core.init host' answers' 0 path' st₁ = .ok h ⟨true, st₁.libs⟩) ∧
        ∀ st, Run st₁ st → SensCordC.checkLoaded st.libs .senscord = .ok () ∧
          ∀ (sc : StreamCodec UInt8) answer pv,
            SensCordC.streamGetProperty sc st.libs answer pv = .error (.operationError "dll is not loaded.") pv ∧
            SensCordC.channelGetProperty sc st.libs answer pv = .error (.operationError "dll is not loaded.") pv :=
  ⟨rfl, rfl, by decide,
    @init_without_python_library hostWithFilePath "/lib/libsenscord.so" none "/lib" ⟨true, some 1⟩
      rfl rfl nofun rfl (by decide)⟩

end SensCord
