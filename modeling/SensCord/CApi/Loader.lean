import SensCord.Python

/-!
# SensCord.CApi.Loader

How the SDK finds and loads its libraries.  `Core._load_library` searches the directories
of `SENSCORD_FILE_PATH`, or of the `path` given to `Core.init`, for the SensCord library;
`SensCordC.load_dll` loads it, with `senscord_osal` (on Windows) and `senscord_python`
beside it, into the class attributes `_osal`, `_senscord_dll` and `_senscord_py_dll`.  Each
call of the C API checks one of these first and raises `OperationError('dll is not
loaded.')` when it is `None`: `stream_get_property` and `channel_get_property` check
`_senscord_py_dll`, every other call `_senscord_dll`.

The search takes the first directory that holds the library, and when none does it raises
with what each directory gave, in order (`searchDirs_first_or_all`).

`load_dll` returns at once when `_senscord_dll` is set, and it sets `_senscord_dll` before it
looks for the python library.  So once `_senscord_dll` is set no call changes a library
attribute again (`Run.frozen_once_loaded`), and every reachable state has the SensCord library
whenever it has the python library or `Core._loaded` (`Reachable.inv`).  When the python
library is missing, `Core.init` raises but leaves `_senscord_dll` set, and no later call
loads the python library: `SensCord.CApi.Property` follows this to the property reads.
-/

namespace SensCord

/-! ## Errors, platform, host -/

/-- The exceptions of the SDK: Python's own, those of `errors.py` (`ApiError` carries the
library's status, which is not modelled), and the `OSError` of a `ctypes.CDLL` that
cannot load its file. -/
inductive SdkError where
  | py (e : PyError)
  | initializationError (msg : String)
  | operationError (msg : String)
  | apiError
  | osError (path : String)
  deriving Repr, DecidableEq

/-- `platform.system()`, as far as the loader tells platforms apart. -/
inductive Platform where
  | windows
  | darwin
  | other
  deriving Repr, DecidableEq

/-- What the loader reads of the machine: the platform, `os.getenv('SENSCORD_FILE_PATH')`,
`os.path` over the file system, and which files `ctypes.CDLL` loads. -/
structure Host where
  system : Platform
  fileSearchPath : Option String
  /-- `os.path.normpath(os.path.abspath(d))`. -/
  normAbs : String → String
  /-- `os.path.join(d, name)`. -/
  join : String → String → String
  /-- `os.path.abspath(os.path.join(path, os.pardir, name))`. -/
  besides : String → String → String
  isDir : String → Bool
  isFile : String → Bool
  loads : String → Bool

/-! ## `load_dll` -/

/-- The class attributes `SensCordC._osal`, `_senscord_dll` and `_senscord_py_dll`: the
file each library was loaded from, or `None`. -/
structure Libraries where
  osal : Option String
  senscordDll : Option String
  senscordPyDll : Option String
  deriving Repr, DecidableEq

/-- `ctypes.CDLL(path)`: the library, or `OSError`. -/
def Host.cdll (host : Host) (path : String) : Except SdkError String :=
  if host.loads path then .ok path else .error (.osError path)

/-- `SensCordC._make_link_lib_path(senscord_path, lib_name)`: the library `lib_name` in the
directory of `senscord_path`, which must be a file. -/
def makeLinkLibPath (host : Host) (senscordPath libName : String) : Except SdkError String :=
  let absPath := host.besides senscordPath libName
  if host.isFile absPath then .ok absPath else .error (.operationError (absPath ++ " is not found."))

/-- The python library `load_dll` loads beside the SensCord library. -/
def pythonLibName : Platform → String
  | .windows => "senscord_python.dll"
  | .darwin => "senscord_python.bundle"
  | .other => "libsenscord_python.so"

/-- `SensCordC.load_dll(path)`: nothing when `_senscord_dll` is set; otherwise (on Windows
after `senscord_osal.dll` beside it) the SensCord library at `path`, then the python
library beside it, each attribute set as soon as its library is loaded. -/
def loadDll (host : Host) (path : String) (libs : Libraries) : EStateM.Result SdkError Libraries Unit :=
  if libs.senscordDll.isSome then .ok () libs
  else
    match host.system with
    | .windows =>
      match makeLinkLibPath host path "senscord_osal.dll" >>= host.cdll with
      | .error e => .error e libs
      | .ok osal => senscordThenPython { libs with osal := some osal }
    | _ => senscordThenPython libs
where
  /-- The SensCord library, then the python library beside it. -/
  senscordThenPython (libs : Libraries) : EStateM.Result SdkError Libraries Unit :=
    match host.cdll path with
    | .error e => .error e libs
    | .ok dll =>
      match makeLinkLibPath host path (pythonLibName host.system) >>= host.cdll with
      | .error e => .error e { libs with senscordDll := some dll }
      | .ok py => .ok () { libs with senscordDll := some dll, senscordPyDll := some py }

/-! ## The search of `Core._load_library` -/

/-- The SensCord library's name and the separator of search paths on each platform. -/
def dllNameAndDelimiter : Platform → String × Char
  | .windows => ("senscord.dll", ';')
  | .darwin => ("senscord.bundle", ':')
  | .other => ("libsenscord.so", ':')

/-- `[os.path.normpath(os.path.abspath(d)) for d in path.split(path_delimiter)]`. -/
def searchPaths (host : Host) (path : String) : List String :=
  ((path.toList.splitOn (dllNameAndDelimiter host.system).2).map String.mk).map host.normAbs

/-- The loop of `Core._load_library` over the search directories: the library in the first
directory that holds it, or, when none does, what each directory gave. -/
def searchDirs (host : Host) (dllName : String) :
    List String → List (String × String) → Except (List (String × String)) String
  | [], exceptions => .error exceptions
  | directory :: rest, exceptions =>
    if !host.isDir directory then
      searchDirs host dllName rest (exceptions ++ [(directory, "Directory does not exist")])
    else
      let dllPath := host.join directory dllName
      if !host.isFile dllPath then
        searchDirs host dllName rest (exceptions ++ [(dllPath, "File does not exist")])
      else .ok dllPath

/-- The message of the `InitializationError` that lists what each directory gave. -/
def notLoadedMessage (exceptions : List (String × String)) : String :=
  "SensCord could not be loaded:\n" ++
    "\n".intercalate (exceptions.map fun (directory, ex) => "  " ++ directory ++ ": " ++ ex)

/-- Whether a directory holds the library: it exists and the library in it is a file. -/
def Host.holds (host : Host) (dllName directory : String) : Bool :=
  host.isDir directory && host.isFile (host.join directory dllName)

/-- What a directory without the library adds to the exceptions: the directory itself when it
does not exist, the library's path in it otherwise. -/
def Host.searchException (host : Host) (dllName directory : String) : String × String :=
  if !host.isDir directory then (directory, "Directory does not exist")
  else (host.join directory dllName, "File does not exist")

/-- The search is `find?` of the first directory holding the library; without one it raises
with the exceptions of all the directories, in order. -/
theorem searchDirs_eq (host : Host) (dllName : String) :
    ∀ dirs exceptions, searchDirs host dllName dirs exceptions =
      match dirs.find? (host.holds dllName) with
      | some d => .ok (host.join d dllName)
      | none => .error (exceptions ++ dirs.map (host.searchException dllName))
  | [], exceptions => by simp [searchDirs]
  | d :: dirs, exceptions => by
    rw [searchDirs, List.find?_cons]
    cases hd : host.isDir d <;> cases hf : host.isFile (host.join d dllName) <;>
      simp [Host.holds, Host.searchException, hd, hf, searchDirs_eq host dllName dirs]

/-- The library is taken from the first directory of the search path that holds it; when
none does, the `InitializationError` lists every directory, each with what it lacked. -/
theorem searchDirs_first_or_all (host : Host) (dllName : String) (dirs : List String) :
    (∀ dllPath, searchDirs host dllName dirs [] = .ok dllPath ↔
      ∃ pre d post, dirs = pre ++ d :: post ∧ (∀ d' ∈ pre, host.holds dllName d' = false) ∧
        host.holds dllName d = true ∧ dllPath = host.join d dllName) ∧
    (∀ exceptions, searchDirs host dllName dirs [] = .error exceptions ↔
      (∀ d ∈ dirs, host.holds dllName d = false) ∧
        exceptions = dirs.map (host.searchException dllName)) := by
  rw [searchDirs_eq]
  constructor
  · intro dllPath
    constructor
    · intro h
      split at h
      · next d hf =>
        obtain ⟨hd, pre, post, rfl, hpre⟩ := List.find?_eq_some.mp hf
        exact ⟨pre, d, post, rfl, fun d' h' => by simpa using hpre d' h', hd, (Except.ok.inj h).symm⟩
      · cases h
    · rintro ⟨pre, d, post, rfl, hpre, hd, rfl⟩
      rw [List.find?_eq_some.mpr ⟨hd, pre, post, rfl, fun a ha => by simp [hpre a ha]⟩]
  · intro exceptions
    cases hf : dirs.find? (host.holds dllName) with
    | none =>
      have hnone : ∀ d ∈ dirs, host.holds dllName d = false := by simpa using List.find?_eq_none.mp hf
      simp only [List.nil_append, Except.error.injEq]
      exact ⟨fun h => ⟨hnone, h.symm⟩, fun h => h.2.symm⟩
    | some d =>
      have hd : d ∈ dirs ∧ host.holds dllName d = true := ⟨List.mem_of_find?_eq_some hf, List.find?_some hf⟩
      simp only [reduceCtorEq, false_iff, not_and]
      exact fun hall => absurd (hall d hd.1) (by simp [hd.2])

/-- The loader's state: `Core._loaded` and the libraries of `SensCordC`. -/
structure LoaderState where
  loaded : Bool
  libs : Libraries
  deriving Repr, DecidableEq

/-- The state at import: nothing loaded. -/
def LoaderState.initial : LoaderState := ⟨false, ⟨none, none, none⟩⟩

/-- `Core._load_library(path)`: nothing once `Core._loaded`; otherwise the search over the
directories of `path` (or of `SENSCORD_FILE_PATH`), `load_dll` on the library found, and
`Core._loaded` set when it returns. -/
def loadLibrary (host : Host) (path : Option String) (st : LoaderState) :
    EStateM.Result SdkError LoaderState Unit :=
  if st.loaded then .ok () st
  else
    match path.or host.fileSearchPath with
    | none => .error (.initializationError "SENSCORD_FILE_PATH is none") st
    | some path =>
      match searchDirs host (dllNameAndDelimiter host.system).1 (searchPaths host path) [] with
      | .error exceptions => .error (.initializationError (notLoadedMessage exceptions)) st
      | .ok dllPath =>
        match loadDll host dllPath st.libs with
        | .ok () libs => .ok () ⟨true, libs⟩
        | .error e libs => .error e { st with libs }

/-! ## The C API calls -/

/-- The library attribute a C API call checks. -/
inductive Dll where
  | senscord
  | python
  deriving Repr, DecidableEq

/-- The attribute of `dll`. -/
def Libraries.get (libs : Libraries) : Dll → Option String
  | .senscord => libs.senscordDll
  | .python => libs.senscordPyDll

/-- The check each call of `SensCordC` starts with:
`if SensCordC._senscord_dll is None: raise OperationError('dll is not loaded.')`, of
`_senscord_py_dll` for the python library. -/
def SensCordC.checkLoaded (libs : Libraries) (dll : Dll) : Except SdkError Unit :=
  if (libs.get dll).isSome then .ok () else .error (.operationError "dll is not loaded.")

/-- `SensCordC.set_file_search_path(paths)`: the library returns zero, or non-zero and
`ApiError` is raised. -/
def SensCordC.setFileSearchPath (libs : Libraries) (ok : Bool) : Except SdkError Unit := do
  SensCordC.checkLoaded libs .senscord
  if ok then .ok () else .error .apiError

/-- `SensCordC.core_init()`: the handle the library writes, or `ApiError`. -/
def SensCordC.coreInit (libs : Libraries) (handle : Option UInt64) : Except SdkError UInt64 := do
  SensCordC.checkLoaded libs .senscord
  match handle with
  | some h => .ok h
  | none => .error .apiError

/-- The library's answers to the calls of `Core.init`: whether
`senscord_set_file_search_path` returns zero, and the handle `senscord_core_init` writes
(`none` when it returns non-zero). -/
structure InitAnswers where
  setFileSearchPath : Bool
  coreInit : Option UInt64

/-- `Core.init(path)` on an instance whose `_core_handle` is `handle`: its new handle. -/
def Core.init (host : Host) (answers : InitAnswers) (handle : UInt64) (path : Option String)
    (st : LoaderState) : EStateM.Result SdkError LoaderState UInt64 :=
  if handle ≠ 0 then .error (.operationError "SensCord has already been initialized.") st
  else
    match loadLibrary host path st with
    | .error e st => .error e st
    | .ok () st =>
      let calls : Except SdkError UInt64 := do
        if path.isSome then SensCordC.setFileSearchPath st.libs answers.setFileSearchPath
        SensCordC.coreInit st.libs answers.coreInit
      match calls with
      | .ok h => .ok h st
      | .error e => .error e st

/-- The loader state after a call, whether it returned or raised. -/
def stateAfter {α : Type} : EStateM.Result SdkError LoaderState α → LoaderState
  | .ok _ st => st
  | .error _ st => st

/-! ## Every run -/

/-- One call of `Core.init`, on any host, with any answers of the library, from any
instance and with any path: the only code that changes the loader state. -/
def Step (st st' : LoaderState) : Prop :=
  ∃ host answers handle path, stateAfter (Core.init host answers handle path st) = st'

/-- The states a sequence of `Core.init` calls reaches from `st`. -/
inductive Run : LoaderState → LoaderState → Prop
  | refl (st : LoaderState) : Run st st
  | step {st st' st'' : LoaderState} : Step st st' → Run st' st'' → Run st st''

/-- The states some sequence of `Core.init` calls reaches from the import. -/
def Reachable (st : LoaderState) : Prop := Run LoaderState.initial st

/-! ## What one call can do -/

section Steps

variable {host : Host} {path : String} {libs : Libraries} {st st' : LoaderState}

/-- `load_dll` does nothing once `_senscord_dll` is set. -/
theorem loadDll_of_isSome (h : libs.senscordDll.isSome) : loadDll host path libs = .ok () libs := by
  simp [loadDll, h]

/-- What `load_dll` can do to libraries without `_senscord_dll`: raise with it still unset,
raise with it set and the python library as it was, or load both libraries. -/
def LoadOutcome (path : String) (libs : Libraries) (r : EStateM.Result SdkError Libraries Unit) : Prop :=
  (∃ e libs', r = .error e libs' ∧ libs'.senscordDll = none ∧ libs'.senscordPyDll = libs.senscordPyDll) ∨
  (∃ e libs', r = .error e libs' ∧ libs'.senscordDll = some path ∧
    libs'.senscordPyDll = libs.senscordPyDll) ∨
  ∃ libs', r = .ok () libs' ∧ libs'.senscordDll = some path ∧ libs'.senscordPyDll.isSome

theorem senscordThenPython_cases (h : libs.senscordDll = none) :
    LoadOutcome path libs (loadDll.senscordThenPython host path libs) := by
  unfold loadDll.senscordThenPython
  by_cases hl : host.loads path
  · rw [show host.cdll path = .ok path from if_pos hl]
    cases makeLinkLibPath host path (pythonLibName host.system) >>= host.cdll with
    | error e => exact .inr (.inl ⟨e, _, rfl, rfl, rfl⟩)
    | ok py => exact .inr (.inr ⟨_, rfl, rfl, rfl⟩)
  · rw [show host.cdll path = .error (.osError path) from if_neg hl]
    exact .inl ⟨_, _, rfl, h, rfl⟩

theorem loadDll_cases (h : libs.senscordDll = none) : LoadOutcome path libs (loadDll host path libs) := by
  simp only [loadDll, h, Option.isSome_none, Bool.false_eq_true, if_false]
  split
  · split
    · exact .inl ⟨_, _, rfl, h, rfl⟩
    · exact senscordThenPython_cases rfl
  · exact senscordThenPython_cases h

/-- The loader state as `_load_library` leaves it after `load_dll`. -/
def afterLoad : EStateM.Result SdkError Libraries Unit → LoaderState
  | .ok () libs => ⟨true, libs⟩
  | .error _ libs => ⟨false, libs⟩

/-- `_load_library` changes the state only through `load_dll` on some library, before
`Core._loaded`. -/
theorem stateAfter_loadLibrary (host : Host) (path : Option String) (st : LoaderState) :
    stateAfter (loadLibrary host path st) = st ∨ st.loaded = false ∧
      ∃ dllPath, stateAfter (loadLibrary host path st) = afterLoad (loadDll host dllPath st.libs) := by
  unfold loadLibrary
  cases hl : st.loaded
  · simp only [Bool.false_eq_true, if_false]
    split
    · exact .inl rfl
    · split
      · exact .inl rfl
      · next dllPath _ =>
        refine .inr ⟨trivial, dllPath, ?_⟩
        rcases loadDll host dllPath st.libs with ⟨⟨⟩, libs⟩ | ⟨e, libs⟩ <;> rfl
  · exact .inl rfl

/-- `Core.init` changes the loader state only through `_load_library`. -/
theorem stateAfter_init (host : Host) (answers : InitAnswers) (handle : UInt64) (path : Option String)
    (st : LoaderState) :
    stateAfter (Core.init host answers handle path st) =
      if handle ≠ 0 then st else stateAfter (loadLibrary host path st) := by
  unfold Core.init
  by_cases hh : handle ≠ 0
  · rw [if_pos hh, if_pos hh]; rfl
  · rw [if_neg hh, if_neg hh]
    rcases loadLibrary host path st with ⟨⟨⟩, st'⟩ | ⟨e, st'⟩
    · dsimp only
      split <;> rfl
    · rfl

/-- What one `Core.init` can do to the loader state: nothing, or, before `Core._loaded`,
what `load_dll` does on some library. -/
theorem Step.cases (h : Step st st') :
    st' = st ∨ st.loaded = false ∧ ∃ host dllPath, st' = afterLoad (loadDll host dllPath st.libs) := by
  obtain ⟨host, answers, handle, path, rfl⟩ := h
  rw [stateAfter_init]
  split_ifs
  · exact .inl rfl
  · rcases stateAfter_loadLibrary host path st with h | ⟨hl, dllPath, h⟩
    · exact .inl h
    · exact .inr ⟨hl, host, dllPath, h⟩

end Steps

/-! ## Every run -/

/-- The invariant of the loader state: `Core._loaded` and the python library each come with
the SensCord library. -/
structure LoaderState.Inv (st : LoaderState) : Prop where
  loaded : st.loaded = true → st.libs.senscordDll.isSome
  python : st.libs.senscordPyDll.isSome → st.libs.senscordDll.isSome

section Runs

variable {st st' : LoaderState}

theorem LoaderState.Inv.step (hi : st.Inv) (h : Step st st') : st'.Inv := by
  rcases h.cases with rfl | ⟨-, host, dllPath, rfl⟩
  · exact hi
  cases hd : st.libs.senscordDll with
  | some dll =>
    rw [loadDll_of_isSome (by simp [hd])]
    exact ⟨fun _ => by simp [afterLoad, hd], fun _ => by simp [afterLoad, hd]⟩
  | none =>
    rcases @loadDll_cases host dllPath st.libs hd with
      ⟨e, libs, he, hn, hp⟩ | ⟨e, libs, he, hs, -⟩ | ⟨libs, he, hs, -⟩ <;> rw [he]
    · refine ⟨nofun, fun h => ?_⟩
      have := hi.python (hp ▸ h)
      simp [hd] at this
    all_goals exact ⟨fun _ => by simp [afterLoad, hs], fun _ => by simp [afterLoad, hs]⟩

/-- Once `_senscord_dll` is set, a call leaves every library attribute as it is, and once
`Core._loaded` is set it stays set. -/
theorem Step.libs_eq_of_isSome (h : Step st st') (hd : st.libs.senscordDll.isSome) : st'.libs = st.libs := by
  rcases h.cases with rfl | ⟨-, host, dllPath, rfl⟩
  · rfl
  · rw [loadDll_of_isSome hd]; rfl

theorem Step.loaded (h : Step st st') (hl : st.loaded = true) : st'.loaded = true := by
  rcases h.cases with rfl | ⟨h, -⟩
  · exact hl
  · simp [hl] at h

/-- A run from a state of the invariant keeps it. -/
theorem Run.keeps_inv (h : Run st st') (hi : st.Inv) : st'.Inv := by
  induction h with
  | refl => exact hi
  | step hs _ ih => exact ih (hi.step hs)

/-- In every state a sequence of `Core.init` calls reaches, `Core._loaded` and the python
library each come with the SensCord library. -/
theorem Reachable.inv (h : Reachable st) : st.Inv :=
  Run.keeps_inv h ⟨nofun, nofun⟩

/-- A Linux host with the SensCord library in `/lib` and no python library beside it. -/
def hostWithoutPythonLibrary : Host where
  system := .other
  fileSearchPath := none
  normAbs := id
  join d name := d ++ "/" ++ name
  besides path name := path ++ "/../" ++ name
  isDir d := d == "/lib"
  isFile f := f == "/lib/libsenscord.so"
  loads _ := true

theorem reachable_inv_without_python :
    Reachable ⟨false, ⟨none, some "/lib/libsenscord.so", none⟩⟩ ∧
      LoaderState.Inv ⟨false, ⟨none, some "/lib/libsenscord.so", none⟩⟩ :=
  have h : Reachable ⟨false, ⟨none, some "/lib/libsenscord.so", none⟩⟩ :=
    .step ⟨hostWithoutPythonLibrary, ⟨true, some 1⟩, 0, some "/lib", rfl⟩ (.refl _)
  ⟨h, Reachable.inv h⟩

/-- Once `_senscord_dll` is set, no sequence of `Core.init` calls changes a library
attribute. -/
theorem Run.libs_eq (h : Run st st') (hd : st.libs.senscordDll.isSome) : st'.libs = st.libs := by
  induction h with
  | refl => rfl
  | step hs _ ih => rw [ih (by rwa [hs.libs_eq_of_isSome hd]), hs.libs_eq_of_isSome hd]

theorem Run.loaded (h : Run st st') (hl : st.loaded = true) : st'.loaded = true := by
  induction h with
  | refl => exact hl
  | step hs _ ih => exact ih (hs.loaded hl)

/-- Over every sequence of `Core.init` calls, `Core._loaded` is never reset, and once
`_senscord_dll` is set no library attribute changes: a library missing then is never
loaded. -/
theorem Run.frozen_once_loaded (h : Run st st') :
    (st.loaded = true → st'.loaded = true) ∧
      (st.libs.senscordDll.isSome → st'.libs = st.libs) :=
  ⟨h.loaded, h.libs_eq⟩

theorem frozen_once_loaded_retry :
    Run ⟨false, ⟨none, some "/lib/libsenscord.so", none⟩⟩ ⟨true, ⟨none, some "/lib/libsenscord.so", none⟩⟩ ∧
      ((false = true → true = true) ∧
        ((some "/lib/libsenscord.so").isSome →
          (⟨none, some "/lib/libsenscord.so", none⟩ : Libraries) = ⟨none, some "/lib/libsenscord.so", none⟩)) :=
  have h : Run ⟨false, ⟨none, some "/lib/libsenscord.so", none⟩⟩ ⟨true, ⟨none, some "/lib/libsenscord.so", none⟩⟩ :=
    .step ⟨hostWithoutPythonLibrary, ⟨true, some 1⟩, 0, some "/lib", rfl⟩ (.refl _)
  ⟨h, Run.frozen_once_loaded h⟩

end Runs

end SensCord
