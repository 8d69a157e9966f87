import Mathlib.Data.Set.Operations
import Mathlib.Logic.Relation
import SensCord.CApi.Setting

/-!
# SensCord.Stream.Callback

The frame and event callbacks of a `Stream`.  The library calls a registered callback back
with the `private_data` it was given, a `ctypes.pointer` to a `CallbackData` that only the
stream holds ("Keep parameters and avoid GC."): `_frame_callback_data` holds the frame
callback's, and `_event_callback_data` each event callback's, under the `event_type` it was
registered with.

The library knows an event type by the bytes `c_char_p` passes, `_to_bytes(event_type)` up
to its first NUL; the dictionary knows it by the Python value, so `"a"` and `b"a"` are two
keys of the dictionary and one event type of the library.  Over every run of the four
methods, whatever the library answers, the library holds only data the stream holds, and
both keep one entry a key (`reachable_consistent`).  The dictionary can hold more:
unregistering under the other spelling drops the library's callback, and then `del` raises
`KeyError` and the stream's entry stays (`unregisterEventCallback_keyError_iff`).  Only
that: over a run whose calls name event types the library reads apart, the dictionary is the
library's registrations under the Python spelling (`reachableWithin_mirrors`), and a
`KeyError` means the library held no callback for the event type and changes nothing
(`reachableWithin_keyError_iff`).

The library's side is its contract as the methods rely on it: a call that returns zero
registers the data for the event type, replacing any before, or unregisters it, and a call
that returns non-zero changes nothing.
-/

namespace SensCord

namespace Dict

variable {κ α : Type} [BEq κ]

/-- The entries but those of key `k`. -/
def erase (d : List (κ × α)) (k : κ) : List (κ × α) := d.filter fun e => e.1 != k

/-- `del d[k]`: the entries but `k`'s, or `none` (`KeyError`) when `k` has none. -/
def del? (d : List (κ × α)) (k : κ) : Option (List (κ × α)) :=
  if (get? d k).isSome then some (erase d k) else none

theorem nodup_erase {d : List (κ × α)} (k : κ) (h : (d.map Prod.fst).Nodup) :
    ((erase d k).map Prod.fst).Nodup :=
  h.sublist ((List.filter_sublist _).map _)

variable [LawfulBEq κ]

theorem get?_erase (d : List (κ × α)) (k k' : κ) :
    get? (erase d k) k' = if k == k' then none else get? d k' := by
  induction d with
  | nil => simp [erase, get?]
  | cons e d ih =>
    obtain ⟨k'', v⟩ := e
    by_cases h1 : k'' = k
    · subst h1
      by_cases h2 : k'' = k' <;> simp_all [erase, get?]
    · by_cases h2 : k'' = k'
      · subst h2
        simp_all [erase, get?, List.filter_cons, Ne.symm h1]
      · simp_all [erase, get?, List.filter_cons]

/-- Erasing a key no entry has changes nothing. -/
theorem erase_of_get?_eq_none {d : List (κ × α)} {k : κ} (h : get? d k = none) : erase d k = d := by
  induction d with
  | nil => rfl
  | cons e d ih =>
    obtain ⟨k', v⟩ := e
    by_cases hk : k' = k
    · simp [get?, hk] at h
    · simp only [get?, beq_iff_eq, hk, if_false] at h
      have hne : (k' != k) = true := by simpa using hk
      simp only [erase, List.filter_cons, hne, if_true]
      exact congrArg _ (ih h)

end Dict

/-! ## The stream and the library -/

/-- The `event_type` of `register_event_callback` and `unregister_event_callback`, "bytes or
str": the key of `_event_callback_data` as it is given. -/
inductive EventType where
  | str (s : List Char)
  | bytes (bs : List UInt8)
  deriving DecidableEq, Repr

/-- The event type the library reads: `_to_bytes(event_type)`, passed as `c_char_p`, up to its
first NUL. -/
def EventType.cKey : EventType → List UInt8
  | .str s => cString (utf8Encode s)
  | .bytes bs => cString bs

/-- What the library holds for a stream: the `private_data` of the frame callback, and that of
each event type's callback, by the bytes of the event type. -/
structure Registrations (κ : Type) where
  frame : Option κ
  events : List (List UInt8 × κ)
  deriving Repr

/-- The callback attributes of a `Stream`: `_frame_callback_data` and `_event_callback_data`. -/
structure StreamCallbacks (κ : Type) where
  frameCallbackData : Option κ
  eventCallbackData : List (EventType × κ)
  deriving Repr

/-- A stream's callback attributes beside what the library holds for it. -/
structure CallbackState (κ : Type) where
  stream : StreamCallbacks κ
  library : Registrations κ
  deriving Repr

/-- A stream as `Stream.__init__` leaves it, with nothing registered. -/
def CallbackState.initial {κ : Type} : CallbackState κ := ⟨⟨none, []⟩, ⟨none, []⟩⟩

/-- The exceptions of the callback methods: those of `SensCordC`, and the `KeyError` of `del`. -/
inductive CallbackError where
  | sdk (e : SdkError)
  | keyError (key : EventType)
  deriving Repr, DecidableEq

section Methods

variable {κ : Type}

/-- The callback functions of `SensCordC`: `_senscord_dll` must be loaded, and the library
function, answering `accepts`, applies `update` to what it holds and returns zero, or returns
non-zero and `ApiError` is raised. -/
def SensCordC.callbackCall (libs : Libraries) (accepts : Bool)
    (update : Registrations κ → Registrations κ) (reg : Registrations κ) :
    EStateM.Result SdkError (Registrations κ) Unit :=
  match SensCordC.checkLoaded libs .senscord with
  | .error e => .error e reg
  | .ok () => if accepts then .ok () (update reg) else .error .apiError reg

/-- `SensCordC.stream_register_frame_callback(stream_handle, callback, private_data)`. -/
def SensCordC.streamRegisterFrameCallback (libs : Libraries) (accepts : Bool) (privateData : κ) :
    Registrations κ → EStateM.Result SdkError (Registrations κ) Unit :=
  SensCordC.callbackCall libs accepts fun reg => { reg with frame := some privateData }

/-- `SensCordC.stream_unregister_frame_callback(stream_handle)`. -/
def SensCordC.streamUnregisterFrameCallback (libs : Libraries) (accepts : Bool) :
    Registrations κ → EStateM.Result SdkError (Registrations κ) Unit :=
  SensCordC.callbackCall libs accepts fun reg => { reg with frame := none }

/-- `SensCordC.stream_register_event_callback(stream_handle, event_type, callback,
private_data)`. -/
def SensCordC.streamRegisterEventCallback (libs : Libraries) (accepts : Bool) (eventType : EventType)
    (privateData : κ) : Registrations κ → EStateM.Result SdkError (Registrations κ) Unit :=
  SensCordC.callbackCall libs accepts fun reg =>
    { reg with events := Dict.set reg.events eventType.cKey privateData }

/-- `SensCordC.stream_unregister_event_callback(stream_handle, event_type)`. -/
def SensCordC.streamUnregisterEventCallback (libs : Libraries) (accepts : Bool) (eventType : EventType) :
    Registrations κ → EStateM.Result SdkError (Registrations κ) Unit :=
  SensCordC.callbackCall libs accepts fun reg => { reg with events := Dict.erase reg.events eventType.cKey }

/-- The body of each method's `with` block: the `SensCordC` call, then, once it returned,
`assign` to the stream's attributes. -/
def CallbackState.withLibrary (st : CallbackState κ)
    (call : Registrations κ → EStateM.Result SdkError (Registrations κ) Unit)
    (assign : StreamCallbacks κ → Except CallbackError (StreamCallbacks κ)) :
    EStateM.Result CallbackError (CallbackState κ) Unit :=
  match call st.library with
  | .error e reg => .error (.sdk e) { st with library := reg }
  | .ok () reg =>
    match assign st.stream with
    | .ok s => .ok () ⟨s, reg⟩
    | .error e => .error e ⟨st.stream, reg⟩

/-- The `TypeError` of a callback that is not callable. -/
def notCallable : CallbackError := .sdk (.py (.typeError "'callback' is not callable."))

/-- `Stream.register_frame_callback(callback, private_data)`, with the new `CallbackData`'s
pointer `callbackData`. -/
def Stream.registerFrameCallback (libs : Libraries) (accepts callable : Bool) (callbackData : κ)
    (st : CallbackState κ) : EStateM.Result CallbackError (CallbackState κ) Unit :=
  if callable then
    st.withLibrary (SensCordC.streamRegisterFrameCallback libs accepts callbackData) fun s =>
      .ok { s with frameCallbackData := some callbackData }
  else .error notCallable st

/-- `Stream.unregister_frame_callback()`. -/
def Stream.unregisterFrameCallback (libs : Libraries) (accepts : Bool) (st : CallbackState κ) :
    EStateM.Result CallbackError (CallbackState κ) Unit :=
  st.withLibrary (SensCordC.streamUnregisterFrameCallback libs accepts) fun s =>
    .ok { s with frameCallbackData := none }

/-- `Stream.register_event_callback(event_type, callback, private_data)`, with the new
`CallbackData`'s pointer `callbackData`. -/
def Stream.registerEventCallback (libs : Libraries) (accepts : Bool) (eventType : EventType)
    (callable : Bool) (callbackData : κ) (st : CallbackState κ) :
    EStateM.Result CallbackError (CallbackState κ) Unit :=
  if callable then
    st.withLibrary (SensCordC.streamRegisterEventCallback libs accepts eventType callbackData) fun s =>
      .ok { s with eventCallbackData := Dict.set s.eventCallbackData eventType callbackData }
  else .error notCallable st

/-- `Stream.unregister_event_callback(event_type)`: `del self._event_callback_data[event_type]`
after the library call. -/
def Stream.unregisterEventCallback (libs : Libraries) (accepts : Bool) (eventType : EventType)
    (st : CallbackState κ) : EStateM.Result CallbackError (CallbackState κ) Unit :=
  st.withLibrary (SensCordC.streamUnregisterEventCallback libs accepts eventType) fun s =>
    match Dict.del? s.eventCallbackData eventType with
    | some d => .ok { s with eventCallbackData := d }
    | none => .error (.keyError eventType)

end Methods

/-! ## Every run -/

/-- One call of a callback method. -/
inductive CallbackCall (κ : Type) where
  | registerFrame (callable : Bool) (callbackData : κ)
  | unregisterFrame
  | registerEvent (eventType : EventType) (callable : Bool) (callbackData : κ)
  | unregisterEvent (eventType : EventType)

/-- The method a call names, with the library answering `accepts`. -/
def CallbackCall.run {κ : Type} (libs : Libraries) (accepts : Bool) :
    CallbackCall κ → CallbackState κ → EStateM.Result CallbackError (CallbackState κ) Unit
  | .registerFrame callable d => Stream.registerFrameCallback libs accepts callable d
  | .unregisterFrame => Stream.unregisterFrameCallback libs accepts
  | .registerEvent e callable d => Stream.registerEventCallback libs accepts e callable d
  | .unregisterEvent e => Stream.unregisterEventCallback libs accepts e

/-- The event type a call names, if any. -/
def CallbackCall.eventType? {κ : Type} : CallbackCall κ → Option EventType
  | .registerEvent e .. | .unregisterEvent e => some e
  | _ => none

/-- The state after a call, whether it returned or raised. -/
def CallbackState.after {κ : Type} : EStateM.Result CallbackError (CallbackState κ) Unit → CallbackState κ
  | .ok _ st => st
  | .error _ st => st

/-- One call of a callback method, with any arguments and whatever the library answers. -/
def CallbackState.Step {κ : Type} (st st' : CallbackState κ) : Prop :=
  ∃ libs accepts, ∃ c : CallbackCall κ, CallbackState.after (c.run libs accepts st) = st'

/-- The states some sequence of callback method calls reaches from `Stream.__init__`. -/
def CallbackState.Reachable {κ : Type} (st : CallbackState κ) : Prop :=
  Relation.ReflTransGen CallbackState.Step CallbackState.initial st

/-- The library holds only data the stream holds: the same frame callback data, and for each
event type the data of an entry of the dictionary that the library reads as that event type;
and each of the two has one entry a key. -/
structure CallbackState.Consistent {κ : Type} (st : CallbackState κ) : Prop where
  frame : st.library.frame = st.stream.frameCallbackData
  events : ∀ k p, Dict.get? st.library.events k = some p →
    ∃ e, e.cKey = k ∧ Dict.get? st.stream.eventCallbackData e = some p
  streamKeys : (st.stream.eventCallbackData.map Prod.fst).Nodup
  libraryKeys : (st.library.events.map Prod.fst).Nodup

/-! ## What one call can do -/

section Steps

variable {κ : Type} {libs : Libraries} {accepts : Bool} {st : CallbackState κ}
  {r : EStateM.Result CallbackError (CallbackState κ) Unit}

/-- What a method's `with` block can do: raise from the library call and change nothing, or,
once the library was loaded and returned zero, apply its `update` beside the stream's
assignment, whether that returned or raised. -/
theorem withLibrary_cases {update : Registrations κ → Registrations κ}
    {assign : StreamCallbacks κ → Except CallbackError (StreamCallbacks κ)}
    (h : st.withLibrary (SensCordC.callbackCall libs accepts update) assign = r) :
    (∃ e, r = .error (.sdk e) st) ∨
      SensCordC.checkLoaded libs .senscord = .ok () ∧ accepts = true ∧
        ((∃ s, assign st.stream = .ok s ∧ r = .ok () ⟨s, update st.library⟩) ∨
          ∃ e, assign st.stream = .error e ∧ r = .error e ⟨st.stream, update st.library⟩) := by
  subst h
  unfold CallbackState.withLibrary SensCordC.callbackCall
  rcases hl : SensCordC.checkLoaded libs .senscord with e | ⟨⟩
  · exact .inl ⟨e, rfl⟩
  · cases accepts
    · exact .inl ⟨.apiError, rfl⟩
    · refine .inr ⟨rfl, rfl, ?_⟩
      rcases assign st.stream with e | s
      · exact .inr ⟨e, rfl, rfl⟩
      · exact .inl ⟨s, rfl, rfl⟩

/-- A property of states holds after a `with` block when the library's update keeps it,
beside the stream's assignment, or beside the stream as it was when the assignment raises. -/
theorem withLibrary_preserves (P : CallbackState κ → Prop) (h : P st)
    {update : Registrations κ → Registrations κ}
    {assign : StreamCallbacks κ → Except CallbackError (StreamCallbacks κ)}
    (hok : ∀ s, assign st.stream = .ok s → P ⟨s, update st.library⟩)
    (herr : ∀ e, assign st.stream = .error e → P ⟨st.stream, update st.library⟩) :
    P (CallbackState.after (st.withLibrary (SensCordC.callbackCall libs accepts update) assign)) := by
  rcases withLibrary_cases (rfl : st.withLibrary (SensCordC.callbackCall libs accepts update) assign = _)
    with ⟨_, he⟩ | ⟨-, -, ⟨s, hs, he⟩ | ⟨e, hs, he⟩⟩ <;> rw [he]
  · exact h
  · exact hok s hs
  · exact herr e hs

/-- What one call can do, as an induction step: a property of states holds after any call,
whatever the library answers, when it holds before and after each change a call can make:
both frame slots set to one value, an event type the call names registered on both sides, or
unregistered on both sides, or unregistered in the library only when the dictionary lacks it. -/
theorem CallbackCall.run_preserves (P : CallbackState κ → Prop) (c : CallbackCall κ) (h : P st)
    (hframe : ∀ p, P ⟨{ st.stream with frameCallbackData := p }, { st.library with frame := p }⟩)
    (hset : ∀ e d, c.eventType? = some e →
      P ⟨{ st.stream with eventCallbackData := Dict.set st.stream.eventCallbackData e d },
        { st.library with events := Dict.set st.library.events e.cKey d }⟩)
    (herase : ∀ e, c.eventType? = some e →
      P ⟨{ st.stream with eventCallbackData := Dict.erase st.stream.eventCallbackData e },
        { st.library with events := Dict.erase st.library.events e.cKey }⟩)
    (hlib : ∀ e, c.eventType? = some e → Dict.get? st.stream.eventCallbackData e = none →
      P ⟨st.stream, { st.library with events := Dict.erase st.library.events e.cKey }⟩) :
    P (CallbackState.after (c.run libs accepts st)) := by
  cases c with
  | registerFrame callable d =>
    simp only [CallbackCall.run, Stream.registerFrameCallback]
    split_ifs
    · exact withLibrary_preserves P h (fun _ hs => by cases hs; exact hframe _) fun _ hs =>
        Except.noConfusion hs
    · exact h
  | unregisterFrame =>
    simp only [CallbackCall.run, Stream.unregisterFrameCallback]
    exact withLibrary_preserves P h (fun _ hs => by cases hs; exact hframe _) fun _ hs =>
      Except.noConfusion hs
  | registerEvent e callable d =>
    simp only [CallbackCall.run, Stream.registerEventCallback]
    split_ifs
    · exact withLibrary_preserves P h (fun _ hs => by cases hs; exact hset e d rfl) fun _ hs =>
        Except.noConfusion hs
    · exact h
  | unregisterEvent e =>
    simp only [CallbackCall.run, Stream.unregisterEventCallback]
    refine withLibrary_preserves P h (fun _ hs => ?_) fun _ hs => hlib e rfl ?_ <;>
      simp only [Dict.del?] at hs <;> split_ifs at hs with hk
    · cases hs
      exact herase e rfl
    · simpa using hk

/-- A `with` block whose assignment raises no exception of `SensCordC` raises one only from
the library call, and then changes nothing. -/
theorem withLibrary_eq_sdk_error {update : Registrations κ → Registrations κ}
    {assign : StreamCallbacks κ → Except CallbackError (StreamCallbacks κ)} {e : SdkError}
    {st' : CallbackState κ} (hassign : ∀ e', assign st.stream ≠ .error (.sdk e'))
    (h : st.withLibrary (SensCordC.callbackCall libs accepts update) assign = .error (.sdk e) st') :
    st' = st := by
  rcases withLibrary_cases h with ⟨_, he⟩ | ⟨-, -, ⟨_, _, he⟩ | ⟨_, hs, he⟩⟩
  · cases he; rfl
  · cases he
  · cases he
    exact absurd hs (hassign e)

/-- A call that raises an exception of `SensCordC`, the `TypeError` of a callback that is not
callable included, leaves the stream and the library as they were. -/
theorem CallbackCall.run_eq_sdk_error {c : CallbackCall κ} {e : SdkError} {st' : CallbackState κ}
    (h : c.run libs accepts st = .error (.sdk e) st') : st' = st := by
  cases c with
  | registerFrame callable d =>
    simp only [CallbackCall.run, Stream.registerFrameCallback] at h
    split_ifs at h
    · exact withLibrary_eq_sdk_error (fun _ h => Except.noConfusion h) h
    · cases h; rfl
  | unregisterFrame =>
    simp only [CallbackCall.run, Stream.unregisterFrameCallback] at h
    exact withLibrary_eq_sdk_error (fun _ h => Except.noConfusion h) h
  | registerEvent e callable d =>
    simp only [CallbackCall.run, Stream.registerEventCallback] at h
    split_ifs at h
    · exact withLibrary_eq_sdk_error (fun _ h => Except.noConfusion h) h
    · cases h; rfl
  | unregisterEvent e =>
    simp only [CallbackCall.run, Stream.unregisterEventCallback] at h
    exact withLibrary_eq_sdk_error (fun _ => by split <;> nofun) h

/-- `unregister_event_callback(event_type)` raises `KeyError` exactly when the library was
loaded and unregistered the event type while the stream has no entry under this spelling of
it.  The library has then dropped its callback, and the stream keeps all its entries: one
registered under the other spelling stays. -/
theorem unregisterEventCallback_keyError_iff (libs : Libraries) (accepts : Bool) (e : EventType)
    (st st' : CallbackState κ) :
    Stream.unregisterEventCallback libs accepts e st = .error (.keyError e) st' ↔
      SensCordC.checkLoaded libs .senscord = .ok () ∧ accepts = true ∧
        Dict.get? st.stream.eventCallbackData e = none ∧
        st' = ⟨st.stream, { st.library with events := Dict.erase st.library.events e.cKey }⟩ := by
  constructor
  · intro h
    rcases withLibrary_cases h with ⟨_, he⟩ | ⟨hl, ha, ⟨_, _, he⟩ | ⟨_, hs, he⟩⟩
    · cases he
    · cases he
    · cases he
      refine ⟨hl, ha, ?_, rfl⟩
      rcases hk : Dict.get? st.stream.eventCallbackData e with _ | v
      · rfl
      · simp [Dict.del?, hk] at hs
  · rintro ⟨hl, rfl, hk, rfl⟩
    simp [Stream.unregisterEventCallback, CallbackState.withLibrary,
      SensCordC.streamUnregisterEventCallback, SensCordC.callbackCall, hl, Dict.del?, hk]

end Steps

/-! ## The stream holds what the library holds -/

namespace CallbackState.Consistent

variable {κ : Type} {st : CallbackState κ}

theorem initial : (CallbackState.initial : CallbackState κ).Consistent :=
  ⟨rfl, fun _ _ => nofun, List.nodup_nil, List.nodup_nil⟩

/-- Both frame slots set to the same data. -/
theorem setFrame (h : st.Consistent) (p : Option κ) :
    (⟨{ st.stream with frameCallbackData := p }, { st.library with frame := p }⟩ :
      CallbackState κ).Consistent :=
  ⟨rfl, h.events, h.streamKeys, h.libraryKeys⟩

/-- An event type registered on both sides, the library reading it as its bytes. -/
theorem setEvent (h : st.Consistent) (e : EventType) (p : κ) :
    (⟨{ st.stream with eventCallbackData := Dict.set st.stream.eventCallbackData e p },
      { st.library with events := Dict.set st.library.events e.cKey p }⟩ : CallbackState κ).Consistent := by
  refine ⟨h.frame, fun k q hq => ?_, Dict.nodup_set _ _ h.streamKeys, Dict.nodup_set _ _ h.libraryKeys⟩
  simp only [Dict.get?_set, beq_iff_eq] at hq ⊢
  split_ifs at hq with hk
  · cases hq
    exact ⟨e, hk, by simp⟩
  · obtain ⟨e', he', hq'⟩ := h.events k q hq
    exact ⟨e', he', by rw [if_neg (by rintro rfl; exact hk he')]; exact hq'⟩

/-- An event type unregistered on both sides. -/
theorem eraseEvent (h : st.Consistent) (e : EventType) :
    (⟨{ st.stream with eventCallbackData := Dict.erase st.stream.eventCallbackData e },
      { st.library with events := Dict.erase st.library.events e.cKey }⟩ : CallbackState κ).Consistent := by
  refine ⟨h.frame, fun k q hq => ?_, Dict.nodup_erase _ h.streamKeys, Dict.nodup_erase _ h.libraryKeys⟩
  simp only [Dict.get?_erase, beq_iff_eq] at hq ⊢
  split_ifs at hq with hk
  obtain ⟨e', rfl, hq'⟩ := h.events k q hq
  exact ⟨e', rfl, by rw [if_neg (by rintro rfl; exact hk rfl)]; exact hq'⟩

/-- An event type unregistered in the library only. -/
theorem eraseLibraryEvent (h : st.Consistent) (k₀ : List UInt8) :
    (⟨st.stream, { st.library with events := Dict.erase st.library.events k₀ }⟩ :
      CallbackState κ).Consistent := by
  refine ⟨h.frame, fun k q hq => ?_, h.streamKeys, Dict.nodup_erase _ h.libraryKeys⟩
  simp only [Dict.get?_erase, beq_iff_eq] at hq
  split_ifs at hq
  exact h.events k q hq

/-- Every call of a callback method, whatever the library answers, keeps the stream consistent
with the library. -/
theorem step {st st' : CallbackState κ} (h : st.Consistent) (hs : CallbackState.Step st st') :
    st'.Consistent := by
  obtain ⟨libs, accepts, c, rfl⟩ := hs
  exact c.run_preserves _ h h.setFrame (fun e d _ => h.setEvent e d) (fun e _ => h.eraseEvent e)
    fun _ _ _ => h.eraseLibraryEvent _

end CallbackState.Consistent

/-- In every state a run of callback method calls reaches from `Stream.__init__`, whatever the
library answered, the stream holds the data of every callback the library holds (the frame
callback's as its own, each event type's under some spelling of it), and neither holds two
entries under one key. -/
theorem reachable_consistent {κ : Type} {st : CallbackState κ} (h : st.Reachable) : st.Consistent := by
  induction h with
  | refl => exact .initial
  | tail _ hs ih => exact ih.step hs

/-- The library that `Core.init` loaded, as the callback calls see it. -/
def loadedLibraries : Libraries := ⟨none, some "libsenscord.so", none⟩

/-- A run that leaves the stream an entry the library no longer holds: `b"a"` registered, then
unregistered as `"a"`, which raises `KeyError`. -/
theorem consistent_after_other_spelling :
    CallbackState.Reachable (⟨⟨none, [(.bytes [97], 1)]⟩, ⟨none, []⟩⟩ : CallbackState Nat) ∧
      (⟨⟨none, [(.bytes [97], 1)]⟩, ⟨none, []⟩⟩ : CallbackState Nat).Consistent :=
  have h : CallbackState.Reachable (⟨⟨none, [(.bytes [97], 1)]⟩, ⟨none, []⟩⟩ : CallbackState Nat) :=
    .tail (.single ⟨loadedLibraries, true, .registerEvent (.bytes [97]) true 1, rfl⟩)
      ⟨loadedLibraries, true, .unregisterEvent (.str ['a']), rfl⟩
  ⟨h, reachable_consistent h⟩

/-! ## One spelling per event type -/

/-- One call of a callback method that names only event types of `E`. -/
def CallbackState.StepWithin {κ : Type} (E : Set EventType) (st st' : CallbackState κ) : Prop :=
  ∃ libs accepts, ∃ c : CallbackCall κ, (∀ e, c.eventType? = some e → e ∈ E) ∧
    CallbackState.after (c.run libs accepts st) = st'

/-- The stream's dictionary is the library's registrations read under the event types of
`E`: each of them holds in the dictionary what the library holds for its bytes, and neither
holds anything else. -/
structure CallbackState.Mirrors {κ : Type} (E : Set EventType) (st : CallbackState κ) : Prop where
  frame : st.library.frame = st.stream.frameCallbackData
  events : ∀ e ∈ E, Dict.get? st.library.events e.cKey = Dict.get? st.stream.eventCallbackData e
  streamIn : ∀ e p, Dict.get? st.stream.eventCallbackData e = some p → e ∈ E
  libraryIn : ∀ k p, Dict.get? st.library.events k = some p → ∃ e ∈ E, e.cKey = k

namespace CallbackState.Mirrors

variable {κ : Type} {E : Set EventType} {st : CallbackState κ}

theorem initial : (CallbackState.initial : CallbackState κ).Mirrors E :=
  ⟨rfl, fun _ _ => rfl, fun _ _ => nofun, fun _ _ => nofun⟩

/-- Two event types of `E` the library reads alike are one. -/
theorem cKey_eq_iff (hE : Set.InjOn EventType.cKey E) {e e' : EventType} (he : e ∈ E) (he' : e' ∈ E) :
    e.cKey = e'.cKey ↔ e = e' :=
  ⟨fun h => hE he he' h, congrArg _⟩

theorem setFrame (h : st.Mirrors E) (p : Option κ) :
    (⟨{ st.stream with frameCallbackData := p }, { st.library with frame := p }⟩ :
      CallbackState κ).Mirrors E :=
  ⟨rfl, h.events, h.streamIn, h.libraryIn⟩

theorem setEvent (hE : Set.InjOn EventType.cKey E) (h : st.Mirrors E) {e : EventType} (he : e ∈ E) (p : κ) :
    (⟨{ st.stream with eventCallbackData := Dict.set st.stream.eventCallbackData e p },
      { st.library with events := Dict.set st.library.events e.cKey p }⟩ : CallbackState κ).Mirrors E := by
  refine ⟨h.frame, fun e' he' => ?_, fun e' q hq => ?_, fun k q hq => ?_⟩
  · simp only [Dict.get?_set, beq_iff_eq, cKey_eq_iff hE he he', h.events e' he']
  · simp only [Dict.get?_set, beq_iff_eq] at hq
    split_ifs at hq with hk
    · exact hk ▸ he
    · exact h.streamIn e' q hq
  · simp only [Dict.get?_set, beq_iff_eq] at hq
    split_ifs at hq with hk
    · exact ⟨e, he, hk⟩
    · exact h.libraryIn k q hq

theorem eraseEvent (hE : Set.InjOn EventType.cKey E) (h : st.Mirrors E) {e : EventType} (he : e ∈ E) :
    (⟨{ st.stream with eventCallbackData := Dict.erase st.stream.eventCallbackData e },
      { st.library with events := Dict.erase st.library.events e.cKey }⟩ : CallbackState κ).Mirrors E := by
  refine ⟨h.frame, fun e' he' => ?_, fun e' q hq => ?_, fun k q hq => ?_⟩
  · simp only [Dict.get?_erase, beq_iff_eq, cKey_eq_iff hE he he', h.events e' he']
  · simp only [Dict.get?_erase, beq_iff_eq] at hq
    split_ifs at hq
    exact h.streamIn e' q hq
  · simp only [Dict.get?_erase, beq_iff_eq] at hq
    split_ifs at hq
    exact h.libraryIn k q hq

/-- The library unregistering an event type of `E` that the dictionary lacks changes nothing
it holds. -/
theorem eraseLibraryEvent (hE : Set.InjOn EventType.cKey E) (h : st.Mirrors E) {e : EventType} (he : e ∈ E)
    (hnone : Dict.get? st.stream.eventCallbackData e = none) :
    (⟨st.stream, { st.library with events := Dict.erase st.library.events e.cKey }⟩ :
      CallbackState κ).Mirrors E := by
  refine ⟨h.frame, fun e' he' => ?_, h.streamIn, fun k q hq => ?_⟩
  · simp only [Dict.get?_erase, beq_iff_eq, cKey_eq_iff hE he he']
    split_ifs with hk
    · rw [← hk, hnone]
    · exact h.events e' he'
  · simp only [Dict.get?_erase, beq_iff_eq] at hq
    split_ifs at hq
    exact h.libraryIn k q hq

/-- Every call naming only event types of `E`, whatever the library answers, keeps the
dictionary the library's registrations under `E`. -/
theorem stepWithin (hE : Set.InjOn EventType.cKey E) {st st' : CallbackState κ} (h : st.Mirrors E)
    (hs : CallbackState.StepWithin E st st') : st'.Mirrors E := by
  obtain ⟨libs, accepts, c, hc, rfl⟩ := hs
  exact c.run_preserves _ h h.setFrame (fun e d he => h.setEvent hE (hc e he) d)
    (fun e he => h.eraseEvent hE (hc e he)) fun e he hnone => h.eraseLibraryEvent hE (hc e he) hnone

/-- Over every run naming only event types of `E`, the dictionary is the library's
registrations under `E`. -/
theorem of_run (hE : Set.InjOn EventType.cKey E) {st : CallbackState κ}
    (h : Relation.ReflTransGen (CallbackState.StepWithin E) CallbackState.initial st) : st.Mirrors E := by
  induction h with
  | refl => exact .initial
  | tail _ hs ih => exact ih.stepWithin hE hs

end CallbackState.Mirrors

/-- Over every run from `Stream.__init__` whose calls name only event types of a set `E` that
the library reads apart (no two spellings of one event type), whatever the library answered,
the stream's `_event_callback_data` holds under each event type of `E` exactly what the
library holds for it, and neither holds anything else; the frame callback data is the
library's. -/
theorem reachableWithin_mirrors {κ : Type} {E : Set EventType} (hE : Set.InjOn EventType.cKey E)
    {st : CallbackState κ} (h : Relation.ReflTransGen (CallbackState.StepWithin E) CallbackState.initial st) :
    st.Mirrors E :=
  CallbackState.Mirrors.of_run hE h

/-- A run with the one spelling `"a"`: registered, then registered again. -/
theorem mirrors_after_reregistering :
    Set.InjOn EventType.cKey {EventType.str ['a']} ∧
      Relation.ReflTransGen (CallbackState.StepWithin {EventType.str ['a']}) CallbackState.initial
        (⟨⟨none, [(.str ['a'], 2)]⟩, ⟨none, [([97], 2)]⟩⟩ : CallbackState Nat) ∧
      (⟨⟨none, [(.str ['a'], 2)]⟩, ⟨none, [([97], 2)]⟩⟩ : CallbackState Nat).Mirrors
        {EventType.str ['a']} :=
  have hE : Set.InjOn EventType.cKey {EventType.str ['a']} := fun _ ha _ hb _ => ha.trans hb.symm
  have h : Relation.ReflTransGen (CallbackState.StepWithin {EventType.str ['a']}) CallbackState.initial
      (⟨⟨none, [(.str ['a'], 2)]⟩, ⟨none, [([97], 2)]⟩⟩ : CallbackState Nat) :=
    .tail (.single ⟨loadedLibraries, true, .registerEvent (.str ['a']) true 1,
        fun _ h => (Option.some.inj h).symm, rfl⟩)
      ⟨loadedLibraries, true, .registerEvent (.str ['a']) true 2, fun _ h => (Option.some.inj h).symm, rfl⟩
  ⟨hE, h, reachableWithin_mirrors hE h⟩

/-- Over every run from `Stream.__init__` whose calls name only event types the library
reads apart, `unregister_event_callback` of such an event type raises `KeyError` exactly when
the SensCord library is loaded, the library call returns zero, and the library held no
callback for the event type; the call then changes nothing.  With one spelling per event
type the `KeyError` means "not registered"; across two spellings it can follow the library
dropping a callback (`unregisterEventCallback_keyError_iff`). -/
theorem reachableWithin_keyError_iff {κ : Type} {E : Set EventType} (hE : Set.InjOn EventType.cKey E)
    {st : CallbackState κ} (h : Relation.ReflTransGen (CallbackState.StepWithin E) CallbackState.initial st)
    {e : EventType} (he : e ∈ E) (libs : Libraries) (accepts : Bool) (st' : CallbackState κ) :
    Stream.unregisterEventCallback libs accepts e st = .error (.keyError e) st' ↔
      SensCordC.checkLoaded libs .senscord = .ok () ∧ accepts = true ∧
        Dict.get? st.library.events e.cKey = none ∧ st' = st := by
  have hm := (CallbackState.Mirrors.of_run hE h).events e he
  rw [unregisterEventCallback_keyError_iff, hm]
  refine and_congr_right fun _ => and_congr_right fun _ => and_congr_right fun hk => ?_
  rw [Dict.erase_of_get?_eq_none (hm.trans hk)]

/-- A run with the one spelling `"a"`: registered, then unregistered; unregistering it again
raises `KeyError` and changes nothing. -/
theorem keyError_after_unregistering :
    Set.InjOn EventType.cKey {EventType.str ['a']} ∧
      Relation.ReflTransGen (CallbackState.StepWithin {EventType.str ['a']}) CallbackState.initial
        (⟨⟨none, []⟩, ⟨none, []⟩⟩ : CallbackState Nat) ∧
      EventType.str ['a'] ∈ ({EventType.str ['a']} : Set EventType) ∧
      (Stream.unregisterEventCallback loadedLibraries true (.str ['a'])
          (⟨⟨none, []⟩, ⟨none, []⟩⟩ : CallbackState Nat) =
          .error (.keyError (.str ['a'])) ⟨⟨none, []⟩, ⟨none, []⟩⟩ ↔
        SensCordC.checkLoaded loadedLibraries .senscord = .ok () ∧ true = true ∧
          Dict.get? (⟨⟨none, []⟩, ⟨none, []⟩⟩ : CallbackState Nat).library.events
            (EventType.str ['a']).cKey = none ∧
          (⟨⟨none, []⟩, ⟨none, []⟩⟩ : CallbackState Nat) = ⟨⟨none, []⟩, ⟨none, []⟩⟩) :=
  have hE : Set.InjOn EventType.cKey {EventType.str ['a']} := fun _ ha _ hb _ => ha.trans hb.symm
  have h : Relation.ReflTransGen (CallbackState.StepWithin {EventType.str ['a']}) CallbackState.initial
      (⟨⟨none, []⟩, ⟨none, []⟩⟩ : CallbackState Nat) :=
    .tail (.single ⟨loadedLibraries, true, .registerEvent (.str ['a']) true 1,
        fun _ h => (Option.some.inj h).symm, rfl⟩)
      ⟨loadedLibraries, true, .unregisterEvent (.str ['a']), fun _ h => (Option.some.inj h).symm, rfl⟩
  ⟨hE, h, rfl, reachableWithin_keyError_iff hE h rfl loadedLibraries true _⟩

end SensCord
