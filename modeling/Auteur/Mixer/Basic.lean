import Auteur.Control

/-!
The mixer node's data (`mixer.rs`): its input slots, the state its samples-selected
callbacks share, its settings, and the actor record itself.

* `ConsumerSlot`, `VideoMixingState`, `AudioMixingState`, `Mixer` — the records of the
  source, with the aggregators' pads inline (`Aggregator`) and every other GStreamer object
  by handle;
* `Node` — the mixer together with the `World` around it, the state every handler and
  callback takes and returns;
* `Outcome` — what a handler leaves: `Ok`, `Err` with the state at the failing `?`, or a
  panic of a failed `unwrap`;
* `createSettings`, `Mixer.new`, `parseSlotConfigKey` — `create_settings`, `Mixer::new` and
  `parse_slot_config_key`;
* `SettingsTyped` — every setting `create_settings` makes is there with a value of its type,
  so the `as_i32().unwrap()` and `as_str().unwrap()` on them return;
* `configureSettings_isOk`, `configureSettings_lookup`, `configureSettings_error`,
  `new_accepts_valid_config` — the `config` loop of `Mixer::new` accepts exactly the entries
  that name a setting and pass its check, writes each, and otherwise fails with the error of
  a bad entry;
* `parseSlotConfigKey_eq_ok` — `parse_slot_config_key` accepts exactly the keys
  `"video::" ++ p` and `"audio::" ++ p`, whatever `p` holds (`splitnColons_eq_some`,
  `splitnColons_append`).

Design notes: the state machine of `crate::utils` is not part of the mixer's sources; its
states are modelled from the spec (`State`, `StateMachine`).  Rust's `splitn(2, "::")` is
`splitnColons`, on characters: it cuts at the first `"::"`.
-/

namespace Auteur

/-- A connection to a pair of producers: `ConsumerSlot`.  The pads are serials of request
pads of the compositor (`videoPad`) and of the audiomixer (`audioPad`). -/
structure ConsumerSlot where
  videoProducer : AppSink
  audioProducer : AppSink
  videoAppsrc : AppSrc
  audioAppsrc : AppSrc
  videoBin : Option Handle
  audioBin : Option Handle
  volume : ℚ
  videoPad : Nat
  audioPad : Nat
  deriving DecidableEq, Repr

/-- What the compositor's samples-selected callback shares: `VideoMixingState`. -/
structure VideoMixingState where
  basePlateTimeout : ClockTime
  showingBasePlate : Bool
  slotControllers : Option (Table PropertyController)
  mixerControllers : Option (Table SettingController)
  lastPts : ClockTime
  capsfilter : Option Handle
  deriving DecidableEq

/-- What the audiomixer's samples-selected callback shares: `AudioMixingState`. -/
structure AudioMixingState where
  slotControllers : Option (Table PropertyController)
  lastPts : ClockTime
  deriving DecidableEq

/-- Modelled from the spec: the node states of `auteur_controlling::controller::State`. -/
inductive State
  | initial
  | starting
  | started
  | stopping
  | stopped
  deriving DecidableEq, Repr

/-- Modelled from the spec: the `StateMachine` of `crate::utils`, by its state. -/
structure StateMachine where
  state : State
  deriving DecidableEq, Repr

/-- The mixer actor: `Mixer`.  `pipeline` lists the pipeline's top-level elements. -/
structure Mixer where
  id : String
  pipeline : List Handle
  videoProducer : AppSink
  audioProducer : AppSink
  consumerSlots : Table ConsumerSlot
  audioMixer : Aggregator
  videoMixer : Aggregator
  videoMixingState : VideoMixingState
  audioMixingState : AudioMixingState
  stateMachine : StateMachine
  settings : Table Setting

/-- The mixer and the objects around it.  `callbackTimeout` is the fallback timeout the
compositor's samples-selected callback captured when `start_pipeline` installed the two
callbacks, `none` before. -/
structure Node where
  mixer : Mixer
  world : World
  callbackTimeout : Option ClockTime

/-- What a handler of the mixer leaves: the state in which it returned `Ok`, the state in
which it returned `Err` (with the error's message), or a panic of a failed `unwrap`. -/
inductive Outcome (α : Type) where
  | ok (a : α)
  | err (a : α) (message : String)
  | panic

namespace Outcome

/-- Continue after an `Ok`, as `?` does: an `Err` is returned with the state it left. -/
def bind {α : Type} : Outcome α → (α → Outcome α) → Outcome α
  | .ok a, f => f a
  | .err a msg, _ => .err a msg
  | .panic, _ => .panic

@[simp] theorem ok_bind {α : Type} (a : α) (f : α → Outcome α) :
    (Outcome.ok a).bind f = f a := rfl
@[simp] theorem err_bind {α : Type} (a : α) (m : String) (f : α → Outcome α) :
    (Outcome.err a m).bind f = .err a m := rfl
@[simp] theorem panic_bind {α : Type} (f : α → Outcome α) :
    (Outcome.panic).bind f = .panic := rfl

/-- The state a handler left, if it did not panic. -/
def state? {α : Type} : Outcome α → Option α
  | .ok a => some a
  | .err a _ => some a
  | .panic => none

theorem state?_bind {α : Type} {o : Outcome α} {f : α → Outcome α} {r : α}
    (h : (o.bind f).state? = some r) :
    (∃ a, o = .ok a ∧ (f a).state? = some r) ∨ ∃ e, o = .err r e := by
  cases o with
  | ok a => exact .inl ⟨a, rfl, h⟩
  | err a e => cases h; exact .inr ⟨e, rfl⟩
  | panic => cases h

theorem eq_of_state? {α : Type} {o : Outcome α} {a : α} (h : o.state? = some a) :
    o = .ok a ∨ ∃ e, o = .err a e := by
  cases o with
  | ok a' => cases h; exact .inl rfl
  | err a' e => cases h; exact .inr ⟨e, rfl⟩
  | panic => cases h

theorem bind_eq_err {α : Type} {o : Outcome α} {f : α → Outcome α} {r : α} {e : String}
    (h : o.bind f = .err r e) : o = .err r e ∨ ∃ a, o = .ok a ∧ f a = .err r e := by
  cases o with
  | ok a => exact .inr ⟨a, rfl, h⟩
  | err a e => exact .inl h
  | panic => cases h

theorem bind_ne_panic {α : Type} {o : Outcome α} {f : α → Outcome α} (ho : o ≠ .panic)
    (hf : ∀ a, o = .ok a → f a ≠ .panic) : o.bind f ≠ .panic := by
  cases o with
  | ok a => exact hf a rfl
  | err a e => nofun
  | panic => exact absurd rfl ho

end Outcome

/-! ### Construction -/

/-- `Mixer::create_settings`, as the source writes it (a `height` default of `1920`, and the
`sample-rate` setting named `"height"`). -/
def createSettings : Table Setting :=
  (∅ : Table Setting)
  |>.insert "width" ⟨"width", .i32 1 2147483647 1920, true⟩
  |>.insert "height" ⟨"height", .i32 1 2147483647 1920, true⟩
  |>.insert "sample-rate" ⟨"height", .i32 1 2147483647 48000, false⟩
  |>.insert "fallback-image" ⟨"fallback-image", .str "", false⟩
  |>.insert "fallback-timeout" ⟨"fallback-timeout", .i32 0 2147483647 500, true⟩

/-- The `config` loop of `Mixer::new`: every key must name a setting, whose check its value
must pass; the value is then written. -/
def configureSettings :
    List ((_ : String) × Value) → Table Setting → Except String (Table Setting)
  | [], t => .ok t
  | ⟨key, value⟩ :: rest, t =>
    match t.lookup key with
    | some s =>
      match s.validateValue value with
      | .ok () => configureSettings rest (t.insert key (s.setFromValue value))
      | .error e => .error e
    | none => .error ("No setting with name " ++ key ++ " on mixers")

/-- `Mixer::new(id, config)`: two appsinks wrapped by new producers, the two aggregators,
and the settings with `config` applied. -/
def Mixer.new (id : String) (config : Option (Table Value)) (w : World) : Except String Node :=
  let (w, audioAppsink) := w.make
  let (w, videoAppsink) := w.make
  let (w, audioMixer) := w.make
  let (w, videoMixer) := w.make
  match configureSettings ((config.map (·.entries)).getD []) createSettings with
  | .error e => .error e
  | .ok settings => .ok ⟨{
      id := id
      pipeline := [audioAppsink, videoAppsink]
      videoProducer := videoAppsink
      audioProducer := audioAppsink
      consumerSlots := ∅
      audioMixer := .new audioMixer
      videoMixer := .new videoMixer
      videoMixingState := ⟨none, false, some ∅, some ∅, none, none⟩
      audioMixingState := ⟨some ∅, none⟩
      stateMachine := ⟨.initial⟩
      settings := settings },
    { w with producers := Function.update (Function.update w.producers audioAppsink .new)
                            videoAppsink .new },
    none⟩

/-- `self.setting(name).unwrap().as_i32()`: `none` where an `unwrap` would panic. -/
def Mixer.settingI32 (m : Mixer) (name : String) : Option Int :=
  (m.settings.lookup name).bind Setting.asI32

/-! ### Typed settings -/

/-- Every setting `create_settings` makes is still there, with a value of its type. -/
def SettingsTyped (t : Table Setting) : Prop :=
  ∀ name s₀, createSettings.lookup name = some s₀ →
    ∃ s, t.lookup name = some s ∧ s₀.KeepsType s

namespace SettingsTyped

variable {t : Table Setting}

theorem createSettings : SettingsTyped createSettings := fun _ s₀ h => ⟨s₀, h, ⟨id, id⟩⟩

/-- Writing a setting with a value of its type keeps the settings typed. -/
theorem insert (h : SettingsTyped t) {k : String} {s s' : Setting} (hk : t.lookup k = some s)
    (hs : s.KeepsType s') : SettingsTyped (t.insert k s') := by
  intro name s₀ h₀
  obtain ⟨s₁, h₁, ht⟩ := h name s₀ h₀
  by_cases hn : name = k
  · subst hn
    cases hk.symm.trans h₁
    exact ⟨s', AList.lookup_insert _, ht.trans hs⟩
  · exact ⟨s₁, by rw [AList.lookup_insert_ne hn]; exact h₁, ht⟩

/-- The `config` loop of `Mixer::new` keeps the settings typed. -/
theorem configureSettings :
    ∀ (l : List ((_ : String) × Value)) {t t' : Table Setting}, SettingsTyped t →
      Auteur.configureSettings l t = .ok t' → SettingsTyped t'
  | [], _, _, h, hc => by cases hc; exact h
  | ⟨key, value⟩ :: rest, t, t', h, hc => by
    simp only [Auteur.configureSettings] at hc
    split at hc
    · rename_i s hs
      split at hc
      · exact configureSettings rest (h.insert hs (s.keepsType_setFromValue value)) hc
      · cases hc
    · cases hc

/-- The settings `start_pipeline`, `connect` and the compositor's callback read with
`as_i32().unwrap()` hold `i32`s. -/
theorem settingI32_isSome {m : Mixer} (h : SettingsTyped m.settings) {name : String}
    (hn : name = "width" ∨ name = "height" ∨ name = "sample-rate" ∨
      name = "fallback-timeout") :
    (m.settingI32 name).isSome := by
  obtain ⟨s₀, h₀, hs₀⟩ :
      ∃ s₀, Auteur.createSettings.lookup name = some s₀ ∧ s₀.asI32.isSome := by
    rcases hn with rfl | rfl | rfl | rfl <;> exact ⟨_, rfl, rfl⟩
  obtain ⟨s, hs, ht⟩ := h name s₀ h₀
  simpa [Mixer.settingI32, hs] using ht.1 hs₀

/-- The setting `start_pipeline` reads with `as_str().unwrap()` holds a string. -/
theorem fallbackImage_isSome (h : SettingsTyped t) :
    ((t.lookup "fallback-image").bind Setting.asStr).isSome := by
  obtain ⟨s, hs, ht⟩ := h "fallback-image" _ rfl
  simpa [hs] using ht.2 rfl

end SettingsTyped

/-! ### The configuration of `Mixer::new` -/

section Configure

variable {key : String} {value : Value} {rest : List ((_ : String) × Value)}

/-- The entries after the first do not touch the first one's setting. -/
theorem lookup_insert_of_nodupKeys (h : (⟨key, value⟩ :: rest).NodupKeys) (t : Table Setting)
    (s : Setting) : ∀ e ∈ rest, (t.insert key s).lookup e.1 = t.lookup e.1 := fun e he =>
  AList.lookup_insert_ne fun he' =>
    List.not_mem_keys_of_nodupKeys_cons h (he' ▸ List.mem_keys.2 ⟨e.2, he⟩)

/-- **The `config` loop accepts exactly the entries that name a setting and pass its check.** -/
theorem configureSettings_isOk : ∀ (l : List ((_ : String) × Value)) (t : Table Setting),
    l.NodupKeys → ((∃ t', configureSettings l t = .ok t') ↔
      ∀ e ∈ l, ∃ s, t.lookup e.1 = some s ∧ s.validateValue e.2 = .ok ())
  | [], _, _ => by simp [configureSettings]
  | ⟨key, value⟩ :: rest, t, h => by
    rw [List.forall_mem_cons]
    cases hk : t.lookup key with
    | none => simp [configureSettings, hk]
    | some s =>
      cases hv : s.validateValue value with
      | error e => simp [configureSettings, hk, hv]
      | ok u =>
        simp only [configureSettings, hk, hv, Option.some.injEq, exists_eq_left', true_and]
        rw [configureSettings_isOk rest _ (List.nodupKeys_of_nodupKeys_cons h)]
        refine forall₂_congr fun e he => ?_
        rw [lookup_insert_of_nodupKeys h t _ e he]

/-- What the `config` loop leaves: each setting an entry names, written with the entry's
value; every other setting as it was. -/
theorem configureSettings_lookup : ∀ (l : List ((_ : String) × Value)) {t t' : Table Setting},
    l.NodupKeys → configureSettings l t = .ok t' → ∀ k,
      t'.lookup k = (l.dlookup k).elim (t.lookup k) fun v => (t.lookup k).map (·.setFromValue v)
  | [], _, _, _, hc, _ => by cases hc; rfl
  | ⟨key, value⟩ :: rest, t, t', h, hc, k => by
    simp only [configureSettings] at hc
    split at hc
    · rename_i s hs
      split at hc
      · rw [configureSettings_lookup rest (List.nodupKeys_of_nodupKeys_cons h) hc k]
        by_cases hk : k = key
        · subst hk
          rw [List.dlookup_eq_none.2 (List.not_mem_keys_of_nodupKeys_cons h),
            List.dlookup_cons_eq, AList.lookup_insert, hs]
          rfl
        · rw [List.dlookup_cons_ne _ _ hk, AList.lookup_insert_ne hk]
      · cases hc
    · cases hc

/-- The `config` loop fails only at an entry whose key names no setting, with
`No setting with name <key> on mixers`, or whose value fails the setting's check, with the
check's error. -/
theorem configureSettings_error : ∀ (l : List ((_ : String) × Value)) {t : Table Setting}
    {e : String}, l.NodupKeys → configureSettings l t = .error e →
      ∃ k v, ⟨k, v⟩ ∈ l ∧ ((t.lookup k = none ∧ e = "No setting with name " ++ k ++ " on mixers") ∨
        ∃ s, t.lookup k = some s ∧ s.validateValue v = .error e)
  | [], _, _, _, hc => by cases hc
  | ⟨key, value⟩ :: rest, t, e, h, hc => by
    simp only [configureSettings] at hc
    split at hc
    · rename_i s hs
      split at hc
      · obtain ⟨k, v, hm, hkv⟩ := configureSettings_error rest (List.nodupKeys_of_nodupKeys_cons h) hc
        refine ⟨k, v, .tail _ hm, ?_⟩
        rwa [← lookup_insert_of_nodupKeys h t (s.setFromValue value) ⟨k, v⟩ hm]
      · rename_i e' hv
        cases hc
        exact ⟨key, value, .head _, .inr ⟨s, hs, hv⟩⟩
    · rename_i hs
      cases hc
      exact ⟨key, value, .head _, .inl ⟨hs, rfl⟩⟩

end Configure

/-- **`Mixer::new` accepts exactly the configurations whose every entry names a setting of
`create_settings` and passes its check.**  It then builds the mixer with each setting the
configuration names written with its value and every other setting as `create_settings` makes
it; otherwise it returns the error of a bad entry: `No setting with name <key> on mixers` for a
key that names no setting, or the setting's check's error. -/
theorem new_accepts_valid_config (id : String) (config : Table Value) (w : World) :
    ((∃ s, Mixer.new id (some config) w = .ok s) ↔ ∀ k v, config.lookup k = some v →
      ∃ st, createSettings.lookup k = some st ∧ st.validateValue v = .ok ()) ∧
    (∀ s, Mixer.new id (some config) w = .ok s → ∀ k, s.mixer.settings.lookup k =
      (config.lookup k).elim (createSettings.lookup k)
        fun v => (createSettings.lookup k).map (·.setFromValue v)) ∧
    ∀ e, Mixer.new id (some config) w = .error e → ∃ k v, config.lookup k = some v ∧
      ((createSettings.lookup k = none ∧ e = "No setting with name " ++ k ++ " on mixers") ∨
        ∃ st, createSettings.lookup k = some st ∧ st.validateValue v = .error e) := by
  have hnd := config.nodupKeys
  unfold Mixer.new
  dsimp only [World.make, Option.map_some', Option.getD_some]
  refine ⟨?_, fun s hs k => ?_, fun e he => ?_⟩
  · refine Iff.trans ⟨fun ⟨s, hs⟩ => ?_, fun ⟨t, ht⟩ => ⟨_, by rw [ht]⟩⟩
      ((configureSettings_isOk _ _ hnd).trans ⟨fun h k v hkv => h ⟨k, v⟩
        (AList.mem_lookup_iff.1 hkv), fun h e he => h e.1 e.2 (AList.mem_lookup_iff.2 he)⟩)
    split at hs
    · cases hs
    · exact ⟨_, ‹_›⟩
  · split at hs
    · cases hs
    · cases hs
      exact configureSettings_lookup _ hnd ‹_› k
  · split at he
    · cases he
      obtain ⟨k, v, hm, hkv⟩ := configureSettings_error _ hnd ‹_›
      exact ⟨k, v, AList.mem_lookup_iff.2 hm, hkv⟩
    · cases he

/-! ### Slot property keys -/

/-- `s.splitn(2, "::")`: the text before the first `"::"`, and the rest after it if there
is one. -/
def splitnColons : List Char → List Char × Option (List Char)
  | ':' :: ':' :: rest => ([], some rest)
  | c :: rest =>
    let r := splitnColons rest
    (c :: r.1, r.2)
  | [] => ([], none)

/-- `Mixer::parse_slot_config_key`: `"video::p"` is `(true, p)`, `"audio::p"` is
`(false, p)`. -/
def parseSlotConfigKey (property : String) : Except String (Bool × String) :=
  match splitnColons property.toList with
  | (mediaType, some name) =>
    if String.mk mediaType = "video" then .ok (true, String.mk name)
    else if String.mk mediaType = "audio" then .ok (false, String.mk name)
    else .error "Slot controller property media type must be one of \x7baudio, video\x7d"
  | (_, none) => .error "Slot controller property name must be in form media-type::property-name"

theorem splitnColons_cons {c : Char} {rest : List Char}
    (h : ∀ rest', c = ':' → rest = ':' :: rest' → False) :
    splitnColons (c :: rest) = (c :: (splitnColons rest).1, (splitnColons rest).2) :=
  splitnColons.eq_2 c rest h

/-- A cut puts back the `"::"` it cut at. -/
theorem splitnColons_eq_some {l a b : List Char} (h : splitnColons l = (a, some b)) :
    l = a ++ ':' :: ':' :: b := by
  induction l using splitnColons.induct generalizing a with
  | case1 rest =>
    simp only [splitnColons, Prod.mk.injEq, Option.some.injEq] at h
    obtain ⟨rfl, rfl⟩ := h; rfl
  | case2 c rest hc ih =>
    rw [splitnColons_cons hc] at h
    obtain ⟨rfl, h₂⟩ := Prod.mk.inj h
    exact congrArg (c :: ·) (ih (Prod.ext rfl h₂))
  | case3 => simp [splitnColons] at h

/-- A text with no `':'` before a `"::"` is cut there, whatever follows. -/
theorem splitnColons_append {a : List Char} (b : List Char) (ha : ':' ∉ a) :
    splitnColons (a ++ ':' :: ':' :: b) = (a, some b) := by
  induction a with
  | nil => rfl
  | cons c a ih =>
    simp only [List.mem_cons, not_or] at ha
    rw [List.cons_append, splitnColons_cons fun _ h => absurd h.symm ha.1, ih ha.2]

/-- `parse_slot_config_key` reads back exactly the keys `"video::" ++ p` and
`"audio::" ++ p`. -/
theorem parseSlotConfigKey_eq_ok {key p : String} {isVideo : Bool} :
    parseSlotConfigKey key = .ok (isVideo, p) ↔
      key = (if isVideo then "video::" else "audio::") ++ p := by
  constructor
  · intro h
    unfold parseSlotConfigKey at h
    split at h
    · rename_i mediaType name hsplit
      have hkey := splitnColons_eq_some hsplit
      split_ifs at h with hv ha <;> cases h
      · cases congrArg String.data hv
        exact String.ext hkey
      · cases congrArg String.data ha
        exact String.ext hkey
    · cases h
  · rintro rfl
    unfold parseSlotConfigKey
    cases isVideo
    · rw [show ((if false = true then "video::" else "audio::") ++ p).toList =
        "audio".data ++ ':' :: ':' :: p.data from String.data_append _ _,
        splitnColons_append _ (by decide)]
      rfl
    · rw [show ((if true = true then "video::" else "audio::") ++ p).toList =
        "video".data ++ ':' :: ':' :: p.data from String.data_append _ _,
        splitnColons_append _ (by decide)]
      rfl

/-- The aggregator of a pad namespace: the compositor for `video`, the audiomixer else. -/
def mixOf (isVideo : Bool) : Mix := if isVideo then .video else .audio

end Auteur
