import Auteur.Mixer.Slots

/-!
Control points of the mixer: the four request handlers that queue and unqueue them, and
what `GetNodeInfo` reports of them.

* `addSlotControlPoint`, `removeSlotControlPoint` — `add_slot_control_point` and
  `remove_slot_control_point`, on the slot controllers of the video or audio mixing state;
* `addControlPoint`, `removeControlPoint` — `add_control_point` and `remove_control_point`;
* `Mixer.controlPoints`, `Mixer.slotControlPoints`, `Mixer.slotInfos` — `control_points`,
  `slot_control_points` and the `slots` that `GetNodeInfo` reports;
* `addSlotControlPoint_err`, `addControlPoint_err` — a request that fails leaves the node
  as it was;
* `addSlotControlPoint_spec` … `removeControlPoint_spec` — each handler changes controllers
  only, keeps every property of slot controllers that their slot, pad and property decide,
  and keeps every mixer controller under its setting's name;
* `ControllersPresent`, `addSlotControlPoint_ne_panic` … — while the controller maps are
  there, no handler panics, and each puts back the map it changes;
* `slot_property_keys_parse` — the two parses of slot property keys agree, on every key, and
  the reporting prefix gives the key back (`removeSlotControlPoint_eq`).

Design notes: a slot controller is stored under `slot_id ++ property`, with no separator,
and is created with the pad the slot has at that moment.  `remove_slot_control_point`
parses its key inline, not with `parse_slot_config_key`, and returns early (with `Ok`) on a
malformed key.  `remove_control_point` looks the controller up in the video *slot*
controllers, under the bare setting name; the model keeps that lookup as the source has it.
-/

namespace Auteur

/-- `MixerSlotInfo`, what `GetNodeInfo` reports of a slot. -/
structure MixerSlotInfo where
  volume : ℚ
  deriving DecidableEq, Repr

namespace Mixer

/-- The slot controllers of the video (`isVideo`) or audio mixing state; `none` where
`slot_controllers.as_mut().unwrap()` would panic. -/
def slotControllers (isVideo : Bool) (m : Mixer) : Option (Table PropertyController) :=
  if isVideo then m.videoMixingState.slotControllers else m.audioMixingState.slotControllers

/-- Store the slot controllers of the video or audio mixing state. -/
def setSlotControllers (isVideo : Bool) (t : Table PropertyController) (m : Mixer) : Mixer :=
  if isVideo then
    { m with videoMixingState := { m.videoMixingState with slotControllers := some t } }
  else { m with audioMixingState := { m.audioMixingState with slotControllers := some t } }

/-- Store the mixer controllers of the video mixing state. -/
def setMixerControllers (t : Table SettingController) (m : Mixer) : Mixer :=
  { m with videoMixingState := { m.videoMixingState with mixerControllers := some t } }

@[simp] theorem slotControllers_setSlotControllers (b b' : Bool) (t : Table PropertyController)
    (m : Mixer) : (m.setSlotControllers b t).slotControllers b' =
      if b' = b then some t else m.slotControllers b' := by
  cases b <;> cases b' <;> rfl

@[simp] theorem setSlotControllers_consumerSlots (b : Bool) (t : Table PropertyController)
    (m : Mixer) : (m.setSlotControllers b t).consumerSlots = m.consumerSlots := by
  cases b <;> rfl

@[simp] theorem setSlotControllers_aggregator (b : Bool) (t : Table PropertyController)
    (m : Mixer) (mix : Mix) : (m.setSlotControllers b t).aggregator mix = m.aggregator mix := by
  cases b <;> cases mix <;> rfl

@[simp] theorem setSlotControllers_mixerControllers (b : Bool) (t : Table PropertyController)
    (m : Mixer) : (m.setSlotControllers b t).videoMixingState.mixerControllers =
      m.videoMixingState.mixerControllers := by
  cases b <;> rfl

@[simp] theorem setMixerControllers_slotControllers (t : Table SettingController) (m : Mixer)
    (b : Bool) : (m.setMixerControllers t).slotControllers b = m.slotControllers b := by
  cases b <;> rfl

/-- `control_points()`: every mixer controller's queue, by setting name. -/
def controlPoints (m : Mixer) : Option (Table (List ControlPoint)) :=
  m.videoMixingState.mixerControllers.map (Table.map (·.controlPoints))

/-- One loop of `slot_control_points`: each controller's queue under its slot and the key
`prefix ++ propname`. -/
def collectSlotControlPoints (pfx : String) :
    List ((_ : String) × PropertyController) → Table (Table (List ControlPoint)) →
      Table (Table (List ControlPoint))
  | [], r => r
  | ⟨_, c⟩ :: rest, r => collectSlotControlPoints pfx rest
      (r.upsert c.controlleeId ∅ (·.insert (pfx ++ c.propname) c.controlPoints))

/-- `slot_control_points()`: the video controllers' queues under `video::<property>`, then the
audio controllers' under `audio::<property>`, by slot. -/
def slotControlPoints (m : Mixer) : Option (Table (Table (List ControlPoint))) := do
  let v ← m.slotControllers true
  let a ← m.slotControllers false
  some (collectSlotControlPoints "audio::" a.entries
    (collectSlotControlPoints "video::" v.entries ∅))

/-- The `slots` of the `MixerInfo` that `GetNodeInfo` reports: each slot's `volume` field. -/
def slotInfos (m : Mixer) : Table MixerSlotInfo :=
  m.consumerSlots.map fun slot => ⟨slot.volume⟩

end Mixer

/-! ### Slot control points -/

/-- `Mixer::add_slot_control_point(slot_id, property, point)`. -/
def addSlotControlPoint (slotId property : String) (point : ControlPoint) (s : Node) :
    Outcome Node :=
  match s.mixer.consumerSlots.lookup slotId with
  | none => .err s ("mixer " ++ s.mixer.id ++ " has no slot with id " ++ slotId)
  | some slot =>
    match parseSlotConfigKey property with
    | .error e => .err s e
    | .ok (isVideo, property) =>
      let pad : PadRef := ⟨mixOf isVideo, if isVideo then slot.videoPad else slot.audioPad⟩
      match PropertyController.validateControlPoint property pad.mix point with
      | .error e => .err s e
      | .ok () =>
        match s.mixer.slotControllers isVideo with
        | none => .panic
        | some t => .ok { s with mixer := (s.mixer.setSlotControllers isVideo
            (t.upsert (slotId ++ property) (.new slotId pad property)
              (·.pushControlPoint point))) }

/-- `Mixer::remove_slot_control_point(controller_id, slot_id, property)`. -/
def removeSlotControlPoint (controllerId slotId property : String) (s : Node) : Outcome Node :=
  match splitnColons property.toList with
  | (mediaType, some name) =>
    let isVideo : Option Bool :=
      if String.mk mediaType = "video" then some true
      else if String.mk mediaType = "audio" then some false
      else none
    match isVideo with
    | none => .ok s
    | some isVideo =>
      match s.mixer.slotControllers isVideo with
      | none => .panic
      | some t => .ok { s with mixer := (s.mixer.setSlotControllers isVideo
          (t.modify (slotId ++ String.mk name) (·.removeControlPoint controllerId))) }
  | (_, none) => .ok s

/-- `remove_slot_control_point` parses its key as `parse_slot_config_key` does, and returns
at once on a key that `parse_slot_config_key` refuses. -/
theorem removeSlotControlPoint_eq (controllerId slotId key : String) (s : Node) :
    removeSlotControlPoint controllerId slotId key s =
      match parseSlotConfigKey key with
      | .ok (isVideo, p) =>
        match s.mixer.slotControllers isVideo with
        | none => .panic
        | some t => .ok { s with mixer := (s.mixer.setSlotControllers isVideo
            (t.modify (slotId ++ p) (·.removeControlPoint controllerId))) }
      | .error _ => .ok s := by
  rcases hs : splitnColons key.toList with ⟨mediaType, _ | name⟩ <;>
    simp only [removeSlotControlPoint, parseSlotConfigKey, hs]
  split_ifs <;> rfl

/-- **The slot property keys.**  `parse_slot_config_key` accepts `"video::" ++ p` as
`(true, p)` and `"audio::" ++ p` as `(false, p)`, for every `p`, and refuses every other key;
the inline parse of `remove_slot_control_point` goes on with the same pair on those keys and
returns without effect on the others; and the prefix `slot_control_points` reports a key
under gives the key back. -/
theorem slot_property_keys_parse :
    (∀ key p, parseSlotConfigKey key = .ok (true, p) ↔ key = "video::" ++ p) ∧
    (∀ key p, parseSlotConfigKey key = .ok (false, p) ↔ key = "audio::" ++ p) ∧
    (∀ key, (∃ e, parseSlotConfigKey key = .error e) ↔
      ∀ p, key ≠ "video::" ++ p ∧ key ≠ "audio::" ++ p) ∧
    (∀ controllerId slotId key (s : Node),
      removeSlotControlPoint controllerId slotId key s =
        match parseSlotConfigKey key with
        | .ok (isVideo, p) =>
          match s.mixer.slotControllers isVideo with
          | none => .panic
          | some t => .ok { s with mixer := (s.mixer.setSlotControllers isVideo
              (t.modify (slotId ++ p) (·.removeControlPoint controllerId))) }
        | .error _ => .ok s) ∧
    ∀ key isVideo p, parseSlotConfigKey key = .ok (isVideo, p) →
      (if isVideo then "video::" else "audio::") ++ p = key := by
  have hv : ∀ key p, parseSlotConfigKey key = .ok (true, p) ↔ key = "video::" ++ p :=
    fun _ _ => parseSlotConfigKey_eq_ok
  have ha : ∀ key p, parseSlotConfigKey key = .ok (false, p) ↔ key = "audio::" ++ p :=
    fun _ _ => parseSlotConfigKey_eq_ok
  refine ⟨hv, ha, fun key => ⟨?_, fun h => ?_⟩, removeSlotControlPoint_eq,
    fun key isVideo p h => (parseSlotConfigKey_eq_ok.1 h).symm⟩
  · rintro ⟨e, he⟩ p
    exact ⟨fun hk => Except.noConfusion (he.symm.trans ((hv key p).2 hk)),
      fun hk => Except.noConfusion (he.symm.trans ((ha key p).2 hk))⟩
  · cases hp : parseSlotConfigKey key with
    | error e => exact ⟨e, rfl⟩
    | ok r =>
      obtain ⟨_ | _, p⟩ := r
      · exact absurd ((ha key p).1 hp) (h p).2
      · exact absurd ((hv key p).1 hp) (h p).1

/-! ### Mixer control points -/

/-- `Mixer::add_control_point(property, point)`. -/
def addControlPoint (property : String) (point : ControlPoint) (s : Node) : Outcome Node :=
  match s.mixer.settings.lookup property with
  | none => .err s ("mixer " ++ s.mixer.id ++ " has no setting with name " ++ property)
  | some setting =>
    match SettingController.validateControlPoint setting point with
    | .error e => .err s e
    | .ok () =>
      match s.mixer.videoMixingState.mixerControllers with
      | none => .panic
      | some t => .ok { s with mixer := (s.mixer.setMixerControllers
          (t.upsert property (.new s.mixer.id property) (·.pushControlPoint point))) }

/-- `Mixer::remove_control_point(controller_id, property)`, which looks `property` up in
the video slot controllers. -/
def removeControlPoint (controllerId property : String) (s : Node) : Outcome Node :=
  match s.mixer.slotControllers true with
  | none => .panic
  | some t => .ok { s with mixer := (s.mixer.setSlotControllers true
      (t.modify property (·.removeControlPoint controllerId))) }

/-- `remove_control_point` leaves a point of the mixer's `width` controller in place, and
removes a point of the slot controller stored under the key `"a" ++ "alpha"`. -/
theorem remove_control_point_misses_setting :
    ∃ s₀ s₁ s₂, Mixer.new "m" none World.empty = .ok s₀ ∧
      addControlPoint "width" ⟨"p", 0, .int 640, .none⟩ s₀ = .ok s₁ ∧
      removeControlPoint "p" "width" s₁ = .ok s₂ ∧
      s₂.mixer.controlPoints.bind (·.lookup "width") = some [⟨"p", 0, .int 640, .none⟩] ∧
      ∃ t₁ t₂ t₃, connect "a" 100 101 none SlotFaults.none s₀ = .ok t₁ ∧
        addSlotControlPoint "a" "video::alpha" ⟨"p", 0, .float 1, .none⟩ t₁ = .ok t₂ ∧
        removeControlPoint "p" "aalpha" t₂ = .ok t₃ ∧
        (t₂.mixer.slotControlPoints.bind (·.lookup "a")).bind (·.lookup "video::alpha") =
          some [⟨"p", 0, .float 1, .none⟩] ∧
        (t₃.mixer.slotControlPoints.bind (·.lookup "a")).bind (·.lookup "video::alpha") =
          some [] :=
  ⟨_, _, _, rfl, rfl, rfl, by decide, _, _, _, rfl, rfl, rfl, by decide, by decide⟩

/-! ### Failed requests -/

theorem addSlotControlPoint_err {slotId property : String} {point : ControlPoint} {s s' : Node}
    {e : String} (h : addSlotControlPoint slotId property point s = .err s' e) : s' = s := by
  unfold addSlotControlPoint at h
  dsimp only at h
  repeat' split at h
  all_goals (cases h; try rfl)

theorem addControlPoint_err {property : String} {point : ControlPoint} {s s' : Node}
    {e : String} (h : addControlPoint property point s = .err s' e) : s' = s := by
  unfold addControlPoint at h
  repeat' split at h
  all_goals (cases h; try rfl)

/-! ### What the control-point handlers change -/

namespace Mixer

/-- `m'` is `m` with at most the controllers of its two mixing states changed. -/
def Recontrolled (m m' : Mixer) : Prop :=
  m' = { m with
    videoMixingState := { m.videoMixingState with
      slotControllers := m'.videoMixingState.slotControllers,
      mixerControllers := m'.videoMixingState.mixerControllers },
    audioMixingState := { m.audioMixingState with
      slotControllers := m'.audioMixingState.slotControllers } }

theorem recontrolled_setSlotControllers (b : Bool) (t : Table PropertyController) (m : Mixer) :
    Recontrolled m (m.setSlotControllers b t) := by
  cases b <;> rfl

theorem recontrolled_setMixerControllers (t : Table SettingController) (m : Mixer) :
    Recontrolled m (m.setMixerControllers t) := rfl

/-- `m'` keeps the settings and the controller maps of `m`. -/
structure Kept (m m' : Mixer) : Prop where
  settings : m'.settings = m.settings
  slotControllers : ∀ b, m'.slotControllers b = m.slotControllers b
  mixerControllers : m'.videoMixingState.mixerControllers = m.videoMixingState.mixerControllers

theorem Kept.trans {m m' m'' : Mixer} (h : Kept m m') (h' : Kept m' m'') : Kept m m'' :=
  ⟨h'.settings.trans h.settings, fun b => (h'.slotControllers b).trans (h.slotControllers b),
    h'.mixerControllers.trans h.mixerControllers⟩

theorem Reslotted.kept {m m' : Mixer} (h : Reslotted m m') : Kept m m' := by
  refine ⟨?_, fun b => ?_, ?_⟩ <;> rw [h]
  cases b <;> rfl

/-- Every slot controller, of the compositor's mixing state or of the audiomixer's, has the
property `P`. -/
def SlotControllersAll (P : PropertyController → Prop) (m : Mixer) : Prop :=
  ∀ b sc, m.slotControllers b = some sc → ∀ k c, sc.lookup k = some c → P c

theorem SlotControllersAll.setSlotControllers {P : PropertyController → Prop} {m : Mixer}
    (hm : m.SlotControllersAll P) {b : Bool} {t : Table PropertyController}
    (ht : ∀ k c, t.lookup k = some c → P c) :
    (m.setSlotControllers b t).SlotControllersAll P := by
  intro b' sc h
  rw [slotControllers_setSlotControllers] at h
  split_ifs at h
  · cases h; exact ht
  · exact hm b' sc h

end Mixer

/-- Every mixer controller is stored under the name of the setting it drives. -/
def MixerControllersKeyed (m : Mixer) : Prop :=
  ∀ mc, m.videoMixingState.mixerControllers = some mc →
    ∀ k c, mc.lookup k = some c → c.setting = k

theorem MixerControllersKeyed.of_eq {m m' : Mixer}
    (h : m'.videoMixingState.mixerControllers = m.videoMixingState.mixerControllers)
    (hk : MixerControllersKeyed m) : MixerControllersKeyed m' := by
  rwa [MixerControllersKeyed, h]

/-- The setting of every mixer controller is among the mixer's settings: in the source a
`SettingController` holds its setting itself (an `Arc`), so the lookup of it never fails. -/
def MixerControllersSet (m : Mixer) : Prop :=
  ∀ mc, m.videoMixingState.mixerControllers = some mc →
    ∀ k c, mc.lookup k = some c → (m.settings.lookup c.setting).isSome

theorem MixerControllersSet.of_eq {m m' : Mixer}
    (hmc : m'.videoMixingState.mixerControllers = m.videoMixingState.mixerControllers)
    (hs : m'.settings = m.settings) (h : MixerControllersSet m) : MixerControllersSet m' := by
  rwa [MixerControllersSet, hmc, hs]

theorem MixerControllersSet.of_kept {m m' : Mixer} (h : MixerControllersSet m)
    (hk : Mixer.Kept m m') : MixerControllersSet m' :=
  .of_eq hk.mixerControllers hk.settings h

/-- The controller maps are there: `slot_controllers` of both mixing states and
`mixer_controllers` of the compositor's are `Some`. -/
structure ControllersPresent (m : Mixer) : Prop where
  slot : ∀ b, (m.slotControllers b).isSome
  mixer : m.videoMixingState.mixerControllers.isSome

namespace ControllersPresent

variable {m m' : Mixer}

theorem setSlotControllers (h : ControllersPresent m) (b : Bool) (t : Table PropertyController) :
    ControllersPresent (m.setSlotControllers b t) := by
  refine ⟨fun b' => ?_, by simpa using h.mixer⟩
  rw [Mixer.slotControllers_setSlotControllers]
  split_ifs
  · rfl
  · exact h.slot b'

theorem setMixerControllers (h : ControllersPresent m) (t : Table SettingController) :
    ControllersPresent (m.setMixerControllers t) :=
  ⟨fun b => by simpa using h.slot b, rfl⟩

theorem of_kept (h : ControllersPresent m) (hk : Mixer.Kept m m') : ControllersPresent m' :=
  ⟨fun b => hk.slotControllers b ▸ h.slot b, hk.mixerControllers ▸ h.mixer⟩

end ControllersPresent

theorem addSlotControlPoint_ok {slotId property : String} {point : ControlPoint} {s s' : Node}
    (h : addSlotControlPoint slotId property point s = .ok s') :
    ∃ slot isVideo name t, s.mixer.consumerSlots.lookup slotId = some slot ∧
      s.mixer.slotControllers isVideo = some t ∧
      s' = { s with mixer := s.mixer.setSlotControllers isVideo (t.upsert (slotId ++ name)
        (.new slotId ⟨mixOf isVideo, if isVideo then slot.videoPad else slot.audioPad⟩ name)
        (·.pushControlPoint point)) } := by
  unfold addSlotControlPoint at h
  split at h; · cases h
  rename_i slot hslot
  split at h; · cases h
  dsimp only at h
  split at h; · cases h
  split at h; · cases h
  cases h
  exact ⟨slot, _, _, _, hslot, ‹_›, rfl⟩

section Roles

/-! A property of slot controllers that only their slot, pad and property decide. -/

variable {P : PropertyController → Prop}

/-- What `add_slot_control_point` leaves: at most one slot controller added, for the slot's pad
in the namespace of the property. -/
theorem addSlotControlPoint_spec (hP : ∀ {c c'}, c.SameRole c' → P c → P c')
    {slotId property : String} {point : ControlPoint} {s s' : Node}
    (h : (addSlotControlPoint slotId property point s).state? = some s')
    (hnew : ∀ slot, s.mixer.consumerSlots.lookup slotId = some slot → ∀ isVideo name,
      P (.new slotId ⟨mixOf isVideo, if isVideo then slot.videoPad else slot.audioPad⟩ name))
    (hs : s.mixer.SlotControllersAll P) :
    s' = { s with mixer := s'.mixer } ∧ Mixer.Recontrolled s.mixer s'.mixer ∧
      s'.mixer.SlotControllersAll P ∧
      s'.mixer.videoMixingState.mixerControllers = s.mixer.videoMixingState.mixerControllers := by
  rcases Outcome.eq_of_state? h with h | ⟨e, h⟩
  · obtain ⟨slot, isVideo, name, t, hslot, ht, rfl⟩ := addSlotControlPoint_ok h
    have hstored : P ((t.lookup (slotId ++ name)).getD
        (.new slotId ⟨mixOf isVideo, if isVideo then slot.videoPad else slot.audioPad⟩
          name)) := by
      cases hc : t.lookup (slotId ++ name) with
      | none => exact hnew slot hslot isVideo name
      | some c => exact hs isVideo t ht _ c hc
    exact ⟨rfl, Mixer.recontrolled_setSlotControllers _ _ _, hs.setSlotControllers
      (Table.lookup_upsert_of (hP (PropertyController.sameRole_pushControlPoint _ _) hstored)
        (hs isVideo t ht)), by simp⟩
  · cases addSlotControlPoint_err h; exact ⟨rfl, rfl, hs, rfl⟩

theorem removeSlotControlPoint_spec (hP : ∀ {c c'}, c.SameRole c' → P c → P c')
    {controllerId slotId property : String} {s s' : Node}
    (h : (removeSlotControlPoint controllerId slotId property s).state? = some s')
    (hs : s.mixer.SlotControllersAll P) :
    s' = { s with mixer := s'.mixer } ∧ Mixer.Recontrolled s.mixer s'.mixer ∧
      s'.mixer.SlotControllersAll P ∧
      s'.mixer.videoMixingState.mixerControllers = s.mixer.videoMixingState.mixerControllers := by
  unfold removeSlotControlPoint at h
  dsimp only at h
  repeat' split at h
  all_goals cases h
  all_goals try exact ⟨rfl, rfl, hs, rfl⟩
  exact ⟨rfl, Mixer.recontrolled_setSlotControllers _ _ _, hs.setSlotControllers
    (Table.lookup_modify_of (fun c => hP (PropertyController.sameRole_removeControlPoint _ c))
      (hs _ _ ‹_›)), by simp⟩

/-- What `add_control_point` leaves: at most one mixer controller added, under the name of
its setting. -/
theorem addControlPoint_spec {property : String} {point : ControlPoint} {s s' : Node}
    (h : (addControlPoint property point s).state? = some s') (hs : s.mixer.SlotControllersAll P) :
    s' = { s with mixer := s'.mixer } ∧ Mixer.Recontrolled s.mixer s'.mixer ∧
      s'.mixer.SlotControllersAll P ∧
      (MixerControllersKeyed s.mixer → MixerControllersKeyed s'.mixer) := by
  rcases Outcome.eq_of_state? h with h | ⟨e, h⟩
  · unfold addControlPoint at h
    repeat' split at h
    all_goals cases h
    rename_i t ht
    refine ⟨rfl, Mixer.recontrolled_setMixerControllers _ _,
      fun b sc => by rw [Mixer.setMixerControllers_slotControllers]; exact hs b sc, fun hk => ?_⟩
    rintro _ ⟨⟩ k c hc
    by_cases hkp : k = property
    · subst hkp
      rw [Table.lookup_upsert_self, Option.some.injEq] at hc
      subst hc
      cases ht' : t.lookup k with
      | none => rfl
      | some c₀ => exact hk t ht k c₀ ht'
    · rw [Table.lookup_upsert_ne hkp] at hc
      exact hk t ht k c hc
  · cases addControlPoint_err h; exact ⟨rfl, rfl, hs, id⟩

/-- `add_control_point` adds a mixer controller only for a setting the mixer has. -/
theorem addControlPoint_mixerControllersSet {property : String} {point : ControlPoint}
    {s s' : Node} (h : (addControlPoint property point s).state? = some s')
    (hset : MixerControllersSet s.mixer) : MixerControllersSet s'.mixer := by
  rcases Outcome.eq_of_state? h with h | ⟨e, h⟩
  · unfold addControlPoint at h
    repeat' split at h
    all_goals cases h
    rename_i hsetting _ _ _ t ht
    rintro _ ⟨⟩
    refine Table.lookup_upsert_of ?_ (hset t ht)
    cases ht' : t.lookup property with
    | none => simp [hsetting, Mixer.setMixerControllers, SettingController.new,
        SettingController.pushControlPoint]
    | some c₀ => exact hset t ht property c₀ ht'
  · cases addControlPoint_err h; exact hset

theorem removeControlPoint_spec (hP : ∀ {c c'}, c.SameRole c' → P c → P c')
    {controllerId property : String} {s s' : Node}
    (h : (removeControlPoint controllerId property s).state? = some s')
    (hs : s.mixer.SlotControllersAll P) :
    s' = { s with mixer := s'.mixer } ∧ Mixer.Recontrolled s.mixer s'.mixer ∧
      s'.mixer.SlotControllersAll P ∧
      s'.mixer.videoMixingState.mixerControllers = s.mixer.videoMixingState.mixerControllers := by
  unfold removeControlPoint at h
  split at h
  · cases h
  · cases h
    exact ⟨rfl, Mixer.recontrolled_setSlotControllers true _ _, hs.setSlotControllers
      (Table.lookup_modify_of (fun c => hP (PropertyController.sameRole_removeControlPoint _ c))
        (hs _ _ ‹_›)), by simp⟩

end Roles

/-! ### The handlers return -/

section Present

variable {s s' : Node} (hp : ControllersPresent s.mixer)
include hp

theorem addSlotControlPoint_ne_panic (slotId property : String) (point : ControlPoint) :
    addSlotControlPoint slotId property point s ≠ .panic := by
  unfold addSlotControlPoint
  dsimp only
  repeat' split
  all_goals first
    | exact absurd ‹_ = none› (Option.isSome_iff_ne_none.1 (hp.slot _))
    | nofun

theorem removeSlotControlPoint_ne_panic (controllerId slotId property : String) :
    removeSlotControlPoint controllerId slotId property s ≠ .panic := by
  unfold removeSlotControlPoint
  dsimp only
  repeat' split
  all_goals first
    | exact absurd ‹_ = none› (Option.isSome_iff_ne_none.1 (hp.slot _))
    | nofun

theorem addControlPoint_ne_panic (property : String) (point : ControlPoint) :
    addControlPoint property point s ≠ .panic := by
  unfold addControlPoint
  repeat' split
  all_goals first
    | exact absurd ‹_ = none› (Option.isSome_iff_ne_none.1 hp.mixer)
    | nofun

theorem removeControlPoint_ne_panic (controllerId property : String) :
    removeControlPoint controllerId property s ≠ .panic := by
  unfold removeControlPoint
  split
  · exact absurd ‹_ = none› (Option.isSome_iff_ne_none.1 (hp.slot true))
  · nofun

/-! Each handler puts the maps it changes back. -/

theorem ControllersPresent.addSlotControlPoint {slotId property : String} {point : ControlPoint}
    (h : (Auteur.addSlotControlPoint slotId property point s).state? = some s') :
    ControllersPresent s'.mixer := by
  rcases Outcome.eq_of_state? h with h | ⟨e, h⟩
  · obtain ⟨-, -, -, -, -, -, rfl⟩ := addSlotControlPoint_ok h
    exact hp.setSlotControllers _ _
  · cases addSlotControlPoint_err h; exact hp

theorem ControllersPresent.removeSlotControlPoint {controllerId slotId property : String}
    (h : (Auteur.removeSlotControlPoint controllerId slotId property s).state? = some s') :
    ControllersPresent s'.mixer := by
  unfold Auteur.removeSlotControlPoint at h
  dsimp only at h
  repeat' split at h
  all_goals cases h
  all_goals first | exact hp | apply hp.setSlotControllers

theorem ControllersPresent.addControlPoint {property : String} {point : ControlPoint}
    (h : (Auteur.addControlPoint property point s).state? = some s') :
    ControllersPresent s'.mixer := by
  unfold Auteur.addControlPoint at h
  repeat' split at h
  all_goals cases h
  all_goals first | exact hp | apply hp.setMixerControllers

theorem ControllersPresent.removeControlPoint {controllerId property : String}
    (h : (Auteur.removeControlPoint controllerId property s).state? = some s') :
    ControllersPresent s'.mixer := by
  unfold Auteur.removeControlPoint at h
  split at h
  · cases h
  · cases h; exact hp.setSlotControllers true _

end Present

end Auteur
