import Auteur.Mixer.Controllers

/-!
The samples-selected callbacks of the two aggregators: `update_video_mixing_state` and
`update_audio_mixing_state`, with `synchronize_slot_controllers` and
`synchronize_mixer_controllers`.

* `updateBasePlate` — the fallback part of the video callback: a run of ticks on which no
  pad but `sink_0` has a sample shows the base plate once it is longer than the timeout,
  and a tick with a real input hides it again;
* `syncSlotControllers`, `syncMixerControllers` — the loops of the two synchronize
  functions, controller by controller;
* `updateVideoMixingState`, `updateAudioMixingState` — the two callbacks;
* `updateBasePlate_follows` — one tick of the base-plate part follows the abstract fallback
  (`runStart`, `showsBasePlate`);
* `syncSlotControllers_kept`, `syncMixerControllers_sizeSynced` — what the two loops keep, by
  induction over the controller maps;
* `syncSlotControllers_snd`, `syncMixerControllers_snd` — both loops drain their maps
  (`Table.drainInto`): `synchronizeSlotControllers_lookup` and
  `synchronizeMixerControllers_lookup` say what the two functions keep;
* `updateVideoMixingState_sizeSynced`, `updateVideoMixingState_alpha`, and the frame lemmas
  of the two callbacks;
* `updateVideoMixingState_ne_panic`, `updateAudioMixingState_ne_panic` — when the callbacks
  return: the video one needs `sink_0`, its two controller maps, every mixer controller under
  its setting's name and the settings typed (`syncMixerControllers_isSome`).

Design notes: a callback runs with its mixing state locked, and the model takes each call
as one step.  `get_now()` is read once in each synchronize function (`nowSlots`,
`nowMixers`), and which sink pads have a next sample (`peek_next_sample`) is the
environment's answer, `hasSample`.  A slot controller writes through the pad object it
holds: a pad its aggregator has released is no longer among the aggregator's pads, and a
write to it changes nothing the model observes.  A `SettingController` holds its setting's
`Arc`; the model holds the setting's key, which is always among the mixer's settings.
-/

namespace Auteur

/-- The `duration` of a tick: `pts - last_pts`, or `CLOCK_TIME_NONE` on the first tick. -/
def tickDuration (pts lastPts : ClockTime) : ClockTime :=
  if lastPts.isNone then none else ClockTime.sub pts lastPts

/-- The base-plate part of `update_video_mixing_state`, on the compositor `g`. -/
def updateBasePlate (basePlateOnly : Bool) (pts timeout : ClockTime) (g : Aggregator)
    (st : VideoMixingState) : Aggregator × VideoMixingState :=
  if basePlateOnly then
    if st.basePlateTimeout.isNone then (g, { st with basePlateTimeout := pts })
    else if !st.showingBasePlate && ClockTime.gt (ClockTime.sub pts st.basePlateTimeout) timeout
    then (g.setPadProperty 0 "alpha" (.float 1), { st with showingBasePlate := true })
    else (g, st)
  else
    let r := if st.showingBasePlate then
        (g.setPadProperty 0 "alpha" (.float 0), { st with showingBasePlate := false })
      else (g, st)
    (r.1, { r.2 with basePlateTimeout := none })

/-- `base_plate_only` of `update_video_mixing_state`: no sink pad but `sink_0` has a next
sample. -/
def Aggregator.basePlateOnly (hasSample : Nat → Bool) (g : Aggregator) : Bool :=
  !g.pads.any fun p => p.serial != 0 && hasSample p.serial

/-! ### The fallback, abstractly

What the base-plate part of the video callback is for, stated over the ticks seen so far,
newest first, each by its pts and by whether a pad other than `sink_0` had a sample. -/

/-- The pts of the first tick of the run of base-plate-only ticks that the newest tick ends;
`none` if the newest tick had a real input, or if there is no tick. -/
def runStart : List (Nat × Bool) → Option Nat
  | [] => none
  | (pts, real) :: older => if real then none else (runStart older).or (some pts)

/-- Whether the base plate is to be shown after the ticks: the newest tick ends a run of
base-plate-only ticks that has lasted longer than `timeout`. -/
def showsBasePlate (timeout : Nat) : List (Nat × Bool) → Bool
  | [] => false
  | (pts, real) :: older =>
    match runStart ((pts, real) :: older) with
    | some start => decide (timeout < pts - start)
    | none => false

/-- The `alpha` of the base plate's pad when it is shown or hidden. -/
def alphaOf (showing : Bool) : Value := .float (if showing then 1 else 0)

theorem runStart_mem : ∀ {ticks : List (Nat × Bool)} {start : Nat},
    runStart ticks = some start → ∃ x ∈ ticks, x.1 = start
  | (pts, real) :: older, start, h => by
    simp only [runStart] at h
    split at h
    · cases h
    · rcases Option.or_eq_some.1 h with h | ⟨-, h⟩
      · obtain ⟨x, hx, rfl⟩ := runStart_mem h
        exact ⟨x, .tail _ hx, rfl⟩
      · exact ⟨_, .head _, Option.some.inj h⟩

theorem runStart_of_showsBasePlate {timeout : Nat} :
    ∀ {ticks : List (Nat × Bool)}, showsBasePlate timeout ticks = true →
      ∃ pts real older start, ticks = (pts, real) :: older ∧ runStart ticks = some start ∧
        timeout < pts - start
  | (pts, real) :: older, h => by
    simp only [showsBasePlate] at h
    cases hr : runStart ((pts, real) :: older) with
    | none => simp [hr] at h
    | some start => simp only [hr, decide_eq_true_eq] at h; exact ⟨_, _, _, _, rfl, rfl, h⟩

/-- One tick of the base-plate part follows the abstract fallback: `base_plate_timeout` is the
pts at which the current base-plate-only run started, and the base plate is shown iff that
run has lasted longer than the timeout. -/
theorem updateBasePlate_follows {timeout pts : Nat} {real : Bool} {past : List (Nat × Bool)}
    {g : Aggregator} {st : VideoMixingState} (ht : st.basePlateTimeout = runStart past)
    (hs : st.showingBasePlate = showsBasePlate timeout past) (hmono : ∀ x ∈ past, x.1 ≤ pts) :
    (updateBasePlate (!real) (some pts) (some timeout) g st).2.basePlateTimeout =
        runStart ((pts, real) :: past) ∧
      (updateBasePlate (!real) (some pts) (some timeout) g st).2.showingBasePlate =
        showsBasePlate timeout ((pts, real) :: past) := by
  cases real with
  | true =>
    simp only [updateBasePlate, Bool.not_true, Bool.false_eq_true, if_false]
    split <;> simp_all [runStart, showsBasePlate]
  | false =>
    cases hr : runStart past with
    | none =>
      have hnot : showsBasePlate timeout past = false := by
        by_contra hc
        obtain ⟨_, _, _, _, rfl, h, _⟩ := runStart_of_showsBasePlate (Bool.of_not_eq_false hc)
        simp [hr] at h
      have hrun : runStart ((pts, false) :: past) = some pts := by simp [runStart, hr]
      have hnew : showsBasePlate timeout ((pts, false) :: past) = false := by
        simp [showsBasePlate, hrun]
      simp [updateBasePlate, ht, hr, hs, hnot, hrun, hnew]
    | some start =>
      obtain ⟨x, hx, rfl⟩ := runStart_mem hr
      have hrun : runStart ((pts, false) :: past) = some x.1 := by simp [runStart, hr]
      simp only [updateBasePlate, ht, hr, Option.isNone_some, Bool.not_false, if_true,
        ClockTime.sub_some_of_le (hmono x hx), ClockTime.gt_some, hrun, showsBasePlate]
      cases hsh : st.showingBasePlate
      · by_cases hlt : timeout < pts - x.1 <;> simp [hlt, hsh, ht, hr]
      · obtain ⟨y, _, _, _, rfl, h, hlt⟩ := runStart_of_showsBasePlate (hs ▸ hsh)
        have hy := hmono (y, _) (.head _)
        have := Option.some.inj (h.symm.trans hr)
        have : timeout < pts - x.1 := by simp only at hy; omega
        simp [hsh, ht, hr, this]

/-- One turn of the loop of `synchronize_slot_controllers`: the controller `c` stored under
`id` ticks against the current value of the property it drives, the value it computes is
written, and it is kept unless it is done. -/
def syncSlotController (now : Nat) (duration : ClockTime) (id : String) (c : PropertyController)
    (m : Mixer) (kept : Table PropertyController) : Mixer × Table PropertyController :=
  let r := c.synchronize ((m.aggregator c.target.mix).padProperty c.target.mix c.target.serial
    c.propname) now duration
  ((match r.2.1 with
    | some v => m.modifyAggregator c.target.mix (·.setPadProperty c.target.serial c.propname v)
    | none => m), if r.2.2 then kept else kept.insert id r.1)

/-- The loop of `synchronize_slot_controllers`, over the controllers as the map yields them. -/
def syncSlotControllers (now : Nat) (duration : ClockTime) :
    List ((_ : String) × PropertyController) → Mixer × Table PropertyController →
      Mixer × Table PropertyController
  | [], r => r
  | ⟨id, c⟩ :: rest, (m, kept) =>
    syncSlotControllers now duration rest (syncSlotController now duration id c m kept)

/-- `Mixer::synchronize_slot_controllers(agg, id, duration, controllers)`. -/
def synchronizeSlotControllers (now : Nat) (duration : ClockTime)
    (controllers : Table PropertyController) (m : Mixer) : Mixer × Table PropertyController :=
  syncSlotControllers now duration controllers.entries (m, ∅)

/-- One turn of the loop of `synchronize_mixer_controllers`, for the controller `c` stored
under `id`: it ticks its setting and is kept unless it is done; if there is a capsfilter and
`id` is `width` or `height`, the setting's value then goes into the caps and onto the
base-plate pad `sink_0`.  `none` where `as_i32().unwrap()` would panic. -/
def syncMixerController (now : Nat) (duration : ClockTime) (id : String) (c : SettingController)
    (m : Mixer) (caps : Option Caps) (kept : Table SettingController) :
    Option (Mixer × Option Caps × Table SettingController) :=
  match m.settings.lookup c.setting with
  | none => some (m, caps, kept.insert id c)
  | some setting =>
    let r := c.synchronize setting now duration
    let m := { m with settings := m.settings.insert c.setting r.2.1 }
    let kept := if r.2.2 then kept else kept.insert id r.1
    match caps with
    | some caps =>
      if id = "width" ∨ id = "height" then
        r.2.1.asI32.map fun v =>
          (m.modifyAggregator .video (·.setPadProperty 0 id (.int v)),
            some (caps.insert id (.int v)), kept)
      else some (m, some caps, kept)
    | none => some (m, none, kept)

/-- The loop of `synchronize_mixer_controllers`, over the controllers as the map yields them. -/
def syncMixerControllers (now : Nat) (duration : ClockTime) :
    List ((_ : String) × SettingController) → Mixer × Option Caps × Table SettingController →
      Option (Mixer × Option Caps × Table SettingController)
  | [], r => some r
  | ⟨id, c⟩ :: rest, (m, caps, kept) =>
    (syncMixerController now duration id c m caps kept).bind
      (syncMixerControllers now duration rest)

/-- `if let Some(capsfilter) = capsfilter { capsfilter.set_property("caps", &caps.unwrap()) }`,
where `caps` is there exactly when the capsfilter is. -/
def World.setCapsOf : Option Handle → Option Caps → World → World
  | some h, some c, w => w.setCaps h c
  | _, _, w => w

@[simp] theorem World.setCapsOf_producers (h : Option Handle) (c : Option Caps) (w : World) :
    (w.setCapsOf h c).producers = w.producers := by
  cases h <;> cases c <;> rfl

@[simp] theorem World.setCapsOf_nextHandle (h : Option Handle) (c : Option Caps) (w : World) :
    (w.setCapsOf h c).nextHandle = w.nextHandle := by
  cases h <;> cases c <;> rfl

@[simp] theorem World.setCapsOf_some (h : Handle) (c : Caps) (w : World) :
    w.setCapsOf (some h) (some c) = w.setCaps h c := rfl

/-- `Mixer::synchronize_mixer_controllers(agg, base_plate_pad, id, duration, controllers,
capsfilter)`: the loop on the capsfilter's caps, which are then set back. -/
def synchronizeMixerControllers (now : Nat) (duration : ClockTime)
    (controllers : Table SettingController) (capsfilter : Option Handle) (m : Mixer)
    (w : World) : Option (Mixer × World × Table SettingController) :=
  (syncMixerControllers now duration controllers.entries (m, capsfilter.map w.caps, ∅)).map
    fun r => (r.1, w.setCapsOf capsfilter r.2.1, r.2.2)

/-- `Mixer::update_video_mixing_state(agg, id, pts, mixing_state, timeout)`, the compositor's
samples-selected callback. -/
def updateVideoMixingState (pts timeout : ClockTime) (nowSlots nowMixers : Nat)
    (hasSample : Nat → Bool) (s : Node) : Outcome Node :=
  match s.mixer.videoMixer.staticPad 0 with
  | none => .panic
  | some _ =>
    let r := updateBasePlate (s.mixer.videoMixer.basePlateOnly hasSample) pts timeout
      s.mixer.videoMixer s.mixer.videoMixingState
    let st := r.2
    let duration := tickDuration pts st.lastPts
    match st.slotControllers with
    | none => .panic
    | some sc =>
      let q := synchronizeSlotControllers nowSlots duration sc { s.mixer with videoMixer := r.1 }
      match st.mixerControllers with
      | none => .panic
      | some mc =>
        match synchronizeMixerControllers nowMixers duration mc st.capsfilter q.1 s.world with
        | none => .panic
        | some (m, w, mc) =>
          let st := { st with slotControllers := some q.2, mixerControllers := some mc,
                              lastPts := pts }
          .ok { s with mixer := { m with videoMixingState := st }, world := w }

/-- `Mixer::update_audio_mixing_state(agg, id, pts, mixing_state)`, the audiomixer's
samples-selected callback. -/
def updateAudioMixingState (pts : ClockTime) (now : Nat) (s : Node) : Outcome Node :=
  let st := s.mixer.audioMixingState
  match st.slotControllers with
  | none => .panic
  | some sc =>
    let q := synchronizeSlotControllers now (tickDuration pts st.lastPts) sc s.mixer
    let st := { st with slotControllers := some q.2, lastPts := pts }
    .ok { s with mixer := { q.1 with audioMixingState := st } }

/-! ### The controller loops -/

/-- The `width` and `height` settings agree with the fields of those names of the output caps
and with the properties of those names of the base-plate pad `sink_0`. -/
def SizeSynced (m : Mixer) (caps : Caps) : Prop :=
  ∀ name, name = "width" ∨ name = "height" → ∃ v, m.settingI32 name = some v ∧
    caps.lookup name = some (.int v) ∧ m.videoMixer.padProperty .video 0 name = some (.int v)


section Loops

variable {now : Nat} {duration : ClockTime}

/-- A fact kept by every turn of the slot-controller loop holds after it. -/
theorem syncSlotControllers_induct (P : Mixer × Table PropertyController → Prop) :
    ∀ {l : List ((_ : String) × PropertyController)},
      (∀ e ∈ l, ∀ st, P st → P (syncSlotController now duration e.1 e.2 st.1 st.2)) →
      ∀ st, P st → P (syncSlotControllers now duration l st)
  | [], _, _, h => h
  | ⟨_, _⟩ :: _, hstep, (m, kept), h =>
    syncSlotControllers_induct P (fun e he => hstep e (.tail _ he)) _
      (hstep _ (.head _) (m, kept) h)

/-- A fact kept by every turn of the mixer-controller loop holds after it. -/
theorem syncMixerControllers_induct (P : Mixer × Option Caps × Table SettingController → Prop) :
    ∀ {l : List ((_ : String) × SettingController)},
      (∀ e ∈ l, ∀ st st', P st →
        syncMixerController now duration e.1 e.2 st.1 st.2.1 st.2.2 = some st' → P st') →
      ∀ st r, P st → syncMixerControllers now duration l st = some r → P r
  | [], _, _, _, h, hr => Option.some.inj hr ▸ h
  | ⟨_, _⟩ :: _, hstep, (m, caps, kept), r, h, hr => by
    obtain ⟨st', h1, h2⟩ := Option.bind_eq_some.1 hr
    exact syncMixerControllers_induct P (fun e he => hstep e (.tail _ he)) st' r
      (hstep _ (.head _) _ _ h h1) h2

/-! One turn of the slot-controller loop. -/

theorem syncSlotController_tuned (id : String) (c : PropertyController) (m : Mixer)
    (kept : Table PropertyController) :
    Mixer.Tuned m (syncSlotController now duration id c m kept).1 := by
  dsimp only [syncSlotController]
  split
  · exact Mixer.tuned_modifyAggregator _ _ _
  · exact .refl m

theorem syncSlotController_wiring (mix : Mix) (id : String) (c : PropertyController) (m : Mixer)
    (kept : Table PropertyController) :
    ((syncSlotController now duration id c m kept).1.aggregator mix).wiring =
      (m.aggregator mix).wiring := by
  dsimp only [syncSlotController]
  split
  · simp only [Mixer.aggregator_modifyAggregator]
    split <;> simp_all
  · rfl

/-- A slot controller's tick writes only the property it drives. -/
theorem syncSlotController_padProperty {mix : Mix} {n : Nat} {name : String} {id : String}
    {c : PropertyController} (hc : ¬(c.target = ⟨mix, n⟩ ∧ c.propname = name)) (m : Mixer)
    (kept : Table PropertyController) :
    ((syncSlotController now duration id c m kept).1.aggregator mix).padProperty mix n name =
      (m.aggregator mix).padProperty mix n name := by
  dsimp only [syncSlotController]
  split
  · simp only [Mixer.aggregator_modifyAggregator]
    split
    · rename_i hm
      subst hm
      rw [Aggregator.padProperty_setPadProperty, if_neg]
      rintro ⟨rfl, rfl, -⟩
      exact hc ⟨rfl, rfl⟩
    · rfl
  · rfl

theorem syncSlotController_kept {id k : String} {c c' : PropertyController} {m : Mixer}
    {kept : Table PropertyController}
    (h : (syncSlotController now duration id c m kept).2.lookup k = some c') :
    kept.lookup k = some c' ∨ (k = id ∧ c.SameRole c') := by
  dsimp only [syncSlotController] at h
  split at h
  · exact .inl h
  · by_cases hk : k = id
    · subst hk
      simp only [AList.lookup_insert, Option.some.injEq] at h
      exact .inr ⟨rfl, h ▸ PropertyController.sameRole_synchronize _ _ _ _⟩
    · exact .inl (by simpa [AList.lookup_insert_ne hk] using h)

theorem syncSlotController_settings (id : String) (c : PropertyController) (m : Mixer)
    (kept : Table PropertyController) :
    (syncSlotController now duration id c m kept).1.settings = m.settings := by
  dsimp only [syncSlotController]
  split
  · cases c.target.mix <;> rfl
  · rfl

/-! The whole slot-controller loop. -/

theorem syncSlotControllers_tuned (l : List ((_ : String) × PropertyController)) (m : Mixer)
    (kept : Table PropertyController) :
    Mixer.Tuned m (syncSlotControllers now duration l (m, kept)).1 :=
  syncSlotControllers_induct (fun st => Mixer.Tuned m st.1)
    (fun e _ st h => h.trans (syncSlotController_tuned e.1 e.2 st.1 st.2)) _ (.refl m)

theorem syncSlotControllers_wiring (mix : Mix) (l : List ((_ : String) × PropertyController))
    (m : Mixer) (kept : Table PropertyController) :
    ((syncSlotControllers now duration l (m, kept)).1.aggregator mix).wiring =
      (m.aggregator mix).wiring :=
  syncSlotControllers_induct
    (fun st => (st.1.aggregator mix).wiring = (m.aggregator mix).wiring)
    (fun e _ st h => (syncSlotController_wiring mix e.1 e.2 st.1 st.2).trans h) _ rfl

/-- The slot-controller loop leaves alone every pad property no controller of it drives. -/
theorem syncSlotControllers_padProperty {mix : Mix} {n : Nat} {name : String}
    {l : List ((_ : String) × PropertyController)}
    (hl : ∀ e ∈ l, ¬(e.2.target = ⟨mix, n⟩ ∧ e.2.propname = name)) (m : Mixer)
    (kept : Table PropertyController) :
    ((syncSlotControllers now duration l (m, kept)).1.aggregator mix).padProperty mix n name =
      (m.aggregator mix).padProperty mix n name :=
  syncSlotControllers_induct
    (fun st => (st.1.aggregator mix).padProperty mix n name =
      (m.aggregator mix).padProperty mix n name)
    (fun e he st h => (syncSlotController_padProperty (hl e he) st.1 st.2).trans h) _ rfl

/-- A controller the slot-controller loop keeps was kept before it, or is one of the loop's
controllers after its tick. -/
theorem syncSlotControllers_kept {l : List ((_ : String) × PropertyController)} {m : Mixer}
    {kept : Table PropertyController} {k : String} {c : PropertyController}
    (h : (syncSlotControllers now duration l (m, kept)).2.lookup k = some c) :
    kept.lookup k = some c ∨ ∃ e ∈ l, e.1 = k ∧ e.2.SameRole c :=
  syncSlotControllers_induct
    (fun st => ∀ k c, st.2.lookup k = some c →
      kept.lookup k = some c ∨ ∃ e ∈ l, e.1 = k ∧ e.2.SameRole c)
    (fun e he _ ih k c h => (syncSlotController_kept h).elim (ih k c)
      fun ⟨hk, hc⟩ => .inr ⟨e, he, hk.symm, hc⟩)
    _ (fun _ _ h => .inl h) k c h

theorem syncSlotControllers_settings (l : List ((_ : String) × PropertyController)) (m : Mixer)
    (kept : Table PropertyController) :
    (syncSlotControllers now duration l (m, kept)).1.settings = m.settings :=
  syncSlotControllers_induct (fun st => st.1.settings = m.settings)
    (fun e _ st h => (syncSlotController_settings e.1 e.2 st.1 st.2).trans h) _ rfl

/-! One turn of the mixer-controller loop. -/

/-- What one turn of the mixer-controller loop can leave. -/
theorem syncMixerController_cases {id : String} {c : SettingController} {m : Mixer}
    {caps : Option Caps} {kept : Table SettingController}
    {st : Mixer × Option Caps × Table SettingController}
    (h : syncMixerController now duration id c m caps kept = some st) :
    (m.settings.lookup c.setting = none ∧ st = (m, caps, kept.insert id c)) ∨
    ∃ setting, m.settings.lookup c.setting = some setting ∧
      let r := c.synchronize setting now duration
      let m₁ : Mixer := { m with settings := m.settings.insert c.setting r.2.1 }
      let kept₁ := if r.2.2 then kept else kept.insert id r.1
      ((caps = none ∨ ¬(id = "width" ∨ id = "height")) ∧ st = (m₁, caps, kept₁)) ∨
      ∃ caps₀ v, caps = some caps₀ ∧ (id = "width" ∨ id = "height") ∧
        r.2.1.asI32 = some v ∧
        st = (m₁.modifyAggregator .video (·.setPadProperty 0 id (.int v)),
          some (caps₀.insert id (.int v)), kept₁) := by
  unfold syncMixerController at h
  split at h
  · exact .inl ⟨‹_›, (Option.some.inj h).symm⟩
  · refine .inr ⟨_, ‹_›, ?_⟩
    split at h
    · split_ifs at h with hid
      · obtain ⟨v, hv, rfl⟩ := Option.map_eq_some'.1 h
        exact .inr ⟨_, v, rfl, hid, hv, rfl⟩
      · exact .inl ⟨.inr hid, (Option.some.inj h).symm⟩
    · exact .inl ⟨.inl rfl, (Option.some.inj h).symm⟩

theorem syncMixerController_tuned {id : String} {c : SettingController} {m : Mixer}
    {caps : Option Caps} {kept : Table SettingController}
    {st : Mixer × Option Caps × Table SettingController}
    (h : syncMixerController now duration id c m caps kept = some st) : Mixer.Tuned m st.1 := by
  rcases syncMixerController_cases h with
    ⟨-, rfl⟩ | ⟨_, -, ⟨-, rfl⟩ | ⟨_, _, -, -, -, rfl⟩⟩
  · exact .refl m
  · rfl
  · dsimp only
    refine Mixer.Tuned.trans ?_ (Mixer.tuned_modifyAggregator _ _ _)
    rfl

/-- A turn of the mixer-controller loop writes no compositor pad property but `width` and
`height` of `sink_0`. -/
theorem syncMixerController_padProperty {n : Nat} {name : String}
    (hn : ¬(n = 0 ∧ (name = "width" ∨ name = "height"))) {id : String} {c : SettingController}
    {m : Mixer} {caps : Option Caps} {kept : Table SettingController}
    {st : Mixer × Option Caps × Table SettingController}
    (h : syncMixerController now duration id c m caps kept = some st) :
    st.1.videoMixer.padProperty .video n name = m.videoMixer.padProperty .video n name := by
  rcases syncMixerController_cases h with
    ⟨-, rfl⟩ | ⟨_, -, ⟨-, rfl⟩ | ⟨_, _, -, hid, -, rfl⟩⟩
  · rfl
  · rfl
  · show ((Mixer.modifyAggregator .video _ _).aggregator .video).padProperty .video n name = _
    rw [Mixer.aggregator_modifyAggregator, if_pos rfl, Aggregator.padProperty_setPadProperty,
      if_neg]
    · rfl
    · rintro ⟨rfl, rfl, -⟩; exact hn ⟨rfl, hid⟩

theorem syncMixerController_wiring {id : String} {c : SettingController} {m : Mixer}
    {caps : Option Caps} {kept : Table SettingController}
    {st : Mixer × Option Caps × Table SettingController}
    (h : syncMixerController now duration id c m caps kept = some st) :
    st.1.videoMixer.wiring = m.videoMixer.wiring ∧ st.1.audioMixer = m.audioMixer := by
  rcases syncMixerController_cases h with
    ⟨-, rfl⟩ | ⟨_, -, ⟨-, rfl⟩ | ⟨_, _, -, -, -, rfl⟩⟩
  · exact ⟨rfl, rfl⟩
  · exact ⟨rfl, rfl⟩
  · exact ⟨Aggregator.wiring_setPadProperty _ _ _ _, rfl⟩

/-- A mixer controller stored under the name of the setting it drives stays so. -/
theorem syncMixerController_keys {id : String} {c : SettingController} (hc : c.setting = id)
    {m : Mixer} {caps : Option Caps} {kept : Table SettingController}
    (hkept : ∀ k c', kept.lookup k = some c' → c'.setting = k)
    {st : Mixer × Option Caps × Table SettingController}
    (h : syncMixerController now duration id c m caps kept = some st) :
    ∀ k c', st.2.2.lookup k = some c' → c'.setting = k := by
  have hins : ∀ c'' : SettingController, c''.setting = id →
      ∀ k c', (kept.insert id c'').lookup k = some c' → c'.setting = k := by
    intro c'' h'' k c' hk
    by_cases hki : k = id
    · subst hki; simp only [AList.lookup_insert, Option.some.injEq] at hk; exact hk ▸ h''
    · exact hkept k c' (by simpa [AList.lookup_insert_ne hki] using hk)
  have hkept₁ : ∀ r : SettingController × Setting × Bool, r.1.setting = id →
      ∀ k c', (if r.2.2 then kept else kept.insert id r.1).lookup k = some c' →
        c'.setting = k := by
    intro r hr; split
    · exact hkept
    · exact hins r.1 hr
  rcases syncMixerController_cases h with
    ⟨-, rfl⟩ | ⟨_, -, ⟨-, rfl⟩ | ⟨_, _, -, -, -, rfl⟩⟩
  · exact hins c hc
  · exact hkept₁ _ hc
  · exact hkept₁ _ hc

/-- A turn of the mixer-controller loop loses no setting. -/
theorem syncMixerController_settings_isSome {id : String} {c : SettingController} {m : Mixer}
    {caps : Option Caps} {kept : Table SettingController}
    {st : Mixer × Option Caps × Table SettingController}
    (h : syncMixerController now duration id c m caps kept = some st) {k : String}
    (hk : (m.settings.lookup k).isSome) : (st.1.settings.lookup k).isSome := by
  rcases syncMixerController_cases h with
    ⟨-, rfl⟩ | ⟨_, -, ⟨-, rfl⟩ | ⟨_, _, -, -, -, rfl⟩⟩
  · exact hk
  all_goals
    by_cases hkc : k = c.setting
    · subst hkc; simp
    · simpa [AList.lookup_insert_ne hkc] using hk

/-- A turn of the mixer-controller loop keeps the size settings, the caps and the base-plate
pad in agreement, when the controller is stored under the name of its setting. -/
theorem syncMixerController_sizeSynced {id : String} {c : SettingController} (hc : c.setting = id)
    {m : Mixer} {caps : Caps} {kept : Table SettingController} (hs : SizeSynced m caps)
    {st : Mixer × Option Caps × Table SettingController}
    (h : syncMixerController now duration id c m (some caps) kept = some st) :
    ∃ caps', st.2.1 = some caps' ∧ SizeSynced st.1 caps' := by
  subst hc
  rcases syncMixerController_cases h with
    ⟨-, rfl⟩ | ⟨_, -, ⟨hid, rfl⟩ | ⟨_, v, hcaps, hid, hv, rfl⟩⟩
  · exact ⟨_, rfl, hs⟩
  · refine ⟨_, rfl, fun name hname => ?_⟩
    have hne : name ≠ c.setting := by
      rintro rfl; rcases hid with h | h
      · cases h
      · exact h hname
    simpa [Mixer.settingI32, AList.lookup_insert_ne hne] using hs name hname
  · cases hcaps
    refine ⟨_, rfl, fun name hname => ?_⟩
    obtain ⟨v₀, -, -, hpad⟩ := hs name hname
    have h0 := Aggregator.staticPad_isSome_of_padProperty hpad
    by_cases hne : name = c.setting
    · subst hne
      simp [Mixer.settingI32, hv, Mixer.modifyAggregator, h0]
    · simpa [Mixer.settingI32, hne, AList.lookup_insert_ne hne, Mixer.modifyAggregator]
        using hs name hname

/-! The whole mixer-controller loop. -/

section MixerLoop

variable {l : List ((_ : String) × SettingController)}
  {st r : Mixer × Option Caps × Table SettingController}

theorem syncMixerControllers_tuned (h : syncMixerControllers now duration l st = some r) :
    Mixer.Tuned st.1 r.1 :=
  syncMixerControllers_induct (fun st' => Mixer.Tuned st.1 st'.1)
    (fun _ _ _ _ ih h' => ih.trans (syncMixerController_tuned h')) st r (.refl _) h

theorem syncMixerControllers_padProperty {n : Nat} {name : String}
    (hn : ¬(n = 0 ∧ (name = "width" ∨ name = "height")))
    (h : syncMixerControllers now duration l st = some r) :
    r.1.videoMixer.padProperty .video n name = st.1.videoMixer.padProperty .video n name :=
  syncMixerControllers_induct
    (fun st' => st'.1.videoMixer.padProperty .video n name =
      st.1.videoMixer.padProperty .video n name)
    (fun _ _ _ _ ih h' => (syncMixerController_padProperty hn h').trans ih) st r rfl h

theorem syncMixerControllers_wiring (h : syncMixerControllers now duration l st = some r) :
    r.1.videoMixer.wiring = st.1.videoMixer.wiring ∧ r.1.audioMixer = st.1.audioMixer :=
  syncMixerControllers_induct
    (fun st' => st'.1.videoMixer.wiring = st.1.videoMixer.wiring ∧
      st'.1.audioMixer = st.1.audioMixer)
    (fun _ _ _ _ ih h' => ⟨(syncMixerController_wiring h').1.trans ih.1,
      (syncMixerController_wiring h').2.trans ih.2⟩) st r ⟨rfl, rfl⟩ h

theorem syncMixerControllers_keys (hl : ∀ e ∈ l, e.2.setting = e.1)
    (hkept : ∀ k c, st.2.2.lookup k = some c → c.setting = k)
    (h : syncMixerControllers now duration l st = some r) :
    ∀ k c, r.2.2.lookup k = some c → c.setting = k :=
  syncMixerControllers_induct (fun st' => ∀ k c, st'.2.2.lookup k = some c → c.setting = k)
    (fun e he _ _ ih h' => syncMixerController_keys (hl e he) ih h') st r hkept h

theorem syncMixerControllers_settings_isSome (h : syncMixerControllers now duration l st = some r)
    {k : String} (hk : (st.1.settings.lookup k).isSome) : (r.1.settings.lookup k).isSome :=
  syncMixerControllers_induct (fun st' => (st'.1.settings.lookup k).isSome)
    (fun _ _ _ _ ih h' => syncMixerController_settings_isSome h' ih) st r hk h

/-- The mixer-controller loop keeps the size settings, the caps and the base-plate pad in
agreement, when every controller is stored under the name of its setting. -/
theorem syncMixerControllers_sizeSynced (hl : ∀ e ∈ l, e.2.setting = e.1)
    (hs : ∃ caps, st.2.1 = some caps ∧ SizeSynced st.1 caps)
    (h : syncMixerControllers now duration l st = some r) :
    ∃ caps, r.2.1 = some caps ∧ SizeSynced r.1 caps :=
  syncMixerControllers_induct (fun st' => ∃ caps, st'.2.1 = some caps ∧ SizeSynced st'.1 caps)
    (fun e he st' _ ⟨caps, hcaps, hsync⟩ h' => by
      obtain ⟨m, caps₀, kept⟩ := st'
      cases hcaps
      exact syncMixerController_sizeSynced (hl e he) hsync h') st r hs h

end MixerLoop

/-! The mixer-controller loop writes typed values and returns. -/

/-- A turn of the mixer-controller loop writes a setting only with a value of its type. -/
theorem syncMixerController_settingsTyped {id : String} {c : SettingController} {m : Mixer}
    {caps : Option Caps} {kept : Table SettingController}
    {st : Mixer × Option Caps × Table SettingController}
    (h : syncMixerController now duration id c m caps kept = some st)
    (ht : SettingsTyped m.settings) :
    SettingsTyped st.1.settings := by
  rcases syncMixerController_cases h with
    ⟨-, rfl⟩ | ⟨setting, hs, ⟨-, rfl⟩ | ⟨_, _, -, -, -, rfl⟩⟩
  · exact ht
  · exact ht.insert hs (c.keepsType_synchronize _ _ _)
  · simpa using ht.insert hs (c.keepsType_synchronize _ _ _)

/-- A turn of the mixer-controller loop returns when its controller is under its setting's name
and the settings are typed: the `width` and `height` settings hold `i32`s. -/
theorem syncMixerController_isSome {id : String} {c : SettingController} (hc : c.setting = id)
    {m : Mixer} (ht : SettingsTyped m.settings) (caps : Option Caps)
    (kept : Table SettingController) :
    (syncMixerController now duration id c m caps kept).isSome := by
  subst hc
  unfold syncMixerController
  split
  · rfl
  · rename_i setting hs
    dsimp only
    split
    · by_cases hid : c.setting = "width" ∨ c.setting = "height"
      · have hn : c.setting = "width" ∨ c.setting = "height" ∨ c.setting = "sample-rate" ∨
            c.setting = "fallback-timeout" := hid.imp_right .inl
        rw [if_pos hid, Option.isSome_map']
        refine (c.keepsType_synchronize setting now duration).1 ?_
        simpa [Mixer.settingI32, hs] using ht.settingI32_isSome hn
      · rw [if_neg hid]; rfl
    · rfl

theorem syncMixerControllers_settingsTyped {l : List ((_ : String) × SettingController)}
    {st r : Mixer × Option Caps × Table SettingController}
    (h : syncMixerControllers now duration l st = some r) (ht : SettingsTyped st.1.settings) :
    SettingsTyped r.1.settings :=
  syncMixerControllers_induct (fun st' => SettingsTyped st'.1.settings)
    (fun _ _ _ _ ih h' => syncMixerController_settingsTyped h' ih) st r ht h

theorem syncMixerControllers_isSome :
    ∀ {l : List ((_ : String) × SettingController)}
      {st : Mixer × Option Caps × Table SettingController},
      (∀ e ∈ l, e.2.setting = e.1) → SettingsTyped st.1.settings →
        (syncMixerControllers now duration l st).isSome
  | [], _, _, _ => rfl
  | ⟨id, c⟩ :: _, (m, caps, kept), hl, ht => by
    have ht' : SettingsTyped m.settings := ht
    have h₁ : (syncMixerController now duration id c m caps kept).isSome :=
      syncMixerController_isSome (hl _ (.head _)) ht' caps kept
    obtain ⟨st', hst'⟩ := Option.isSome_iff_exists.1 h₁
    simp only [syncMixerControllers, hst', Option.some_bind]
    exact syncMixerControllers_isSome (fun e he => hl e (.tail _ he))
      (syncMixerController_settingsTyped hst' ht)

/-! Both loops drain their maps. -/

/-- The slot-controller loop drains the controllers: each one ticked once, and kept, as its
tick left it, unless it is done. -/
theorem syncSlotControllers_snd : ∀ (l : List ((_ : String) × PropertyController))
    (st : Mixer × Table PropertyController),
    (syncSlotControllers now duration l st).2 = Table.drainInto
      (fun c => ({ c with controlPoints := dueDropped now c.controlPoints },
        (dueDropped now c.controlPoints).isEmpty)) l st.2
  | [], _ => rfl
  | ⟨id, c⟩ :: rest, (m, kept) => by
    rw [syncSlotControllers, syncSlotControllers_snd rest, Table.drainInto]
    simp only [syncSlotController, PropertyController.synchronize_fst,
      PropertyController.synchronize_done]

/-- A turn of the mixer-controller loop whose setting is there ticks its controller and keeps
it unless it is done; no setting goes missing. -/
theorem syncMixerController_snd {id : String} {c : SettingController} {m : Mixer}
    {caps : Option Caps} {kept : Table SettingController}
    {st : Mixer × Option Caps × Table SettingController}
    (h : syncMixerController now duration id c m caps kept = some st)
    (hs : (m.settings.lookup c.setting).isSome) :
    st.2.2 = (if (dueDropped now c.controlPoints).isEmpty then kept
      else kept.insert id { c with controlPoints := dueDropped now c.controlPoints }) ∧
    ∀ k, (m.settings.lookup k).isSome → (st.1.settings.lookup k).isSome := by
  refine ⟨?_, fun k => syncMixerController_settings_isSome h⟩
  rcases syncMixerController_cases h with
    ⟨hn, -⟩ | ⟨setting, -, ⟨-, rfl⟩ | ⟨_, _, -, -, -, rfl⟩⟩
  · simp [hn] at hs
  all_goals simp only [SettingController.synchronize_fst, SettingController.synchronize_done]

/-- The mixer-controller loop drains the controllers, when every controller's setting is
there. -/
theorem syncMixerControllers_snd : ∀ {l : List ((_ : String) × SettingController)}
    {st r : Mixer × Option Caps × Table SettingController},
    syncMixerControllers now duration l st = some r →
    (∀ e ∈ l, (st.1.settings.lookup e.2.setting).isSome) →
    r.2.2 = Table.drainInto
      (fun c => ({ c with controlPoints := dueDropped now c.controlPoints },
        (dueDropped now c.controlPoints).isEmpty)) l st.2.2
  | [], _, _, h, _ => by cases h; rfl
  | ⟨id, c⟩ :: rest, (m, caps, kept), r, h, hs => by
    obtain ⟨st', h₁, h₂⟩ := Option.bind_eq_some.1 h
    obtain ⟨hkept, hset⟩ := syncMixerController_snd h₁ (hs _ (.head _))
    rw [syncMixerControllers_snd h₂ fun e he => hset _ (hs e (.tail _ he)), hkept]
    rfl

end Loops

/-! ### One tick of the compositor -/

section VideoTick

variable {pts timeout : ClockTime} {b : Bool} {g : Aggregator} {st : VideoMixingState}

@[simp] theorem updateBasePlate_slotControllers :
    (updateBasePlate b pts timeout g st).2.slotControllers = st.slotControllers := by
  unfold updateBasePlate; split_ifs <;> rfl

@[simp] theorem updateBasePlate_mixerControllers :
    (updateBasePlate b pts timeout g st).2.mixerControllers = st.mixerControllers := by
  unfold updateBasePlate; split_ifs <;> rfl

@[simp] theorem updateBasePlate_capsfilter :
    (updateBasePlate b pts timeout g st).2.capsfilter = st.capsfilter := by
  unfold updateBasePlate; split_ifs <;> rfl

@[simp] theorem updateBasePlate_lastPts :
    (updateBasePlate b pts timeout g st).2.lastPts = st.lastPts := by
  unfold updateBasePlate; split_ifs <;> rfl

@[simp] theorem updateBasePlate_wiring :
    (updateBasePlate b pts timeout g st).1.wiring = g.wiring := by
  unfold updateBasePlate; split_ifs <;> simp

/-- The base-plate part writes only the `alpha` of `sink_0`. -/
theorem updateBasePlate_padProperty {mix : Mix} {n : Nat} {name : String}
    (hn : ¬(n = 0 ∧ name = "alpha")) :
    (updateBasePlate b pts timeout g st).1.padProperty mix n name = g.padProperty mix n name := by
  unfold updateBasePlate
  split_ifs <;> simp only [Aggregator.padProperty_setPadProperty] <;> split_ifs <;> simp_all

/-- The base plate's `alpha` follows `showing_base_plate` through the base-plate part. -/
theorem updateBasePlate_alpha (h0 : (g.staticPad 0).isSome)
    (ha : g.padProperty .video 0 "alpha" = some (alphaOf st.showingBasePlate)) :
    (updateBasePlate b pts timeout g st).1.padProperty .video 0 "alpha" =
      some (alphaOf (updateBasePlate b pts timeout g st).2.showingBasePlate) := by
  unfold updateBasePlate
  split_ifs <;> simp_all [alphaOf]

end VideoTick

theorem synchronizeMixerControllers_eq {now : Nat} {duration : ClockTime}
    {controllers : Table SettingController} {capsfilter : Option Handle} {m m' : Mixer}
    {w w' : World} {kept : Table SettingController}
    (h : synchronizeMixerControllers now duration controllers capsfilter m w =
      some (m', w', kept)) :
    ∃ r, syncMixerControllers now duration controllers.entries (m, capsfilter.map w.caps, ∅) =
      some r ∧ m' = r.1 ∧ kept = r.2.2 ∧ w' = w.setCapsOf capsfilter r.2.1 := by
  obtain ⟨r, hr, he⟩ := Option.map_eq_some'.1 h
  cases he
  exact ⟨r, hr, rfl, rfl, rfl⟩

/-- `synchronize_slot_controllers` keeps exactly the controllers whose tick is not done, each as
its tick left it. -/
theorem synchronizeSlotControllers_lookup (now : Nat) (duration : ClockTime)
    (controllers : Table PropertyController) (m : Mixer) (k : String) (c' : PropertyController) :
    (synchronizeSlotControllers now duration controllers m).2.lookup k = some c' ↔
      ∃ c, controllers.lookup k = some c ∧
        ∀ v, (c.synchronize v now duration).1 = c' ∧
          (c.synchronize v now duration).2.2 = false := by
  rw [synchronizeSlotControllers, syncSlotControllers_snd, Table.lookup_drainInto_entries]
  simp only [PropertyController.synchronize_fst, PropertyController.synchronize_done,
    Prod.mk.injEq, forall_const]

/-- `synchronize_mixer_controllers` keeps exactly the controllers whose tick is not done, each
as its tick left it, when every controller's setting is there. -/
theorem synchronizeMixerControllers_lookup {now : Nat} {duration : ClockTime}
    {controllers : Table SettingController} {capsfilter : Option Handle} {m m' : Mixer}
    {w w' : World} {kept : Table SettingController}
    (h : synchronizeMixerControllers now duration controllers capsfilter m w =
      some (m', w', kept))
    (hs : ∀ k c, controllers.lookup k = some c → (m.settings.lookup c.setting).isSome)
    (k : String) (c' : SettingController) :
    kept.lookup k = some c' ↔ ∃ c, controllers.lookup k = some c ∧
      ∀ s, (c.synchronize s now duration).1 = c' ∧ (c.synchronize s now duration).2.2 = false := by
  haveI : Nonempty Setting := ⟨⟨"", .bool false, false⟩⟩
  obtain ⟨r, hr, -, rfl, -⟩ := synchronizeMixerControllers_eq h
  rw [syncMixerControllers_snd hr fun e he => hs e.1 e.2 (AList.mem_lookup_iff.2 he),
    Table.lookup_drainInto_entries]
  simp only [SettingController.synchronize_fst, SettingController.synchronize_done,
    Prod.mk.injEq, forall_const]

/-- Every controller `synchronize_mixer_controllers` keeps drives a setting the mixer has, when
every controller it was given does. -/
theorem synchronizeMixerControllers_keptSet {now : Nat} {duration : ClockTime}
    {controllers : Table SettingController} {capsfilter : Option Handle} {m m' : Mixer}
    {w w' : World} {kept : Table SettingController}
    (h : synchronizeMixerControllers now duration controllers capsfilter m w =
      some (m', w', kept))
    (hs : ∀ k c, controllers.lookup k = some c → (m.settings.lookup c.setting).isSome)
    (k : String) (c' : SettingController) (hk : kept.lookup k = some c') :
    (m'.settings.lookup c'.setting).isSome := by
  obtain ⟨c, hc, hc'⟩ := (synchronizeMixerControllers_lookup h hs k c').1 hk
  obtain ⟨setting, -⟩ := Option.isSome_iff_exists.1 (hs k c hc)
  obtain ⟨r, hr, rfl, -, -⟩ := synchronizeMixerControllers_eq h
  rw [← (hc' setting).1, SettingController.synchronize_fst]
  exact syncMixerControllers_settings_isSome hr (hs k c hc)

/-- `synchronize_mixer_controllers` returns when every controller is under its setting's name
and the settings are typed. -/
theorem synchronizeMixerControllers_isSome {now : Nat} {duration : ClockTime}
    {controllers : Table SettingController} (capsfilter : Option Handle) {m : Mixer}
    (w : World) (hkeyed : ∀ k c, controllers.lookup k = some c → c.setting = k)
    (ht : SettingsTyped m.settings) :
    (synchronizeMixerControllers now duration controllers capsfilter m w).isSome := by
  rw [synchronizeMixerControllers, Option.isSome_map']
  exact syncMixerControllers_isSome (fun e he => hkeyed e.1 e.2 (AList.mem_lookup_iff.2 he)) ht

/-- What a video tick that returns leaves: the base-plate part, then the slot controllers'
ticks, then the mixer controllers'. -/
theorem updateVideoMixingState_ok {pts timeout : ClockTime} {nowSlots nowMixers : Nat}
    {hasSample : Nat → Bool} {s s' : Node}
    (h : updateVideoMixingState pts timeout nowSlots nowMixers hasSample s = .ok s') :
    (s.mixer.videoMixer.staticPad 0).isSome ∧
    ∃ sc mc mc' m w,
      let r := updateBasePlate (s.mixer.videoMixer.basePlateOnly hasSample) pts timeout
        s.mixer.videoMixer s.mixer.videoMixingState
      let q := synchronizeSlotControllers nowSlots (tickDuration pts r.2.lastPts) sc
        { s.mixer with videoMixer := r.1 }
      s.mixer.videoMixingState.slotControllers = some sc ∧
      s.mixer.videoMixingState.mixerControllers = some mc ∧
      synchronizeMixerControllers nowMixers (tickDuration pts r.2.lastPts) mc r.2.capsfilter q.1
        s.world = some (m, w, mc') ∧
      let vms := { r.2 with slotControllers := some q.2, mixerControllers := some mc',
                            lastPts := pts }
      s' = { s with mixer := { m with videoMixingState := vms }, world := w } := by
  unfold updateVideoMixingState at h
  split at h
  · cases h
  · rename_i hp
    refine ⟨by simp [hp], ?_⟩
    dsimp only at h
    split at h
    · cases h
    · rename_i sc hsc
      split at h
      · cases h
      · rename_i mc hmc
        split at h
        · cases h
        · rename_i m w mc' hsync
          cases h
          exact ⟨sc, mc, mc', m, w, by simpa using hsc, by simpa using hmc, hsync, rfl⟩

section VideoTickResults

variable {pts timeout : ClockTime} {nowSlots nowMixers : Nat} {hasSample : Nat → Bool}
  {s s' : Node}

/-- The base-plate fields after a video tick are those the base-plate part computed. -/
theorem updateVideoMixingState_fallback
    (h : updateVideoMixingState pts timeout nowSlots nowMixers hasSample s = .ok s') :
    let r := updateBasePlate (s.mixer.videoMixer.basePlateOnly hasSample) pts timeout
      s.mixer.videoMixer s.mixer.videoMixingState
    s'.mixer.videoMixingState.basePlateTimeout = r.2.basePlateTimeout ∧
      s'.mixer.videoMixingState.showingBasePlate = r.2.showingBasePlate := by
  obtain ⟨-, _, _, _, _, _, -, -, -, rfl⟩ := updateVideoMixingState_ok h
  exact ⟨rfl, rfl⟩

/-- What a video tick leaves of the node but its aggregators' pad properties, its settings,
its video mixing state and the caps. -/
theorem updateVideoMixingState_frame
    (h : updateVideoMixingState pts timeout nowSlots nowMixers hasSample s = .ok s') :
    s'.mixer.consumerSlots = s.mixer.consumerSlots ∧
    s'.mixer.audioMixingState = s.mixer.audioMixingState ∧
    s'.mixer.stateMachine = s.mixer.stateMachine ∧ s'.callbackTimeout = s.callbackTimeout ∧
    s'.world.producers = s.world.producers ∧ s'.world.nextHandle = s.world.nextHandle ∧
    s'.mixer.videoMixingState.capsfilter = s.mixer.videoMixingState.capsfilter ∧
    ∀ mix, (s'.mixer.aggregator mix).wiring = (s.mixer.aggregator mix).wiring := by
  obtain ⟨-, sc, mc, mc', m, w, -, -, hsync, rfl⟩ := updateVideoMixingState_ok h
  obtain ⟨r, hr, rfl, -, rfl⟩ := synchronizeMixerControllers_eq hsync
  have ht : Mixer.Tuned s.mixer r.1 := ((Mixer.tuned_videoMixer _ _).trans
    (syncSlotControllers_tuned _ _ _)).trans (syncMixerControllers_tuned hr)
  refine ⟨?_, ?_, ?_, rfl, by simp, by simp, by simp, ?_⟩
  · show r.1.consumerSlots = _; rw [ht]
  · show r.1.audioMixingState = _; rw [ht]
  · show r.1.stateMachine = _; rw [ht]
  · rintro (_ | _)
    · exact (syncMixerControllers_wiring hr).1.trans
        ((syncSlotControllers_wiring .video _ _ _).trans (updateBasePlate_wiring))
    · exact (congrArg Aggregator.wiring (syncMixerControllers_wiring hr).2).trans
        (syncSlotControllers_wiring .audio _ _ _)

/-- No video slot controller drives the property `name` of the compositor's pad `sink_0`. -/
def NoSlotControllerOn (name : String) (m : Mixer) : Prop :=
  ∀ sc, m.videoMixingState.slotControllers = some sc → ∀ k c, sc.lookup k = some c →
    ¬(c.target = ⟨.video, 0⟩ ∧ c.propname = name)

theorem NoSlotControllerOn.entries {name : String} {m : Mixer} (h : NoSlotControllerOn name m)
    {sc : Table PropertyController} (hsc : m.videoMixingState.slotControllers = some sc) :
    ∀ e ∈ sc.entries, ¬(e.2.target = ⟨.video, 0⟩ ∧ e.2.propname = name) :=
  fun e he => h sc hsc e.1 e.2 (AList.mem_lookup_iff.2 he)

/-- With no slot controller on the base plate's `alpha`, a video tick leaves it as the
base-plate part set it. -/
theorem updateVideoMixingState_alpha
    (h : updateVideoMixingState pts timeout nowSlots nowMixers hasSample s = .ok s')
    (hno : NoSlotControllerOn "alpha" s.mixer) :
    s'.mixer.videoMixer.padProperty .video 0 "alpha" =
      (updateBasePlate (s.mixer.videoMixer.basePlateOnly hasSample) pts timeout s.mixer.videoMixer
        s.mixer.videoMixingState).1.padProperty .video 0 "alpha" := by
  obtain ⟨-, sc, mc, mc', m, w, hsc, -, hsync, rfl⟩ := updateVideoMixingState_ok h
  obtain ⟨r, hr, rfl, -, -⟩ := synchronizeMixerControllers_eq hsync
  exact (syncMixerControllers_padProperty (by simp) hr).trans
    (syncSlotControllers_padProperty (hno.entries hsc) _ _)

/-- With every mixer controller under its setting's name and no slot controller on the
base plate's size, a video tick keeps the size settings, the output caps and the base-plate
pad in agreement. -/
theorem updateVideoMixingState_sizeSynced
    (h : updateVideoMixingState pts timeout nowSlots nowMixers hasSample s = .ok s') {cf : Handle}
    (hcf : s.mixer.videoMixingState.capsfilter = some cf) (hkeys : MixerControllersKeyed s.mixer)
    (hw : NoSlotControllerOn "width" s.mixer) (hh : NoSlotControllerOn "height" s.mixer)
    (hs : SizeSynced s.mixer (s.world.caps cf)) : SizeSynced s'.mixer (s'.world.caps cf) := by
  obtain ⟨-, sc, mc, mc', m, w, hsc, hmc, hsync, rfl⟩ := updateVideoMixingState_ok h
  obtain ⟨r, hr, rfl, -, rfl⟩ := synchronizeMixerControllers_eq hsync
  have hq : ∀ d, SizeSynced (synchronizeSlotControllers nowSlots d sc
      { s.mixer with videoMixer := (updateBasePlate (s.mixer.videoMixer.basePlateOnly hasSample)
        pts timeout s.mixer.videoMixer s.mixer.videoMixingState).1 }).1 (s.world.caps cf) := by
    intro d name hname
    obtain ⟨v, h1, h2, h3⟩ := hs name hname
    have hno : NoSlotControllerOn name s.mixer := by rcases hname with rfl | rfl <;> assumption
    refine ⟨v, ?_, h2, ?_⟩
    · simpa [Mixer.settingI32, synchronizeSlotControllers, syncSlotControllers_settings] using h1
    · refine (syncSlotControllers_padProperty (hno.entries hsc) _ _).trans ?_
      refine (updateBasePlate_padProperty ?_).trans h3
      rintro ⟨-, rfl⟩; simp at hname
  obtain ⟨caps, hcaps, hsync'⟩ := syncMixerControllers_sizeSynced
    (fun e he => hkeys mc hmc e.1 e.2 (AList.mem_lookup_iff.2 he)) ⟨_, by simp [hcf], hq _⟩ hr
  simpa [hcf, hcaps, World.setCaps] using hsync'

/-- A video tick keeps each video slot controller it does not drop under its key, with its
slot, pad and property. -/
theorem updateVideoMixingState_slotControllers
    (h : updateVideoMixingState pts timeout nowSlots nowMixers hasSample s = .ok s') :
    ∃ sc sc', s.mixer.videoMixingState.slotControllers = some sc ∧
      s'.mixer.videoMixingState.slotControllers = some sc' ∧
      ∀ k c, sc'.lookup k = some c → ∃ c₀, sc.lookup k = some c₀ ∧ c₀.SameRole c := by
  obtain ⟨-, sc, mc, mc', m, w, hsc, -, -, rfl⟩ := updateVideoMixingState_ok h
  refine ⟨sc, _, hsc, rfl, fun k c hk => ?_⟩
  rcases syncSlotControllers_kept hk with hk | ⟨e, he, rfl, hrole⟩
  · simp at hk
  · exact ⟨e.2, AList.mem_lookup_iff.2 he, hrole⟩

theorem updateVideoMixingState_mixerControllersKeyed
    (h : updateVideoMixingState pts timeout nowSlots nowMixers hasSample s = .ok s')
    (hkeys : MixerControllersKeyed s.mixer) : MixerControllersKeyed s'.mixer := by
  obtain ⟨-, sc, mc, mc', m, w, -, hmc, hsync, rfl⟩ := updateVideoMixingState_ok h
  obtain ⟨r, hr, rfl, rfl, -⟩ := synchronizeMixerControllers_eq hsync
  rintro _ ⟨⟩
  exact syncMixerControllers_keys (fun e he => hkeys mc hmc e.1 e.2 (AList.mem_lookup_iff.2 he))
    (by simp) hr

theorem updateVideoMixingState_pipeline
    (h : updateVideoMixingState pts timeout nowSlots nowMixers hasSample s = .ok s') :
    s'.mixer.pipeline = s.mixer.pipeline := by
  obtain ⟨-, sc, mc, mc', m, w, -, -, hsync, rfl⟩ := updateVideoMixingState_ok h
  obtain ⟨r, hr, rfl, -, rfl⟩ := synchronizeMixerControllers_eq hsync
  show r.1.pipeline = _
  rw [((Mixer.tuned_videoMixer _ _).trans (syncSlotControllers_tuned _ _ _)).trans
    (syncMixerControllers_tuned hr)]

/-- A compositor tick writes the settings only with values of their types. -/
theorem updateVideoMixingState_settingsTyped
    (h : updateVideoMixingState pts timeout nowSlots nowMixers hasSample s = .ok s')
    (ht : SettingsTyped s.mixer.settings) : SettingsTyped s'.mixer.settings := by
  obtain ⟨-, sc, mc, mc', m, w, -, -, hsync, rfl⟩ := updateVideoMixingState_ok h
  obtain ⟨r, hr, rfl, -, rfl⟩ := synchronizeMixerControllers_eq hsync
  exact syncMixerControllers_settingsTyped hr
    (by simpa [synchronizeSlotControllers, syncSlotControllers_settings] using ht)

/-- A compositor tick keeps every mixer controller on a setting the mixer has. -/
theorem updateVideoMixingState_mixerControllersSet
    (h : updateVideoMixingState pts timeout nowSlots nowMixers hasSample s = .ok s')
    (hset : MixerControllersSet s.mixer) : MixerControllersSet s'.mixer := by
  obtain ⟨-, sc, mc, mc', m, w, -, hmc, hsync, rfl⟩ := updateVideoMixingState_ok h
  rintro _ ⟨⟩ k c' hk
  have := synchronizeMixerControllers_keptSet hsync (fun k c hc => by
    simpa [synchronizeSlotControllers, syncSlotControllers_settings] using hset mc hmc k c hc)
    k c' hk
  exact this

/-- A compositor tick puts both of its controller maps back. -/
theorem updateVideoMixingState_present
    (h : updateVideoMixingState pts timeout nowSlots nowMixers hasSample s = .ok s')
    (hp : ControllersPresent s.mixer) : ControllersPresent s'.mixer := by
  obtain ⟨-, sc, mc, mc', m, w, -, -, -, rfl⟩ := updateVideoMixingState_ok h
  have hams : m.audioMixingState = s.mixer.audioMixingState := (updateVideoMixingState_frame h).2.1
  refine ⟨fun b => ?_, rfl⟩
  cases b
  · show m.audioMixingState.slotControllers.isSome
    rw [hams]; exact hp.slot false
  · rfl

end VideoTickResults

/-- **The compositor's callback never panics** while `sink_0` is there, the controller maps
are, every mixer controller is under its setting's name and the settings are typed. -/
theorem updateVideoMixingState_ne_panic {pts timeout : ClockTime} {nowSlots nowMixers : Nat}
    {hasSample : Nat → Bool} {s : Node} (h0 : (s.mixer.videoMixer.staticPad 0).isSome)
    (hp : ControllersPresent s.mixer) (hkeyed : MixerControllersKeyed s.mixer)
    (ht : SettingsTyped s.mixer.settings) :
    updateVideoMixingState pts timeout nowSlots nowMixers hasSample s ≠ .panic := by
  obtain ⟨p, hp0⟩ := Option.isSome_iff_exists.1 h0
  obtain ⟨sc, hsc⟩ := Option.isSome_iff_exists.1 (hp.slot true)
  obtain ⟨mc, hmc⟩ := Option.isSome_iff_exists.1 hp.mixer
  have hsync : ∀ m : Mixer, m.settings = s.mixer.settings → ∀ d cf w,
      (synchronizeMixerControllers nowMixers d mc cf m w).isSome := fun m hm d cf w => by
    rw [synchronizeMixerControllers, Option.isSome_map']
    exact syncMixerControllers_isSome
      (fun e he => hkeyed mc hmc e.1 e.2 (AList.mem_lookup_iff.2 he)) (hm ▸ ht)
  unfold updateVideoMixingState
  simp only [hp0, updateBasePlate_slotControllers, updateBasePlate_mixerControllers]
  simp only [Mixer.slotControllers, if_true] at hsc
  simp only [hsc, hmc]
  split
  · rename_i hnone
    exact absurd hnone (Option.isSome_iff_ne_none.1 (hsync _
      (by simp [synchronizeSlotControllers, syncSlotControllers_settings]) _ _ _))
  · nofun

/-- The compositor's callback never returns an error. -/
theorem updateVideoMixingState_ne_err (pts timeout : ClockTime) (nowSlots nowMixers : Nat)
    (hasSample : Nat → Bool) (s r : Node) (e : String) :
    updateVideoMixingState pts timeout nowSlots nowMixers hasSample s ≠ .err r e := by
  unfold updateVideoMixingState
  dsimp only
  repeat' split
  all_goals nofun

/-! ### One tick of the audiomixer -/

/-- What an audio tick leaves: the audio slot controllers' ticks. -/
theorem updateAudioMixingState_ok {pts : ClockTime} {now : Nat} {s s' : Node}
    (h : updateAudioMixingState pts now s = .ok s') :
    ∃ sc, s.mixer.audioMixingState.slotControllers = some sc ∧
      let q := synchronizeSlotControllers now (tickDuration pts s.mixer.audioMixingState.lastPts) sc
        s.mixer
      let ams := { s.mixer.audioMixingState with slotControllers := some q.2, lastPts := pts }
      s' = { s with mixer := { q.1 with audioMixingState := ams } } := by
  unfold updateAudioMixingState at h
  dsimp only at h
  split at h
  · cases h
  · rename_i sc hsc
    cases h
    exact ⟨sc, hsc, rfl⟩

/-- An audio tick changes the audio slot controllers, the pads' properties and nothing else
the mixer's other handlers read; each controller it keeps stays under its key, with its
slot, pad and property. -/
theorem updateAudioMixingState_frame {pts : ClockTime} {now : Nat} {s s' : Node}
    (h : updateAudioMixingState pts now s = .ok s') :
    s'.mixer.consumerSlots = s.mixer.consumerSlots ∧
    s'.mixer.videoMixingState = s.mixer.videoMixingState ∧
    s'.mixer.stateMachine = s.mixer.stateMachine ∧ s'.mixer.settings = s.mixer.settings ∧
    s'.world = s.world ∧ s'.callbackTimeout = s.callbackTimeout ∧
    ∃ sc sc', s.mixer.audioMixingState.slotControllers = some sc ∧
      s'.mixer.audioMixingState.slotControllers = some sc' ∧
      ∀ k c, sc'.lookup k = some c → ∃ c₀, sc.lookup k = some c₀ ∧ c₀.SameRole c := by
  obtain ⟨sc, hsc, rfl⟩ := updateAudioMixingState_ok h
  have ht : Mixer.Tuned s.mixer
      (synchronizeSlotControllers now (tickDuration pts s.mixer.audioMixingState.lastPts) sc
        s.mixer).1 := syncSlotControllers_tuned _ _ _
  refine ⟨?_, ?_, ?_, syncSlotControllers_settings _ _ _, rfl, rfl, sc, _, hsc, rfl,
    fun k c hk => ?_⟩
  · show (synchronizeSlotControllers _ _ _ _).1.consumerSlots = _; rw [ht]
  · show (synchronizeSlotControllers _ _ _ _).1.videoMixingState = _; rw [ht]
  · show (synchronizeSlotControllers _ _ _ _).1.stateMachine = _; rw [ht]
  · rcases syncSlotControllers_kept hk with hk | ⟨e, he, rfl, hrole⟩
    · simp at hk
    · exact ⟨e.2, AList.mem_lookup_iff.2 he, hrole⟩

theorem updateAudioMixingState_ne_err (pts : ClockTime) (now : Nat) (s r : Node) (e : String) :
    updateAudioMixingState pts now s ≠ .err r e := by
  unfold updateAudioMixingState
  dsimp only
  split <;> nofun

/-- An audio tick keeps how both aggregators are wired, and every pad property no audio slot
controller drives. -/
theorem updateAudioMixingState_aggregators {pts : ClockTime} {now : Nat} {s s' : Node}
    (h : updateAudioMixingState pts now s = .ok s') {sc : Table PropertyController}
    (hsc : s.mixer.audioMixingState.slotControllers = some sc) :
    (∀ mix, (s'.mixer.aggregator mix).wiring = (s.mixer.aggregator mix).wiring) ∧
    ∀ {mix n name},
      (∀ k c, sc.lookup k = some c → ¬(c.target = ⟨mix, n⟩ ∧ c.propname = name)) →
      (s'.mixer.aggregator mix).padProperty mix n name =
        (s.mixer.aggregator mix).padProperty mix n name := by
  obtain ⟨sc', hsc', rfl⟩ := updateAudioMixingState_ok h
  cases hsc.symm.trans hsc'
  exact ⟨fun mix => syncSlotControllers_wiring mix _ _ _, fun hno =>
    syncSlotControllers_padProperty (fun e he => hno e.1 e.2 (AList.mem_lookup_iff.2 he)) _ _⟩

section AudioTick

variable {pts : ClockTime} {now : Nat} {s s' : Node}

theorem updateAudioMixingState_pipeline (h : updateAudioMixingState pts now s = .ok s') :
    s'.mixer.pipeline = s.mixer.pipeline := by
  obtain ⟨sc, -, rfl⟩ := updateAudioMixingState_ok h
  have ht : Mixer.Tuned s.mixer
      (synchronizeSlotControllers now (tickDuration pts s.mixer.audioMixingState.lastPts) sc
        s.mixer).1 := syncSlotControllers_tuned _ _ _
  show (synchronizeSlotControllers _ _ _ _).1.pipeline = _
  rw [ht]

/-- An audiomixer tick puts its slot controllers back. -/
theorem updateAudioMixingState_present (h : updateAudioMixingState pts now s = .ok s')
    (hp : ControllersPresent s.mixer) : ControllersPresent s'.mixer := by
  obtain ⟨-, hvms, -, -, -, -, sc, sc', -, hsc', -⟩ := updateAudioMixingState_frame h
  refine ⟨fun b => ?_, by rw [hvms]; exact hp.mixer⟩
  cases b
  · simp [Mixer.slotControllers, hsc']
  · simpa [Mixer.slotControllers, hvms] using hp.slot true

/-- **The audiomixer's callback never panics** while its slot controllers are there. -/
theorem updateAudioMixingState_ne_panic (hp : ControllersPresent s.mixer) :
    updateAudioMixingState pts now s ≠ .panic := by
  obtain ⟨sc, hsc⟩ := Option.isSome_iff_exists.1 (hp.slot false)
  simp only [Mixer.slotControllers, Bool.false_eq_true, if_false] at hsc
  unfold updateAudioMixingState
  simp only [hsc]
  nofun

end AudioTick

end Auteur
