import Auteur.Mixer.Basic

/-!
Input slots: `connect_slot`, `connect` and `disconnect`.

* `connectSlot` — builds a slot's video and audio bins, adds them to the pipeline, links
  them to the slot's request pads and binds the slot's appsrcs on its producers;
* `connect` — requests the slot's two pads, applies its configuration, creates its appsrcs,
  builds it at once if the mixer is `Started`, and records it;
* `disconnect` — unbinds the slot from its producers and, for each bin it has, takes the
  bin out of the pipeline and releases the pad the bin is linked to;
* `connect_spec`, `disconnect_spec` — what either leaves, with `Ok` or `Err`: the compositor
  changed at one pad only (the one `connect` requests, the one the slot's video bin is linked
  to), at most the one slot recorded or erased, and fresh handles for new bins.

Design notes: whether a GStreamer call that `connect_slot` checks with `?` fails is the
environment's answer, `SlotFaults`; the model takes every such call in order, with the
state it leaves.  The two `srcpad.link(&pad).unwrap()` calls panic on a pad that is
already linked, as `gst_pad_link` refuses it.
-/

namespace Auteur

/-- The calls of `connect_slot` that return an error through `?`, in order. -/
inductive SlotStep
  | makeAudioconvert
  | makeAudioresample
  | makeCapsfilter
  | makeAudioQueue
  | makeVideoQueue
  | addToVideoBin
  | addToAudioBin
  | addBins
  | syncVideoBin
  | syncAudioBin
  | linkAudio
  | linkVideo
  deriving DecidableEq, Repr

/-- Which of the calls of `connect_slot` fail, with the error each of them returns. -/
abbrev SlotFaults := SlotStep → Option String

/-- No call fails. -/
def SlotFaults.none : SlotFaults := fun _ => Option.none

namespace Mixer

/-- The aggregator of a namespace. -/
def aggregator (m : Mixer) : Mix → Aggregator
  | .video => m.videoMixer
  | .audio => m.audioMixer

/-- Update the aggregator of a namespace. -/
def modifyAggregator (mix : Mix) (f : Aggregator → Aggregator) (m : Mixer) : Mixer :=
  match mix with
  | .video => { m with videoMixer := f m.videoMixer }
  | .audio => { m with audioMixer := f m.audioMixer }

@[simp] theorem aggregator_modifyAggregator (mix mix' : Mix) (f : Aggregator → Aggregator)
    (m : Mixer) : (m.modifyAggregator mix f).aggregator mix' =
      if mix' = mix then f (m.aggregator mix) else m.aggregator mix' := by
  cases mix <;> cases mix' <;> rfl

@[simp] theorem modifyAggregator_pipeline (mix : Mix) (f : Aggregator → Aggregator) (m : Mixer) :
    (m.modifyAggregator mix f).pipeline = m.pipeline := by
  cases mix <;> rfl

@[simp] theorem modifyAggregator_consumerSlots (mix : Mix) (f : Aggregator → Aggregator)
    (m : Mixer) : (m.modifyAggregator mix f).consumerSlots = m.consumerSlots := by
  cases mix <;> rfl

@[simp] theorem modifyAggregator_settings (mix : Mix) (f : Aggregator → Aggregator) (m : Mixer) :
    (m.modifyAggregator mix f).settings = m.settings := by
  cases mix <;> rfl

@[simp] theorem aggregator_withPipeline (m : Mixer) (p : List Handle) (mix : Mix) :
    ({ m with pipeline := p } : Mixer).aggregator mix = m.aggregator mix := by
  cases mix <;> rfl

@[simp] theorem aggregator_withSlots (m : Mixer) (t : Table ConsumerSlot) (mix : Mix) :
    ({ m with consumerSlots := t } : Mixer).aggregator mix = m.aggregator mix := by
  cases mix <;> rfl

/-- `m'` is `m` retuned: only its two aggregators and its settings may differ. -/
def Tuned (m m' : Mixer) : Prop :=
  m' = { m with videoMixer := m'.videoMixer, audioMixer := m'.audioMixer, settings := m'.settings }

theorem Tuned.refl (m : Mixer) : Tuned m m := rfl

theorem Tuned.trans {m m' m'' : Mixer} (h : Tuned m m') (h' : Tuned m' m'') : Tuned m m'' := by
  unfold Tuned at *; rw [h', h]

/-- `m'` is `m` rewired: only the pipeline's elements and the two aggregators may differ. -/
def Rewired (m m' : Mixer) : Prop :=
  m' = { m with pipeline := m'.pipeline, videoMixer := m'.videoMixer, audioMixer := m'.audioMixer }

theorem Rewired.refl (m : Mixer) : Rewired m m := rfl

theorem Rewired.trans {m m' m'' : Mixer} (h : Rewired m m') (h' : Rewired m' m'') :
    Rewired m m'' := by
  unfold Rewired at *; rw [h', h]

theorem rewired_aggregators (m : Mixer) (gv ga : Aggregator) :
    Rewired m { m with videoMixer := gv, audioMixer := ga } := rfl

theorem rewired_modifyAggregator (mix : Mix) (f : Aggregator → Aggregator) (m : Mixer) :
    Rewired m (m.modifyAggregator mix f) := by
  cases mix <;> rfl

/-- `m'` is `m` with only its slots, its pipeline's elements and its aggregators changed: what
the slot handlers touch. -/
def Reslotted (m m' : Mixer) : Prop :=
  m' = { m with consumerSlots := m'.consumerSlots, pipeline := m'.pipeline,
                videoMixer := m'.videoMixer, audioMixer := m'.audioMixer }

theorem Reslotted.trans {m m' m'' : Mixer} (h : Reslotted m m') (h' : Reslotted m' m'') :
    Reslotted m m'' := by
  unfold Reslotted at *; rw [h', h]

theorem Rewired.reslotted {m m' : Mixer} (h : Rewired m m') : Reslotted m m' := by
  unfold Rewired Reslotted at *; rw [h]

theorem reslotted_slots (m : Mixer) (t : Table ConsumerSlot) :
    Reslotted m { m with consumerSlots := t } := rfl

theorem tuned_videoMixer (m : Mixer) (g : Aggregator) : Tuned m { m with videoMixer := g } := rfl

theorem tuned_modifyAggregator (mix : Mix) (f : Aggregator → Aggregator) (m : Mixer) :
    Tuned m (m.modifyAggregator mix f) := by
  cases mix <;> rfl

end Mixer

/-- The `?` of one call of `connect_slot`: an `Err` with the state so far if it fails. -/
def slotCall (faults : SlotFaults) (step : SlotStep) (a : ConsumerSlot × Node)
    (k : Unit → Outcome (ConsumerSlot × Node)) : Outcome (ConsumerSlot × Node) :=
  match faults step with
  | some e => .err a e
  | none => k ()

/-- `Mixer::connect_slot(pipeline, slot, mixer_id, id, width, height, sample_rate)`. -/
def connectSlot (faults : SlotFaults) (id : String) (slot : ConsumerSlot) (s : Node) :
    Outcome (ConsumerSlot × Node) :=
  let (w, videoBin) := s.world.make
  let (w, audioBin) := w.make
  let s := { s with world := w }
  slotCall faults .makeAudioconvert (slot, s) fun _ =>
  slotCall faults .makeAudioresample (slot, s) fun _ =>
  slotCall faults .makeCapsfilter (slot, s) fun _ =>
  slotCall faults .makeAudioQueue (slot, s) fun _ =>
  slotCall faults .makeVideoQueue (slot, s) fun _ =>
  slotCall faults .addToVideoBin (slot, s) fun _ =>
  slotCall faults .addToAudioBin (slot, s) fun _ =>
  slotCall faults .addBins (slot, s) fun _ =>
  let s := { s with mixer := { s.mixer with pipeline := s.mixer.pipeline ++ [videoBin, audioBin] } }
  slotCall faults .syncVideoBin (slot, s) fun _ =>
  slotCall faults .syncAudioBin (slot, s) fun _ =>
  let s := { s with mixer := (s.mixer.modifyAggregator .audio
    (·.setPadProperty slot.audioPad "volume" (.float slot.volume))) }
  slotCall faults .linkAudio (slot, s) fun _ =>
  slotCall faults .linkVideo (slot, s) fun _ =>
  match s.mixer.audioMixer.linkPad audioBin slot.audioPad with
  | none => .panic
  | some audioMixer =>
    match s.mixer.videoMixer.linkPad videoBin slot.videoPad with
    | none => .panic
    | some videoMixer =>
      let slot := { slot with audioBin := some audioBin, videoBin := some videoBin }
      .ok (slot, { s with
        mixer := { s.mixer with audioMixer := audioMixer, videoMixer := videoMixer }
        world := (s.world.addConsumer slot.videoProducer slot.videoAppsrc id).addConsumer
          slot.audioProducer slot.audioAppsrc id })

/-- The `config` loop of `connect`: each key must be `video::p` or `audio::p`, and its value
must suit the property `p` of the slot's pad in that namespace, which then gets it. -/
def applySlotConfig (videoPad audioPad : Nat) :
    List ((_ : String) × Value) → Node → Outcome Node
  | [], s => .ok s
  | ⟨key, value⟩ :: rest, s =>
    match parseSlotConfigKey key with
    | .error e => .err s e
    | .ok (isVideo, property) =>
      match PropertyController.validateValue property (mixOf isVideo) value with
      | .error e => .err s e
      | .ok () =>
        applySlotConfig videoPad audioPad rest { s with
          mixer := s.mixer.modifyAggregator (mixOf isVideo)
            (·.setPadProperty (if isVideo then videoPad else audioPad) property value) }

/-- Record a slot: `self.consumer_slots.insert(link_id, slot)`. -/
def insertSlot (linkId : String) (slot : ConsumerSlot) (s : Node) : Node :=
  { s with mixer := { s.mixer with consumerSlots := s.mixer.consumerSlots.insert linkId slot } }

/-- `Mixer::connect(link_id, video_producer, audio_producer, config)`. -/
def connect (linkId : String) (videoProducer audioProducer : AppSink)
    (config : Option (Table Value)) (faults : SlotFaults) (s : Node) : Outcome Node :=
  if linkId ∈ s.mixer.consumerSlots then
    .err s ("mixer " ++ s.mixer.id ++ " already has link " ++ linkId)
  else
    let (videoMixer, videoPad) := s.mixer.videoMixer.requestPadSimple
    let (audioMixer, audioPad) := s.mixer.audioMixer.requestPadSimple
    let s := { s with mixer := { s.mixer with videoMixer := videoMixer, audioMixer := audioMixer } }
    (applySlotConfig videoPad audioPad ((config.map (·.entries)).getD []) s).bind fun s =>
    let (w, videoAppsrc) := s.world.makeAppSrc
    let (w, audioAppsrc) := w.makeAppSrc
    let s := { s with world := w }
    let slot : ConsumerSlot :=
      ⟨videoProducer, audioProducer, videoAppsrc, audioAppsrc, none, none, 1, videoPad,
        audioPad⟩
    if s.mixer.stateMachine.state = .started then
      match s.mixer.settingI32 "width", s.mixer.settingI32 "height",
        s.mixer.settingI32 "sample-rate" with
      | some _, some _, some _ =>
        match connectSlot faults linkId slot s with
        | .ok (slot, s) => .ok (insertSlot linkId slot s)
        | .err (_, s) msg => .err s msg
        | .panic => .panic
      | _, _, _ => .panic
    else .ok (insertSlot linkId slot s)

/-- An invalid configuration key makes `connect` fail after it has requested the slot's two
pads, which stay requested. -/
theorem connect_error_keeps_requested_pads :
    ∃ s₀ s₁, Mixer.new "m" none World.empty = .ok s₀ ∧
      connect "a" 100 101 (some ((∅ : Table Value).insert "x" (.int 0))) SlotFaults.none s₀ =
        .err s₁ "Slot controller property name must be in form media-type::property-name" ∧
      s₀.mixer.videoMixer.pads = [] ∧ s₁.mixer.videoMixer.pads.map (·.serial) = [0] ∧
      s₀.mixer.audioMixer.pads = [] ∧ s₁.mixer.audioMixer.pads.map (·.serial) = [0] :=
  ⟨_, _, rfl, rfl, rfl, by decide, rfl, by decide⟩

/-- A `if let Some(bin) = slot.<media>_bin` block of `disconnect`: the mixer pad the bin is
linked to (`peer().unwrap()`), the bin out of the pipeline (`remove(..).unwrap()`), and the
pad released. -/
def releaseBin (mix : Mix) (bin : Option Handle) (s : Node) : Outcome Node :=
  match bin with
  | none => .ok s
  | some b =>
    match (s.mixer.aggregator mix).peerOf b with
    | none => .panic
    | some pad =>
      if b ∈ s.mixer.pipeline then
        .ok { s with mixer := { s.mixer.modifyAggregator mix (·.releaseRequestPad pad) with
          pipeline := s.mixer.pipeline.erase b } }
      else .panic

/-- `Mixer::disconnect(slot_id)`. -/
def disconnect (slotId : String) (s : Node) : Outcome Node :=
  match s.mixer.consumerSlots.lookup slotId with
  | none => .err s ("mixer " ++ s.mixer.id ++ " has no slot with id " ++ slotId)
  | some slot =>
    let s := { s with
      mixer := { s.mixer with consumerSlots := s.mixer.consumerSlots.erase slotId }
      world := (s.world.removeConsumer slot.videoProducer slotId).removeConsumer
        slot.audioProducer slotId }
    (releaseBin .video slot.videoBin s).bind (releaseBin .audio slot.audioBin)

/-- A slot connected and disconnected before the mixer starts leaves its two request pads
behind: `disconnect` releases a pad only through the peer of a bin, and `connect` builds the
bins only once the mixer is `Started`. -/
theorem connect_disconnect_before_start_keeps_pads :
    ∃ s₀ s₁ s₂, Mixer.new "m" none World.empty = .ok s₀ ∧
      connect "a" 100 101 none SlotFaults.none s₀ = .ok s₁ ∧
      disconnect "a" s₁ = .ok s₂ ∧
      s₂.mixer.consumerSlots = s₀.mixer.consumerSlots ∧
      s₀.mixer.videoMixer.pads = [] ∧ s₂.mixer.videoMixer.pads.map (·.serial) = [0] ∧
      s₀.mixer.audioMixer.pads = [] ∧ s₂.mixer.audioMixer.pads.map (·.serial) = [0] :=
  ⟨_, _, _, rfl, rfl, rfl, by decide, rfl, by decide, rfl, by decide⟩

/-! ### What connecting and disconnecting change -/

/-- A fact of the state every `?` of `connect_slot` can return with, and of every state its
continuation leaves, holds of the state the call leaves. -/
theorem slotCall_all {P : ConsumerSlot × Node → Prop} {faults : SlotFaults} {step : SlotStep}
    {a : ConsumerSlot × Node} {k : Unit → Outcome (ConsumerSlot × Node)} (ha : P a)
    (hk : ∀ r, (k ()).state? = some r → P r) :
    ∀ r, (slotCall faults step a k).state? = some r → P r := by
  intro r h
  unfold slotCall at h
  split at h
  · exact Option.some.inj h ▸ ha
  · exact hk r h

theorem slotCall_ok {faults : SlotFaults} {step : SlotStep} {a r : ConsumerSlot × Node}
    {k : Unit → Outcome (ConsumerSlot × Node)} (h : slotCall faults step a k = .ok r) :
    k () = .ok r := by
  unfold slotCall at h
  split at h
  · cases h
  · exact h

theorem slotCall_ne_panic {faults : SlotFaults} {step : SlotStep} {a : ConsumerSlot × Node}
    {k : Unit → Outcome (ConsumerSlot × Node)} (hk : k () ≠ .panic) :
    slotCall faults step a k ≠ .panic := by
  unfold slotCall
  split
  · nofun
  · exact hk

/-- `connect_slot` rewires the mixer, changing the compositor at the slot's pad only, and binds
the slot on its producers; it keeps the caps and the installed callbacks. -/
theorem connectSlot_rewired (faults : SlotFaults) (id : String) (slot : ConsumerSlot) (s : Node) :
    ∀ r, (connectSlot faults id slot s).state? = some r →
      Mixer.Rewired s.mixer r.2.mixer ∧ r.2.callbackTimeout = s.callbackTimeout ∧
        r.2.world.caps = s.world.caps ∧
        Aggregator.ChangedOnlyAt slot.videoPad s.mixer.videoMixer r.2.mixer.videoMixer ∧
        s.world.nextHandle ≤ r.2.world.nextHandle := by
  dsimp only [connectSlot]
  iterate 12 refine slotCall_all ⟨rfl, rfl, rfl, .refl _ _, Nat.le_add_right _ 2⟩ ?_
  intro r h
  split at h
  · cases h
  · split at h
    · cases h
    · cases h
      exact ⟨rfl, rfl, rfl, Aggregator.changedOnlyAt_linkPad ‹_›, Nat.le_add_right _ 2⟩

/-- A slot `connect_slot` builds keeps its pads and gets fresh bins. -/
theorem connectSlot_ok {faults : SlotFaults} {id : String} {slot slot' : ConsumerSlot}
    {s s' : Node} (h : connectSlot faults id slot s = .ok (slot', s')) :
    slot'.videoPad = slot.videoPad ∧ slot'.videoBin = some s.world.nextHandle := by
  dsimp only [connectSlot] at h
  iterate 12 replace h := slotCall_ok h
  split at h
  · cases h
  · split at h
    · cases h
    · cases h; exact ⟨rfl, rfl⟩

theorem slotCall_err {faults : SlotFaults} {step : SlotStep} {a r : ConsumerSlot × Node}
    {k : Unit → Outcome (ConsumerSlot × Node)} {e : String}
    (h : slotCall faults step a k = .err r e) : r = a ∨ k () = .err r e := by
  unfold slotCall at h
  split at h
  · cases h; exact .inl rfl
  · exact .inr h

/-- A slot `connect_slot` builds is added as a consumer of its two producers, in the world with
its two bins made. -/
theorem connectSlot_world {faults : SlotFaults} {id : String} {slot slot' : ConsumerSlot}
    {s s' : Node} (h : connectSlot faults id slot s = .ok (slot', s')) :
    s'.world = (s.world.make.1.make.1.addConsumer slot.videoProducer slot.videoAppsrc id).addConsumer
      slot.audioProducer slot.audioAppsrc id := by
  dsimp only [connectSlot] at h
  iterate 12 replace h := slotCall_ok h
  split at h
  · cases h
  · split at h
    · cases h
    · cases h; rfl

/-- A `connect_slot` that fails has made the two bins and added no consumer. -/
theorem connectSlot_err_world {faults : SlotFaults} {id : String} {slot : ConsumerSlot} {s : Node}
    {r : ConsumerSlot × Node} {e : String} (h : connectSlot faults id slot s = .err r e) :
    r.2.world = s.world.make.1.make.1 := by
  dsimp only [connectSlot] at h
  iterate 12 (rcases slotCall_err h with rfl | h; · rfl)
  split at h
  · cases h
  · split at h
    · cases h
    · cases h

theorem applySlotConfig_rewired (videoPad audioPad : Nat) :
    ∀ (l : List ((_ : String) × Value)) (s r : Node),
      (applySlotConfig videoPad audioPad l s).state? = some r →
        Mixer.Rewired s.mixer r.mixer ∧ r.world = s.world ∧
        r.callbackTimeout = s.callbackTimeout ∧
        Aggregator.ChangedOnlyAt videoPad s.mixer.videoMixer r.mixer.videoMixer
  | [], s, r, h => by cases h; exact ⟨rfl, rfl, rfl, .refl _ _⟩
  | ⟨key, value⟩ :: rest, s, r, h => by
    simp only [applySlotConfig] at h
    split at h
    · cases h; exact ⟨rfl, rfl, rfl, .refl _ _⟩
    · rename_i isVideo _ _
      split at h
      · cases h; exact ⟨rfl, rfl, rfl, .refl _ _⟩
      · obtain ⟨h1, h2, h3, h4⟩ := applySlotConfig_rewired videoPad audioPad rest _ r h
        refine ⟨(Mixer.rewired_modifyAggregator _ _ _).trans h1, h2, h3, .trans ?_ h4⟩
        cases isVideo
        · exact .refl _ _
        · exact Aggregator.changedOnlyAt_setPadProperty _ _ _ _

/-- The `config` loop sets pad properties only: the pipeline and how each aggregator is wired
stay as they were. -/
theorem applySlotConfig_wiring (videoPad audioPad : Nat) :
    ∀ (l : List ((_ : String) × Value)) (s r : Node),
      (applySlotConfig videoPad audioPad l s).state? = some r →
        r.mixer.pipeline = s.mixer.pipeline ∧
        ∀ mix, (r.mixer.aggregator mix).wiring = (s.mixer.aggregator mix).wiring
  | [], s, r, h => by cases h; exact ⟨rfl, fun _ => rfl⟩
  | ⟨key, value⟩ :: rest, s, r, h => by
    simp only [applySlotConfig] at h
    split at h
    · cases h; exact ⟨rfl, fun _ => rfl⟩
    · rename_i isVideo _ _
      split at h
      · cases h; exact ⟨rfl, fun _ => rfl⟩
      · obtain ⟨h1, h2⟩ := applySlotConfig_wiring videoPad audioPad rest _ r h
        refine ⟨h1.trans (Mixer.modifyAggregator_pipeline _ _ _), fun mix => (h2 mix).trans ?_⟩
        by_cases hm : mix = mixOf isVideo
        · subst hm; simp
        · simp [hm]

theorem applySlotConfig_ne_panic (videoPad audioPad : Nat) :
    ∀ (l : List ((_ : String) × Value)) (s : Node),
      applySlotConfig videoPad audioPad l s ≠ .panic
  | [], _ => nofun
  | ⟨_, _⟩ :: rest, _ => by
    simp only [applySlotConfig]
    split
    · nofun
    · split
      · nofun
      · exact applySlotConfig_ne_panic videoPad audioPad rest _

/-- What `connect` leaves, whether it returns `Ok` or `Err`: the slots, the pipeline and the
aggregators changed at most, the compositor at the slot's new pad only, and at most the new
slot recorded, on that pad, with fresh bins or none, and none unless the mixer is `Started`. -/
theorem connect_spec {k : String} {vp ap : AppSink} {config : Option (Table Value)}
    {faults : SlotFaults} {s s' : Node} (h : (connect k vp ap config faults s).state? = some s') :
    Mixer.Reslotted s.mixer s'.mixer ∧ s'.callbackTimeout = s.callbackTimeout ∧
      s'.world.caps = s.world.caps ∧ s.world.nextHandle ≤ s'.world.nextHandle ∧
      Aggregator.ChangedOnlyAt s.mixer.videoMixer.nextSerial s.mixer.videoMixer
        s'.mixer.videoMixer ∧
      (s'.mixer.consumerSlots = s.mixer.consumerSlots ∨
        ∃ slot, s'.mixer.consumerSlots = s.mixer.consumerSlots.insert k slot ∧
          slot.videoPad = s.mixer.videoMixer.nextSerial ∧
          (∀ b, slot.videoBin = some b → s.world.nextHandle ≤ b) ∧
          (s.mixer.stateMachine.state ≠ .started →
            slot.videoBin = none ∧ slot.audioBin = none)) := by
  unfold connect at h
  split_ifs at h with hmem
  · cases h; exact ⟨rfl, rfl, rfl, le_rfl, .refl _ _, .inl rfl⟩
  · have hreq := Aggregator.changedOnlyAt_requestPadSimple s.mixer.videoMixer
    rcases Outcome.state?_bind h with ⟨s₁, h₁, h⟩ | ⟨e, h₁⟩
    · obtain ⟨hr₁, hw₁, hc₁, hv₁⟩ :=
        applySlotConfig_rewired _ _ _ _ s₁ (by rw [h₁]; rfl)
      replace hr₁ := (Mixer.rewired_aggregators _ _ _).trans hr₁
      replace hv₁ := hreq.trans hv₁
      have hst₁ : s₁.mixer.stateMachine = s.mixer.stateMachine := by rw [hr₁]
      have hsl₁ : s₁.mixer.consumerSlots = s.mixer.consumerSlots := by rw [hr₁]
      have hcp₁ : s₁.world.caps = s.world.caps := congrArg World.caps hw₁
      have hn₁ : s₁.world.nextHandle = s.world.nextHandle := congrArg World.nextHandle hw₁
      dsimp only at h
      split_ifs at h with hst
      · split at h
        · split at h
          · rename_i slot₂ s₂ h₂
            cases h
            obtain ⟨hr₂, hc₂, hw₂, hv₂, hn₂⟩ :=
              connectSlot_rewired _ _ _ _ _ (by rw [h₂]; rfl)
            obtain ⟨hpad, hbin⟩ := connectSlot_ok h₂
            have hsl₂ : s₂.mixer.consumerSlots = s.mixer.consumerSlots := by
              rw [hr₂]; exact hsl₁
            refine ⟨hr₁.reslotted.trans (hr₂.reslotted.trans rfl), hc₂.trans hc₁,
              hw₂.trans hcp₁, hn₁.ge.trans ((Nat.le_add_right _ 2).trans hn₂),
              hv₁.trans hv₂,
              .inr ⟨slot₂, congrArg (AList.insert k _) hsl₂, hpad, fun b hb => ?_,
                fun hne => absurd (hst₁ ▸ hst) hne⟩⟩
            cases hbin.symm.trans hb
            exact hn₁.ge.trans (Nat.le_add_right _ 2)
          · rename_i s₂ e h₂
            cases h
            obtain ⟨hr₂, hc₂, hw₂, hv₂, hn₂⟩ :=
              connectSlot_rewired _ _ _ _ _ (by rw [h₂]; rfl)
            exact ⟨hr₁.reslotted.trans hr₂.reslotted, hc₂.trans hc₁, hw₂.trans hcp₁,
              hn₁.ge.trans ((Nat.le_add_right _ 2).trans hn₂), hv₁.trans hv₂,
              .inl (by rw [hr₂]; exact hsl₁)⟩
          · cases h
        · cases h
      · cases h
        exact ⟨hr₁.reslotted.trans rfl, hc₁, hcp₁, hn₁.ge.trans (Nat.le_add_right _ 2),
          hv₁, .inr ⟨_, congrArg (AList.insert k _) hsl₁, rfl, (fun _ h => by cases h),
            fun _ => ⟨rfl, rfl⟩⟩⟩
    · obtain ⟨hr₁, hw₁, hc₁, hv₁⟩ :=
        applySlotConfig_rewired _ _ _ _ s' (by rw [h₁]; rfl)
      replace hr₁ := (Mixer.rewired_aggregators _ _ _).trans hr₁
      exact ⟨hr₁.reslotted, hc₁, congrArg World.caps hw₁,
        (congrArg World.nextHandle hw₁).ge, hreq.trans hv₁, .inl (by rw [hr₁])⟩

/-- What releasing a bin leaves: the node as it was for no bin; for a bin, the pad it is
linked to released and the bin out of the pipeline. -/
theorem releaseBin_state? {mix : Mix} {bin : Option Handle} {s r : Node}
    (h : (releaseBin mix bin s).state? = some r) :
    (bin = none ∧ r = s) ∨
      ∃ b n, bin = some b ∧ (s.mixer.aggregator mix).peerOf b = some n ∧
      r = { s with mixer := { s.mixer.modifyAggregator mix (·.releaseRequestPad n) with
        pipeline := s.mixer.pipeline.erase b } } := by
  unfold releaseBin at h
  split at h
  · cases h; exact .inl ⟨rfl, rfl⟩
  · split at h
    · cases h
    · split_ifs at h
      · cases h; exact .inr ⟨_, _, rfl, ‹_›, rfl⟩
      · cases h

/-- Releasing a bin only rewires the mixer. -/
theorem releaseBin_rewired {mix : Mix} {bin : Option Handle} {s r : Node}
    (h : (releaseBin mix bin s).state? = some r) :
    Mixer.Rewired s.mixer r.mixer ∧ r.world = s.world ∧
      r.callbackTimeout = s.callbackTimeout := by
  rcases releaseBin_state? h with ⟨-, rfl⟩ | ⟨b, n, -, -, rfl⟩
  · exact ⟨rfl, rfl, rfl⟩
  · exact ⟨by cases mix <;> rfl, rfl, rfl⟩

/-- Releasing a bin never fails with an error. -/
theorem releaseBin_ne_err (mix : Mix) (bin : Option Handle) (s r : Node) (e : String) :
    releaseBin mix bin s ≠ .err r e := by
  unfold releaseBin
  split
  · nofun
  · split
    · nofun
    · split_ifs <;> nofun

/-- What releasing a bin does to the compositor: nothing, or, for a video bin, the release of
the pad the bin is linked to. -/
theorem releaseBin_videoMixer {mix : Mix} {bin : Option Handle} {s r : Node}
    (h : (releaseBin mix bin s).state? = some r) :
    r.mixer.videoMixer = s.mixer.videoMixer ∨
      ∃ b n, mix = .video ∧ bin = some b ∧ s.mixer.videoMixer.peerOf b = some n ∧
        r.mixer.videoMixer = s.mixer.videoMixer.releaseRequestPad n := by
  rcases releaseBin_state? h with ⟨-, rfl⟩ | ⟨b, n, hb, hn, rfl⟩
  · exact .inl rfl
  · cases mix
    · exact .inr ⟨b, n, rfl, hb, hn, rfl⟩
    · exact .inl rfl

/-- What `disconnect` leaves, whether it returns `Ok` or `Err`: the slots, the pipeline and the
aggregators changed at most; once the slot is found, the slot erased, and of the compositor at
most the pad the slot's video bin is linked to released. -/
theorem disconnect_spec {k : String} {s s' : Node} (h : (disconnect k s).state? = some s') :
    Mixer.Reslotted s.mixer s'.mixer ∧ s'.callbackTimeout = s.callbackTimeout ∧
      s'.world.caps = s.world.caps ∧ s'.world.nextHandle = s.world.nextHandle ∧
      ((s'.mixer.consumerSlots = s.mixer.consumerSlots ∧
          s'.mixer.videoMixer = s.mixer.videoMixer) ∨
        ∃ slot, s.mixer.consumerSlots.lookup k = some slot ∧
          s'.mixer.consumerSlots = s.mixer.consumerSlots.erase k ∧
          (s'.mixer.videoMixer = s.mixer.videoMixer ∨ ∃ b n, slot.videoBin = some b ∧
            s.mixer.videoMixer.peerOf b = some n ∧
            s'.mixer.videoMixer = s.mixer.videoMixer.releaseRequestPad n)) := by
  unfold disconnect at h
  split at h
  · cases h; exact ⟨rfl, rfl, rfl, rfl, .inl ⟨rfl, rfl⟩⟩
  · rename_i slot hslot
    rcases Outcome.state?_bind h with ⟨s₁, h₁, h⟩ | ⟨e, h₁⟩
    · obtain ⟨hr₁, hw₁, hc₁⟩ := releaseBin_rewired (by rw [h₁]; rfl)
      obtain ⟨hr₂, hw₂, hc₂⟩ := releaseBin_rewired h
      have hv₂ : s'.mixer.videoMixer = s₁.mixer.videoMixer := by
        rcases releaseBin_videoMixer h with hv | ⟨_, _, hmix, -⟩
        · exact hv
        · cases hmix
      refine ⟨(Mixer.reslotted_slots _ _).trans (hr₁.trans hr₂).reslotted, hc₂.trans hc₁,
        by rw [hw₂, hw₁]; rfl, by rw [hw₂, hw₁]; rfl,
        .inr ⟨slot, hslot, by rw [hr₂, hr₁], ?_⟩⟩
      rw [hv₂]
      rcases releaseBin_videoMixer (by rw [h₁]; rfl) with hv | ⟨b, n, -, hb, hn, hv⟩
      · exact .inl hv
      · exact .inr ⟨b, n, hb, hn, hv⟩
    · exact absurd h₁ (releaseBin_ne_err _ _ _ _ _)

end Auteur
