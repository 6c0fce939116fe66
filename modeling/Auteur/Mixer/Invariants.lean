import Auteur.Mixer.Actor

/-!
The base plate and the output size over whole runs of a mixer.

The compositor's callback is meant to show the base plate once no input but the base plate
has had a sample for longer than the fallback timeout, and to hide it again as soon as an
input has one (`runStart`, `showsBasePlate`); and the mixer controllers of `width` and
`height` are meant to resize the base plate and the output caps together.  This file shows
that the mixer does both on every run after a start with no slot connected before it:

* `BasePlateKept` — `sink_0` is the base plate's pad: linked from a handle older than every
  slot's bin, held by no slot, driven by no slot controller; `BasePlateKept.step` — every
  event keeps it, and an event other than a compositor tick leaves the base plate
  `Untouched`;
* `FollowsFallback`, `FollowsFallback.run` — the base-plate state is the abstract fallback
  over the compositor ticks so far (`Node.videoTicks`), along every run;
* `SizeFollowsSettings`, `SizeFollowsSettings.run` — the size settings, the output caps and
  the base plate's pad agree, along every run;
* `CleanStart`, `StartedClean` — a mixer `Mixer::new` built and started with no slot
  connected before, where all three hold;
* `sink0_stays_base_plate`, `base_plate_follows_fallback`, `output_size_follows_settings` —
  the three facts on every run from such a start.

Design notes: a request handler changes the compositor at one pad only
(`Aggregator.ChangedOnlyAt`): `connect` at the pad it requests, whose serial is past
`sink_0`'s, and `disconnect` at the pad its video bin is linked to, which is not `sink_0`
because the base plate's queue is linked there and every bin is a handle made after it.  The
runs that connect a slot before the start are the ones this leaves out;
`leftover_controller_drives_base_plate_alpha` and `leftover_controller_resizes_base_plate`
are two of them.
-/

namespace Auteur

namespace Node

/-- The compositor tick an event is, if it has a pts: the pts, and whether a pad other than
`sink_0` had a sample, in the node the event happens to. -/
def tickOf (s : Node) : Event → List (Nat × Bool)
  | .videoTick (some pts) _ _ hasSample => [(pts, !s.mixer.videoMixer.basePlateOnly hasSample)]
  | _ => []

/-- The compositor ticks of a run, newest first. -/
def videoTicks (s : Node) : List Event → List (Nat × Bool)
  | [] => []
  | e :: es =>
    match s.step e with
    | some s' => s'.videoTicks es ++ s.tickOf e
    | none => []

/-- Every compositor tick carries a pts. -/
def Event.Timed : Event → Prop
  | .videoTick none _ _ _ => False
  | _ => True

/-- The events that connect a slot or start the pipeline. -/
def Event.connectsOrStarts : Event → Bool
  | .connect .. => true
  | .start _ => true
  | _ => false

end Node

/-- A slot controller that drives no property of the compositor's pad `sink_0`. -/
def offBasePlate (c : PropertyController) : Prop := c.target ≠ ⟨.video, 0⟩

theorem offBasePlate_of_sameRole {c c' : PropertyController} (h : c.SameRole c')
    (hc : offBasePlate c) : offBasePlate c' := by
  rw [offBasePlate, h.2.1]; exact hc

/-! ### The base plate's pad -/

/-- `sink_0` is the base plate's pad: the node has started, `sink_0` is linked from a handle
`src` made before every bin of a slot, every request pad to come is past it, and no slot
holds it and no slot controller drives it. -/
structure BasePlateKept (s : Node) : Prop where
  notInitial : s.state ≠ .initial
  baseLinked : ∃ src < s.world.nextHandle, s.mixer.videoMixer.ZeroLinkedFrom src ∧
    ∀ k slot, s.mixer.consumerSlots.lookup k = some slot → slot.videoBin ≠ some src
  nextSerial_pos : 0 < s.mixer.videoMixer.nextSerial
  slotPads : ∀ k slot, s.mixer.consumerSlots.lookup k = some slot → slot.videoPad ≠ 0
  controllers : s.mixer.SlotControllersAll offBasePlate

/-- What a step leaves alone: the callbacks, the base plate's pad, the base-plate state, the
capsfilter, the settings, the caps, and that every mixer controller is under its setting. -/
structure Untouched (s s' : Node) : Prop where
  callback : s'.callbackTimeout = s.callbackTimeout
  basePad : ∀ name, s'.mixer.videoMixer.padProperty .video 0 name =
    s.mixer.videoMixer.padProperty .video 0 name
  basePlateTimeout : s'.mixer.videoMixingState.basePlateTimeout =
    s.mixer.videoMixingState.basePlateTimeout
  showingBasePlate : s'.mixer.videoMixingState.showingBasePlate =
    s.mixer.videoMixingState.showingBasePlate
  capsfilter : s'.mixer.videoMixingState.capsfilter = s.mixer.videoMixingState.capsfilter
  settings : s'.mixer.settings = s.mixer.settings
  caps : s'.world.caps = s.world.caps
  keyed : MixerControllersKeyed s.mixer → MixerControllersKeyed s'.mixer

namespace BasePlateKept

variable {s s' : Node}

theorem noSlotControllerOn (h : BasePlateKept s) (name : String) :
    NoSlotControllerOn name s.mixer :=
  fun sc hsc k c hk hc => h.controllers true sc hsc k c hk hc.1

/-! #### The frames of the handlers -/

/-- A step that changes only slots, pipeline and aggregators keeps `sink_0` the base plate's
when it changes the compositor at one pad other than `sink_0` and adds only slots on fresh
pads with fresh bins. -/
theorem of_reslotted (h : BasePlateKept s) (hres : Mixer.Reslotted s.mixer s'.mixer)
    (hcb : s'.callbackTimeout = s.callbackTimeout) (hcaps : s'.world.caps = s.world.caps)
    (hnh : s.world.nextHandle ≤ s'.world.nextHandle) {n : Nat} (hn0 : n ≠ 0)
    (hv : Aggregator.ChangedOnlyAt n s.mixer.videoMixer s'.mixer.videoMixer)
    (hslot : ∀ k slot, s'.mixer.consumerSlots.lookup k = some slot →
      s.mixer.consumerSlots.lookup k = some slot ∨
        (slot.videoPad ≠ 0 ∧ ∀ b, slot.videoBin = some b → s.world.nextHandle ≤ b)) :
    BasePlateKept s' ∧ Untouched s s' := by
  obtain ⟨src, hsrc, hz, hbins⟩ := h.baseLinked
  refine ⟨⟨?_,
    ⟨src, lt_of_lt_of_le hsrc hnh, hv.zeroLinkedFrom hn0 hz, fun k slot hk => ?_⟩,
    lt_of_lt_of_le h.nextSerial_pos hv.1, fun k slot hk => ?_, ?_⟩,
    ⟨hcb, fun _ => hv.padProperty_eq (Ne.symm hn0) _ _, ?_, ?_, ?_, ?_, hcaps, ?_⟩⟩
  · show s'.mixer.stateMachine.state ≠ _; rw [hres]; exact h.notInitial
  · rcases hslot k slot hk with hk | ⟨-, hbin⟩
    · exact hbins k slot hk
    · exact fun hb => absurd hsrc (not_lt.2 (hbin src hb))
  · rcases hslot k slot hk with hk | ⟨hpad, -⟩
    · exact h.slotPads k slot hk
    · exact hpad
  · intro b; rw [hres]; exact h.controllers b
  all_goals (rw [hres]; try exact id)

/-- A step that changes only controllers keeps `sink_0` the base plate's when no slot
controller it leaves drives `sink_0`. -/
theorem of_recontrolled (h : BasePlateKept s) (hs' : s' = { s with mixer := s'.mixer })
    (hr : Mixer.Recontrolled s.mixer s'.mixer) (hc : s'.mixer.SlotControllersAll offBasePlate)
    (hkeyed : MixerControllersKeyed s.mixer → MixerControllersKeyed s'.mixer) :
    BasePlateKept s' ∧ Untouched s s' := by
  obtain ⟨m', w', cb'⟩ := s'
  cases hs'
  dsimp only at hr hc hkeyed ⊢
  obtain ⟨src, hsrc, hz, hbins⟩ := h.baseLinked
  refine ⟨⟨?_, ⟨src, hsrc, ?_, ?_⟩, ?_, ?_, hc⟩,
    ⟨rfl, fun _ => ?_, ?_, ?_, ?_, ?_, rfl, hkeyed⟩⟩ <;> rw [hr]
  exacts [h.notInitial, hz, hbins, h.nextSerial_pos, h.slotPads]

/-- A step that keeps the slots, the schedule, the fresh handles and how the compositor is
wired keeps `sink_0` the base plate's when no slot controller it leaves drives it. -/
theorem of_wiring (h : BasePlateKept s) (hsl : s'.mixer.consumerSlots = s.mixer.consumerSlots)
    (hsm : s'.mixer.stateMachine = s.mixer.stateMachine)
    (hnh : s'.world.nextHandle = s.world.nextHandle)
    (hw : s'.mixer.videoMixer.wiring = s.mixer.videoMixer.wiring)
    (hc : s'.mixer.SlotControllersAll offBasePlate) : BasePlateKept s' := by
  obtain ⟨src, hsrc, hz, hbins⟩ := h.baseLinked
  refine ⟨?_, ⟨src, hnh ▸ hsrc, hz.of_wiring hw, hsl ▸ hbins⟩, ?_, hsl ▸ h.slotPads,
    hc⟩
  · show s'.mixer.stateMachine.state ≠ _; rw [hsm]; exact h.notInitial
  · rw [Aggregator.nextSerial_eq_of_wiring hw]; exact h.nextSerial_pos

/-! #### One step of each kind -/

theorem connect (h : BasePlateKept s) {k : String} {vp ap : AppSink}
    {config : Option (Table Value)} {faults : SlotFaults}
    (hc : (Auteur.connect k vp ap config faults s).state? = some s') :
    BasePlateKept s' ∧ Untouched s s' := by
  obtain ⟨hres, hcb, hcaps, hnh, hv, hslots⟩ := connect_spec hc
  refine h.of_reslotted hres hcb hcaps hnh h.nextSerial_pos.ne' hv fun k' slot hk => ?_
  rcases hslots with hsl | ⟨new, hsl, hpad, hbin, -⟩
  · exact .inl (hsl ▸ hk)
  · rw [hsl] at hk
    by_cases hkk : k' = k
    · subst hkk
      simp only [AList.lookup_insert, Option.some.injEq] at hk
      exact .inr (hk ▸ ⟨hpad ▸ h.nextSerial_pos.ne', hbin⟩)
    · exact .inl (by rwa [AList.lookup_insert_ne hkk] at hk)

theorem disconnect (h : BasePlateKept s) {k : String}
    (hd : (Auteur.disconnect k s).state? = some s') : BasePlateKept s' ∧ Untouched s s' := by
  obtain ⟨hres, hcb, hcaps, hnh, hcases⟩ := disconnect_spec hd
  obtain ⟨src, -, hz, hbins⟩ := h.baseLinked
  rcases hcases with ⟨hsl, hv⟩ | ⟨slot, hslot, hsl, hv⟩
  · exact h.of_reslotted hres hcb hcaps hnh.ge one_ne_zero (hv ▸ .refl _ _)
      fun k slot hk => .inl (hsl ▸ hk)
  · -- the pad released is not `sink_0`: that one is linked from `src`, no slot's bin
    obtain ⟨n, hn0, hch⟩ : ∃ n, n ≠ 0 ∧
        Aggregator.ChangedOnlyAt n s.mixer.videoMixer s'.mixer.videoMixer := by
      rcases hv with hv | ⟨b, n, hb, hn, hv⟩
      · exact ⟨1, one_ne_zero, hv ▸ .refl _ _⟩
      · refine ⟨n, ?_, hv ▸ Aggregator.changedOnlyAt_releaseRequestPad n _⟩
        rintro rfl
        obtain ⟨p, hp, hpeer, hser⟩ := Aggregator.peerOf_eq_some hn
        have hbs : b = src := Option.some.inj (hpeer.symm.trans (hz p hp hser))
        exact hbins k slot hslot (hbs ▸ hb)
    refine h.of_reslotted hres hcb hcaps hnh.ge hn0 hch fun k' slot' hk => .inl ?_
    rw [hsl] at hk
    by_cases hkk : k' = k
    · subst hkk; simp at hk
    · rwa [AList.lookup_erase_ne hkk] at hk

theorem addSlotControlPoint (h : BasePlateKept s) {slotId property : String}
    {point : ControlPoint}
    (ha : (Auteur.addSlotControlPoint slotId property point s).state? = some s') :
    BasePlateKept s' ∧ Untouched s s' := by
  obtain ⟨hs', hr, hc, hmc⟩ := addSlotControlPoint_spec offBasePlate_of_sameRole ha
    (fun slot hslot isVideo name => by
      cases isVideo
      · simp [offBasePlate, PropertyController.new, mixOf]
      · simp [offBasePlate, PropertyController.new, mixOf, h.slotPads _ slot hslot])
    h.controllers
  exact h.of_recontrolled hs' hr hc (.of_eq hmc)

theorem removeSlotControlPoint (h : BasePlateKept s) {controllerId slotId property : String}
    (hr : (Auteur.removeSlotControlPoint controllerId slotId property s).state? = some s') :
    BasePlateKept s' ∧ Untouched s s' := by
  obtain ⟨hs', hr, hc, hmc⟩ := removeSlotControlPoint_spec offBasePlate_of_sameRole hr
    h.controllers
  exact h.of_recontrolled hs' hr hc (.of_eq hmc)

theorem addControlPoint (h : BasePlateKept s) {property : String} {point : ControlPoint}
    (ha : (Auteur.addControlPoint property point s).state? = some s') :
    BasePlateKept s' ∧ Untouched s s' := by
  obtain ⟨hs', hr, hc, hkeyed⟩ := addControlPoint_spec ha h.controllers
  exact h.of_recontrolled hs' hr hc hkeyed

theorem removeControlPoint (h : BasePlateKept s) {controllerId property : String}
    (hr : (Auteur.removeControlPoint controllerId property s).state? = some s') :
    BasePlateKept s' ∧ Untouched s s' := by
  obtain ⟨hs', hr, hc, hmc⟩ := removeControlPoint_spec offBasePlate_of_sameRole hr
    h.controllers
  exact h.of_recontrolled hs' hr hc (.of_eq hmc)

theorem setState (h : BasePlateKept s) {st : State} (hst : st ≠ .initial) :
    BasePlateKept (s.setState st) ∧ Untouched s (s.setState st) :=
  ⟨⟨by simpa using hst, h.baseLinked, h.nextSerial_pos, h.slotPads, h.controllers⟩,
    ⟨rfl, fun _ => rfl, rfl, rfl, rfl, rfl, rfl, id⟩⟩

theorem stopped (h : BasePlateKept s) : BasePlateKept (stopped s) ∧ Untouched s (stopped s) := by
  obtain ⟨src, hsrc, hz, -⟩ := h.baseLinked
  exact ⟨⟨by simp,
    ⟨src, by simpa [Auteur.stopped] using hsrc, hz, fun k slot hk => by simp at hk⟩,
    h.nextSerial_pos, fun k slot hk => by simp at hk, h.controllers⟩,
    ⟨rfl, fun _ => rfl, rfl, rfl, rfl, rfl, by simp [Auteur.stopped], id⟩⟩

/-- A compositor tick keeps how the compositor is wired, the slots, and the slot controllers
it keeps with their pads. -/
theorem videoTick (h : BasePlateKept s) {pts timeout : ClockTime} {nowSlots nowMixers : Nat}
    {hasSample : Nat → Bool}
    (hv : updateVideoMixingState pts timeout nowSlots nowMixers hasSample s = .ok s') :
    BasePlateKept s' := by
  obtain ⟨hsl, hams, hsm, -, -, hnh, -, hwire⟩ := updateVideoMixingState_frame hv
  obtain ⟨sc, sc', hsc, hsc', hkept⟩ := updateVideoMixingState_slotControllers hv
  refine h.of_wiring hsl hsm hnh (hwire .video) ?_
  rintro (_ | _) t ht k c hk
  · exact h.controllers false t (by simpa [Mixer.slotControllers, hams] using ht) k c hk
  · cases ht.symm.trans hsc'
    obtain ⟨c₀, h₀, hrole⟩ := hkept k c hk
    exact offBasePlate_of_sameRole hrole (h.controllers true sc hsc k c₀ h₀)

/-- An audiomixer tick touches no compositor pad: no audio slot controller drives `sink_0`. -/
theorem audioTick (h : BasePlateKept s) {pts : ClockTime} {now : Nat}
    (ha : updateAudioMixingState pts now s = .ok s') : BasePlateKept s' ∧ Untouched s s' := by
  obtain ⟨hsl, hvms, hsm, hset, hw, hcb, sc, sc', hsc, hsc', hkept⟩ :=
    updateAudioMixingState_frame ha
  obtain ⟨hwire, hprop⟩ := updateAudioMixingState_aggregators ha hsc
  refine ⟨h.of_wiring hsl hsm (by rw [hw]) (hwire .video) ?_,
    ⟨hcb, fun name => hprop fun k c hk hc => h.controllers false sc hsc k c hk hc.1,
      by rw [hvms], by rw [hvms], by rw [hvms], hset, by rw [hw], .of_eq (by rw [hvms])⟩⟩
  rintro (_ | _) t ht k c hk
  · cases ht.symm.trans hsc'
    obtain ⟨c₀, h₀, hrole⟩ := hkept k c hk
    exact offBasePlate_of_sameRole hrole (h.controllers false sc hsc k c₀ h₀)
  · exact h.controllers true t (by simpa [Mixer.slotControllers, hvms] using ht) k c hk

/-! #### Every step, every run -/

/-- **Every event keeps `sink_0` the base plate's pad**, and every event but a compositor
tick leaves the base plate, the settings and the caps untouched. -/
theorem step (h : BasePlateKept s) {e : Node.Event} (hs : s.step e = some s') :
    BasePlateKept s' ∧ ((∀ pts nowSlots nowMixers hasSample,
      e ≠ .videoTick pts nowSlots nowMixers hasSample) → Untouched s s') := by
  cases e with
  | videoTick =>
    obtain ⟨_, -, -, hv⟩ := Node.step_videoTick hs
    exact ⟨h.videoTick hv, fun hne => absurd rfl (hne _ _ _ _)⟩
  | start => exact absurd (Node.step_start hs).1 h.notInitial
  | connect => exact (h.connect (Node.handle_eq_some hs).2).imp_right fun hu _ => hu
  | disconnect => exact (h.disconnect (Node.handle_eq_some hs).2).imp_right fun hu _ => hu
  | addSlotControlPoint =>
    exact (h.addSlotControlPoint (Node.handle_eq_some hs).2).imp_right fun hu _ => hu
  | removeSlotControlPoint =>
    exact (h.removeSlotControlPoint (Node.handle_eq_some hs).2).imp_right fun hu _ => hu
  | addControlPoint => exact (h.addControlPoint (Node.handle_eq_some hs).2).imp_right fun hu _ => hu
  | removeControlPoint =>
    exact (h.removeControlPoint (Node.handle_eq_some hs).2).imp_right fun hu _ => hu
  | playing =>
    obtain ⟨-, rfl⟩ := Node.step_playing hs
    exact (h.setState (by decide)).imp_right fun hu _ => hu
  | endTime =>
    obtain ⟨-, rfl⟩ := Node.step_endTime hs
    exact (h.setState (by decide)).imp_right fun hu _ => hu
  | stop =>
    obtain ⟨-, rfl⟩ := Node.step_stop hs
    exact h.stopped.imp_right fun hu _ => hu
  | audioTick => exact (h.audioTick (Node.step_audioTick hs).2.2).imp_right fun hu _ => hu

theorem run : ∀ {es : List Node.Event} {s s' : Node}, BasePlateKept s → s.run es = some s' →
    BasePlateKept s'
  | [], _, _, h, hr => by cases hr; exact h
  | _ :: _, _, _, h, hr => by
    obtain ⟨s₁, h₁, hr⟩ := Option.bind_eq_some.1 hr
    exact run (h.step h₁).1 hr

end BasePlateKept

/-! ### The fallback -/

/-- The base plate follows the fallback with timeout `timeout` over the compositor ticks
`past`, newest first: the callback has that timeout, `base_plate_timeout` is the start of the
current run of base-plate-only ticks, the base plate is shown iff that run has lasted longer
than the timeout, and the `alpha` of `sink_0` says so. -/
structure FollowsFallback (timeout : Nat) (past : List (Nat × Bool)) (s : Node) : Prop where
  callback : s.callbackTimeout = some (some timeout)
  timeoutEq : s.mixer.videoMixingState.basePlateTimeout = runStart past
  showingEq : s.mixer.videoMixingState.showingBasePlate = showsBasePlate timeout past
  alphaEq : s.mixer.videoMixer.padProperty .video 0 "alpha" =
    some (alphaOf (showsBasePlate timeout past))

namespace FollowsFallback

variable {T : Nat} {past : List (Nat × Bool)} {s s' : Node}

theorem of_untouched (h : FollowsFallback T past s) (hu : Untouched s s') :
    FollowsFallback T past s' :=
  ⟨hu.callback.trans h.callback, hu.basePlateTimeout.trans h.timeoutEq,
    hu.showingBasePlate.trans h.showingEq, (hu.basePad "alpha").trans h.alphaEq⟩

/-- A compositor tick with pts `pts`, no earlier than the ticks before it, follows the fallback
one tick further. -/
theorem videoTick (hk : BasePlateKept s) (h : FollowsFallback T past s) {pts : Nat}
    {nowSlots nowMixers : Nat} {hasSample : Nat → Bool}
    (hv : updateVideoMixingState (some pts) (some T) nowSlots nowMixers hasSample s = .ok s')
    (hmono : ∀ x ∈ past, x.1 ≤ pts) :
    FollowsFallback T ((pts, !s.mixer.videoMixer.basePlateOnly hasSample) :: past) s' := by
  obtain ⟨-, -, -, hcb, -⟩ := updateVideoMixingState_frame hv
  obtain ⟨htime, hshow⟩ := updateVideoMixingState_fallback hv
  have hfol := @updateBasePlate_follows T pts (!s.mixer.videoMixer.basePlateOnly hasSample) past
    s.mixer.videoMixer s.mixer.videoMixingState h.timeoutEq h.showingEq hmono
  rw [Bool.not_not] at hfol
  refine ⟨hcb.trans h.callback, htime.trans hfol.1, hshow.trans hfol.2, ?_⟩
  rw [updateVideoMixingState_alpha hv (hk.noSlotControllerOn "alpha"),
    updateBasePlate_alpha (Aggregator.staticPad_isSome_of_padProperty h.alphaEq)
      (by rw [h.showingEq]; exact h.alphaEq), hfol.2]

/-- **Every event keeps the base plate on the fallback**, the tick it is included, when a
compositor tick carries a pts no earlier than those before it. -/
theorem step (hk : BasePlateKept s) (h : FollowsFallback T past s) {e : Node.Event}
    (hs : s.step e = some s') (he : e.Timed)
    (hmono : ∀ y ∈ s.tickOf e, ∀ x ∈ past, x.1 ≤ y.1) :
    FollowsFallback T (s.tickOf e ++ past) s' := by
  cases e with
  | videoTick pts =>
    cases pts with
    | none => exact he.elim
    | some pts =>
      obtain ⟨timeout, hcb, -, hv⟩ := Node.step_videoTick hs
      rw [h.callback] at hcb
      cases hcb
      exact h.videoTick hk hv (hmono _ (.head _))
  | _ => exact h.of_untouched ((hk.step hs).2 nofun)

/-- **Every run keeps the base plate on the fallback**, over the ticks it adds, when its
compositor ticks carry pts in order. -/
theorem run : ∀ {es : List Node.Event} {past : List (Nat × Bool)} {s s' : Node},
    BasePlateKept s → FollowsFallback T past s → s.run es = some s' →
      (∀ e ∈ es, e.Timed) →
      (s.videoTicks es ++ past).Pairwise (fun newer older => older.1 ≤ newer.1) →
      FollowsFallback T (s.videoTicks es ++ past) s'
  | [], _, _, _, _, h, hr, _, _ => by cases hr; exact h
  | e :: es, past, s, s', hk, h, hr, ht, hsort => by
    obtain ⟨s₁, h₁, hr⟩ := Option.bind_eq_some.1 hr
    have hticks : s.videoTicks (e :: es) = s₁.videoTicks es ++ s.tickOf e := by
      simp [Node.videoTicks, h₁]
    rw [hticks, List.append_assoc] at hsort ⊢
    have hmono : ∀ y ∈ s.tickOf e, ∀ x ∈ past, x.1 ≤ y.1 :=
      (List.pairwise_append.1 (List.pairwise_append.1 hsort).2.1).2.2
    exact run (hk.step h₁).1 (h.step hk h₁ (ht e (.head _)) hmono) hr
      (fun e he => ht e (.tail _ he)) hsort

end FollowsFallback

/-! ### The output size -/

/-- The output size follows the `width` and `height` settings: the capsfilter is installed,
the settings, its caps and the base plate's pad agree, and every mixer controller is stored
under the name of its setting. -/
structure SizeFollowsSettings (s : Node) : Prop where
  synced : ∃ cf, s.mixer.videoMixingState.capsfilter = some cf ∧
    SizeSynced s.mixer (s.world.caps cf)
  keyed : MixerControllersKeyed s.mixer

namespace SizeFollowsSettings

variable {s s' : Node}

theorem of_untouched (h : SizeFollowsSettings s) (hu : Untouched s s') :
    SizeFollowsSettings s' := by
  obtain ⟨cf, hcf, hsync⟩ := h.synced
  refine ⟨⟨cf, hu.capsfilter.trans hcf, fun name hname => ?_⟩, hu.keyed h.keyed⟩
  obtain ⟨v, h1, h2, h3⟩ := hsync name hname
  exact ⟨v, by rwa [Mixer.settingI32, hu.settings], by rwa [hu.caps],
    (hu.basePad name).trans h3⟩

/-- **Every event keeps the output size on the settings.** -/
theorem step (hk : BasePlateKept s) (h : SizeFollowsSettings s) {e : Node.Event}
    (hs : s.step e = some s') : SizeFollowsSettings s' := by
  cases e with
  | videoTick =>
    obtain ⟨_, -, -, hv⟩ := Node.step_videoTick hs
    obtain ⟨-, -, -, -, -, -, hcap, -⟩ := updateVideoMixingState_frame hv
    obtain ⟨cf, hcf, hsync⟩ := h.synced
    exact ⟨⟨cf, hcap.trans hcf, updateVideoMixingState_sizeSynced hv hcf h.keyed
      (hk.noSlotControllerOn _) (hk.noSlotControllerOn _) hsync⟩,
      updateVideoMixingState_mixerControllersKeyed hv h.keyed⟩
  | _ => exact h.of_untouched ((hk.step hs).2 nofun)

theorem run : ∀ {es : List Node.Event} {s s' : Node}, BasePlateKept s →
    SizeFollowsSettings s → s.run es = some s' → SizeFollowsSettings s'
  | [], _, _, _, h, hr => by cases hr; exact h
  | _ :: _, _, _, hk, h, hr => by
    obtain ⟨s₁, h₁, hr⟩ := Option.bind_eq_some.1 hr
    exact run (hk.step h₁).1 (h.step hk h₁) hr

end SizeFollowsSettings

/-! ### The start -/

/-- A node ready for a clean start: no slot and no compositor pad yet, none ever requested, no
run of base-plate-only ticks, the base plate hidden, no callback installed, no slot
controller on `sink_0`, and every mixer controller under its setting's name. -/
structure CleanStart (s : Node) : Prop where
  noSlots : s.mixer.consumerSlots.entries = []
  noPads : s.mixer.videoMixer.pads = []
  noSerial : s.mixer.videoMixer.nextSerial = 0
  noRun : s.mixer.videoMixingState.basePlateTimeout = none
  hidden : s.mixer.videoMixingState.showingBasePlate = false
  noCallbacks : s.callbackTimeout = none
  controllers : s.mixer.SlotControllersAll offBasePlate
  keyed : MixerControllersKeyed s.mixer

namespace CleanStart

variable {s s' : Node}

theorem lookup_eq_none (h : CleanStart s) (k : String) : s.mixer.consumerSlots.lookup k = none := by
  simp [AList.lookup, h.noSlots]

/-- A mixer `Mixer::new` builds is ready for a clean start. -/
theorem of_new {id : String} {config : Option (Table Value)} {w : World}
    (h : Mixer.new id config w = .ok s) : CleanStart s := by
  unfold Mixer.new at h
  dsimp only [World.make] at h
  split at h
  · cases h
  · cases h
    refine ⟨rfl, rfl, rfl, rfl, rfl, rfl, ?_, ?_⟩
    · rintro (_ | _) sc hsc k c hk <;> cases hsc <;> cases hk
    · rintro _ ⟨⟩ k c hk; cases hk

theorem of_recontrolled (h : CleanStart s) (hs' : s' = { s with mixer := s'.mixer })
    (hr : Mixer.Recontrolled s.mixer s'.mixer) (hc : s'.mixer.SlotControllersAll offBasePlate)
    (hkeyed : MixerControllersKeyed s'.mixer) : CleanStart s' := by
  obtain ⟨m', w', cb'⟩ := s'
  cases hs'
  dsimp only at hr hc hkeyed
  refine ⟨?_, ?_, ?_, ?_, ?_, h.noCallbacks, hc, hkeyed⟩ <;> rw [hr]
  exacts [h.noSlots, h.noPads, h.noSerial, h.noRun, h.hidden]

/-- Every event but a connect and the start keeps a node ready for a clean start. -/
theorem step (h : CleanStart s) {e : Node.Event} (he : e.connectsOrStarts = false)
    (hs : s.step e = some s') : CleanStart s' := by
  cases e with
  | connect => cases he
  | start => cases he
  | disconnect k =>
    obtain ⟨hres, hcb, -, -, hcases⟩ := disconnect_spec (Node.handle_eq_some hs).2
    rcases hcases with ⟨hsl, hv⟩ | ⟨slot, hslot, -⟩
    · refine ⟨hsl ▸ h.noSlots, hv ▸ h.noPads, hv ▸ h.noSerial, ?_, ?_,
        hcb.trans h.noCallbacks, ?_, ?_⟩
      · rw [hres]; exact h.noRun
      · rw [hres]; exact h.hidden
      · intro b; rw [hres]; exact h.controllers b
      · rw [MixerControllersKeyed, hres]; exact h.keyed
    · simp [h.lookup_eq_none] at hslot
  | addSlotControlPoint =>
    obtain ⟨hs', hr, hc, hmc⟩ := addSlotControlPoint_spec offBasePlate_of_sameRole
      (Node.handle_eq_some hs).2 (fun slot hslot => by simp [h.lookup_eq_none] at hslot)
      h.controllers
    exact h.of_recontrolled hs' hr hc (.of_eq hmc h.keyed)
  | removeSlotControlPoint =>
    obtain ⟨hs', hr, hc, hmc⟩ := removeSlotControlPoint_spec offBasePlate_of_sameRole
      (Node.handle_eq_some hs).2 h.controllers
    exact h.of_recontrolled hs' hr hc (.of_eq hmc h.keyed)
  | addControlPoint =>
    obtain ⟨hs', hr, hc, hkeyed⟩ :=
      addControlPoint_spec (Node.handle_eq_some hs).2 h.controllers
    exact h.of_recontrolled hs' hr hc (hkeyed h.keyed)
  | removeControlPoint =>
    obtain ⟨hs', hr, hc, hmc⟩ := removeControlPoint_spec offBasePlate_of_sameRole
      (Node.handle_eq_some hs).2 h.controllers
    exact h.of_recontrolled hs' hr hc (.of_eq hmc h.keyed)
  | playing =>
    obtain ⟨-, rfl⟩ := Node.step_playing hs
    exact ⟨h.noSlots, h.noPads, h.noSerial, h.noRun, h.hidden, h.noCallbacks, h.controllers,
      h.keyed⟩
  | endTime =>
    obtain ⟨-, rfl⟩ := Node.step_endTime hs
    exact ⟨h.noSlots, h.noPads, h.noSerial, h.noRun, h.hidden, h.noCallbacks, h.controllers,
      h.keyed⟩
  | stop =>
    obtain ⟨-, rfl⟩ := Node.step_stop hs
    exact ⟨rfl, h.noPads, h.noSerial, h.noRun, h.hidden, h.noCallbacks, h.controllers, h.keyed⟩
  | videoTick =>
    obtain ⟨_, hcb, -⟩ := Node.step_videoTick hs
    simp [h.noCallbacks] at hcb
  | audioTick =>
    have := (Node.step_audioTick hs).1
    simp [h.noCallbacks] at this

theorem run : ∀ {es : List Node.Event} {s s' : Node}, CleanStart s →
    (∀ e ∈ es, e.connectsOrStarts = false) → s.run es = some s' → CleanStart s'
  | [], _, _, h, _, hr => by cases hr; exact h
  | e :: _, _, _, h, he, hr => by
    obtain ⟨s₁, h₁, hr⟩ := Option.bind_eq_some.1 hr
    exact run (h.step (he e (.head _)) h₁) (fun e' he' => he e' (.tail _ he')) hr

end CleanStart

/-- What `start_pipeline` leaves of a node ready for a clean start: the base plate on the
compositor's first pad, `sink_0`, linked from the base plate's queue and sized by the
settings, the output capsfilter installed with those sizes, and the callbacks installed
with the `fallback-timeout` setting. -/
theorem startPipeline_clean {s r : Node} {faults : StartFaults} (hc : CleanStart s)
    (h : startPipeline faults s = .ok r) :
    ∃ width height timeout src cf, s.mixer.settingI32 "width" = some width ∧
      s.mixer.settingI32 "height" = some height ∧
      s.mixer.settingI32 "fallback-timeout" = some timeout ∧
      r.callbackTimeout = some (some (timeout.toNat * ClockTime.msecond)) ∧
      r.mixer.videoMixer = placeBasePlate width height
        ⟨s.mixer.videoMixer.element, [⟨0, some src, ∅⟩], 1⟩ ∧
      src < r.world.nextHandle ∧
      r.mixer.videoMixingState = { s.mixer.videoMixingState with capsfilter := some cf } ∧
      r.world.caps cf = videoCaps width height ∧ r.mixer.consumerSlots = s.mixer.consumerSlots ∧
      r.mixer.audioMixingState = s.mixer.audioMixingState ∧
      r.mixer.settings = s.mixer.settings := by
  unfold startPipeline at h
  split at h
  · rename_i width height _ _ hw hh _ _
    iterate 5 replace h := startCall_ok h
    split at h
    · cases h
    · iterate 2 replace h := startCall_ok h
      dsimp only at h
      rw [hc.noSlots] at h
      simp only [connectSlots, Outcome.ok_bind] at h
      split at h
      · cases h
      · rename_i timeout ht
        cases h
        -- the base plate's queue is linked to the compositor's first pad, `sink_0`
        have hlink := linkFrom_of_pads_nil hc.noPads (s.world.nextHandle + 1)
        rw [hc.noSerial] at hlink
        exact ⟨width, height, timeout, _, _, hw, hh, ht, rfl, by rw [hlink], by simp, rfl,
          by simp [World.setCaps], rfl, rfl, rfl⟩
  · cases h

/-- A mixer `Mixer::new` built, taken through events that neither connect a slot nor start,
and then started successfully. -/
def StartedClean (s₁ : Node) : Prop :=
  ∃ (id : String) (config : Option (Table Value)) (w : World) (s₀ sₚ : Node)
    (pre : List Node.Event) (faults : StartFaults), Mixer.new id config w = .ok s₀ ∧
    s₀.run pre = some sₚ ∧ (∀ e ∈ pre, e.connectsOrStarts = false) ∧
    sₚ.step (.start faults) = some s₁ ∧ s₁.state = .starting

/-- After a clean start `sink_0` is the base plate's pad, the output size follows the settings,
and the base plate follows the fallback over no tick yet, with the `fallback-timeout`
setting. -/
theorem StartedClean.invariants {s₁ : Node} (h : StartedClean s₁) :
    BasePlateKept s₁ ∧ SizeFollowsSettings s₁ ∧ ∃ timeout,
      s₁.mixer.settingI32 "fallback-timeout" = some timeout ∧
      FollowsFallback (timeout.toNat * ClockTime.msecond) [] s₁ := by
  obtain ⟨id, config, w, s₀, sₚ, pre, faults, hnew, hpre, hquiet, hstart, hok⟩ := h
  have hc := (CleanStart.of_new hnew).run hquiet hpre
  rcases (Node.step_start hstart).2 with ⟨r, hr, rfl⟩ | ⟨r, e, -, rfl⟩
  · obtain ⟨width, height, timeout, src, cf, hw, hh, ht, hcb, hvm, hsrc, hvms, hcaps, hsl, hams,
      hset⟩ := startPipeline_clean hc hr
    have h0 : (Aggregator.staticPad 0
        ⟨sₚ.mixer.videoMixer.element, [⟨0, some src, ∅⟩], 1⟩).isSome := rfl
    have hnone : ∀ k, r.mixer.consumerSlots.lookup k = none := fun k =>
      hsl ▸ hc.lookup_eq_none k
    have hsetting : ∀ name, r.mixer.settingI32 name = sₚ.mixer.settingI32 name := fun name => by
      rw [Mixer.settingI32, Mixer.settingI32, hset]
    refine ⟨⟨by simp,
      ⟨src, hsrc, ?_, fun k slot hk => by simp [Node.setState, hnone] at hk⟩,
      ?_, fun k slot hk => by simp [Node.setState, hnone] at hk,
      fun b sc hb => hc.controllers b sc ?_⟩,
      ⟨⟨cf, by simp [Node.setState, hvms], ?_⟩, fun mc hmc => hc.keyed mc ?_⟩,
      ⟨timeout, (hsetting _).trans ht, hcb, ?_, ?_, ?_⟩⟩
    · show r.mixer.videoMixer.ZeroLinkedFrom src
      rw [hvm]
      refine .of_wiring (fun p hp _ => ?_) (placeBasePlate_wiring _ _ _)
      simp only [List.mem_singleton] at hp
      rw [hp]
    · show 0 < r.mixer.videoMixer.nextSerial
      rw [hvm]; exact Nat.one_pos
    · cases b <;> simpa [Node.setState, Mixer.slotControllers, hvms, hams] using hb
    · show SizeSynced r.mixer (r.world.caps cf)
      rintro name (rfl | rfl)
      · exact ⟨width, (hsetting _).trans hw,
          by rw [hcaps, videoCaps, AList.lookup_insert_ne (by decide), AList.lookup_insert],
          by simp [hvm, placeBasePlate, h0]⟩
      · exact ⟨height, (hsetting _).trans hh, by rw [hcaps, videoCaps, AList.lookup_insert],
          by simp [hvm, placeBasePlate, h0]⟩
    · simpa [Node.setState, hvms] using hmc
    · show r.mixer.videoMixingState.basePlateTimeout = _; rw [hvms]; exact hc.noRun
    · show r.mixer.videoMixingState.showingBasePlate = _; rw [hvms]; exact hc.hidden
    · show r.mixer.videoMixer.padProperty .video 0 "alpha" = _
      rw [hvm, placeBasePlate_alpha h0]; rfl
  · simp at hok

/-! ### Every run after a clean start -/

section StartedClean

variable {s₁ s : Node} {es : List Node.Event}

/-- **After a clean start `sink_0` stays the base plate's pad on every run**: no slot holds it
and no slot controller drives any of its properties. -/
theorem sink0_stays_base_plate (h₁ : StartedClean s₁) (hrun : s₁.run es = some s) :
    (∀ k slot, s.mixer.consumerSlots.lookup k = some slot → slot.videoPad ≠ 0) ∧
      s.mixer.SlotControllersAll offBasePlate := by
  have hk := h₁.invariants.1.run hrun
  exact ⟨hk.slotPads, hk.controllers⟩

/-- After a clean start, a slot connected, given a controller on its video `alpha` and
disconnected holds no `sink_0`, and its controller drives no property of `sink_0`. -/
theorem sink0_stays_base_plate_after_disconnect :
    ∃ s₁ s, StartedClean s₁ ∧
      s₁.run [.playing, .connect "a" 100 101 none SlotFaults.none,
        .addSlotControlPoint "a" "video::alpha" ⟨"p", 0, .float 1, .none⟩, .disconnect "a"] =
        some s ∧
      (∀ k slot, s.mixer.consumerSlots.lookup k = some slot → slot.videoPad ≠ 0) ∧
      s.mixer.SlotControllersAll offBasePlate := by
  have h₁ : StartedClean _ :=
    ⟨"m", none, World.empty, _, _, [], StartFaults.none, rfl, rfl, nofun, rfl, rfl⟩
  exact ⟨_, _, h₁, rfl, @sink0_stays_base_plate _ _ [.playing, .connect "a" 100 101 none
    SlotFaults.none, .addSlotControlPoint "a" "video::alpha" ⟨"p", 0, .float 1, .none⟩,
    .disconnect "a"] h₁ rfl⟩

/-- **The base plate follows the fallback on every run after a clean start** whose compositor
ticks carry pts in order: `base_plate_timeout`, `showing_base_plate` and the `alpha` of
`sink_0` are those of the fallback over the ticks since the start, with the timeout of the
`fallback-timeout` setting as `start_pipeline` read it into the callback: the setting stays
controllable afterwards, and the callback keeps the value it captured. -/
theorem base_plate_follows_fallback (h₁ : StartedClean s₁) (hrun : s₁.run es = some s)
    (htimed : ∀ e ∈ es, e.Timed)
    (hpts : (s₁.videoTicks es).Pairwise fun newer older => older.1 ≤ newer.1) :
    ∃ timeout, s₁.mixer.settingI32 "fallback-timeout" = some timeout ∧
      s.mixer.videoMixingState.basePlateTimeout = runStart (s₁.videoTicks es) ∧
      s.mixer.videoMixingState.showingBasePlate =
        showsBasePlate (timeout.toNat * ClockTime.msecond) (s₁.videoTicks es) ∧
      s.mixer.videoMixer.padProperty .video 0 "alpha" =
        some (alphaOf
          (showsBasePlate (timeout.toNat * ClockTime.msecond) (s₁.videoTicks es))) := by
  obtain ⟨hk, -, timeout, ht, hf⟩ := h₁.invariants
  have hf' := hf.run hk hrun htimed (by rwa [List.append_nil])
  rw [List.append_nil] at hf'
  exact ⟨timeout, ht, hf'.timeoutEq, hf'.showingEq, hf'.alphaEq⟩

/-- A fresh mixer started at once, whose compositor sees only the base plate for 600 ms: the
base plate is shown from the second tick on. -/
theorem base_plate_follows_fallback_shown :
    ∃ s₁ s, StartedClean s₁ ∧
      s₁.run [.playing, .videoTick (some 0) 0 0 (fun _ => false),
        .videoTick (some 600000000) 0 0 (fun _ => false)] = some s ∧
      s.mixer.videoMixingState.showingBasePlate = true ∧
      ∃ timeout, s₁.mixer.settingI32 "fallback-timeout" = some timeout ∧
        s.mixer.videoMixingState.basePlateTimeout = runStart [(600000000, false), (0, false)] ∧
        s.mixer.videoMixingState.showingBasePlate =
          showsBasePlate (timeout.toNat * ClockTime.msecond) [(600000000, false), (0, false)] ∧
        s.mixer.videoMixer.padProperty .video 0 "alpha" = some (alphaOf (showsBasePlate
          (timeout.toNat * ClockTime.msecond) [(600000000, false), (0, false)])) := by
  have h₁ : StartedClean _ :=
    ⟨"m", none, World.empty, _, _, [], StartFaults.none, rfl, rfl, nofun, rfl, rfl⟩
  exact ⟨_, _, h₁, rfl, rfl, @base_plate_follows_fallback _ _ [.playing,
    .videoTick (some 0) 0 0 (fun _ => false), .videoTick (some 600000000) 0 0 (fun _ => false)]
    h₁ rfl (by simp [Node.Event.Timed]) (by decide)⟩

/-- **The output size follows the settings on every run after a clean start**: the `width`
and `height` settings, the output capsfilter's caps and the base plate's pad agree. -/
theorem output_size_follows_settings (h₁ : StartedClean s₁) (hrun : s₁.run es = some s) :
    ∃ cf, s.mixer.videoMixingState.capsfilter = some cf ∧
      SizeSynced s.mixer (s.world.caps cf) := by
  obtain ⟨hk, hsize, -⟩ := h₁.invariants
  exact (hsize.run hk hrun).synced

/-- After a clean start, a point of the `width` controller applied by a compositor tick
resizes the setting, and with it the output caps and the base plate's pad. -/
theorem output_size_follows_settings_resized :
    ∃ s₁ s, StartedClean s₁ ∧
      s₁.run [.playing, .addControlPoint "width" ⟨"p", 0, .int 640, .none⟩,
        .videoTick (some 0) 0 0 (fun _ => false)] = some s ∧
      s.mixer.settingI32 "width" = some 640 ∧
      ∃ cf, s.mixer.videoMixingState.capsfilter = some cf ∧
        SizeSynced s.mixer (s.world.caps cf) := by
  have h₁ : StartedClean _ :=
    ⟨"m", none, World.empty, _, _, [], StartFaults.none, rfl, rfl, nofun, rfl, rfl⟩
  exact ⟨_, _, h₁, rfl, rfl, @output_size_follows_settings _ _ [.playing,
    .addControlPoint "width" ⟨"p", 0, .int 640, .none⟩,
    .videoTick (some 0) 0 0 (fun _ => false)] h₁ rfl⟩

end StartedClean

end Auteur
