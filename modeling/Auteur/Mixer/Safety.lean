import Auteur.Mixer.Wiring
import Auteur.Mixer.Invariants

/-!
No request and no callback kills the mixer actor.

A handler that panics ends the actor (`Node.step` has no successor).  The `unwrap`s of the
mixer's handlers hold on every node a run can reach, and those of the two callbacks on every
run after a clean start:

* `Sound` — the slots wired (`Wired`), the settings typed (`SettingsTyped`), the controller
  maps there (`ControllersPresent`) and every mixer controller under its setting's name;
  `Sound.step` — every event keeps it; `Node.Reachable.sound` — every reachable node has it;
* `slots_hold_their_own_pads`, `disconnect_releases_built_pads` — what the wiring gives on
  every reachable node: each slot on pads of its own, its bins linked to them, and
  `disconnect` releasing the pads of the slot's bins and no other;
* `requests_never_panic` — on every reachable node that is not stopped, every request has a
  successor;
* `audio_tick_never_panics` — so has every audiomixer tick once the callbacks are installed;
* `clean_start_never_panics` — a mixer started with no slot connected before runs
  `start_pipeline` to its end;
* `ticks_never_panic_after_clean_start` — and after such a start both callbacks return on
  every run: `sink_0` stays there, and the `width` and `height` settings stay `i32`s;
* `controller_loops_drain` — the two synchronize functions keep exactly the controllers that
  are not done, each ticked once, and every reachable node holds both controller maps, with
  every mixer controller on a setting the mixer has (`Node.Reachable.mixerControllersSet`).

Design notes: the start is the one step that can panic on a reachable node:
`connect_before_start_takes_base_plate_pad` is a run where it does.  The compositor's
callback needs `sink_0`, which the base plate holds after a clean start
(`output_size_follows_settings`).
-/

namespace Auteur

/-! ### Every reachable node -/

/-- What every reachable node of the mixer satisfies: its slots wired, its settings typed,
its controller maps there, and every mixer controller under its setting's name. -/
structure Sound (s : Node) : Prop where
  wired : Wired s
  typed : SettingsTyped s.mixer.settings
  present : ControllersPresent s.mixer
  keyed : MixerControllersKeyed s.mixer

namespace Sound

variable {s s' : Node}

theorem of_kept (h : Sound s) (hk : Mixer.Kept s.mixer s'.mixer) (hw : Wired s') : Sound s' :=
  ⟨hw, hk.settings ▸ h.typed, h.present.of_kept hk, .of_eq hk.mixerControllers h.keyed⟩

theorem of_recontrolled (h : Sound s) (hs' : s' = { s with mixer := s'.mixer })
    (hr : Mixer.Recontrolled s.mixer s'.mixer) (hp : ControllersPresent s'.mixer)
    (hk : MixerControllersKeyed s'.mixer) : Sound s' := by
  obtain ⟨m', w', cb'⟩ := s'
  cases hs'
  dsimp only at hr hp hk ⊢
  refine ⟨h.wired.grow (.of_wiring ?_ rfl ?_ fun mix => ?_), ?_, hp, hk⟩ <;> rw [hr]
  · cases mix <;> rfl
  · exact h.typed

theorem setState (h : Sound s) (st : State) : Sound (s.setState st) :=
  h.of_kept ⟨rfl, fun _ => rfl, rfl⟩ (h.wired.grow (.of_wiring rfl rfl rfl fun _ => rfl))

theorem stopped (h : Sound s) : Sound (stopped s) :=
  h.of_kept ⟨rfl, fun _ => rfl, rfl⟩
    (.of_noSlots (fun _ => by simp) fun mix => by simpa [Auteur.stopped] using h.wired.fresh mix)

/-- A mixer `Mixer::new` builds is sound. -/
theorem of_new {id : String} {config : Option (Table Value)} {w : World}
    (h : Mixer.new id config w = .ok s) : Sound s := by
  have hkeyed := (CleanStart.of_new h).keyed
  unfold Mixer.new at h
  dsimp only [World.make] at h
  split at h
  · cases h
  · rename_i settings hset
    cases h
    refine ⟨.of_noSlots (fun _ => rfl) fun mix => ?_, .configureSettings _ .createSettings hset,
      ⟨fun b => by cases b <;> rfl, rfl⟩, hkeyed⟩
    cases mix <;> exact ⟨List.nodup_nil, nofun, nofun⟩

/-- **Every event keeps a node sound.** -/
theorem step (h : Sound s) {e : Node.Event} (hs : s.step e = some s') : Sound s' := by
  cases e with
  | connect =>
    have hc := (Node.handle_eq_some hs).2
    exact h.of_kept (connect_spec hc).1.kept (h.wired.connect hc)
  | disconnect =>
    have hc := (Node.handle_eq_some hs).2
    exact h.of_kept (disconnect_spec hc).1.kept (h.wired.disconnect hc)
  | addSlotControlPoint =>
    have hc := (Node.handle_eq_some hs).2
    obtain ⟨hs', hr, -, hmc⟩ := addSlotControlPoint_spec (P := fun _ => True)
      (fun _ _ => trivial) hc (fun _ _ _ _ => trivial) (fun _ _ _ _ _ _ => trivial)
    exact h.of_recontrolled hs' hr (h.present.addSlotControlPoint hc) (.of_eq hmc h.keyed)
  | removeSlotControlPoint =>
    have hc := (Node.handle_eq_some hs).2
    obtain ⟨hs', hr, -, hmc⟩ := removeSlotControlPoint_spec (P := fun _ => True)
      (fun _ _ => trivial) hc (fun _ _ _ _ _ _ => trivial)
    exact h.of_recontrolled hs' hr (h.present.removeSlotControlPoint hc) (.of_eq hmc h.keyed)
  | addControlPoint =>
    have hc := (Node.handle_eq_some hs).2
    obtain ⟨hs', hr, -, hkeyed⟩ := addControlPoint_spec (P := fun _ => True) hc
      (fun _ _ _ _ _ _ => trivial)
    exact h.of_recontrolled hs' hr (h.present.addControlPoint hc) (hkeyed h.keyed)
  | removeControlPoint =>
    have hc := (Node.handle_eq_some hs).2
    obtain ⟨hs', hr, -, hmc⟩ := removeControlPoint_spec (P := fun _ => True)
      (fun _ _ => trivial) hc (fun _ _ _ _ _ _ => trivial)
    exact h.of_recontrolled hs' hr (h.present.removeControlPoint hc) (.of_eq hmc h.keyed)
  | start =>
    rcases (Node.step_start hs).2 with ⟨r, hr, rfl⟩ | ⟨r, e, hr, rfl⟩
    · obtain ⟨hw, hk⟩ := h.wired.startPipeline r (by rw [hr]; rfl)
      exact (h.of_kept hk hw).setState _
    · obtain ⟨hw, hk⟩ := h.wired.startPipeline r (by rw [hr]; rfl)
      exact (h.of_kept hk hw).stopped
  | playing =>
    obtain ⟨-, rfl⟩ := Node.step_playing hs
    exact h.setState _
  | endTime =>
    obtain ⟨-, rfl⟩ := Node.step_endTime hs
    exact h.setState _
  | stop =>
    obtain ⟨-, rfl⟩ := Node.step_stop hs
    exact h.stopped
  | videoTick =>
    obtain ⟨_, -, -, hv⟩ := Node.step_videoTick hs
    obtain ⟨hsl, -, -, -, -, hnh, -, hwire⟩ := updateVideoMixingState_frame hv
    exact ⟨h.wired.grow (.of_wiring hsl hnh (updateVideoMixingState_pipeline hv) hwire),
      updateVideoMixingState_settingsTyped hv h.typed, updateVideoMixingState_present hv h.present,
      updateVideoMixingState_mixerControllersKeyed hv h.keyed⟩
  | audioTick =>
    have ha := (Node.step_audioTick hs).2.2
    obtain ⟨hsl, hvms, -, hset, hw, -, -⟩ := updateAudioMixingState_frame ha
    obtain ⟨sc, hsc⟩ := Option.isSome_iff_exists.1 (h.present.slot false)
    exact ⟨h.wired.grow (.of_wiring hsl (by rw [hw]) (updateAudioMixingState_pipeline ha)
      (updateAudioMixingState_aggregators ha hsc).1), hset ▸ h.typed,
      updateAudioMixingState_present ha h.present, .of_eq (by rw [hvms]) h.keyed⟩

end Sound

/-- **Every reachable node of the mixer is sound.** -/
theorem Node.Reachable.sound {s : Node} (h : Node.Reachable s) : Sound s := by
  induction h with
  | new h => exact .of_new h
  | step _ hs ih => exact ih.step hs

/-- **Every slot holds its own pads, on every reachable node**: no two slots share a request
pad of the compositor or of the audiomixer, and every bin a slot has built is in the pipeline
and linked to that slot's pad, so `disconnect` releases the slot's own pad through it. -/
theorem slots_hold_their_own_pads {s : Node} (h : Node.Reachable s) :
    (∀ k k' slot slot' mix, s.mixer.consumerSlots.lookup k = some slot →
      s.mixer.consumerSlots.lookup k' = some slot' → slot.pad mix = slot'.pad mix → k = k') ∧
    ∀ k slot mix b, s.mixer.consumerSlots.lookup k = some slot → slot.bin mix = some b →
      b ∈ s.mixer.pipeline ∧ (s.mixer.aggregator mix).peerOf b = some (slot.pad mix) :=
  ⟨h.sound.wired.padInj, h.sound.wired.linked⟩

/-- Two slots connected to a started mixer hold their own pads. -/
theorem slots_hold_their_own_pads_after_two_connects :
    ∃ s₀ s, Mixer.new "m" none World.empty = .ok s₀ ∧
      s₀.run [.start StartFaults.none, .playing, .connect "a" 100 101 none SlotFaults.none,
        .connect "b" 100 101 none SlotFaults.none] = some s ∧
      (∀ k k' slot slot' mix, s.mixer.consumerSlots.lookup k = some slot →
        s.mixer.consumerSlots.lookup k' = some slot' → slot.pad mix = slot'.pad mix → k = k') ∧
      ∀ k slot mix b, s.mixer.consumerSlots.lookup k = some slot → slot.bin mix = some b →
        b ∈ s.mixer.pipeline ∧ (s.mixer.aggregator mix).peerOf b = some (slot.pad mix) :=
  ⟨_, _, rfl, rfl, slots_hold_their_own_pads (@Node.Reachable.run _ _
    (@Node.Reachable.new "m" none World.empty _ rfl) [.start StartFaults.none, .playing,
      .connect "a" 100 101 none SlotFaults.none, .connect "b" 100 101 none SlotFaults.none] rfl)⟩

/-- **`disconnect` releases the pads of the slot's bins, and only those**, on every reachable
node: the slot is erased, and on each aggregator the slot's own request pad is released if the
slot has a bin there and kept if it has none; every other pad stays as it was. -/
theorem disconnect_releases_built_pads {s s' : Node} (h : Node.Reachable s) {k : String}
    {slot : ConsumerSlot} (hk : s.mixer.consumerSlots.lookup k = some slot)
    (hd : (disconnect k s).state? = some s') :
    s'.mixer.consumerSlots = s.mixer.consumerSlots.erase k ∧
      ∀ mix n, (s'.mixer.aggregator mix).staticPad n =
        if (slot.bin mix).isSome ∧ n = slot.pad mix then none
        else (s.mixer.aggregator mix).staticPad n :=
  h.sound.wired.disconnect_released hk hd

/-- A slot connected to a started mixer and disconnected gives back both its pads. -/
theorem disconnect_releases_built_pads_after_start :
    ∃ s₀ s s' slot, Mixer.new "m" none World.empty = .ok s₀ ∧
      s₀.run [.start StartFaults.none, .playing, .connect "a" 100 101 none SlotFaults.none] =
        some s ∧
      s.mixer.consumerSlots.lookup "a" = some slot ∧ (disconnect "a" s).state? = some s' ∧
      s'.mixer.consumerSlots = s.mixer.consumerSlots.erase "a" ∧
      ∀ mix n, (s'.mixer.aggregator mix).staticPad n =
        if (slot.bin mix).isSome ∧ n = slot.pad mix then none
        else (s.mixer.aggregator mix).staticPad n :=
  ⟨_, _, _, _, rfl, rfl, rfl, rfl, disconnect_releases_built_pads (@Node.Reachable.run _ _
    (@Node.Reachable.new "m" none World.empty _ rfl) [.start StartFaults.none, .playing,
      .connect "a" 100 101 none SlotFaults.none] rfl) rfl rfl⟩

/-! ### Every mixer controller's setting is there -/

namespace MixerControllersSet

variable {s s' : Node}

/-- `Mixer::new` starts with no mixer controller. -/
theorem of_new {id : String} {config : Option (Table Value)} {w : World}
    (h : Mixer.new id config w = .ok s) : MixerControllersSet s.mixer := by
  unfold Mixer.new at h
  dsimp only [World.make] at h
  split at h
  · cases h
  · cases h
    rintro _ ⟨⟩ k c hk
    cases hk

/-- Every event of a sound node keeps each mixer controller on a setting the mixer has: only
`add_control_point` adds one, and only for a setting there; the compositor's tick keeps what
it does not drop, and drops no setting. -/
theorem step (hsound : Sound s) (h : MixerControllersSet s.mixer) {e : Node.Event}
    (hs : s.step e = some s') : MixerControllersSet s'.mixer := by
  cases e with
  | connect => exact h.of_kept (connect_spec (Node.handle_eq_some hs).2).1.kept
  | disconnect => exact h.of_kept (disconnect_spec (Node.handle_eq_some hs).2).1.kept
  | addSlotControlPoint =>
    obtain ⟨-, hr, -, hmc⟩ := addSlotControlPoint_spec (P := fun _ => True)
      (fun _ _ => trivial) (Node.handle_eq_some hs).2 (fun _ _ _ _ => trivial)
      (fun _ _ _ _ _ _ => trivial)
    exact .of_eq hmc (by rw [hr]) h
  | removeSlotControlPoint =>
    obtain ⟨-, hr, -, hmc⟩ := removeSlotControlPoint_spec (P := fun _ => True)
      (fun _ _ => trivial) (Node.handle_eq_some hs).2 (fun _ _ _ _ _ _ => trivial)
    exact .of_eq hmc (by rw [hr]) h
  | addControlPoint => exact addControlPoint_mixerControllersSet (Node.handle_eq_some hs).2 h
  | removeControlPoint =>
    obtain ⟨-, hr, -, hmc⟩ := removeControlPoint_spec (P := fun _ => True)
      (fun _ _ => trivial) (Node.handle_eq_some hs).2 (fun _ _ _ _ _ _ => trivial)
    exact .of_eq hmc (by rw [hr]) h
  | start =>
    rcases (Node.step_start hs).2 with ⟨r, hr, rfl⟩ | ⟨r, e, hr, rfl⟩ <;>
    · have hr : MixerControllersSet r.mixer :=
        h.of_kept (hsound.wired.startPipeline r (by rw [hr]; rfl)).2
      exact .of_eq rfl rfl hr
  | playing => obtain ⟨-, rfl⟩ := Node.step_playing hs; exact .of_eq rfl rfl h
  | endTime => obtain ⟨-, rfl⟩ := Node.step_endTime hs; exact .of_eq rfl rfl h
  | stop => obtain ⟨-, rfl⟩ := Node.step_stop hs; exact .of_eq rfl rfl h
  | videoTick =>
    obtain ⟨_, -, -, hv⟩ := Node.step_videoTick hs
    exact updateVideoMixingState_mixerControllersSet hv h
  | audioTick =>
    obtain ⟨-, hvms, -, hset, -⟩ := updateAudioMixingState_frame (Node.step_audioTick hs).2.2
    exact .of_eq (by rw [hvms]) hset h

end MixerControllersSet

/-- Every mixer controller of a reachable node drives a setting the mixer has. -/
theorem Node.Reachable.mixerControllersSet {s : Node} (h : Node.Reachable s) :
    MixerControllersSet s.mixer := by
  induction h with
  | new h => exact .of_new h
  | step hr hs ih => exact ih.step hr.sound hs

/-! ### The requests -/

/-- The requests of the mixer's message handlers. -/
def Node.Event.isRequest : Node.Event → Bool
  | .connect .. | .disconnect _ | .addSlotControlPoint .. | .removeSlotControlPoint ..
  | .addControlPoint .. | .removeControlPoint .. => true
  | _ => false

/-- **No request kills the actor.**  On every reachable node that is not stopped, every
request (`Connect`, `Disconnect` and the four control-point requests) has a successor: its
handler returns, with `Ok` or `Err`, and never panics. -/
theorem requests_never_panic {s : Node} (h : Node.Reachable s) (hlive : s.state ≠ .stopped)
    {e : Node.Event} (he : e.isRequest) : (s.step e).isSome := by
  have hs := h.sound
  cases e with
  | connect => exact Node.handle_isSome hlive (hs.wired.connect_ne_panic hs.typed _ _ _ _ _)
  | disconnect => exact Node.handle_isSome hlive (hs.wired.disconnect_ne_panic _)
  | addSlotControlPoint =>
    exact Node.handle_isSome hlive (addSlotControlPoint_ne_panic hs.present _ _ _)
  | removeSlotControlPoint =>
    exact Node.handle_isSome hlive (removeSlotControlPoint_ne_panic hs.present _ _ _)
  | addControlPoint => exact Node.handle_isSome hlive (addControlPoint_ne_panic hs.present _ _)
  | removeControlPoint =>
    exact Node.handle_isSome hlive (removeControlPoint_ne_panic hs.present _ _)
  | _ => cases he

theorem Sound.audioTick_isSome {s : Node} (h : Sound s) (hlive : s.state ≠ .stopped)
    (hcb : s.callbackTimeout.isSome) (pts : ClockTime) (now : Nat) :
    (s.step (.audioTick pts now)).isSome := by
  obtain ⟨t, ht⟩ := Option.isSome_iff_exists.1 hcb
  simp only [Node.step, ht]
  exact Node.handle_isSome hlive (updateAudioMixingState_ne_panic h.present)

/-- **An audiomixer tick never kills the actor** on a reachable node that is not stopped, once
`start_pipeline` has installed the callbacks. -/
theorem audio_tick_never_panics {s : Node} (h : Node.Reachable s) (hlive : s.state ≠ .stopped)
    (hcb : s.callbackTimeout.isSome) (pts : ClockTime) (now : Nat) :
    (s.step (.audioTick pts now)).isSome :=
  h.sound.audioTick_isSome hlive hcb pts now

/-- A fresh mixer handles a `Disconnect` of an unknown slot, with an error. -/
theorem requests_never_panic_on_new :
    ∃ s₀, Mixer.new "m" none World.empty = .ok s₀ ∧ (s₀.step (.disconnect "a")).isSome :=
  ⟨_, rfl, requests_never_panic (@Node.Reachable.new "m" none World.empty _ rfl) (by decide)
    (e := .disconnect "a") rfl⟩

/-- A mixer just started takes an audiomixer tick. -/
theorem audio_tick_never_panics_after_start :
    ∃ s₀ s₁, Mixer.new "m" none World.empty = .ok s₀ ∧
      s₀.step (.start StartFaults.none) = some s₁ ∧ (s₁.step (.audioTick (some 0) 0)).isSome :=
  ⟨_, _, rfl, rfl, audio_tick_never_panics (@Node.Reachable.step _ _ (.start StartFaults.none)
    (@Node.Reachable.new "m" none World.empty _ rfl) rfl) (by decide) rfl (some 0) 0⟩

/-! ### The start and the callbacks -/

/-- A clean start never panics: with typed settings, no slot and no compositor pad,
`start_pipeline` links the base plate's queue to a new `sink_0` and builds no slot. -/
theorem startPipeline_ne_panic {s : Node} (hc : CleanStart s) (ht : SettingsTyped s.mixer.settings)
    (faults : StartFaults) : startPipeline faults s ≠ .panic := by
  obtain ⟨w, hw⟩ := Option.isSome_iff_exists.1 (ht.settingI32_isSome (.inl rfl))
  obtain ⟨h, hh⟩ := Option.isSome_iff_exists.1 (ht.settingI32_isSome (.inr (.inl rfl)))
  obtain ⟨r, hr⟩ := Option.isSome_iff_exists.1 (ht.settingI32_isSome (.inr (.inr (.inl rfl))))
  obtain ⟨t, htm⟩ := Option.isSome_iff_exists.1 (ht.settingI32_isSome (.inr (.inr (.inr rfl))))
  obtain ⟨i, hi⟩ := Option.isSome_iff_exists.1 ht.fallbackImage_isSome
  have hlink := linkFrom_of_pads_nil hc.noPads (s.world.nextHandle + 1)
  rw [hc.noSerial] at hlink
  unfold startPipeline
  simp only [hw, hh, hr, hi]
  dsimp only [World.make]
  iterate 5 refine startCall_ne_panic ?_
  simp only [hlink, Aggregator.staticPad]
  split
  · rename_i hnone; simp at hnone
  iterate 2 refine startCall_ne_panic ?_
  rw [hc.noSlots]
  simp only [connectSlots, Outcome.ok_bind]
  split
  · exact Option.noConfusion (htm.symm.trans ‹_›)
  · nofun

/-- **A clean start never kills the actor**: a mixer `Mixer::new` built, taken through events
that neither connect a slot nor start, runs `start_pipeline` when its cue time comes, and
`start_pipeline` returns, with `Ok` or `Err`. -/
theorem clean_start_never_panics {id : String} {config : Option (Table Value)} {w : World}
    {s₀ sₚ : Node} {pre : List Node.Event} (hnew : Mixer.new id config w = .ok s₀)
    (hpre : s₀.run pre = some sₚ) (hquiet : ∀ e ∈ pre, e.connectsOrStarts = false)
    (hinit : sₚ.state = .initial) (faults : StartFaults) :
    (sₚ.step (.start faults)).isSome := by
  have hne := startPipeline_ne_panic ((CleanStart.of_new hnew).run hquiet hpre)
    ((Node.Reachable.new hnew).run hpre).sound.typed faults
  simp only [Node.step, if_pos hinit]
  split
  · rfl
  · rfl
  · exact absurd ‹_› hne

/-- A fresh mixer given a width control point and a `Disconnect` of an unknown slot before
its cue time starts without a panic. -/
theorem clean_start_never_panics_after_requests :
    ∃ s₀ sₚ, Mixer.new "m" none World.empty = .ok s₀ ∧
      s₀.run [.addControlPoint "width" ⟨"p", 0, .int 640, .none⟩, .disconnect "a"] = some sₚ ∧
      (sₚ.step (.start StartFaults.none)).isSome :=
  ⟨_, _, rfl, rfl, @clean_start_never_panics "m" none World.empty _ _
    [.addControlPoint "width" ⟨"p", 0, .int 640, .none⟩, .disconnect "a"] rfl rfl (by decide) rfl
    StartFaults.none⟩

theorem BasePlateKept.callbackTimeout_step {s s' : Node} (h : BasePlateKept s) {e : Node.Event}
    (hs : s.step e = some s') : s'.callbackTimeout = s.callbackTimeout := by
  by_cases hv : ∃ pts nowSlots nowMixers hasSample,
      e = .videoTick pts nowSlots nowMixers hasSample
  · obtain ⟨pts, nowSlots, nowMixers, hasSample, rfl⟩ := hv
    exact (updateVideoMixingState_frame (Node.step_videoTick hs).choose_spec.2.2).2.2.2.1
  · exact ((h.step hs).2 fun pts a b f he => hv ⟨pts, a, b, f, he⟩).callback

theorem BasePlateKept.callbackTimeout_run :
    ∀ {es : List Node.Event} {s s' : Node}, BasePlateKept s → s.run es = some s' →
      s'.callbackTimeout = s.callbackTimeout
  | [], _, _, _, hr => by cases hr; rfl
  | _ :: _, _, _, h, hr => by
    obtain ⟨s₁, h₁, hr⟩ := Option.bind_eq_some.1 hr
    exact (callbackTimeout_run (h.step h₁).1 hr).trans (h.callbackTimeout_step h₁)

theorem StartedClean.reachable {s₁ : Node} (h : StartedClean s₁) : Node.Reachable s₁ := by
  obtain ⟨_, _, _, _, _, _, _, hnew, hpre, -, hstart, -⟩ := h
  exact ((Node.Reachable.new hnew).run hpre).step hstart

/-- **After a clean start no callback kills the actor**: on every run from it, while the node
is not stopped, a compositor tick and an audiomixer tick both have a successor. -/
theorem ticks_never_panic_after_clean_start {s₁ s : Node} {es : List Node.Event}
    (h₁ : StartedClean s₁) (hrun : s₁.run es = some s) (hlive : s.state ≠ .stopped) :
    (∀ pts nowSlots nowMixers hasSample,
      (s.step (.videoTick pts nowSlots nowMixers hasSample)).isSome) ∧
      ∀ pts now, (s.step (.audioTick pts now)).isSome := by
  obtain ⟨hk₁, hsize₁, timeout, -, hf⟩ := h₁.invariants
  have hs := (h₁.reachable.run hrun).sound
  have hcb : s.callbackTimeout = some (some (timeout.toNat * ClockTime.msecond)) :=
    (hk₁.callbackTimeout_run hrun).trans hf.callback
  obtain ⟨cf, -, hsync⟩ := (hsize₁.run hk₁ hrun).synced
  obtain ⟨v, -, -, hpad⟩ := hsync "width" (.inl rfl)
  refine ⟨fun pts nowSlots nowMixers hasSample => ?_, fun pts now =>
    hs.audioTick_isSome hlive (by simp [hcb]) pts now⟩
  simp only [Node.step, hcb]
  exact Node.handle_isSome hlive (updateVideoMixingState_ne_panic
    (Aggregator.staticPad_isSome_of_padProperty hpad) hs.present hs.keyed hs.typed)

/-- After a clean start and a slot connected once `Started`, both callbacks take a tick. -/
theorem ticks_never_panic_after_connect :
    ∃ s₁ s, StartedClean s₁ ∧
      s₁.run [.playing, .connect "a" 100 101 none SlotFaults.none] = some s ∧
      (∀ pts nowSlots nowMixers hasSample,
        (s.step (.videoTick pts nowSlots nowMixers hasSample)).isSome) ∧
      ∀ pts now, (s.step (.audioTick pts now)).isSome := by
  have h₁ : StartedClean _ :=
    ⟨"m", none, World.empty, _, _, [], StartFaults.none, rfl, rfl, nofun, rfl, rfl⟩
  exact ⟨_, _, h₁, rfl, @ticks_never_panic_after_clean_start _ _
    [.playing, .connect "a" 100 101 none SlotFaults.none] h₁ rfl (by decide)⟩

/-! ### The controller loops -/

/-- **The controller loops drain their maps, and the maps are always there.**
`synchronize_slot_controllers` keeps, for every map, exactly the controllers whose tick is not
done, each under its key as its one tick left it; `synchronize_mixer_controllers` returns on
a map whose controllers are under their settings' names with typed settings, and keeps the
same, when every controller's setting is there.  On every reachable node both mixing states
hold their controller maps, so no `take().unwrap()` or `as_mut().unwrap()` on them fails, and
the mixer controllers meet the premises of both mixer-loop facts. -/
theorem controller_loops_drain :
    (∀ now duration (controllers : Table PropertyController) (m : Mixer) k c',
      (synchronizeSlotControllers now duration controllers m).2.lookup k = some c' ↔
        ∃ c, controllers.lookup k = some c ∧
          ∀ v, (c.synchronize v now duration).1 = c' ∧
            (c.synchronize v now duration).2.2 = false) ∧
    (∀ now duration (controllers : Table SettingController) capsfilter (m : Mixer) (w : World),
      ((∀ k c, controllers.lookup k = some c → c.setting = k) → SettingsTyped m.settings →
        (synchronizeMixerControllers now duration controllers capsfilter m w).isSome) ∧
      ((∀ k c, controllers.lookup k = some c → (m.settings.lookup c.setting).isSome) →
        ∀ m' w' kept, synchronizeMixerControllers now duration controllers capsfilter m w =
          some (m', w', kept) →
        ∀ k c', kept.lookup k = some c' ↔ ∃ c, controllers.lookup k = some c ∧
          ∀ s, (c.synchronize s now duration).1 = c' ∧
            (c.synchronize s now duration).2.2 = false)) ∧
    ∀ s, Node.Reachable s → ControllersPresent s.mixer ∧ SettingsTyped s.mixer.settings ∧
      MixerControllersKeyed s.mixer ∧ MixerControllersSet s.mixer :=
  ⟨synchronizeSlotControllers_lookup,
    fun _ _ _ capsfilter _ w => ⟨synchronizeMixerControllers_isSome capsfilter w,
      fun hs _ _ _ h => synchronizeMixerControllers_lookup h hs⟩,
    fun _ h => ⟨h.sound.present, h.sound.typed, h.sound.keyed, h.mixerControllersSet⟩⟩

end Auteur
