import Auteur.Mixer.Pipeline

/-!
The mixer actor: the requests it handles, the transitions of its schedule, and the two
samples-selected callbacks, as one step relation on `Node`.

* `stopped` — `Actor::stopped`: every slot drained and unbound from its producers;
* `Node.Event`, `Node.step` — what can happen to a mixer node, and the node it leaves;
* `Node.run`, `Node.Reachable` — runs from a node `Mixer::new` built;
* `Node.step_start`, `Node.step_videoTick`, … — what one step of each kind can do.

Design notes: the actor handles one message at a time and a callback runs with its mixing
state locked, so each is one step.  The schedule of `crate::utils` is not part of the
mixer's sources; its transitions are modelled from the spec: `Initial → Starting` when the
cue time is reached (`start_pipeline` runs; an error stops the actor), `Starting → Started`
when the pipeline reaches `Playing`, `Started → Stopping` at the end time, and a stop, a
bus error or the end of `Stopping` ends the actor (`stopped`, marked by the state
`Stopped`).  A handler that panics kills the actor: `step` has no successor then.  The
callbacks fire once `start_pipeline` has installed them, until the actor is gone.
-/

namespace Auteur

namespace Node

/-- The state of the node's schedule. -/
def state (s : Node) : State := s.mixer.stateMachine.state

/-- Move the schedule to `st`. -/
def setState (st : State) (s : Node) : Node :=
  { s with mixer := { s.mixer with stateMachine := ⟨st⟩ } }

/-- A message handled by the live actor: the state the handler left, whether it returned
`Ok` or `Err`; nothing once the actor is gone or if the handler panicked. -/
def handle (s : Node) (o : Outcome Node) : Option Node :=
  if s.state = .stopped then none else o.state?

@[simp] theorem setState_state (st : State) (s : Node) : (s.setState st).state = st := rfl
@[simp] theorem setState_world (st : State) (s : Node) : (s.setState st).world = s.world := rfl
@[simp] theorem setState_consumerSlots (st : State) (s : Node) :
    (s.setState st).mixer.consumerSlots = s.mixer.consumerSlots := rfl

end Node

/-- The loop of `Actor::stopped` over the drained slots: each slot's consumers removed from
its two producers. -/
def unbindSlots : List ((_ : String) × ConsumerSlot) → World → World
  | [], w => w
  | ⟨id, slot⟩ :: rest, w =>
    unbindSlots rest ((w.removeConsumer slot.videoProducer id).removeConsumer slot.audioProducer id)

/-- `Actor::stopped`: the slots drained and unbound; the actor is gone. -/
def stopped (s : Node) : Node :=
  { s with mixer := { s.mixer with consumerSlots := ∅, stateMachine := ⟨.stopped⟩ }
           world := unbindSlots s.mixer.consumerSlots.entries s.world }

@[simp] theorem unbindSlots_nextHandle :
    ∀ (l : List ((_ : String) × ConsumerSlot)) (w : World),
      (unbindSlots l w).nextHandle = w.nextHandle
  | [], _ => rfl
  | ⟨_, _⟩ :: rest, _ => unbindSlots_nextHandle rest _

@[simp] theorem unbindSlots_caps :
    ∀ (l : List ((_ : String) × ConsumerSlot)) (w : World), (unbindSlots l w).caps = w.caps
  | [], _ => rfl
  | ⟨_, _⟩ :: rest, _ => unbindSlots_caps rest _

@[simp] theorem stopped_state (s : Node) : (stopped s).state = .stopped := rfl
@[simp] theorem stopped_consumerSlots (s : Node) : (stopped s).mixer.consumerSlots = ∅ := rfl

namespace Node

/-- What can happen to a mixer node: a request, a transition of its schedule, or a
samples-selected callback of the compositor or of the audiomixer. -/
inductive Event
  | connect (linkId : String) (videoProducer audioProducer : AppSink)
      (config : Option (Table Value)) (faults : SlotFaults)
  | disconnect (slotId : String)
  | addSlotControlPoint (slotId property : String) (point : ControlPoint)
  | removeSlotControlPoint (controllerId slotId property : String)
  | addControlPoint (property : String) (point : ControlPoint)
  | removeControlPoint (controllerId property : String)
  | start (faults : StartFaults)
  | playing
  | endTime
  | stop
  | videoTick (pts : ClockTime) (nowSlots nowMixers : Nat) (hasSample : Nat → Bool)
  | audioTick (pts : ClockTime) (now : Nat)

/-- One step of the mixer node. -/
def step (s : Node) : Event → Option Node
  | .connect k vp ap config faults => s.handle (connect k vp ap config faults s)
  | .disconnect k => s.handle (disconnect k s)
  | .addSlotControlPoint k p point => s.handle (addSlotControlPoint k p point s)
  | .removeSlotControlPoint c k p => s.handle (removeSlotControlPoint c k p s)
  | .addControlPoint p point => s.handle (addControlPoint p point s)
  | .removeControlPoint c p => s.handle (removeControlPoint c p s)
  | .start faults =>
    if s.state = .initial then
      match startPipeline faults s with
      | .ok s => some (s.setState .starting)
      | .err s _ => some (stopped s)
      | .panic => none
    else none
  | .playing => if s.state = .starting then some (s.setState .started) else none
  | .endTime => if s.state = .started then some (s.setState .stopping) else none
  | .stop => if s.state = .stopped then none else some (stopped s)
  | .videoTick pts nowSlots nowMixers hasSample =>
    match s.callbackTimeout with
    | some timeout => s.handle (updateVideoMixingState pts timeout nowSlots nowMixers hasSample s)
    | none => none
  | .audioTick pts now =>
    match s.callbackTimeout with
    | some _ => s.handle (updateAudioMixingState pts now s)
    | none => none

/-- The node after a sequence of events, if every one of them can happen in turn. -/
def run (s : Node) : List Event → Option Node
  | [] => some s
  | e :: es => (step s e).bind fun s => run s es

/-- The nodes a run of a mixer can reach. -/
inductive Reachable : Node → Prop
  | new {id : String} {config : Option (Table Value)} {w : World} {s : Node} :
      Mixer.new id config w = .ok s → Reachable s
  | step {s s' : Node} {e : Event} : Reachable s → step s e = some s' → Reachable s'

theorem Reachable.run {s s' : Node} (h : Reachable s) :
    ∀ {es : List Event}, s.run es = some s' → Reachable s'
  | [], hr => by cases hr; exact h
  | e :: es, hr => by
    obtain ⟨t, ht, hr⟩ := Option.bind_eq_some.1 hr
    exact (h.step ht).run hr

/-! ### What one step can do -/

theorem handle_eq_some {s s' : Node} {o : Outcome Node} (h : s.handle o = some s') :
    s.state ≠ .stopped ∧ o.state? = some s' := by
  unfold handle at h
  split_ifs at h with hst
  exact ⟨hst, h⟩

/-- A live actor handles a message whose handler does not panic. -/
theorem handle_isSome {s : Node} (hlive : s.state ≠ .stopped) {o : Outcome Node}
    (ho : o ≠ .panic) : (s.handle o).isSome := by
  unfold handle
  rw [if_neg hlive]
  cases o
  · rfl
  · rfl
  · exact absurd rfl ho

theorem step_start {s s' : Node} {faults : StartFaults} (h : s.step (.start faults) = some s') :
    s.state = .initial ∧
      ((∃ r, startPipeline faults s = .ok r ∧ s' = r.setState .starting) ∨
        ∃ r e, startPipeline faults s = .err r e ∧ s' = stopped r) := by
  simp only [step] at h
  split_ifs at h with hst
  refine ⟨hst, ?_⟩
  split at h
  · cases h; exact .inl ⟨_, ‹_›, rfl⟩
  · cases h; exact .inr ⟨_, _, ‹_›, rfl⟩
  · cases h

theorem step_playing {s s' : Node} (h : s.step .playing = some s') :
    s.state = .starting ∧ s' = s.setState .started := by
  simp only [step] at h
  split_ifs at h with hst
  exact ⟨hst, (Option.some.inj h).symm⟩

theorem step_endTime {s s' : Node} (h : s.step .endTime = some s') :
    s.state = .started ∧ s' = s.setState .stopping := by
  simp only [step] at h
  split_ifs at h with hst
  exact ⟨hst, (Option.some.inj h).symm⟩

theorem step_stop {s s' : Node} (h : s.step .stop = some s') :
    s.state ≠ .stopped ∧ s' = stopped s := by
  simp only [step] at h
  split_ifs at h with hst
  exact ⟨hst, (Option.some.inj h).symm⟩

/-- A compositor tick runs the callback with the timeout it captured, and returns. -/
theorem step_videoTick {s s' : Node} {pts : ClockTime} {nowSlots nowMixers : Nat}
    {hasSample : Nat → Bool}
    (h : s.step (.videoTick pts nowSlots nowMixers hasSample) = some s') :
    ∃ timeout, s.callbackTimeout = some timeout ∧ s.state ≠ .stopped ∧
      updateVideoMixingState pts timeout nowSlots nowMixers hasSample s = .ok s' := by
  simp only [step] at h
  split at h
  · obtain ⟨hst, h⟩ := handle_eq_some h
    refine ⟨_, ‹_›, hst, ?_⟩
    rcases Outcome.eq_of_state? h with h | ⟨e, h⟩
    · exact h
    · exact absurd h (updateVideoMixingState_ne_err _ _ _ _ _ _ _ _)
  · cases h

theorem step_audioTick {s s' : Node} {pts : ClockTime} {now : Nat}
    (h : s.step (.audioTick pts now) = some s') :
    s.callbackTimeout.isSome ∧ s.state ≠ .stopped ∧
      updateAudioMixingState pts now s = .ok s' := by
  simp only [step] at h
  split at h
  · obtain ⟨hst, h⟩ := handle_eq_some h
    refine ⟨by simp [*], hst, ?_⟩
    rcases Outcome.eq_of_state? h with h | ⟨e, h⟩
    · exact h
    · exact absurd h (updateAudioMixingState_ne_err _ _ _ _ _)
  · cases h

end Node

/-! ### Runs the sources get wrong -/

/-- A slot connected while the mixer is `Starting` is recorded unbuilt, and stays so once the
mixer is `Started`: `connect` builds only in `Started`, `start_pipeline` has already run. -/
theorem connect_while_starting_never_builds :
    ∃ s₀ s, Mixer.new "m" none World.empty = .ok s₀ ∧
      s₀.run [.start StartFaults.none, .connect "a" 100 101 none SlotFaults.none, .playing] =
        some s ∧
      s.state = .started ∧ (s.mixer.consumerSlots.lookup "a").map (·.videoBin) = some none ∧
      "a" ∉ (s.world.producers 100).consumers ∧ "a" ∉ (s.world.producers 101).consumers :=
  ⟨_, _, rfl, rfl, rfl, rfl, by decide, by decide⟩

/-- A slot's controller survives `disconnect`, still driving the released pad `sink_1`; once
the slot is connected again (on `sink_2`), a new point for it is queued on that controller. -/
theorem slot_controller_outlives_disconnect :
    ∃ s₀ s₁ s, Mixer.new "m" none World.empty = .ok s₀ ∧
      s₀.run [.start StartFaults.none, .playing, .connect "a" 100 101 none SlotFaults.none,
        .addSlotControlPoint "a" "video::alpha" ⟨"p", 0, .float 1, .none⟩, .disconnect "a"] =
        some s₁ ∧
      (s₁.mixer.slotControllers true).bind (·.lookup "aalpha") =
        some ⟨"a", ⟨.video, 1⟩, "alpha", [⟨"p", 0, .float 1, .none⟩]⟩ ∧
      "a" ∉ s₁.mixer.consumerSlots ∧ s₁.mixer.videoMixer.staticPad 1 = none ∧
      s₁.run [.connect "a" 100 101 none SlotFaults.none,
        .addSlotControlPoint "a" "video::alpha" ⟨"q", 0, .float 1, .none⟩] = some s ∧
      (s.mixer.consumerSlots.lookup "a").map (·.videoPad) = some 2 ∧
      ((s.mixer.slotControllers true).bind (·.lookup "aalpha")).map
        (fun c => (c.target, c.controlPoints.map (·.id))) = some (⟨.video, 1⟩, ["p", "q"]) :=
  ⟨_, _, _, rfl, rfl, by decide, by decide, by decide, rfl, by decide, by decide⟩

/-- A controller of a slot connected and disconnected before the start drives `sink_0`, which
the base plate reuses: its first tick sets the base plate's `alpha` to 1 while the base plate
is not shown. -/
theorem leftover_controller_drives_base_plate_alpha :
    ∃ s₀ s, Mixer.new "m" none World.empty = .ok s₀ ∧
      s₀.run [.connect "a" 100 101 none SlotFaults.none,
        .addSlotControlPoint "a" "video::alpha" ⟨"p", 0, .float 1, .none⟩, .disconnect "a",
        .start StartFaults.none, .playing, .videoTick (some 0) 0 0 fun _ => false] = some s ∧
      s.mixer.videoMixingState.showingBasePlate = false ∧
      s.mixer.videoMixer.padProperty .video 0 "alpha" = some (.float 1) :=
  ⟨_, _, rfl, rfl, rfl, by decide⟩

/-- The same leftover controller on `width` resizes the base-plate pad away from the `width`
setting, which the output caps still follow. -/
theorem leftover_controller_resizes_base_plate :
    ∃ s₀ s, Mixer.new "m" none World.empty = .ok s₀ ∧
      s₀.run [.connect "a" 100 101 none SlotFaults.none,
        .addSlotControlPoint "a" "video::width" ⟨"p", 0, .int 640, .none⟩, .disconnect "a",
        .start StartFaults.none, .playing, .videoTick (some 0) 0 0 fun _ => false] = some s ∧
      s.mixer.settingI32 "width" = some 1920 ∧
      s.mixer.videoMixer.padProperty .video 0 "width" = some (.int 640) ∧
      (s.mixer.videoMixingState.capsfilter.map fun h => (s.world.caps h).lookup "width") =
        some (some (.int 1920)) :=
  ⟨_, _, rfl, rfl, rfl, by decide, by decide⟩

/-- A slot configured with `audio::volume` 0 does not keep it.  Connected before the start,
its audio pad has volume 0 while `GetNodeInfo` reports the slot's `volume` field, 1; connected
once the mixer is `Started`, `connect_slot` writes that field, 1, over the configured 0. -/
theorem configured_volume_not_kept :
    ∃ s₀ s₁ s₂, Mixer.new "m" none World.empty = .ok s₀ ∧
      s₀.run [.connect "a" 100 101 (some ((∅ : Table Value).insert "audio::volume" (.float 0)))
        SlotFaults.none] = some s₁ ∧
      ((s₁.mixer.consumerSlots.lookup "a").map fun slot =>
        s₁.mixer.audioMixer.padProperty .audio slot.audioPad "volume") = some (some (.float 0)) ∧
      s₁.mixer.slotInfos.lookup "a" = some ⟨1⟩ ∧
      s₀.run [.start StartFaults.none, .playing,
        .connect "a" 100 101 (some ((∅ : Table Value).insert "audio::volume" (.float 0)))
          SlotFaults.none] = some s₂ ∧
      s₂.state = .started ∧
      ((s₂.mixer.consumerSlots.lookup "a").map fun slot =>
        s₂.mixer.audioMixer.padProperty .audio slot.audioPad "volume") = some (some (.float 1)) :=
  ⟨_, _, _, rfl, rfl, by decide, by decide, rfl, rfl, by decide⟩

end Auteur
