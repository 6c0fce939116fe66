import Auteur.Mixer.MixingState

/-!
`start_pipeline`: what the mixer builds when its schedule enters `Starting`.

* `connectSlots` — the loop that builds every slot recorded so far (`connect_slot`);
* `startPipeline` — the base plate and the two output chains, the base plate's pad
  `sink_0`, the slots, the output capsfilter in the video mixing state, the two
  samples-selected callbacks, and `forward()` on the output producers;
* `startCall_ok`, `placeBasePlate_wiring`, `placeBasePlate_alpha` — what a successful
  start leaves: the base plate linked into `sink_0` of a compositor that had no pads yet.

Design notes: whether a GStreamer call that `start_pipeline` checks with `?` fails is the
environment's answer (`StartFaults`), as in `connect_slot`.  `build_base_plate` is one such
call, whichever branch of it runs.  `link_many` links its elements pairwise in order, so a
failure is either before the link into the aggregator or after it.  `add_many` is taken to
add all of its elements or none.  Element properties that nothing reads back (the
aggregators' `background`, `start-time-selection`, `ignore-inactive-pads`, the audio
capsfilters' caps) are left out, as are the fields of the video caps other than `width`
and `height`.
-/

namespace Auteur

/-- The calls of `start_pipeline` that return an error through `?`, in order. -/
inductive StartStep
  | buildBasePlate
  | makeElements
  | addMany
  | linkVideoUpstream
  | linkVideoDownstream
  | linkAudioUpstream
  | linkAudioDownstream
  deriving DecidableEq, Repr

/-- Which calls of `start_pipeline` fail, with their errors, and which calls of
`connect_slot` fail for each slot. -/
structure StartFaults where
  step : StartStep → Option String
  slot : String → SlotFaults

/-- No call fails. -/
def StartFaults.none : StartFaults := ⟨fun _ => Option.none, fun _ => SlotFaults.none⟩

/-- The `?` of one call of `start_pipeline`. -/
def startCall (faults : StartFaults) (step : StartStep) (s : Node) (k : Unit → Outcome Node) :
    Outcome Node :=
  match faults.step step with
  | some e => .err s e
  | none => k ()

theorem startCall_ok {faults : StartFaults} {step : StartStep} {s r : Node}
    {k : Unit → Outcome Node} (h : startCall faults step s k = .ok r) : k () = .ok r := by
  unfold startCall at h
  split at h
  · cases h
  · exact h

/-- A fact of the state every `?` of `start_pipeline` can return with, and of every state its
continuation leaves from there, holds of the state the call leaves. -/
theorem startCall_all {P : Node → Prop} {faults : StartFaults} {step : StartStep} {s : Node}
    {k : Unit → Outcome Node} (hs : P s) (hk : P s → ∀ r, (k ()).state? = some r → P r) :
    ∀ r, (startCall faults step s k).state? = some r → P r := by
  intro r h
  unfold startCall at h
  split at h
  · exact Option.some.inj h ▸ hs
  · exact hk hs r h

theorem startCall_ne_panic {faults : StartFaults} {step : StartStep} {s : Node}
    {k : Unit → Outcome Node} (hk : k () ≠ .panic) : startCall faults step s k ≠ .panic := by
  unfold startCall
  split
  · nofun
  · exact hk

/-- The loop of `start_pipeline` over `consumer_slots`, each slot built by `connect_slot`
and stored back; the first error is returned. -/
def connectSlots (faults : String → SlotFaults) :
    List ((_ : String) × ConsumerSlot) → Node → Outcome Node
  | [], s => .ok s
  | ⟨id, slot⟩ :: rest, s =>
    match connectSlot (faults id) id slot s with
    | .ok (slot, s) => connectSlots faults rest (insertSlot id slot s)
    | .err (_, s) e => .err s e
    | .panic => .panic

/-- The caps of the output capsfilter, by the fields the mixer rewrites later. -/
def videoCaps (width height : Int) : Caps :=
  ((∅ : Caps).insert "width" (.int width)).insert "height" (.int height)

/-- The properties `start_pipeline` gives the base plate's pad `sink_0`. -/
def placeBasePlate (width height : Int) (g : Aggregator) : Aggregator :=
  (((g.setPadProperty 0 "alpha" (.float 0)).setPadProperty 0 "width" (.int width)).setPadProperty
    0 "height" (.int height)).setPadProperty 0 "sizing-policy" (.str "keep-aspect-ratio")

@[simp] theorem placeBasePlate_wiring (width height : Int) (g : Aggregator) :
    (placeBasePlate width height g).wiring = g.wiring := by
  simp [placeBasePlate]

theorem placeBasePlate_alpha {width height : Int} {g : Aggregator} (h : (g.staticPad 0).isSome) :
    (placeBasePlate width height g).padProperty .video 0 "alpha" = some (.float 0) := by
  simp [placeBasePlate, h]

/-- Linking into an aggregator with no pad requests its first one. -/
theorem linkFrom_of_pads_nil {g : Aggregator} (h : g.pads = []) (src : Handle) :
    (g.linkFrom src).1 =
      { g with pads := [⟨g.nextSerial, some src, ∅⟩], nextSerial := g.nextSerial + 1 } := by
  simp [Aggregator.linkFrom, h, Aggregator.requestPadSimple, Aggregator.updatePad]

/-- `Mixer::start_pipeline(ctx)`.  The nine `make_element` calls of its middle share the
fault `makeElements`, checked once all nine are made; the source stops at the first that
fails, so on that error path it has made fewer elements, and only the world's handle counter
differs. -/
def startPipeline (faults : StartFaults) (s : Node) : Outcome Node :=
  match s.mixer.settingI32 "width", s.mixer.settingI32 "height", s.mixer.settingI32 "sample-rate",
    (s.mixer.settings.lookup "fallback-image").bind Setting.asStr with
  | some width, some height, some _, some _ =>
    let (w, vsrc) := s.world.make
    startCall faults .buildBasePlate { s with world := w } fun _ =>
    let (w, vqueue) := w.make
    let (w, vcapsfilter) := w.make
    let (w, asrc) := w.make
    let (w, asrccapsfilter) := w.make
    let (w, aqueue) := w.make
    let (w, acapsfilter) := w.make
    let (w, level) := w.make
    let (w, aresample) := w.make
    let (w, aresamplecapsfilter) := w.make
    startCall faults .makeElements { s with world := w } fun _ =>
    let w := w.setCaps vcapsfilter (videoCaps width height)
    startCall faults .addMany { s with world := w } fun _ =>
    let m := { s.mixer with pipeline := s.mixer.pipeline ++ [vsrc, vqueue,
      s.mixer.videoMixer.element, vcapsfilter, asrc, asrccapsfilter, aqueue,
      s.mixer.audioMixer.element, acapsfilter, level, aresample, aresamplecapsfilter] }
    startCall faults .linkVideoUpstream ⟨m, w, s.callbackTimeout⟩ fun _ =>
    let m := { m with videoMixer := (m.videoMixer.linkFrom vqueue).1 }
    startCall faults .linkVideoDownstream ⟨m, w, s.callbackTimeout⟩ fun _ =>
    match m.videoMixer.staticPad 0 with
    | none => .panic
    | some _ =>
      let m := { m with videoMixer := placeBasePlate width height m.videoMixer }
      startCall faults .linkAudioUpstream ⟨m, w, s.callbackTimeout⟩ fun _ =>
      let m := { m with audioMixer := (m.audioMixer.linkFrom aqueue).1 }
      startCall faults .linkAudioDownstream ⟨m, w, s.callbackTimeout⟩ fun _ =>
      (connectSlots faults.slot m.consumerSlots.entries ⟨m, w, s.callbackTimeout⟩).bind fun s =>
      match s.mixer.settingI32 "fallback-timeout" with
      | none => .panic
      | some timeout =>
        let st := { s.mixer.videoMixingState with capsfilter := some vcapsfilter }
        .ok { mixer := { s.mixer with videoMixingState := st }
              world := (s.world.forward s.mixer.videoProducer).forward s.mixer.audioProducer
              callbackTimeout := some (some (timeout.toNat * ClockTime.msecond)) }
  | _, _, _, _ => .panic

/-- A slot connected before the start holds `sink_0` of the compositor: the base plate is
linked to that pad (the first one not linked yet), and `start_pipeline` then panics when it
links the slot's bin to it. -/
theorem connect_before_start_takes_base_plate_pad :
    ∃ s₀ s₁, Mixer.new "m" none World.empty = .ok s₀ ∧
      connect "a" 100 101 none SlotFaults.none s₀ = .ok s₁ ∧
      (s₁.mixer.consumerSlots.lookup "a").map (·.videoPad) = some 0 ∧
      (∀ h, (s₁.mixer.videoMixer.linkFrom h).2 = 0) ∧
      startPipeline StartFaults.none s₁ = .panic :=
  ⟨_, _, rfl, rfl, rfl, fun _ => rfl, rfl⟩

end Auteur
