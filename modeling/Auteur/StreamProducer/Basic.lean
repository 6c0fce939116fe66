import Auteur.Basic

/-!
The data interface between nodes: `StreamProducer` (`utils/stream_producer.rs`).

A producer wraps an `appsink` and dispatches its samples to a set of consumers, each an
`appsrc` bound under a consumer id.  This file models the producer's shared record
(`StreamConsumers`, behind the producer's mutex), the GStreamer objects it touches
(`Elements`: the appsrcs' properties and pad probes, and the calls made into GStreamer, in
order), and the operations of the actor thread:

* `addConsumer` — `add_consumer`: a no-op on a bound id; otherwise configures the appsrc,
  installs the force-key-unit probe on its src pad and binds it;
* `removeConsumer` — `remove_consumer`: unbinds the id, and dropping the `StreamConsumer`
  removes its probe;
* `forward`, `getConsumerIds`, and `StreamConsumers.new`, the record `From<&AppSink>` builds.

Design notes: elements are identified by `Nat` handles, compared by identity as GObjects
are.  Pad probe ids are allocated per pad, in increasing order; `AppSrcState` carries the
fact that every installed probe's id is below the next one to be allocated, so distinct
probes on one pad always have distinct ids.  The `enough_data` callback that
`StreamConsumer::new` installs only logs, and is not modelled.
-/

namespace Auteur

/-- An `appsrc` element, by identity. -/
abbrev AppSrc := Nat

/-- An `appsink` element, by identity.  Producers are equal iff their appsinks are, so a
producer is named by its appsink. -/
abbrev AppSink := Nat

/-- A `gst::PadProbeId`. -/
abbrev PadProbeId := Nat

/-- The `leaky-type` property of an appsrc. -/
inductive LeakyType
  | none
  | upstream
  | downstream
  deriving DecidableEq, Repr

/-- The state of an appsrc that a producer reads or writes: the queueing properties that
`add_consumer` sets, and the upstream-event probes on its `src` pad, each with the appsink
it forwards force-key-unit events to. -/
structure AppSrcState where
  maxBuffers : Nat
  maxBytes : Nat
  maxTime : Nat
  leakyType : LeakyType
  probes : List (PadProbeId × AppSink)
  nextProbeId : PadProbeId
  probes_lt : ∀ q ∈ probes, q.1 < nextProbeId
  probes_nodup : (probes.map Prod.fst).Nodup

/-- A call into GStreamer made by a producer's callbacks, as it appears in `Elements.effects`. -/
inductive Effect
  /-- `appsrc.set_latency(latency, CLOCK_TIME_NONE)` -/
  | setLatency (appsrc : AppSrc) (latency : Nat)
  /-- `appsink.send_event(UpstreamForceKeyUnitEvent { all_headers: true })` -/
  | forceKeyUnit (appsink : AppSink)
  /-- `appsrc.push_sample(sample)`, and whether it returned `Ok` -/
  | pushSample (appsrc : AppSrc) (sample : Nat) (ok : Bool)
  /-- `appsrc.end_of_stream()` -/
  | endOfStream (appsrc : AppSrc)
  deriving DecidableEq, Repr

/-- The GStreamer objects producers touch: every appsrc's state, and the calls made on
them so far, oldest first. -/
structure Elements where
  appsrcs : AppSrc → AppSrcState
  effects : List Effect

/-- A consumer of a producer: `StreamConsumer`. -/
structure StreamConsumer where
  appsrc : AppSrc
  fkuProbeId : Option PadProbeId
  forwardedLatency : Bool
  firstBuffer : Bool
  deriving DecidableEq, Repr

/-- The record behind a producer's mutex: `StreamConsumers`. -/
structure StreamConsumers where
  currentLatency : Option Nat
  latencyUpdated : Bool
  consumers : Table StreamConsumer
  discard : Bool
  deriving DecidableEq

/-- The record `StreamProducer::from(appsink)` starts with. -/
def StreamConsumers.new : StreamConsumers where
  currentLatency := none
  latencyUpdated := false
  consumers := ∅
  discard := true

namespace AppSrcState

/-- An appsrc as `ElementFactory::make("appsrc", ..)` creates it: GStreamer's defaults
(`max-bytes = 200000`, no buffer or time limit, not leaky), no probes, and probe ids
starting at `1`. -/
def new : AppSrcState where
  maxBuffers := 0
  maxBytes := 200000
  maxTime := 0
  leakyType := .none
  probes := []
  nextProbeId := 1
  probes_lt := by simp
  probes_nodup := List.nodup_nil

/-- The queueing properties `add_consumer` sets: `max-buffers = 0`, `max-bytes = 0`,
`max-time = 500 ms`, `leaky-type = downstream`. -/
def configure (s : AppSrcState) : AppSrcState :=
  { s with maxBuffers := 0, maxBytes := 0, maxTime := 500 * ClockTime.msecond,
           leakyType := .downstream }

/-- `srcpad.add_probe(EVENT_UPSTREAM, ..)` forwarding to `appsink`: the probe gets the
pad's next id, which no probe on the pad has. -/
def addProbe (appsink : AppSink) (s : AppSrcState) : AppSrcState where
  __ := s
  probes := s.probes ++ [(s.nextProbeId, appsink)]
  nextProbeId := s.nextProbeId + 1
  probes_lt q hq := by
    rcases List.mem_append.1 hq with hq | hq
    · exact Nat.lt_succ_of_lt (s.probes_lt q hq)
    · simp [List.mem_singleton.1 hq]
  probes_nodup := by
    rw [List.map_append, List.nodup_append]
    refine ⟨s.probes_nodup, List.nodup_singleton _, fun i hi hj => ?_⟩
    obtain ⟨q, hq, rfl⟩ := List.mem_map.1 hi
    exact (s.probes_lt q hq).ne (List.mem_singleton.1 hj)

/-- `srcpad.remove_probe(id)`. -/
def removeProbe (id : PadProbeId) (s : AppSrcState) : AppSrcState where
  __ := s
  probes := s.probes.filter (·.1 ≠ id)
  probes_lt q hq := s.probes_lt q (List.mem_filter.1 hq).1
  probes_nodup := ((List.filter_sublist s.probes).map Prod.fst).nodup s.probes_nodup

@[simp] theorem configure_probes (s : AppSrcState) : s.configure.probes = s.probes := rfl
@[simp] theorem configure_nextProbeId (s : AppSrcState) :
    s.configure.nextProbeId = s.nextProbeId := rfl
@[simp] theorem addProbe_probes (a : AppSink) (s : AppSrcState) :
    (s.addProbe a).probes = s.probes ++ [(s.nextProbeId, a)] := rfl
@[simp] theorem addProbe_nextProbeId (a : AppSink) (s : AppSrcState) :
    (s.addProbe a).nextProbeId = s.nextProbeId + 1 := rfl
@[simp] theorem removeProbe_probes (id : PadProbeId) (s : AppSrcState) :
    (s.removeProbe id).probes = s.probes.filter (·.1 ≠ id) := rfl
@[simp] theorem removeProbe_nextProbeId (id : PadProbeId) (s : AppSrcState) :
    (s.removeProbe id).nextProbeId = s.nextProbeId := rfl

end AppSrcState

namespace Elements

/-- The GStreamer objects before any producer touched them. -/
def empty : Elements := ⟨fun _ => .new, []⟩

/-- Update one appsrc. -/
def updateAppSrc (a : AppSrc) (f : AppSrcState → AppSrcState) (w : Elements) : Elements :=
  { w with appsrcs := Function.update w.appsrcs a (f (w.appsrcs a)) }

/-- Record a call into GStreamer. -/
def emit (e : Effect) (w : Elements) : Elements :=
  { w with effects := w.effects ++ [e] }

@[simp] theorem updateAppSrc_effects (a : AppSrc) (f : AppSrcState → AppSrcState)
    (w : Elements) : (w.updateAppSrc a f).effects = w.effects := rfl

@[simp] theorem updateAppSrc_appsrcs (a b : AppSrc) (f : AppSrcState → AppSrcState)
    (w : Elements) :
    (w.updateAppSrc a f).appsrcs b = if b = a then f (w.appsrcs a) else w.appsrcs b := by
  simp only [updateAppSrc, Function.update_apply]

@[simp] theorem emit_appsrcs (e : Effect) (w : Elements) : (w.emit e).appsrcs = w.appsrcs := rfl
@[simp] theorem emit_effects (e : Effect) (w : Elements) :
    (w.emit e).effects = w.effects ++ [e] := rfl

end Elements

/-! ### The actor thread's operations -/

/-- `StreamConsumer::new(appsrc, fku_probe_id, ..)`: neither flag is set yet. -/
def StreamConsumer.new (appsrc : AppSrc) (fkuProbeId : PadProbeId) : StreamConsumer where
  appsrc := appsrc
  fkuProbeId := some fkuProbeId
  forwardedLatency := false
  firstBuffer := true

/-- `Drop for StreamConsumer`: remove the force-key-unit probe, if still held. -/
def StreamConsumer.drop (c : StreamConsumer) (w : Elements) : Elements :=
  match c.fkuProbeId with
  | some id => w.updateAppSrc c.appsrc (·.removeProbe id)
  | none => w

namespace StreamConsumers

/-- `StreamProducer::add_consumer(consumer, consumer_id)` on the producer of `appsink`. -/
def addConsumer (appsink : AppSink) (consumer : AppSrc) (consumerId : String)
    (p : StreamConsumers) (w : Elements) : StreamConsumers × Elements :=
  if consumerId ∈ p.consumers then (p, w)
  else
    let fkuProbeId := (w.appsrcs consumer).nextProbeId
    let w := w.updateAppSrc consumer (fun s => s.configure.addProbe appsink)
    ({ p with consumers := p.consumers.insert consumerId (.new consumer fkuProbeId) }, w)

/-- `StreamProducer::remove_consumer(consumer_id)`: the removed consumer is dropped. -/
def removeConsumer (consumerId : String) (p : StreamConsumers) (w : Elements) :
    StreamConsumers × Elements :=
  match p.consumers.lookup consumerId with
  | some c => ({ p with consumers := p.consumers.erase consumerId }, c.drop w)
  | none => (p, w)

/-- `StreamProducer::forward`. -/
def forward (p : StreamConsumers) : StreamConsumers := { p with discard := false }

/-- `StreamProducer::get_consumer_ids`. -/
def getConsumerIds (p : StreamConsumers) : List String := p.consumers.keys

theorem addConsumer_of_mem {appsink : AppSink} {a : AppSrc} {k : String} {p : StreamConsumers}
    (h : k ∈ p.consumers) (w : Elements) : p.addConsumer appsink a k w = (p, w) :=
  if_pos h

theorem addConsumer_of_not_mem {appsink : AppSink} {a : AppSrc} {k : String}
    {p : StreamConsumers} (h : k ∉ p.consumers) (w : Elements) :
    p.addConsumer appsink a k w =
      ({ p with consumers := p.consumers.insert k (.new a (w.appsrcs a).nextProbeId) },
        w.updateAppSrc a (fun s => s.configure.addProbe appsink)) :=
  if_neg h

theorem removeConsumer_of_lookup {k : String} {p : StreamConsumers} {c : StreamConsumer}
    (h : p.consumers.lookup k = some c) (w : Elements) :
    p.removeConsumer k w = ({ p with consumers := p.consumers.erase k }, c.drop w) := by
  simp [removeConsumer, h]

@[simp] theorem removeConsumer_consumers (k : String) (p : StreamConsumers) (w : Elements) :
    (p.removeConsumer k w).1.consumers = p.consumers.erase k := by
  unfold removeConsumer; split
  · rfl
  · rename_i h
    ext1
    exact (List.kerase_of_not_mem_keys fun hk =>
      AList.lookup_eq_none.1 (by assumption) (AList.mem_keys.2 hk)).symm

/-- Membership changes touch only the consumer map: the flags and latency stay. -/
theorem addConsumer_fst_eq (appsink : AppSink) (a : AppSrc) (k : String) (p : StreamConsumers)
    (w : Elements) :
    ∃ m, (p.addConsumer appsink a k w).1 = { p with consumers := m } := by
  unfold addConsumer; split
  · exact ⟨p.consumers, rfl⟩
  · exact ⟨_, rfl⟩

theorem removeConsumer_fst_eq (k : String) (p : StreamConsumers) (w : Elements) :
    ∃ m, (p.removeConsumer k w).1 = { p with consumers := m } := by
  unfold removeConsumer; split
  · exact ⟨_, rfl⟩
  · exact ⟨p.consumers, rfl⟩

/-- Membership changes record no call into GStreamer's data flow. -/
@[simp] theorem addConsumer_effects (appsink : AppSink) (a : AppSrc) (k : String)
    (p : StreamConsumers) (w : Elements) : (p.addConsumer appsink a k w).2.effects = w.effects := by
  unfold addConsumer; split <;> rfl

@[simp] theorem removeConsumer_effects (k : String) (p : StreamConsumers) (w : Elements) :
    (p.removeConsumer k w).2.effects = w.effects := by
  unfold removeConsumer StreamConsumer.drop; split
  · split <;> rfl
  · rfl

end StreamConsumers

end Auteur
