import Auteur.StreamProducer.Flags
import Auteur.StreamProducer.Membership

/-!
The appsrcs a producer is bound to, over every interleaving of the actor thread, the latency
probe and the streaming thread.

* `StreamConsumers.Configured` — every bound appsrc has the queueing properties
  `add_consumer` gave it; `configured_addConsumer` and `configured_removeConsumer` keep it;
* `AppSrcsKept` — that, together with the probe invariant of `Membership` (the probes that
  forward to the producer's appsink are one per binding, on the binding's appsrc);
* `AppSrcsKept.step`, `AppSrcsKept.exec` — the callbacks of the streaming thread and the
  latency probe swap flags and record calls, but configure no appsrc and install or remove
  no probe, so every step keeps the invariant, and so does every run;
* `bound_appsrcs_stay_configured` — from a new producer, over every interleaving.

Design notes: an appsrc has the properties `add_consumer` sets exactly when setting them
again changes nothing (`configure_eq_self_iff`), which is the form the invariant is kept
in; the main theorem states the four values.
-/

namespace Auteur

namespace AppSrcState

@[simp] theorem configure_configure (s : AppSrcState) : s.configure.configure = s.configure :=
  rfl

theorem configure_addProbe (a : AppSink) (s : AppSrcState) :
    (s.addProbe a).configure = s.configure.addProbe a :=
  rfl

theorem configure_removeProbe (id : PadProbeId) (s : AppSrcState) :
    (s.removeProbe id).configure = s.configure.removeProbe id :=
  rfl

theorem configure_eq_self_iff {s : AppSrcState} :
    s.configure = s ↔ s.maxBuffers = 0 ∧ s.maxBytes = 0 ∧ s.maxTime = 500 * ClockTime.msecond ∧
      s.leakyType = .downstream := by
  refine ⟨fun h => h ▸ ⟨rfl, rfl, rfl, rfl⟩, fun h => ?_⟩
  obtain ⟨h₁, h₂, h₃, h₄⟩ := h
  cases s
  simp only at h₁ h₂ h₃ h₄
  subst h₁ h₂ h₃ h₄
  rfl

end AppSrcState

/-! ### The callbacks touch no appsrc -/

section Visit

variable (appsink : AppSink) (latency : Option Nat) (u : Bool)

theorem visit_appsrcs (c : StreamConsumer) (w : Elements) (r : Bool) :
    (visit appsink latency u c w r).2.1.appsrcs = w.appsrcs := by
  unfold visit
  cases latency <;> dsimp only <;> split <;> (try split) <;> rfl

theorem visitAll_appsrcs : ∀ (es : List ((_ : String) × StreamConsumer)) (w : Elements) (r : Bool),
    (visitAll appsink latency u es w r).2.1.appsrcs = w.appsrcs
  | [], _, _ => rfl
  | e :: es, w, r => by
    simp only [visitAll, visitAll_appsrcs es, visit_appsrcs]

end Visit

/-! ### Membership changes -/

namespace StreamConsumers

/-- Every appsrc bound in `p` has the queueing properties `add_consumer` sets. -/
def Configured (p : StreamConsumers) (w : Elements) : Prop :=
  ∀ k c, p.consumers.lookup k = some c → (w.appsrcs c.appsrc).configure = w.appsrcs c.appsrc

variable {appsink : AppSink} {p : StreamConsumers} {w : Elements}

/-- `add_consumer` configures the appsrc it binds, and only adds a probe to it. -/
theorem configured_addConsumer (h : Configured p w) (a : AppSrc) (k : String) :
    Configured (p.addConsumer appsink a k w).1 (p.addConsumer appsink a k w).2 := by
  by_cases hk : k ∈ p.consumers
  · simpa only [addConsumer_of_mem hk] using h
  · rw [addConsumer_of_not_mem hk]
    intro k' c hc
    simp only [Elements.updateAppSrc_appsrcs]
    rcases Table.lookup_insert_eq_some hc with ⟨-, rfl⟩ | ⟨-, hc⟩
    · simp [StreamConsumer.new, AppSrcState.configure_addProbe]
    · split
      · rw [AppSrcState.configure_addProbe, AppSrcState.configure_configure]
      · exact h k' c hc

/-- `remove_consumer` only removes the dropped consumer's probe. -/
theorem configured_removeConsumer (h : Configured p w) (k : String) :
    Configured (p.removeConsumer k w).1 (p.removeConsumer k w).2 := by
  cases hc₀ : p.consumers.lookup k with
  | none => simpa only [removeConsumer, hc₀] using h
  | some c₀ =>
    rw [removeConsumer_of_lookup hc₀]
    intro k' c hc
    have hc := (Table.lookup_erase_eq_some hc).2
    unfold StreamConsumer.drop
    split
    · simp only [Elements.updateAppSrc_appsrcs]
      split
      · rename_i he
        rw [AppSrcState.configure_removeProbe, ← he, h k' c hc]
      · exact h k' c hc
    · exact h k' c hc

end StreamConsumers

/-! ### Every step of the interleaving -/

@[simp] theorem step_appsink (p : Producer) (e : Event) : (step p e).appsink = p.appsink := by
  cases e <;> dsimp only [step, latencyLocked, eosLocked, nextOwed, newSampleLocked] <;>
    repeat' split
  all_goals rfl

@[simp] theorem exec_appsink : ∀ (p : Producer) (es : List Event), (exec p es).appsink = p.appsink
  | _, [] => rfl
  | p, e :: es => (exec_appsink _ es).trans (step_appsink p e)

/-- What a producer keeps of the appsrcs it is bound to: their configuration, and one
force-key-unit probe per binding. -/
structure AppSrcsKept (p : Producer) : Prop where
  configured : StreamConsumers.Configured p.consumers p.elements
  probes : StreamConsumers.ProbeInv p.appsink p.consumers p.elements

namespace AppSrcsKept

variable {p : Producer}

/-- A step that keeps the appsink and every appsrc, and at most swaps the flags of each
binding, keeps the invariant. -/
theorem of_visited (h : AppSrcsKept p) {p' : Producer} (l : Option Nat)
    (hs : p'.appsink = p.appsink)
    (hc : p'.consumers.consumers = p.consumers.consumers.map (StreamConsumer.visited l))
    (he : p'.elements.appsrcs = p.elements.appsrcs) : AppSrcsKept p' := by
  have hlookup : ∀ k c, p'.consumers.consumers.lookup k = some c →
      ∃ c₀, p.consumers.consumers.lookup k = some c₀ ∧ c = c₀.visited l := fun k c hk => by
    rw [hc, Table.lookup_map] at hk
    obtain ⟨c₀, h₀, rfl⟩ := Option.map_eq_some'.1 hk
    exact ⟨c₀, h₀, rfl⟩
  have hids : ∀ a, StreamConsumers.probeIdsOn p'.consumers a =
      StreamConsumers.probeIdsOn p.consumers a := fun a => by
    simp only [StreamConsumers.probeIdsOn, hc, Table.map, List.filterMap_map]
    rfl
  refine ⟨fun k c hk => ?_, ⟨fun k c hk => ?_, fun a => ?_⟩⟩
  · obtain ⟨c₀, h₀, rfl⟩ := hlookup k c hk
    rw [he]
    exact h.configured k c₀ h₀
  · obtain ⟨c₀, h₀, rfl⟩ := hlookup k c hk
    exact h.probes.held k c₀ h₀
  · rw [hids, StreamConsumers.probesOf, hs, he]
    exact h.probes.onPad a

theorem step (h : AppSrcsKept p) : ∀ e, AppSrcsKept (step p e)
  | .addConsumer a k =>
    ⟨StreamConsumers.configured_addConsumer h.configured a k,
      StreamConsumers.probeInv_addConsumer h.probes a k⟩
  | .removeConsumer k =>
    ⟨StreamConsumers.configured_removeConsumer h.configured k,
      StreamConsumers.probeInv_removeConsumer h.probes k⟩
  | .forward | .latency _ => ⟨h.configured, h.probes.held, h.probes.onPad⟩
  | .eos => by
    dsimp only [Auteur.step, eosLocked]
    split
    exacts [⟨h.configured, h.probes.held, h.probes.onPad⟩, h]
  | .next ok => by
    dsimp only [Auteur.step, nextOwed]
    split <;> exact ⟨h.configured, h.probes.held, h.probes.onPad⟩
  | .newSample ok => by
    dsimp only [Auteur.step]
    split
    · dsimp only [newSampleLocked]
      split
      · exact h
      · split
        · exact ⟨h.configured, h.probes.held, h.probes.onPad⟩
        · exact h.of_visited p.consumers.currentLatency rfl (visitTable_fst _ _ _ _ _)
            (visitAll_appsrcs _ _ _ _ _ _)
    · exact h

theorem exec : ∀ (es : List Event) {p : Producer}, AppSrcsKept p → AppSrcsKept (exec p es)
  | [], _, h => h
  | e :: es, _, h => exec es (h.step e)

/-- A new producer keeps the invariant, when no probe forwards to its appsink yet. -/
theorem new {appsink : AppSink} {appsrcs : AppSrc → AppSrcState}
    (hw : ∀ a, ∀ q ∈ (appsrcs a).probes, q.2 ≠ appsink) : AppSrcsKept (.new appsink appsrcs) :=
  ⟨fun k c h => by simp [Producer.new, StreamConsumers.new] at h,
    StreamConsumers.probeInv_new (w := ⟨appsrcs, []⟩) hw⟩

end AppSrcsKept

/-- **Bound appsrcs stay configured and probed.**  Over every interleaving of the actor
thread, the latency probe and the streaming thread on a new producer, whose appsink no probe
forwards to yet: every appsrc bound under some id keeps the queueing properties
`add_consumer` gave it (no buffer or byte limit, at most 500 ms queued, leaking downstream),
and a force-key-unit event sent upstream into any appsrc reaches the producer's appsink once
per binding of that appsrc. -/
theorem bound_appsrcs_stay_configured (appsink : AppSink) (appsrcs : AppSrc → AppSrcState)
    (hw : ∀ a, ∀ q ∈ (appsrcs a).probes, q.2 ≠ appsink) (es : List Event) :
    (∀ k c, (exec (.new appsink appsrcs) es).consumers.consumers.lookup k = some c →
      let s := (exec (.new appsink appsrcs) es).elements.appsrcs c.appsrc
      s.maxBuffers = 0 ∧ s.maxBytes = 0 ∧ s.maxTime = 500 * ClockTime.msecond ∧
        s.leakyType = .downstream) ∧
    ∀ a, (StreamConsumers.forceKeyUnitTargets (exec (.new appsink appsrcs) es).elements a).count
        appsink =
      ((exec (.new appsink appsrcs) es).consumers.consumers.entries.filter
        (·.2.appsrc = a)).length := by
  have h := (AppSrcsKept.new hw).exec es
  refine ⟨fun k c hk => AppSrcState.configure_eq_self_iff.1 (h.configured k c hk), fun a => ?_⟩
  have hp := h.probes.onPad a
  rw [exec_appsink] at hp
  rw [StreamConsumers.count_forceKeyUnitTargets]
  exact hp.length_eq.trans (StreamConsumers.length_probeIdsOn h.probes.held a)

/-- An appsrc bound under two ids, with samples delivered in between and one id removed,
forwards a keyframe request to the producer once. -/
theorem bound_appsrcs_stay_configured_across_samples :
    (∀ a, ∀ q ∈ (Elements.empty.appsrcs a).probes, q.2 ≠ 0) ∧
    (StreamConsumers.forceKeyUnitTargets (exec (.new 0 Elements.empty.appsrcs)
        [.addConsumer 1 "a", .forward, .newSample true, .addConsumer 1 "b", .next true,
          .removeConsumer "a"]).elements 1).count 0 = 1 :=
  have hw : ∀ a, ∀ q ∈ (Elements.empty.appsrcs a).probes, q.2 ≠ 0 := fun _ _ h => by
    simp [Elements.empty, AppSrcState.new] at h
  ⟨hw, ((bound_appsrcs_stay_configured 0 _ hw _).2 1).trans (by decide)⟩

end Auteur
