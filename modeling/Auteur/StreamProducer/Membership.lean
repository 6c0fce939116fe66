import Auteur.StreamProducer.Basic

/-!
Membership of a producer over every sequence of `add_consumer` and `remove_consumer` calls.

* `follows_runCalls` — the consumer map, read through each binding's appsrc, is the
  reference map that binds an id only if it is absent and deletes it on removal (`refRun`);
* `probeInv_runCalls` — on every appsrc, the probes that forward to the producer's appsink
  are exactly the probe ids that the bindings to that appsrc hold, one per binding;
* `consumer_map_follows_reference` — both from a new producer, together with
  `get_consumer_ids` and the fact that a second `add_consumer` under a bound id changes
  nothing;
* `forceKeyUnitTargets`, `keyframe_requests_follow_bindings` — the probes send a
  force-key-unit event from an appsrc on to the producer's appsink once per binding of that
  appsrc.

Design notes: the reference map is written from the spec's words, on `Table AppSrc`; the
consumer map is compared with it through `lookup`, which is what equality of two
`HashMap`s means.  The probe invariant is a permutation per appsrc, so that it counts
probes: one per binding, none left over.
-/

namespace Auteur
namespace StreamConsumers

/-- A call on a producer's membership. -/
inductive MembershipCall
  | addConsumer (consumer : AppSrc) (consumerId : String)
  | removeConsumer (consumerId : String)

/-- One call on the producer of `appsink`. -/
def call (appsink : AppSink) :
    MembershipCall → StreamConsumers × Elements → StreamConsumers × Elements
  | .addConsumer a k, (p, w) => p.addConsumer appsink a k w
  | .removeConsumer k, (p, w) => p.removeConsumer k w

/-- A sequence of calls, in order. -/
def runCalls (appsink : AppSink) :
    List MembershipCall → StreamConsumers × Elements → StreamConsumers × Elements
  | [], s => s
  | c :: cs, s => runCalls appsink cs (call appsink c s)

/-- The reference map of the spec: an add binds the id if it is absent, a remove
deletes it. -/
def refCall : MembershipCall → Table AppSrc → Table AppSrc
  | .addConsumer a k, m => if k ∈ m then m else m.insert k a
  | .removeConsumer k, m => m.erase k

/-- The reference map after a sequence of calls. -/
def refRun : List MembershipCall → Table AppSrc → Table AppSrc
  | [], m => m
  | c :: cs, m => refRun cs (refCall c m)

/-- The consumer map of `p`, read through each binding's appsrc, is `m`. -/
def Follows (p : StreamConsumers) (m : Table AppSrc) : Prop :=
  ∀ k, (p.consumers.lookup k).map StreamConsumer.appsrc = m.lookup k

theorem Follows.mem_iff {p : StreamConsumers} {m : Table AppSrc} (h : Follows p m) (k : String) :
    k ∈ p.consumers ↔ k ∈ m := by
  rw [← AList.lookup_isSome, ← AList.lookup_isSome, ← h k]
  cases p.consumers.lookup k <;> rfl

theorem follows_call (appsink : AppSink) (c : MembershipCall) {s : StreamConsumers × Elements}
    {m : Table AppSrc} (h : Follows s.1 m) : Follows (call appsink c s).1 (refCall c m) := by
  obtain ⟨p, w⟩ := s
  intro k'
  cases c with
  | addConsumer a k =>
    by_cases hk : k ∈ p.consumers
    · simp only [call, refCall, addConsumer_of_mem hk, if_pos ((h.mem_iff k).1 hk)]
      exact h k'
    · simp only [call, refCall, addConsumer_of_not_mem hk, if_neg (mt (h.mem_iff k).2 hk)]
      by_cases e : k' = k
      · subst e; simp [StreamConsumer.new]
      · simp [e, h k']
  | removeConsumer k =>
    simp only [call, refCall, removeConsumer_consumers]
    by_cases e : k' = k
    · subst e; simp
    · simp [e, h k']

theorem follows_runCalls (appsink : AppSink) :
    ∀ (cs : List MembershipCall) {s : StreamConsumers × Elements} {m : Table AppSrc},
      Follows s.1 m → Follows (runCalls appsink cs s).1 (refRun cs m)
  | [], _, _, h => h
  | c :: cs, _, _, h => follows_runCalls appsink cs (follows_call appsink c h)

/-! ### Force-key-unit probes -/

/-- The probe ids held by the bindings of `p` to the appsrc `a`. -/
def probeIdsOn (p : StreamConsumers) (a : AppSrc) : List PadProbeId :=
  p.consumers.entries.filterMap fun e => if e.2.appsrc = a then e.2.fkuProbeId else none

/-- The ids of the probes on the src pad of `a` that forward to `appsink`. -/
def probesOf (appsink : AppSink) (w : Elements) (a : AppSrc) : List PadProbeId :=
  ((w.appsrcs a).probes.filter (·.2 = appsink)).map Prod.fst

/-- The probes of a producer: every binding holds a probe, and on every appsrc the probes
forwarding to the producer's appsink are the ones its bindings to that appsrc hold. -/
structure ProbeInv (appsink : AppSink) (p : StreamConsumers) (w : Elements) : Prop where
  held : ∀ k c, p.consumers.lookup k = some c → c.fkuProbeId.isSome
  onPad : ∀ a, (probesOf appsink w a).Perm (probeIdsOn p a)

theorem probesOf_nodup (appsink : AppSink) (w : Elements) (a : AppSrc) :
    (probesOf appsink w a).Nodup :=
  ((List.filter_sublist _).map Prod.fst).nodup (w.appsrcs a).probes_nodup

/-- Erasing a bound key removes exactly its consumer's contribution. -/
theorem probeIdsOn_erase {p : StreamConsumers} {k : String} {c : StreamConsumer}
    (hc : p.consumers.lookup k = some c) (a : AppSrc) :
    ∃ l₁ l₂, probeIdsOn p a = l₁ ++ (if c.appsrc = a then c.fkuProbeId else none).toList ++ l₂ ∧
      probeIdsOn { p with consumers := p.consumers.erase k } a = l₁ ++ l₂ := by
  have hk : k ∈ p.consumers.entries.keys := AList.mem_keys.1 (AList.lookup_isSome.1 (by simp [hc]))
  obtain ⟨b, e₁, e₂, hn, he, hr⟩ := List.exists_of_kerase hk
  have hb : b = c := by
    have : p.consumers.entries.dlookup k = some b := by
      rw [he, List.dlookup_append, List.dlookup_eq_none.2 hn, List.dlookup_cons_eq]; rfl
    exact Option.some_injective _ (this.symm.trans hc)
  subst hb
  let g : (_ : String) × StreamConsumer → Option PadProbeId := fun e =>
    if e.2.appsrc = a then e.2.fkuProbeId else none
  refine ⟨e₁.filterMap g, e₂.filterMap g, ?_, ?_⟩
  · rw [probeIdsOn, he, List.filterMap_append, List.filterMap_cons]
    cases h : g ⟨k, b⟩ <;> simp_all [g]
  · show (p.consumers.entries.kerase k).filterMap g = _
    rw [hr, List.filterMap_append]

/-- An `add_consumer` under a fresh id installs one probe on the appsrc and records it in the
new binding. -/
theorem probeInv_addConsumer {appsink : AppSink} {p : StreamConsumers} {w : Elements}
    (h : ProbeInv appsink p w) (a : AppSrc) (k : String) :
    ProbeInv appsink (p.addConsumer appsink a k w).1 (p.addConsumer appsink a k w).2 := by
  by_cases hk : k ∈ p.consumers
  · simpa only [addConsumer_of_mem hk] using h
  · simp only [addConsumer_of_not_mem hk]
    set c₀ := StreamConsumer.new a (w.appsrcs a).nextProbeId with hc₀
    refine ⟨fun k' c' hc' => ?_, fun b => ?_⟩
    · by_cases e : k' = k
      · subst e; simp at hc'; simp [← hc', hc₀, StreamConsumer.new]
      · exact h.held k' c' (by simpa [e] using hc')
    · have hins : probeIdsOn { p with consumers := p.consumers.insert k c₀ } b =
          (if a = b then [(w.appsrcs a).nextProbeId] else []) ++ probeIdsOn p b := by
        simp only [probeIdsOn, AList.insert_entries_of_neg hk, List.filterMap_cons, hc₀,
          StreamConsumer.new]
        split <;> simp_all
      rw [hins]
      by_cases e : b = a
      · subst e
        simp only [probesOf, Elements.updateAppSrc_appsrcs, if_true,
          AppSrcState.addProbe_probes, AppSrcState.configure_probes,
          AppSrcState.configure_nextProbeId, List.filter_append, List.map_append]
        simpa using ((h.onPad b).append_right _).trans (List.perm_append_singleton _ _)
      · simpa [probesOf, e, Ne.symm e] using h.onPad b

/-- A `remove_consumer` of a bound id drops its consumer, whose probe goes from the appsrc
and from the bindings alike. -/
theorem probeInv_removeConsumer {appsink : AppSink} {p : StreamConsumers} {w : Elements}
    (h : ProbeInv appsink p w) (k : String) :
    ProbeInv appsink (p.removeConsumer k w).1 (p.removeConsumer k w).2 := by
  cases hc : p.consumers.lookup k with
  | none => simpa only [removeConsumer, hc] using h
  | some c =>
    rw [removeConsumer_of_lookup hc]
    refine ⟨fun k' c' hc' => ?_, fun b => ?_⟩
    · by_cases e : k' = k
      · subst e; simp at hc'
      · exact h.held k' c' (by simpa [e] using hc')
    · obtain ⟨l₁, l₂, hold, hnew⟩ := probeIdsOn_erase hc b
      obtain ⟨i, hi⟩ := Option.isSome_iff_exists.1 (h.held k c hc)
      rw [hnew]
      by_cases e : c.appsrc = b
      · -- the probe `i` of the consumer leaves both lists, where it occurs once
        have hnd := (h.onPad b).nodup_iff.1 (probesOf_nodup appsink w b)
        rw [hold, hi, if_pos e] at hnd
        have h₁ : i ∉ l₁ := fun m =>
          (List.nodup_append.1 (List.nodup_append.1 hnd).1).2.2 m (List.mem_singleton_self i)
        have hl : probesOf appsink (c.drop w) b = (probesOf appsink w b).erase i := by
          rw [(probesOf_nodup appsink w b).erase_eq_filter]
          simp only [StreamConsumer.drop, hi, probesOf, Elements.updateAppSrc_appsrcs, e,
            if_true, AppSrcState.removeProbe_probes, List.filter_map, List.filter_filter]
          congr 1
          exact List.filter_congr fun x _ => by
            rw [Bool.and_comm]; cases h : x.1 == i <;> simp_all
        have hperm := (h.onPad b).erase i
        rw [hold, hi, if_pos e, List.append_assoc, List.erase_append_right _ h₁] at hperm
        rw [hl]; simpa using hperm
      · have hold' : probeIdsOn p b = l₁ ++ l₂ := by simpa [e] using hold
        rw [← hold']
        simpa [StreamConsumer.drop, hi, probesOf, Ne.symm e] using h.onPad b

theorem probeInv_call (appsink : AppSink) (c : MembershipCall) {s : StreamConsumers × Elements}
    (h : ProbeInv appsink s.1 s.2) :
    ProbeInv appsink (call appsink c s).1 (call appsink c s).2 := by
  obtain ⟨p, w⟩ := s
  cases c with
  | addConsumer a k => exact probeInv_addConsumer h a k
  | removeConsumer k => exact probeInv_removeConsumer h k

theorem probeInv_runCalls (appsink : AppSink) :
    ∀ (cs : List MembershipCall) {s : StreamConsumers × Elements},
      ProbeInv appsink s.1 s.2 →
        ProbeInv appsink (runCalls appsink cs s).1 (runCalls appsink cs s).2
  | [], _, h => h
  | c :: cs, _, h => probeInv_runCalls appsink cs (probeInv_call appsink c h)

/-- A new producer satisfies the probe invariant, when no probe forwards to its appsink yet. -/
theorem probeInv_new {appsink : AppSink} {w : Elements}
    (hw : ∀ a, ∀ q ∈ (w.appsrcs a).probes, q.2 ≠ appsink) : ProbeInv appsink .new w where
  held k c h := by simp [StreamConsumers.new] at h
  onPad a := by
    rw [show probesOf appsink w a = [] from by
      simpa [probesOf, List.filter_eq_nil_iff] using hw a]
    rfl

/-- **Membership.**  For every sequence of `add_consumer` and `remove_consumer` calls on a new
producer: its consumer map is the reference map that binds an absent id and deletes a
removed one, `get_consumer_ids` lists exactly its keys, once each, the probes forwarding to
its appsink are one per binding on that binding's appsrc, and an `add_consumer` under a
bound id changes nothing, neither the binding nor any appsrc. -/
theorem consumer_map_follows_reference (appsink : AppSink) (w : Elements)
    (hw : ∀ a, ∀ q ∈ (w.appsrcs a).probes, q.2 ≠ appsink) (cs : List MembershipCall) :
    Follows (runCalls appsink cs (.new, w)).1 (refRun cs ∅) ∧
    (∀ k, k ∈ (runCalls appsink cs (.new, w)).1.getConsumerIds ↔ k ∈ refRun cs ∅) ∧
    (runCalls appsink cs (.new, w)).1.getConsumerIds.Nodup ∧
    ProbeInv appsink (runCalls appsink cs (.new, w)).1 (runCalls appsink cs (.new, w)).2 ∧
    ∀ a k, k ∈ (runCalls appsink cs (.new, w)).1.consumers →
      (runCalls appsink cs (.new, w)).1.addConsumer appsink a k (runCalls appsink cs (.new, w)).2 =
        runCalls appsink cs (.new, w) := by
  have hf := follows_runCalls appsink cs (s := (.new, w)) (m := ∅) fun k => by
    simp [StreamConsumers.new]
  refine ⟨hf, fun k => ?_, AList.keys_nodup _,
    probeInv_runCalls appsink cs (probeInv_new hw), fun a k hk => addConsumer_of_mem hk _⟩
  rw [getConsumerIds, ← AList.mem_keys, hf.mem_iff]

/-- The theorem on untouched elements, for an add of `"a"`, a second add of `"a"` and its
removal. -/
theorem consumer_map_follows_reference_on_empty :
    (∀ a, ∀ q ∈ (Elements.empty.appsrcs a).probes, q.2 ≠ 0) ∧
    Follows (runCalls 0 [.addConsumer 1 "a", .addConsumer 2 "a", .removeConsumer "a"]
      (.new, .empty)).1 (refRun [.addConsumer 1 "a", .addConsumer 2 "a", .removeConsumer "a"] ∅) :=
  have hw : ∀ a, ∀ q ∈ (Elements.empty.appsrcs a).probes, q.2 ≠ 0 := fun _ _ h => by
    simp [Elements.empty, AppSrcState.new] at h
  ⟨hw, (consumer_map_follows_reference 0 .empty hw _).1⟩

/-! ### Force-key-unit events from a consumer -/

/-- The appsinks that a force-key-unit event sent upstream into the `src` pad of `a` reaches,
in the order the probes were installed: the probe of `add_consumer` sends such an event on to
its appsink (`appsink.send_event(ev.clone())`), and lets every event pass. -/
def forceKeyUnitTargets (w : Elements) (a : AppSrc) : List AppSink :=
  (w.appsrcs a).probes.map Prod.snd

theorem count_forceKeyUnitTargets (w : Elements) (appsink : AppSink) (a : AppSrc) :
    (forceKeyUnitTargets w a).count appsink = (probesOf appsink w a).length := by
  rw [forceKeyUnitTargets, probesOf, List.length_map, List.count, List.countP_map,
    List.countP_eq_length_filter]
  congr 1

/-- With every binding holding its probe, the probes on `a` count the bindings to `a`. -/
theorem length_probeIdsOn {p : StreamConsumers}
    (h : ∀ k c, p.consumers.lookup k = some c → c.fkuProbeId.isSome) (a : AppSrc) :
    (probeIdsOn p a).length = (p.consumers.entries.filter (·.2.appsrc = a)).length := by
  have hl : ∀ e ∈ p.consumers.entries, e.2.fkuProbeId.isSome := fun e he =>
    h e.1 e.2 (AList.mem_lookup_iff.2 he)
  unfold probeIdsOn
  generalize p.consumers.entries = l at hl ⊢
  induction l with
  | nil => rfl
  | cons e rest ih =>
    obtain ⟨id, hid⟩ := Option.isSome_iff_exists.1 (hl e (.head _))
    have ih := ih fun e he => hl e (.tail _ he)
    by_cases ha : e.2.appsrc = a <;> simp [List.filterMap_cons, List.filter_cons, ha, hid, ih]

/-- **A keyframe request from a consumer reaches its producer once per binding.**  After any
sequence of `add_consumer` and `remove_consumer` calls on the producer of `appsink`, starting
where no probe forwards to `appsink`, a force-key-unit event sent upstream into appsrc `a` is
sent on to `appsink` exactly as many times as `a` is bound under some id, and not at all once
no id binds it. -/
theorem keyframe_requests_follow_bindings (appsink : AppSink) (w : Elements)
    (hw : ∀ a, ∀ q ∈ (w.appsrcs a).probes, q.2 ≠ appsink) (cs : List MembershipCall)
    (a : AppSrc) :
    (forceKeyUnitTargets (runCalls appsink cs (.new, w)).2 a).count appsink =
      ((runCalls appsink cs (.new, w)).1.consumers.entries.filter (·.2.appsrc = a)).length := by
  have hp := probeInv_runCalls appsink cs (s := (.new, w)) (probeInv_new hw)
  rw [count_forceKeyUnitTargets, (hp.onPad a).length_eq, length_probeIdsOn hp.held]

/-- An appsrc bound under two ids of a producer forwards a keyframe request to it twice. -/
theorem keyframe_requests_follow_bindings_twice :
    (∀ a, ∀ q ∈ (Elements.empty.appsrcs a).probes, q.2 ≠ 0) ∧
    (forceKeyUnitTargets (runCalls 0 [.addConsumer 1 "a", .addConsumer 1 "b"] (.new, .empty)).2
        1).count 0 =
      ((runCalls 0 [.addConsumer 1 "a", .addConsumer 1 "b"] (.new, .empty)).1.consumers.entries.filter
        (·.2.appsrc = 1)).length :=
  have hw : ∀ a, ∀ q ∈ (Elements.empty.appsrcs a).probes, q.2 ≠ 0 := fun _ _ h => by
    simp [Elements.empty, AppSrcState.new] at h
  ⟨hw, keyframe_requests_follow_bindings 0 .empty hw _ 1⟩

end StreamConsumers
end Auteur
