import Auteur.Mixer.Actor
import Auteur.Mixer.Wiring
import Auteur.StreamProducer.Flags

/-!
The mixer's slots and the consumer maps of the producers that feed them, over whole runs.

A slot is fed once `connect_slot` has added its two appsrcs as consumers of its two producers
under its link id; `disconnect` and `Actor::stopped` remove them again.  The two views are
kept apart in the sources (the slots in the mixer, the consumer maps behind each producer's
mutex), and this file shows that they agree on every run of a mixer whose producers start
with no consumer:

* `World.binding` — the appsrc a producer feeds under a link id;
* `Mixer.slotBinding` — the appsrc the mixer's slots have it feed there: that of the slot
  recorded under the id, once its bins are built;
* `BindingsFollowSlots` — the two agree under every link id, on every producer;
  `BindingsFollowSlots.connect`, `.disconnect`, `.startPipeline`, `.stopped` — the requests,
  the start and the end of the actor keep them agreeing;
* `BindingsKept.step`, `BindingsKept.run` — so does every event, and a stopped mixer has no
  slot left;
* `consumers_follow_slots` — on every run from `Mixer::new`, the producers feed exactly the
  built slots, and none once the mixer has stopped.

Design notes: `add_consumer` keeps the first consumer under an id, so a slot whose video and
audio producers are the same producer is fed its video appsrc only (`ConsumerSlot.feeds`).
The consumer maps the view reads are those of `StreamProducer::add_consumer` and
`remove_consumer` (`StreamProducer/Basic.lean`): the probes and appsrc settings they change
are not read here.
-/

namespace Auteur

/-! ### The two views -/

/-- The appsrc that producer `p` feeds under link id `k`, if any. -/
def World.binding (w : World) (p : AppSink) (k : String) : Option AppSrc :=
  ((w.producers p).consumers.lookup k).map StreamConsumer.appsrc

/-- The appsrc a slot has producer `p` feed: its video appsrc on its video producer, its
audio appsrc on its audio producer, the video one if both producers are the same. -/
def ConsumerSlot.feeds (slot : ConsumerSlot) (p : AppSink) : Option AppSrc :=
  if p = slot.videoProducer then some slot.videoAppsrc
  else if p = slot.audioProducer then some slot.audioAppsrc
  else none

/-- The appsrc the mixer's slots have producer `p` feed under link id `k`: that of the slot
recorded under `k` once `connect_slot` has built its bins, and none otherwise. -/
def Mixer.slotBinding (m : Mixer) (p : AppSink) (k : String) : Option AppSrc :=
  (m.consumerSlots.lookup k).bind fun slot => if slot.videoBin.isSome then slot.feeds p else none

namespace World

/-- `add_consumer` binds the appsrc under the id, unless the producer has a consumer there. -/
theorem binding_addConsumer (w : World) (p : AppSink) (a : AppSrc) (k : String) (q : AppSink)
    (k' : String) : (w.addConsumer p a k).binding q k' =
      if q = p ∧ k' = k ∧ w.binding p k = none then some a else w.binding q k' := by
  by_cases hq : q = p
  · subst hq
    simp only [binding, addConsumer, Function.update_same,
      StreamConsumers.addConsumer_lookup, apply_ite (Option.map StreamConsumer.appsrc)]
    simp [AList.lookup_eq_none, StreamConsumer.new]
  · simp [binding, addConsumer, hq]

/-- `remove_consumer` unbinds the id. -/
theorem binding_removeConsumer (w : World) (p : AppSink) (k : String) (q : AppSink)
    (k' : String) : (w.removeConsumer p k).binding q k' =
      if q = p ∧ k' = k then none else w.binding q k' := by
  by_cases hq : q = p
  · subst hq
    by_cases hk : k' = k
    · subst hk; simp [binding, removeConsumer, AList.lookup_erase]
    · simp [binding, removeConsumer, hk, AList.lookup_erase_ne hk]
  · simp [binding, removeConsumer, hq]

/-- The bindings read the consumer maps only. -/
theorem binding_eq_of_producers {w w' : World} (h : w'.producers = w.producers) :
    w'.binding = w.binding := by
  unfold binding; rw [h]

@[simp] theorem binding_forward (w : World) (p : AppSink) : (w.forward p).binding = w.binding := by
  funext q k
  by_cases hq : q = p
  · subst hq; simp [binding, forward, StreamConsumers.forward]
  · simp [binding, forward, hq]

/-- Binding a slot's two appsrcs under `k`, where `k` is bound nowhere or already as the slot
asks, binds it as it asks. -/
theorem binding_feed {w : World} {slot : ConsumerSlot} {k : String}
    (h : (∀ q, w.binding q k = none) ∨ ∀ q, w.binding q k = slot.feeds q) (q : AppSink)
    (k' : String) :
    ((w.addConsumer slot.videoProducer slot.videoAppsrc k).addConsumer slot.audioProducer
      slot.audioAppsrc k).binding q k' = if k' = k then slot.feeds q else w.binding q k' := by
  simp only [binding_addConsumer]
  by_cases hk : k' = k
  · subst hk
    rcases h with h | h <;> by_cases hv : q = slot.videoProducer <;>
      by_cases ha : q = slot.audioProducer <;> by_cases hva : slot.audioProducer = slot.videoProducer <;>
      simp_all [ConsumerSlot.feeds]
  · simp [hk]

end World

namespace ConsumerSlot

theorem eq_of_feeds_isSome {slot : ConsumerSlot} {p : AppSink} (h : (slot.feeds p).isSome) :
    p = slot.videoProducer ∨ p = slot.audioProducer := by
  unfold feeds at h
  split_ifs at h with hv ha
  · exact .inl hv
  · exact .inr ha
  · cases h

end ConsumerSlot

namespace Mixer

theorem slotBinding_eq_of_slots {m m' : Mixer} (h : m'.consumerSlots = m.consumerSlots) :
    m'.slotBinding = m.slotBinding := by
  unfold slotBinding; rw [h]

theorem slotBinding_of_lookup {m : Mixer} {k : String} {slot : ConsumerSlot}
    (h : m.consumerSlots.lookup k = some slot) :
    (∀ q, m.slotBinding q k = none) ∨ ∀ q, m.slotBinding q k = slot.feeds q := by
  simp only [slotBinding, h, Option.some_bind]
  by_cases hb : slot.videoBin.isSome <;> simp [hb]

theorem slotBinding_of_lookup_none {m : Mixer} {k : String} (h : m.consumerSlots.lookup k = none)
    (q : AppSink) : m.slotBinding q k = none := by
  simp [slotBinding, h]

theorem slotBinding_of_empty {m : Mixer} (h : m.consumerSlots = ∅) (q : AppSink) (k : String) :
    m.slotBinding q k = none :=
  slotBinding_of_lookup_none (by rw [h]; rfl) q

/-- A slot binds a producer only if it is one of the slot's two. -/
theorem slotBinding_eq_none_or (m : Mixer) (q : AppSink) (k : String) :
    m.slotBinding q k = none ∨ ∃ slot, m.consumerSlots.lookup k = some slot ∧
      (q = slot.videoProducer ∨ q = slot.audioProducer) := by
  unfold slotBinding
  cases hk : m.consumerSlots.lookup k with
  | none => exact .inl rfl
  | some slot =>
    simp only [Option.some_bind]
    split_ifs
    · cases hf : slot.feeds q
      · exact .inl rfl
      · exact .inr ⟨slot, rfl, ConsumerSlot.eq_of_feeds_isSome (by simp [hf])⟩
    · exact .inl rfl

end Mixer

@[simp] theorem slotBinding_insertSlot (k : String) (slot : ConsumerSlot) (s : Node)
    (q : AppSink) (k' : String) :
    (insertSlot k slot s).mixer.slotBinding q k' =
      if k' = k then (if slot.videoBin.isSome then slot.feeds q else none)
      else s.mixer.slotBinding q k' := by
  by_cases hk : k' = k
  · subst hk; simp [insertSlot, Mixer.slotBinding, AList.lookup_insert]
  · simp [insertSlot, Mixer.slotBinding, hk, AList.lookup_insert_ne hk]

/-! ### The two views agree -/

/-- The producers' consumer maps follow the slots: under every link id, every producer feeds
exactly the appsrc the mixer's slots have it feed. -/
def BindingsFollowSlots (s : Node) : Prop :=
  ∀ p k, s.world.binding p k = s.mixer.slotBinding p k

namespace BindingsFollowSlots

variable {s s' : Node}

theorem of_eq (h : BindingsFollowSlots s) (hsl : s'.mixer.consumerSlots = s.mixer.consumerSlots)
    (hw : s'.world.binding = s.world.binding) : BindingsFollowSlots s' := fun p k => by
  rw [hw, h p k, Mixer.slotBinding_eq_of_slots hsl]

/-- A link id no slot holds is bound on no producer. -/
theorem binding_eq_none (h : BindingsFollowSlots s) {k : String}
    (hk : s.mixer.consumerSlots.lookup k = none) (q : AppSink) : s.world.binding q k = none :=
  (h q k).trans (Mixer.slotBinding_of_lookup_none hk q)

/-- `connect_slot` builds a slot that is recorded under `k`, or that no slot holds `k` for, and
the slot it returns, once recorded, is fed as it asks. -/
theorem connectSlot (h : BindingsFollowSlots s) {faults : SlotFaults} {k : String}
    {slot slot' : ConsumerSlot} {r : Node}
    (hk : s.mixer.consumerSlots.lookup k = some slot ∨ s.mixer.consumerSlots.lookup k = none)
    (hc : Auteur.connectSlot faults k slot s = .ok (slot', r)) :
    BindingsFollowSlots (insertSlot k slot' r) := by
  have hsl : r.mixer.consumerSlots = s.mixer.consumerSlots := by
    rw [(connectSlot_rewired _ _ _ _ (slot', r) (by rw [hc]; rfl)).1]
  have hfeed : (∀ q, s.world.binding q k = none) ∨ ∀ q, s.world.binding q k = slot.feeds q := by
    rcases hk with hk | hk
    · simpa only [h _ k] using Mixer.slotBinding_of_lookup hk
    · exact .inl (h.binding_eq_none hk)
  obtain ⟨rfl, -⟩ := connectSlot_built hc
  intro q k'
  rw [show (insertSlot k _ r).world = r.world from rfl, connectSlot_world hc,
    World.binding_feed (w := s.world.make.1.make.1) hfeed, slotBinding_insertSlot]
  split_ifs with hk' hb
  · rfl
  · exact absurd rfl hb
  · rw [Mixer.slotBinding_eq_of_slots hsl]; exact h q k'

/-- A slot's bins failing to build leave the slots and the consumer maps as they were. -/
theorem connectSlot_err (h : BindingsFollowSlots s) {faults : SlotFaults} {k : String}
    {slot : ConsumerSlot} {r : ConsumerSlot × Node} {e : String}
    (hc : Auteur.connectSlot faults k slot s = .err r e) : BindingsFollowSlots r.2 :=
  h.of_eq (by rw [(connectSlot_rewired _ _ _ _ r (by rw [hc]; rfl)).1])
    (by rw [connectSlot_err_world hc]; rfl)

/-- **`connect` keeps the two views agreeing**: it records the slot unbuilt and unfed, or, once
the mixer is `Started`, built and fed; on an error it feeds nothing new. -/
theorem connect (h : BindingsFollowSlots s) {k : String} {vp ap : AppSink}
    {config : Option (Table Value)} {faults : SlotFaults}
    (hc : (Auteur.connect k vp ap config faults s).state? = some s') : BindingsFollowSlots s' := by
  unfold Auteur.connect at hc
  split_ifs at hc with hmem
  · cases hc; exact h
  have hnone : s.mixer.consumerSlots.lookup k = none := AList.lookup_eq_none.2 hmem
  rcases Outcome.state?_bind hc with ⟨s₁, h₁, hc⟩ | ⟨e, h₁⟩
  · obtain ⟨hr₁, hw₁, -, -⟩ := applySlotConfig_rewired _ _ _ _ s₁ (by rw [h₁]; rfl)
    have h₁' : BindingsFollowSlots s₁ := h.of_eq (by rw [hr₁]) (by rw [hw₁])
    have hnone₁ : s₁.mixer.consumerSlots.lookup k = none := by rw [hr₁]; exact hnone
    dsimp only at hc
    split_ifs at hc
    · split at hc
      · split at hc
        · rename_i h₂
          cases hc
          refine connectSlot ?_ (.inr ?_) h₂
          exacts [h₁'.of_eq rfl rfl, hnone₁]
        · rename_i h₂
          cases hc
          refine connectSlot_err ?_ h₂
          exact h₁'.of_eq rfl rfl
        · cases hc
      · cases hc
    · cases hc
      intro q k'
      rw [slotBinding_insertSlot]
      split_ifs with hk hb
      · cases hb
      · subst hk; exact h₁'.binding_eq_none hnone₁ q
      · exact h₁' q k'
  · obtain ⟨hr₁, hw₁, -, -⟩ := applySlotConfig_rewired _ _ _ _ s' (by rw [h₁]; rfl)
    exact h.of_eq (by rw [hr₁]) (by rw [hw₁])

/-- Erasing a slot and removing its two consumers keeps the two views agreeing. -/
theorem eraseSlot (h : BindingsFollowSlots s) {k : String} {slot : ConsumerSlot}
    (hk : s.mixer.consumerSlots.lookup k = some slot) :
    BindingsFollowSlots { s with
      mixer := { s.mixer with consumerSlots := s.mixer.consumerSlots.erase k }
      world := (s.world.removeConsumer slot.videoProducer k).removeConsumer
        slot.audioProducer k } := by
  intro q k'
  simp only [World.binding_removeConsumer]
  by_cases hk' : k' = k
  · subst hk'
    rw [Mixer.slotBinding, AList.lookup_erase, Option.none_bind]
    split_ifs with ha hv
    · rfl
    · rfl
    · rw [h q k']
      rcases Mixer.slotBinding_eq_none_or s.mixer q k' with h0 | ⟨slot', hk', hq⟩
      · exact h0
      · cases hk.symm.trans hk'
        rcases hq with hq | hq
        · exact absurd ⟨hq, rfl⟩ hv
        · exact absurd ⟨hq, rfl⟩ ha
  · simp only [hk', and_false, if_false]
    rw [h q k', Mixer.slotBinding, Mixer.slotBinding, AList.lookup_erase_ne hk']

/-- **`disconnect` keeps the two views agreeing**: the slot's consumers go with the slot. -/
theorem disconnect (h : BindingsFollowSlots s) {k : String}
    (hc : (Auteur.disconnect k s).state? = some s') : BindingsFollowSlots s' := by
  unfold Auteur.disconnect at hc
  split at hc
  · cases hc; exact h
  · rename_i slot hk
    rcases Outcome.state?_bind hc with ⟨s₁, h₁, hc⟩ | ⟨e, h₁⟩
    · obtain ⟨hr₁, hw₁, -⟩ := releaseBin_rewired (by rw [h₁]; rfl)
      obtain ⟨hr₂, hw₂, -⟩ := releaseBin_rewired hc
      exact (h.eraseSlot hk).of_eq (by rw [hr₂, hr₁]) (by rw [hw₂, hw₁])
    · exact absurd h₁ (releaseBin_ne_err _ _ _ _ _)

/-- The loop of `start_pipeline` over the recorded slots feeds each slot it builds. -/
theorem connectSlots (faults : String → SlotFaults) :
    ∀ (l : List ((_ : String) × ConsumerSlot)) (s r : Node), BindingsFollowSlots s →
      (l.map (·.1)).Nodup → (∀ e ∈ l, s.mixer.consumerSlots.lookup e.1 = some e.2) →
      (Auteur.connectSlots faults l s).state? = some r → BindingsFollowSlots r
  | [], s, r, h, _, _, hr => by cases hr; exact h
  | ⟨id, slot⟩ :: rest, s, r, h, hnd, hl, hr => by
    simp only [Auteur.connectSlots] at hr
    split at hr
    · rename_i slot' s₁ h₁
      have hsl : s₁.mixer.consumerSlots = s.mixer.consumerSlots := by
        rw [(connectSlot_rewired _ _ _ _ (slot', s₁) (by rw [h₁]; rfl)).1]
      refine connectSlots faults rest _ r (h.connectSlot (.inl (hl _ (.head _))) h₁)
        (List.nodup_cons.1 hnd).2 (fun e he => ?_) hr
      have hne : e.1 ≠ id := fun he' => (List.nodup_cons.1 hnd).1 (List.mem_map.2 ⟨e, he, he'⟩)
      rw [insertSlot, AList.lookup_insert_ne hne, hsl]
      exact hl e (.tail _ he)
    · cases hr
      exact h.connectSlot_err ‹_›
    · cases hr

/-- **`start_pipeline` keeps the two views agreeing**: it builds and feeds the recorded slots,
and on an error stops with those built so far fed. -/
theorem startPipeline (h : BindingsFollowSlots s) {faults : StartFaults} :
    ∀ r, (Auteur.startPipeline faults s).state? = some r → BindingsFollowSlots r := by
  unfold Auteur.startPipeline
  split
  · dsimp only [World.make]
    iterate 5 refine startCall_all (h.of_eq rfl rfl) fun _ => ?_
    split
    · intro r hr; cases hr
    refine startCall_all (h.of_eq rfl rfl) fun _ => ?_
    refine startCall_all (h.of_eq rfl rfl) fun hm r hr => ?_
    rcases Outcome.state?_bind hr with ⟨r₁, hr₁, hr⟩ | ⟨e, hr₁⟩
    · have h₁ := hm.connectSlots faults.slot _ _ r₁ (AList.nodupKeys _)
        (fun e he => AList.mem_lookup_iff.2 he) ((congrArg Outcome.state? hr₁).trans rfl)
      split at hr
      · cases hr
      · cases hr
        exact h₁.of_eq rfl (by simp)
    · exact hm.connectSlots faults.slot _ _ r (AList.nodupKeys _)
        (fun e he => AList.mem_lookup_iff.2 he) ((congrArg Outcome.state? hr₁).trans rfl)
  · intro r hr
    cases hr

end BindingsFollowSlots

/-! ### `Actor::stopped` -/

theorem unbindSlots_binding_of_none :
    ∀ (l : List ((_ : String) × ConsumerSlot)) {w : World} {q : AppSink} {k : String},
      w.binding q k = none → (unbindSlots l w).binding q k = none
  | [], _, _, _, h => h
  | ⟨_, _⟩ :: rest, _, _, _, h => unbindSlots_binding_of_none rest (by
      simp only [World.binding_removeConsumer]
      split_ifs <;> first | rfl | exact h)

theorem unbindSlots_binding_of_mem :
    ∀ (l : List ((_ : String) × ConsumerSlot)) {w : World} {q : AppSink} {k : String}
      {slot : ConsumerSlot}, ⟨k, slot⟩ ∈ l →
      q = slot.videoProducer ∨ q = slot.audioProducer → (unbindSlots l w).binding q k = none
  | [], _, _, _, _, hm, _ => nomatch hm
  | ⟨_, _⟩ :: rest, _, _, _, _, hm, hq => by
    rcases List.mem_cons.1 hm with hm | hm
    · cases hm
      refine unbindSlots_binding_of_none rest ?_
      simp only [World.binding_removeConsumer, and_true]
      rcases hq with rfl | rfl <;> simp
    · exact unbindSlots_binding_of_mem rest hm hq

/-- `Actor::stopped` leaves no producer feeding any link id of the slots it drains. -/
theorem BindingsFollowSlots.stopped {s : Node} (h : BindingsFollowSlots s) (q : AppSink)
    (k : String) : (Auteur.stopped s).world.binding q k = none := by
  rcases Mixer.slotBinding_eq_none_or s.mixer q k with h0 | ⟨slot, hk, hq⟩
  · exact unbindSlots_binding_of_none _ ((h q k).trans h0)
  · exact unbindSlots_binding_of_mem _ (AList.mem_lookup_iff.1 hk) hq

/-! ### Every run -/

/-- What every node of a run from `Mixer::new` on producers with no consumer satisfies: the
consumer maps follow the slots, and a stopped mixer has no slot left. -/
structure BindingsKept (s : Node) : Prop where
  follow : BindingsFollowSlots s
  drained : s.state = .stopped → s.mixer.consumerSlots = ∅

namespace BindingsKept

variable {s s' : Node}

theorem of_eq (h : BindingsKept s) (hsl : s'.mixer.consumerSlots = s.mixer.consumerSlots)
    (hst : s'.mixer.stateMachine = s.mixer.stateMachine)
    (hw : s'.world.binding = s.world.binding) : BindingsKept s' :=
  ⟨h.follow.of_eq hsl hw, fun hs => hsl ▸ h.drained (by rwa [Node.state, ← hst])⟩

theorem of_live (hlive : s.state ≠ .stopped) (hst : s'.mixer.stateMachine = s.mixer.stateMachine)
    (hf : BindingsFollowSlots s') : BindingsKept s' :=
  ⟨hf, fun hs => absurd (by rwa [Node.state, ← hst]) hlive⟩

/-- A control-point request changes the controllers only. -/
theorem of_recontrolled (h : BindingsKept s) (hs' : s' = { s with mixer := s'.mixer })
    (hr : Mixer.Recontrolled s.mixer s'.mixer) : BindingsKept s' :=
  h.of_eq (by rw [hr]) (by rw [hr]) (by rw [hs'])

theorem setState (h : BindingsKept s) {st : State} (hst : st ≠ .stopped) :
    BindingsKept (s.setState st) :=
  ⟨h.follow.of_eq rfl rfl, fun hs => absurd hs hst⟩

theorem stopped (h : BindingsFollowSlots s) : BindingsKept (Auteur.stopped s) :=
  ⟨fun q k => (h.stopped q k).trans rfl,
    fun _ => rfl⟩

/-- A mixer `Mixer::new` builds on producers with no consumer has no slot and feeds none. -/
theorem of_new {id : String} {config : Option (Table Value)} {w : World}
    (hnew : Mixer.new id config w = .ok s) (hw : ∀ p k, w.binding p k = none) : BindingsKept s := by
  unfold Mixer.new at hnew
  dsimp only [World.make] at hnew
  split at hnew
  · cases hnew
  · cases hnew
    refine ⟨fun q k => ?_, nofun⟩
    show _ = none
    simp only [World.binding, Function.update_apply]
    split_ifs
    exacts [rfl, rfl, hw q k]

/-- **Every event keeps the consumer maps following the slots.** -/
theorem step (h : BindingsKept s) {e : Node.Event} (hs : s.step e = some s') : BindingsKept s' := by
  cases e with
  | connect =>
    obtain ⟨hlive, hc⟩ := Node.handle_eq_some hs
    exact of_live hlive (by rw [(connect_spec hc).1]) (h.follow.connect hc)
  | disconnect =>
    obtain ⟨hlive, hc⟩ := Node.handle_eq_some hs
    exact of_live hlive (by rw [(disconnect_spec hc).1]) (h.follow.disconnect hc)
  | addSlotControlPoint =>
    obtain ⟨hs', hr, -⟩ := addSlotControlPoint_spec (P := fun _ => True)
      (fun _ _ => trivial) (Node.handle_eq_some hs).2 (fun _ _ _ _ => trivial)
      (fun _ _ _ _ _ _ => trivial)
    exact h.of_recontrolled hs' hr
  | removeSlotControlPoint =>
    obtain ⟨hs', hr, -⟩ := removeSlotControlPoint_spec (P := fun _ => True)
      (fun _ _ => trivial) (Node.handle_eq_some hs).2 (fun _ _ _ _ _ _ => trivial)
    exact h.of_recontrolled hs' hr
  | addControlPoint =>
    obtain ⟨hs', hr, -⟩ := addControlPoint_spec (P := fun _ => True)
      (Node.handle_eq_some hs).2 (fun _ _ _ _ _ _ => trivial)
    exact h.of_recontrolled hs' hr
  | removeControlPoint =>
    obtain ⟨hs', hr, -⟩ := removeControlPoint_spec (P := fun _ => True)
      (fun _ _ => trivial) (Node.handle_eq_some hs).2 (fun _ _ _ _ _ _ => trivial)
    exact h.of_recontrolled hs' hr
  | start =>
    rcases (Node.step_start hs).2 with ⟨r, hr, rfl⟩ | ⟨r, e, hr, rfl⟩
    · exact ⟨(h.follow.startPipeline r (by rw [hr]; rfl)).of_eq rfl rfl, nofun⟩
    · exact stopped (h.follow.startPipeline r (by rw [hr]; rfl))
  | playing => obtain ⟨-, rfl⟩ := Node.step_playing hs; exact h.setState nofun
  | endTime => obtain ⟨-, rfl⟩ := Node.step_endTime hs; exact h.setState nofun
  | stop => obtain ⟨-, rfl⟩ := Node.step_stop hs; exact stopped h.follow
  | videoTick =>
    obtain ⟨_, -, -, hv⟩ := Node.step_videoTick hs
    obtain ⟨hsl, -, hst, -, hw, -⟩ := updateVideoMixingState_frame hv
    exact h.of_eq hsl hst (World.binding_eq_of_producers hw)
  | audioTick =>
    obtain ⟨hsl, -, hst, -, hw, -⟩ := updateAudioMixingState_frame (Node.step_audioTick hs).2.2
    exact h.of_eq hsl hst (by rw [hw])

theorem run : ∀ {es : List Node.Event} {s s' : Node}, BindingsKept s → s.run es = some s' →
    BindingsKept s'
  | [], _, _, h, hr => by cases hr; exact h
  | _ :: _, _, _, h, hr => by
    obtain ⟨s₁, h₁, hr⟩ := Option.bind_eq_some.1 hr
    exact run (h.step h₁) hr

end BindingsKept

/-- **The producers feed exactly the built slots, on every run.**  On every run of a mixer
`Mixer::new` built on producers with no consumer, every producer feeds under a link id
exactly the appsrc the slot recorded there has it feed once the slot's bins are built, and
nothing under an id no slot holds; once the mixer has stopped, no producer feeds anything. -/
theorem consumers_follow_slots {id : String} {config : Option (Table Value)} {w : World}
    {s₀ s : Node} {es : List Node.Event} (hnew : Mixer.new id config w = .ok s₀)
    (hw : ∀ p k, w.binding p k = none) (hrun : s₀.run es = some s) :
    (∀ p k, s.world.binding p k = s.mixer.slotBinding p k) ∧
      (s.state = .stopped → ∀ p k, s.world.binding p k = none) := by
  have h := (BindingsKept.of_new hnew hw).run hrun
  refine ⟨h.follow, fun hst p k => ?_⟩
  rw [h.follow p k, Mixer.slotBinding_of_empty (h.drained hst)]

/-- A fresh mixer started, given a slot once `Started`, and stopped. -/
theorem consumers_follow_slots_through_stop :
    ∃ s₀ s, Mixer.new "m" none World.empty = .ok s₀ ∧
      s₀.run [.start StartFaults.none, .playing, .connect "a" 100 101 none SlotFaults.none,
        .stop] = some s ∧
      (∀ p k, s.world.binding p k = s.mixer.slotBinding p k) ∧
      (s.state = .stopped → ∀ p k, s.world.binding p k = none) :=
  ⟨_, _, rfl, rfl, @consumers_follow_slots "m" none World.empty _ _ [.start StartFaults.none,
    .playing, .connect "a" 100 101 none SlotFaults.none, .stop] rfl (fun _ _ => rfl) rfl⟩

end Auteur
