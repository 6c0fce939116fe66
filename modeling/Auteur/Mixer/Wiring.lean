import Auteur.Mixer.Pipeline

/-!
How the slots are wired into the two aggregators, over every request and every start.

`connect_slot` builds a slot's two bins, adds them to the pipeline and links each one to the
slot's request pad with `srcpad.link(&pad).unwrap()`; `disconnect` finds the pad to release
through the peer of each bin, `peer().unwrap()`, and takes the bin out of the pipeline with
`remove(..).unwrap()`.  Those unwraps hold while the slots stay wired as `connect_slot`
leaves them:

* `ConsumerSlot.bin`, `ConsumerSlot.pad` — a slot's bin and pad on either aggregator;
* `Node.Grows` — slots only dropped, handles only made, elements only added to the pipeline,
  and both aggregators grown (`Aggregator.Grows`);
* `Wired` — every bin of a slot is in the pipeline and linked to its slot's pad, no two
  slots share a pad or a bin, and pads, links and bins are older than what the mixer makes
  next; `Wired.grow`, `Wired.insertSlot`, `Wired.release` — the three ways a step changes
  the slots;
* `Wired.connect`, `Wired.disconnect`, `Wired.startPipeline` — the three keep the slots
  wired, whether they return `Ok` or `Err`;
* `Wired.connect_ne_panic`, `Wired.disconnect_ne_panic` — and on wired slots neither request
  panics: the pads `connect` requests are new and not linked yet, and each bin `disconnect`
  finds is in the pipeline and has a peer (`Detached`).

Design notes: a slot is wired on the pads it holds from the moment it is recorded, before it
has bins; `start_pipeline` then builds the slots recorded so far one after the other
(`Wired.connectSlots`), each on the pads it holds alone.  Whether such a pad is still free
when `connect_slot` links to it is another matter: the base plate may have taken it
(`connect_before_start_takes_base_plate_pad`).
-/

namespace Auteur

namespace ConsumerSlot

/-- The bin of a slot on the aggregator `mix`. -/
def bin (slot : ConsumerSlot) : Mix → Option Handle
  | .video => slot.videoBin
  | .audio => slot.audioBin

/-- The request pad of a slot on the aggregator `mix`. -/
def pad (slot : ConsumerSlot) : Mix → Nat
  | .video => slot.videoPad
  | .audio => slot.audioPad

@[simp] theorem bin_video (slot : ConsumerSlot) : slot.bin .video = slot.videoBin := rfl
@[simp] theorem bin_audio (slot : ConsumerSlot) : slot.bin .audio = slot.audioBin := rfl
@[simp] theorem pad_video (slot : ConsumerSlot) : slot.pad .video = slot.videoPad := rfl
@[simp] theorem pad_audio (slot : ConsumerSlot) : slot.pad .audio = slot.audioPad := rfl

end ConsumerSlot

/-! ### Growing a node -/

namespace Node

/-- `s'` grows `s`: slots only dropped, handles only made, elements only added to the
pipeline, and both aggregators grown (`Aggregator.Grows`). -/
structure Grows (s s' : Node) : Prop where
  slots : ∀ k slot, s'.mixer.consumerSlots.lookup k = some slot →
    s.mixer.consumerSlots.lookup k = some slot
  nextHandle_le : s.world.nextHandle ≤ s'.world.nextHandle
  pipeline : ∀ b ∈ s.mixer.pipeline, b ∈ s'.mixer.pipeline
  aggregator : ∀ mix, Aggregator.Grows s.world.nextHandle s'.world.nextHandle
    (s.mixer.aggregator mix) (s'.mixer.aggregator mix)

namespace Grows

variable {s s' s'' : Node}

theorem refl (s : Node) : s.Grows s :=
  ⟨fun _ _ hk => hk, le_rfl, fun _ hb => hb, fun _ => .refl le_rfl _⟩

theorem trans (h : s.Grows s') (h' : s'.Grows s'') : s.Grows s'' :=
  ⟨fun k slot hk => h.slots k slot (h'.slots k slot hk), h.nextHandle_le.trans h'.nextHandle_le,
    fun b hb => h'.pipeline b (h.pipeline b hb),
    fun mix => (h.aggregator mix).trans (h'.aggregator mix) h.nextHandle_le⟩

/-- A step that keeps the slots, the handles, the pipeline and how both aggregators are
wired grows the node. -/
theorem of_wiring (hsl : s'.mixer.consumerSlots = s.mixer.consumerSlots)
    (hnh : s'.world.nextHandle = s.world.nextHandle) (hp : s'.mixer.pipeline = s.mixer.pipeline)
    (hw : ∀ mix, (s'.mixer.aggregator mix).wiring = (s.mixer.aggregator mix).wiring) :
    s.Grows s' :=
  ⟨fun _ _ hk => hsl ▸ hk, hnh.ge, fun _ hb => hp ▸ hb,
    fun mix => .of_wiring hnh.ge (hw mix)⟩

end Grows

end Node

/-! ### The slots' wiring -/

/-- The slots are wired as `connect_slot` leaves them: every bin of a slot is in the pipeline
and linked to its slot's pad, no two slots share a pad or a bin, and the pads, the links
and the bins are all older than what the mixer makes next. -/
structure Wired (s : Node) : Prop where
  fresh : ∀ mix, (s.mixer.aggregator mix).FreshlyWired s.world.nextHandle
  padLt : ∀ k slot mix, s.mixer.consumerSlots.lookup k = some slot →
    slot.pad mix < (s.mixer.aggregator mix).nextSerial
  padInj : ∀ k k' slot slot' mix, s.mixer.consumerSlots.lookup k = some slot →
    s.mixer.consumerSlots.lookup k' = some slot' → slot.pad mix = slot'.pad mix → k = k'
  linked : ∀ k slot mix b, s.mixer.consumerSlots.lookup k = some slot →
    slot.bin mix = some b →
    b ∈ s.mixer.pipeline ∧ (s.mixer.aggregator mix).peerOf b = some (slot.pad mix)
  binLt : ∀ k slot mix b, s.mixer.consumerSlots.lookup k = some slot → slot.bin mix = some b →
    b < s.world.nextHandle
  binInj : ∀ k k' slot slot' mix mix' b, s.mixer.consumerSlots.lookup k = some slot →
    s.mixer.consumerSlots.lookup k' = some slot' → slot.bin mix = some b →
    slot'.bin mix' = some b → k = k' ∧ mix = mix'

namespace Wired

variable {s s' : Node}

/-- A node that grows a wired one is wired. -/
theorem grow (h : Wired s) (hg : s.Grows s') : Wired s' where
  fresh mix := (hg.aggregator mix).fresh (h.fresh mix)
  padLt k slot mix hk := lt_of_lt_of_le (h.padLt k slot mix (hg.slots k slot hk))
    (hg.aggregator mix).nextSerial_le
  padInj k k' slot slot' mix hk hk' :=
    h.padInj k k' slot slot' mix (hg.slots k slot hk) (hg.slots k' slot' hk')
  linked k slot mix b hk hb := by
    obtain ⟨hp, hpeer⟩ := h.linked k slot mix b (hg.slots k slot hk) hb
    exact ⟨hg.pipeline b hp, ((hg.aggregator mix).peerOf_eq (h.fresh mix) b
      (h.binLt k slot mix b (hg.slots k slot hk) hb)).trans hpeer⟩
  binLt k slot mix b hk hb :=
    lt_of_lt_of_le (h.binLt k slot mix b (hg.slots k slot hk) hb) hg.nextHandle_le
  binInj k k' slot slot' mix mix' b hk hk' :=
    h.binInj k k' slot slot' mix mix' b (hg.slots k slot hk) (hg.slots k' slot' hk')

/-- A node with no slot is wired when both aggregators are freshly wired. -/
theorem of_noSlots (hsl : ∀ k, s.mixer.consumerSlots.lookup k = none)
    (hf : ∀ mix, (s.mixer.aggregator mix).FreshlyWired s.world.nextHandle) : Wired s :=
  ⟨hf, fun k _ _ hk => by simp [hsl k] at hk, fun k _ _ _ _ hk => by simp [hsl k] at hk,
    fun k _ _ _ hk => by simp [hsl k] at hk, fun k _ _ _ hk => by simp [hsl k] at hk,
    fun k _ _ _ _ _ _ hk => by simp [hsl k] at hk⟩

/-- Recording a slot keeps the slots wired when its pads are fresh and its own, and each of its
bins is its own, older than what the mixer makes next, in the pipeline and linked to the
slot's pad. -/
theorem insertSlot (h : Wired s) {k : String} {slot : ConsumerSlot}
    (hpad : ∀ mix, slot.pad mix < (s.mixer.aggregator mix).nextSerial)
    (hpadInj : ∀ k' slot' mix, k' ≠ k → s.mixer.consumerSlots.lookup k' = some slot' →
      slot'.pad mix ≠ slot.pad mix)
    (hlinked : ∀ mix b, slot.bin mix = some b →
      b ∈ s.mixer.pipeline ∧ (s.mixer.aggregator mix).peerOf b = some (slot.pad mix))
    (hbinLt : ∀ mix b, slot.bin mix = some b → b < s.world.nextHandle)
    (hbinInj : ∀ mix mix' b, slot.bin mix = some b → slot.bin mix' = some b → mix = mix')
    (hbinNew : ∀ k' slot' mix mix' b, k' ≠ k →
      s.mixer.consumerSlots.lookup k' = some slot' → slot'.bin mix' = some b →
      slot.bin mix ≠ some b) :
    Wired (insertSlot k slot s) where
  fresh := h.fresh
  padLt k₁ slot₁ mix hk := by
    rcases Table.lookup_insert_eq_some hk with ⟨-, rfl⟩ | ⟨-, hk⟩
    · exact hpad mix
    · exact h.padLt k₁ slot₁ mix hk
  padInj k₁ k₂ slot₁ slot₂ mix hk₁ hk₂ hs := by
    rcases Table.lookup_insert_eq_some hk₁ with ⟨he₁, rfl⟩ | ⟨hne₁, hl₁⟩ <;>
      rcases Table.lookup_insert_eq_some hk₂ with ⟨he₂, rfl⟩ | ⟨hne₂, hl₂⟩
    · exact he₁.trans he₂.symm
    · exact absurd hs.symm (hpadInj k₂ slot₂ mix hne₂ hl₂)
    · exact absurd hs (hpadInj k₁ slot₁ mix hne₁ hl₁)
    · exact h.padInj k₁ k₂ slot₁ slot₂ mix hl₁ hl₂ hs
  linked k₁ slot₁ mix b hk hb := by
    rcases Table.lookup_insert_eq_some hk with ⟨-, rfl⟩ | ⟨-, hk⟩
    · exact hlinked mix b hb
    · exact h.linked k₁ slot₁ mix b hk hb
  binLt k₁ slot₁ mix b hk hb := by
    rcases Table.lookup_insert_eq_some hk with ⟨-, rfl⟩ | ⟨-, hk⟩
    · exact hbinLt mix b hb
    · exact h.binLt k₁ slot₁ mix b hk hb
  binInj k₁ k₂ slot₁ slot₂ mix mix' b hk₁ hk₂ hb₁ hb₂ := by
    rcases Table.lookup_insert_eq_some hk₁ with ⟨he₁, rfl⟩ | ⟨hne₁, hl₁⟩ <;>
      rcases Table.lookup_insert_eq_some hk₂ with ⟨he₂, rfl⟩ | ⟨hne₂, hl₂⟩
    · exact ⟨he₁.trans he₂.symm, hbinInj mix mix' b hb₁ hb₂⟩
    · exact absurd hb₁ (hbinNew k₂ slot₂ mix mix' b hne₂ hl₂ hb₂)
    · exact absurd hb₂ (hbinNew k₁ slot₁ mix' mix b hne₁ hl₁ hb₁)
    · exact h.binInj k₁ k₂ slot₁ slot₂ mix mix' b hl₁ hl₂ hb₁ hb₂

/-- Releasing the pad `sink_<n>` of the aggregator `mix` and removing the bin `b` from the
pipeline keeps the slots wired when no slot holds that pad or that bin. -/
theorem release (h : Wired s) (mix : Mix) {b : Handle} {n : Nat}
    (hsl : s'.mixer.consumerSlots = s.mixer.consumerSlots)
    (hnh : s'.world.nextHandle = s.world.nextHandle)
    (hpipe : s'.mixer.pipeline = s.mixer.pipeline.erase b)
    (hagg : ∀ mix', s'.mixer.aggregator mix' =
      if mix' = mix then (s.mixer.aggregator mix).releaseRequestPad n else s.mixer.aggregator mix')
    (hn : ∀ k slot, s.mixer.consumerSlots.lookup k = some slot → slot.pad mix ≠ n)
    (hb : ∀ k slot mix', s.mixer.consumerSlots.lookup k = some slot →
      slot.bin mix' ≠ some b) :
    Wired s' where
  fresh mix' := by
    rw [hagg, hnh]
    split_ifs with hm
    · exact (h.fresh mix).releaseRequestPad n
    · exact h.fresh mix'
  padLt k slot mix' hk := by
    rw [hsl] at hk
    rw [hagg]
    split_ifs with hm
    · subst hm; exact h.padLt k slot mix' hk
    · exact h.padLt k slot mix' hk
  padInj k k' slot slot' mix' hk hk' := h.padInj k k' slot slot' mix' (hsl ▸ hk) (hsl ▸ hk')
  linked k slot mix' b' hk hb' := by
    rw [hsl] at hk
    obtain ⟨hp, hpeer⟩ := h.linked k slot mix' b' hk hb'
    have hne : b' ≠ b := fun he => hb k slot mix' hk (he ▸ hb')
    refine ⟨hpipe ▸ (List.mem_erase_of_ne hne).2 hp, ?_⟩
    rw [hagg]
    split_ifs with hm
    · subst hm; exact Aggregator.peerOf_releaseRequestPad hpeer (hn k slot hk)
    · exact hpeer
  binLt k slot mix' b' hk hb' := hnh ▸ h.binLt k slot mix' b' (hsl ▸ hk) hb'
  binInj k k' slot slot' mix₁ mix₂ b' hk hk' :=
    h.binInj k k' slot slot' mix₁ mix₂ b' (hsl ▸ hk) (hsl ▸ hk')

end Wired

/-! ### What `connect_slot` builds -/

/-- Every state `connect_slot` returns with grows the node, with the slots kept and two handles
made. -/
theorem connectSlot_grows (faults : SlotFaults) (id : String) (slot : ConsumerSlot) (s : Node) :
    ∀ r, (connectSlot faults id slot s).state? = some r →
      s.Grows r.2 ∧ r.2.mixer.consumerSlots = s.mixer.consumerSlots ∧
      r.2.world.nextHandle = s.world.nextHandle + 2 := by
  dsimp only [connectSlot]
  iterate 8 refine slotCall_all ⟨⟨fun _ _ hk => hk, Nat.le_add_right _ 2, fun _ hb => hb,
    fun _ => .refl (Nat.le_add_right _ 2) _⟩, rfl, rfl⟩ ?_
  iterate 2 refine slotCall_all ⟨⟨fun _ _ hk => hk, Nat.le_add_right _ 2,
    fun _ hb => List.mem_append_left _ hb,
    fun mix => by cases mix <;> exact .refl (Nat.le_add_right _ 2) _⟩, rfl, rfl⟩ ?_
  iterate 2 refine slotCall_all ⟨⟨fun _ _ hk => hk, Nat.le_add_right _ 2,
    fun _ hb => by simpa using Or.inl hb, fun mix => .of_wiring (Nat.le_add_right _ 2)
      (by cases mix <;> simp [Mixer.modifyAggregator, Mixer.aggregator])⟩, rfl, rfl⟩ ?_
  intro r h
  split at h
  · cases h
  · split at h
    · cases h
    · cases h
      refine ⟨⟨fun _ _ hk => hk, Nat.le_add_right _ 2, fun _ hb => by simpa using Or.inl hb,
        fun mix => ?_⟩, rfl, rfl⟩
      cases mix
      · exact .linkPad (Nat.le_refl _) (Nat.lt_succ_of_lt (Nat.lt_succ_self _)) ‹_›
      · refine (Aggregator.Grows.of_wiring (Nat.le_refl _) ?_).trans
          (.linkPad (Nat.le_succ _) (Nat.lt_succ_self _) ‹_›) (Nat.le_refl _)
        simp [Mixer.modifyAggregator, Mixer.aggregator]

/-- A slot `connect_slot` builds gets the two handles it makes as bins, in the pipeline and
linked to the slot's pads. -/
theorem connectSlot_built {faults : SlotFaults} {id : String} {slot slot' : ConsumerSlot}
    {s r : Node} (h : connectSlot faults id slot s = .ok (slot', r)) :
    slot' = { slot with audioBin := some (s.world.nextHandle + 1),
                        videoBin := some s.world.nextHandle } ∧
      r.mixer.pipeline = s.mixer.pipeline ++ [s.world.nextHandle, s.world.nextHandle + 1] ∧
      (s.mixer.audioMixer.setPadProperty slot.audioPad "volume" (.float slot.volume)).linkPad
        (s.world.nextHandle + 1) slot.audioPad = some r.mixer.audioMixer ∧
      s.mixer.videoMixer.linkPad s.world.nextHandle slot.videoPad = some r.mixer.videoMixer := by
  dsimp only [connectSlot] at h
  iterate 12 replace h := slotCall_ok h
  split at h
  · cases h
  · split at h
    · cases h
    · cases h
      exact ⟨rfl, rfl, ‹_›, ‹_›⟩

/-- `connect_slot` never panics on a slot whose two pads are there and not linked yet. -/
theorem connectSlot_ne_panic {faults : SlotFaults} {id : String} {slot : ConsumerSlot} {s : Node}
    (hv : s.mixer.videoMixer.Unlinked slot.videoPad)
    (ha : s.mixer.audioMixer.Unlinked slot.audioPad) :
    connectSlot faults id slot s ≠ .panic := by
  dsimp only [connectSlot]
  iterate 12 refine slotCall_ne_panic ?_
  obtain ⟨ga, hga⟩ := Option.isSome_iff_exists.1 (Aggregator.linkPad_isSome (ha.of_wiring
    (Aggregator.wiring_setPadProperty slot.audioPad "volume" (.float slot.volume) _))
    (s.world.nextHandle + 1))
  obtain ⟨gv, hgv⟩ :=
    Option.isSome_iff_exists.1 (Aggregator.linkPad_isSome hv s.world.nextHandle)
  simp only [Mixer.modifyAggregator, World.make_handle, World.make_nextHandle, hga, hgv]
  nofun

/-- A slot `connect_slot` builds on pads that are fresh and its own, once recorded, keeps the
slots wired. -/
theorem Wired.connectSlot {faults : SlotFaults} {k : String} {slot slot' : ConsumerSlot}
    {s r : Node} (h : Wired s) (hc : connectSlot faults k slot s = .ok (slot', r))
    (hpad : ∀ mix, slot.pad mix < (s.mixer.aggregator mix).nextSerial)
    (hpadInj : ∀ k' slot'' mix, k' ≠ k → s.mixer.consumerSlots.lookup k' = some slot'' →
      slot''.pad mix ≠ slot.pad mix) :
    Wired (Auteur.insertSlot k slot' r) := by
  obtain ⟨hg, hsl, hnh⟩ := connectSlot_grows faults k slot s (slot', r) (by rw [hc]; rfl)
  have hr : Wired r := h.grow hg
  obtain ⟨rfl, hpipe', hga, hgv⟩ := connectSlot_built hc
  dsimp only at hsl hnh
  have hold : ∀ k' slot'' mix b, r.mixer.consumerSlots.lookup k' = some slot'' →
      slot''.bin mix = some b → b < s.world.nextHandle := fun k' slot'' mix b hk hb =>
    h.binLt k' slot'' mix b (hsl ▸ hk) hb
  refine hr.insertSlot (fun mix => ?_) (fun k' slot'' mix hne hk => ?_) (fun mix b hb => ?_)
    (fun mix b hb => ?_) (fun mix mix' b hb hb' => ?_)
    (fun k' slot'' mix mix' b hne hk hb' hb => ?_)
  · exact lt_of_lt_of_le (hpad mix) (hg.aggregator mix).nextSerial_le
  · exact hpadInj k' slot'' mix hne (hsl ▸ hk)
  · cases mix <;> simp only [ConsumerSlot.bin_video, ConsumerSlot.bin_audio,
      Option.some.injEq] at hb <;> subst hb <;> refine ⟨by simp [hpipe'], ?_⟩
    · exact Aggregator.peerOf_linkPad_self (h.fresh .video) le_rfl hgv
    · exact Aggregator.peerOf_linkPad_self
        ((h.fresh .audio).of_wiring (Aggregator.wiring_setPadProperty ..)) (Nat.le_succ _) hga
  · rw [hnh]
    cases mix <;> simp only [ConsumerSlot.bin_video, ConsumerSlot.bin_audio,
      Option.some.injEq] at hb <;> subst hb
    · exact Nat.lt_succ_of_lt (Nat.lt_succ_self _)
    · exact Nat.lt_succ_self _
  · cases mix <;> cases mix' <;> simp_all
  · have hlt := hold k' slot'' mix' b hk hb'
    cases mix <;> simp only [ConsumerSlot.bin_video, ConsumerSlot.bin_audio,
      Option.some.injEq] at hb <;> subst hb <;> simp at hlt

/-- What `connect` has once it has requested the slot's two pads and applied its
configuration: the slots still wired, the mixer only rewired, and each new pad past every
older one and not linked yet. -/
theorem Wired.applySlotConfig {s s₂ : Node} {l : List ((_ : String) × Value)} (h : Wired s)
    (h₂ : (Auteur.applySlotConfig s.mixer.videoMixer.nextSerial s.mixer.audioMixer.nextSerial l
      { s with mixer := { s.mixer with
        videoMixer := s.mixer.videoMixer.requestPadSimple.1,
        audioMixer := s.mixer.audioMixer.requestPadSimple.1 } }).state? = some s₂) :
    Wired s₂ ∧ Mixer.Rewired s.mixer s₂.mixer ∧ s₂.world = s.world ∧
      ∀ mix, (s₂.mixer.aggregator mix).nextSerial = (s.mixer.aggregator mix).nextSerial + 1 ∧
        (s₂.mixer.aggregator mix).Unlinked (s.mixer.aggregator mix).nextSerial := by
  obtain ⟨hr, hw, -, -⟩ := applySlotConfig_rewired _ _ _ _ _ h₂
  obtain ⟨hp, hg⟩ := applySlotConfig_wiring _ _ _ _ _ h₂
  have hsl : s₂.mixer.consumerSlots = s.mixer.consumerSlots := by rw [hr]
  refine ⟨h.grow ⟨fun _ _ hk => hsl ▸ hk, hw ▸ le_rfl, fun _ hb => hp ▸ hb,
    fun mix => ?_⟩, (Mixer.rewired_aggregators _ _ _).trans hr, hw, fun mix => ⟨?_, ?_⟩⟩
  · rw [hw]
    exact Aggregator.Grows.trans (by cases mix <;> exact .requestPadSimple le_rfl _)
      (.of_wiring le_rfl (hg mix)) le_rfl
  · rw [Aggregator.nextSerial_eq_of_wiring (hg mix)]; cases mix <;> rfl
  · refine Aggregator.Unlinked.of_wiring ?_ (hg mix)
    cases mix
    · exact Aggregator.unlinked_requestPadSimple (h.fresh .video)
    · exact Aggregator.unlinked_requestPadSimple (h.fresh .audio)

/-- `connect` keeps the slots wired, whether it returns `Ok` or `Err`. -/
theorem Wired.connect {k : String} {vp ap : AppSink} {config : Option (Table Value)}
    {faults : SlotFaults} {s s' : Node} (h : Wired s)
    (hc : (Auteur.connect k vp ap config faults s).state? = some s') : Wired s' := by
  unfold Auteur.connect at hc
  split_ifs at hc with hmem
  · cases hc; exact h
  rcases Outcome.state?_bind hc with ⟨s₂, h₂, hc⟩ | ⟨e, h₂⟩
  · obtain ⟨hw₂, hr₂, -, hagg₂⟩ :=
      h.applySlotConfig ((congrArg Outcome.state? h₂).trans rfl)
    have hsl₂ : s₂.mixer.consumerSlots = s.mixer.consumerSlots := by rw [hr₂]
    have hw₃ : Wired { s₂ with world := s₂.world.makeAppSrc.1.makeAppSrc.1 } :=
      hw₂.grow ⟨fun _ _ hk => hk, Nat.le_add_right _ 2, fun _ hb => hb, fun _ =>
        .refl (Nat.le_add_right _ 2) _⟩
    -- the slot's pads are the two new ones
    have hnew : ∀ slot : ConsumerSlot,
        (∀ mix, slot.pad mix = (s.mixer.aggregator mix).nextSerial) →
        (∀ mix, slot.pad mix < (s₂.mixer.aggregator mix).nextSerial) ∧
        ∀ k' slot'' mix, k' ≠ k → s₂.mixer.consumerSlots.lookup k' = some slot'' →
          slot''.pad mix ≠ slot.pad mix :=
      fun slot hs => ⟨fun mix => by rw [hs, (hagg₂ mix).1]; exact Nat.lt_succ_self _,
        fun k' slot'' mix _ hk => by rw [hs]; exact (h.padLt k' slot'' mix (hsl₂ ▸ hk)).ne⟩
    dsimp only at hc
    split_ifs at hc with hst
    · split at hc
      · split at hc
        · rename_i slot' s₄ h₄
          cases hc
          exact hw₃.connectSlot h₄ (hnew _ fun mix => by cases mix <;> rfl).1
            (hnew _ fun mix => by cases mix <;> rfl).2
        · rename_i s₄ _ h₄
          cases hc
          exact hw₃.grow (connectSlot_grows _ _ _ _ _ (by rw [h₄]; rfl)).1
        · cases hc
      · cases hc
    · cases hc
      exact hw₃.insertSlot (hnew _ fun mix => by cases mix <;> rfl).1
        (hnew _ fun mix => by cases mix <;> rfl).2 (fun mix _ hb => by cases mix <;> cases hb)
        (fun mix _ hb => by cases mix <;> cases hb) (fun mix _ _ hb => by cases mix <;> cases hb)
        (fun _ _ mix _ _ _ _ _ hb => by cases mix <;> cases hb)
  · exact (h.applySlotConfig ((congrArg Outcome.state? h₂).trans rfl)).1

/-- `connect` never panics on wired slots and typed settings: the pads it requests are new,
so `connect_slot` links its bins to them, and the sizes it reads are `i32`s. -/
theorem Wired.connect_ne_panic {s : Node} (h : Wired s) (ht : SettingsTyped s.mixer.settings)
    (k : String) (vp ap : AppSink) (config : Option (Table Value)) (faults : SlotFaults) :
    Auteur.connect k vp ap config faults s ≠ .panic := by
  unfold Auteur.connect
  split_ifs with hmem
  · nofun
  refine Outcome.bind_ne_panic (applySlotConfig_ne_panic _ _ _ _) fun s₂ h₂ => ?_
  obtain ⟨-, hr₂, -, hagg₂⟩ := h.applySlotConfig ((congrArg Outcome.state? h₂).trans rfl)
  have hset : ∀ name, s₂.mixer.settingI32 name = s.mixer.settingI32 name := fun name => by
    rw [Mixer.settingI32, Mixer.settingI32, hr₂]
  obtain ⟨w, hw⟩ := Option.isSome_iff_exists.1 (ht.settingI32_isSome (.inl rfl))
  obtain ⟨hh, hhh⟩ := Option.isSome_iff_exists.1 (ht.settingI32_isSome (.inr (.inl rfl)))
  obtain ⟨r, hr⟩ := Option.isSome_iff_exists.1 (ht.settingI32_isSome (.inr (.inr (.inl rfl))))
  dsimp only
  split_ifs
  · rw [hset, hset, hset, hw, hhh, hr]
    dsimp only
    split
    · nofun
    · nofun
    · exact absurd ‹_› (connectSlot_ne_panic (hagg₂ .video).2 (hagg₂ .audio).2)
  · nofun

/-! ### What `disconnect` releases -/

/-- A slot no longer recorded still holds its bin and its pad on the aggregator `mix` alone:
the bin is in the pipeline and linked to the pad, and no recorded slot shares either. -/
structure Detached (slot : ConsumerSlot) (mix : Mix) (s : Node) : Prop where
  linked : ∀ b, slot.bin mix = some b →
    b ∈ s.mixer.pipeline ∧ (s.mixer.aggregator mix).peerOf b = some (slot.pad mix)
  padNew : ∀ k slot', s.mixer.consumerSlots.lookup k = some slot' →
    slot'.pad mix ≠ slot.pad mix
  binNew : ∀ k slot' mix' b, s.mixer.consumerSlots.lookup k = some slot' →
    slot.bin mix = some b → slot'.bin mix' ≠ some b

/-- Erasing a recorded slot keeps the others wired and leaves it detached on both aggregators. -/
theorem Wired.eraseSlot {s : Node} (h : Wired s) {k : String} {slot : ConsumerSlot}
    (hk : s.mixer.consumerSlots.lookup k = some slot) (w : World)
    (hw : w.nextHandle = s.world.nextHandle) :
    Wired { s with mixer := { s.mixer with consumerSlots := s.mixer.consumerSlots.erase k },
                   world := w } ∧
      ∀ mix, Detached slot mix
        { s with mixer := { s.mixer with consumerSlots := s.mixer.consumerSlots.erase k },
                 world := w } := by
  refine ⟨h.grow ⟨fun _ _ hk' => (Table.lookup_erase_eq_some hk').2, hw.ge, fun _ hb => hb,
    fun mix => .refl hw.ge _⟩, fun mix => ⟨fun b hb => h.linked k slot mix b hk hb,
      fun k' slot' hk' hpad => ?_, fun k' slot' mix' b hk' hb hb' => ?_⟩⟩
  · obtain ⟨hne, hk'⟩ := Table.lookup_erase_eq_some hk'
    exact hne (h.padInj k' k slot' slot mix hk' hk hpad)
  · obtain ⟨hne, hk'⟩ := Table.lookup_erase_eq_some hk'
    exact hne (h.binInj k' k slot' slot mix' mix b hk' hk hb' hb).1

namespace Detached

variable {slot : ConsumerSlot} {mix : Mix} {s r : Node}

/-- Releasing a detached slot's bin never panics. -/
theorem releaseBin_ne_panic (hd : Detached slot mix s) :
    releaseBin mix (slot.bin mix) s ≠ .panic := by
  unfold releaseBin
  split
  · nofun
  · rename_i b hb
    obtain ⟨hp, hpeer⟩ := hd.linked b hb
    simp only [hpeer, hp, if_true]
    nofun

/-- Releasing a detached slot's bin keeps the recorded slots wired. -/
theorem wired_releaseBin (hd : Detached slot mix s) (h : Wired s)
    (hr : (releaseBin mix (slot.bin mix) s).state? = some r) : Wired r := by
  rcases releaseBin_state? hr with ⟨-, rfl⟩ | ⟨b, n, hb, hn, rfl⟩
  · exact h
  · cases hn.symm.trans (hd.linked b hb).2
    exact h.release mix (Mixer.modifyAggregator_consumerSlots ..) rfl rfl
      (Mixer.aggregator_modifyAggregator mix · _ _) hd.padNew
      fun k slot' mix' hk => hd.binNew k slot' mix' b hk hb

/-- Releasing a detached slot's bin on one aggregator keeps it detached on the other. -/
theorem releaseBin {mix' : Mix} (hd : Detached slot mix' s)
    (hr : (Auteur.releaseBin mix (slot.bin mix) s).state? = some r) (hmix : mix ≠ mix')
    (hbin : ∀ b, slot.bin mix = some b → slot.bin mix' ≠ some b) : Detached slot mix' r := by
  rcases releaseBin_state? hr with ⟨-, rfl⟩ | ⟨b, n, hb, -, rfl⟩
  · exact hd
  · have hsl := Mixer.modifyAggregator_consumerSlots mix (·.releaseRequestPad n) s.mixer
    refine ⟨fun b' hb' => ?_, fun k slot' hk => hd.padNew k slot' (hsl ▸ hk),
      fun k slot' mix'' b' hk => hd.binNew k slot' mix'' b' (hsl ▸ hk)⟩
    obtain ⟨hp, hpeer⟩ := hd.linked b' hb'
    have hne : b' ≠ b := fun he => hbin b hb (he ▸ hb')
    refine ⟨(List.mem_erase_of_ne hne).2 hp, ?_⟩
    rw [Mixer.aggregator_withPipeline, Mixer.aggregator_modifyAggregator, if_neg (Ne.symm hmix)]
    exact hpeer

/-- Releasing a detached slot's bin releases the slot's own pad, if it has a bin there, and no
other pad. -/
theorem staticPad_releaseBin (hd : Detached slot mix s)
    (hr : (Auteur.releaseBin mix (slot.bin mix) s).state? = some r) (mix' : Mix) (n : Nat) :
    (r.mixer.aggregator mix').staticPad n =
      if mix' = mix ∧ (slot.bin mix).isSome ∧ n = slot.pad mix then none
      else (s.mixer.aggregator mix').staticPad n := by
  rcases releaseBin_state? hr with ⟨hb, rfl⟩ | ⟨b, n', hb, hn, rfl⟩
  · simp [hb]
  · cases hn.symm.trans (hd.linked b hb).2
    rw [Mixer.aggregator_withPipeline, Mixer.aggregator_modifyAggregator]
    by_cases hm : mix' = mix <;> simp [hm, hb, Aggregator.staticPad_releaseRequestPad]

end Detached

/-- A recorded slot's two bins are two handles. -/
theorem Wired.bins_apart {s : Node} (h : Wired s) {k : String} {slot : ConsumerSlot}
    (hk : s.mixer.consumerSlots.lookup k = some slot) :
    ∀ b, slot.bin .video = some b → slot.bin .audio ≠ some b :=
  fun b hv ha => nomatch (h.binInj k k slot slot .video .audio b hk hk hv ha).2

/-- `disconnect` keeps the slots wired. -/
theorem Wired.disconnect {s s' : Node} (h : Wired s) {k : String}
    (hc : (Auteur.disconnect k s).state? = some s') : Wired s' := by
  unfold Auteur.disconnect at hc
  split at hc
  · cases hc; exact h
  · rename_i slot hk
    obtain ⟨h₁, hd⟩ := h.eraseSlot hk
      ((s.world.removeConsumer slot.videoProducer k).removeConsumer slot.audioProducer k) (by simp)
    rcases Outcome.state?_bind hc with ⟨r₁, hr₁, hc⟩ | ⟨e, hr₁⟩
    · have hs₁ := (congrArg Outcome.state? hr₁).trans rfl
      exact ((hd .audio).releaseBin hs₁ nofun (h.bins_apart hk)).wired_releaseBin
        ((hd .video).wired_releaseBin h₁ hs₁) hc
    · exact (hd .video).wired_releaseBin h₁ ((congrArg Outcome.state? hr₁).trans rfl)

/-- What `disconnect` releases on wired slots: the slot is erased, and on each aggregator the
slot's own pad goes if the slot has a bin there; no other pad changes. -/
theorem Wired.disconnect_released {s s' : Node} (h : Wired s) {k : String} {slot : ConsumerSlot}
    (hk : s.mixer.consumerSlots.lookup k = some slot)
    (hc : (Auteur.disconnect k s).state? = some s') :
    s'.mixer.consumerSlots = s.mixer.consumerSlots.erase k ∧
      ∀ mix n, (s'.mixer.aggregator mix).staticPad n =
        if (slot.bin mix).isSome ∧ n = slot.pad mix then none
        else (s.mixer.aggregator mix).staticPad n := by
  unfold Auteur.disconnect at hc
  simp only [hk] at hc
  obtain ⟨-, hd⟩ := h.eraseSlot hk
    ((s.world.removeConsumer slot.videoProducer k).removeConsumer slot.audioProducer k) (by simp)
  rcases Outcome.state?_bind hc with ⟨r₁, hr₁, hc⟩ | ⟨e, hr₁⟩
  · have hs₁ := (congrArg Outcome.state? hr₁).trans rfl
    obtain ⟨hr₁', -, -⟩ := releaseBin_rewired hs₁
    obtain ⟨hr₂, -, -⟩ := releaseBin_rewired hc
    refine ⟨by rw [hr₂, hr₁'], fun mix n => ?_⟩
    rw [((hd .audio).releaseBin hs₁ nofun (h.bins_apart hk)).staticPad_releaseBin hc,
      (hd .video).staticPad_releaseBin hs₁]
    cases mix <;> simp
  · exact absurd hr₁ (releaseBin_ne_err _ _ _ _ _)

/-- `disconnect` never panics on wired slots. -/
theorem Wired.disconnect_ne_panic {s : Node} (h : Wired s) (k : String) :
    Auteur.disconnect k s ≠ .panic := by
  unfold Auteur.disconnect
  split
  · nofun
  · rename_i slot hk
    obtain ⟨-, hd⟩ := h.eraseSlot hk
      ((s.world.removeConsumer slot.videoProducer k).removeConsumer slot.audioProducer k) (by simp)
    refine Outcome.bind_ne_panic (hd .video).releaseBin_ne_panic fun r₁ hr₁ => ?_
    exact ((hd .audio).releaseBin ((congrArg Outcome.state? hr₁).trans rfl) nofun
      (h.bins_apart hk)).releaseBin_ne_panic

/-! ### What `start_pipeline` builds -/

/-- The loop of `start_pipeline` keeps the slots wired, building each on the pads it holds
alone, and changes only the slots, the pipeline and the aggregators. -/
theorem Wired.connectSlots (faults : String → SlotFaults) :
    ∀ (l : List ((_ : String) × ConsumerSlot)) (s r : Node), Wired s → (l.map (·.1)).Nodup →
      (∀ e ∈ l, s.mixer.consumerSlots.lookup e.1 = some e.2) →
      (Auteur.connectSlots faults l s).state? = some r →
      Wired r ∧ Mixer.Reslotted s.mixer r.mixer
  | [], s, r, h, _, _, hr => by cases hr; exact ⟨h, rfl⟩
  | ⟨id, slot⟩ :: rest, s, r, h, hnd, hl, hr => by
    have hk := hl _ (.head _)
    simp only [Auteur.connectSlots] at hr
    split at hr
    · rename_i slot' s₁ h₁
      obtain ⟨-, hsl, -⟩ := connectSlot_grows _ _ _ _ _ (by rw [h₁]; rfl)
      have hl' : ∀ e ∈ rest,
          (Auteur.insertSlot id slot' s₁).mixer.consumerSlots.lookup e.1 = some e.2 := by
        intro e he
        have hne : e.1 ≠ id := fun he' =>
          (List.nodup_cons.1 hnd).1 (List.mem_map.2 ⟨e, he, he'⟩)
        dsimp only at hsl
        rw [Auteur.insertSlot, AList.lookup_insert_ne hne, hsl]
        exact hl e (.tail _ he)
      obtain ⟨hw, hres⟩ := Wired.connectSlots faults rest _ r (h.connectSlot h₁
        (fun mix => h.padLt id slot mix hk)
        (fun k' slot'' mix hne hk' he => hne (h.padInj k' id slot'' slot mix hk' hk he)))
        (List.nodup_cons.1 hnd).2 hl' hr
      exact ⟨hw, ((connectSlot_rewired _ _ _ _ _ (by rw [h₁]; rfl)).1.reslotted.trans
        (Mixer.reslotted_slots _ _)).trans hres⟩
    · rename_i s₁ _ h₁
      cases hr
      exact ⟨h.grow (connectSlot_grows _ _ _ _ _ (by rw [h₁]; rfl)).1,
        (connectSlot_rewired _ _ _ _ _ (by rw [h₁]; rfl)).1.reslotted⟩
    · cases hr

/-- Every state `start_pipeline` leaves, with `Ok` or `Err`, keeps the slots wired, and the
settings and the controller maps as they were. -/
theorem Wired.startPipeline {faults : StartFaults} {s : Node} (h : Wired s) :
    ∀ r, (Auteur.startPipeline faults s).state? = some r →
      Wired r ∧ Mixer.Kept s.mixer r.mixer := by
  -- the ten handles `start_pipeline` makes, and what it links from two of them
  have hle : s.world.nextHandle ≤ s.world.nextHandle + 10 := Nat.le_add_right _ 10
  have hv₁ : Aggregator.Grows s.world.nextHandle (s.world.nextHandle + 10)
      s.mixer.videoMixer (s.mixer.videoMixer.linkFrom (s.world.nextHandle + 1)).1 :=
    .linkFrom (Nat.le_succ _) (Nat.add_lt_add_left (by decide) _) _
  have hv₂ : ∀ wd ht, Aggregator.Grows s.world.nextHandle (s.world.nextHandle + 10)
      s.mixer.videoMixer
      (placeBasePlate wd ht (s.mixer.videoMixer.linkFrom (s.world.nextHandle + 1)).1) :=
    fun _ _ => hv₁.trans (.of_wiring le_rfl (placeBasePlate_wiring _ _ _)) hle
  have ha : Aggregator.Grows s.world.nextHandle (s.world.nextHandle + 10)
      s.mixer.audioMixer (s.mixer.audioMixer.linkFrom (s.world.nextHandle + 5)).1 :=
    .linkFrom (Nat.le_add_right _ 5) (Nat.add_lt_add_left (by decide) _) _
  unfold Auteur.startPipeline
  split
  · dsimp only [World.make]
    refine startCall_all ⟨h.grow ⟨fun _ _ hk => hk, Nat.le_succ _, fun _ hb => hb,
      fun _ => .refl (Nat.le_succ _) _⟩, ⟨rfl, fun _ => rfl, rfl⟩⟩ fun _ => ?_
    iterate 2 refine startCall_all ⟨h.grow ⟨fun _ _ hk => hk, hle, fun _ hb => hb,
      fun _ => .refl hle _⟩, ⟨rfl, fun _ => rfl, rfl⟩⟩ fun _ => ?_
    -- the base plate's two bins, then its queue and the audio queue linked
    refine startCall_all ⟨h.grow ⟨fun _ _ hk => hk, hle, fun _ hb => List.mem_append_left _ hb,
      fun mix => by cases mix <;> exact .refl hle _⟩, ⟨rfl, fun _ => rfl, rfl⟩⟩ fun _ => ?_
    refine startCall_all ⟨h.grow ⟨fun _ _ hk => hk, hle, fun _ hb => List.mem_append_left _ hb,
      fun mix => by cases mix; exacts [hv₁, .refl hle _]⟩, ⟨rfl, fun _ => rfl, rfl⟩⟩
      fun _ => ?_
    split
    · intro r hr; cases hr
    refine startCall_all ⟨h.grow ⟨fun _ _ hk => hk, hle, fun _ hb => List.mem_append_left _ hb,
      fun mix => by cases mix; exacts [hv₂ _ _, .refl hle _]⟩, ⟨rfl, fun _ => rfl, rfl⟩⟩
      fun _ => ?_
    refine startCall_all ⟨h.grow ⟨fun _ _ hk => hk, hle, fun _ hb => List.mem_append_left _ hb,
      fun mix => by cases mix; exacts [hv₂ _ _, ha]⟩, ⟨rfl, fun _ => rfl, rfl⟩⟩
      fun ⟨hg, hkept⟩ r hr => ?_
    -- the slots recorded before the start, built in turn
    rcases Outcome.state?_bind hr with ⟨r₁, hr₁, hr⟩ | ⟨e, hr₁⟩
    · obtain ⟨hw₁, hres₁⟩ := hg.connectSlots _ _ _ r₁ (AList.nodupKeys _)
        (fun e he => AList.mem_lookup_iff.2 he) ((congrArg Outcome.state? hr₁).trans rfl)
      split at hr
      · cases hr
      · cases hr
        refine ⟨hw₁.grow ⟨fun _ _ hk => hk, by simp, fun _ hb => hb,
          fun _ => .refl (by simp) _⟩,
          hkept.trans (hres₁.kept.trans ⟨rfl, fun _ => rfl, rfl⟩)⟩
    · exact (hg.connectSlots _ _ _ r (AList.nodupKeys _)
        (fun e he => AList.mem_lookup_iff.2 he)
        ((congrArg Outcome.state? hr₁).trans rfl)).imp_right (hkept.trans ·.kept)
  · intro r hr
    cases hr

end Auteur
