import Auteur.StreamProducer.Basic

/-!
The GStreamer objects the mixer builds, links and drives.

The media framework is an external collaborator; what the mixer relies on is modelled here:

* `Value` — a property value, or a JSON scalar of a request;
* `Aggregator` — `compositor` and `audiomixer` with their sink pads: `request_pad_simple`
  (`requestPadSimple`), `release_request_pad`, `static_pad("sink_<n>")`, pad properties,
  and the two ways of linking into them, `gst_element_link` without pad names (`linkFrom`)
  and `srcpad.link(&pad)` (`linkPad`);
* `padPropertyDefault` — the properties of the aggregators' sink pads and their defaults,
  which is what `PropertyController` introspects;
* `World` — the producers' shared records, the appsrcs, the capsfilters' caps, and fresh
  object handles;
* `Aggregator.wiring`, `ZeroLinkedFrom`, `ChangedOnlyAt` — which pads exist and who feeds
  them, and the operations that touch one pad only;
* `FreshlyWired`, `peerOf_linkPad`, `Grows` — pads of distinct serials linked only from
  handles made so far, and the operations that keep every older link while they link new
  handles.

Design notes: an aggregator names its request pads `sink_0, sink_1, …` in request order and
never reuses a released name, so a pad is identified by its serial.  `gst_element_link`
looks for an existing sink pad that is not linked yet, and requests a new one only if there
is none: `linkFrom` picks the first unlinked pad, in creation order.
-/

namespace Auteur

/-- A GStreamer object created by the mixer (an element or a bin), by identity. -/
abbrev Handle := Nat

/-- A property value, or a JSON scalar of a request (`serde_json::Value`); `f64` values are
rationals. -/
inductive Value
  | int (i : Int)
  | float (x : ℚ)
  | str (s : String)
  | bool (b : Bool)
  deriving DecidableEq, Repr

/-- The mixer's two aggregators: `compositor` (video) and `audiomixer` (audio). -/
inductive Mix
  | video
  | audio
  deriving DecidableEq, Repr

/-- A sink pad of one of the mixer's aggregators, `sink_<serial>`. -/
structure PadRef where
  mix : Mix
  serial : Nat
  deriving DecidableEq, Repr

/-- The properties of the aggregators' sink pads and their default values: those of
`GstCompositorPad` and of `GstAudioMixerPad`, with what they inherit from the aggregator
pad classes.  `zorder` keeps its class default `0` here, where `GstVideoAggregator` gives a
requested pad the number of its sink pads; only the first tick of a controller on `zorder`
reads that value. -/
def padPropertyDefault : Mix → String → Option Value
  | .video, "alpha" => some (.float 1)
  | .video, "xpos" => some (.int 0)
  | .video, "ypos" => some (.int 0)
  | .video, "width" => some (.int 0)
  | .video, "height" => some (.int 0)
  | .video, "zorder" => some (.int 0)
  | .video, "sizing-policy" => some (.str "none")
  | .video, "operator" => some (.str "over")
  | .video, "repeat-after-eos" => some (.bool false)
  | .audio, "volume" => some (.float 1)
  | .audio, "mute" => some (.bool false)
  | _, "emit-signals" => some (.bool false)
  | _, _ => none

/-- A sink pad of an aggregator: its serial, the element whose source pad is linked to it,
and the properties set on it. -/
structure AggregatorPad where
  serial : Nat
  peer : Option Handle
  properties : Table Value
  deriving DecidableEq

/-- An aggregator element: its handle, its sink pads in creation order, and the serial its
next request pad gets. -/
structure Aggregator where
  element : Handle
  pads : List AggregatorPad
  nextSerial : Nat
  deriving DecidableEq

namespace Aggregator

/-- A new aggregator, with no sink pad. -/
def new (element : Handle) : Aggregator := ⟨element, [], 0⟩

/-- `static_pad("sink_<serial>")`. -/
def staticPad (serial : Nat) (g : Aggregator) : Option AggregatorPad :=
  g.pads.find? (·.serial = serial)

/-- `request_pad_simple("sink_%u")`: a new pad with the next serial. -/
def requestPadSimple (g : Aggregator) : Aggregator × Nat :=
  ({ g with pads := g.pads ++ [⟨g.nextSerial, none, ∅⟩], nextSerial := g.nextSerial + 1 },
    g.nextSerial)

/-- `release_request_pad(pad)`. -/
def releaseRequestPad (serial : Nat) (g : Aggregator) : Aggregator :=
  { g with pads := g.pads.filter (·.serial ≠ serial) }

/-- Update the pad `sink_<serial>`, if there is one. -/
def updatePad (serial : Nat) (f : AggregatorPad → AggregatorPad) (g : Aggregator) : Aggregator :=
  { g with pads := g.pads.map fun p => if p.serial = serial then f p else p }

/-- `pad.set_property(name, value)`. -/
def setPadProperty (serial : Nat) (name : String) (v : Value) (g : Aggregator) : Aggregator :=
  g.updatePad serial fun p => { p with properties := p.properties.insert name v }

/-- `gst_element_link(src, aggregator)`: link `src` to the first sink pad not linked yet,
or to a new request pad if every pad is linked; returns the pad's serial. -/
def linkFrom (src : Handle) (g : Aggregator) : Aggregator × Nat :=
  match g.pads.find? (·.peer = none) with
  | some p => (g.updatePad p.serial ({ · with peer := some src }), p.serial)
  | none =>
    let (g, serial) := g.requestPadSimple
    (g.updatePad serial ({ · with peer := some src }), serial)

/-- `srcpad.link(&pad)` from `src`: `Err(WasLinked)` if the pad is linked already. -/
def linkPad (src : Handle) (serial : Nat) (g : Aggregator) : Option Aggregator :=
  match g.staticPad serial with
  | some p => if p.peer = none then some (g.updatePad serial ({ · with peer := some src }))
    else none
  | none => none

/-- The pad `src` is linked to: `src.static_pad("src").peer()`. -/
def peerOf (src : Handle) (g : Aggregator) : Option Nat :=
  (g.pads.find? (·.peer = some src)).map (·.serial)

/-- The value of a pad property: the one set, or the class default. -/
def padProperty (mix : Mix) (serial : Nat) (name : String) (g : Aggregator) : Option Value :=
  match g.staticPad serial with
  | some p => (p.properties.lookup name).orElse fun _ => padPropertyDefault mix name
  | none => none

theorem staticPad_serial {g : Aggregator} {n : Nat} {p : AggregatorPad}
    (h : g.staticPad n = some p) : p.serial = n := by
  simpa using List.find?_some h

theorem staticPad_updatePad (f : AggregatorPad → AggregatorPad) (hf : ∀ p, (f p).serial = p.serial)
    (n m : Nat) (g : Aggregator) :
    (g.updatePad n f).staticPad m =
      (g.staticPad m).map fun p => if p.serial = n then f p else p := by
  have : ((fun p : AggregatorPad => decide (p.serial = m)) ∘
      fun p => if p.serial = n then f p else p) = fun p => decide (p.serial = m) := by
    funext p; by_cases h : p.serial = n <;> simp [h, hf]
  simp only [staticPad, updatePad, List.find?_map, this]

/-- Setting a pad property changes only that property of that pad, if the pad exists. -/
@[simp] theorem padProperty_setPadProperty (mix : Mix) (n : Nat) (k : String) (v : Value)
    (m : Nat) (k' : String) (g : Aggregator) :
    (g.setPadProperty n k v).padProperty mix m k' =
      if m = n ∧ k' = k ∧ (g.staticPad m).isSome then some v else g.padProperty mix m k' := by
  unfold setPadProperty padProperty
  rw [staticPad_updatePad (fun p => { p with properties := p.properties.insert k v }) fun _ => rfl]
  cases hp : g.staticPad m with
  | none => simp
  | some p =>
    have := staticPad_serial hp
    subst this
    by_cases h : p.serial = n <;> by_cases h' : k' = k
    · subst h'; simp [h]
    all_goals simp [h, h', AList.lookup_insert_ne]

@[simp] theorem staticPad_setPadProperty_isSome (n : Nat) (k : String) (v : Value) (m : Nat)
    (g : Aggregator) : ((g.setPadProperty n k v).staticPad m).isSome = (g.staticPad m).isSome := by
  simp [setPadProperty,
    staticPad_updatePad (fun p => { p with properties := p.properties.insert k v }) fun _ => rfl]

theorem peerOf_eq_some {src : Handle} {n : Nat} {g : Aggregator} (h : g.peerOf src = some n) :
    ∃ p ∈ g.pads, p.peer = some src ∧ p.serial = n := by
  obtain ⟨p, hp, rfl⟩ := Option.map_eq_some'.1 h
  exact ⟨p, List.mem_of_find?_eq_some hp, by simpa using List.find?_some hp, rfl⟩

theorem staticPad_isSome_of_padProperty {mix : Mix} {n : Nat} {k : String} {v : Value}
    {g : Aggregator} (h : g.padProperty mix n k = some v) : (g.staticPad n).isSome := by
  unfold padProperty at h
  split at h
  · simp [*]
  · cases h

/-! ### How the pads are wired -/

/-- The aggregator without its pads' properties: its element, each pad's serial and peer,
and the serial of its next request pad. -/
def wiring (g : Aggregator) : Handle × List (Nat × Option Handle) × Nat :=
  (g.element, g.pads.map fun p => (p.serial, p.peer), g.nextSerial)

@[simp] theorem wiring_setPadProperty (n : Nat) (k : String) (v : Value) (g : Aggregator) :
    (g.setPadProperty n k v).wiring = g.wiring := by
  simp only [wiring, setPadProperty, updatePad, List.map_map, Prod.mk.injEq, and_true, true_and]
  congr 1; funext p; by_cases h : p.serial = n <;> simp [h]

theorem nextSerial_eq_of_wiring {g g' : Aggregator} (h : g'.wiring = g.wiring) :
    g'.nextSerial = g.nextSerial :=
  congrArg (·.2.2) h

theorem serials_eq_of_wiring {g g' : Aggregator} (h : g'.wiring = g.wiring) :
    g'.pads.map (·.serial) = g.pads.map (·.serial) := by
  simpa [wiring, List.map_map, Function.comp_def] using congrArg (·.2.1.map Prod.fst) h

theorem exists_of_mem_of_wiring {g g' : Aggregator} (hw : g'.wiring = g.wiring) {p : AggregatorPad}
    (hp : p ∈ g'.pads) : ∃ q ∈ g.pads, q.serial = p.serial ∧ q.peer = p.peer := by
  have hl : g'.pads.map (fun p => (p.serial, p.peer)) = g.pads.map (fun p => (p.serial, p.peer)) :=
    congrArg (·.2.1) hw
  obtain ⟨q, hq, he⟩ :=
    List.mem_map.1 (hl ▸ List.mem_map_of_mem (fun p : AggregatorPad => (p.serial, p.peer)) hp)
  exact ⟨q, hq, (Prod.mk.inj he).1, (Prod.mk.inj he).2⟩

/-- Every pad `sink_0` of `g` is linked from `src`. -/
def ZeroLinkedFrom (src : Handle) (g : Aggregator) : Prop :=
  ∀ p ∈ g.pads, p.serial = 0 → p.peer = some src

theorem ZeroLinkedFrom.of_wiring {src : Handle} {g g' : Aggregator} (h : ZeroLinkedFrom src g)
    (hw : g'.wiring = g.wiring) : ZeroLinkedFrom src g' := by
  intro p hp h0
  obtain ⟨q, hq, hs, hpe⟩ := exists_of_mem_of_wiring hw hp
  exact hpe ▸ h q hq (hs.trans h0)

/-! ### Changes at one pad

What a request handler does to an aggregator touches the pads of one serial only. -/

/-- `g'` is `g` with at most its pads `sink_<n>` changed, added or released, and no serial
given back. -/
def ChangedOnlyAt (n : Nat) (g g' : Aggregator) : Prop :=
  g.nextSerial ≤ g'.nextSerial ∧
    ∀ m ≠ n, g'.pads.filter (·.serial = m) = g.pads.filter (·.serial = m)

namespace ChangedOnlyAt

variable {n : Nat} {g g' g'' : Aggregator}

theorem refl (n : Nat) (g : Aggregator) : ChangedOnlyAt n g g := ⟨le_rfl, fun _ _ => rfl⟩

theorem trans (h : ChangedOnlyAt n g g') (h' : ChangedOnlyAt n g' g'') : ChangedOnlyAt n g g'' :=
  ⟨h.1.trans h'.1, fun m hm => (h'.2 m hm).trans (h.2 m hm)⟩

theorem staticPad_eq (h : ChangedOnlyAt n g g') {m : Nat} (hm : m ≠ n) :
    g'.staticPad m = g.staticPad m := by
  have key : ∀ g : Aggregator,
      g.staticPad m = (g.pads.filter (·.serial = m)).find? (·.serial = m) := by
    intro g; simp [staticPad]
  rw [key, key g, h.2 m hm]

theorem padProperty_eq (h : ChangedOnlyAt n g g') {m : Nat} (hm : m ≠ n) (mix : Mix)
    (k : String) : g'.padProperty mix m k = g.padProperty mix m k := by
  simp only [padProperty, h.staticPad_eq hm]

theorem zeroLinkedFrom (h : ChangedOnlyAt n g g') (hn : n ≠ 0) {src : Handle}
    (hz : ZeroLinkedFrom src g) : ZeroLinkedFrom src g' := by
  intro p hp h0
  have : p ∈ g.pads.filter (·.serial = 0) := by
    rw [← h.2 0 (Ne.symm hn)]; simp [hp, h0]
  exact hz p (List.mem_filter.1 this).1 h0

end ChangedOnlyAt

theorem changedOnlyAt_updatePad (n : Nat) (f : AggregatorPad → AggregatorPad)
    (hf : ∀ p, (f p).serial = p.serial) (g : Aggregator) : ChangedOnlyAt n g (g.updatePad n f) := by
  refine ⟨le_rfl, fun m hm => ?_⟩
  have hpred : ((fun p : AggregatorPad => decide (p.serial = m)) ∘
      fun p => if p.serial = n then f p else p) = fun p => decide (p.serial = m) := by
    funext p; by_cases h : p.serial = n <;> simp [h, hf]
  simp only [updatePad, List.filter_map, hpred]
  refine (List.map_congr_left fun p hp => ?_).trans (List.map_id _)
  have : p.serial = m := by simpa using (List.mem_filter.1 hp).2
  simp [this, hm]

theorem changedOnlyAt_setPadProperty (n : Nat) (k : String) (v : Value) (g : Aggregator) :
    ChangedOnlyAt n g (g.setPadProperty n k v) :=
  changedOnlyAt_updatePad n (fun p => { p with properties := p.properties.insert k v })
    (fun _ => rfl) g

theorem changedOnlyAt_requestPadSimple (g : Aggregator) :
    ChangedOnlyAt g.nextSerial g g.requestPadSimple.1 :=
  ⟨Nat.le_succ _, fun m hm => by simp [requestPadSimple, Ne.symm hm]⟩

theorem changedOnlyAt_linkPad {src : Handle} {n : Nat} {g g' : Aggregator}
    (h : g.linkPad src n = some g') : ChangedOnlyAt n g g' := by
  unfold linkPad at h
  split at h
  · split_ifs at h
    cases h
    exact changedOnlyAt_updatePad n ({ · with peer := some src }) (fun _ => rfl) g
  · cases h

theorem changedOnlyAt_releaseRequestPad (n : Nat) (g : Aggregator) :
    ChangedOnlyAt n g (g.releaseRequestPad n) := by
  refine ⟨le_rfl, fun m hm => ?_⟩
  simp only [releaseRequestPad, List.filter_filter]
  refine List.filter_congr fun p _ => ?_
  by_cases h : p.serial = m <;> simp [h, hm]

/-! ### Fresh wiring -/

/-- `find?` reads its predicate on the list's members only. -/
private theorem find?_congr {α : Type} {p q : α → Bool} {l : List α} (h : ∀ x ∈ l, p x = q x) :
    l.find? p = l.find? q := by
  rw [← List.filter_head?, List.filter_congr h, List.filter_head?]

/-- The pads of `g` have distinct serials, all below `nextSerial`, and are linked only from
handles older than `h`. -/
structure FreshlyWired (h : Handle) (g : Aggregator) : Prop where
  nodup : (g.pads.map (·.serial)).Nodup
  serial_lt : ∀ p ∈ g.pads, p.serial < g.nextSerial
  peer_lt : ∀ p ∈ g.pads, ∀ b, p.peer = some b → b < h

namespace FreshlyWired

variable {h : Handle} {g : Aggregator}

theorem of_wiring (hg : FreshlyWired h g) {g' : Aggregator} (hw : g'.wiring = g.wiring) :
    FreshlyWired h g' := by
  refine ⟨serials_eq_of_wiring hw ▸ hg.nodup, fun p hp => ?_, fun p hp b hb => ?_⟩
  · obtain ⟨q, hq, hs, -⟩ := exists_of_mem_of_wiring hw hp
    rw [nextSerial_eq_of_wiring hw, ← hs]; exact hg.serial_lt q hq
  · obtain ⟨q, hq, -, hpe⟩ := exists_of_mem_of_wiring hw hp
    exact hg.peer_lt q hq b (hpe.trans hb)

theorem mono (hg : FreshlyWired h g) {h' : Handle} (hh : h ≤ h') : FreshlyWired h' g :=
  ⟨hg.nodup, hg.serial_lt, fun p hp b hb => lt_of_lt_of_le (hg.peer_lt p hp b hb) hh⟩

/-- Two pads of the same serial are one pad. -/
theorem eq_of_serial_eq (hg : FreshlyWired h g) {p q : AggregatorPad} (hp : p ∈ g.pads)
    (hq : q ∈ g.pads) (hs : p.serial = q.serial) : p = q :=
  List.inj_on_of_nodup_map hg.nodup hp hq hs

theorem requestPadSimple (hg : FreshlyWired h g) : FreshlyWired h g.requestPadSimple.1 := by
  refine ⟨?_, fun p hp => ?_, fun p hp b hb => ?_⟩
  · simp only [Aggregator.requestPadSimple, List.map_append, List.map_singleton]
    exact hg.nodup.append (List.nodup_singleton _) fun x hx hx' => by
      obtain ⟨p, hp, rfl⟩ := List.mem_map.1 hx
      simp only [List.mem_singleton] at hx'
      exact absurd hx' (hg.serial_lt p hp).ne
  · simp only [Aggregator.requestPadSimple, List.mem_append, List.mem_singleton] at hp
    rcases hp with hp | rfl
    · exact Nat.lt_succ_of_lt (hg.serial_lt p hp)
    · exact Nat.lt_succ_self _
  · simp only [Aggregator.requestPadSimple, List.mem_append, List.mem_singleton] at hp
    rcases hp with hp | rfl
    · exact hg.peer_lt p hp b hb
    · cases hb

theorem releaseRequestPad (hg : FreshlyWired h g) (n : Nat) :
    FreshlyWired h (g.releaseRequestPad n) :=
  ⟨((List.filter_sublist _).map _).nodup hg.nodup,
    fun p hp => hg.serial_lt p (List.mem_filter.1 hp).1,
    fun p hp => hg.peer_lt p (List.mem_filter.1 hp).1⟩

/-- Updating a pad keeps the wiring fresh when it keeps the pad's serial and links it only
from a handle older than `h`. -/
theorem updatePad (hg : FreshlyWired h g) (n : Nat) {f : AggregatorPad → AggregatorPad}
    (hf : ∀ p, (f p).serial = p.serial)
    (hpeer : ∀ p b, (f p).peer = some b → p.peer = some b ∨ b < h) :
    FreshlyWired h (g.updatePad n f) := by
  have hser : (g.updatePad n f).pads.map (·.serial) = g.pads.map (·.serial) := by
    simp only [Aggregator.updatePad, List.map_map]
    exact List.map_congr_left fun p _ => by by_cases hp : p.serial = n <;> simp [hp, hf]
  refine ⟨hser ▸ hg.nodup, fun p hp => ?_, fun p hp b hb => ?_⟩ <;>
    obtain ⟨q, hq, rfl⟩ := List.mem_map.1 hp
  · by_cases hqn : q.serial = n
    · simp only [hqn, if_true, hf]; exact hqn ▸ hg.serial_lt q hq
    · simp only [hqn, if_false]; exact hg.serial_lt q hq
  · by_cases hqn : q.serial = n
    · simp only [hqn, if_true] at hb
      exact (hpeer q b hb).elim (hg.peer_lt q hq b) id
    · simp only [hqn, if_false] at hb; exact hg.peer_lt q hq b hb

theorem linkPad (hg : FreshlyWired h g) {src : Handle} (hsrc : src < h) {n : Nat}
    {g' : Aggregator} (hl : g.linkPad src n = some g') : FreshlyWired h g' := by
  unfold Aggregator.linkPad at hl
  split at hl
  · split_ifs at hl
    cases hl
    exact hg.updatePad n (fun _ => rfl) fun _ b hb => .inr (Option.some.inj hb ▸ hsrc)
  · cases hl

theorem linkFrom (hg : FreshlyWired h g) {src : Handle} (hsrc : src < h) :
    FreshlyWired h (g.linkFrom src).1 := by
  unfold Aggregator.linkFrom
  split
  · exact hg.updatePad _ (fun _ => rfl) fun _ b hb => .inr (Option.some.inj hb ▸ hsrc)
  · exact hg.requestPadSimple.updatePad _ (fun _ => rfl) fun _ b hb =>
      .inr (Option.some.inj hb ▸ hsrc)

end FreshlyWired

/-! ### Which pad a handle is linked to -/

theorem peerOf_eq_of_wiring {g g' : Aggregator} (hw : g'.wiring = g.wiring) (b : Handle) :
    g'.peerOf b = g.peerOf b := by
  have key : ∀ g : Aggregator, g.peerOf b = (g.wiring.2.1.find? (·.2 = some b)).map (·.1) := by
    intro g; simp [peerOf, wiring, Option.map_map, Function.comp_def]
  rw [key, key g, hw]

@[simp] theorem peerOf_requestPadSimple (g : Aggregator) (b : Handle) :
    g.requestPadSimple.1.peerOf b = g.peerOf b := by
  simp [peerOf, requestPadSimple]

theorem peerOf_releaseRequestPad {g : Aggregator} {b : Handle} {m : Nat} (hb : g.peerOf b = some m)
    {n : Nat} (hmn : m ≠ n) : (g.releaseRequestPad n).peerOf b = some m := by
  obtain ⟨p, hp, rfl⟩ := Option.map_eq_some'.1 hb
  obtain ⟨hpb, as, bs, hpads, has⟩ := List.find?_eq_some.1 hp
  simp only [peerOf, releaseRequestPad, List.find?_filter]
  refine Option.map_eq_some'.2 ⟨p, List.find?_eq_some.2 ⟨by simpa [hmn] using hpb, as, bs, hpads,
    fun a ha => ?_⟩, rfl⟩
  have hna : a.peer ≠ some b := by simpa using has a ha
  simp [hna]

/-- Releasing a request pad removes it, and only it. -/
theorem staticPad_releaseRequestPad (g : Aggregator) (n m : Nat) :
    (g.releaseRequestPad n).staticPad m = if m = n then none else g.staticPad m := by
  simp only [staticPad, releaseRequestPad, List.find?_filter]
  split_ifs with h
  · subst h
    exact List.find?_eq_none.2 fun p _ => by simp
  · exact find?_congr fun p _ => by by_cases hp : p.serial = m <;> simp [hp, h]

/-- Updating the pads of one serial keeps which pad `b` is linked to when none of them is
linked from `b`, before or after. -/
theorem peerOf_updatePad {g : Aggregator} {n : Nat} (f : AggregatorPad → AggregatorPad)
    (hf : ∀ p, (f p).serial = p.serial) {b : Handle}
    (hb : ∀ p ∈ g.pads, p.serial = n → p.peer ≠ some b ∧ (f p).peer ≠ some b) :
    (g.updatePad n f).peerOf b = g.peerOf b := by
  simp only [peerOf, updatePad, List.find?_map, Option.map_map]
  rw [find?_congr (q := fun p => decide (p.peer = some b)) fun p hp => ?_]
  · refine Option.map_congr fun p _ => ?_
    by_cases hp : p.serial = n <;> simp [hp, hf]
  · by_cases hpn : p.serial = n
    · simp [hpn, (hb p hp hpn).1, (hb p hp hpn).2]
    · simp [hpn]

theorem peerOf_linkPad {g g' : Aggregator} {h : Handle} (hg : FreshlyWired h g) {src : Handle}
    {n : Nat} (hl : g.linkPad src n = some g') {b : Handle} (hb : b ≠ src) :
    g'.peerOf b = g.peerOf b := by
  unfold linkPad at hl
  split at hl
  · rename_i p hpn
    split_ifs at hl with hpeer
    cases hl
    refine peerOf_updatePad _ (fun _ => by rfl) fun q hq hqn => ?_
    have hqp : q = p := hg.eq_of_serial_eq hq (List.mem_of_find?_eq_some hpn)
      (hqn.trans (staticPad_serial hpn).symm)
    subst hqp
    simp [hpeer, Ne.symm hb]
  · cases hl

theorem peerOf_linkPad_self {g g' : Aggregator} {h : Handle} (hg : FreshlyWired h g) {src : Handle}
    (hsrc : h ≤ src) {n : Nat} (hl : g.linkPad src n = some g') : g'.peerOf src = some n := by
  unfold linkPad at hl
  split at hl
  · rename_i p hpn
    split_ifs at hl
    cases hl
    simp only [peerOf, updatePad, List.find?_map, Option.map_map]
    rw [find?_congr (q := fun q => decide (q.serial = n)) fun q hq => ?_]
    · rw [show g.pads.find? (fun q => decide (q.serial = n)) = g.staticPad n from rfl, hpn]
      simp [staticPad_serial hpn]
    · have hne : q.peer ≠ some src := fun hs => absurd hsrc (not_le.2 (hg.peer_lt q hq src hs))
      by_cases hqn : q.serial = n <;> simp [hqn, hne]
  · cases hl

theorem peerOf_linkFrom {g : Aggregator} {h : Handle} (hg : FreshlyWired h g) {src b : Handle}
    (hb : b ≠ src) : (g.linkFrom src).1.peerOf b = g.peerOf b := by
  unfold linkFrom
  split
  · rename_i p hp
    refine peerOf_updatePad _ (fun _ => by rfl) fun q hq hqn => ?_
    have hqp : q = p := hg.eq_of_serial_eq hq (List.mem_of_find?_eq_some hp) hqn
    subst hqp
    have : q.peer = none := by simpa using List.find?_some hp
    simp [this, Ne.symm hb]
  · rw [peerOf_updatePad _ (fun _ => by rfl) fun q hq hqn => ?_, peerOf_requestPadSimple]
    simp only [requestPadSimple, List.mem_append, List.mem_singleton] at hq hqn
    rcases hq with hq | rfl
    · exact absurd hqn (hg.serial_lt q hq).ne
    · simp [Ne.symm hb]

/-! ### Unlinked pads -/

/-- `g` has a pad `sink_<n>`, and it is not linked yet. -/
def Unlinked (n : Nat) (g : Aggregator) : Prop := (g.staticPad n).map (·.peer) = some none

theorem Unlinked.of_wiring {n : Nat} {g g' : Aggregator} (h : g.Unlinked n)
    (hw : g'.wiring = g.wiring) : g'.Unlinked n := by
  have key : ∀ g : Aggregator, (g.staticPad n).map (·.peer) =
      (g.wiring.2.1.find? (·.1 = n)).map (·.2) := by
    intro g; simp [staticPad, wiring, Option.map_map, Function.comp_def]
  unfold Unlinked at *
  rw [key, hw, ← key]; exact h

theorem unlinked_requestPadSimple {h : Handle} {g : Aggregator} (hg : FreshlyWired h g) :
    g.requestPadSimple.1.Unlinked g.nextSerial := by
  have hnone : g.pads.find? (·.serial = g.nextSerial) = none :=
    List.find?_eq_none.2 fun p hp => by simpa using (hg.serial_lt p hp).ne
  simp [Unlinked, staticPad, requestPadSimple, hnone]

theorem linkPad_isSome {n : Nat} {g : Aggregator} (h : g.Unlinked n) (src : Handle) :
    (g.linkPad src n).isSome := by
  obtain ⟨p, hp, hpeer⟩ := Option.map_eq_some'.1 h
  simp [linkPad, hp, hpeer]


/-! ### Growing an aggregator -/

/-- `g'` grows `g` while the handles made go from `h` to `h'`: pads requested, properties
set, unlinked pads linked from new handles.  A fresh wiring stays fresh, no serial is given
back, and every link from an older handle is kept. -/
structure Grows (h h' : Handle) (g g' : Aggregator) : Prop where
  fresh : FreshlyWired h g → FreshlyWired h' g'
  nextSerial_le : g.nextSerial ≤ g'.nextSerial
  peerOf_eq : FreshlyWired h g → ∀ b < h, g'.peerOf b = g.peerOf b

namespace Grows

variable {h h' h'' : Handle} {g g' g'' : Aggregator}

theorem of_wiring (hh : h ≤ h') (hw : g'.wiring = g.wiring) : Grows h h' g g' :=
  ⟨fun hg => (hg.of_wiring hw).mono hh, (nextSerial_eq_of_wiring hw).ge,
    fun _ b _ => peerOf_eq_of_wiring hw b⟩

theorem refl (hh : h ≤ h') (g : Aggregator) : Grows h h' g g := of_wiring hh rfl

theorem trans (hg : Grows h h' g g') (hg' : Grows h' h'' g' g'') (hh : h ≤ h') :
    Grows h h'' g g'' :=
  ⟨hg'.fresh ∘ hg.fresh, hg.nextSerial_le.trans hg'.nextSerial_le, fun hf b hb =>
    (hg'.peerOf_eq (hg.fresh hf) b (lt_of_lt_of_le hb hh)).trans (hg.peerOf_eq hf b hb)⟩

theorem requestPadSimple (hh : h ≤ h') (g : Aggregator) : Grows h h' g g.requestPadSimple.1 :=
  ⟨fun hg => hg.requestPadSimple.mono hh, Nat.le_succ _, fun _ b _ => peerOf_requestPadSimple g b⟩

theorem linkPad {src : Handle} (hsrc : h ≤ src) (hsrc' : src < h') {n : Nat}
    (hl : g.linkPad src n = some g') : Grows h h' g g' :=
  ⟨fun hg => (hg.mono (hsrc.trans hsrc'.le)).linkPad hsrc' hl, (changedOnlyAt_linkPad hl).1,
    fun hg _ hb => peerOf_linkPad hg hl (lt_of_lt_of_le hb hsrc).ne⟩

theorem linkFrom {src : Handle} (hsrc : h ≤ src) (hsrc' : src < h') (g : Aggregator) :
    Grows h h' g (g.linkFrom src).1 := by
  refine ⟨fun hg => (hg.mono (hsrc.trans hsrc'.le)).linkFrom hsrc', ?_,
    fun hg _ hb => peerOf_linkFrom hg (lt_of_lt_of_le hb hsrc).ne⟩
  unfold Aggregator.linkFrom
  split
  · exact le_rfl
  · exact Nat.le_succ _

end Grows

end Aggregator

/-- The fields of a capsfilter's caps (one structure). -/
abbrev Caps := Table Value

/-- The objects around the mixer: every producer's shared record, the appsrcs and the calls
made on them, the caps of every capsfilter, and the next fresh handle. -/
structure World where
  producers : AppSink → StreamConsumers
  elements : Elements
  caps : Handle → Caps
  nextHandle : Handle

namespace World

/-- A world in which no producer has a consumer, no appsrc has been used and no capsfilter
has caps. -/
def empty : World := ⟨fun _ => .new, .empty, fun _ => ∅, 0⟩

/-- `ElementFactory::make` (or `make_element`, `Bin::new`): a fresh handle. -/
def make (w : World) : World × Handle :=
  ({ w with nextHandle := w.nextHandle + 1 }, w.nextHandle)

/-- A fresh appsrc, with GStreamer's defaults. -/
def makeAppSrc (w : World) : World × AppSrc :=
  ({ w with nextHandle := w.nextHandle + 1,
            elements := w.elements.updateAppSrc w.nextHandle fun _ => .new },
    w.nextHandle)

/-- `producer.add_consumer(appsrc, id)`. -/
def addConsumer (producer : AppSink) (appsrc : AppSrc) (id : String) (w : World) : World :=
  let r := (w.producers producer).addConsumer producer appsrc id w.elements
  { w with producers := Function.update w.producers producer r.1, elements := r.2 }

/-- `producer.remove_consumer(id)`. -/
def removeConsumer (producer : AppSink) (id : String) (w : World) : World :=
  let r := (w.producers producer).removeConsumer id w.elements
  { w with producers := Function.update w.producers producer r.1, elements := r.2 }

/-- `producer.forward()`. -/
def forward (producer : AppSink) (w : World) : World :=
  { w with producers := Function.update w.producers producer (w.producers producer).forward }

/-- `capsfilter.set_property("caps", caps)`. -/
def setCaps (capsfilter : Handle) (c : Caps) (w : World) : World :=
  { w with caps := Function.update w.caps capsfilter c }

@[simp] theorem make_nextHandle (w : World) : w.make.1.nextHandle = w.nextHandle + 1 := rfl
@[simp] theorem make_handle (w : World) : w.make.2 = w.nextHandle := rfl
@[simp] theorem makeAppSrc_nextHandle (w : World) :
    w.makeAppSrc.1.nextHandle = w.nextHandle + 1 := rfl
@[simp] theorem addConsumer_nextHandle (p : AppSink) (a : AppSrc) (k : String) (w : World) :
    (w.addConsumer p a k).nextHandle = w.nextHandle := rfl
@[simp] theorem removeConsumer_nextHandle (p : AppSink) (k : String) (w : World) :
    (w.removeConsumer p k).nextHandle = w.nextHandle := rfl
@[simp] theorem forward_nextHandle (p : AppSink) (w : World) :
    (w.forward p).nextHandle = w.nextHandle := rfl
@[simp] theorem setCaps_nextHandle (h : Handle) (c : Caps) (w : World) :
    (w.setCaps h c).nextHandle = w.nextHandle := rfl
@[simp] theorem make_producers (w : World) : w.make.1.producers = w.producers := rfl
@[simp] theorem make_caps (w : World) : w.make.1.caps = w.caps := rfl
@[simp] theorem makeAppSrc_producers (w : World) : w.makeAppSrc.1.producers = w.producers := rfl
@[simp] theorem makeAppSrc_caps (w : World) : w.makeAppSrc.1.caps = w.caps := rfl
@[simp] theorem setCaps_producers (h : Handle) (c : Caps) (w : World) :
    (w.setCaps h c).producers = w.producers := rfl
@[simp] theorem forward_caps (p : AppSink) (w : World) : (w.forward p).caps = w.caps := rfl
@[simp] theorem addConsumer_caps (p : AppSink) (a : AppSrc) (k : String) (w : World) :
    (w.addConsumer p a k).caps = w.caps := rfl
@[simp] theorem removeConsumer_caps (p : AppSink) (k : String) (w : World) :
    (w.removeConsumer p k).caps = w.caps := rfl

end World

end Auteur
