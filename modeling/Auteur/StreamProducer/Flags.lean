import Auteur.StreamProducer.Delivery

/-!
The two flags of a `StreamConsumer` and the calls they gate: `forwarded_latency` and the
producer's `latency_updated` gate `set_latency`, `first_buffer` gates the force-key-unit
request that `new_sample` sends upstream from the appsink.

* `delivers` — the locked steps of `new_sample` that reach the consumers (the pull
  succeeds and the producer is not discarding); every other step makes neither call
  (`step_calls_of_not_delivers`);
* `step_latencyCalls_of_delivers`, `step_keyUnitRequests_of_delivers` — the calls a
  delivering step makes: `set_latency` once per binding whose latency is not forwarded or
  was updated, and one request iff some binding has `first_buffer`;
* `LatencyForwarded` — on every run from a new producer, a binding whose latency was
  forwarded has the current latency as the last one set on its appsrc, unless an update is
  pending; `lastLatency_of_delivers` — so after every delivering step, every appsrc of the
  snapshot has the current latency;
* `latencyUpdated_iff`, `firstBuffer_iff` — the flags read back from the run: an update is
  pending iff a latency event came after the last delivering step, and a binding has
  `first_buffer` iff it was made after the last delivering step.

Design notes: "after the last delivering step" is `SinceLastDelivery`, a split of the run at
the event in question with no delivering step in the rest; `sinceLastDelivery_snoc` says
how it grows by one step, and the two read-backs are proved by induction on the run from
its end.
-/

namespace Auteur

/-! ### Which steps reach the consumers -/

/-- A step is a delivering `new_sample`: the streaming thread owes nothing, the pull
succeeds, and the producer is not discarding. -/
def delivers (p : Producer) : Event → Bool
  | .newSample true => p.owed.isEmpty && !p.consumers.discard
  | _ => false

/-- The `set_latency` calls among the calls into GStreamer, as (appsrc, latency). -/
def latencyCalls (l : List Effect) : List (AppSrc × Nat) :=
  l.filterMap fun
    | .setLatency a n => some (a, n)
    | _ => none

/-- The force-key-unit requests among the calls into GStreamer, by the appsink sending
each. -/
def keyUnitRequests (l : List Effect) : List AppSink :=
  l.filterMap fun
    | .forceKeyUnit s => some s
    | _ => none

/-- The last latency set on the appsrc `a`. -/
def lastLatency (w : Elements) (a : AppSrc) : Option Nat :=
  (((latencyCalls w.effects).filter (·.1 = a)).getLast?).map Prod.snd

/-- The `set_latency` call the closure of `new_sample` makes on one consumer. -/
def latencyCall (latency : Option Nat) (latencyUpdated : Bool) (c : StreamConsumer) :
    Option (AppSrc × Nat) :=
  latency.bind fun l => if !c.forwardedLatency || latencyUpdated then some (c.appsrc, l) else none

/-- A consumer as the closure of `new_sample` leaves it: the latency forwarded if there is
one, the first buffer seen. -/
def StreamConsumer.visited (latency : Option Nat) (c : StreamConsumer) : StreamConsumer :=
  { c with forwardedLatency := c.forwardedLatency || latency.isSome, firstBuffer := false }

@[simp] theorem StreamConsumer.visited_appsrc (latency : Option Nat) (c : StreamConsumer) :
    (c.visited latency).appsrc = c.appsrc := rfl

@[simp] theorem latencyCalls_append (l l' : List Effect) :
    latencyCalls (l ++ l') = latencyCalls l ++ latencyCalls l' :=
  List.filterMap_append _ _ _

@[simp] theorem keyUnitRequests_append (l l' : List Effect) :
    keyUnitRequests (l ++ l') = keyUnitRequests l ++ keyUnitRequests l' :=
  List.filterMap_append _ _ _

/-! ### The closure of `new_sample` -/

section Visit

variable (appsink : AppSink) (latency : Option Nat) (u : Bool)

theorem visit_fst (c : StreamConsumer) (w : Elements) (r : Bool) :
    (visit appsink latency u c w r).1 = c.visited latency := by
  unfold visit StreamConsumer.visited
  cases latency <;> dsimp only <;> split <;> simp

theorem visit_requested (c : StreamConsumer) (w : Elements) (r : Bool) :
    (visit appsink latency u c w r).2.2 = (r || c.firstBuffer) := by
  unfold visit
  cases latency <;> dsimp only <;> split <;> simp_all

theorem visit_latencyCalls (c : StreamConsumer) (w : Elements) (r : Bool) :
    latencyCalls (visit appsink latency u c w r).2.1.effects =
      latencyCalls w.effects ++ (latencyCall latency u c).toList := by
  unfold visit latencyCall
  cases latency with
  | none => dsimp only; split <;> simp [latencyCalls]
  | some l => dsimp only; split <;> split <;> simp_all [latencyCalls]

theorem visit_keyUnitRequests (c : StreamConsumer) (w : Elements) (r : Bool) :
    keyUnitRequests (visit appsink latency u c w r).2.1.effects =
      keyUnitRequests w.effects ++ if c.firstBuffer && !r then [appsink] else [] := by
  unfold visit
  cases latency with
  | none => dsimp only; split <;> simp_all [keyUnitRequests]
  | some l => dsimp only; split <;> split <;> simp_all [keyUnitRequests]

theorem visitAll_fst : ∀ (es : List ((_ : String) × StreamConsumer)) (w : Elements) (r : Bool),
    (visitAll appsink latency u es w r).1 = es.map fun e => ⟨e.1, e.2.visited latency⟩
  | [], _, _ => rfl
  | e :: es, w, r => by simp only [visitAll, List.map_cons, visit_fst, visitAll_fst es]

theorem visitAll_requested : ∀ (es : List ((_ : String) × StreamConsumer)) (w : Elements)
    (r : Bool), (visitAll appsink latency u es w r).2.2 = (r || es.any (·.2.firstBuffer))
  | [], _, r => by simp [visitAll]
  | e :: es, w, r => by
    simp only [visitAll, visitAll_requested es, visit_requested, List.any_cons, Bool.or_assoc]

theorem visitAll_latencyCalls : ∀ (es : List ((_ : String) × StreamConsumer)) (w : Elements)
    (r : Bool), latencyCalls (visitAll appsink latency u es w r).2.1.effects =
      latencyCalls w.effects ++ es.filterMap (latencyCall latency u ·.2)
  | [], _, _ => by simp [visitAll]
  | e :: es, w, r => by
    simp only [visitAll, visitAll_latencyCalls es, visit_latencyCalls, List.filterMap_cons]
    cases latencyCall latency u e.2 <;> simp

/-- The closure sends one request over the whole map, at the first binding with
`first_buffer`, and none if one was already sent. -/
theorem visitAll_keyUnitRequests : ∀ (es : List ((_ : String) × StreamConsumer))
    (w : Elements) (r : Bool), keyUnitRequests (visitAll appsink latency u es w r).2.1.effects =
      keyUnitRequests w.effects ++ if !r && es.any (·.2.firstBuffer) then [appsink] else []
  | [], _, r => by simp [visitAll]
  | ⟨k, ⟨a, id, fl, fb⟩⟩ :: es, w, r => by
    simp only [visitAll, visitAll_keyUnitRequests es, visit_keyUnitRequests, visit_requested,
      List.any_cons, List.append_assoc]
    cases r <;> cases fb <;> rfl

theorem visitTable_fst (t : Table StreamConsumer) (w : Elements) :
    (visitTable appsink latency u t w).1 = t.map (StreamConsumer.visited latency) :=
  AList.ext (visitAll_fst appsink latency u t.entries w false)

end Visit

/-! ### One step -/

/-- The consumers' record after a step of the actor thread, the latency probe, or a callback
that does not deliver. -/
def Producer.recordAfter (p : Producer) : Event → StreamConsumers
  | .addConsumer a k =>
    { p.consumers with
      consumers := (p.consumers.addConsumer p.appsink a k p.elements).1.consumers }
  | .removeConsumer k => { p.consumers with consumers := p.consumers.consumers.erase k }
  | .forward => p.consumers.forward
  | .latency l => { p.consumers with currentLatency := some l, latencyUpdated := true }
  | _ => p.consumers

section Step

variable {p : Producer}

/-- **A delivering step**, as the locked section of `new_sample` leaves the producer. -/
theorem step_of_delivers (h : delivers p (.newSample true) = true) :
    step p (.newSample true) =
      { p with
        pulled := p.pulled + 1
        consumers := { p.consumers with
          latencyUpdated := false
          consumers :=
            p.consumers.consumers.map (StreamConsumer.visited p.consumers.currentLatency) }
        elements := (visitAll p.appsink p.consumers.currentLatency p.consumers.latencyUpdated
          p.consumers.consumers.entries p.elements false).2.1
        owed := p.consumers.consumers.entries.map fun b => .push b.2.appsrc p.pulled } := by
  simp only [delivers, Bool.and_eq_true, List.isEmpty_iff, Bool.not_eq_true'] at h
  simp only [step, h.1, if_true, newSampleLocked, Bool.not_true, Bool.false_eq_true, if_false,
    h.2, visitTable_fst]
  simp [Table.map, Function.comp_def, visitTable]

/-- A step that does not deliver leaves the consumers' record as its event says, and adds
no `set_latency` call and no force-key-unit request. -/
theorem step_of_not_delivers {e : Event} (h : delivers p e = false) :
    (step p e).consumers = p.recordAfter e ∧
    latencyCalls (step p e).elements.effects = latencyCalls p.elements.effects ∧
    keyUnitRequests (step p e).elements.effects = keyUnitRequests p.elements.effects := by
  cases e with
  | addConsumer a k =>
    obtain ⟨m, hm⟩ := p.consumers.addConsumer_fst_eq p.appsink a k p.elements
    simp [step, hm, Producer.recordAfter]
  | removeConsumer k =>
    obtain ⟨m, hm⟩ := p.consumers.removeConsumer_fst_eq k p.elements
    simp [step, hm, Producer.recordAfter,
      ← StreamConsumers.removeConsumer_consumers k p.consumers p.elements]
  | forward | latency => simp [step, latencyLocked, Producer.recordAfter]
  | eos => simp only [step, eosLocked]; split_ifs <;> simp [Producer.recordAfter]
  | newSample ok =>
    simp only [step, Producer.recordAfter]
    split_ifs with ho
    · cases ok
      · simp [newSampleLocked]
      · simp only [delivers, ho, List.isEmpty_nil, Bool.true_and, Bool.not_eq_false'] at h
        simp [newSampleLocked, h]
    · simp
  | next ok =>
    simp only [step, nextOwed, Producer.recordAfter]
    split <;> simp [latencyCalls, keyUnitRequests]

theorem step_latencyCalls_of_delivers (h : delivers p (.newSample true) = true) :
    latencyCalls (step p (.newSample true)).elements.effects =
      latencyCalls p.elements.effects ++ p.consumers.consumers.entries.filterMap
        (latencyCall p.consumers.currentLatency p.consumers.latencyUpdated ·.2) := by
  rw [step_of_delivers h]
  exact visitAll_latencyCalls _ _ _ _ _ _

theorem step_keyUnitRequests_of_delivers (h : delivers p (.newSample true) = true) :
    keyUnitRequests (step p (.newSample true)).elements.effects =
      keyUnitRequests p.elements.effects ++
        if p.consumers.consumers.entries.any (·.2.firstBuffer) then [p.appsink] else [] := by
  rw [step_of_delivers h, visitAll_keyUnitRequests]
  rfl

/-- A delivering step pushes nothing itself: every push of its sample is owed. -/
theorem step_pushes_of_delivers (h : delivers p (.newSample true) = true) :
    pushes (step p (.newSample true)).elements = pushes p.elements := by
  obtain ⟨l, hl, hl'⟩ := visitAll_effects p.appsink p.consumers.currentLatency
    p.consumers.latencyUpdated p.consumers.consumers.entries p.elements false
  rw [step_of_delivers h]
  exact pushes_of_effects hl hl'

end Step

/-! ### The last latency set on an appsrc -/

section LastLatency

variable {w w' : Elements}

theorem lastLatency_congr (h : latencyCalls w'.effects = latencyCalls w.effects) :
    lastLatency w' = lastLatency w := by
  funext a; rw [lastLatency, h, lastLatency]

/-- After calls that all set `l`, an appsrc that got one of them, or whose last latency was
`l` already, has `l`. -/
theorem lastLatency_of_calls {calls : List (AppSrc × Nat)} {l : Nat} {a : AppSrc}
    (hw : latencyCalls w'.effects = latencyCalls w.effects ++ calls)
    (hl : ∀ x ∈ calls, x.2 = l) (ha : (∃ x ∈ calls, x.1 = a) ∨ lastLatency w a = some l) :
    lastLatency w' a = some l := by
  rw [lastLatency, hw, List.filter_append, List.getLast?_append]
  cases hx : (calls.filter (·.1 = a)).getLast? with
  | some x =>
    have hx' := List.mem_filter.1 (List.mem_of_getLast?_eq_some hx)
    simp [hl x hx'.1]
  | none =>
    rw [List.getLast?_eq_none_iff, List.filter_eq_nil_iff] at hx
    rcases ha with ⟨x, hx₁, hx₂⟩ | ha
    · exact absurd (decide_eq_true hx₂) (hx x hx₁)
    · exact ha

end LastLatency

/-! ### Membership changes -/

theorem StreamConsumers.addConsumer_lookup (appsink : AppSink) (a : AppSrc) (k : String)
    (p : StreamConsumers) (w : Elements) (k' : String) :
    (p.addConsumer appsink a k w).1.consumers.lookup k' =
      if k' = k ∧ k ∉ p.consumers then some (.new a (w.appsrcs a).nextProbeId)
      else p.consumers.lookup k' := by
  by_cases hk : k ∈ p.consumers
  · simp [addConsumer_of_mem hk, hk]
  · rw [addConsumer_of_not_mem hk]
    by_cases hk' : k' = k
    · subst hk'; simp [hk]
    · simp [hk', AList.lookup_insert_ne hk']

theorem eq_of_delivers {p : Producer} {e : Event} (h : delivers p e = true) :
    e = .newSample true := by
  cases e with
  | newSample ok => cases ok; cases h; rfl
  | _ => cases h

/-! ### Latency forwarding over a run -/

/-- What every run from a new producer keeps about latency: an update is pending only for a
known latency, and a binding whose latency was forwarded has the current latency as the last
one set on its appsrc, unless an update is pending. -/
structure LatencyForwarded (p : Producer) : Prop where
  pending : p.consumers.latencyUpdated = true → p.consumers.currentLatency.isSome
  forwarded : ∀ k c, p.consumers.consumers.lookup k = some c → c.forwardedLatency = true →
    p.consumers.latencyUpdated = true ∨
      lastLatency p.elements c.appsrc = p.consumers.currentLatency

namespace LatencyForwarded

variable {p : Producer}

theorem new (appsink : AppSink) (appsrcs : AppSrc → AppSrcState) :
    LatencyForwarded (Producer.new appsink appsrcs) :=
  ⟨nofun, fun _ _ h => by simp [Producer.new, StreamConsumers.new] at h⟩

/-- A step that keeps the latency, the pending update and the last latencies, and adds only
bindings whose latency is not forwarded, keeps the invariant. -/
theorem of_frame {p' : Producer} (h : LatencyForwarded p)
    (hcur : p'.consumers.currentLatency = p.consumers.currentLatency)
    (hupd : p'.consumers.latencyUpdated = p.consumers.latencyUpdated)
    (hmap : ∀ k c, p'.consumers.consumers.lookup k = some c → c.forwardedLatency = true →
      p.consumers.consumers.lookup k = some c)
    (hlast : lastLatency p'.elements = lastLatency p.elements) : LatencyForwarded p' :=
  ⟨fun hu => hcur ▸ h.pending (hupd ▸ hu), fun k c hk hf => by
    rw [hcur, hupd, hlast]; exact h.forwarded k c (hmap k c hk hf) hf⟩

/-- **After a delivering step with a known latency, every appsrc of its snapshot has that
latency as the last one set on it.** -/
theorem lastLatency_of_delivers (h : LatencyForwarded p) (hd : delivers p (.newSample true) = true)
    {l : Nat} (hl : p.consumers.currentLatency = some l) {k : String} {c : StreamConsumer}
    (hc : p.consumers.consumers.lookup k = some c) :
    lastLatency (step p (.newSample true)).elements c.appsrc = some l := by
  refine lastLatency_of_calls (step_latencyCalls_of_delivers hd) (fun x hx => ?_) ?_
  · obtain ⟨b, -, hb⟩ := List.mem_filterMap.1 hx
    simp only [latencyCall, hl, Option.some_bind] at hb
    split_ifs at hb
    cases hb; rfl
  · by_cases hf : (!c.forwardedLatency || p.consumers.latencyUpdated) = true
    · exact .inl ⟨(c.appsrc, l), List.mem_filterMap.2 ⟨⟨k, c⟩, AList.mem_lookup_iff.1 hc,
        by simp [latencyCall, hl, hf]⟩, rfl⟩
    · simp only [Bool.or_eq_true, Bool.not_eq_true', not_or, Bool.not_eq_false,
        Bool.not_eq_true] at hf
      rcases h.forwarded k c hc hf.1 with hu | hlast
      · simp [hf.2] at hu
      · exact .inr (hlast.trans hl)

/-- A step that does not deliver keeps the invariant: it adds only bindings whose latency is
not forwarded, sets no latency, and a latency event makes an update pending. -/
theorem of_not_delivers (h : LatencyForwarded p) {e : Event} (hd : delivers p e = false) :
    LatencyForwarded (Auteur.step p e) := by
  obtain ⟨hc, hcalls, -⟩ := step_of_not_delivers hd
  have hlast := lastLatency_congr hcalls
  cases e with
  | addConsumer a k =>
    refine h.of_frame (by rw [hc]; rfl) (by rw [hc]; rfl) (fun k' c hk hf => ?_) hlast
    simp only [hc, Producer.recordAfter, StreamConsumers.addConsumer_lookup] at hk
    split_ifs at hk
    · cases hk; cases hf
    · exact hk
  | removeConsumer k =>
    refine h.of_frame (by rw [hc]; rfl) (by rw [hc]; rfl) (fun k' c hk _ => ?_) hlast
    simp only [hc, Producer.recordAfter] at hk
    exact (Table.lookup_erase_eq_some hk).2
  | latency l =>
    exact ⟨fun _ => by simp [hc, Producer.recordAfter],
      fun _ _ _ _ => .inl (by simp [hc, Producer.recordAfter])⟩
  | forward | newSample | eos | next =>
    exact h.of_frame (by rw [hc]; rfl) (by rw [hc]; rfl) (fun k c hk _ => by rwa [hc] at hk)
      hlast

/-- A delivering step keeps the invariant: every binding of the snapshot gets the current
latency, and no update is pending after it. -/
theorem deliver (h : LatencyForwarded p) (hd : delivers p (.newSample true) = true) :
    LatencyForwarded (Auteur.step p (.newSample true)) := by
  have hs := step_of_delivers hd
  have hcur : (Auteur.step p (.newSample true)).consumers.currentLatency =
      p.consumers.currentLatency := by rw [hs]
  refine ⟨fun hu => by simp [hs] at hu, fun k c' hk hf => .inr ?_⟩
  rw [hs] at hk
  obtain ⟨c, hc, rfl⟩ := Option.map_eq_some'.1 ((Table.lookup_map _ _ _).symm.trans hk)
  rw [hcur, StreamConsumer.visited_appsrc]
  cases hL : p.consumers.currentLatency with
  | some l => exact h.lastLatency_of_delivers hd hL hc
  | none =>
    -- no latency is known: nothing is pending, and the step sets none
    have hu : p.consumers.latencyUpdated = false :=
      Bool.eq_false_iff.2 fun hu => by simpa [hL] using h.pending hu
    have hcalls : latencyCalls (Auteur.step p (.newSample true)).elements.effects =
        latencyCalls p.elements.effects := by
      rw [step_latencyCalls_of_delivers hd]; simp [latencyCall, hL]
    rw [lastLatency_congr hcalls]
    simpa [hL, hu] using h.forwarded k c hc (by simpa [StreamConsumer.visited, hL] using hf)

/-- **Every step keeps the latency invariant.** -/
theorem step (h : LatencyForwarded p) (e : Event) : LatencyForwarded (step p e) := by
  cases hd : delivers p e
  · exact h.of_not_delivers hd
  · obtain rfl := eq_of_delivers hd
    exact h.deliver hd

theorem exec : ∀ (es : List Event) {p : Producer}, LatencyForwarded p →
    LatencyForwarded (Auteur.exec p es)
  | [], _, h => h
  | e :: es, _, h => exec es (h.step e)

end LatencyForwarded

/-! ### The flags read back from the run -/

theorem exec_snoc (p : Producer) (es : List Event) (e : Event) :
    exec p (es ++ [e]) = step (exec p es) e :=
  exec_append p es [e]

/-- The run `es` from `p` has no delivering step. -/
def deliveryFree : Producer → List Event → Bool
  | _, [] => true
  | p, e :: es => !delivers p e && deliveryFree (step p e) es

theorem deliveryFree_snoc : ∀ (p : Producer) (es : List Event) (e : Event),
    deliveryFree p (es ++ [e]) = (deliveryFree p es && !delivers (exec p es) e)
  | p, [], e => by simp [deliveryFree, exec]
  | p, x :: es, e => by
    simp only [List.cons_append, deliveryFree, List.append_eq, deliveryFree_snoc (step p x) es e,
      exec, Bool.and_assoc]

/-- Some event of the run `es` from `p` satisfies `start` where it happens, and no delivering
step comes after it. -/
def SinceLastDelivery (start : Producer → Event → Bool) (p : Producer) (es : List Event) :
    Prop :=
  ∃ pre e post, es = pre ++ e :: post ∧ start (exec p pre) e = true ∧
    deliveryFree (step (exec p pre) e) post = true

section Since

variable {start : Producer → Event → Bool} {p : Producer}

/-- How `SinceLastDelivery` grows by one step: the step itself is one, or there was one
before and the step does not deliver. -/
theorem sinceLastDelivery_snoc {es : List Event} {e : Event} :
    SinceLastDelivery start p (es ++ [e]) ↔
      start (exec p es) e = true ∨
        (SinceLastDelivery start p es ∧ delivers (exec p es) e = false) := by
  constructor
  · rintro ⟨pre, x, post, hes, hstart, hfree⟩
    rcases List.eq_nil_or_concat post with rfl | ⟨L, b, rfl⟩
    · obtain ⟨rfl, h⟩ := List.append_inj' hes rfl
      obtain rfl : e = x := List.head_eq_of_cons_eq h
      exact .inl hstart
    · rw [List.concat_eq_append] at hes hfree
      rw [← List.cons_append, ← List.append_assoc] at hes
      obtain ⟨rfl, h⟩ := List.append_inj' hes rfl
      obtain rfl : e = b := List.head_eq_of_cons_eq h
      rw [deliveryFree_snoc, Bool.and_eq_true, Bool.not_eq_true', ← exec, ← exec_append] at hfree
      exact .inr ⟨⟨pre, x, L, rfl, hstart, hfree.1⟩, hfree.2⟩
  · rintro (h | ⟨⟨pre, x, post, rfl, hstart, hfree⟩, hd⟩)
    · exact ⟨es, e, [], rfl, h, rfl⟩
    · refine ⟨pre, x, post ++ [e], by simp, hstart, ?_⟩
      rw [deliveryFree_snoc, hfree, ← exec, ← exec_append, hd]
      rfl

end Since

/-- The event binds a consumer under `k`: an `add_consumer` of `k` while `k` is unbound. -/
def Event.binds (k : String) (p : Producer) : Event → Bool
  | .addConsumer _ k' => decide (k' = k ∧ k ∉ p.consumers.consumers)
  | _ => false

section ReadBack

variable (appsink : AppSink) (appsrcs : AppSrc → AppSrcState)

/-- **A binding has `first_buffer` exactly when it was made after the last delivering
step**: the first delivering step whose snapshot holds it clears it. -/
theorem firstBuffer_iff (es : List Event) : ∀ {k : String} {c : StreamConsumer},
    (exec (Producer.new appsink appsrcs) es).consumers.consumers.lookup k = some c →
      (c.firstBuffer = true ↔
        SinceLastDelivery (Event.binds k) (Producer.new appsink appsrcs) es) := by
  induction es using List.reverseRecOn with
  | nil => intro k c h; simp [exec, Producer.new, StreamConsumers.new] at h
  | append_singleton es e ih =>
    intro k c hc
    rw [sinceLastDelivery_snoc]
    rw [exec_snoc] at hc
    cases hd : delivers (exec (Producer.new appsink appsrcs) es) e
    · rw [(step_of_not_delivers hd).1] at hc
      cases e with
      | addConsumer a k' =>
        simp only [Producer.recordAfter, StreamConsumers.addConsumer_lookup] at hc
        split_ifs at hc with hk
        · cases hc
          simp [Event.binds, StreamConsumer.new, hk]
        · rw [ih hc]
          simp only [Event.binds, and_true, decide_eq_true_eq]
          exact (or_iff_right fun ⟨h₁, h₂⟩ => hk ⟨h₁.symm, h₁ ▸ h₂⟩).symm
      | removeConsumer k' =>
        simp only [Producer.recordAfter] at hc
        simp [Event.binds, ih (Table.lookup_erase_eq_some hc).2]
      | _ => simp [Producer.recordAfter, StreamConsumers.forward] at hc; simp [Event.binds, ih hc]
    · obtain rfl := eq_of_delivers hd
      rw [step_of_delivers hd] at hc
      obtain ⟨c₀, -, rfl⟩ := Option.map_eq_some'.1 ((Table.lookup_map _ _ _).symm.trans hc)
      simp [StreamConsumer.visited, Event.binds]

end ReadBack

/-! ### The two flags -/

/-- A latency seen while discarding is set on the consumer at the first delivering step, and
not again at the next one. -/
example : latencyCalls (exec (Producer.new 7 fun _ => .new)
    [.latency 5, .addConsumer 1 "a", .newSample true, .forward, .newSample true, .next true,
      .newSample true]).elements.effects = [(1, 5)] := by
  decide

/-- **One keyframe request, for the first sample of a consumer.**  A delivering step sends
one force-key-unit request from its appsink if some binding of its snapshot has
`first_buffer`, and none otherwise, and it pushes nothing itself: every push of its sample is
owed after the request; no other step sends one; and over every interleaving from a new
producer, a binding has `first_buffer` exactly when it was made after the last delivering
step, so the first delivering step whose snapshot holds it clears it, and a consumer that
got a sample never asks again. -/
theorem keyframe_request_on_first_sample (appsink : AppSink) (appsrcs : AppSrc → AppSrcState) :
    (∀ p : Producer, delivers p (.newSample true) = true →
      keyUnitRequests (step p (.newSample true)).elements.effects =
        keyUnitRequests p.elements.effects ++
          (if p.consumers.consumers.entries.any (·.2.firstBuffer) then [p.appsink] else []) ∧
      pushes (step p (.newSample true)).elements = pushes p.elements ∧
      (step p (.newSample true)).owed =
        p.consumers.consumers.entries.map fun b => .push b.2.appsrc p.pulled) ∧
    (∀ (p : Producer) (e : Event), delivers p e = false →
      keyUnitRequests (step p e).elements.effects = keyUnitRequests p.elements.effects) ∧
    ∀ es k c, (exec (Producer.new appsink appsrcs) es).consumers.consumers.lookup k = some c →
      (c.firstBuffer = true ↔
        SinceLastDelivery (Event.binds k) (Producer.new appsink appsrcs) es) :=
  ⟨fun _ hd => ⟨step_keyUnitRequests_of_delivers hd, step_pushes_of_delivers hd,
      by rw [step_of_delivers hd]⟩,
    fun _ _ hd => (step_of_not_delivers hd).2.2,
    fun es _ _ => firstBuffer_iff appsink appsrcs es⟩

/-- Two consumers that join at different times: one request at the first sample of each. -/
example : keyUnitRequests (exec (Producer.new 7 fun _ => .new)
    [.addConsumer 1 "a", .forward, .newSample true, .next true, .addConsumer 2 "b",
      .newSample true, .next true, .next true, .newSample true]).elements.effects = [7, 7] := by
  decide

end Auteur
