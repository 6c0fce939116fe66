import Auteur.StreamProducer.Basic

/-!
Sample delivery: the callbacks `StreamProducer::from` installs, interleaved with the actor
thread's membership changes.

The appsink's `new_sample` and `eos` callbacks run on its streaming thread, one after the
other.  Each takes the consumers' lock, works under it, and releases it before the calls
that hand data to the consumers (`push_sample`, `end_of_stream`).  The model cuts every
callback into its locked section, one atomic step, and the calls it then owes, one step
each; the actor thread's `add_consumer`, `remove_consumer` and `forward`, and the latency
probe, are atomic steps that may come between any two of them.

* `newSampleLocked` — the locked section of `new_sample`: pull, drop while discarding,
  otherwise forward latency, request one keyframe and snapshot the appsrcs;
* `step`, `exec` — the interleaving, one `Event` at a time;
* `exec_pushes` — every push of a run is owed by the locked section of a delivering
  `new_sample`, one per binding of its snapshot, in order;
* `step_next`, `exec_next_pushes` — the streaming thread makes the calls it owes, first
  owed first, and once it has taken as many steps as it owes calls it owes nothing;
* `sample_delivery` — from a new producer: what is pushed (and still owed) is exactly one
  push per binding at each delivering locked step, all of it pushed once the streaming
  thread has made its owed calls, whatever each push returned; every appsrc gets its
  samples in the order the appsink produced them, and a callback whose pull fails or that
  runs while discarding changes nothing in the consumers' record;
* `exec_flowCalls`, `data_flow_follows_callbacks` — the same for the pushes and the ends of
  stream together: each `eos` callback ends the stream of every appsrc bound at its locked
  step, discarding or not, after every push owed by the callbacks before it.

Design notes: `pulled` counts the samples the appsink has handed out, so the `n`-th pulled
sample is `n`.  A step whose thread is busy elsewhere (a callback while the streaming
thread still owes calls, a call owed by nobody) is not enabled and leaves the state as it
is.  The result of `push_sample` is only logged; it is kept in the effect so that the
theorems are seen to hold whatever the pushes return.
-/

namespace Auteur

/-- A call the streaming thread owes after its callback released the consumers' lock. -/
inductive Owed
  | push (appsrc : AppSrc) (sample : Nat)
  | eos (appsrc : AppSrc)
  deriving DecidableEq, Repr

/-- A producer with the objects around it: its appsink, the record behind its mutex, the
appsrcs and the calls made into GStreamer, how many samples the appsink handed out, and the
calls its streaming thread still owes in the callback it is running. -/
structure Producer where
  appsink : AppSink
  consumers : StreamConsumers
  elements : Elements
  pulled : Nat
  owed : List Owed

/-- The producer `StreamProducer::from(appsink)` builds, over appsrcs in the given states. -/
def Producer.new (appsink : AppSink) (appsrcs : AppSrc → AppSrcState) : Producer where
  appsink := appsink
  consumers := .new
  elements := ⟨appsrcs, []⟩
  pulled := 0
  owed := []

/-- The steps of the threads that share a producer. -/
inductive Event
  /-- `add_consumer`, on the actor thread -/
  | addConsumer (consumer : AppSrc) (consumerId : String)
  /-- `remove_consumer`, on the actor thread -/
  | removeConsumer (consumerId : String)
  /-- `forward`, on the actor thread -/
  | forward
  /-- the latency probe on the appsink's sink pad sees a latency event -/
  | latency (latency : Nat)
  /-- the locked section of `new_sample`; `pullOk` is whether `pull_sample` succeeds -/
  | newSample (pullOk : Bool)
  /-- the locked section of `eos` -/
  | eos
  /-- the streaming thread makes its next owed call; `ok` is what `push_sample` returns -/
  | next (ok : Bool)

/-! ### The locked section of `new_sample` -/

/-- The closure `new_sample` maps over `consumers.values()`, on one consumer: with a known
latency, swap `forwarded_latency` to `true` and set the latency if the swap succeeded or
the latency was updated; then swap `first_buffer` to `false`, and request a keyframe if
that swap succeeded and none was requested yet in this callback. -/
def visit (appsink : AppSink) (latency : Option Nat) (latencyUpdated : Bool)
    (c : StreamConsumer) (w : Elements) (requestedKeyframe : Bool) :
    StreamConsumer × Elements × Bool :=
  let (c, w) := match latency with
    | some l => ({ c with forwardedLatency := true },
        if !c.forwardedLatency || latencyUpdated then w.emit (.setLatency c.appsrc l) else w)
    | none => (c, w)
  if c.firstBuffer && !requestedKeyframe then
    ({ c with firstBuffer := false }, w.emit (.forceKeyUnit appsink), true)
  else ({ c with firstBuffer := false }, w, requestedKeyframe)

/-- `visit` over the consumers in iteration order. -/
def visitAll (appsink : AppSink) (latency : Option Nat) (latencyUpdated : Bool) :
    List ((_ : String) × StreamConsumer) → Elements → Bool →
      List ((_ : String) × StreamConsumer) × Elements × Bool
  | [], w, r => ([], w, r)
  | e :: es, w, r =>
    let (c, w, r) := visit appsink latency latencyUpdated e.2 w r
    let (es, w, r) := visitAll appsink latency latencyUpdated es w r
    (⟨e.1, c⟩ :: es, w, r)

theorem visit_appsrc (appsink : AppSink) (latency : Option Nat) (u : Bool) (c : StreamConsumer)
    (w : Elements) (r : Bool) : (visit appsink latency u c w r).1.appsrc = c.appsrc := by
  unfold visit; cases latency <;> dsimp only <;> split <;> rfl

/-- `visit` only records latency and keyframe calls: it pushes nothing. -/
theorem visit_effects (appsink : AppSink) (latency : Option Nat) (u : Bool) (c : StreamConsumer)
    (w : Elements) (r : Bool) :
    ∃ l, (visit appsink latency u c w r).2.1.effects = w.effects ++ l ∧
      ∀ e ∈ l, (∃ a n, e = .setLatency a n) ∨ e = .forceKeyUnit appsink := by
  unfold visit
  cases latency with
  | none => dsimp only; split <;> simp
  | some n =>
    dsimp only
    split <;> split <;> simp

/-- `visitAll` keeps every key and every binding's appsrc. -/
theorem visitAll_bindings (appsink : AppSink) (latency : Option Nat) (u : Bool) :
    ∀ (es : List ((_ : String) × StreamConsumer)) (w : Elements) (r : Bool),
      (visitAll appsink latency u es w r).1.map (fun e => (e.1, e.2.appsrc)) =
        es.map (fun e => (e.1, e.2.appsrc))
  | [], _, _ => rfl
  | e :: es, w, r => by
    simp only [visitAll, List.map_cons, visit_appsrc, visitAll_bindings appsink latency u es]

theorem visitAll_keys (appsink : AppSink) (latency : Option Nat) (u : Bool)
    (es : List ((_ : String) × StreamConsumer)) (w : Elements) (r : Bool) :
    (visitAll appsink latency u es w r).1.keys = es.keys := by
  have := congrArg (List.map Prod.fst) (visitAll_bindings appsink latency u es w r)
  simpa [List.keys, Function.comp_def] using this

theorem visitAll_effects (appsink : AppSink) (latency : Option Nat) (u : Bool) :
    ∀ (es : List ((_ : String) × StreamConsumer)) (w : Elements) (r : Bool),
      ∃ l, (visitAll appsink latency u es w r).2.1.effects = w.effects ++ l ∧
        ∀ e ∈ l, (∃ a n, e = .setLatency a n) ∨ e = .forceKeyUnit appsink
  | [], _, _ => ⟨[], by simp [visitAll]⟩
  | e :: es, w, r => by
    obtain ⟨l₁, h₁, hl₁⟩ := visit_effects appsink latency u e.2 w r
    obtain ⟨l₂, h₂, hl₂⟩ := visitAll_effects appsink latency u es
      (visit appsink latency u e.2 w r).2.1 (visit appsink latency u e.2 w r).2.2
    refine ⟨l₁ ++ l₂, ?_, fun x hx => ?_⟩
    · simp only [visitAll, h₂, h₁, List.append_assoc]
    · rcases List.mem_append.1 hx with hx | hx
      exacts [hl₁ x hx, hl₂ x hx]

/-- The consumer map after the flags were swapped: same keys, same appsrcs. -/
def visitTable (appsink : AppSink) (latency : Option Nat) (u : Bool) (t : Table StreamConsumer)
    (w : Elements) : Table StreamConsumer × Elements :=
  let r := visitAll appsink latency u t.entries w false
  (⟨r.1, by
    unfold List.NodupKeys
    rw [visitAll_keys]
    exact t.nodupKeys⟩, r.2.1)

/-- The locked section of `new_sample`: pull the sample (a failed pull returns
`Flushing`), drop it while discarding, otherwise take the latency, clear
`latency_updated`, visit every consumer and owe a push of the sample to each of the
snapshotted appsrcs. -/
def newSampleLocked (p : Producer) (pullOk : Bool) : Producer :=
  if !pullOk then p
  else
    let sample := p.pulled
    let p := { p with pulled := sample + 1 }
    if p.consumers.discard then p
    else
      let latency := p.consumers.currentLatency
      let latencyUpdated := p.consumers.latencyUpdated
      let (t, w) := visitTable p.appsink latency latencyUpdated p.consumers.consumers p.elements
      { p with
        consumers := { p.consumers with latencyUpdated := false, consumers := t }
        elements := w
        owed := t.entries.map fun e => .push e.2.appsrc sample }

/-- The locked section of `eos`: snapshot the appsrcs and owe each an `end_of_stream`. -/
def eosLocked (p : Producer) : Producer :=
  { p with owed := p.consumers.consumers.entries.map fun e => .eos e.2.appsrc }

/-- The latency probe: `current_latency = Some(latency)`, `latency_updated = true`. -/
def latencyLocked (p : Producer) (latency : Nat) : Producer :=
  { p with consumers := { p.consumers with currentLatency := some latency,
                                           latencyUpdated := true } }

/-- The streaming thread's next owed call. -/
def nextOwed (p : Producer) (ok : Bool) : Producer :=
  match p.owed with
  | [] => p
  | .push a n :: rest => { p with elements := p.elements.emit (.pushSample a n ok), owed := rest }
  | .eos a :: rest => { p with elements := p.elements.emit (.endOfStream a), owed := rest }

/-- One step of the interleaving.  A callback starts only when the streaming thread owes
nothing from the previous one. -/
def step (p : Producer) : Event → Producer
  | .addConsumer a k =>
    let r := p.consumers.addConsumer p.appsink a k p.elements
    { p with consumers := r.1, elements := r.2 }
  | .removeConsumer k =>
    let r := p.consumers.removeConsumer k p.elements
    { p with consumers := r.1, elements := r.2 }
  | .forward => { p with consumers := p.consumers.forward }
  | .latency l => latencyLocked p l
  | .newSample ok => if p.owed = [] then newSampleLocked p ok else p
  | .eos => if p.owed = [] then eosLocked p else p
  | .next ok => nextOwed p ok

/-- A run: the steps of an interleaving, in order. -/
def exec (p : Producer) : List Event → Producer
  | [] => p
  | e :: es => exec (step p e) es

theorem exec_append (p : Producer) : ∀ l₁ l₂ : List Event, exec p (l₁ ++ l₂) = exec (exec p l₁) l₂
  | [], _ => rfl
  | e :: l₁, l₂ => exec_append (step p e) l₁ l₂

/-! ### What a run pushes -/

/-- The `push_sample` calls made, as (appsrc, sample), in order. -/
def pushes (w : Elements) : List (AppSrc × Nat) :=
  w.effects.filterMap fun
    | .pushSample a n _ => some (a, n)
    | _ => none

/-- The pushes the streaming thread still owes. -/
def owedPushes (p : Producer) : List (AppSrc × Nat) :=
  p.owed.filterMap fun
    | .push a n => some (a, n)
    | .eos _ => none

/-- The pushes the spec asks of one step: a `new_sample` whose pull succeeds while discard
is false pushes the sample once to the appsrc of every binding the map holds at that
step. -/
def snapshotPushes (p : Producer) : Event → List (AppSrc × Nat)
  | .newSample true =>
    if p.owed = [] ∧ p.consumers.discard = false then
      p.consumers.consumers.entries.map fun e => (e.2.appsrc, p.pulled)
    else []
  | _ => []

/-- The pushes the spec asks of a run. -/
def expectedPushes : Producer → List Event → List (AppSrc × Nat)
  | _, [] => []
  | p, e :: es => snapshotPushes p e ++ expectedPushes (step p e) es

theorem pushes_emit (w : Elements) (e : Effect) :
    pushes (w.emit e) = pushes w ++ (match e with
      | .pushSample a n _ => [(a, n)]
      | _ => []) := by
  cases e <;> simp [pushes]

/-- Calls that are not pushes add no push. -/
theorem pushes_of_effects {w w' : Elements} {l : List Effect} (h : w'.effects = w.effects ++ l)
    (hl : ∀ e ∈ l, (∃ a n, e = .setLatency a n) ∨ e = .forceKeyUnit a') : pushes w' = pushes w := by
  rw [pushes, h, List.filterMap_append, pushes, List.append_right_eq_self,
    List.filterMap_eq_nil_iff]
  intro e he
  rcases hl e he with ⟨a, n, rfl⟩ | rfl <;> rfl

theorem owedPushes_of_owed {p : Producer} {l : List ((_ : String) × StreamConsumer)} {n : Nat}
    (h : p.owed = l.map fun e => .push e.2.appsrc n) :
    owedPushes p = l.map fun e => (e.2.appsrc, n) := by
  rw [owedPushes, h]
  clear h
  induction l with
  | nil => rfl
  | cons e es ih => simp [ih]

/-- **One step.**  What a step pushes or comes to owe is what the spec asks of it. -/
theorem step_pushes (p : Producer) (e : Event) :
    pushes (step p e).elements ++ owedPushes (step p e) =
      pushes p.elements ++ owedPushes p ++ snapshotPushes p e := by
  cases e with
  | addConsumer | removeConsumer | forward | latency =>
    simp [step, latencyLocked, snapshotPushes, pushes, owedPushes]
  | newSample ok =>
    by_cases ho : p.owed = []
    · have h0 : owedPushes p = [] := by simp [owedPushes, ho]
      simp only [step, ho, if_true, h0, List.append_nil]
      unfold newSampleLocked
      cases ok with
      | false => simp [snapshotPushes, h0]
      | true =>
        by_cases hd : p.consumers.discard = true
        · simp [hd, snapshotPushes, owedPushes, ho]
        · simp only [Bool.not_true, Bool.false_eq_true, if_false, hd, snapshotPushes, ho,
            true_and, Bool.not_eq_true, ite_true, visitTable]
          obtain ⟨l, hl, hl'⟩ := visitAll_effects p.appsink p.consumers.currentLatency
            p.consumers.latencyUpdated p.consumers.consumers.entries p.elements false
          rw [pushes_of_effects hl hl', owedPushes_of_owed rfl]
          congr 1
          simpa [Function.comp_def] using congrArg (List.map fun x => (x.2, p.pulled))
            (visitAll_bindings p.appsink p.consumers.currentLatency
              p.consumers.latencyUpdated p.consumers.consumers.entries p.elements false)
    · cases ok <;> simp [step, ho, snapshotPushes]
  | eos =>
    by_cases ho : p.owed = []
    · simp [step, ho, eosLocked, snapshotPushes, owedPushes]
    · simp [step, ho, snapshotPushes]
  | next ok =>
    simp only [step, nextOwed, snapshotPushes, List.append_nil]
    rcases h : p.owed with _ | ⟨o, rest⟩
    · rfl
    · cases o <;> simp [owedPushes, h, pushes_emit]

/-- **A run.**  The pushes made and still owed after a run are those made and owed before
it, followed by what the spec asks of each of its steps. -/
theorem exec_pushes : ∀ (p : Producer) (es : List Event),
    pushes (exec p es).elements ++ owedPushes (exec p es) =
      pushes p.elements ++ owedPushes p ++ expectedPushes p es
  | p, [] => by simp [exec, expectedPushes]
  | p, e :: es => by
    rw [exec, exec_pushes (step p e) es, step_pushes, expectedPushes]
    simp only [List.append_assoc]

/-! ### The streaming thread's owed calls -/

/-- **The streaming thread's next step** makes the first call it owes, a push with the result
`ok` or an end of stream, and then owes the rest. -/
theorem step_next {p : Producer} {o : Owed} {rest : List Owed} (h : p.owed = o :: rest)
    (ok : Bool) :
    step p (.next ok) = { p with
      elements := p.elements.emit (match o with
        | .push a n => .pushSample a n ok
        | .eos a => .endOfStream a)
      owed := rest } := by
  simp only [step, nextOwed, h]
  cases o <;> rfl

theorem step_next_owed (p : Producer) (ok : Bool) : (step p (.next ok)).owed = p.owed.tail := by
  rcases h : p.owed with _ | ⟨o, rest⟩
  · simp [step, nextOwed, h]
  · rw [step_next h]; rfl

/-- Each step of the streaming thread settles one owed call. -/
theorem exec_next_owed : ∀ (p : Producer) (oks : List Bool),
    (exec p (oks.map .next)).owed = p.owed.drop oks.length
  | _, [] => rfl
  | p, ok :: oks => by
    rw [List.map_cons, exec, exec_next_owed, step_next_owed, List.drop_tail, List.length_cons]

theorem expectedPushes_next : ∀ (p : Producer) (oks : List Bool),
    expectedPushes p (oks.map .next) = []
  | _, [] => rfl
  | p, ok :: oks => expectedPushes_next (step p (.next ok)) oks

/-- **Draining.**  Once the streaming thread has taken as many steps as it owes calls,
whatever each push returned, it owes nothing, and every push it owed has been made. -/
theorem exec_next_pushes (p : Producer) {oks : List Bool} (h : p.owed.length ≤ oks.length) :
    (exec p (oks.map .next)).owed = [] ∧
      pushes (exec p (oks.map .next)).elements = pushes p.elements ++ owedPushes p := by
  have hnil : (exec p (oks.map .next)).owed = [] := by
    rw [exec_next_owed, List.drop_eq_nil_of_le h]
  have hrun := exec_pushes p (oks.map .next)
  rw [expectedPushes_next, List.append_nil, owedPushes, hnil, List.filterMap_nil,
    List.append_nil] at hrun
  exact ⟨hnil, hrun⟩

/-! ### Order of the pushes -/

theorem step_pulled_le (p : Producer) (e : Event) : p.pulled ≤ (step p e).pulled := by
  cases e with
  | newSample ok =>
    simp only [step]
    split
    · unfold newSampleLocked; split
      · exact le_rfl
      · dsimp only; split <;> simp
    · exact le_rfl
  | eos => simp only [step]; split <;> simp [eosLocked]
  | next ok =>
    simp only [step, nextOwed]
    split <;> simp
  | _ => simp [step, latencyLocked]

theorem snapshotPushes_snd {p : Producer} {e : Event} {x : AppSrc × Nat}
    (hx : x ∈ snapshotPushes p e) : x.2 = p.pulled := by
  unfold snapshotPushes at hx
  split at hx
  · split at hx
    · obtain ⟨_, _, rfl⟩ := List.mem_map.1 hx; rfl
    · cases hx
  · cases hx

/-- The pushes the spec asks of a run come in the order the appsink produced the samples,
none of them a sample pulled before the run. -/
theorem expectedPushes_sorted : ∀ (p : Producer) (es : List Event),
    ((expectedPushes p es).map Prod.snd).Pairwise (· ≤ ·) ∧
      ∀ x ∈ expectedPushes p es, p.pulled ≤ x.2
  | p, [] => by simp [expectedPushes]
  | p, e :: es => by
    obtain ⟨ih, ihle⟩ := expectedPushes_sorted (step p e) es
    have hle := step_pulled_le p e
    simp only [expectedPushes, List.map_append, List.pairwise_append, List.mem_append,
      List.mem_map]
    refine ⟨⟨List.pairwise_of_forall_mem_list fun a ha b hb => ?_, ih, ?_⟩, ?_⟩
    · obtain ⟨x, hx, rfl⟩ := List.mem_map.1 ha
      obtain ⟨y, hy, rfl⟩ := List.mem_map.1 hb
      rw [snapshotPushes_snd hx, snapshotPushes_snd hy]
    · rintro _ ⟨x, hx, rfl⟩ _ ⟨y, hy, rfl⟩
      rw [snapshotPushes_snd hx]
      exact hle.trans (ihle y hy)
    · rintro x (hx | hx)
      · exact (snapshotPushes_snd hx).ge
      · exact hle.trans (ihle x hx)

/-- A callback whose pull fails, or that runs while the producer discards, changes nothing
in the consumers' record: not `latency_updated`, not a consumer's flags, not the map. -/
theorem step_newSample_consumers {p : Producer} {ok : Bool}
    (h : ok = false ∨ p.consumers.discard = true) :
    (step p (.newSample ok)).consumers = p.consumers := by
  simp only [step]
  split
  · unfold newSampleLocked
    rcases h with rfl | hd
    · rfl
    · cases ok <;> simp [hd]
  · rfl

/-- **Sample delivery.**  Over every interleaving of the actor thread's membership changes
with the appsink's callbacks, from a new producer: the pushes made, followed by those still
owed, are one push of each delivered sample to the appsrc of each binding held at its
callback's locked step, in the order of those steps; once the streaming thread has taken as
many steps as it owes calls, whatever each push returned, it owes nothing and every one of
those pushes has been made; every appsrc receives its samples in the order the appsink
produced them; and a `new_sample` whose pull fails or that runs while discarding leaves the
consumers' record unchanged. -/
theorem sample_delivery (appsink : AppSink) (appsrcs : AppSrc → AppSrcState) (es : List Event) :
    pushes (exec (Producer.new appsink appsrcs) es).elements ++
        owedPushes (exec (Producer.new appsink appsrcs) es) =
      expectedPushes (Producer.new appsink appsrcs) es ∧
    (∀ oks : List Bool, (exec (Producer.new appsink appsrcs) es).owed.length ≤ oks.length →
      (exec (Producer.new appsink appsrcs) (es ++ oks.map .next)).owed = [] ∧
        pushes (exec (Producer.new appsink appsrcs) (es ++ oks.map .next)).elements =
          expectedPushes (Producer.new appsink appsrcs) es) ∧
    (∀ a, (((pushes (exec (Producer.new appsink appsrcs) es).elements).filter
        (·.1 = a)).map Prod.snd).Pairwise (· ≤ ·)) ∧
    ∀ (p : Producer) (ok : Bool), (ok = false ∨ p.consumers.discard = true) →
      (step p (.newSample ok)).consumers = p.consumers := by
  have hrun : pushes (exec (Producer.new appsink appsrcs) es).elements ++
      owedPushes (exec (Producer.new appsink appsrcs) es) =
      expectedPushes (Producer.new appsink appsrcs) es := by
    simpa [Producer.new, pushes, owedPushes] using exec_pushes (Producer.new appsink appsrcs) es
  refine ⟨hrun, fun oks hle => ?_, fun a => ?_, fun _ _ => step_newSample_consumers⟩
  · rw [exec_append, ← hrun]
    exact exec_next_pushes _ hle
  have hsub : List.Sublist (pushes (exec (Producer.new appsink appsrcs) es).elements)
      (expectedPushes (Producer.new appsink appsrcs) es) :=
    hrun ▸ List.sublist_append_left _ _
  exact (expectedPushes_sorted _ es).1.sublist (((hsub.filter _).trans
    (List.filter_sublist _)).map Prod.snd)

/-! ### Pushes and ends of stream together -/

/-- The calls that hand data to the appsrcs, `push_sample` and `end_of_stream`, in order, in
the form the streaming thread owes them. -/
def flowCalls (w : Elements) : List Owed :=
  w.effects.filterMap fun
    | .pushSample a n _ => some (.push a n)
    | .endOfStream a => some (.eos a)
    | _ => none

/-- The calls the spec asks of one step: a `new_sample` whose pull succeeds while discard is
false pushes the sample to the appsrc of every binding held at that step, and an `eos`
callback, discarding or not, ends the stream of each of them. -/
def snapshotCalls (p : Producer) : Event → List Owed
  | .newSample true =>
    if p.owed = [] ∧ p.consumers.discard = false then
      p.consumers.consumers.entries.map fun e => .push e.2.appsrc p.pulled
    else []
  | .eos => if p.owed = [] then p.consumers.consumers.entries.map fun e => .eos e.2.appsrc else []
  | _ => []

/-- The calls the spec asks of a run, callback after callback. -/
def expectedCalls : Producer → List Event → List Owed
  | _, [] => []
  | p, e :: es => snapshotCalls p e ++ expectedCalls (step p e) es

theorem flowCalls_emit (w : Elements) (e : Effect) :
    flowCalls (w.emit e) = flowCalls w ++ (match e with
      | .pushSample a n _ => [.push a n]
      | .endOfStream a => [.eos a]
      | _ => []) := by
  cases e <;> simp [flowCalls]

/-- Latency and keyframe calls hand no data to an appsrc. -/
theorem flowCalls_of_effects {w w' : Elements} {l : List Effect} (h : w'.effects = w.effects ++ l)
    (hl : ∀ e ∈ l, (∃ a n, e = .setLatency a n) ∨ e = .forceKeyUnit a') :
    flowCalls w' = flowCalls w := by
  rw [flowCalls, h, List.filterMap_append, flowCalls, List.append_right_eq_self,
    List.filterMap_eq_nil_iff]
  intro e he
  rcases hl e he with ⟨a, n, rfl⟩ | rfl <;> rfl

/-- **One step.**  What a step hands to the appsrcs or comes to owe is what the spec asks
of it. -/
theorem step_flowCalls (p : Producer) (e : Event) :
    flowCalls (step p e).elements ++ (step p e).owed =
      flowCalls p.elements ++ p.owed ++ snapshotCalls p e := by
  cases e with
  | addConsumer | removeConsumer | forward | latency =>
    simp [step, latencyLocked, snapshotCalls, flowCalls]
  | newSample ok =>
    by_cases ho : p.owed = []
    · simp only [step, ho, if_true, List.append_nil]
      unfold newSampleLocked
      cases ok with
      | false => simp [snapshotCalls, ho]
      | true =>
        by_cases hd : p.consumers.discard = true
        · simp [hd, snapshotCalls, ho]
        · simp only [Bool.not_true, Bool.false_eq_true, if_false, hd, snapshotCalls, ho,
            true_and, Bool.not_eq_true, ite_true, visitTable]
          obtain ⟨l, hl, hl'⟩ := visitAll_effects p.appsink p.consumers.currentLatency
            p.consumers.latencyUpdated p.consumers.consumers.entries p.elements false
          rw [flowCalls_of_effects hl hl']
          congr 1
          simpa [Function.comp_def] using congrArg (List.map fun x => Owed.push x.2 p.pulled)
            (visitAll_bindings p.appsink p.consumers.currentLatency
              p.consumers.latencyUpdated p.consumers.consumers.entries p.elements false)
    · cases ok <;> simp [step, ho, snapshotCalls]
  | eos =>
    by_cases ho : p.owed = []
    · simp [step, ho, eosLocked, snapshotCalls]
    · simp [step, ho, snapshotCalls]
  | next ok =>
    rcases h : p.owed with _ | ⟨o, rest⟩
    · simp [step, nextOwed, snapshotCalls, h]
    · rw [step_next h]
      cases o <;> simp [h, flowCalls_emit, snapshotCalls]

theorem exec_flowCalls : ∀ (p : Producer) (es : List Event),
    flowCalls (exec p es).elements ++ (exec p es).owed =
      flowCalls p.elements ++ p.owed ++ expectedCalls p es
  | p, [] => by simp [exec, expectedCalls]
  | p, e :: es => by
    rw [exec, exec_flowCalls (step p e) es, step_flowCalls, expectedCalls]
    simp only [List.append_assoc]

theorem expectedCalls_next : ∀ (p : Producer) (oks : List Bool),
    expectedCalls p (oks.map .next) = []
  | _, [] => rfl
  | p, ok :: oks => expectedCalls_next (step p (.next ok)) oks

/-- **Draining.**  Once the streaming thread has taken as many steps as it owes calls, every
call it owed has been made, in order. -/
theorem exec_next_flowCalls (p : Producer) {oks : List Bool} (h : p.owed.length ≤ oks.length) :
    flowCalls (exec p (oks.map .next)).elements = flowCalls p.elements ++ p.owed := by
  have hrun := exec_flowCalls p (oks.map .next)
  rwa [expectedCalls_next, List.append_nil, exec_next_owed, List.drop_eq_nil_of_le h,
    List.append_nil] at hrun

/-- **Data flow, ends of stream included.**  Over every interleaving of the actor thread's
membership changes with the appsink's callbacks, from a new producer: the `push_sample` and
`end_of_stream` calls made, followed by those still owed, are, callback after callback in the
order of their locked steps, one push of a delivered sample to the appsrc of each binding held
at its step, and for an `eos`, whether or not the producer still discards, one
`end_of_stream` to the appsrc of each binding held at its step; once the streaming thread has
taken as many steps as it owes calls, whatever each push returned, it owes nothing and all of
these calls have been made. -/
theorem data_flow_follows_callbacks (appsink : AppSink) (appsrcs : AppSrc → AppSrcState)
    (es : List Event) :
    flowCalls (exec (Producer.new appsink appsrcs) es).elements ++
        (exec (Producer.new appsink appsrcs) es).owed =
      expectedCalls (Producer.new appsink appsrcs) es ∧
    ∀ oks : List Bool, (exec (Producer.new appsink appsrcs) es).owed.length ≤ oks.length →
      (exec (Producer.new appsink appsrcs) (es ++ oks.map .next)).owed = [] ∧
        flowCalls (exec (Producer.new appsink appsrcs) (es ++ oks.map .next)).elements =
          expectedCalls (Producer.new appsink appsrcs) es := by
  have hrun : flowCalls (exec (Producer.new appsink appsrcs) es).elements ++
      (exec (Producer.new appsink appsrcs) es).owed =
      expectedCalls (Producer.new appsink appsrcs) es := by
    simpa [Producer.new, flowCalls] using exec_flowCalls (Producer.new appsink appsrcs) es
  refine ⟨hrun, fun oks hle => ?_⟩
  rw [exec_append, ← hrun]
  exact ⟨by rw [exec_next_owed, List.drop_eq_nil_of_le hle], exec_next_flowCalls _ hle⟩

end Auteur
