import Mathlib.Data.List.AList
import Mathlib.Data.Rat.Defs

/-!
Shared primitives of the model: string-keyed maps and clock times.

* `Table α` is Rust's `HashMap<String, α>`, as a Mathlib `AList`: a list of entries with
  pairwise distinct keys.  A `HashMap` iterates in an unspecified order; the model iterates
  in the order of `entries`, and every result about a loop over a map is proved for every
  such order (that is, for every `AList`).
* `ClockTime` is `gst::ClockTime` of the gstreamer bindings the mixer is written against:
  `ClockTime(Option<u64>)`, where `None` is `gst::CLOCK_TIME_NONE`, subtraction is checked
  (`None` on underflow or on a `None` operand) and the order is the derived one on
  `Option` (`CLOCK_TIME_NONE` below every time).

`Table.drainInto` is the loop `for (id, c) in map.drain() { if !tick(c) { kept.insert(..) } }`
that both controller loops of the mixer run; `lookup_drainInto_entries` says what it keeps.

Design notes: `Table.modify` (`get_mut` followed by an update) and `Table.upsert`
(`entry(..).or_insert_with(..)` followed by an update) re-insert the key; since a `HashMap`
has no order, results about them are stated through `lookup`, never through the order
of `entries`.
-/

namespace Auteur

/-! ### String-keyed maps -/

/-- `HashMap<String, α>`. -/
abbrev Table (α : Type) := AList (fun _ : String => α)

/-- Equality of maps, decided on the entries (so that `decide` can evaluate it). -/
instance Table.decEq {α : Type} [DecidableEq α] : DecidableEq (Table α) := fun a b =>
  decidable_of_iff (a.entries = b.entries) AList.ext_iff.symm

namespace Table

variable {α : Type}

/-- `if let Some(v) = map.get_mut(k) { *v = f(v) }`. -/
def modify (k : String) (f : α → α) (t : Table α) : Table α :=
  match t.lookup k with
  | some v => t.insert k (f v)
  | none => t

/-- `map.entry(k).or_insert_with(|| d)` followed by `f` on the entry. -/
def upsert (k : String) (d : α) (f : α → α) (t : Table α) : Table α :=
  t.insert k (f ((t.lookup k).getD d))

@[simp] theorem lookup_modify_self (k : String) (f : α → α) (t : Table α) :
    (t.modify k f).lookup k = (t.lookup k).map f := by
  unfold modify; split <;> simp_all

@[simp] theorem lookup_modify_ne {k k' : String} (h : k' ≠ k) (f : α → α) (t : Table α) :
    (t.modify k f).lookup k' = t.lookup k' := by
  unfold modify; split <;> simp [h]

@[simp] theorem mem_modify {k k' : String} (f : α → α) (t : Table α) :
    k' ∈ t.modify k f ↔ k' ∈ t := by
  unfold modify; split
  · rename_i h
    have : k ∈ t := AList.lookup_isSome.1 (by simp [h])
    simp only [AList.mem_insert]
    exact ⟨by rintro (rfl | h') <;> assumption, Or.inr⟩
  · rfl

@[simp] theorem lookup_upsert_self (k : String) (d : α) (f : α → α) (t : Table α) :
    (t.upsert k d f).lookup k = some (f ((t.lookup k).getD d)) := by
  simp [upsert]

@[simp] theorem lookup_upsert_ne {k k' : String} (h : k' ≠ k) (d : α) (f : α → α)
    (t : Table α) : (t.upsert k d f).lookup k' = t.lookup k' := by
  simp [upsert, h]

/-- A property of every value survives `modify` by a function that keeps it. -/
theorem lookup_modify_of {P : α → Prop} {k : String} {f : α → α} {t : Table α}
    (hf : ∀ v, P v → P (f v)) (ht : ∀ k v, t.lookup k = some v → P v) :
    ∀ k' v, (t.modify k f).lookup k' = some v → P v := by
  intro k' v h
  by_cases hk : k' = k
  · subst hk
    rw [lookup_modify_self] at h
    obtain ⟨v₀, h₀, rfl⟩ := Option.map_eq_some'.1 h
    exact hf v₀ (ht _ _ h₀)
  · exact ht k' v (by rwa [lookup_modify_ne hk] at h)

/-- A property of every value survives `upsert` when the value it stores has it. -/
theorem lookup_upsert_of {P : α → Prop} {k : String} {d : α} {f : α → α} {t : Table α}
    (hk : P (f ((t.lookup k).getD d))) (ht : ∀ k v, t.lookup k = some v → P v) :
    ∀ k' v, (t.upsert k d f).lookup k' = some v → P v := by
  intro k' v h
  by_cases hk' : k' = k
  · subst hk'
    rw [lookup_upsert_self] at h
    exact Option.some.inj h ▸ hk
  · exact ht k' v (by rwa [lookup_upsert_ne hk'] at h)

/-- What a lookup in a map with one key written can find: the value written, or what the map
had under another key. -/
theorem lookup_insert_eq_some {k k' : String} {v v' : α} {t : Table α}
    (h : (t.insert k v).lookup k' = some v') :
    (k' = k ∧ v' = v) ∨ (k' ≠ k ∧ t.lookup k' = some v') := by
  by_cases hk : k' = k
  · subst hk
    rw [AList.lookup_insert] at h
    exact .inl ⟨rfl, (Option.some.inj h).symm⟩
  · rw [AList.lookup_insert_ne hk] at h
    exact .inr ⟨hk, h⟩

theorem lookup_erase_eq_some {k k' : String} {v : α} {t : Table α}
    (h : (t.erase k).lookup k' = some v) : k' ≠ k ∧ t.lookup k' = some v := by
  by_cases hk : k' = k
  · subst hk; simp at h
  · rw [AList.lookup_erase_ne hk] at h
    exact ⟨hk, h⟩

/-- The loop `for (id, c) in map.drain() { if !tick(c) { kept.insert(id, c) } }` into
`kept`: every entry ticked once, and its successor kept unless the tick reports it done. -/
def drainInto (tick : α → α × Bool) : List ((_ : String) × α) → Table α → Table α
  | [], kept => kept
  | ⟨id, c⟩ :: rest, kept =>
    drainInto tick rest (if (tick c).2 then kept else kept.insert id (tick c).1)

theorem lookup_drainInto (tick : α → α × Bool) :
    ∀ {l : List ((_ : String) × α)} {kept : Table α}, l.NodupKeys →
      (∀ k ∈ l.keys, kept.lookup k = none) → ∀ {k : String} {v : α},
      (drainInto tick l kept).lookup k = some v ↔
        (k ∉ l.keys ∧ kept.lookup k = some v) ∨ ∃ c, l.dlookup k = some c ∧ tick c = (v, false)
  | [], kept, _, _, k, v => by simp [drainInto]
  | ⟨id, c⟩ :: rest, kept, hnd, hdis, k, v => by
    obtain ⟨hid, hnd⟩ := List.nodupKeys_cons.1 hnd
    have hdis' : ∀ k ∈ rest.keys,
        (if (tick c).2 then kept else kept.insert id (tick c).1).lookup k = none := by
      intro k hk
      have hne : k ≠ id := fun h => hid (h ▸ hk)
      split
      · exact hdis k (List.mem_cons_of_mem _ hk)
      · rw [AList.lookup_insert_ne hne]; exact hdis k (List.mem_cons_of_mem _ hk)
    rw [drainInto, lookup_drainInto tick hnd hdis']
    by_cases hk : k = id
    · subst hk
      have h0 : kept.lookup k = none := hdis k (List.mem_cons_self _ _)
      have hr : rest.dlookup k = none := List.dlookup_eq_none.2 hid
      rcases h : tick c with ⟨c', _ | _⟩ <;> simp [hid, h0, h, hr, List.dlookup_cons_eq]
    · split <;> simp [hk, List.dlookup_cons_ne, AList.lookup_insert_ne hk]

/-- Draining a whole map into an empty one keeps exactly the successors of the entries
whose tick is not done. -/
theorem lookup_drainInto_entries (tick : α → α × Bool) (t : Table α) {k : String} {v : α} :
    (drainInto tick t.entries ∅).lookup k = some v ↔
      ∃ c, t.lookup k = some c ∧ tick c = (v, false) := by
  rw [lookup_drainInto tick t.nodupKeys fun _ _ => AList.lookup_empty _]
  simp [AList.lookup]

/-- `map.iter().map(|(k, v)| (k.clone(), f(v))).collect()`. -/
def map {β : Type} (f : α → β) (t : Table α) : Table β :=
  ⟨t.entries.map fun e => ⟨e.1, f e.2⟩, by
    simpa [List.NodupKeys, List.keys, Function.comp_def] using t.nodupKeys⟩

@[simp] theorem lookup_map {β : Type} (f : α → β) (t : Table α) (k : String) :
    (t.map f).lookup k = (t.lookup k).map f :=
  @List.dlookup_map₂ String _ (fun _ => α) (fun _ => β) t.entries (fun _ => f) k

end Table

/-! ### Clock times -/

/-- `gst::ClockTime`: a time in nanoseconds, or `none` for `gst::CLOCK_TIME_NONE`. -/
abbrev ClockTime := Option Nat

namespace ClockTime

/-- `gst::MSECOND`. -/
def msecond : Nat := 1000000

/-- `a - b`: checked subtraction, `CLOCK_TIME_NONE` if either side is or if `b > a`. -/
def sub : ClockTime → ClockTime → ClockTime
  | some a, some b => if b ≤ a then some (a - b) else none
  | _, _ => none

/-- `a > b` in the derived order of `Option<u64>`. -/
def gt : ClockTime → ClockTime → Bool
  | some a, some b => b < a
  | some _, none => true
  | none, _ => false

@[simp] theorem sub_some_of_le {a b : Nat} (h : b ≤ a) : sub (some a) (some b) = some (a - b) :=
  if_pos h

@[simp] theorem gt_some (a b : Nat) : gt (some a) (some b) = decide (b < a) := rfl

@[simp] theorem gt_none (a : ClockTime) : gt none a = false := by cases a <;> rfl

end ClockTime

end Auteur
