import Auteur.Gst
import Mathlib.Data.Rat.Floor

/-!
Settings, control points and the controllers that apply them (`crate::utils`).

The mixer calls into `Setting`, `SettingController` and `PropertyController`, whose code is
not part of the mixer's sources; every definition here is modelled from the spec's
"Setting contract", "ControlPoint contract" and "Controller synchronization":

* `Setting` — a named, typed, range-checked value; `validateValue` fails closed, and no
  write changes its type (`Setting.KeepsType`);
* `insertPoint`, `removePoints`, `syncPoints` — the queue of control points that both
  controllers keep, in time order, and one tick of it; what a tick leaves of the queue is
  `dueDropped`, whatever value the tick reads (`syncPoints_fst`);
* `PropertyController` — drives a property of an aggregator pad;
* `SettingController` — drives a setting of the mixer.

Design notes: both controllers are the same queue with a different target, so the queue
operations are defined once, on `List ControlPoint`, and each controller's method applies
them under its own name.  A tick commits the first due point, or moves toward a `linear`
point by the fraction `duration / remaining` of the way, in the rationals (for `f64`) and
truncated toward zero (for `i32`, as Rust's `as i32`).
-/

namespace Auteur

/-- Modelled from the spec: `ControlPoint.interpolation`. -/
inductive Interpolation
  | none
  | linear
  deriving DecidableEq, Repr

/-- Modelled from the spec: a time-stamped target value, `ControlPoint`; `time` is a
wall-clock instant in ns. -/
structure ControlPoint where
  id : String
  time : Nat
  value : Value
  interpolation : Interpolation
  deriving DecidableEq, Repr

/-- Modelled from the spec: the typed value of a setting, `SettingSpec`. -/
inductive SettingSpec
  | i32 (min max current : Int)
  | f64 (min max current : ℚ)
  | str (current : String)
  | bool (current : Bool)
  deriving DecidableEq, Repr

/-- Modelled from the spec: a named configuration value of a node, `Setting`. -/
structure Setting where
  name : String
  spec : SettingSpec
  controllable : Bool
  deriving DecidableEq, Repr

/-- Truncation toward zero, as Rust's `f64 as i32` on in-range values. -/
def truncRat (x : ℚ) : Int := if 0 ≤ x then x.floor else -(-x).floor

namespace Setting

/-- Modelled from the spec: `Setting::as_i32`. -/
def asI32 (s : Setting) : Option Int :=
  match s.spec with
  | .i32 _ _ current => some current
  | _ => none

/-- Modelled from the spec: `Setting::as_str`. -/
def asStr (s : Setting) : Option String :=
  match s.spec with
  | .str current => some current
  | _ => none

/-- Modelled from the spec: `Setting::as_value`, the current value. -/
def asValue (s : Setting) : Value :=
  match s.spec with
  | .i32 _ _ c => .int c
  | .f64 _ _ c => .float c
  | .str c => .str c
  | .bool c => .bool c

/-- Modelled from the spec: `SettingController::validate_value`, which fails when the
value's type disagrees with the spec or a number lies outside `[min, max]`. -/
def validateValue (s : Setting) (v : Value) : Except String Unit :=
  match s.spec, v with
  | .i32 min max _, .int i =>
    if min ≤ i ∧ i ≤ max then .ok () else .error ("Value out of range for setting " ++ s.name)
  | .f64 min max _, .float x =>
    if min ≤ x ∧ x ≤ max then .ok () else .error ("Value out of range for setting " ++ s.name)
  | .f64 min max _, .int i =>
    if min ≤ (i : ℚ) ∧ (i : ℚ) ≤ max then .ok ()
    else .error ("Value out of range for setting " ++ s.name)
  | .str _, .str _ => .ok ()
  | .bool _, .bool _ => .ok ()
  | _, _ => .error ("Invalid value type for setting " ++ s.name)

/-- Modelled from the spec: `SettingController::set_from_value`, which overwrites the
current value. -/
def setFromValue (s : Setting) (v : Value) : Setting :=
  match s.spec, v with
  | .i32 min max _, .int i => { s with spec := .i32 min max i }
  | .f64 min max _, .float x => { s with spec := .f64 min max x }
  | .f64 min max _, .int i => { s with spec := .f64 min max i }
  | .str _, .str c => { s with spec := .str c }
  | .bool _, .bool c => { s with spec := .bool c }
  | _, _ => s

/-- Writing a value never changes the type of a setting. -/
theorem asI32_setFromValue_isSome {s : Setting} (h : s.asI32.isSome) (v : Value) :
    (s.setFromValue v).asI32.isSome := by
  obtain ⟨name, spec, c⟩ := s
  cases spec <;> cases v <;> simp_all [asI32, setFromValue]

theorem asStr_setFromValue_isSome {s : Setting} (h : s.asStr.isSome) (v : Value) :
    (s.setFromValue v).asStr.isSome := by
  obtain ⟨name, spec, c⟩ := s
  cases spec <;> cases v <;> simp_all [asStr, setFromValue]

/-- `s'` holds a value of the type `s` has, for the two types the mixer reads back. -/
def KeepsType (s s' : Setting) : Prop :=
  (s.asI32.isSome → s'.asI32.isSome) ∧ (s.asStr.isSome → s'.asStr.isSome)

theorem KeepsType.trans {s s' s'' : Setting} (h : s.KeepsType s') (h' : s'.KeepsType s'') :
    s.KeepsType s'' :=
  ⟨h'.1 ∘ h.1, h'.2 ∘ h.2⟩

theorem keepsType_setFromValue (s : Setting) (v : Value) : s.KeepsType (s.setFromValue v) :=
  ⟨fun h => asI32_setFromValue_isSome h v, fun h => asStr_setFromValue_isSome h v⟩

@[simp] theorem setFromValue_name (s : Setting) (v : Value) : (s.setFromValue v).name = s.name := by
  unfold setFromValue; split <;> rfl

@[simp] theorem setFromValue_controllable (s : Setting) (v : Value) :
    (s.setFromValue v).controllable = s.controllable := by
  unfold setFromValue; split <;> rfl

end Setting

/-! ### The queue of a controller -/

/-- Modelled from the spec: `push_control_point`, which keeps the queue in time order (a
point goes after every point that is not later). -/
def insertPoint (p : ControlPoint) : List ControlPoint → List ControlPoint
  | [] => [p]
  | q :: qs => if p.time < q.time then p :: q :: qs else q :: insertPoint p qs

/-- Modelled from the spec: `remove_control_point(id)`, after which no point has that id. -/
def removePoints (id : String) (ps : List ControlPoint) : List ControlPoint :=
  ps.filter (·.id ≠ id)

/-- Modelled from the spec: the value a `linear` segment reaches,
`current + (end - current) * min(1, fraction)`. -/
def Value.interpolate (current target : Value) (fraction : ℚ) : Option Value :=
  match current, target with
  | .int a, .int b => some (.int (truncRat (a + (b - a) * min 1 fraction)))
  | .float a, .float b => some (.float (a + (b - a) * min 1 fraction))
  | _, _ => none

/-- Modelled from the spec: one tick of a controller's queue at wall-clock `now`, `duration`
after the previous tick.  A point whose time has come is committed and leaves the queue;
before it, a `linear` point moves the current value `duration / remaining` of the way
toward it; an unknown duration moves nothing.  Returns the queue and the value to write. -/
def syncPoints (current : Option Value) (now : Nat) (duration : ClockTime) :
    List ControlPoint → List ControlPoint × Option Value
  | [] => ([], none)
  | p :: rest =>
    if p.time ≤ now then (rest, some p.value)
    else
      match p.interpolation, duration, current with
      | .linear, some d, some v =>
        (p :: rest, Value.interpolate v p.value ((d : ℚ) / (p.time - now)))
      | _, _, _ => (p :: rest, none)

/-- The queue a tick leaves: the first point goes once its time has come. -/
def dueDropped (now : Nat) : List ControlPoint → List ControlPoint
  | [] => []
  | p :: rest => if p.time ≤ now then rest else p :: rest

/-- The queue a tick leaves does not depend on the value it reads or on the duration. -/
theorem syncPoints_fst (current : Option Value) (now : Nat) (duration : ClockTime) :
    ∀ ps, (syncPoints current now duration ps).1 = dueDropped now ps
  | [] => rfl
  | p :: rest => by
    simp only [syncPoints, dueDropped]
    split_ifs
    · rfl
    · split <;> rfl

@[simp] theorem mem_insertPoint {p q : ControlPoint} :
    ∀ {ps : List ControlPoint}, q ∈ insertPoint p ps ↔ q = p ∨ q ∈ ps
  | [] => by simp [insertPoint]
  | r :: rs => by
    unfold insertPoint
    split
    · simp
    · simp only [List.mem_cons, mem_insertPoint]; tauto

@[simp] theorem mem_removePoints {id : String} {q : ControlPoint} {ps : List ControlPoint} :
    q ∈ removePoints id ps ↔ q ∈ ps ∧ q.id ≠ id := by
  simp [removePoints]

/-! ### Controllers -/

/-- Modelled from the spec: `PropertyController`, which drives the property `propname` of
the pad `target` for the slot `controlleeId`. -/
structure PropertyController where
  controlleeId : String
  target : PadRef
  propname : String
  controlPoints : List ControlPoint
  deriving DecidableEq, Repr

/-- Modelled from the spec: `SettingController`, which drives the mixer setting held under
the key `setting` (the `Arc<Mutex<Setting>>` it is given) for the node `controlleeId`. -/
structure SettingController where
  controlleeId : String
  setting : String
  controlPoints : List ControlPoint
  deriving DecidableEq, Repr

namespace PropertyController

/-- Modelled from the spec: `PropertyController::new(controllee_id, pad, propname)`. -/
def new (controlleeId : String) (target : PadRef) (propname : String) : PropertyController :=
  ⟨controlleeId, target, propname, []⟩

/-- Modelled from the spec: `push_control_point`. -/
def pushControlPoint (point : ControlPoint) (c : PropertyController) : PropertyController :=
  { c with controlPoints := insertPoint point c.controlPoints }

/-- Modelled from the spec: `remove_control_point`. -/
def removeControlPoint (id : String) (c : PropertyController) : PropertyController :=
  { c with controlPoints := removePoints id c.controlPoints }

/-- Modelled from the spec: `PropertyController::validate_value(property, pad, value)`, which
introspects the pad's class for the property and its type. -/
def validateValue (property : String) (mix : Mix) (v : Value) : Except String Unit :=
  match padPropertyDefault mix property, v with
  | some (.int _), .int _ => .ok ()
  | some (.float _), .float _ => .ok ()
  | some (.float _), .int _ => .ok ()
  | some (.str _), .str _ => .ok ()
  | some (.bool _), .bool _ => .ok ()
  | some _, _ => .error ("Invalid value type for property " ++ property)
  | none, _ => .error ("No property " ++ property ++ " on pad")

/-- Modelled from the spec: `validate_control_point`; the point's value must suit the
property. -/
def validateControlPoint (property : String) (mix : Mix) (point : ControlPoint) :
    Except String Unit :=
  validateValue property mix point.value

/-- Modelled from the spec: `synchronize(now, duration)` against the current value of the
driven property; the controller after the tick, the value to write, and whether it is
done. -/
def synchronize (c : PropertyController) (current : Option Value) (now : Nat)
    (duration : ClockTime) : PropertyController × Option Value × Bool :=
  let r := syncPoints current now duration c.controlPoints
  ({ c with controlPoints := r.1 }, r.2, r.1.isEmpty)

@[simp] theorem synchronize_controlleeId (c : PropertyController) (v : Option Value) (n : Nat)
    (d : ClockTime) : (c.synchronize v n d).1.controlleeId = c.controlleeId := rfl
@[simp] theorem synchronize_target (c : PropertyController) (v : Option Value) (n : Nat)
    (d : ClockTime) : (c.synchronize v n d).1.target = c.target := rfl
@[simp] theorem synchronize_propname (c : PropertyController) (v : Option Value) (n : Nat)
    (d : ClockTime) : (c.synchronize v n d).1.propname = c.propname := rfl
@[simp] theorem pushControlPoint_controlleeId (p : ControlPoint) (c : PropertyController) :
    (c.pushControlPoint p).controlleeId = c.controlleeId := rfl
@[simp] theorem pushControlPoint_target (p : ControlPoint) (c : PropertyController) :
    (c.pushControlPoint p).target = c.target := rfl
@[simp] theorem pushControlPoint_propname (p : ControlPoint) (c : PropertyController) :
    (c.pushControlPoint p).propname = c.propname := rfl
@[simp] theorem removeControlPoint_controlleeId (id : String) (c : PropertyController) :
    (c.removeControlPoint id).controlleeId = c.controlleeId := rfl
@[simp] theorem removeControlPoint_target (id : String) (c : PropertyController) :
    (c.removeControlPoint id).target = c.target := rfl
@[simp] theorem removeControlPoint_propname (id : String) (c : PropertyController) :
    (c.removeControlPoint id).propname = c.propname := rfl

/-- A tick changes only the queue, and what it leaves of the queue, and whether the
controller is done, do not depend on the value it reads. -/
theorem synchronize_fst (c : PropertyController) (v : Option Value) (n : Nat) (d : ClockTime) :
    (c.synchronize v n d).1 = { c with controlPoints := dueDropped n c.controlPoints } := by
  simp only [synchronize, syncPoints_fst]

theorem synchronize_done (c : PropertyController) (v : Option Value) (n : Nat) (d : ClockTime) :
    (c.synchronize v n d).2.2 = (dueDropped n c.controlPoints).isEmpty := by
  simp only [synchronize, syncPoints_fst]
/-- Two controllers of the same slot, pad and property: ticks and requests change only a
controller's queue. -/
def SameRole (c c' : PropertyController) : Prop :=
  c'.controlleeId = c.controlleeId ∧ c'.target = c.target ∧ c'.propname = c.propname

theorem SameRole.refl (c : PropertyController) : SameRole c c := ⟨rfl, rfl, rfl⟩

theorem SameRole.trans {c c' c'' : PropertyController} (h : SameRole c c') (h' : SameRole c' c'') :
    SameRole c c'' :=
  ⟨h'.1.trans h.1, h'.2.1.trans h.2.1, h'.2.2.trans h.2.2⟩

theorem sameRole_synchronize (c : PropertyController) (v : Option Value) (n : Nat) (d : ClockTime) :
    SameRole c (c.synchronize v n d).1 := .refl c

theorem sameRole_pushControlPoint (p : ControlPoint) (c : PropertyController) :
    SameRole c (c.pushControlPoint p) := .refl c

theorem sameRole_removeControlPoint (id : String) (c : PropertyController) :
    SameRole c (c.removeControlPoint id) := .refl c

end PropertyController

namespace SettingController

/-- Modelled from the spec: `SettingController::new(controllee_id, setting)`. -/
def new (controlleeId : String) (setting : String) : SettingController :=
  ⟨controlleeId, setting, []⟩

/-- Modelled from the spec: `push_control_point`. -/
def pushControlPoint (point : ControlPoint) (c : SettingController) : SettingController :=
  { c with controlPoints := insertPoint point c.controlPoints }

/-- Modelled from the spec: `remove_control_point`. -/
def removeControlPoint (id : String) (c : SettingController) : SettingController :=
  { c with controlPoints := removePoints id c.controlPoints }

/-- Modelled from the spec: `SettingController::validate_control_point(setting, point)`,
which refuses a setting that is not controllable, then validates the value. -/
def validateControlPoint (s : Setting) (point : ControlPoint) : Except String Unit :=
  if s.controllable then s.validateValue point.value
  else .error ("Setting " ++ s.name ++ " is not controllable")

/-- Modelled from the spec: `synchronize(now, duration)` on the driven setting; the
controller after the tick, the setting after it, and whether the controller is done. -/
def synchronize (c : SettingController) (s : Setting) (now : Nat) (duration : ClockTime) :
    SettingController × Setting × Bool :=
  let r := syncPoints (some s.asValue) now duration c.controlPoints
  ({ c with controlPoints := r.1 }, (r.2.map s.setFromValue).getD s, r.1.isEmpty)

@[simp] theorem synchronize_setting (c : SettingController) (s : Setting) (n : Nat)
    (d : ClockTime) : (c.synchronize s n d).1.setting = c.setting := rfl

theorem synchronize_fst (c : SettingController) (s : Setting) (n : Nat) (d : ClockTime) :
    (c.synchronize s n d).1 = { c with controlPoints := dueDropped n c.controlPoints } := by
  simp only [synchronize, syncPoints_fst]

theorem synchronize_done (c : SettingController) (s : Setting) (n : Nat) (d : ClockTime) :
    (c.synchronize s n d).2.2 = (dueDropped n c.controlPoints).isEmpty := by
  simp only [synchronize, syncPoints_fst]
/-- A tick leaves the setting it drives as it was, or writes a value into it. -/
theorem synchronize_setting_eq (c : SettingController) (s : Setting) (n : Nat) (d : ClockTime) :
    (c.synchronize s n d).2.1 = s ∨ ∃ v, (c.synchronize s n d).2.1 = s.setFromValue v := by
  unfold synchronize
  dsimp only
  cases (syncPoints (some s.asValue) n d c.controlPoints).2 with
  | none => exact .inl rfl
  | some v => exact .inr ⟨v, rfl⟩

/-- A tick writes the setting it drives only with a value of its type. -/
theorem keepsType_synchronize (c : SettingController) (s : Setting) (n : Nat) (d : ClockTime) :
    s.KeepsType (c.synchronize s n d).2.1 := by
  rcases c.synchronize_setting_eq s n d with hs | ⟨v, hs⟩ <;> rw [hs]
  · exact ⟨id, id⟩
  · exact s.keepsType_setFromValue v

end SettingController

end Auteur
