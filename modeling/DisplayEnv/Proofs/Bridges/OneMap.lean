import Mathlib.Data.List.Induction
import DisplayEnv.Bridge

/-!
# The properties of a bridge are one map

Whatever was asked of a bridge before, through whichever controls and in whichever form, a property
reads as the last value that was written for its window and key. A control counts by the window that
it exposes at the time, so two controls with one window read what the other has written, and a
control that exposes no valid window reaches nothing.

* `OnTable.after`: what requests leave in a table, key by key.
* `collapses`, `unreached`: the forms with a fixed answer, and controls without a window.
* `properties_one_map`: what a table and a platform without properties answer after any requests.
-/

namespace DisplayEnv

/-- The valid native window that a control exposes. -/
def Control.exposed? (c : Control) : Option Window := c.native?.filter (·.isValid)

theorem Control.exposed?_eq_some {c : Control} {w : Window} :
    c.exposed? = some w ↔ c.native? = some w ∧ w.isValid := Option.filter_eq_some_iff

/-- A control without a valid window exposes none, or the one that is never valid. -/
theorem Control.exposed?_eq_none {c : Control} :
    c.exposed? = none ↔ c.native? = none ∨ c.native? = some .invalid := by
  unfold exposed?
  cases c.native? with
  | none => simp
  | some w =>
    cases w
    simp [Window.isValid, Window.invalid]

namespace Bridge

/-! ## Requests -/

/-- A request to a bridge, with the control as it is at the time. -/
inductive Request where
  | tryWindow (c : Control)
  | window (c : Control)
  | tryRead (c : Control) (key : Int32)
  | read (c : Control) (key : Int32)
  | tryWrite (c : Control) (key : Int32) (value : Int64)
  | write (c : Control) (key : Int32) (value : Int64)
  deriving DecidableEq, Repr

namespace Request

/-- The control that a request goes through. -/
def control : Request → Control
  | .tryWindow c | .window c | .tryRead c _ | .read c _ | .tryWrite c _ _ | .write c _ _ => c

/-- The value that a request asks to write for a key of a window. -/
def written? (w : Window) (key : Int32) : Request → Option Int64
  | .tryWrite c k value | .write c k value =>
    if c.exposed? = some w ∧ k = key then some value else none
  | _ => none

/-- The last value that some requests asked to write for a key of a window. -/
def latest? (past : List Request) (w : Window) (key : Int32) : Option Int64 :=
  (past.filterMap (written? w key)).getLast?

end Request

open Request (latest?)

variable {b : Bridge} {c : Control} {w : Window}

/-- The bridge after a request; a failure leaves it as it is. -/
def served (b : Bridge) : Request → Bridge
  | .tryWrite c key value => (b.trySetProperty c key value).toOption.getD b
  | .write c key value => (b.setProperty c key value).2
  | _ => b

/-- The bridge after some requests. -/
def after (b : Bridge) (rs : List Request) : Bridge := rs.foldl served b

theorem after_concat (b : Bridge) (rs : List Request) (r : Request) :
    b.after (rs ++ [r]) = (b.after rs).served r := by
  rw [after, List.foldl_append]
  rfl

/-! ## One request -/

theorem tryNativeWindow_eq (c : Control) :
    tryNativeWindow c = c.exposed?.elim (.error .handleUnavailable) .ok := by
  unfold tryNativeWindow Control.exposed?
  cases c.native? with
  | none => rfl
  | some w => by_cases valid : w.isValid <;> simp [Option.filter, valid]

theorem tryProperty_of (b : Bridge) (h : c.exposed? = some w) (key : Int32) :
    b.tryProperty c key = b.strategy.get w key := by
  rw [tryProperty, tryNativeWindow_eq, h]
  rfl

theorem trySetProperty_of (b : Bridge) (h : c.exposed? = some w) (key : Int32) (value : Int64) :
    b.trySetProperty c key value = (b.strategy.set w key value).map Bridge.mk := by
  rw [trySetProperty, tryNativeWindow_eq, h]
  rfl

theorem tryProperty_of_none (b : Bridge) (h : c.exposed? = none) (key : Int32) :
    b.tryProperty c key = .error .handleUnavailable := by
  rw [tryProperty, tryNativeWindow_eq, h]
  rfl

theorem trySetProperty_of_none (b : Bridge) (h : c.exposed? = none) (key : Int32) (value : Int64) :
    b.trySetProperty c key value = .error .handleUnavailable := by
  rw [trySetProperty, tryNativeWindow_eq, h]
  rfl

/-- The form with a fixed answer leaves what the other form leaves. -/
theorem setProperty_snd (b : Bridge) (c : Control) (key : Int32) (value : Int64) :
    (b.setProperty c key value).2 = (b.trySetProperty c key value).toOption.getD b := by
  unfold setProperty
  cases b.trySetProperty c key value <;> rfl

theorem served_write (b : Bridge) (c : Control) (key : Int32) (value : Int64) :
    b.served (.write c key value) = b.served (.tryWrite c key value) :=
  b.setProperty_snd c key value

/-- A control without a window changes nothing. -/
theorem served_of_none (b : Bridge) {r : Request} (h : r.control.exposed? = none) :
    b.served r = b := by
  have unwritten (key : Int32) (value : Int64) : b.served (.tryWrite r.control key value) = b := by
    rw [served, b.trySetProperty_of_none h]
    rfl
  cases r with
  | tryWrite c key value => exact unwritten key value
  | write c key value => exact (b.served_write c key value).trans (unwritten key value)
  | _ => rfl

/-! ## A table -/

/-- A bridge whose strategy is a table. -/
def OnTable (b : Bridge) : Prop := ∃ values, b.strategy = .table values

/-- **What one request does to a table**: the key that it writes has its value, and all others have
theirs still. -/
theorem OnTable.served (hb : b.OnTable) (r : Request) : (b.served r).OnTable ∧ ∀ w key,
    (b.served r).strategy.get w key =
      (r.written? w key).elim (b.strategy.get w key) .ok := by
  have write (c : Control) (k : Int32) (value : Int64) :
      (b.served (.tryWrite c k value)).OnTable ∧ ∀ w key,
        (b.served (.tryWrite c k value)).strategy.get w key =
          ((Request.tryWrite c k value).written? w key).elim (b.strategy.get w key) .ok := by
    cases exposed : c.exposed? with
    | none =>
      rw [b.served_of_none (r := .tryWrite c k value) exposed]
      exact ⟨hb, fun w key => by simp [Request.written?, exposed]⟩
    | some v =>
      obtain ⟨values, table⟩ := hb
      have set : b.strategy.set v k value = .ok (.table (((v, k), value) :: values)) := by
        rw [table]
        rfl
      have left : b.served (.tryWrite c k value) = ⟨.table (((v, k), value) :: values)⟩ := by
        rw [Bridge.served, b.trySetProperty_of exposed, set]
        rfl
      rw [left]
      refine ⟨⟨_, rfl⟩, fun w key => (Properties.get_set set).trans ?_⟩
      by_cases same : (w, key) = (v, k)
      · obtain ⟨rfl, rfl⟩ := Prod.mk.injEq .. ▸ same
        simp [Request.written?, exposed]
      · have other : ¬(c.exposed? = some w ∧ k = key) := fun ⟨h, h'⟩ =>
          same (by rw [h', ← Option.some.inj (exposed.symm.trans h)])
        rw [if_neg same, Request.written?, if_neg other]
        rfl
  cases r with
  | tryWrite c k value => exact write c k value
  | write c k value =>
    rw [served_write]
    exact write c k value
  | _ => exact ⟨hb, fun w key => rfl⟩

/-- **What requests leave in a table**, key by key: the last value written, or what was there. -/
theorem OnTable.after (hb : b.OnTable) (past : List Request) : (b.after past).OnTable ∧ ∀ w key,
    (b.after past).strategy.get w key =
      (latest? past w key).elim (b.strategy.get w key) .ok := by
  induction past using List.reverseRecOn with
  | nil => exact ⟨hb, fun _ _ => rfl⟩
  | append_singleton past r ih =>
    obtain ⟨table, values⟩ := ih
    rw [after_concat]
    refine ⟨(table.served r).1, fun w key => ((table.served r).2 w key).trans ?_⟩
    rw [values, latest?, latest?, List.filterMap_append]
    cases written : r.written? w key with
    | none => simp [written]
    | some value => simp [written]

/-! ## What a bridge answers -/

/-- A form with a fixed answer answers as the other form does, with its fixed value in the place of
a failure; and it leaves what the other form leaves. -/
structure Collapses (b : Bridge) : Prop where
  window : ∀ c, (nativeWindow c).1 = (tryNativeWindow c).toOption.getD .invalid
  read : ∀ c key, (b.property c key).1 = (b.tryProperty c key).toOption.getD 0
  write : ∀ c key value,
    (b.setProperty c key value).1.1 = (b.trySetProperty c key value).toOption.isSome
  left : ∀ c key value, b.served (.write c key value) = b.served (.tryWrite c key value)

/-- A bridge that reaches nothing through a control, and is not changed through it. -/
structure Unreached (b : Bridge) (c : Control) : Prop where
  tryWindow : tryNativeWindow c = .error .handleUnavailable
  tryRead : ∀ key, b.tryProperty c key = .error .handleUnavailable
  tryWrite : ∀ key value, b.trySetProperty c key value = .error .handleUnavailable
  window : (nativeWindow c).1 = .invalid
  read : ∀ key, (b.property c key).1 = 0
  write : ∀ key value, (b.setProperty c key value).1.1 = false
  unchanged : ∀ r : Request, r.control = c → b.served r = b

/-- The window of a control is returned, in both forms. -/
def Returns (c : Control) (w : Window) : Prop :=
  tryNativeWindow c = .ok w ∧ (nativeWindow c).1 = w

/-- A bridge that reads every key of every window as its value, and takes every write. -/
structure Holds (b : Bridge) (value : Window → Int32 → Int64) : Prop where
  tryRead : ∀ c w key, c.exposed? = some w → b.tryProperty c key = .ok (value w key)
  read : ∀ c w key, c.exposed? = some w → (b.property c key).1 = value w key
  tryWrite : ∀ c w key v, c.exposed? = some w →
    b.trySetProperty c key v = .ok (b.served (.tryWrite c key v))
  write : ∀ c w key v, c.exposed? = some w → (b.setProperty c key v).1.1 = true

/-- A bridge that refuses to read and write on behalf of a platform. -/
structure Refuses (b : Bridge) (p : Platform) : Prop where
  tryRead : ∀ c w key, c.exposed? = some w →
    b.tryProperty c key = .error (.unsupported p.identifier "GetWindowLong")
  read : ∀ c w key, c.exposed? = some w → (b.property c key).1 = 0
  tryWrite : ∀ c w key v, c.exposed? = some w →
    b.trySetProperty c key v = .error (.unsupported p.identifier "SetWindowLong")
  write : ∀ c w key v, c.exposed? = some w → (b.setProperty c key v).1.1 = false

theorem collapses (b : Bridge) : b.Collapses where
  window c := by
    unfold nativeWindow
    cases tryNativeWindow c <;> rfl
  read c key := by
    unfold property
    cases b.tryProperty c key <;> rfl
  write c key value := by
    unfold setProperty
    cases b.trySetProperty c key value <;> rfl
  left := b.served_write

theorem unreached (b : Bridge) (h : c.exposed? = none) : b.Unreached c := by
  have tryWindow : tryNativeWindow c = .error .handleUnavailable := by
    rw [tryNativeWindow_eq, h]
    rfl
  exact {
    tryWindow
    tryRead := b.tryProperty_of_none h
    tryWrite := b.trySetProperty_of_none h
    window := by
      rw [b.collapses.window, tryWindow]
      rfl
    read := fun key => by
      rw [b.collapses.read, b.tryProperty_of_none h]
      rfl
    write := fun key value => by
      rw [b.collapses.write, b.trySetProperty_of_none h]
      rfl
    unchanged := fun r hr => b.served_of_none (by rw [hr, h]) }

theorem returns (h : c.exposed? = some w) : Returns c w := by
  have tryWindow : tryNativeWindow c = .ok w := by
    rw [tryNativeWindow_eq, h]
    rfl
  refine ⟨tryWindow, ?_⟩
  rw [(collapses ⟨.empty⟩).window, tryWindow]
  rfl

/-- A table reads as its values. -/
theorem OnTable.holds (hb : b.OnTable) {value : Window → Int32 → Int64}
    (values : ∀ w key, b.strategy.get w key = .ok (value w key)) : b.Holds value := by
  have tryRead c w key (h : c.exposed? = some w) : b.tryProperty c key = .ok (value w key) :=
    (b.tryProperty_of h key).trans (values w key)
  have tryWrite c w key v (h : c.exposed? = some w) :
      b.trySetProperty c key v = .ok (b.served (.tryWrite c key v)) := by
    obtain ⟨entries, table⟩ := hb
    rw [Bridge.served, b.trySetProperty_of h, table]
    rfl
  exact {
    tryRead
    read := fun c w key h => by
      rw [b.collapses.read, tryRead c w key h]
      rfl
    tryWrite
    write := fun c w key v h => by
      rw [b.collapses.write, tryWrite c w key v h]
      rfl }

/-- Nothing is kept for a platform without properties. -/
theorem unsupported_after (p : Platform) (past : List Request) :
    after ⟨.unsupported p⟩ past = ⟨.unsupported p⟩ := by
  have write (c : Control) (key : Int32) (value : Int64) :
      (⟨.unsupported p⟩ : Bridge).served (.tryWrite c key value) = ⟨.unsupported p⟩ := by
    cases exposed : c.exposed? with
    | none => exact served_of_none _ exposed
    | some w =>
      rw [served, trySetProperty_of _ exposed]
      rfl
  induction past using List.reverseRecOn with
  | nil => rfl
  | append_singleton past r ih =>
    rw [after_concat, ih]
    cases r with
    | tryWrite c key value => exact write c key value
    | write c key value => exact (served_write _ c key value).trans (write c key value)
    | _ => rfl

theorem unsupported_refuses (p : Platform) : (⟨.unsupported p⟩ : Bridge).Refuses p := by
  have tryRead c w key (h : c.exposed? = some w) :
      (⟨.unsupported p⟩ : Bridge).tryProperty c key
        = .error (.unsupported p.identifier "GetWindowLong") :=
    tryProperty_of _ h key
  have tryWrite c w key v (h : c.exposed? = some w) :
      (⟨.unsupported p⟩ : Bridge).trySetProperty c key v
        = .error (.unsupported p.identifier "SetWindowLong") :=
    trySetProperty_of _ h key v
  exact {
    tryRead
    read := fun c w key h => by
      rw [(collapses _).read, tryRead c w key h]
      rfl
    tryWrite
    write := fun c w key v h => by
      rw [(collapses _).write, tryWrite c w key v h]
      rfl }

/-- **Properties are one map for each bridge.** After any requests a table reads as the last value
that was written for the window and key, through whichever control, and as what it held before when
there was none; a fresh one held zero. A platform without properties refuses, and is named. -/
theorem properties_one_map (past : List Request) :
    (∀ values, (after ⟨.table values⟩ past).Holds fun w key =>
      (latest? past w key).getD ((values.lookup (w, key)).getD 0)) ∧
    ((forPlatform .headless).1.after past).Holds (fun w key => (latest? past w key).getD 0) ∧
    (∀ p, p ≠ .headless → ((forPlatform p).1.after past).Refuses p) ∧
    (∀ b : Bridge, b.Collapses) ∧
    (∀ (b : Bridge) c, c.native? = none ∨ c.native? = some .invalid → b.Unreached c) ∧
    ∀ c w, c.native? = some w → w.isValid → Returns c w := by
  have table (values) : (after ⟨.table values⟩ past).Holds fun w key =>
      (latest? past w key).getD ((values.lookup (w, key)).getD 0) := by
    obtain ⟨onTable, left⟩ := OnTable.after ⟨values, rfl⟩ past
    refine onTable.holds fun w key => (left w key).trans ?_
    cases latest? past w key <;> rfl
  refine ⟨table, table [], fun p other => ?_, collapses,
    fun b c h => b.unreached (Control.exposed?_eq_none.mpr h),
    fun c w native valid => returns (Control.exposed?_eq_some.mpr ⟨native, valid⟩)⟩
  have strategy : (forPlatform p).1 = ⟨.unsupported p⟩ := by
    rw [forPlatform, Properties.forPlatform, if_neg other]
    rfl
  rw [strategy, unsupported_after]
  exact unsupported_refuses p

/-- A window and a control with that window share their properties; a control without a window and
another key do not come between. -/
theorem properties_one_map_shared :
    let past : List Request := [.write (.window ⟨0x1000⟩) (-20) 0x80,
      .tryWrite (.exposing none) (-20) 1, .tryWrite (.exposing (some ⟨0x1000⟩)) (-16) 2]
    ((forPlatform .headless).1.after past).tryProperty (.exposing (some ⟨0x1000⟩)) (-20)
        = .ok 0x80 ∧
      ((forPlatform .headless).1.after past).tryProperty (.window ⟨0x1010⟩) (-20) = .ok 0 ∧
      ((forPlatform (.other "beos")).1.after past).tryProperty (.window ⟨0x1000⟩) (-20)
        = .error (.unsupported "beos" "GetWindowLong") ∧
      (nativeWindow (.window ⟨0x1000⟩)).1 = ⟨0x1000⟩ := by
  intro past
  obtain ⟨-, fresh, other, -, -, returned⟩ := properties_one_map past
  exact ⟨fresh.tryRead _ ⟨0x1000⟩ _ (by decide), fresh.tryRead _ ⟨0x1010⟩ _ (by decide),
    (other (.other "beos") (by decide)).tryRead _ ⟨0x1000⟩ _ (by decide),
    (returned _ ⟨0x1000⟩ (by decide) (by decide)).2⟩

end Bridge

end DisplayEnv
