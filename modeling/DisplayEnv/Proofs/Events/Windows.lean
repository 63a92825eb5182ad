import Mathlib.Algebra.GroupWithZero.Nat
import Mathlib.Data.List.Nodup
import DisplayEnv.Proofs.Events.Awaited

/-!
# A destroyed window stays destroyed

A loop ends when its root is gone, so what is gone must not come back. Windows are destroyed by a
call and by events, in any order and under any number, also under one that was not given out yet. A
backend only keeps the set of the windows that are there and the number of the next one. What ties
the two together is the list of all windows that a history opened:

* it is numbered from the first window on, up to the next number (`History.numbered`), so a window
  is opened once;
* the windows that are there are those that were opened and not destroyed since
  (`History.mem_windows_iff`).

A window that was opened and is not there is `Headless.Doomed` with no event before its end, which
every call keeps. `destroyed_windows_stay` puts the parts together.
-/

namespace DisplayEnv

variable {τ : Type}

/-- The window that a moment opens. -/
def Moment.opened? (m : Moment τ) : Option Window :=
  match m.call, m.outcome with
  | .createWindow, .done (.window w) => some w
  | _, _ => none

/-- The window that an event destroys when it is dispatched. -/
def Event.destroyed? : Event τ → Option Window
  | .destroy w => some w
  | _ => none

/-- The window that a moment destroys, by a call or by the event that it takes. -/
def Moment.destroyed? (m : Moment τ) : Option Window :=
  match m.call with
  | .destroyWindow w => some w
  | _ => m.taken?.bind Event.destroyed?

/-- The windows that were opened in a history, in their order. -/
def windowsOpened (t : List (Moment τ)) : List Window := t.filterMap Moment.opened?

/-- The window was opened at a moment of the history, and no later one destroyed it. -/
def StillOpen (t : List (Moment τ)) (w : Window) : Prop :=
  ∃ l m r, t = l ++ m :: r ∧ m.opened? = some w ∧ ∀ x ∈ r, x.destroyed? ≠ some w

/-- The first windows of a backend. -/
def Headless.firstWindows (n : Nat) : List Window :=
  (List.range n).map fun i => ⟨firstWindow + windowStep * i⟩

/-- The windows that were opened are numbered on, and the next number comes behind them. -/
structure WindowsNumbered (t : List (Moment τ)) (b : Headless τ) : Prop where
  opened : windowsOpened t = Headless.firstWindows (windowsOpened t).length
  next : b.nextWindow = Headless.firstWindow + Headless.windowStep * (windowsOpened t).length

/-- What a moment does to the windows: it opens the next one, destroys one or leaves them alone. -/
inductive Moment.OnWindows (m : Moment τ) : Prop
  | opens (opened : m.opened? = some ⟨m.before.backend.nextWindow⟩)
      (destroyed : m.destroyed? = none)
      (windows : m.after.backend.windows =
        ⟨m.before.backend.nextWindow⟩ :: m.before.backend.windows)
      (next : m.after.backend.nextWindow = m.before.backend.nextWindow + Headless.windowStep)
  | destroys {w : Window} (opened : m.opened? = none) (destroyed : m.destroyed? = some w)
      (windows : m.after.backend.windows = m.before.backend.windows.filter (· ≠ w))
      (next : m.after.backend.nextWindow = m.before.backend.nextWindow)
  | leaves (opened : m.opened? = none) (destroyed : m.destroyed? = none)
      (windows : m.after.backend.windows = m.before.backend.windows)
      (next : m.after.backend.nextWindow = m.before.backend.nextWindow)

variable {d : Display τ} {t l r : List (Moment τ)} {m : Moment τ} {w : Window}
  {opening : Opening} {allowed : Call τ → Prop} {config : HeadlessConfig}

/-! ## Numbers -/

namespace Headless

theorem firstWindows_succ (n : Nat) :
    firstWindows (n + 1) = firstWindows n ++ [⟨firstWindow + windowStep * n⟩] := by
  rw [firstWindows, List.range_succ, List.map_append]
  rfl

theorem length_firstWindows (n : Nat) : (firstWindows n).length = n := by
  rw [firstWindows, List.length_map, List.length_range]

theorem nodup_firstWindows (n : Nat) : (firstWindows n).Nodup := by
  refine List.nodup_range.map fun i j same => ?_
  have raw := Window.mk.inj same
  unfold windowStep at raw
  omega

/-- The numbers that were given out lie between the first and the next one. -/
theorem raw_of_mem_firstWindows {n : Nat} (h : w ∈ firstWindows n) :
    firstWindow ≤ w.raw ∧ w.raw < firstWindow + windowStep * n := by
  obtain ⟨i, hi, rfl⟩ := List.mem_map.mp h
  have := List.mem_range.mp hi
  unfold windowStep
  refine ⟨Nat.le_add_right _ _, ?_⟩
  show firstWindow + 0x10 * i < _
  omega

/-- Fewer than `2 ^ 59` windows have numbers that fit a word, and so has the next one. -/
theorem next_fits {n : Nat} (few : n < 2 ^ 59) : firstWindow + windowStep * n < 2 ^ 64 := by
  unfold firstWindow windowStep
  omega

theorem isDestroyed_eq_false_iff (b : Headless τ) (w : Window) :
    b.isDestroyed w = false ↔ w ∈ b.windows := by
  simp [isDestroyed]

end Headless

/-! ## One call -/

theorem Display.dispatch_onWindows (opening : Opening)
    (ending : Outcome (Except PlatformError Unit))
    (after : (Moment.of opening (.dispatch ending) d).after = d.dispatched) :
    (Moment.of opening (.dispatch ending) d).OnWindows := by
  have destroyed : (Moment.of opening (.dispatch ending) d).destroyed? =
      d.backend.next.1.bind Event.destroyed? := rfl
  cases line : d.backend.pending with
  | nil =>
    have same := dispatched_idle line
    rw [← after] at same
    rw [Headless.next_eq, line] at destroyed
    obtain ⟨windows, rest⟩ := Prod.mk.inj same
    exact .leaves rfl destroyed windows (Prod.mk.inj rest).1
  | cons e rest =>
    have scene := dispatched_scene line
    rw [← after] at scene
    rw [Headless.next_of_pending line] at destroyed
    obtain ⟨windows, rest⟩ := Prod.mk.inj scene
    cases e with
    | destroy w => exact .destroys rfl destroyed windows (Prod.mk.inj rest).1
    | task _ | wake => exact .leaves rfl destroyed windows (Prod.mk.inj rest).1

/-- **Every call** opens the next window, destroys one or leaves the windows alone. -/
theorem Display.onWindows (hd : d.lent = []) (opening : Opening) (c : Call τ) :
    (Moment.of opening c d).OnWindows := by
  have after := Moment.of_after opening hd c
  by_cases hc : c.OnBackend
  case neg =>
    have same : (d.after opening c).backend.scene = d.backend.scene :=
      d.after_apart Headless.apart_scene hc
    rw [← after] at same
    obtain ⟨windows, rest⟩ := Prod.mk.inj same
    have silent : (Moment.of opening c d).opened? = none ∧
        (Moment.of opening c d).destroyed? = none := by
      cases c <;> first | exact ⟨rfl, rfl⟩ | exact absurd trivial hc
    exact .leaves silent.1 silent.2 windows (Prod.mk.inj rest).1
  cases c with
  | createWindow => exact .opens rfl rfl rfl rfl
  | destroyWindow w => exact .destroys rfl rfl rfl rfl
  | post _ | send _ | pendingEvents => exact .leaves rfl rfl rfl rfl
  | dispatch ending => exact d.dispatch_onWindows opening ending after
  | sleep =>
    have same : d.backend.sleep.windows = d.backend.windows ∧
        d.backend.sleep.nextWindow = d.backend.nextWindow := by
      unfold Headless.sleep
      split
      · split <;> exact ⟨rfl, rfl⟩
      · exact ⟨rfl, rfl⟩
    exact .leaves rfl rfl same.1 same.2
  | _ => exact hc.elim

namespace Moment.OnWindows

/-- The windows behind a moment. -/
theorem mem_windows_iff (h : m.OnWindows) (w : Window) : w ∈ m.after.backend.windows ↔
    m.opened? = some w ∨ w ∈ m.before.backend.windows ∧ m.destroyed? ≠ some w := by
  cases h with
  | opens opened destroyed windows _ =>
    have first : some (⟨m.before.backend.nextWindow⟩ : Window) = some w ↔
        w = ⟨m.before.backend.nextWindow⟩ := by rw [Option.some.injEq, eq_comm]
    rw [windows, opened, destroyed, List.mem_cons, first]
    simp only [ne_eq, reduceCtorEq, not_false_eq_true, and_true]
  | @destroys v opened destroyed windows _ =>
    have other : decide (w ≠ v) = true ↔ some v ≠ some w := by
      rw [decide_eq_true_iff, ne_eq, ne_eq, Option.some.injEq, eq_comm]
    rw [windows, opened, destroyed, List.mem_filter, other]
    simp only [reduceCtorEq, false_or]
  | leaves opened destroyed windows _ =>
    rw [windows, opened, destroyed]
    simp

/-- No moment both opens a window and destroys one. -/
theorem opened_eq_none (h : m.OnWindows) (destroyed : m.destroyed? = some w) :
    m.opened? = none := by
  cases h with
  | opens _ none _ _ =>
    rw [none] at destroyed
    cases destroyed
  | destroys opened _ _ _ | leaves opened _ _ _ => exact opened

theorem isDestroyed_of_opened (h : m.OnWindows) (opened : m.opened? = some w) :
    m.after.backend.isDestroyed w = false := by
  rw [Headless.isDestroyed_eq_false_iff, h.mem_windows_iff w]
  exact .inl opened

theorem isDestroyed_of_destroyed (h : m.OnWindows) (destroyed : m.destroyed? = some w) :
    m.after.backend.isDestroyed w = true := by
  rw [Headless.isDestroyed_iff, h.mem_windows_iff w]
  simp [h.opened_eq_none destroyed, destroyed]

/-- A window changes its status only when it is opened or destroyed itself. -/
theorem isDestroyed_eq (h : m.OnWindows) (opened : m.opened? ≠ some w)
    (destroyed : m.destroyed? ≠ some w) :
    m.after.backend.isDestroyed w = m.before.backend.isDestroyed w := by
  have same : w ∈ m.after.backend.windows ↔ w ∈ m.before.backend.windows := by
    rw [h.mem_windows_iff w]
    simp [opened, destroyed]
  rw [Bool.eq_iff_iff, Headless.isDestroyed_iff, Headless.isDestroyed_iff, same]

end Moment.OnWindows

/-! ## Every history -/

theorem windowsOpened_concat (t : List (Moment τ)) (m : Moment τ) :
    windowsOpened (t ++ [m]) = windowsOpened t ++ m.opened?.toList := by
  rw [windowsOpened, List.filterMap_append]
  cases h : m.opened? <;> simp [windowsOpened, h]

theorem WindowsNumbered.step (h : WindowsNumbered t m.before.backend) (step : m.OnWindows) :
    WindowsNumbered (t ++ [m]) m.after.backend := by
  have stays (opened : m.opened? = none)
      (next : m.after.backend.nextWindow = m.before.backend.nextWindow) :
      WindowsNumbered (t ++ [m]) m.after.backend := by
    have same : windowsOpened (t ++ [m]) = windowsOpened t := by
      rw [windowsOpened_concat, opened, Option.toList_none, List.append_nil]
    exact ⟨same.symm ▸ h.opened, same.symm ▸ next.trans h.next⟩
  cases step with
  | opens opened _ _ next =>
    have more :
        windowsOpened (t ++ [m]) = Headless.firstWindows ((windowsOpened t).length + 1) := by
      rw [windowsOpened_concat, opened, Option.toList_some, h.next, Headless.firstWindows_succ,
        ← h.opened]
    refine ⟨?_, ?_⟩
    · rw [more, Headless.length_firstWindows]
    · rw [more, Headless.length_firstWindows, next, h.next, Nat.mul_succ, Nat.add_assoc]
  | destroys opened _ _ next | leaves opened _ _ next => exact stays opened next

/-- **The windows of a history are numbered on.** -/
theorem History.numbered (h : History allowed config t d) : WindowsNumbered t d.backend := by
  refine h.invariant (P := fun t d => WindowsNumbered t d.backend) (fun _ => ⟨rfl, rfl⟩) ?_
  intro t d c opening so _ ih after
  rw [← after]
  exact WindowsNumbered.step (m := .of opening c d) ih (Display.onWindows so.orderly.lent opening c)

theorem WindowsNumbered.known (h : WindowsNumbered t d.backend) (hw : w ∈ windowsOpened t) :
    Headless.firstWindow ≤ w.raw ∧ w.raw < d.backend.nextWindow := by
  rw [h.opened] at hw
  rw [h.next]
  exact Headless.raw_of_mem_firstWindows hw

theorem WindowsNumbered.nodup (h : WindowsNumbered t d.backend) : (windowsOpened t).Nodup := by
  rw [h.opened]
  exact Headless.nodup_firstWindows _

/-- A moment opens a window that was not opened before. -/
theorem WindowsNumbered.fresh (h : WindowsNumbered (l ++ [m]) d.backend)
    (opened : m.opened? = some w) : w ∉ windowsOpened l := by
  intro old
  have distinct := h.nodup
  rw [windowsOpened_concat, opened] at distinct
  exact (List.nodup_append.mp distinct).2.2 w old w (List.mem_singleton_self w) rfl

theorem stillOpen_concat (t : List (Moment τ)) (m : Moment τ) (w : Window) :
    StillOpen (t ++ [m]) w ↔ m.opened? = some w ∨ StillOpen t w ∧ m.destroyed? ≠ some w := by
  constructor
  · rintro ⟨l, x, r, cut, opened, kept⟩
    rcases List.eq_nil_or_concat r with rfl | ⟨r, y, rfl⟩
    · obtain ⟨-, last⟩ := List.append_inj' cut rfl
      obtain rfl := List.singleton_inj.mp last
      exact .inl opened
    · rw [List.concat_eq_append, ← List.cons_append, ← List.append_assoc] at cut
      obtain ⟨rfl, last⟩ := List.append_inj' cut rfl
      obtain rfl := List.singleton_inj.mp last
      refine .inr ⟨⟨l, x, r, rfl, opened, fun z hz => kept z ?_⟩, kept m ?_⟩ <;>
        simp [*]
  · rintro (opened | ⟨⟨l, x, r, rfl, opened, kept⟩, spared⟩)
    · exact ⟨t, m, [], rfl, opened, List.forall_mem_nil _⟩
    · refine ⟨l, x, r ++ [m], by simp, opened, fun z hz => ?_⟩
      rcases List.mem_append.mp hz with hz | hz
      · exact kept z hz
      · rw [List.mem_singleton.mp hz]
        exact spared

/-- **The windows that are there** are those that were opened and not destroyed since. -/
theorem History.mem_windows_iff (h : History allowed config t d) (w : Window) :
    w ∈ d.backend.windows ↔ StillOpen t w := by
  refine h.invariant (P := fun t d => w ∈ d.backend.windows ↔ StillOpen t w) (fun _ => ?_) ?_
  · exact ⟨nofun, fun ⟨_, _, _, cut, _⟩ => by simp at cut⟩
  · intro t d c opening so _ ih after
    rw [← after, stillOpen_concat, ← ih]
    exact (Display.onWindows so.orderly.lent opening c).mem_windows_iff w

theorem StillOpen.mem (h : StillOpen t w) : w ∈ windowsOpened t := by
  obtain ⟨l, m, r, rfl, opened, -⟩ := h
  exact List.mem_filterMap.mpr ⟨m, by simp, opened⟩

/-- A window that was opened and is not there is gone for good. -/
theorem History.doomed (h : History allowed config t d) (hw : w ∈ windowsOpened t)
    (gone : d.backend.isDestroyed w = true) :
    Headless.Doomed Headless.queue w 0 d.backend :=
  ⟨(h.numbered.known hw).2, fun live => absurd live ((Headless.isDestroyed_iff _ _).mp gone)⟩

theorem Headless.Doomed.gone {b : Headless τ} (h : Doomed Headless.queue w 0 b) :
    b.isDestroyed w = true := by
  refine (isDestroyed_iff b w).mpr fun live => ?_
  obtain ⟨_, _, -, none⟩ := h.waits live
  exact absurd none (Nat.not_lt_zero _)

/-- A window that was opened and is not there is not there at any later moment. -/
theorem History.stays_destroyed (h : History allowed config t d) (hw : w ∈ windowsOpened t)
    (gone : d.backend.isDestroyed w = true) {d' : Display τ} (p : Path allowed d r d') :
    d'.backend.isDestroyed w = true :=
  ((h.doomed hw gone).path h.orderly p).gone

/-- **A destroyed window stays destroyed.** The windows that a history opens are valid and differ
from each other, and fewer than `2 ^ 59` of them have numbers that fit a word. Those that are there
are those that were opened and not destroyed since; in particular a window that was never opened is
not there. At every moment a window that was opened before and is gone stays gone, to the end of the
history; a moment that opens a window opens a new one, and a moment that destroys a window changes
the status of no other. Whatever acts on the display by calls, such as a dispatch with its handler
or a whole loop, goes on with the history. -/
theorem destroyed_windows_stay (allowed : Call τ → Prop) (config : HeadlessConfig)
    (t : List (Moment τ)) (d : Display τ) (h : History allowed config t d) :
    ((windowsOpened t).Nodup ∧ (∀ w ∈ windowsOpened t, w.isValid = true) ∧
      ((windowsOpened t).length < 2 ^ 59 → d.backend.nextWindow < 2 ^ 64 ∧
        ∀ w ∈ windowsOpened t, w.raw < 2 ^ 64)) ∧
    (∀ w, d.backend.isDestroyed w = false ↔ StillOpen t w) ∧
    (∀ w, w ∉ windowsOpened t → d.backend.isDestroyed w = true) ∧
    (∀ l m r, t = l ++ m :: r →
      (∀ w ∈ windowsOpened l, m.before.backend.isDestroyed w = true →
        m.after.backend.isDestroyed w = true ∧ d.backend.isDestroyed w = true) ∧
      (∀ w, m.opened? = some w → w ∉ windowsOpened l ∧ m.after.backend.isDestroyed w = false) ∧
      (∀ w, m.destroyed? = some w → m.after.backend.isDestroyed w = true ∧
        ∀ v, v ≠ w → m.after.backend.isDestroyed v = m.before.backend.isDestroyed v) ∧
      (m.opened? = none → m.destroyed? = none →
        ∀ w, m.after.backend.isDestroyed w = m.before.backend.isDestroyed w)) ∧
    ∀ (σ α : Type) (L : Lens σ (Display τ)) (x : Act σ α) (s : σ), x.ByCalls allowed L →
      L.get s = d → (∃ t', History allowed config (t ++ t') (L.get (x s).2)) ∧
        ∀ w ∈ windowsOpened t, d.backend.isDestroyed w = true →
          (L.get (x s).2).backend.isDestroyed w = true := by
  have numbered := h.numbered
  refine ⟨⟨numbered.nodup, fun w hw => ?_, fun few => ?_⟩, fun w => ?_, fun w unknown => ?_,
    ?_, ?_⟩
  · have positive : 0 < w.raw :=
      Nat.lt_of_lt_of_le (show 0 < Headless.firstWindow by decide) (numbered.known hw).1
    exact bne_iff_ne.mpr (Nat.ne_of_gt positive)
  · have next : d.backend.nextWindow < 2 ^ 64 := numbered.next ▸ Headless.next_fits few
    exact ⟨next, fun w hw => Nat.lt_trans (numbered.known hw).2 next⟩
  · rw [Headless.isDestroyed_eq_false_iff]
    exact h.mem_windows_iff w
  · rw [Headless.isDestroyed_iff, h.mem_windows_iff w]
    exact fun live => unknown live.mem
  · rintro l m r rfl
    obtain ⟨before, ⟨opening, hm⟩, after, behind⟩ := h.at_moment
    have step : m.OnWindows := hm ▸ Display.onWindows before.orderly.lent opening m.call
    refine ⟨fun w hw gone => ?_, fun w opened => ?_, fun w destroyed => ?_, fun ho hd w => ?_⟩
    · have now : m.after.backend.isDestroyed w = true := by
        have after : m.after = m.before.after opening m.call :=
          (congrArg Moment.after hm).trans (Moment.of_after opening before.orderly.lent m.call)
        rw [after]
        exact ((before.doomed hw gone).after m.call).gone
      have still : w ∈ windowsOpened (l ++ [m]) := by
        rw [windowsOpened_concat]
        exact List.mem_append_left _ hw
      exact ⟨now, after.stays_destroyed still now behind⟩
    · exact ⟨after.numbered.fresh opened, step.isDestroyed_of_opened opened⟩
    · have none := step.opened_eq_none destroyed
      refine ⟨step.isDestroyed_of_destroyed destroyed, fun v other => ?_⟩
      refine step.isDestroyed_eq (by simp [none]) ?_
      rw [destroyed]
      exact fun same => other (Option.some.inj same).symm
    · exact step.isDestroyed_eq (by simp [ho]) (by simp [hd])
  · rintro σ α L x s acts rfl
    obtain ⟨t', p⟩ := acts s
    exact ⟨⟨t', h.append p⟩, fun w hw gone => h.stays_destroyed hw gone p⟩

/-- Windows that are destroyed too early, twice, and by an event that waits for them to be opened;
the number that names no window is destroyed as well. -/
def demolished : List (Call Nat) :=
  [.destroyWindow ⟨0x1000⟩, .post (.destroy ⟨0x1010⟩), .send (.destroy .invalid), .createWindow,
    .createWindow, .dispatch (.done (.ok ())), .dispatch (.done (.ok ())),
    .destroyWindow ⟨0x1000⟩, .createWindow, .post (.destroy ⟨0x1000⟩), .dispatch (.done (.ok ()))]

theorem destroyed_windows_stay_demolished :
    let t := moments .nothing (.new 0 (.new .standard)) demolished
    let b := (left .nothing (.new 0 (.new .standard)) demolished).backend
    windowsOpened t = [⟨0x1000⟩, ⟨0x1010⟩, ⟨0x1020⟩] ∧ (windowsOpened t).Nodup ∧
      b.nextWindow < 2 ^ 64 ∧ b.isDestroyed ⟨0x1000⟩ = true ∧ b.isDestroyed ⟨0x1010⟩ = true ∧
      b.isDestroyed ⟨0x1020⟩ = false ∧ b.isDestroyed .invalid = true := by
  intro t b
  obtain ⟨⟨distinct, -, fits⟩, live, unknown, stays, -⟩ :=
    destroyed_windows_stay (fun _ => True) .standard t _ ⟨0, .moments _ _ fun _ _ => trivial⟩
  have opened : windowsOpened t = [⟨0x1000⟩, ⟨0x1010⟩, ⟨0x1020⟩] := rfl
  have first := (stays (t.take 8) t[8] (t.drop 9) rfl).1 ⟨0x1000⟩ (.head _) rfl
  have second := (stays (t.take 6) t[6] (t.drop 7) rfl).1 ⟨0x1010⟩ (.tail _ (.head _)) rfl
  refine ⟨opened, distinct, (fits ?_).1, first.2, second.2, (live _).mpr ?_, unknown _ ?_⟩
  · rw [opened]
    decide
  · refine ⟨t.take 8, t[8], t.drop 9, rfl, rfl, fun x hx => ?_⟩
    obtain rfl | rfl : x = t[9] ∨ x = t[10] := by simpa [t, moments, demolished] using hx
    · exact nofun
    · decide
  · rw [opened]
    decide

end DisplayEnv
