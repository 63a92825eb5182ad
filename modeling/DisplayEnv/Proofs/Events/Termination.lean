import DisplayEnv.Proofs.Events.Rounded

/-!
# A loop ends when its root's destruction waits

Handlers may put in events without end, take events themselves, fail and give up, and a loop still
ends, because every round brings one event forward: the destruction of its root. The measure is the
place of that event, not the length of the queue. For the same reason the loop never waits: when a
tick finds nothing to do, it has emptied the inbox, and the root's destruction is in the queue.

* `Heard.rounds_end`, `Heard.rounds_doomed`: there are rounds until the root is gone, and no more
  than events up to its destruction.
* `Heard.not_waits`: in none of them the loop waits.
* `Heard.rounds_standing`: when no handler interferes, exactly those events are taken.
* `loop_terminates`: all that of a nested loop.
-/

namespace DisplayEnv

variable {σ τ : Type} {S : Setting σ τ} {s s' : σ} {p p' : Pump} {root : Window}
  {allowed : Call τ → Prop} {d : Display τ} {t : List (Moment τ)} {n q : Nat}
  {l r new : List (Event τ)}

/-! ## A loop -/

namespace Setting

theorem isDestroyed_iff (root : Window) (s : σ) :
    (S.backend.get s).isDestroyed root = true ↔ root ∉ (S.display.get s).backend.windows :=
  Headless.isDestroyed_iff _ root

/-- The root is there as long as the loop goes on. -/
theorem Round.live (h : S.Round root p s p' s') : root ∈ (S.display.get s).backend.windows := by
  have live : (S.backend.get s).isDestroyed root = false := by
    cases h with
    | went live _ _ | waited live _ _ => exact live
  refine Decidable.byContradiction fun gone => ?_
  rw [(isDestroyed_iff root s).mpr gone] at live
  cases live

/-- Round by round the root's destruction comes forward. -/
theorem Heard.rounds_doomed (hS : S.Heard) (h : S.Rounds root n p s p' s')
    (orderly : (S.display.get s).Orderly)
    (doomed : Headless.Doomed Headless.pending root q (S.display.get s).backend) :
    n ≤ q ∧ (S.display.get s').Orderly ∧
      Headless.Doomed Headless.pending root (q - n) (S.display.get s').backend := by
  induction h generalizing q with
  | rest => exact ⟨Nat.zero_le q, orderly, doomed⟩
  | next round _ ih =>
    obtain ⟨_, _, -, positive⟩ := doomed.waits round.live
    obtain ⟨q, rfl⟩ : ∃ q', q = q' + 1 := ⟨q - 1, by omega⟩
    obtain ⟨t, rounded⟩ := hS.rounded round fun _ x _ _ => hS.run x
    obtain ⟨le, orderly', doomed'⟩ :=
      ih (rounded.path.orderly orderly) (rounded.doomed orderly doomed)
    rw [Nat.succ_sub_succ]
    exact ⟨Nat.succ_le_succ le, orderly', doomed'⟩

/-- **A loop ends when its root's destruction waits**, and the handlers that it starts end. -/
theorem Heard.rounds_end (hS : S.Heard) (orderly : (S.display.get s).Orderly)
    (doomed : Headless.Doomed Headless.pending root q (S.display.get s).backend)
    (ends : ∀ n p' s', S.Rounds root n p s p' s' →
      (S.backend.get s').isDestroyed root = false → S.Ends s') :
    ∃ n p' s', S.Rounds root n p s p' s' ∧ (S.backend.get s').isDestroyed root = true := by
  induction q generalizing p s with
  | zero =>
    refine ⟨0, p, s, .rest p s, (isDestroyed_iff root s).mpr fun live => ?_⟩
    obtain ⟨_, _, -, positive⟩ := doomed.waits live
    exact absurd positive (Nat.not_lt_zero _)
  | succ q ih =>
    cases live : (S.backend.get s).isDestroyed root with
    | true => exact ⟨0, p, s, .rest p s, live⟩
    | false =>
      obtain ⟨p₁, s₁, round⟩ := hS.round_exists (ends 0 p s (.rest p s) live) p live
      obtain ⟨t, rounded⟩ := hS.rounded round fun _ x _ _ => hS.run x
      have later := rounded.path.orderly orderly
      obtain ⟨n, p', s', rounds, gone⟩ := ih later (rounded.doomed orderly doomed)
        fun n p' s' rounds => ends (n + 1) p' s' (.next round rounds)
      exact ⟨n + 1, p', s', .next round rounds, gone⟩

/-- **A loop does not wait** while its root's destruction does: a tick that finds nothing to do has
emptied the inbox, so the root's destruction is in the queue. -/
theorem Heard.not_waits (hS : S.Heard) (orderly : (S.display.get s).Orderly)
    (doomed : Headless.Doomed Headless.pending root q (S.display.get s).backend)
    (live : root ∈ (S.display.get s).backend.windows) (p : Pump) : ¬ S.Waits p s := by
  rintro ⟨p', s', tick, empty⟩
  obtain ⟨sent, d₀, path, event, after⟩ := hS.tick_idle tick
  have reached := path.reached orderly
  have live₀ : root ∈ d₀.backend.windows := by
    rw [reached]
    exact live
  have doomed₀ : Headless.Doomed Headless.pending root q d₀.backend := by
    rw [reached]
    exact doomed.reached _
  obtain ⟨l, r, line, few⟩ := doomed₀.waits live₀
  have queue : (S.display.get s').backend.queue = [] := empty
  cases l with
  | nil =>
    rw [Headless.next_of_pending line] at event
    rcases event with event | event <;> cases event
  | cons e l =>
    obtain ⟨-, rest⟩ := Prod.mk.inj (Display.dispatched_scene line)
    obtain ⟨-, rest⟩ := Prod.mk.inj rest
    have full := (Prod.mk.inj rest).1
    rw [← after, queue] at full
    simp at full

/-- **A loop takes what stands before its root's destruction**, that itself, and nothing else, when
the handlers that it starts spare the root. -/
theorem Heard.rounds_standing (hS : S.Heard) (h : S.Rounds root n p s p' s')
    (orderly : (S.display.get s).Orderly)
    (standing : Headless.Standing root l r new (S.display.get s).backend)
    (first : .destroy root ∉ l)
    (spares : ∀ x, .task x ∈ l → Act.ByCalls (Call.Spares root) S.display (S.run x))
    (gone : root ∉ (S.display.get s').backend.windows) :
    n = l.length + 1 ∧ ∃ t new', Path (fun _ => True) (S.display.get s) t (S.display.get s') ∧
      taken t = l ++ [.destroy root] ∧ (S.display.get s').backend.pending = r ++ new' ∧
      new'.Perm (new ++ entered t) := by
  induction h generalizing l new with
  | rest => exact absurd standing.live gone
  | @next _ p p₁ _ s s₁ _ round rounds ih =>
    cases l with
    | nil =>
      obtain ⟨t, rounded⟩ := hS.rounded round fun _ x _ _ => hS.run x
      obtain ⟨took, left, pending⟩ := rounded.last orderly standing
      cases rounds with
      | rest => exact ⟨rfl, t, _, rounded.path, took, pending, .refl _⟩
      | next round' _ => exact absurd round'.live left
    | cons e l =>
      obtain ⟨ne, first'⟩ := List.ne_and_not_mem_of_not_mem_cons first
      obtain ⟨t, rounded⟩ : ∃ t, Rounded (Call.Spares root) (S.display.get s) t
          (S.display.get s₁) := by
        refine hS.rounded round fun s₀ x before event => spares x ?_
        obtain ⟨s', sent, before', path⟩ := hS.before_apply (.inl rfl) s
        rw [before] at before'
        cases before'
        have head := Headless.next_of_pending (standing.path orderly path).line
        obtain rfl : e = .task x := Option.some.inj (head.symm.trans event)
        exact List.mem_cons_self
      obtain ⟨took, new₁, standing₁, perm₁⟩ := rounded.standing orderly standing ne.symm
      obtain ⟨rfl, t', new', path, took', pending, perm⟩ := ih (rounded.path.orderly orderly)
        standing₁ first' (fun x hx => spares x (List.mem_cons_of_mem e hx)) gone
      refine ⟨rfl, t ++ t', new', rounded.path.append path, ?_, pending, ?_⟩
      · rw [taken_append, took, took']
        rfl
      · rw [entered_append, ← List.append_assoc]
        exact perm.trans (perm₁.append_right _)

end Setting

/-- A display in order, all of whose windows were handed out. -/
structure Display.Sound (d : Display τ) : Prop where
  orderly : d.Orderly
  issued : ∀ w ∈ d.backend.windows, w.raw < d.backend.nextWindow

/-- A display is sound throughout every history. -/
theorem History.sound {config : HeadlessConfig} (h : History allowed config t d) : d.Sound := by
  refine ⟨h.orderly, ?_⟩
  refine h.invariant (P := fun _ d => ∀ w ∈ d.backend.windows, w.raw < d.backend.nextWindow)
    (fun _ => nofun) fun t d c opening _ _ issued _ => ?_
  by_cases hc : c.OnBackend
  · cases c with
    | createWindow =>
      intro w hw
      have more : d.backend.nextWindow < d.backend.nextWindow + Headless.windowStep := by
        simp [Headless.windowStep]
      rcases List.mem_cons.mp hw with rfl | hw
      · exact more
      · exact Nat.lt_trans (issued w hw) more
    | destroyWindow _ => exact fun w hw => issued w (List.mem_filter.mp hw).1
    | dispatch _ =>
      obtain ⟨windows, next⟩ := d.dispatched_windows
      intro w hw
      exact Nat.lt_of_lt_of_eq (issued w (windows hw)) next.symm
    | sleep =>
      show ∀ w ∈ d.backend.sleep.windows, w.raw < d.backend.sleep.nextWindow
      unfold Headless.sleep
      split
      · split <;> exact issued
      · exact issued
    | post _ | send _ | pendingEvents => exact issued
    | _ => exact hc.elim
  · have same : (d.after opening c).backend.scene = d.backend.scene :=
      d.after_apart Headless.apart_scene hc
    obtain ⟨windows, rest⟩ := Prod.mk.inj same
    rw [windows, (Prod.mk.inj rest).1]
    exact issued

/-- **A loop ends once its root's destruction waits**, whatever waits before it, as long as the
handlers that it starts end. It takes at most one round for each event up to that one, and it never
waits for an event. When no handler dispatches events or destroys the root itself, it takes exactly
so many rounds and exactly those events; what stood behind them is left as it stood, and behind that
is what came meanwhile. The display need only be sound, as it is throughout every history. -/
theorem loop_terminates (σ : Type) (S : Setting σ τ) (hS : S.Heard) (s : σ)
    (sound : (S.display.get s).Sound) (root : Window) (live : root ∈ (S.backend.get s).windows)
    (l r : List (Event τ)) (line : (S.backend.get s).pending = l ++ .destroy root :: r)
    (first : .destroy root ∉ l) (pump : Pump)
    (ends : ∀ n p' s', S.Rounds root n { pump with state := .running }
      (S.note (.loopRunning root) s).2 p' s' →
        (S.backend.get s').isDestroyed root = false → S.Ends s') :
    (∀ n p' s', S.Rounds root n { pump with state := .running }
      (S.note (.loopRunning root) s).2 p' s' →
        (S.backend.get s').isDestroyed root = false → ¬ S.Waits p' s') ∧
    ∃ n p' s', n ≤ l.length + 1 ∧
      (∀ bound, l.length + 1 ≤ bound →
        S.runNested bound root pump s = (.done (.ok (), p'), s')) ∧
      (S.backend.get s').isDestroyed root = true ∧ p'.stats.ticks = pump.stats.ticks + n ∧
      ((∀ x, .task x ∈ l → Act.ByCalls (Call.Spares root) S.display (S.run x)) →
        n = l.length + 1 ∧ ∃ t new, Path (fun _ => True) (S.display.get s) t (S.display.get s') ∧
          taken t = l ++ [.destroy root] ∧ (S.backend.get s').pending = r ++ new ∧
          new.Perm (entered t)) := by
  have quiet := hS.toQuiet
  obtain ⟨s₀, told, same⟩ := quiet.note_apply (.loopRunning root) s
  have start : (S.note (.loopRunning root) s).2 = s₀ := congrArg Prod.snd told
  rw [start] at ends ⊢
  have orderly : (S.display.get s₀).Orderly := same ▸ sound.orderly
  have standing : Headless.Standing root l r [] (S.display.get s₀).backend := by
    rw [same]
    exact ⟨live, by rw [List.append_nil]; exact line⟩
  have doomed :
      Headless.Doomed Headless.pending root (l.length + 1) (S.display.get s₀).backend := by
    rw [same]
    exact ⟨sound.issued root live, fun _ => ⟨l, r, line, Nat.lt_succ_self _⟩⟩
  refine ⟨fun n p' s' rounds there => ?_, ?_⟩
  · obtain ⟨-, orderly', doomed'⟩ := hS.rounds_doomed rounds orderly doomed
    refine hS.not_waits orderly' doomed' (Decidable.byContradiction fun gone => ?_) p'
    rw [(Setting.isDestroyed_iff root s').mpr gone] at there
    cases there
  · obtain ⟨n, p₁, s₁, rounds, gone⟩ := hS.rounds_end orderly doomed ends
    obtain ⟨le, -, -⟩ := hS.rounds_doomed rounds orderly doomed
    obtain ⟨s', told', same'⟩ := quiet.note_apply (.loopStopped root p₁.stats) s₁
    refine ⟨n, { p₁ with state := .stopped }, s', le, fun bound hb => ?_, ?_, ?_, fun spares => ?_⟩
    · refine quiet.runNested_eq_ok_iff.mpr ⟨n, p₁, s₁, Nat.le_trans le hb, ?_, gone, rfl, ?_⟩
      · rw [start]
        exact rounds
      · rw [told']
    · rw [Setting.isDestroyed_iff, same', ← Setting.isDestroyed_iff]
      exact gone
    · have ticks := quiet.rounds_ticks rounds
      exact ticks
    · obtain ⟨count, t, new, path, took, pending, perm⟩ :=
        hS.rounds_standing rounds orderly standing first spares
          ((Setting.isDestroyed_iff root s₁).mp gone)
      rw [same, ← same'] at path
      refine ⟨count, t, new, path, took, ?_, perm⟩
      show (S.display.get s').backend.pending = r ++ new
      rw [same']
      exact pending

/-- Tasks of a display on its own: one fails, one puts in and sends more events, and the others
destroy a window themselves. -/
def restless : Nat → Act (Display Nat) (Except PlatformError Unit)
  | 0 => pure (.error (.dispatch "bad event"))
  | 1 => do
    let _ ← Setting.calm.call (.post (.task 0))
    let _ ← Setting.calm.call (.send .wake)
    return .ok ()
  | _ => do
    let _ ← Setting.calm.call (.destroyWindow ⟨0x1000⟩)
    return .ok ()

theorem restless_byCalls {allowed : Call Nat → Prop} {x : Nat} (post : allowed (.post (.task 0)))
    (send : allowed (.send .wake))
    (destroy : 2 ≤ x → allowed (.destroyWindow ⟨0x1000⟩)) :
    Act.ByCalls allowed .whole (restless x) := by
  have calm : Setting.calm.Handled allowed := Setting.calm_handled
  match x with
  | 0 => exact .pure _
  | 1 => exact (calm.byCalls_call post).bind fun _ => (calm.byCalls_call send).bind fun _ => .pure _
  | _ + 2 => exact (calm.byCalls_call (destroy (by omega))).bind fun _ => .pure _

theorem restless_ends (x : Nat) (d : Display Nat) : (restless x d).1 ≠ .stalled := by
  match x with
  | 0 | 1 | _ + 2 => exact nofun

theorem restless_heard : (Setting.plain .empty restless).Heard where
  toQuiet := Setting.plain_quiet .empty restless
  run _ := restless_byCalls trivial trivial fun _ => trivial
  answers _ _ _ := rfl
  sends _ _ := .pure _

/-- A display with two windows, whose destructions wait among other events. -/
def awaited : List (Call Nat) :=
  [.createWindow, .createWindow, .post (.task 0), .send .wake, .send (.task 1),
    .send (.destroy ⟨0x1010⟩), .send (.destroy ⟨0x1000⟩), .send (.task 2)]

theorem loop_terminates_restless :
    ∃ (p' : Pump) (d : Display Nat) (t : List (Moment Nat)),
      (Setting.plain .empty restless).runNested 5 ⟨0x1000⟩ .new
        (left .nothing (.new 0 (.new .standard)) awaited) = (.done (.ok (), p'), d) ∧
      p'.stats.ticks = 5 ∧
      taken t = [.task 0, .wake, .task 1, .destroy ⟨0x1010⟩, .destroy ⟨0x1000⟩] ∧
      d.backend.pending = [.task 2, .task 0, .wake] ∧ [.task 0, .wake].Perm (entered t) := by
  have history : History (fun _ => True) .standard
      (moments .nothing (.new 0 (.new .standard)) awaited)
      (left .nothing (.new 0 (.new .standard)) awaited) :=
    ⟨0, .moments _ _ fun _ _ => trivial⟩
  obtain ⟨-, n, p', d, -, run, -, ticks, sparing⟩ := loop_terminates _
    (Setting.plain .empty restless) restless_heard
    (left .nothing (.new 0 (.new .standard)) awaited) history.sound
    ⟨0x1000⟩ (by decide) [.task 0, .wake, .task 1, .destroy ⟨0x1010⟩] [.task 2] rfl (by decide) .new
    fun _ _ _ _ _ _ x _ _ => restless_ends x _
  obtain ⟨rfl, t, new, -, took, pending, perm⟩ := sparing fun x hx => by
    refine restless_byCalls trivial trivial fun more => ?_
    simp at hx
    omega
  have waiting : d.backend.pending = [.task 2, .task 0, .wake] :=
    (congrArg (fun o => o.2.backend.pending) (run 5 (Nat.le_refl 5))).symm.trans rfl
  obtain rfl : new = [.task 0, .wake] := List.append_cancel_left (pending.symm.trans waiting)
  exact ⟨p', d, t, run 5 (Nat.le_refl 5), ticks, took, waiting, perm⟩

end DisplayEnv
