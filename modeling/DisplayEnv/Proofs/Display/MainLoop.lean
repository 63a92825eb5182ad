import DisplayEnv.Proofs.Display.Apart
import DisplayEnv.Proofs.Display.Rounds
import DisplayEnv.Proofs.Display.TeardownOrder

/-!
# A main loop ends in one teardown

The main loop tears the display down when it ends. Its handlers may have done so before, or may have
run main loops of their own, and they may go on using the display after that; what is left at the
end is the same: nothing is held, nothing is live, and the connection is the last thing that was
entered in the journal, once.

* `History.ended`: what a display is that was torn down, however and whenever.
* `main_loop_ends`: what a main loop leaves, however it ends.
-/

namespace DisplayEnv

variable {σ τ : Type} {S : Setting σ τ} {d : Display τ} {t : List (Moment τ)}
  {config : HeadlessConfig}

/-- Nothing is left of a display that was torn down. -/
structure Display.Ended (d : Display τ) : Prop where
  disposed : d.disposed = true
  colors : d.colors.entries = []
  fonts : d.fonts.entries = []
  images : d.images.entries = []
  scratch : d.scratch = none
  live : d.backend.liveHandles = 0
  /-- The connection was closed once, and last. -/
  journal : ∃ l, d.backend.journal = l ++ [.connection] ∧ .connection ∉ l

/-- A display that owes nothing has empty caches. -/
theorem Display.entries_of_owed (h : d.owed = []) (sh : Shelf) : (sh.part.get d).entries = [] := by
  have shelved : d.shelved sh = [] := by
    have p := d.owed_perm sh
    rw [h] at p
    exact (List.append_eq_nil_iff.mp p.symm.eq_nil).1
  exact List.map_eq_nil_iff.mp (List.map_eq_nil_iff.mp shelved)

/-- **What a display is that was torn down**, throughout its history. -/
theorem History.ended (h : History Call.Own config t d) (hd : d.disposed = true) : d.Ended := by
  have balanced := Balanced.of_history h
  obtain ⟨owed, -⟩ := balanced.ended hd
  obtain ⟨l, scratch, cached, journal⟩ := (Shaped.of_history h).ended hd
  constructor
  case disposed => exact hd
  case colors => exact Display.entries_of_owed owed .colors
  case fonts => exact Display.entries_of_owed owed .fonts
  case images => exact Display.entries_of_owed owed .images
  case scratch =>
    have none := (List.append_eq_nil_iff.mp owed).2
    simpa using none
  case live =>
    have live := balanced.live
    rw [owed] at live
    rw [Headless.liveHandles, live.eq_nil]
    rfl
  case journal =>
    refine ⟨l ++ scratch.toList.map .gc, by rw [journal, List.append_assoc], fun hc => ?_⟩
    rcases List.mem_append.mp hc with hc | hc
    · exact cached .connection hc
    · simp at hc

namespace Setting

/-- A teardown never gives up between calls. -/
theorem Quiet.teardown_apply (hS : S.Quiet) {s : σ} (lent : (S.display.get s).lent = []) :
    ∃ first s', S.teardown s = (.done first, s') ∧
      S.display.get s' = if (S.display.get s).disposed then S.display.get s
        else (S.display.get s).tornDown := by
  have run : ((S.teardown s).1, S.display.get (S.teardown s).2) =
      (Setting.alone .nothing).teardown (S.display.get s) := hS.teardown
  rw [alone_teardown lent] at run
  split at run
  all_goals
    rename_i hd
    obtain ⟨outcome, after⟩ := Prod.mk.inj run
    refine ⟨_, (S.teardown s).2, Prod.ext outcome rfl, ?_⟩
    simp only [hd]
    exact after

/-- A main loop is the loop and then the teardown, which does not change how the loop ended. -/
theorem Quiet.runMain_of (hS : S.Quiet) {bound : Nat} {root : Window} {p p' : Pump} {s s' : σ}
    {ended : Except Fault Unit} (loop : S.runNested bound root p s = (.done (ended, p'), s'))
    (lent : (S.display.get s').lent = []) :
    ∃ s'', S.runMain bound root p s = (.done (ended, p'), s'') ∧
      S.display.get s'' = if (S.display.get s').disposed then S.display.get s'
        else (S.display.get s').tornDown := by
  obtain ⟨first, s'', run, after⟩ := hS.teardown_apply lent
  refine ⟨s'', ?_, after⟩
  unfold runMain
  simp only [Act.bind_apply, loop, Act.attempt_apply, run]
  rfl

/-- A main loop that ends has torn the display down after its loop. -/
theorem Quiet.runMain_inv (hS : S.Quiet) {bound : Nat} {root : Window} {p p' : Pump} {s s'' : σ}
    {ended : Except Fault Unit} (run : S.runMain bound root p s = (.done (ended, p'), s''))
    (lent : (S.display.get (S.runNested bound root p s).2).lent = []) :
    ∃ s', S.runNested bound root p s = (.done (ended, p'), s') ∧
      S.display.get s'' = if (S.display.get s').disposed then S.display.get s'
        else (S.display.get s').tornDown := by
  cases loop : S.runNested bound root p s with
  | mk o s' =>
    rw [loop] at lent
    cases o with
    | done r =>
      obtain ⟨s₁, run', after⟩ := hS.runMain_of loop lent
      rw [run] at run'
      cases run'
      exact ⟨s', rfl, after⟩
    | fault c | stalled =>
      unfold runMain at run
      rw [Act.bind_apply, loop] at run
      cases run

end Setting

/-- The windows and the waiting events have nothing to do with resources. -/
theorem Headless.apart_waiting :
    Headless.Apart fun b : Headless τ => (b.windows, b.pending) where
  allocate b b' n h := by
    obtain ⟨-, -, rfl⟩ := allocate_eq h
    rfl
  giveBack _ _ := rfl
  close b := by
    unfold close
    split <;> rfl

/-- A teardown leaves the windows and the waiting events as they were. -/
theorem Display.waiting_of_teardown (d : Display τ) :
    ((if d.disposed then d else d.tornDown).backend.windows,
      (if d.disposed then d else d.tornDown).backend.pending) =
        (d.backend.windows, d.backend.pending) := by
  split
  · rfl
  · exact d.tornDown_apart Headless.apart_waiting

/-- **A main loop ends in one teardown**, however it ends and whatever its handlers do, as long as
they act by the display's own calls. When it returns, its root is gone and the pump is stopped. When
the root is gone from the start, it returns at once and takes no event. -/
theorem main_loop_ends (σ : Type) (S : Setting σ τ) (s : σ) (config : HeadlessConfig)
    (t : List (Moment τ)) (h : History Call.Own config t (S.display.get s))
    (hS : S.Handled Call.Own) (bound : Nat) (root : Window) (pump : Pump) :
    (∀ ended p' s', S.runMain bound root pump s = (.done (ended, p'), s') →
      (S.display.get s').Ended ∧
      (ended = .ok () → (S.backend.get s').isDestroyed root = true ∧ p'.state = .stopped)) ∧
    ((S.backend.get s).isDestroyed root = true →
      ∃ s', S.runMain bound root pump s = (.done (.ok (), { pump with state := .stopped }), s') ∧
        (S.backend.get s').pending = (S.backend.get s).pending) := by
  have quiet := hS.toQuiet
  have lent : (S.display.get (S.runNested bound root pump s).2).lent = [] := by
    obtain ⟨t', path⟩ := hS.runNested (fun _ => trivial) trivial bound root pump s
    exact (h.append path).orderly.lent
  refine ⟨fun ended p' s' run => ?_, fun gone => ?_⟩
  · obtain ⟨s₁, loop, after⟩ := quiet.runMain_inv run lent
    refine ⟨?_, ?_⟩
    · obtain ⟨t', later⟩ := History.runMain hS h bound root pump
      rw [run] at later
      refine later.ended ?_
      rw [after]
      split
      · assumption
      · rfl
    · rintro rfl
      obtain ⟨_, p₂, s₂, -, -, gone, rfl, rfl⟩ := quiet.runNested_eq_ok_iff.mp loop
      obtain ⟨s₃, told, same⟩ := quiet.note_apply (.loopStopped root p₂.stats) s₂
      refine ⟨?_, rfl⟩
      show (S.display.get s').backend.isDestroyed root = true
      rw [told] at after
      have windows := (Prod.mk.inj (S.display.get s₃).waiting_of_teardown).1
      rw [← after, same] at windows
      rw [Headless.isDestroyed, windows]
      exact gone
  · -- the loop goes round not once
    obtain ⟨s₀, told, same⟩ := quiet.note_apply (.loopRunning root) s
    have loop : S.runNested bound root pump s = (.done (.ok (), { pump with state := .stopped }),
        (S.note (.loopStopped root pump.stats) s₀).2) := by
      refine quiet.runNested_eq_ok_iff.mpr ⟨0, { pump with state := .running }, s₀, Nat.zero_le _,
        ?_, ?_, rfl, rfl⟩
      · rw [told]
        exact .rest _ _
      · show (S.display.get s₀).backend.isDestroyed root = true
        rw [same]
        exact gone
    rw [loop] at lent
    obtain ⟨s', run, after⟩ := quiet.runMain_of loop lent
    obtain ⟨s₁, told', same'⟩ := quiet.note_apply (.loopStopped root pump.stats) s₀
    refine ⟨s', run, ?_⟩
    rw [told', same', same] at after
    have pending := (Prod.mk.inj (S.display.get s).waiting_of_teardown).2
    rwa [← after] at pending

/-- Tasks of a display on its own: one fails, one gives up, one makes a color, one runs a main loop
inside the main loop, and the others tear the display down. -/
def unruly : Nat → Act (Display Nat) (Except PlatformError Unit)
  | 0 => pure (.error (.dispatch "bad event"))
  | 1 => Act.fault (.raised (some "handler exploded"))
  | 2 => do let _ ← Setting.calm.call (.resolveColor .white); return .ok ()
  | 3 => do let _ ← Setting.calm.runMain 2 ⟨0⟩ .new; return .ok ()
  | _ => do let _ ← Setting.calm.call .teardown; return .ok ()

theorem unruly_byCalls (x : Nat) : Act.ByCalls Call.Own .whole (unruly x) := by
  have calm : (Setting.calm : Setting (Display Nat) Nat).Handled Call.Own := Setting.calm_handled
  match x with
  | 0 => exact .pure _
  | 1 => exact .of_get_eq fun _ => rfl
  | 2 => exact (calm.byCalls_call (c := .resolveColor .white) trivial).bind fun _ => .pure _
  | 3 =>
    exact (calm.runMain (fun _ => trivial) trivial trivial 2 ⟨0⟩ .new).bind fun _ => .pure _
  | _ + 4 => exact (calm.byCalls_call (c := .teardown) trivial).bind fun _ => .pure _

/-- A display with a font and a window, and all those tasks before and behind the end of that. -/
def crowded : List (Call Nat) :=
  [.createWindow, .resolveFont (.plain "Sans" 12), .post (.task 0), .post (.task 1),
    .post (.task 2), .post (.task 3), .post (.task 2), .send .wake, .send (.destroy ⟨0x1000⟩),
    .send (.task 4)]

theorem main_loop_ends_unruly :
    ∃ s' : Display Nat, (Setting.plain .empty unruly).runMain 9 ⟨0x1000⟩ .new
        (left .nothing (.new 0 (.new .standard)) crowded) =
          (.done (.ok (), ⟨.stopped, ⟨4, 1, 2⟩⟩), s') ∧
      s'.Ended ∧ s'.backend.isDestroyed ⟨0x1000⟩ = true ∧
      s'.backend.journal = [.font 1, .color 2, .connection] ∧
      s'.backend.pending = [.task 4] := by
  have run : (Setting.plain .empty unruly).runMain 9 ⟨0x1000⟩ .new
      (left .nothing (.new 0 (.new .standard)) crowded) =
        (.done (.ok (), ⟨.stopped, ⟨4, 1, 2⟩⟩), ((Setting.plain .empty unruly).runMain 9 ⟨0x1000⟩
          .new (left .nothing (.new 0 (.new .standard)) crowded)).2) := by rfl
  have ends := (main_loop_ends _ (Setting.plain .empty unruly)
    (left .nothing (.new 0 (.new .standard)) crowded) .standard _
    ⟨0, .moments _ _ (by simp [crowded, Call.Own])⟩ (Setting.plain_handled unruly_byCalls)
    9 ⟨0x1000⟩ .new).1 _ _ _ run
  exact ⟨_, run, ends.1, (ends.2 rfl).1, rfl, rfl⟩

end DisplayEnv
