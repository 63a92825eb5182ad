import DisplayEnv.Proofs.Display.Loops

/-!
# A loop goes round by round

A round of a pump's loop is a tick, and a wait when the tick found nothing. The loop has a bound on
its rounds, which makes it total; what it comes to does not depend on the bound once that is large
enough. `Rounds` leaves the bound out: so many rounds lead from one state to another.

* `loop_eq_ok_iff`: a loop ends where its rounds first reach a state without its root.
* `Quiet.rounds_ticks`: the statistics of a pump count its rounds.
-/

namespace DisplayEnv.Setting

variable {σ τ : Type} {S : Setting σ τ} {root : Window} {n m : Nat} {p p' p'' : Pump}
  {s s' s'' : σ}

/-- One round of a loop, in a state that has its root still. -/
inductive Round (S : Setting σ τ) (root : Window) (p : Pump) (s : σ) : Pump → σ → Prop
  /-- The tick took an event. -/
  | went {t : Tick} {p' : Pump} {s' : σ} (live : (S.backend.get s).isDestroyed root = false)
      (tick : S.tick p s = (.done (t, p'), s')) (busy : t ≠ .idle) : Round S root p s p' s'
  /-- The tick found nothing, and the wait after it ended. -/
  | waited {p' : Pump} {s' s'' : σ} (live : (S.backend.get s).isDestroyed root = false)
      (tick : S.tick p s = (.done (.idle, p'), s')) (wait : S.sleep s' = (.done (), s'')) :
      Round S root p s p' s''

/-- So many rounds of a loop, one after the other. -/
inductive Rounds (S : Setting σ τ) (root : Window) : Nat → Pump → σ → Pump → σ → Prop
  | rest (p : Pump) (s : σ) : Rounds S root 0 p s p s
  | next {n : Nat} {p p' p'' : Pump} {s s' s'' : σ} (round : S.Round root p s p' s')
      (rounds : Rounds S root n p' s' p'' s'') : Rounds S root (n + 1) p s p'' s''

/-! ## The loop, with its bound -/

/-- A loop whose bound is not used up: it ends when its root is gone, and goes round otherwise. -/
theorem loop_succ (S : Setting σ τ) (root : Window) (n : Nat) (p : Pump) (s : σ) :
    S.loop root (n + 1) p s =
      if (S.backend.get s).isDestroyed root then (.done (.ok (), p), s)
      else
        match S.tick p s with
        | (.done (t, p'), s') =>
          if t = .idle then
            match S.sleep s' with
            | (.done (), s'') => S.loop root n p' s''
            | (.fault c, s'') => (.done (.error c, p'), s'')
            | (.stalled, s'') => (.stalled, s'')
          else S.loop root n p' s'
        | (.fault c, s') => (.fault c, s')
        | (.stalled, s') => (.stalled, s') := by
  show (if (S.backend.get s).isDestroyed root = true then _ else _ : Act σ _) s = _
  split
  · rfl
  · rw [Act.bind_apply]
    cases S.tick p s with
    | mk o s' =>
      cases o with
      | fault c => rfl
      | stalled => rfl
      | done r =>
        obtain ⟨t, p'⟩ := r
        show (if t = .idle then _ else _ : Act σ _) s' = if t = .idle then _ else _
        split
        · rw [Act.bind_apply, Act.attempt_apply]
          cases S.sleep s' with
          | mk o s'' => cases o <;> rfl
        · rfl

/-- A round uses one of the bound up. -/
theorem Round.loop_eq (h : S.Round root p s p' s') (n : Nat) :
    S.loop root (n + 1) p s = S.loop root n p' s' := by
  rw [loop_succ]
  cases h with
  | went live tick busy => simp only [live, tick, busy, Bool.false_eq_true, if_false]
  | waited live tick wait => simp only [live, tick, wait, if_true, Bool.false_eq_true, if_false]

theorem Rounds.loop_eq (h : S.Rounds root n p s p' s') (m : Nat) :
    S.loop root (n + m) p s = S.loop root m p' s' := by
  induction h with
  | rest => rw [Nat.zero_add]
  | next round _ ih => rw [Nat.add_right_comm, round.loop_eq, ih]

/-- **A loop ends where its rounds first reach a state without its root.** -/
theorem loop_eq_ok_iff : S.loop root m p s = (.done (.ok (), p'), s') ↔
    ∃ n, n < m ∧ S.Rounds root n p s p' s' ∧ (S.backend.get s').isDestroyed root = true := by
  constructor
  · intro h
    induction m generalizing p s with
    | zero => cases h
    | succ m ih =>
      have further {p₁ : Pump} {s₁ : σ} (round : S.Round root p s p₁ s₁)
          (h : S.loop root m p₁ s₁ = (.done (.ok (), p'), s')) :
          ∃ n, n < m + 1 ∧ S.Rounds root n p s p' s' ∧
            (S.backend.get s').isDestroyed root = true := by
        obtain ⟨n, hn, rounds, gone⟩ := ih h
        exact ⟨n + 1, Nat.succ_lt_succ hn, .next round rounds, gone⟩
      rw [loop_succ] at h
      split at h
      · rename_i gone
        cases h
        exact ⟨0, Nat.succ_pos m, .rest _ _, gone⟩
      · rename_i live
        rw [Bool.not_eq_true] at live
        split at h
        · rename_i tick
          split at h
          · rename_i idle
            rw [idle] at tick
            split at h
            · rename_i wait
              exact further (.waited live tick wait) h
            · cases h
            · cases h
          · rename_i busy
            exact further (.went live tick busy) h
        · cases h
        · cases h
  · rintro ⟨n, hn, rounds, gone⟩
    obtain ⟨k, rfl⟩ : ∃ k, m = n + (k + 1) := ⟨m - n - 1, by omega⟩
    rw [rounds.loop_eq, loop_succ, if_pos gone]

/-! ## A tick -/

/-- The log is written to in a state that shows the same display. -/
theorem Quiet.note_apply (hS : S.Quiet) (n : Notice) (s : σ) :
    ∃ s', S.note n s = (.done (), s') ∧ S.display.get s' = S.display.get s := by
  obtain ⟨outcome, display⟩ := Prod.mk.inj (hS.note n s)
  exact ⟨(S.note n s).2, Prod.ext outcome rfl, display⟩

/-- A tick is an attempt to dispatch, a note about a failure, and a count. -/
theorem tick_eq (S : Setting σ τ) (p : Pump) : S.tick p = (do
    let r ← S.readAndDispatch.attempt
    let _ ← (match tickNotice? (tickOf r) with
      | some n => S.note n
      | none => pure () : Act σ Unit)
    return (tickOf r, p.count (tickOf r))) := by
  unfold tick
  congr
  funext r
  simp only
  cases tickNotice? (tickOf r) <;> rfl

/-- A tick makes of a dispatch what `tickOf` says, and counts it. -/
theorem Quiet.tick_of (hS : S.Quiet) {r : Except Fault (Except PlatformError Bool)}
    (h : S.readAndDispatch.attempt s = (.done r, s')) (p : Pump) :
    ∃ s'', S.tick p s = (.done (tickOf r, p.count (tickOf r)), s'') ∧
      S.display.get s'' = S.display.get s' := by
  unfold tick
  rw [Act.bind_apply, h]
  simp only
  cases tickNotice? (tickOf r) with
  | none => exact ⟨s', rfl, rfl⟩
  | some n =>
    obtain ⟨s'', told, same⟩ := hS.note_apply n s'
    refine ⟨s'', ?_, same⟩
    simp only [Act.bind_apply, told]
    rfl

/-- What a tick tells of its dispatch. -/
theorem Quiet.tick_inv (hS : S.Quiet) {t : Tick} (h : S.tick p s = (.done (t, p'), s'')) :
    ∃ r s', S.readAndDispatch.attempt s = (.done r, s') ∧ t = tickOf r ∧ p' = p.count t ∧
      S.display.get s'' = S.display.get s' := by
  cases hr : S.readAndDispatch.attempt s with
  | mk o s' =>
    cases o with
    | done r =>
      obtain ⟨s₁, run, same⟩ := hS.tick_of hr p
      rw [h] at run
      cases run
      exact ⟨r, s', rfl, rfl, rfl, same⟩
    | fault c =>
      unfold tick at h
      rw [Act.bind_apply, hr] at h
      cases h
    | stalled =>
      unfold tick at h
      rw [Act.bind_apply, hr] at h
      cases h

/-! ## The statistics -/

theorem ticks_count (p : Pump) (t : Tick) : (p.count t).stats.ticks = p.stats.ticks + 1 := by
  cases t <;> simp [Pump.count, PumpStats.ticks] <;> omega

/-- A round counts once. -/
theorem Quiet.round_ticks (hS : S.Quiet) (h : S.Round root p s p' s') :
    p'.stats.ticks = p.stats.ticks + 1 := by
  cases h with
  | went _ tick _ | waited _ tick _ =>
    obtain ⟨_, _, -, -, rfl, -⟩ := hS.tick_inv tick
    exact ticks_count p _

/-- **The statistics of a pump count its rounds.** -/
theorem Quiet.rounds_ticks (hS : S.Quiet) (h : S.Rounds root n p s p' s') :
    p'.stats.ticks = p.stats.ticks + n := by
  induction h with
  | rest => rfl
  | next round _ ih =>
    rw [ih, hS.round_ticks round]
    omega

/-! ## The whole loop -/

/-- **A nested loop that returns** went round until its root was gone. -/
theorem Quiet.runNested_eq_ok_iff (hS : S.Quiet) {bound : Nat} :
    S.runNested bound root p s = (.done (.ok (), p'), s') ↔ ∃ n p₁ s₁, n ≤ bound ∧
      S.Rounds root n { p with state := .running } (S.note (.loopRunning root) s).2 p₁ s₁ ∧
      (S.backend.get s₁).isDestroyed root = true ∧ p' = { p₁ with state := .stopped } ∧
      s' = (S.note (.loopStopped root p₁.stats) s₁).2 := by
  obtain ⟨s₀, told, -⟩ := hS.note_apply (.loopRunning root) s
  have run : S.runNested bound root p s =
      match S.loop root (bound + 1) { p with state := .running } s₀ with
      | (.done (.ok (), p₁), s₁) =>
        (.done (.ok (), { p₁ with state := .stopped }), (S.note (.loopStopped root p₁.stats) s₁).2)
      | (.done (.error c, p₁), s₁) => (.done (.error c, p₁), s₁)
      | (.fault c, s₁) => (.fault c, s₁)
      | (.stalled, s₁) => (.stalled, s₁) := by
    unfold runNested
    rw [Act.bind_apply, told]
    simp only
    rw [Act.bind_apply]
    cases S.loop root (bound + 1) { p with state := .running } s₀ with
    | mk o s₁ =>
      cases o with
      | fault c => rfl
      | stalled => rfl
      | done r =>
        obtain ⟨ended, p₁⟩ := r
        cases ended with
        | error c => rfl
        | ok u =>
          obtain ⟨s₂, told, -⟩ := hS.note_apply (.loopStopped root p₁.stats) s₁
          simp only [Act.bind_apply, told]
          rfl
  rw [run, told]
  constructor
  · intro h
    split at h
    · rename_i loop
      obtain ⟨n, hn, rounds, gone⟩ := loop_eq_ok_iff.mp loop
      cases h
      exact ⟨n, _, _, Nat.le_of_lt_succ hn, rounds, gone, rfl, rfl⟩
    all_goals cases h
  · rintro ⟨n, p₁, s₁, hn, rounds, gone, rfl, rfl⟩
    rw [loop_eq_ok_iff.mpr ⟨n, Nat.lt_succ_of_le hn, rounds, gone⟩]

end DisplayEnv.Setting
