import DisplayEnv.Proofs.Display.Conservation
import DisplayEnv.Proofs.Display.Failures

/-!
# What the statistics of a display count

The hits and misses of the three caches, taken together, are the lookups of the display: a call for
a color, a font, an image or the extent of a text looks up one descriptor, whatever comes of it,
unless the display was torn down, and no other call looks anything up. An entry comes with a miss,
so there are no more entries than misses, and the statistics can be added up as long as the lookups
can be counted in a word.

* `Display.counts_after`: what one call counts.
* `CountsLookups.of_history`: what is counted throughout a history.
* `statistics_add_up`: sums of statistics are exact in any order and any brackets, or overflow, and
  the total of a display counts its lookups.
-/

namespace DisplayEnv

variable {τ : Type}

/-- The moment looks up a descriptor, on a display that was not torn down. -/
def Moment.looksUp (m : Moment τ) : Bool := m.call.looksUp?.isSome && !m.before.disposed

/-- How many lookups a history has. -/
def lookupsMade (t : List (Moment τ)) : Nat := t.countP (·.looksUp)

/-- From one display to another so many lookups were counted, and no entry came without a miss. -/
structure Display.Counts (d d' : Display τ) (n : Nat) : Prop where
  lookups : d'.summed.hits + d'.summed.misses = d.summed.hits + d.summed.misses + n
  entries : d'.summed.entries + d.summed.misses ≤ d.summed.entries + d'.summed.misses

/-- **The statistics count the lookups** of a history, and can be added up unless these overflow a
word. -/
structure CountsLookups (t : List (Moment τ)) (d : Display τ) : Prop where
  total : lookupsMade t < 2 ^ 64 → ∃ s, d.stats.total = .ok s
  counted : ∀ s, d.stats.total = .ok s → s.hits + s.misses = lookupsMade t

variable {d d' : Display τ} {opening : Opening} {t : List (Moment τ)} {n : Nat}

namespace Display

/-! ## One cache -/

/-- What a cache counts is a part of the sum. -/
theorem summed_modify (d : Display τ) (sh : Shelf)
    (u : Cache sh.Key sh.Handle → Cache sh.Key sh.Handle) :
    (sh.part.modify u d).summed.plus (sh.part.get d).stats =
      d.summed.plus (u (sh.part.get d)).stats := by
  cases sh <;>
    simp only [summed, stats, CacheStats.plus, Shelf.part, Lens.modify, colorsPart, fontsPart,
      imagesPart, CacheStats.mk.injEq] <;>
    omega

theorem Counts.modify (d : Display τ) (sh : Shelf)
    {u : Cache sh.Key sh.Handle → Cache sh.Key sh.Handle} (b : Headless τ)
    (lookups : (u (sh.part.get d)).hits + (u (sh.part.get d)).misses =
      (sh.part.get d).hits + (sh.part.get d).misses + n)
    (entries : (u (sh.part.get d)).size + (sh.part.get d).misses ≤
      (sh.part.get d).size + (u (sh.part.get d)).misses) :
    d.Counts { sh.part.modify u d with backend := b } n := by
  have sum := d.summed_modify sh u
  have same : ({ sh.part.modify u d with backend := b } : Display τ).summed =
      (sh.part.modify u d).summed := rfl
  obtain ⟨es, hs, ms⟩ := CacheStats.mk.inj sum
  simp only [Cache.stats] at es hs ms
  refine ⟨?_, ?_⟩ <;> rw [same] <;> omega

/-- A call that leaves the statistics alone counts nothing. -/
theorem Counts.of_eq (same : d'.summed = d.summed) : d.Counts d' 0 :=
  ⟨by rw [same, Nat.add_zero], Nat.le_of_eq (by rw [same])⟩

/-! ## Each operation -/

theorem counts_resolve (d : Display τ) (sh : Shelf) (k : sh.Key) (make : Making τ sh.Handle) :
    d.Counts (d.resolve sh k make).2 (!d.disposed).toNat := by
  have outcome := d.resolves sh k make
  generalize d.resolve sh k make = r at outcome ⊢
  cases outcome with
  | ended ended =>
    rw [ended]
    exact .of_eq rfl
  | found live _ =>
    rw [live]
    exact .modify d sh (u := .countHit) _ (Nat.add_right_comm _ _ _) (Nat.le_refl _)
  | made live _ _ =>
    rw [live]
    exact .modify d sh _ rfl (Nat.le_of_eq (Nat.add_right_comm _ _ _))
  | refused live _ _ | gaveUp live _ _ =>
    rw [live]
    exact .modify d sh (u := .countMiss) _ rfl (Nat.le_succ _)

theorem summed_resolveScratch (d : Display τ) : d.resolveScratch.2.summed = d.summed := by
  have outcome := d.resolvesScratch
  generalize d.resolveScratch = r at outcome ⊢
  cases outcome <;> rfl

theorem counts_measured (d : Display τ) (f : Font) :
    d.Counts (d.measured f) (!d.disposed).toNat := by
  have first : d.Counts (d.resolveFont f).2 (!d.disposed).toNat := d.counts_resolve .fonts f _
  rcases d.measured_eq f with once | twice
  · rw [once]
    exact first
  · have same := (d.resolveFont f).2.summed_resolveScratch
    rw [twice]
    exact ⟨same ▸ first.lookups, same ▸ first.entries⟩

theorem counts_release (d : Display τ) (sh : Shelf) (k : sh.Key) :
    d.Counts (d.release sh k).2 0 := by
  unfold release
  split
  · refine .modify d sh _ rfl (Nat.add_le_add_right ?_ _)
    exact List.length_filter_le _ _
  · exact .of_eq rfl

theorem counts_releaseAll (d : Display τ) (sh : Shelf) : d.Counts (d.releaseAll sh) 0 :=
  .modify d sh _ rfl (Nat.add_le_add_right (Nat.zero_le _) _)

theorem counts_tornDown (d : Display τ) : d.Counts d.tornDown 0 :=
  ⟨rfl, Nat.add_le_add_right (Nat.zero_le _) _⟩

theorem summed_enumerated (d : Display τ) : d.enumerated.summed = d.summed := by
  rcases d.enumerated_eq with same | ⟨l, kept⟩
  · rw [same]
  · rw [kept]
    rfl

theorem summed_dispatched (d : Display τ) : d.dispatched.summed = d.summed := by
  unfold dispatched
  split <;> rfl

/-! ## Every call -/

/-- **A lookup on a live display is counted once**, and no other call is counted. -/
theorem counts_after (d : Display τ) (opening : Opening) (c : Call τ) :
    d.Counts (d.after opening c) (Moment.of opening c d).looksUp.toNat := by
  cases c with
  | resolveColor _ | resolveFont _ | resolveImage _ | image _ => exact d.counts_resolve _ _ _
  | textExtent f _ => exact d.counts_measured f
  | releaseColor _ | releaseFont _ | releaseImage _ => exact d.counts_release _ _
  | releaseAllColors | releaseAllFonts | releaseAllImages => exact d.counts_releaseAll _
  | scratchGc => exact .of_eq d.summed_resolveScratch
  | monitors | primaryMonitor => exact .of_eq d.summed_enumerated
  | teardown | drop =>
    unfold after
    simp only
    split
    · exact .of_eq rfl
    · exact d.counts_tornDown
  | dispatch _ => exact .of_eq d.summed_dispatched
  | invalidateMonitors | stats | createWindow | destroyWindow _ | post _ | send _ | pendingEvents
  | sleep | closeBackend => exact .of_eq rfl

end Display

/-! ## Every history -/

theorem lookupsMade_concat (t : List (Moment τ)) (m : Moment τ) :
    lookupsMade (t ++ [m]) = lookupsMade t + m.looksUp.toNat := by
  cases h : m.looksUp <;> simp [lookupsMade, List.countP_append, h]

theorem Display.counts_history {allowed : Call τ → Prop} {config : HeadlessConfig}
    (h : History allowed config t d) :
    d.summed.hits + d.summed.misses = lookupsMade t ∧ d.summed.entries ≤ d.summed.misses := by
  refine h.invariant (P := fun t d => d.summed.hits + d.summed.misses = lookupsMade t ∧
    d.summed.entries ≤ d.summed.misses) (fun _ => ⟨rfl, Nat.le_refl _⟩) ?_
  intro t d c opening _ _ ⟨counted, entered⟩ _
  have one := d.counts_after opening c
  refine ⟨?_, ?_⟩
  · rw [one.lookups, counted, lookupsMade_concat]
  · have := one.entries
    omega

theorem CountsLookups.of_history {allowed : Call τ → Prop} {config : HeadlessConfig}
    (h : History allowed config t d) : CountsLookups t d := by
  obtain ⟨counted, entered⟩ := Display.counts_history h
  refine ⟨fun few => ?_, fun s hs => ?_⟩
  · have few : lookupsMade t < UInt64.size := few
    have fits : d.summed.Fits := ⟨by omega, by omega, by omega⟩
    exact ⟨d.summed, DisplayStats.total_eq_ok.mpr ⟨fits, rfl⟩⟩
  · rw [(DisplayStats.total_eq_ok.mp hs).2]
    exact counted

/-- Looking at the statistics between two calls shows them, and changes nothing. -/
theorem Setting.stats_apply {σ : Type} (S : Setting σ τ) {s : σ}
    (unlent : (S.display.get s).lent = []) : S.stats s = (.done (S.display.get s).stats, s) := by
  show (if (S.display.get s).lent.isEmpty = true then _ else _ : Act σ DisplayStats) s = _
  rw [if_pos (by rw [unlent]; rfl)]
  rfl

/-- **Statistics add up exactly, or overflow**, in any order and any brackets. After every history
the total of a display is the number of lookups made while it was not torn down. -/
theorem statistics_add_up :
    (∀ l : List CacheStats,
      (CacheStats.sum l = .error (.overflow .add) ↔ 2 ^ 64 ≤ (l.map (·.entries)).sum ∨
        2 ^ 64 ≤ (l.map (·.hits)).sum ∨ 2 ^ 64 ≤ (l.map (·.misses)).sum) ∧
      (CacheStats.sum l ≠ .error (.overflow .add) → CacheStats.sum l =
        .ok ⟨(l.map (·.entries)).sum, (l.map (·.hits)).sum, (l.map (·.misses)).sum⟩)) ∧
    (∀ l l' : List CacheStats, l.Perm l' → CacheStats.sum l = CacheStats.sum l') ∧
    (∀ (a : Addition) (l : List CacheStats), a.terms.Perm l → (∀ s ∈ l, s.Fits) →
      a.result = CacheStats.sum l) ∧
    (∀ s : DisplayStats, s.total = CacheStats.sum [s.colors, s.fonts, s.images]) ∧
    ∀ (τ : Type) (allowed : Call τ → Prop) (config : HeadlessConfig) (t : List (Moment τ))
      (d : Display τ), History allowed config t d → CountsLookups t d ∧
        ∀ (σ : Type) (S : Setting σ τ) (s : σ), S.display.get s = d →
          S.stats s = (.done d.stats, s) ∧
          (S.Quiet → ∀ c, allowed c → ∃ m : Moment τ, m.call = c ∧ m.before = d ∧
            CountsLookups (t ++ [m]) (S.display.get (S.call c s).2)) := by
  refine ⟨fun l => ?_, fun l l' => CacheStats.sum_perm, fun a l => a.result_eq_sum,
    DisplayStats.total_eq_sum, fun τ allowed config t d h => ⟨.of_history h, ?_⟩⟩
  · rw [CacheStats.sum_eq_checked]
    by_cases fits : (CacheStats.exactSum l).Fits
    · rw [CacheStats.checked_of_fits fits]
      obtain ⟨entries, hits, misses⟩ := fits
      refine ⟨⟨nofun, ?_⟩, fun _ => rfl⟩
      rintro (large | large | large)
      · exact absurd entries (Nat.not_lt.mpr large)
      · exact absurd hits (Nat.not_lt.mpr large)
      · exact absurd misses (Nat.not_lt.mpr large)
    · rw [CacheStats.checked_of_not_fits fits]
      refine ⟨⟨fun _ => ?_, fun _ => rfl⟩, fun other => absurd rfl other⟩
      by_contra small
      simp only [not_or, Nat.not_le] at small
      exact fits small
  · rintro σ S s rfl
    refine ⟨S.stats_apply h.orderly.lent, fun hS c hc => ?_⟩
    obtain ⟨opening, after⟩ := hS.call_after c s
    refine ⟨.of opening c (S.display.get s), rfl, rfl, .of_history (h.append ?_)⟩
    rw [after]
    exact .single hc opening _

/-- Calls of which one finds and one is refused, one measures, and one comes too late. -/
def attended : List (Call Nat) :=
  [.resolveColor .black, .resolveColor .black, .resolveFont (.plain "" 12), .scratchGc, .stats,
    .textExtent (.plain "Sans" 9) "text", .image ⟨"nowhere", none⟩, .teardown,
    .resolveColor .white]

/-- Three statistics with one entry too many; the two that are added first still fit. -/
def overfull : Addition :=
  .both (.one ⟨1, 5, 0⟩) (.both (.one ⟨2 ^ 63 - 1, 0, 7⟩) (.one ⟨2 ^ 63, 0, 0⟩))

theorem statistics_add_up_overfull :
    overfull.result = .error (.overflow .add) ∧
      CountsLookups (moments .nothing (.new 0 (.new .standard)) attended)
        (left .nothing (.new 0 (.new .standard)) attended) ∧
      lookupsMade (moments .nothing (.new 0 (.new .standard)) attended) = 5 := by
  obtain ⟨sums, -, additions, -, displays⟩ := statistics_add_up
  refine ⟨?_, ?_, rfl⟩
  · rw [additions overfull [⟨2 ^ 63, 0, 0⟩, ⟨1, 5, 0⟩, ⟨2 ^ 63 - 1, 0, 7⟩] (by decide) (by decide)]
    exact (sums _).1.mpr (.inl (by decide))
  · exact (displays Nat (fun _ => True) .standard _ _ ⟨0, .moments _ _ fun _ _ => trivial⟩).1

end DisplayEnv
