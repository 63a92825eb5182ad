import DisplayEnv.Proofs.Pumps.Worked
import Mathlib.Algebra.GroupWithZero.Nat

/-!
# The accounts of the pumps

The statistics of a pump are an account of its ticks, and a pump that is at work is in one hand
only. So while a handler runs, it cannot be used for the ticks that are made inside, and those are
on the accounts of other pumps (`Tallied.under`). With the pump in hand put back in thought
(`Pumps.whole`), every step adds to each account what its own ticks answered, and to all of them
together the tasks and the destructions that were taken.

* `Tallied`: what a step, or a run, does to the accounts.
* `Worked.tallied`: every run is tallied.
-/

namespace DisplayEnv

variable {σ τ : Type}

/-! ## Statistics -/

/-- The tick met a failure. -/
def Tick.isFailed : Tick → Bool
  | .failed _ => true
  | _ => false

namespace PumpStats

/-- The ticks that took a task or a destruction. -/
def busy (s : PumpStats) : Nat := s.dispatched + s.failures

/-- The statistics after some more ticks. -/
def after (s : PumpStats) (ticks : List Tick) : PumpStats where
  dispatched := s.dispatched + ticks.count .dispatched
  idle := s.idle + ticks.count .idle
  failures := s.failures + ticks.countP Tick.isFailed

variable (s : PumpStats) (ticks more : List Tick)

@[simp] theorem after_nil : s.after [] = s := rfl

theorem after_append : s.after (ticks ++ more) = (s.after ticks).after more := by
  simp [after, Nat.add_assoc]

theorem ticks_after : (s.after ticks).ticks = s.ticks + ticks.length := by
  induction ticks generalizing s with
  | nil => rfl
  | cons r rest ih =>
    have one : (s.after [r]).ticks = s.ticks + 1 := by
      cases r <;> simp [after, PumpStats.ticks, Tick.isFailed] <;> omega
    rw [show r :: rest = [r] ++ rest from rfl, after_append, ih, one, List.length_append]
    simp [Nat.add_assoc]

/-- Statistics that are the same after some ticks: there were none. -/
theorem eq_nil_of_after (h : s = s.after ticks) : ticks = [] := by
  have same := congrArg PumpStats.ticks h
  rw [ticks_after] at same
  exact List.eq_nil_of_length_eq_zero (by omega)

theorem busy_after : (s.after ticks).busy = s.busy + ticks.countP (· ≠ .idle) := by
  induction ticks generalizing s with
  | nil => rfl
  | cons r rest ih =>
    have one : (s.after [r]).busy = s.busy + [r].countP (· ≠ .idle) := by
      cases r <;> simp [after, busy, Tick.isFailed] <;> omega
    rw [show r :: rest = [r] ++ rest from rfl, after_append, ih, one, List.countP_append]
    omega

end PumpStats

theorem Pump.stats_count (p : Pump) (r : Tick) : (p.count r).stats = p.stats.after [r] := by
  cases r <;> rfl

/-! ## Pumps at their places -/

namespace Pumps

/-- The statistics of the pump at a place; nothing was counted where there is none. -/
def counted (l : Pumps) (i : Nat) : PumpStats :=
  match l[i]? with
  | some (some p) => p.stats
  | _ => .zero

/-- The busy ticks of all pumps. -/
def busy (l : Pumps) : Nat := (l.map fun p => (p.elim PumpStats.zero Pump.stats).busy).sum

/-- The pumps, with the one in hand at its place. -/
def whole (l : Pumps) : Hand → Pumps
  | some (i, p) => l.set i (some p)
  | none => l

/-- The pump in hand is not at its place. -/
def Out (l : Pumps) (hand : Hand) : Prop := ∀ i p, hand = some (i, p) → l[i]? = some none

variable {l : Pumps} {i j : Nat} {p : Pump}

theorem counted_set (away : l[i]? = some none) (p : Pump) (j : Nat) :
    counted (l.set i (some p)) j = if j = i then p.stats else counted l j := by
  unfold counted
  rw [List.getElem?_set]
  obtain ⟨inside, -⟩ := List.getElem?_eq_some_iff.mp away
  by_cases same : i = j
  · subst same
    simp [inside]
  · rw [if_neg same, if_neg (Ne.symm same)]

theorem set_empty : (l.set i (some p))[j]? = some none ↔ i ≠ j ∧ l[j]? = some none := by
  rw [List.getElem?_set]
  by_cases same : i = j
  · subst same
    by_cases inside : i < l.length <;> simp [inside]
  · simp [same]

theorem busy_set (away : l[i]? = some none) (p : Pump) :
    busy (l.set i (some p)) = busy l + p.stats.busy := by
  induction l generalizing i with
  | nil => cases away
  | cons q l ih =>
    cases i with
    | zero =>
      obtain rfl : q = none := Option.some.inj away
      simp [busy, PumpStats.busy, PumpStats.zero, Nat.add_comm]
    | succ i =>
      have rest := ih (i := i) away
      unfold busy at rest ⊢
      simp only [List.set_cons_succ, List.map_cons, List.sum_cons, rest]
      omega

theorem set_of_getElem? {x : Option Pump} (there : l[i]? = some x) : l.set i x = l := by
  obtain ⟨inside, rfl⟩ := List.getElem?_eq_some_iff.mp there
  exact List.set_getElem_self inside

end Pumps

/-! ## The log -/

/-- A task or a destruction; nothing is to do for a wake. -/
def Event.isWork : Event τ → Bool
  | .wake => false
  | _ => true

/-- What the ticks of a pump answered, in their order. -/
def ticksOf (i : Nat) (log : List (Happening τ)) : List Tick :=
  log.filterMap fun x => (x.tick?.filter (·.1 = i)).map (·.2)

/-- How many tasks and destructions were taken. -/
def works (log : List (Happening τ)) : Nat := (taken (log.map (·.moment))).countP Event.isWork

variable {log log' : List (Happening τ)} {x : Happening τ} {m : Moment τ} {r : Tick}
  {l l' l'' : Pumps} {hand hand' hand'' : Hand} {i : Nat} {p p' : Pump}

theorem ticksOf_append (i : Nat) (log log' : List (Happening τ)) :
    ticksOf i (log ++ log') = ticksOf i log ++ ticksOf i log' := List.filterMap_append

theorem works_append (log log' : List (Happening τ)) :
    works (log ++ log') = works log + works log' := by
  rw [works, List.map_append, taken_append, List.countP_append]
  rfl

/-- A busy tick took one, and an idle one none. -/
theorem Moment.Comes.works (comes : m.Comes r) (tick? : Option (Nat × Tick)) :
    works [⟨m, tick?⟩] = [r].countP (· ≠ .idle) := by
  have one : DisplayEnv.works [⟨m, tick?⟩] = m.taken?.toList.countP Event.isWork := by
    show (taken [m]).countP Event.isWork = _
    cases h : m.taken? <;> simp [taken, h]
  rw [one, List.countP_singleton]
  by_cases idle : r = .idle
  · rcases comes.idle.mp idle with nothing | nothing <;> rw [nothing] <;> simp [idle, Event.isWork]
  · have some : ∃ e, m.taken? = some e ∧ e.isWork = true := by
      cases taken : m.taken? with
      | none => exact absurd (comes.idle.mpr (.inl taken)) idle
      | some e =>
        cases e with
        | wake => exact absurd (comes.idle.mpr (.inr taken)) idle
        | task t => exact ⟨_, rfl, rfl⟩
        | destroy w => exact ⟨_, rfl, rfl⟩
    obtain ⟨e, found, work⟩ := some
    rw [found]
    simp [idle, work]

/-- What a step does to the accounts of the pumps. -/
structure Tallied (l : Pumps) (hand : Hand) (log : List (Happening τ)) (l' : Pumps)
    (hand' : Hand) : Prop where
  out : l'.Out hand'
  /-- A pump that is at work elsewhere is not put back. -/
  away : ∀ i : Nat, l[i]? = some none → (∀ p, hand ≠ some (i, p)) →
    l'[i]? = some none ∧ ∀ p, hand' ≠ some (i, p)
  /-- No pump is lost. -/
  kept : ∀ i : Nat, (l'.whole hand')[i]? = some none → (l.whole hand)[i]? = some none
  /-- On the account of every pump there are its own ticks. -/
  counted : ∀ i, (l'.whole hand').counted i = ((l.whole hand).counted i).after (ticksOf i log)
  /-- All together are the tasks and destructions that were taken. -/
  busy : (l'.whole hand').busy = (l.whole hand).busy + works log

namespace Tallied

theorem trans (h : Tallied l hand log l' hand') (h' : Tallied l' hand' log' l'' hand'') :
    Tallied l hand (log ++ log') l'' hand'' where
  out := h'.out
  away i empty other :=
    have ⟨empty, other⟩ := h.away i empty other
    h'.away i empty other
  kept i empty := h.kept i (h'.kept i empty)
  counted i := by rw [h'.counted, h.counted, ticksOf_append, PumpStats.after_append]
  busy := by rw [h'.busy, h.busy, works_append, Nat.add_assoc]

/-- A step that is no tick and leaves the pumps alone. -/
theorem rest (out : l.Out hand) (ticks : ∀ i, ticksOf i log = []) (none : works log = 0) :
    Tallied l hand log l hand where
  out := out
  away _ empty other := ⟨empty, other⟩
  kept _ empty := empty
  counted i := by rw [ticks i, PumpStats.after_nil]
  busy := by rw [none, Nat.add_zero]

/-- A step that moves a pump. -/
theorem moved (out : l'.Out hand')
    (away : ∀ i : Nat, l[i]? = some none → (∀ p, hand ≠ some (i, p)) →
      l'[i]? = some none ∧ ∀ p, hand' ≠ some (i, p))
    (whole : l'.whole hand' = l.whole hand) :
    Tallied l hand ([] : List (Happening τ)) l' hand' where
  out := out
  away := away
  kept _ empty := whole ▸ empty
  counted i := congrArg (Pumps.counted · i) whole
  busy := congrArg Pumps.busy whole

theorem made (l : Pumps) :
    Tallied l none ([] : List (Happening τ)) (l ++ [some .new]) none where
  out := nofun
  away i empty _ := by
    obtain ⟨inside, -⟩ := List.getElem?_eq_some_iff.mp empty
    exact ⟨(List.getElem?_append_left inside).trans empty, nofun⟩
  kept j empty := by
    show l[j]? = some none
    have empty : (l ++ [some .new])[j]? = some none := empty
    rw [List.getElem?_append] at empty
    split at empty
    · exact empty
    · simp [List.getElem?_singleton] at empty
  counted i := by
    show Pumps.counted (l ++ [some .new]) i = l.counted i
    unfold Pumps.counted
    by_cases inside : i < l.length
    · rw [List.getElem?_append_left inside]
    · have outside := Nat.le_of_not_lt inside
      rw [List.getElem?_append_right outside, List.getElem?_eq_none outside,
        List.getElem?_singleton]
      by_cases last : i - l.length = 0
      · rw [if_pos last]
        rfl
      · rw [if_neg last]
  busy := by
    show Pumps.busy (l ++ [some .new]) = l.busy
    simp [Pumps.busy, Pump.new, PumpStats.busy, PumpStats.zero]

theorem taken (there : l[i]? = some (some p)) :
    Tallied l none ([] : List (Happening τ)) (l.set i none) (some (i, p)) := by
  obtain ⟨inside, -⟩ := List.getElem?_eq_some_iff.mp there
  refine .moved ?_ (fun j empty _ => ?_) ?_
  · rintro _ _ ⟨⟩
    exact List.getElem?_set_self inside
  · have ne : i ≠ j := by
      rintro rfl
      rw [there] at empty
      cases empty
    exact ⟨(List.getElem?_set_ne ne).trans empty, fun q same => ne (by cases same; rfl)⟩
  · show (l.set i none).set i (some p) = l
    rw [List.set_set, Pumps.set_of_getElem? there]

theorem back (l : Pumps) (i : Nat) (p : Pump) :
    Tallied l (some (i, p)) ([] : List (Happening τ)) (l.set i (some p)) none := by
  refine .moved nofun (fun j empty other => ?_) rfl
  have ne : i ≠ j := by
    rintro rfl
    exact other p rfl
  exact ⟨(List.getElem?_set_ne ne).trans empty, nofun⟩

/-- The pump in hand counts its ticks. -/
theorem count (out : l.Out (some (i, p))) {ticks : List Tick}
    (stats : p'.stats = p.stats.after ticks) (own : ticksOf i log = ticks)
    (others : ∀ j, j ≠ i → ticksOf j log = []) (taken : works log = ticks.countP (· ≠ .idle)) :
    Tallied l (some (i, p)) log l (some (i, p')) := by
  have empty : l[i]? = some none := out i p rfl
  constructor
  case out =>
    rintro _ _ ⟨⟩
    exact empty
  case away => exact fun j away other => ⟨away, fun q same => other p (by cases same; rfl)⟩
  case kept => exact fun j away => Pumps.set_empty.mpr (Pumps.set_empty.mp away)
  case counted =>
    intro j
    show Pumps.counted (l.set i (some p')) j = (Pumps.counted (l.set i (some p)) j).after _
    rw [Pumps.counted_set empty, Pumps.counted_set empty]
    by_cases same : j = i
    · rw [if_pos same, if_pos same, same, own, stats]
    · rw [if_neg same, if_neg same, others j same, PumpStats.after_nil]
  case busy =>
    show Pumps.busy (l.set i (some p')) = Pumps.busy (l.set i (some p)) + _
    rw [Pumps.busy_set empty, Pumps.busy_set empty, stats, PumpStats.busy_after, taken,
      Nat.add_assoc]

/-- **What is done while a pump is in hand** is on the accounts of other pumps. -/
theorem under (h : Tallied l none log l' none) (out : l.Out hand) :
    Tallied l hand log l' hand := by
  match hand with
  | none => exact h
  | some (i, p) =>
    have empty : l[i]? = some none := out i p rfl
    have empty' : l'[i]? = some none := (h.away i empty nofun).1
    have none : ticksOf i log = [] := by
      have same : l'.counted i = (l.counted i).after (ticksOf i log) := h.counted i
      unfold Pumps.counted at same
      rw [empty, empty'] at same
      exact PumpStats.eq_nil_of_after _ _ same
    constructor
    case out =>
      rintro _ _ ⟨⟩
      exact empty'
    case away => exact fun j away other => ⟨(h.away j away nofun).1, other⟩
    case kept =>
      intro j away
      obtain ⟨ne, away⟩ := Pumps.set_empty.mp away
      exact Pumps.set_empty.mpr ⟨ne, h.kept j away⟩
    case counted =>
      intro j
      show Pumps.counted (l'.set i (some p)) j = (Pumps.counted (l.set i (some p)) j).after _
      rw [Pumps.counted_set empty, Pumps.counted_set empty']
      by_cases same : j = i
      · rw [if_pos same, if_pos same, same, none, PumpStats.after_nil]
      · rw [if_neg same, if_neg same]
        exact h.counted j
    case busy =>
      show Pumps.busy (l'.set i (some p)) = Pumps.busy (l.set i (some p)) + _
      have inner : Pumps.busy l' = Pumps.busy l + works log := h.busy
      rw [Pumps.busy_set empty, Pumps.busy_set empty', inner]
      omega

end Tallied

variable {L : Lens σ (Display τ)} {pumps : Lens σ Pumps} {s s' : σ}

theorem ticksOf_tick (i : Nat) (r : Tick) (m : Moment τ) :
    ticksOf i [⟨m, some (i, r)⟩] = [r] := by simp [ticksOf]

theorem ticksOf_other {j : Nat} (ne : j ≠ i) (r : Tick) (m : Moment τ) :
    ticksOf j [⟨m, some (i, r)⟩] = [] := by simp [ticksOf, Ne.symm ne]

/-- The tick of the pump in hand. -/
theorem Tallied.tick (out : l.Out (some (i, p))) (comes : m.Comes r) :
    Tallied l (some (i, p)) [⟨m, some (i, r)⟩] l (some (i, p.count r)) :=
  .count out (p.stats_count r) (ticksOf_tick i r m) (fun _ ne => ticksOf_other ne r m)
    (comes.works _)

end DisplayEnv
