import Mathlib.Data.List.TakeWhile
import DisplayEnv.Proofs.Events.Termination
import DisplayEnv.Proofs.Pumps.Accounts

/-!
# What an idle tick leaves behind

A tick is idle when it found nothing to do, and it takes the first event that waits to find that
out. So there are two idle ticks: one when nothing waits, and one when a wake stands first, whatever
stands behind it. Ticking until the first idle tick takes what waits up to the first wake and no
further; it takes everything only when no wake waits.

* `Path.ahead`: what stood in the queue is taken first, whoever takes it.
* `Heard.tick_idle_iff`: a tick is idle exactly if a wake stands first, when anything waits.
* `Drains.took`, `Drains.stopped`: what the ticks up to the first idle one take.
-/

namespace DisplayEnv

variable {σ τ : Type} {S : Setting σ τ} {s s' s₁ : σ} {p p' p₁ : Pump} {r : Tick} {n : Nat}
  {allowed : Call τ → Prop} {d d' : Display τ} {t : List (Moment τ)} {e : Event τ}
  {l : List (Event τ)} {opening : Opening}

/-! ## The front of the queue -/

/-- What a call takes is what stood first in the queue, and the rest of that stands there still. -/
theorem Display.ahead (d : Display τ) (c : Call τ) (opening : Opening) :
    d.backend.queue <+:
      (Moment.of opening c d).taken?.toList ++ (d.after opening c).backend.queue := by
  by_cases hc : c.OnEvents
  case neg =>
    have silent : (Moment.of opening c d).taken? = none := by
      cases c <;> first | rfl | exact absurd trivial hc
    have same : (d.after opening c).backend.queue = d.backend.queue :=
      congrArg Prod.fst (d.after_events hc)
    rw [silent, same]
    exact List.prefix_rfl
  cases c with
  | post e => exact List.prefix_append _ _
  | send e => exact List.prefix_rfl
  | pendingEvents => exact List.prefix_append _ _
  | dispatch ending =>
    show d.backend.queue <+: d.backend.next.1.toList ++ d.dispatched.backend.queue
    cases waits : d.backend.pending with
    | nil =>
      rw [(List.append_eq_nil_iff.mp waits).1]
      exact List.nil_prefix
    | cons e l =>
      have queue : d.dispatched.backend.queue = l :=
        (Prod.mk.inj (Prod.mk.inj (Prod.mk.inj (Display.dispatched_scene waits)).2).2).1
      rw [Headless.next_of_pending waits, queue]
      show d.backend.queue <+: e :: l
      rw [← waits]
      exact List.prefix_append _ _
  | sleep =>
    show d.backend.queue <+: d.backend.sleep.queue
    unfold Headless.sleep
    split
    · rename_i empty
      rw [List.isEmpty_iff.mp empty]
      exact List.nil_prefix
    · exact List.prefix_rfl
  | _ => exact hc.elim

/-- **What stood in the queue is taken first**, and the rest of that stands there still. -/
theorem Path.ahead (h : Path allowed d t d') (orderly : d.Orderly) :
    d.backend.queue <+: taken t ++ d'.backend.queue := by
  refine h.invariant (P := fun t d' => d.backend.queue <+: taken t ++ d'.backend.queue) orderly
    List.prefix_rfl fun t d' c opening _ ih => ih.trans ?_
  rw [taken_concat, List.append_assoc]
  exact (List.prefix_append_right_inj _).mpr (d'.ahead c opening)

/-- The first stretch of a prefix of two lists, in the first list and then in the second. -/
theorem takeWhile_prefix_append {α : Type} {f : α → Bool} {l a b b' : List α} (h : l <+: a ++ b)
    (hb : b.takeWhile f <+: b') : l.takeWhile f <+: a ++ b' := by
  obtain ⟨x, h⟩ := h
  have first : l.takeWhile f <+: (l ++ x).takeWhile f := by
    rw [List.takeWhile_append]
    split
    · exact (List.takeWhile_prefix f).trans (List.prefix_append _ _)
    · exact List.prefix_rfl
  have second : (a ++ b).takeWhile f <+: a ++ b' := by
    rw [List.takeWhile_append]
    split
    · exact (List.prefix_append_right_inj a).mpr hb
    · exact (List.takeWhile_prefix f).trans (List.prefix_append _ _)
  exact first.trans (h ▸ second)

/-! ## One tick -/

/-- **What a tick does to the events that wait.** Others send, an event is dispatched, and what
follows is up to its handler: the event is the first of those that waited, and the others are next
in turn. -/
theorem Path.serving {sent t' : List (Moment τ)} {d₀ : Display τ}
    (before : Path Call.IsSend d sent d₀) (later : Path allowed d₀.dispatched t' d')
    (orderly : d.Orderly) :
    ∃ t, Path (fun _ => True) d t d' ∧ ∀ e l, d.backend.pending = e :: l →
      d₀.backend.next.1 = some e ∧ taken t = e :: taken t' ∧
        l <+: taken t' ++ d'.backend.queue := by
  refine ⟨sent ++ .dispatch .stalled d₀ :: t', ?_, fun e l waits => ?_⟩
  · exact (before.mono fun _ _ => trivial).append
      ((Path.dispatch .stalled d₀).append (later.mono fun _ _ => trivial))
  have line : d₀.backend.pending = e :: (l ++ entered sent) := by
    rw [before.reached orderly, ← List.cons_append, ← waits]
    exact (List.append_assoc _ _ _).symm
  have next : d₀.backend.next.1 = some e := Headless.next_of_pending line
  have queue : d₀.dispatched.backend.queue = l ++ entered sent :=
    (Prod.mk.inj (Prod.mk.inj (Prod.mk.inj (Display.dispatched_scene line)).2).2).1
  refine ⟨next, ?_, ?_⟩
  · rw [taken_append, before.taken_sends, Moment.dispatch, taken_dispatch, next]
    rfl
  · have ahead := later.ahead (before.orderly orderly).dispatched
    rw [queue] at ahead
    exact (List.prefix_append l _).trans ahead

namespace Setting

/-- **An idle tick took a wake**, if anything waited, and left the rest. -/
theorem Heard.tick_left (hS : S.Heard) (orderly : (S.display.get s).Orderly)
    (tick : S.tick p s = (.done (.idle, p'), s')) :
    ∃ t, Path (fun _ => True) (S.display.get s) t (S.display.get s') ∧
      ∀ e l, (S.backend.get s).pending = e :: l →
        e = .wake ∧ taken t = [.wake] ∧ l <+: (S.backend.get s').queue := by
  obtain ⟨sent, d₀, before, nothing, after⟩ := hS.tick_idle tick
  have later : Path (fun _ => True) d₀.dispatched [] (S.display.get s') := after ▸ Path.rest _
  obtain ⟨t, path, serves⟩ := before.serving later orderly
  refine ⟨t, path, fun e l waits => ?_⟩
  obtain ⟨next, took, rest⟩ := serves e l waits
  obtain rfl : e = .wake := by
    rw [next] at nothing
    simpa using nothing
  exact ⟨rfl, took, rest⟩

/-- **A busy tick took a task or a destruction**, if anything waited. Its handler may take more. -/
theorem Heard.tick_took (hS : S.Heard) (orderly : (S.display.get s).Orderly)
    (tick : S.tick p s = (.done (r, p'), s')) (busy : r ≠ .idle)
    (run : ∀ x, Act.ByCalls allowed S.display (S.run x)) :
    ∃ t, Path (fun _ => True) (S.display.get s) t (S.display.get s') ∧
      ∀ e l, (S.backend.get s).pending = e :: l → e.isWork ∧ ∃ d₁ t',
        Path allowed d₁ t' (S.display.get s') ∧ taken t = e :: taken t' ∧
          l <+: taken t' ++ (S.backend.get s').queue := by
  obtain ⟨sent, d₀, before, work⟩ := hS.tick_busy tick busy fun _ x _ _ => run x
  obtain ⟨x, t', event, work, handler⟩ : ∃ x t', d₀.backend.next.1 = some x ∧ x.isWork ∧
      Path allowed d₀.dispatched t' (S.display.get s') := by
    obtain ⟨x, t', event, handler⟩ | ⟨w, event, after⟩ := work
    · exact ⟨_, t', event, rfl, handler⟩
    · exact ⟨_, [], event, rfl, after ▸ .rest _⟩
  obtain ⟨t, path, serves⟩ := before.serving handler orderly
  refine ⟨t, path, fun e l waits => ?_⟩
  obtain ⟨next, took, rest⟩ := serves e l waits
  obtain rfl : e = x := Option.some.inj (next.symm.trans event)
  exact ⟨work, _, t', handler, took, rest⟩

/-- **A tick is idle exactly if a wake stands first**, when anything waits. -/
theorem Heard.tick_idle_iff (hS : S.Heard) (orderly : (S.display.get s).Orderly)
    (tick : S.tick p s = (.done (r, p'), s')) (waits : (S.backend.get s).pending = e :: l) :
    r = .idle ↔ e = .wake := by
  constructor
  · rintro rfl
    obtain ⟨_, _, left⟩ := hS.tick_left orderly tick
    exact (left e l waits).1
  · rintro rfl
    by_contra busy
    obtain ⟨_, _, took⟩ := hS.tick_took orderly tick busy hS.run
    cases (took _ l waits).1

/-! ## Ticks until the first idle one -/

/-- So many busy ticks, and then an idle one. -/
inductive Drains (S : Setting σ τ) : Nat → Pump → σ → Pump → σ → Prop
  | idle {p p' : Pump} {s s' : σ} (tick : S.tick p s = (.done (.idle, p'), s')) :
      Drains S 0 p s p' s'
  | busy {n : Nat} {r : Tick} {p p₁ p' : Pump} {s s₁ s' : σ}
      (tick : S.tick p s = (.done (r, p₁), s₁)) (busy : r ≠ .idle)
      (drains : Drains S n p₁ s₁ p' s') : Drains S (n + 1) p s p' s'

/-- **Ticks until the first idle one take what waits up to the first wake.** -/
theorem Drains.took (hS : S.Heard) (orderly : (S.display.get s).Orderly)
    (h : S.Drains n p s p' s') :
    ∃ t, Path (fun _ => True) (S.display.get s) t (S.display.get s') ∧
      (S.backend.get s).pending.takeWhile Event.isWork <+: taken t := by
  induction h with
  | idle tick =>
    obtain ⟨t, path, left⟩ := hS.tick_left orderly tick
    refine ⟨t, path, ?_⟩
    cases waits : (S.backend.get _).pending with
    | nil => exact List.nil_prefix
    | cons e l =>
      obtain ⟨rfl, -, -⟩ := left e l waits
      exact List.nil_prefix
  | busy tick busy _ ih =>
    obtain ⟨t, path, took⟩ := hS.tick_took orderly tick busy hS.run
    obtain ⟨t₁, path₁, further⟩ := ih (path.orderly orderly)
    refine ⟨t ++ t₁, path.append path₁, ?_⟩
    cases waits : (S.backend.get _).pending with
    | nil => exact List.nil_prefix
    | cons e l =>
      obtain ⟨work, d₁, t', -, first, rest⟩ := took e l waits
      rw [List.takeWhile_cons_of_pos work, taken_append, first, List.cons_append]
      refine List.cons_prefix_cons.mpr ⟨rfl, takeWhile_prefix_append (rest.trans ?_) further⟩
      exact (List.prefix_append_right_inj _).mpr (List.prefix_append _ _)

/-- **They stop at a wake**, and leave what stands behind it, when no handler dispatches events. -/
theorem Drains.stopped (hS : S.Heard) (orderly : (S.display.get s).Orderly)
    (run : ∀ x, Act.ByCalls (fun c => ∀ ending, c ≠ .dispatch ending) S.display (S.run x))
    {a : List (Event τ)} (work : ∀ e ∈ a, e.isWork)
    (waits : a ++ .wake :: l <+: (S.backend.get s).pending) (h : S.Drains n p s p' s') :
    n = a.length ∧ ∃ t, Path (fun _ => True) (S.display.get s) t (S.display.get s') ∧
      taken t = a ++ [.wake] ∧ l <+: (S.backend.get s').pending := by
  induction h generalizing a with
  | idle tick =>
    obtain ⟨t, path, left⟩ := hS.tick_left orderly tick
    obtain ⟨behind, waits⟩ := waits
    cases a with
    | nil =>
      obtain ⟨-, took, rest⟩ := left _ _ waits.symm
      refine ⟨rfl, t, path, took, ?_⟩
      exact ((List.prefix_append l behind).trans rest).trans (List.prefix_append _ _)
    | cons e a =>
      obtain ⟨rfl, -, -⟩ := left _ _ waits.symm
      cases work _ List.mem_cons_self
  | busy tick busy _ ih =>
    obtain ⟨t, path, took⟩ := hS.tick_took orderly tick busy run
    obtain ⟨behind, waits⟩ := waits
    cases a with
    | nil => cases (took _ _ waits.symm).1
    | cons e a =>
      obtain ⟨-, d₁, t', handler, first, rest⟩ := took _ _ waits.symm
      rw [handler.taken_eq_nil fun c hc => hc] at first rest
      obtain ⟨rfl, t₁, path₁, took₁, left⟩ := ih (path.orderly orderly)
        (fun x hx => work x (List.mem_cons_of_mem _ hx))
        (((List.prefix_append _ behind).trans rest).trans (List.prefix_append _ _))
      refine ⟨rfl, t ++ t₁, path.append path₁, ?_, left⟩
      rw [taken_append, first, took₁]
      rfl

/-- What a dispatch answers, as a tick. -/
theorem Quiet.tick_of_read (hS : S.Quiet) {b : Bool}
    (read : (S.readAndDispatch s).1 = .done (.ok b)) (p : Pump) :
    ∃ r p' s', S.tick p s = (.done (r, p'), s') ∧ (r = .idle ↔ b = false) := by
  have attempt : S.readAndDispatch.attempt s = (.done (.ok (.ok b)), (S.readAndDispatch s).2) := by
    rw [Act.attempt_apply]
    cases answer : S.readAndDispatch s with
    | mk o s' =>
      rw [answer] at read
      cases read
      rfl
  obtain ⟨s', tick, -⟩ := hS.tick_of attempt p
  exact ⟨_, _, s', tick, by cases b <;> simp [tickOf]⟩

end Setting

/-- **Ticks that find nothing stop at wakes.** When events wait, a tick is idle, and a dispatch
finds nothing, exactly if a wake stands first; what stands behind it is left. So ticking until the
first idle tick takes what waits up to the first wake. That is everything if no wake waits; if one
does, it is no more than that and the wake, unless a handler dispatches events itself. -/
theorem idle_ticks_stop_at_wakes {config : HeadlessConfig} (hS : S.Heard)
    (reached : History (fun _ => True) config t (S.display.get s)) :
    (∀ e l, (S.backend.get s).pending = e :: l →
      (∀ b, (S.readAndDispatch s).1 = .done (.ok b) → (b = false ↔ e = .wake)) ∧
      ∀ r p p' s', S.tick p s = (.done (r, p'), s') →
        (r = .idle ↔ e = .wake) ∧ (r = .idle → l <+: (S.backend.get s').pending)) ∧
    ∀ n p p' s', S.Drains n p s p' s' →
      (∃ t', Path (fun _ => True) (S.display.get s) t' (S.display.get s') ∧
        (S.backend.get s).pending.takeWhile Event.isWork <+: taken t' ∧
        ((∀ e ∈ (S.backend.get s).pending, e.isWork) → (S.backend.get s).pending <+: taken t')) ∧
      ((∀ x, Act.ByCalls (fun c => ∀ ending, c ≠ .dispatch ending) S.display (S.run x)) →
        ∀ a l, (S.backend.get s).pending = a ++ .wake :: l → (∀ e ∈ a, e.isWork) →
          n = a.length ∧ ∃ t', Path (fun _ => True) (S.display.get s) t' (S.display.get s') ∧
            taken t' = a ++ [.wake] ∧ l <+: (S.backend.get s').pending) := by
  have orderly := reached.orderly
  refine ⟨fun e l waits => ⟨fun b read => ?_, fun r p p' s' tick => ?_⟩,
    fun n p p' s' drains => ⟨?_, fun run a l waits work => ?_⟩⟩
  · obtain ⟨r, p', s', tick, idle⟩ := hS.tick_of_read read .new
    exact idle.symm.trans (hS.tick_idle_iff orderly tick waits)
  · refine ⟨hS.tick_idle_iff orderly tick waits, ?_⟩
    rintro rfl
    obtain ⟨_, _, left⟩ := hS.tick_left orderly tick
    exact (left e l waits).2.2.trans (List.prefix_append _ _)
  · obtain ⟨t', path, took⟩ := drains.took hS orderly
    refine ⟨t', path, took, fun work => ?_⟩
    rwa [List.takeWhile_eq_self_iff.mpr work] at took
  · exact drains.stopped hS orderly run work (waits ▸ List.prefix_rfl)

/-- A failing task, then a wake; a second task and two destructions stay behind it. -/
theorem idle_ticks_stop_at_wakes_awaited : ∃ (p' : Pump) (d : Display Nat) (t : List (Moment Nat)),
    (Setting.plain .empty restless).Drains 1 .new
      (left .nothing (.new 0 (.new .standard)) awaited) p' d ∧
    taken t = [.task 0, .wake] ∧
    [.task 1, .destroy ⟨0x1010⟩, .destroy ⟨0x1000⟩, .task 2] <+: d.backend.pending := by
  obtain ⟨-, drained⟩ := idle_ticks_stop_at_wakes restless_heard
    (show History (fun _ => True) .standard
      (moments .nothing (.new 0 (.new .standard)) awaited)
      (left .nothing (.new 0 (.new .standard)) awaited) from
      ⟨0, .moments _ _ fun _ _ => trivial⟩)
  have drains : (Setting.plain .empty restless).Drains 1 .new
      (left .nothing (.new 0 (.new .standard)) awaited) _ _ :=
    .busy rfl nofun (.idle rfl)
  obtain ⟨-, stopped⟩ := drained 1 .new _ _ drains
  obtain ⟨-, t, -, took, left⟩ := stopped
    (fun x => restless_byCalls nofun nofun fun _ => nofun)
    [.task 0] [.task 1, .destroy ⟨0x1010⟩, .destroy ⟨0x1000⟩, .task 2] rfl (by decide)
  exact ⟨_, _, t, drains, took, left⟩

/-- **An idle tick with work waiting.** A wake was sent before a task. -/
theorem idle_before_work :
    ∃ d d' : Display Nat,
      History (fun _ => True) .standard
        (moments .nothing (.new 0 (.new .standard)) [.send .wake, .send (.task 1)]) d ∧
      d.backend.pending = [.wake, .task 1] ∧
      Setting.calm.tick .new d = (.done (.idle, Pump.new.count .idle), d') ∧
      d'.backend.pending = [.task 1] :=
  ⟨_, _, ⟨0, .moments _ _ fun _ _ => trivial⟩, rfl, rfl, rfl⟩

end DisplayEnv
