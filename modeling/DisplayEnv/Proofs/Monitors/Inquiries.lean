import DisplayEnv.Proofs.Monitors.Lookups
import Mathlib.Data.List.Induction

/-!
# Inquiries about the monitors, and what the platform is asked

An `Inquiry` is a call about the monitors with the record of what the platform was asked for it, and
`Inquiries` are some of them one after the other, with whatever else happens in between, as long as
it leaves the memory of the display alone.

* `Inquiry.call_of`: an inquiry is the call itself, with the record beside it.
-/

namespace DisplayEnv

variable {σ τ : Type}

/-- The calls about the monitors. -/
inductive Query where
  | monitors
  | primaryMonitor
  | invalidate
  deriving DecidableEq, Repr

/-- The call that makes the query. -/
def Query.call : Query → Call τ
  | .monitors => .monitors
  | .primaryMonitor => .primaryMonitor
  | .invalidate => .invalidateMonitors

/-- The answer of a query, when this is what the layout was looked up to be. -/
def Query.answer : Query → Except DisplayError Layout → Answer
  | .monitors, .ok l => .monitors (.ok l.monitors)
  | .monitors, .error e => .monitors (.error e)
  | .primaryMonitor, .ok l =>
    .monitor (match l.primary? with
      | some m => .ok m
      | none => .error .noMonitors)
  | .primaryMonitor, .error e => .monitor (.error e)
  | .invalidate, _ => .nothing

/-- A query in a run: what was before and after it, its ending, and what the platform was asked for
and answered meanwhile. -/
structure Inquiry (σ : Type) where
  before : σ
  query : Query
  outcome : Outcome Answer
  asked : List Enumeration
  after : σ

/-- The query from a state, with the record of what is asked for it. -/
def Inquiry.of (S : Setting σ τ) (q : Query) (s : σ) : Inquiry σ :=
  let r := S.recorded.call q.call (s, [])
  ⟨s, q, r.1, r.2.2, r.2.1⟩

/-- Queries one after the other. Between two of them anything else may happen that leaves the memory
of the monitors alone. -/
inductive Inquiries (S : Setting σ τ) : σ → List (Inquiry σ) → σ → Prop
  | rest (s : σ) : Inquiries S s [] s
  | ask {s s' : σ} {t : List (Inquiry σ)} (h : Inquiries S s t s') (q : Query) :
      Inquiries S s (t ++ [.of S q s']) (Inquiry.of S q s').after
  | meanwhile {s s' s'' : σ} {t : List (Inquiry σ)} (h : Inquiries S s t s')
      (same : S.memory s'' = S.memory s') : Inquiries S s t s''

variable {S : Setting σ τ} {s s' : σ} {t l r : List (Inquiry σ)} {i : Inquiry σ}

theorem Inquiries.of_concat (h : Inquiries S s (t ++ [i]) s') :
    ∃ s₁, Inquiries S s t s₁ ∧ i = .of S i.query s₁ ∧ S.memory s' = S.memory i.after := by
  generalize ht : t ++ [i] = t' at h
  induction h with
  | rest => simp at ht
  | @ask s₁ _ h q _ =>
    obtain ⟨rfl, last⟩ := List.append_inj' ht rfl
    obtain rfl := List.singleton_inj.mp last
    exact ⟨s₁, h, rfl, rfl⟩
  | meanwhile _ same ih =>
    obtain ⟨s₁, h, of, after⟩ := ih ht
    exact ⟨s₁, h, of, same.trans after⟩

/-- A run of two parts is a run to somewhere, and a run from there. -/
theorem Inquiries.of_append (h : Inquiries S s (l ++ r) s') :
    ∃ s₁, Inquiries S s l s₁ ∧ Inquiries S s₁ r s' := by
  induction r using List.reverseRecOn generalizing s' with
  | nil => exact ⟨s', by simpa using h, .rest s'⟩
  | append_singleton r i ih =>
    rw [← List.append_assoc] at h
    obtain ⟨s₂, front, of, after⟩ := h.of_concat
    obtain ⟨s₁, first, second⟩ := ih front
    have asked := second.ask i.query
    rw [← of] at asked
    exact ⟨s₁, first, asked.meanwhile after⟩

/-! ## What one inquiry comes to -/

namespace Setting

/-- Reading the display is the same with a record beside it. -/
theorem view_recorded {α : Type} (S : Setting σ τ) (v : Display τ → α) (p : σ × List Enumeration) :
    Lens.first.Mirrors p (S.recorded.display.view v) (S.display.view v) := rfl

/-- **The record changes nothing about a query.** -/
theorem call_recorded (S : Setting σ τ) (q : Query) (p : σ × List Enumeration) :
    Lens.first.Mirrors p (S.recorded.call q.call) (S.call q.call) := by
  cases q with
  | monitors =>
    refine Lens.Mirrors.bind (x := S.recorded.monitors) (y := S.monitors) ?_ fun _ _ => .pure _
    refine (S.view_recorded _ p).bind fun disposed p => ?_
    split
    · exact .pure _
    · refine (S.layout_recorded p).bind fun found p => ?_
      cases found <;> exact .pure _
  | primaryMonitor =>
    refine Lens.Mirrors.bind (x := S.recorded.primaryMonitor) (y := S.primaryMonitor) ?_
      fun _ _ => .pure _
    refine (S.view_recorded _ p).bind fun disposed p => ?_
    split
    · exact .pure _
    · refine (S.layout_recorded p).bind fun found p => ?_
      cases found with
      | error e => exact .pure _
      | ok l =>
        simp only
        cases l.primary? <;> exact .pure _
  | invalidate => rfl

/-- A query looks the layout up, unless the display was torn down. -/
theorem call_query (S : Setting σ τ) {q : Query} (hq : q ≠ .invalidate)
    (live : (S.display.get s).disposed = false) :
    S.call q.call s = ((S.layout s).1.map q.answer, (S.layout s).2) := by
  have looked {α : Type} (x y : Act σ α) :
      (if (S.display.get s).disposed = true then x else y) s = y s := by
    rw [live]
    rfl
  cases q with
  | monitors =>
    show ((if (S.display.get s).disposed = true then _ else _ : Act σ _) >>= _ : Act σ _) s = _
    rw [Act.bind_apply, looked, Act.bind_apply]
    cases S.layout s with
    | mk o s₁ =>
      match o with
      | .fault _ | .stalled | .done (.ok _) | .done (.error _) => rfl
  | primaryMonitor =>
    show ((if (S.display.get s).disposed = true then _ else _ : Act σ _) >>= _ : Act σ _) s = _
    rw [Act.bind_apply, looked, Act.bind_apply]
    cases S.layout s with
    | mk o s₁ =>
      match o with
      | .fault _ | .stalled | .done (.error _) => rfl
      | .done (.ok l) =>
        simp only [Outcome.map, Query.answer]
        cases l.primary? <;> rfl
  | invalidate => exact absurd rfl hq

end Setting

namespace Inquiry

variable {S : Setting σ τ} {s : σ} {q : Query} {l : Layout} {n : Nat}

/-- An inquiry is the call, with the record of what was asked beside it. -/
theorem call_of (S : Setting σ τ) (q : Query) (s : σ) :
    S.call q.call s = ((of S q s).outcome, (of S q s).after) :=
  (S.call_recorded q (s, [])).symm

/-- The platform failed the query: it was asked once, and gave no monitors. -/
def Missed (i : Inquiry σ) : Prop :=
  ∃ e o, i.asked = [e] ∧ Enumeration.Fails e o ∧ i.outcome = o.map i.query.answer

/-- With a memory, a query is answered from it, and nothing is asked. -/
theorem of_kept (hq : q ≠ .invalidate) (kept : S.memory s = (some l, n, false)) :
    of S q s = ⟨s, q, .done (q.answer (.ok l)), [], s⟩ := by
  obtain ⟨layout, rest⟩ := Prod.mk.inj kept
  obtain ⟨-, live⟩ := Prod.mk.inj rest
  have found : S.recorded.layout (s, []) = (.done (.ok l), s, []) := S.recorded.layout_kept layout
  have call : S.recorded.call q.call (s, []) = (.done (q.answer (.ok l)), s, []) := by
    rw [S.recorded.call_query (s := (s, [])) hq live, found]
    rfl
  unfold of
  rw [call]

/-- **A query without a memory** asks the platform once. Either that fails, and nothing is
remembered, or it reports monitors, and the query is answered from the layout that is. -/
theorem of_asked (hS : S.Aloof) (hq : q ≠ .invalidate) (fresh : S.memory s = (none, n, false)) :
    ((of S q s).Missed ∧ S.memory (of S q s).after = (none, n, false)) ∨
      ∃ report l, (of S q s).asked = [.done (.ok report)] ∧ Layout.ofReport report = .ok l ∧
        (of S q s).outcome = .done (q.answer (.ok l)) ∧
        S.memory (of S q s).after = (some l, n + 1, false) := by
  obtain ⟨layout, rest⟩ := Prod.mk.inj fresh
  obtain ⟨layouts, live⟩ := Prod.mk.inj rest
  have call := S.recorded.call_query (s := (s, [])) hq live
  obtain ⟨asked, missed | ⟨report, l, answer, normal, found, kept⟩⟩ := hS.layout_asked layout []
  · refine .inl ⟨⟨_, _, ?_, missed.1, ?_⟩, ?_⟩
    · exact (congrArg (·.2.2) call).trans asked
    · exact congrArg Prod.fst call
    · exact (congrArg (fun r => S.memory r.2.1) call).trans (missed.2.trans fresh)
  · refine .inr ⟨report, l, ?_, normal, ?_, ?_⟩
    · rw [← answer]
      exact (congrArg (·.2.2) call).trans asked
    · exact (congrArg Prod.fst call).trans (by rw [found]; rfl)
    · rw [layouts, live] at kept
      exact (congrArg (fun r => S.memory r.2.1) call).trans kept

/-- An invalidation asks nothing and forgets the layout. -/
theorem of_invalidate (hS : S.Aloof) : (of S .invalidate s).asked = [] ∧
    (of S .invalidate s).outcome = .done .nothing ∧
    S.memory (of S .invalidate s).after = (none, (S.memory s).2) := by
  have after : (of S .invalidate s).after =
      S.display.modify (fun d => { d with layout := none }) s := rfl
  refine ⟨rfl, rfl, ?_⟩
  rw [after]
  unfold Setting.memory Lens.modify
  rw [hS.lawful.get_set]

end Inquiry

end DisplayEnv
