import DisplayEnv.Proofs.Display.Conservation

/-!
# The order of a teardown

A teardown gives back what it finds in a fixed order: the images, the fonts, the colors, the scratch
context, and the connection last. It finds everything that is still owed, and after it nothing is
owed and nothing can be made, so nothing is ever entered in the journal behind the connection.

* `teardown_in_order`: what a teardown enters, and the shape of the journal in every history.
* `Shaped`: the invariant behind it. As long as the display lives, only handles of its caches were
  given back; from then on the journal ends with at most one scratch context and the connection.
-/

namespace DisplayEnv

variable {τ : Type} {d d' : Display τ} {t : List (Moment τ)} {j : List Released}

/-- What a teardown of `d` enters: its images, fonts and colors, each kind in any order, its scratch
context and its connection. -/
def TeardownEntries (d : Display τ) (l : List Released) : Prop :=
  ∃ images fonts colors : List Released,
    images.Perm (d.images.handles.map (.image ·.id)) ∧
    fonts.Perm (d.fonts.handles.map (.font ·.id)) ∧
    colors.Perm (d.colors.handles.map (.color ·.id)) ∧
    l = images ++ fonts ++ colors ++ d.scratch.toList.map (.gc ·.id) ++ [.connection]

/-- Whether an entry is for a drawing context. -/
def Released.isGc : Released → Bool
  | .gc _ => true
  | _ => false

/-- **The order of a journal**: the connection is entered once and last, and a drawing context once
and right before it. -/
structure Ordered (j : List Released) : Prop where
  once : j.count .connection ≤ 1
  last : ∀ l r, j = l ++ .connection :: r → r = []
  scratchOnce : j.countP Released.isGc ≤ 1
  scratchLast : ∀ l n r, j = l ++ .gc n :: r → r = [.connection]

/-- The shape of the journal of a display that lives, and of one that was torn down. -/
structure Shaped (d : Display τ) : Prop where
  living : d.disposed = false → d.backend.closed = false ∧ ∀ e ∈ d.backend.journal, e.Cached
  ended : d.disposed = true → ∃ (l : List Released) (scratch : Option Nat), (∀ e ∈ l, e.Cached) ∧
    d.backend.journal = l ++ (scratch.toList.map .gc ++ [.connection])

/-! ## From the shape to the order -/

/-- In a list that ends in two parts, an entry that cannot be in the first is in the second. -/
theorem split_of_not_mem {l k a r : List Released} {e : Released} (he : e ∉ l)
    (h : l ++ k = a ++ e :: r) : ∃ b, k = b ++ e :: r := by
  rcases List.append_eq_append_iff.mp h with ⟨b, -, hk⟩ | ⟨b, hl, hb⟩
  · exact ⟨b, hk⟩
  · cases b with
    | nil => exact ⟨[], by simpa using hb.symm⟩
    | cons x b =>
      obtain ⟨rfl, -⟩ := List.cons.inj hb
      exact absurd (hl ▸ List.mem_append_right _ List.mem_cons_self) he

theorem Ordered.of_cached (h : ∀ e ∈ j, e.Cached) : Ordered j where
  once := by
    rw [List.count_eq_zero_of_not_mem fun hm => h .connection hm]
    exact Nat.zero_le 1
  last l r hj := (h .connection (by simp [hj])).elim
  scratchOnce := by
    rw [List.countP_eq_zero.mpr]
    · exact Nat.zero_le 1
    · intro e he
      have := h e he
      cases e <;> simp_all [Released.isGc, Released.Cached]
  scratchLast l n r hj := (h (.gc n) (by simp [hj])).elim

theorem Ordered.of_end {l : List Released} (h : ∀ e ∈ l, e.Cached) (scratch : Option Nat)
    (hj : j = l ++ (scratch.toList.map .gc ++ [.connection])) : Ordered j where
  once := by
    rw [hj, List.count_append, List.count_eq_zero_of_not_mem fun hm => h .connection hm]
    cases scratch <;> simp
  last a r e := by
    obtain ⟨b, hb⟩ := split_of_not_mem (fun hm => h .connection hm) (hj.symm.trans e)
    cases scratch with
    | none =>
      cases b <;> simp_all
    | some n =>
      rcases b with - | ⟨x, - | ⟨y, b⟩⟩ <;> simp_all
  scratchOnce := by
    have none : l.countP Released.isGc = 0 := by
      refine List.countP_eq_zero.mpr fun e he => ?_
      have := h e he
      cases e <;> simp_all [Released.isGc, Released.Cached]
    rw [hj, List.countP_append, none]
    cases scratch <;> simp [Released.isGc, List.countP_cons]
  scratchLast a n r e := by
    obtain ⟨b, hb⟩ := split_of_not_mem (fun hm => h (.gc n) hm) (hj.symm.trans e)
    cases scratch with
    | none =>
      cases b <;> simp_all
    | some n =>
      rcases b with - | ⟨x, - | ⟨y, b⟩⟩ <;> simp_all

theorem Shaped.ordered (h : Shaped d) : Ordered d.backend.journal := by
  cases hd : d.disposed with
  | false => exact .of_cached (h.living hd).2
  | true =>
    obtain ⟨l, scratch, hl, hj⟩ := h.ended hd
    exact .of_end hl scratch hj

/-! ## The invariant -/

theorem Display.tornDown_journal (h : d.backend.closed = false) :
    d.tornDown.backend.journal = d.backend.journal ++ (d.owed ++ [.connection]) := by
  show ((d.backend.giveBack d.owed).close.2).journal = _
  have open' : (d.backend.giveBack d.owed).closed = false := h
  rw [Headless.close, if_neg (by simp [open']), ← List.append_assoc]
  rfl

theorem Shaped.makes {made : List Released} (h : Shaped d) (hm : d.Makes d' made) : Shaped d' where
  living hd := by
    rw [hm.closed, hm.journal]
    exact h.living (hm.disposed ▸ hd)
  ended hd := by
    rw [hm.journal]
    exact h.ended (hm.disposed ▸ hd)

theorem Shaped.returns {gone : List Released} (h : Shaped d) (hb : Balanced t d)
    (hm : d.Returns d' gone) : Shaped d' where
  living hd := by
    obtain ⟨closed, cached⟩ := h.living (hm.disposed ▸ hd)
    rw [hm.backend]
    exact ⟨closed, List.forall_mem_append.mpr ⟨cached, hm.cached⟩⟩
  ended hd := by
    -- a display that was torn down owes nothing, so there was nothing to give back
    have none := hm.owed.symm
    rw [(hb.ended (hm.disposed ▸ hd)).1] at none
    rw [hm.backend, (List.append_eq_nil_iff.mp none.eq_nil).1, Headless.giveBack_nil]
    exact h.ended (hm.disposed ▸ hd)

theorem Shaped.ends (h : Shaped d) (hd : d.disposed = false) : Shaped d.tornDown where
  living hd := by cases hd
  ended _ := by
    obtain ⟨closed, cached⟩ := h.living hd
    refine ⟨d.backend.journal ++ (d.shelved .images ++ d.shelved .fonts ++ d.shelved .colors),
      d.scratch.map (·.id), ?_, ?_⟩
    · refine List.forall_mem_append.mpr ⟨cached, List.forall_mem_append.mpr
        ⟨List.forall_mem_append.mpr ⟨?_, ?_⟩, ?_⟩⟩ <;> exact Display.shelved_cached d _
    · rw [Display.tornDown_journal closed, Display.owed]
      cases d.scratch <;> simp

theorem Shaped.of_history {config : HeadlessConfig} (h : History Call.Own config t d) :
    Shaped d := by
  refine h.invariant (P := fun _ d => Shaped d) (fun id => ?_) fun t d c opening h hc hs _ => ?_
  · exact ⟨fun _ => ⟨rfl, by intro e he; cases he⟩, fun hd => by cases hd⟩
  · have step := h.orderly.changes opening hc
    generalize d.after opening c = d' at step
    cases step with
    | makes hm _ => exact hs.makes hm
    | returns hm => exact hs.returns (Balanced.of_history h) hm
    | ends hd => exact hs.ends hd

/-! ## Every teardown -/

theorem Display.teardownEntries (d : Display τ) : TeardownEntries d (d.owed ++ [.connection]) :=
  ⟨_, _, _, .refl _, .refl _, .refl _, rfl⟩

/-- **A teardown enters everything in order**, and in every history the journal is in order: the
connection once and last, a drawing context once and right before it. So it is after a main loop. -/
theorem teardown_in_order (config : HeadlessConfig) (t : List (Moment τ)) (d : Display τ)
    (h : History Call.Own config t d) :
    Ordered d.backend.journal ∧
      ∀ (σ : Type) (S : Setting σ τ) (s : σ), S.display.get s = d →
        (S.Quiet → d.disposed = false →
          (S.teardown s).1 = .done true ∧
          ∃ l, TeardownEntries d l ∧
            (S.display.get (S.teardown s).2).backend.journal = d.backend.journal ++ l) ∧
        ∀ bound root pump, S.Handled Call.Own →
          Ordered (S.display.get (S.runMain bound root pump s).2).backend.journal := by
  refine ⟨(Shaped.of_history h).ordered, ?_⟩
  rintro σ S s rfl
  refine ⟨fun hS hd => ?_, fun bound root pump hS => ?_⟩
  · have run : ((S.teardown s).1, S.display.get (S.teardown s).2) =
        (Setting.alone .nothing).teardown (S.display.get s) := hS.teardown
    rw [alone_teardown h.orderly.lent, if_neg (by simp [hd])] at run
    obtain ⟨outcome, after⟩ := Prod.mk.inj run
    refine ⟨outcome, _, Display.teardownEntries _, ?_⟩
    rw [after]
    exact Display.tornDown_journal ((Shaped.of_history h).living hd).1
  · obtain ⟨t', h'⟩ := History.runMain hS h bound root pump
    exact (Shaped.of_history h').ordered

/-- Calls after which a display has a scratch context, a font and the second of two colors. -/
def furnished : List (Call Nat) :=
  [.scratchGc, .resolveColor .black, .resolveFont (.plain "Sans" 12), .resolveColor .white,
    .releaseColor .black]

theorem teardown_in_order_furnished :
    ∃ l, TeardownEntries (left .nothing (.new 0 (.new .standard)) furnished) l ∧
      (((Setting.plain .empty fun _ => pure (.ok ())).teardown
        (left .nothing (.new 0 (.new .standard)) furnished)).2).backend.journal =
          [.color 2] ++ l :=
  (((teardown_in_order .standard _ _ ⟨0, .moments _ _ (by simp [furnished, Call.Own])⟩).2 _
    (Setting.plain .empty fun _ => pure (.ok ())) _ rfl).1 (Setting.plain_quiet _ _) rfl).2

end DisplayEnv
