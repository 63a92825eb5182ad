import DisplayEnv.Proofs.Cache.Sums
import DisplayEnv.Proofs.Display.Changes
import DisplayEnv.Proofs.Display.Loops

/-!
# Handles are conserved

Every native number that a backend ever gave out is, at every moment, held by the display in one
place or given back in one entry of the journal, and never both. The numbers are `1` to
`nextId - 1`, so this is one permutation; that nothing leaks and nothing is given back twice is read
off it.

`Balanced` is the invariant: it is about the entries that are owed, which carry their kind, and the
three cases of `Display.Changes` keep it. `Conserved` says the same of the numbers, the live set and
the counts that the program shows, and `handles_conserved` proves it of every history that leaves
the connection to the display, main loops included.
-/

namespace DisplayEnv

variable {τ : Type}

/-- The handles that were given back. -/
def Headless.returned (b : Headless τ) : List Released := b.journal.filter (· ≠ .connection)

/-- The handles that a call made: owed after it, and not numbered before it. -/
def Moment.made (m : Moment τ) : List Released :=
  m.after.owed.filter (m.before.backend.nextId ≤ ·.number)

/-- The handles that were made in a history. -/
def made (t : List (Moment τ)) : List Released := t.flatMap Moment.made

/-- A history of handles in which none is lost and none is given back twice. -/
structure Balanced (t : List (Moment τ)) (d : Display τ) : Prop where
  positive : 1 ≤ d.backend.nextId
  numbers : ((d.owed ++ d.backend.returned).map Released.number).Perm
    (List.range' 1 (d.backend.nextId - 1))
  live : d.backend.live.Perm (d.owed.map Released.number)
  made : (made t).Perm (d.owed ++ d.backend.returned)
  kinds : ∀ m ∈ t, ∀ e ∈ m.made, m.call.MayMake e
  ended : d.disposed = true → d.owed = [] ∧ d.backend.closed = true
  last : ∀ m ∈ t, m.call = .teardown ∨ m.call = .drop → d.disposed = true

/-- **What the program shows of its handles.** -/
structure Conserved (t : List (Moment τ)) (d : Display τ) : Prop where
  /-- Every number is held in one place or given back in one entry. -/
  numbers : (d.held ++ d.backend.returned.map Released.number).Perm
    (List.range' 1 (d.backend.nextId - 1))
  /-- The live numbers are those that are held. -/
  live : d.backend.live.Perm d.held
  /-- The number of live handles is what the statistics count. -/
  counted : ∀ s, d.stats.total = .ok s →
    d.backend.liveHandles = s.entries + if d.stats.scratchGc then 1 else 0
  /-- The statistics can be added up unless the lookups overflow a word. -/
  total : d.backend.nextId - 1 < UInt64.size - 1 →
    ((∃ s, d.stats.total = .ok s) ↔
      d.colors.hits + d.fonts.hits + d.images.hits < UInt64.size ∧
      d.colors.misses + d.fonts.misses + d.images.misses < UInt64.size)
  /-- Every handle that was made is owed or given back, as what it was made. -/
  made : (made t).Perm (d.owed ++ d.backend.returned)
  /-- A handle is made by a call for its kind. -/
  kinds : ∀ m ∈ t, ∀ e ∈ m.made, m.call.MayMake e
  /-- After a teardown everything was given back. -/
  ended : (∃ m ∈ t, m.call = .teardown ∨ m.call = .drop) → d.backend.live = [] ∧ d.held = [] ∧
    (d.backend.returned.map Released.number).Perm (List.range' 1 (d.backend.nextId - 1))

variable {d d' : Display τ} {t : List (Moment τ)}

/-! ## What is held and what is owed -/

theorem Display.held_perm (d : Display τ) : d.held.Perm (d.owed.map Released.number) := by
  let colors := d.colors.handles.map (·.id)
  let fonts := d.fonts.handles.map (·.id)
  let images := d.images.handles.map (·.id)
  have swap : (colors ++ fonts ++ images).Perm (fonts ++ colors ++ images) :=
    List.perm_append_comm.append_right images
  have turn := (swap.trans List.perm_append_comm).append_right (d.scratch.toList.map (·.id))
  refine turn.trans (.of_eq ?_)
  simp only [owed, shelved, Shelf.part, imagesPart, fontsPart, colorsPart, List.map_append,
    List.map_map, List.append_assoc]
  rfl

theorem Display.handle_of_mem_owed {e : Released} (he : e ∈ d.owed) : e ≠ .connection := by
  rintro rfl
  simp [owed, shelved, Shelf.released] at he

theorem Headless.returned_giveBack {b : Headless τ} {gone : List Released}
    (hg : ∀ e ∈ gone, e ≠ .connection) : (b.giveBack gone).returned = b.returned ++ gone := by
  have all : gone.filter (· ≠ .connection) = gone :=
    List.filter_eq_self.mpr fun e he => by simpa using hg e he
  rw [returned, giveBack, List.filter_append, all]
  rfl

theorem Headless.returned_close (b : Headless τ) : b.close.2.returned = b.returned := by
  unfold close
  split
  · rfl
  · simp [returned]

theorem Headless.live_close (b : Headless τ) : b.close.2.live = b.live := by
  unfold close
  split <;> rfl

theorem Headless.nextId_close (b : Headless τ) : b.close.2.nextId = b.nextId := by
  unfold close
  split <;> rfl

theorem Headless.closed_close (b : Headless τ) : b.close.2.closed = true := by
  unfold close
  split
  · assumption
  · rfl

/-! ## One call -/

theorem Balanced.lt_nextId (h : Balanced t d) {e : Released} (he : e ∈ d.owed) :
    e.number < d.backend.nextId := by
  have hn : e.number ∈ (d.owed ++ d.backend.returned).map Released.number :=
    List.mem_map_of_mem (List.mem_append_left _ he)
  have hr := List.mem_range'_1.mp (h.numbers.mem_iff.mp hn)
  have := h.positive
  omega

theorem Balanced.nodup (h : Balanced t d) : (d.owed.map Released.number).Nodup := by
  have all := h.numbers.nodup_iff.mpr List.nodup_range'
  rw [List.map_append] at all
  exact all.sublist (List.sublist_append_left _ _)

/-- A call that owes nothing new has made nothing. -/
theorem Balanced.made_eq_nil (h : Balanced t d) {m : Moment τ} (before : m.before = d)
    (sub : m.after.owed ⊆ d.owed) : m.made = [] := by
  refine List.filter_eq_nil_iff.mpr fun e he => ?_
  rw [before, decide_eq_true_iff, Nat.not_le]
  exact h.lt_nextId (sub he)

/-- A call that made handles has made those that are numbered from the next number on. -/
theorem Balanced.made_perm (h : Balanced t d) {m : Moment τ} {made : List Released}
    (before : m.before = d) (hm : d.Makes m.after made) : m.made.Perm made := by
  have old : d.owed.filter (d.backend.nextId ≤ ·.number) = [] := by
    refine List.filter_eq_nil_iff.mpr fun e he => ?_
    rw [decide_eq_true_iff, Nat.not_le]
    exact h.lt_nextId he
  have new : made.filter (d.backend.nextId ≤ ·.number) = made := by
    refine List.filter_eq_self.mpr fun e he => ?_
    have hn : e.number ∈ made.map Released.number := List.mem_map_of_mem he
    rw [hm.numbers] at hn
    simpa using (List.mem_range'_1.mp hn).1
  have both := hm.owed.filter (d.backend.nextId ≤ ·.number)
  rw [List.filter_append, old, new, List.append_nil] at both
  rw [Moment.made, before]
  exact both

theorem made_concat (t : List (Moment τ)) (m : Moment τ) :
    DisplayEnv.made (t ++ [m]) = DisplayEnv.made t ++ m.made := by
  simp [DisplayEnv.made]

/-- The numbers that are made go on where the numbers so far end. -/
theorem Balanced.makes (h : Balanced t d) {m : Moment τ} {made : List Released}
    (before : m.before = d) (hm : d.Makes m.after made) (kinds : ∀ e ∈ made, m.call.MayMake e)
    (last : m.call = .teardown ∨ m.call = .drop → m.after.disposed = true) :
    Balanced (t ++ [m]) m.after := by
  have returned : m.after.backend.returned = d.backend.returned :=
    congrArg (List.filter fun e : Released => e ≠ .connection) hm.journal
  have both : (m.after.owed ++ m.after.backend.returned).Perm
      ((d.owed ++ d.backend.returned) ++ made) := by
    rw [returned]
    refine (hm.owed.append_right _).trans ?_
    rw [List.append_assoc]
    exact List.perm_append_comm
  have made' := h.made_perm before hm
  constructor
  case positive => exact hm.nextId ▸ Nat.le_add_right_of_le h.positive
  case numbers =>
    have next : d.backend.nextId = 1 + 1 * (d.backend.nextId - 1) := by
      have := h.positive
      omega
    have count : m.after.backend.nextId - 1 = (d.backend.nextId - 1) + made.length := by
      have := h.positive
      rw [hm.nextId]
      omega
    refine (both.map _).trans ?_
    rw [List.map_append, hm.numbers, count, ← List.range'_append, ← next]
    exact h.numbers.append_right _
  case live =>
    refine hm.live.trans ((h.live.append_left _).trans ?_)
    rw [← List.map_append]
    exact (hm.owed.map _).symm
  case made =>
    rw [made_concat]
    exact (h.made.append made').trans both.symm
  case kinds =>
    have one : ∀ e ∈ m.made, m.call.MayMake e := fun e he => kinds e (made'.mem_iff.mp he)
    exact List.forall_mem_append.mpr ⟨h.kinds, List.forall_mem_singleton.mpr one⟩
  case ended =>
    intro hd
    obtain ⟨owed, closed⟩ := h.ended (hm.disposed ▸ hd)
    refine ⟨?_, hm.closed.trans closed⟩
    have none := hm.owed
    rw [hm.refused closed, owed] at none
    exact none.eq_nil
  case last =>
    exact List.forall_mem_append.mpr ⟨fun m' ht hc => hm.disposed.trans (h.last m' ht hc),
      List.forall_mem_singleton.mpr last⟩

/-- What is given back goes from what is owed to what was returned. -/
theorem Balanced.gives (h : Balanced t d) {m : Moment τ} {gone : List Released}
    (before : m.before = d) (owed : d.owed.Perm (gone ++ m.after.owed))
    (live : m.after.backend.live = (d.backend.giveBack gone).live)
    (returned : m.after.backend.returned = d.backend.returned ++ gone)
    (nextId : m.after.backend.nextId = d.backend.nextId)
    (ended : m.after.disposed = true → m.after.owed = [] ∧ m.after.backend.closed = true)
    (last : ∀ m' ∈ t ++ [m], m'.call = .teardown ∨ m'.call = .drop → m.after.disposed = true) :
    Balanced (t ++ [m]) m.after := by
  have nothing : m.made = [] :=
    h.made_eq_nil before fun e he => owed.symm.subset (List.mem_append_right _ he)
  have both : (m.after.owed ++ m.after.backend.returned).Perm
      (d.owed ++ d.backend.returned) := by
    rw [returned]
    refine List.Perm.trans ?_ (owed.symm.append_right _)
    rw [← List.append_assoc]
    exact List.perm_append_comm.trans (.of_eq (List.append_assoc ..).symm)
  refine ⟨nextId ▸ h.positive, ?_, ?_, ?_, ?_, ended, last⟩
  · rw [nextId]
    exact (both.map _).trans h.numbers
  · -- no number is both given back and owed still, so the live numbers that are left are owed
    have split : (d.owed.map Released.number).Perm
        (gone.map Released.number ++ m.after.owed.map Released.number) := by
      rw [← List.map_append]
      exact owed.map _
    have apart := List.nodup_append.mp (split.nodup_iff.mp h.nodup)
    have rest : (m.after.owed.map Released.number).filter (· ∉ gone.map Released.number) =
        m.after.owed.map Released.number := by
      refine List.filter_eq_self.mpr fun n hn => ?_
      rw [decide_eq_true_iff]
      exact fun hg => apart.2.2 n hg n hn rfl
    have none : (gone.map Released.number).filter (· ∉ gone.map Released.number) = [] := by
      refine List.filter_eq_nil_iff.mpr fun n hn => ?_
      rw [decide_eq_true_iff]
      exact fun h => h hn
    rw [live]
    refine ((h.live.trans split).filter _).trans ?_
    rw [List.filter_append, none, rest, List.nil_append]
  · rw [made_concat, nothing, List.append_nil]
    exact h.made.trans both.symm
  · have one : ∀ e ∈ m.made, m.call.MayMake e := by simp [nothing]
    exact List.forall_mem_append.mpr ⟨h.kinds, List.forall_mem_singleton.mpr one⟩

theorem Balanced.returns (h : Balanced t d) {m : Moment τ} {gone : List Released}
    (before : m.before = d) (hm : d.Returns m.after gone)
    (last : m.call = .teardown ∨ m.call = .drop → m.after.disposed = true) :
    Balanced (t ++ [m]) m.after := by
  have handles : ∀ e ∈ gone, e ≠ .connection := by
    rintro e he rfl
    exact hm.cached _ he
  refine h.gives before hm.owed (by rw [hm.backend]) ?_ (by rw [hm.backend]; rfl) ?_ ?_
  · rw [hm.backend, Headless.returned_giveBack handles]
  · intro hd
    obtain ⟨owed, closed⟩ := h.ended (hm.disposed ▸ hd)
    refine ⟨?_, by rw [hm.backend]; exact closed⟩
    have none := hm.owed.symm
    rw [owed] at none
    exact (List.append_eq_nil_iff.mp none.eq_nil).2
  · exact List.forall_mem_append.mpr ⟨fun m' ht hc => hm.disposed.trans (h.last m' ht hc),
      List.forall_mem_singleton.mpr last⟩

/-- The end gives back all that is owed. -/
theorem Balanced.ends (h : Balanced t d) {m : Moment τ} (before : m.before = d)
    (hm : m.after = d.tornDown) : Balanced (t ++ [m]) m.after := by
  have owed : m.after.owed = [] := by rw [hm]; rfl
  have handles : ∀ e ∈ d.owed, e ≠ .connection := fun e => Display.handle_of_mem_owed
  have all : d.owed.Perm (d.owed ++ m.after.owed) := by rw [owed, List.append_nil]
  refine h.gives before all ?_ ?_ ?_ ?_ ?_
  · rw [hm]
    exact Headless.live_close _
  · rw [hm]
    exact (Headless.returned_close _).trans (Headless.returned_giveBack handles)
  · rw [hm]
    exact Headless.nextId_close _
  · intro _
    refine ⟨owed, ?_⟩
    rw [hm]
    exact Headless.closed_close _
  · intro _ _ _
    rw [hm]
    rfl

/-! ## Every history -/

theorem Balanced.new (config : HeadlessConfig) (id : Nat) :
    Balanced ([] : List (Moment τ)) (.new id (.new config)) where
  positive := Nat.le_refl 1
  numbers := .refl _
  live := .refl _
  made := .refl _
  kinds := by simp
  ended h := by cases h
  last := by simp

theorem Balanced.of_history {config : HeadlessConfig} (h : History Call.Own config t d) :
    Balanced t d := by
  refine h.invariant (Balanced.new config) fun t d c opening h hc hb after => ?_
  rw [← after]
  have last (ht : c = .teardown ∨ c = .drop) : (Moment.of opening c d).after.disposed = true := by
    rw [after]
    rcases ht with rfl | rfl <;>
    · show (if d.disposed then d else d.tornDown).disposed = true
      split
      · assumption
      · rfl
  have step := h.orderly.changes opening hc
  rw [← after] at step
  generalize hm : (Moment.of opening c d).after = d' at step
  cases step with
  | makes h kinds => exact hm ▸ hb.makes rfl (hm ▸ h) kinds last
  | returns h => exact hm ▸ hb.returns rfl (hm ▸ h) last
  | ends _ => exact hm ▸ hb.ends rfl hm

/-! ## What the statistics count -/

/-- The statistics of the three caches, added up without a word's bound. -/
def Display.summed (d : Display τ) : CacheStats :=
  (d.stats.colors.plus d.stats.fonts).plus d.stats.images

theorem Display.held_length (d : Display τ) :
    d.held.length = d.summed.entries + if d.stats.scratchGc then 1 else 0 := by
  have scratch : (d.scratch.toList.map (·.id)).length = if d.stats.scratchGc then 1 else 0 := by
    unfold stats
    cases d.scratch <;> rfl
  rw [held, List.length_append, List.length_append, List.length_append, scratch]
  simp only [Cache.handles, List.length_map]
  rfl

theorem Balanced.conserved (h : Balanced t d) : Conserved t d := by
  have numbers : (d.held ++ d.backend.returned.map Released.number).Perm
      (List.range' 1 (d.backend.nextId - 1)) := by
    refine (d.held_perm.append_right _).trans ?_
    rw [← List.map_append]
    exact h.numbers
  have live : d.backend.live.Perm d.held := h.live.trans d.held_perm.symm
  have entries : d.summed.entries ≤ d.backend.nextId - 1 := by
    have all := numbers.length_eq
    rw [List.length_append, List.length_range', d.held_length] at all
    omega
  refine ⟨numbers, live, fun s hs => ?_, fun few => ?_, h.made, h.kinds, ?_⟩
  · rw [Headless.liveHandles, live.length_eq, d.held_length, (DisplayStats.total_eq_ok.mp hs).2]
    rfl
  · constructor
    · rintro ⟨s, hs⟩
      exact (DisplayStats.total_eq_ok.mp hs).1.2
    · intro lookups
      exact ⟨_, DisplayStats.total_eq_ok.mpr ⟨⟨by exact Nat.lt_of_le_of_lt entries (by omega),
        lookups⟩, rfl⟩⟩
  · rintro ⟨m, hm, hc⟩
    obtain ⟨owed, -⟩ := h.ended (h.last m hm hc)
    have held : d.held = [] := by
      have p := d.held_perm
      rw [owed] at p
      exact p.eq_nil
    refine ⟨?_, held, ?_⟩
    · rw [held] at live
      exact live.eq_nil
    · rw [held] at numbers
      exact numbers

/-- The next number is above all that were given out. -/
theorem Conserved.lt_nextId (h : Conserved t d) {n : Nat}
    (hn : n ∈ d.held ++ d.backend.returned.map Released.number) : n < d.backend.nextId := by
  have := List.mem_range'_1.mp (h.numbers.mem_iff.mp hn)
  omega

/-- **Handles are conserved** in every history in which the connection is closed by the display
alone, and in what a call in a quiet setting or a main loop adds to it, when its handlers keep to
that. -/
theorem handles_conserved (config : HeadlessConfig) (t : List (Moment τ)) (d : Display τ)
    (h : History Call.Own config t d) :
    Conserved t d ∧
      ∀ (σ : Type) (S : Setting σ τ) (s : σ), S.display.get s = d →
        (∀ c, c.Own → S.Quiet → ∃ t',
          History Call.Own config (t ++ t') (S.display.get (S.call c s).2) ∧
          Conserved (t ++ t') (S.display.get (S.call c s).2)) ∧
        ∀ bound root pump, S.Handled Call.Own → ∃ t',
          History Call.Own config (t ++ t') (S.display.get (S.runMain bound root pump s).2) ∧
          Conserved (t ++ t') (S.display.get (S.runMain bound root pump s).2) := by
  refine ⟨(Balanced.of_history h).conserved, ?_⟩
  rintro σ S s rfl
  refine ⟨fun c hc hS => ?_, fun bound root pump hS => ?_⟩
  · obtain ⟨t', p⟩ := hS.byCalls_call hc s
    exact ⟨t', h.append p, (Balanced.of_history (h.append p)).conserved⟩
  · obtain ⟨t', h'⟩ := History.runMain hS h bound root pump
    exact ⟨t', h', (Balanced.of_history h').conserved⟩

/-- Calls of a display that lives shortly: one font is refused, one color given back early. -/
def shortLife : List (Call Nat) :=
  [.resolveColor .black, .resolveFont (.plain "" 12), .scratchGc, .releaseColor .black,
    .resolveColor .white, .drop]

theorem handles_conserved_shortLife :
    Conserved (moments .nothing (.new 0 (.new .standard)) shortLife)
        (left .nothing (.new 0 (.new .standard)) shortLife) ∧
      (left .nothing (.new 0 (.new .standard)) shortLife).backend.journal =
        [.color 1, .color 3, .gc 2, .connection] ∧
      ∃ t, Conserved (moments .nothing (.new 0 (.new .standard)) shortLife ++ t)
        ((Setting.plain .empty fun _ => pure (.ok ())).runMain 2 ⟨0⟩ .new
          (left .nothing (.new 0 (.new .standard)) shortLife)).2 := by
  obtain ⟨conserved, more⟩ := handles_conserved .standard
    (moments .nothing (.new 0 (.new .standard)) shortLife) _
    ⟨0, .moments _ _ (by simp [shortLife, Call.Own])⟩
  obtain ⟨t, -, h⟩ := (more _ (Setting.plain .empty fun _ => pure (.ok ())) _ rfl).2 2 ⟨0⟩ .new
    (Setting.plain_handled fun _ => .pure _)
  exact ⟨conserved, rfl, t, h⟩

end DisplayEnv
