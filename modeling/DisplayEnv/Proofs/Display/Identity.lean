import Mathlib.Data.List.Nodup
import DisplayEnv.Proofs.Display.Contents

/-!
# When two handles are the same

Two calls that succeed return handles with the same native number exactly when they ask for the same
thing, a color with all its 32 bits, a font with all its fields, an image by its uri or the scratch
context, and no release took the entry away between them. All kinds of handles are numbered by one
counter, so this is one statement about one table.

The argument: a number is given out once (`Display.Distinct`), so what happens to it is one of two
things (`Fate`). It is still kept for the descriptor that it was made for, and nothing removed it;
or something did, or the display was torn down, and then nothing is ever kept under that number
again. `Fate.step` shows that a call keeps to that.

* `handles_identified`: the equivalence, and what follows from it.
-/

namespace DisplayEnv

variable {σ τ : Type}

/-- What a call for a handle is for. -/
def Call.descriptor? : Call τ → Option Descriptor
  | .resolveColor c => some (.shelved .colors c)
  | .resolveFont f => some (.shelved .fonts f)
  | .resolveImage i | .image i => some (.shelved .images i.uri)
  | .scratchGc => some .scratch
  | _ => none

/-- The handle that a call returned. -/
def Answer.handle? : Answer → Option Handle
  | .color (.ok h) => some (.shelved .colors h)
  | .font (.ok h) => some (.shelved .fonts h)
  | .image (.ok h) | .image? (some h) => some (.shelved .images h)
  | .gc (.ok h) => some (.gc h)
  | _ => none

/-- The moment is a call for this descriptor that succeeded and returned this handle. -/
def Moment.Hands (m : Moment τ) (a : Descriptor) (h : Handle) : Prop :=
  m.call.descriptor? = some a ∧ ∃ answer, m.outcome = .done answer ∧ answer.handle? = some h

/-- The moment is a release that took away the entry of this descriptor. -/
def Moment.Removes (m : Moment τ) (a : Descriptor) : Prop :=
  m.call.Drops a ∧ m.before.handle? a ≠ none ∧ m.after.handle? a = none

/-- Every number is below the next one, and is kept for one descriptor. -/
structure Display.Distinct (d : Display τ) : Prop where
  below : ∀ a h, d.handle? a = some h → h.number < d.backend.nextId
  apart : ∀ a b h h', d.handle? a = some h → d.handle? b = some h' → h.number = h'.number → a = b

/-- What became of a handle that was kept for a descriptor, after some moments. -/
inductive Fate (a : Descriptor) (h : Handle) (t : List (Moment τ)) (d : Display τ) : Prop
  | kept (still : d.handle? a = some h) (untouched : ∀ m ∈ t, ¬ m.Removes a) : Fate a h t d
  | lost (never : ∀ b x, d.handle? b = some x → x.number ≠ h.number)
      (why : (∃ m ∈ t, m.Removes a) ∨ d.disposed = true) : Fate a h t d

/-- **What the handles of a history have in common with what they were asked for.** -/
structure Identified (dpi : UInt32) (t : List (Moment τ)) : Prop where
  /-- Two successful calls return the same number exactly when they are for the same descriptor and
  no release in between took its entry away. -/
  same : ∀ l m₁ mid m₂ r a b h x, t = l ++ m₁ :: (mid ++ m₂ :: r) → m₁.Hands a h → m₂.Hands b x →
    (h.number = x.number ↔ a = b ∧ ∀ m ∈ mid, ¬ m.Removes a)
  /-- A number that was given back is never handed out again. -/
  fresh : ∀ l m r a h, t = l ++ m :: r → m.Hands a h →
    ∀ e ∈ m.before.backend.returned, e.number ≠ h.number
  /-- There is one scratch context. -/
  scratch : ∀ m ∈ t, ∀ m' ∈ t, ∀ h x, m.Hands .scratch h → m'.Hands .scratch x →
    h.number = x.number
  /-- A handle carries the data of its descriptor. -/
  carries : ∀ l m r a h, t = l ++ m :: r → m.Hands a h → h.Carries dpi (l ++ [m]) a

variable {d d' : Display τ} {c : Call τ} {opening : Opening} {t : List (Moment τ)}
  {a b : Descriptor} {h x : Handle}

/-! ## One call -/

/-- A display that keeps no more than another, and counts as far, keeps it as distinctly. -/
theorem Display.Distinct.of_old (distinct : d.Distinct)
    (old : ∀ a h, d'.handle? a = some h → d.handle? a = some h)
    (nextId : d.backend.nextId ≤ d'.backend.nextId) : d'.Distinct where
  below a h kept := Nat.lt_of_lt_of_le (distinct.below a h (old a h kept)) nextId
  apart a b h h' kept kept' := distinct.apart a b h h' (old a h kept) (old b h' kept')

/-- New handles are numbered apart from the old ones, and from each other. -/
theorem Display.Distinct.gains (distinct : d.Distinct) {new : List (Descriptor × Handle)}
    (gains : d.Gains d' new) : d'.Distinct where
  below a h kept := by
    rcases gains.made a h kept with old | new
    · have := distinct.below a h old
      have := gains.nextId
      omega
    · exact (gains.number_mem new).2
  apart a b h h' kept kept' same := by
    rcases gains.made a h kept with old | made <;> rcases gains.made b h' kept' with old' | made'
    · exact distinct.apart a b h h' old old' same
    · have := distinct.below a h old
      have := (gains.number_mem made').1
      omega
    · have := (gains.number_mem made).1
      have := distinct.below b h' old'
      omega
    · have nodup : (new.map (·.2.number)).Nodup := gains.numbers ▸ List.nodup_range'
      exact congrArg Prod.fst (List.inj_on_of_nodup_map nodup made made' same)

/-- **A call gives a number out once.** -/
theorem Display.Distinct.turns (distinct : d.Distinct) (turns : d.Turns opening c d') :
    d'.Distinct := by
  have grows := turns.nextId_le
  cases turns with
  | gains gains _ _ => exact distinct.gains gains
  | drops gone rest nextId =>
    refine distinct.of_old (fun a h kept => ?_) grows
    by_cases dropped : c.Drops a
    · exact absurd ((gone a dropped).symm.trans kept) nofun
    · exact (rest a dropped).symm.trans kept
  | ends never =>
    refine distinct.of_old (fun a h kept => ?_) grows
    exact absurd ((d.tornDown_handle? a).symm.trans kept) nofun

/-- A call does not bring a number back, and keeps to what became of it before. -/
theorem Fate.step {m : Moment τ} (fate : Fate a h t m.before) (distinct : m.before.Distinct)
    (below : h.number < m.before.backend.nextId) (turns : m.before.Turns opening m.call m.after)
    (ended : m.before.disposed = true → m.after.disposed = true) :
    Fate a h (t ++ [m]) m.after := by
  cases fate with
  | kept still untouched =>
    cases after : m.after.handle? a with
    | some y =>
      rcases turns.old_or_new after with old | ⟨lacked, -, -⟩
      · obtain rfl : y = h := Option.some.inj (old.symm.trans still)
        have spared : ¬ m.Removes a := fun removes => nomatch removes.2.2.symm.trans after
        exact .kept after (List.forall_mem_append.mpr
          ⟨untouched, List.forall_mem_singleton.mpr spared⟩)
      · exact absurd (lacked.symm.trans still) nofun
    | none =>
      refine .lost (fun b x kept same => ?_) ?_
      · rcases turns.old_or_new kept with old | ⟨-, high, -⟩
        · obtain rfl := distinct.apart b a x h old still same
          exact absurd (after.symm.trans kept) nofun
        · omega
      · refine (turns.lost still after).imp_left fun drops => ?_
        exact ⟨m, by simp, drops, by simp [still], after⟩
  | lost never why =>
    refine .lost (fun b x kept same => ?_) ?_
    · rcases turns.old_or_new kept with old | ⟨-, high, -⟩
      · exact never b x old same
      · omega
    · refine why.imp ?_ ended
      rintro ⟨m', hm, removes⟩
      exact ⟨m', List.mem_append_left _ hm, removes⟩

/-! ## Many calls -/

/-- **What becomes of a handle**, over any sequence of calls. -/
theorem Path.fate (p : Path (fun _ => True) d t d') (orderly : d.Orderly) (distinct : d.Distinct)
    (kept : d.handle? a = some h) :
    d'.Distinct ∧ h.number < d'.backend.nextId ∧ Fate a h t d' := by
  have all := p.invariant (P := fun t d' => d'.Orderly ∧ d'.Distinct ∧
    h.number < d'.backend.nextId ∧ Fate a h t d') orderly
    ⟨orderly, distinct, distinct.below a h kept, .kept kept (by simp)⟩ ?_
  · exact all.2
  · rintro t d c opening - ⟨orderly, distinct, below, fate⟩
    have turns := d.turns_after opening c
    refine ⟨orderly.after c, distinct.turns turns, Nat.lt_of_lt_of_le below turns.nextId_le, ?_⟩
    have after := Moment.of_after opening orderly.lent c
    rw [← after] at turns ⊢
    exact fate.step (m := .of opening c d) distinct below turns fun ended =>
      after ▸ (orderly.ended_after opening c).1 ended

theorem History.distinct {config : HeadlessConfig} (history : History (fun _ => True) config t d) :
    d.Distinct := by
  refine history.invariant (P := fun _ d => d.Distinct) (fun id => ?_)
    fun t d c opening _ _ distinct _ => distinct.turns (d.turns_after opening c)
  have empty (a : Descriptor) : (Display.new id (.new config) : Display τ).handle? a = none := by
    cases a with
    | scratch => rfl
    | shelved sh k => cases sh <;> rfl
  exact ⟨by simp [empty], by simp [empty]⟩

/-! ## What a call returns -/

theorem Display.handle?_of_resolve {sh : Shelf} {k : sh.Key} {make : Making τ sh.Handle}
    {y : sh.Handle} (answer : (d.resolve sh k make).1 = .done (.ok y)) :
    d.disposed = false ∧
      (d.resolve sh k make).2.handle? (.shelved sh k) = some (.shelved sh y) := by
  have outcome := d.resolves sh k make
  generalize d.resolve sh k make = r at outcome answer ⊢
  cases outcome with
  | found live found =>
    cases answer
    have kept : d.handle? (.shelved sh k) = some (.shelved sh y) := by rw [handle?, found]; rfl
    exact ⟨live, (d.handle?_count sh Cache.find?_countHit _).trans kept⟩
  | made live _ _ =>
    cases answer
    exact ⟨live, (d.handle?_insert sh k _ _ _).trans (if_pos rfl)⟩
  | ended _ | refused _ _ _ | gaveUp _ _ _ => cases answer

theorem Display.handle?_of_resolveScratch {gc : NativeGc}
    (answer : d.resolveScratch.1 = .done (.ok gc)) :
    d.disposed = false ∧ d.resolveScratch.2.handle? .scratch = some (.gc gc) := by
  have outcome := d.resolvesScratch
  generalize d.resolveScratch = r at outcome answer ⊢
  cases outcome with
  | found live found =>
    cases answer
    exact ⟨live, by rw [handle?, found]; rfl⟩
  | made live _ _ =>
    cases answer
    exact ⟨live, rfl⟩
  | ended _ | refused _ _ _ => cases answer

/-- **A call that succeeds** returns what is kept after it, and the display lives. -/
theorem alone_hands {answer : Answer} (lent : d.lent = []) (asked : c.descriptor? = some a)
    (run : ((Setting.alone opening).call c d).1 = .done answer) (given : answer.handle? = some h) :
    d.disposed = false ∧ (d.after opening c).handle? a = some h := by
  have resolved {sh : Shelf} {k : sh.Key} {make : Making τ sh.Handle}
      {f : Except ResourceError sh.Handle → Answer}
      (run : (d.resolve sh k make).1.map f = .done answer)
      (handle : ∀ r, (f r).handle? = some h → ∃ y, r = .ok y ∧ h = .shelved sh y) :
      d.disposed = false ∧ (d.resolve sh k make).2.handle? (.shelved sh k) = some h := by
    obtain ⟨r, found, rfl⟩ := Outcome.map_eq_done run
    obtain ⟨y, rfl, rfl⟩ := handle r given
    exact Display.handle?_of_resolve found
  cases c <;> cases asked <;> rw [Setting.call, Act.bind_pure_apply] at run
  case resolveColor c =>
    rw [alone_resolveColor lent] at run
    refine resolved run fun r given => ?_
    cases r <;> cases given
    exact ⟨_, rfl, rfl⟩
  case resolveFont f =>
    rw [alone_resolveFont lent] at run
    refine resolved run fun r given => ?_
    cases r <;> cases given
    exact ⟨_, rfl, rfl⟩
  case resolveImage i =>
    rw [alone_resolveImage lent] at run
    refine resolved run fun r given => ?_
    cases r <;> cases given
    exact ⟨_, rfl, rfl⟩
  case image i =>
    rw [alone_image? lent, Outcome.map_map] at run
    refine resolved run fun r given => ?_
    cases r <;> cases given
    exact ⟨_, rfl, rfl⟩
  case scratchGc =>
    rw [alone_scratchGc lent] at run
    obtain ⟨r, found, rfl⟩ := Outcome.map_eq_done run
    cases r <;> cases given
    exact Display.handle?_of_resolveScratch found

/-- What a call returned is kept when it ends. -/
theorem Moment.Hands.kept {m : Moment τ} (hands : m.Hands a h) (lent : m.before.lent = [])
    (of : m = .of opening m.call m.before) :
    m.before.disposed = false ∧ m.after.handle? a = some h ∧
      m.before.Turns opening m.call m.after := by
  obtain ⟨asked, answer, run, given⟩ := hands
  have after : m.after = m.before.after opening m.call :=
    (congrArg Moment.after of).trans (Moment.of_after opening lent m.call)
  have outcome : ((Setting.alone opening).call m.call m.before).1 = .done answer :=
    (congrArg Moment.outcome of).symm.trans run
  rw [after]
  obtain ⟨live, kept⟩ := alone_hands lent asked outcome given
  exact ⟨live, kept, m.before.turns_after opening m.call⟩

/-! ## Histories -/

variable {config : HeadlessConfig}

/-- **Two successful calls** return the same number exactly when they are for the same descriptor
and nothing removed its entry between them. -/
theorem History.same_iff {l mid r : List (Moment τ)} {m₁ m₂ : Moment τ}
    (history : History (fun _ => True) config (l ++ m₁ :: (mid ++ m₂ :: r)) d)
    (first : m₁.Hands a h) (second : m₂.Hands b x) :
    h.number = x.number ↔ a = b ∧ ∀ m ∈ mid, ¬ m.Removes a := by
  obtain ⟨before₁, ⟨_, of₁⟩, after₁, behind⟩ := history.at_moment
  obtain ⟨between, ⟨_, of₂⟩, -, -⟩ := behind.at_moment
  obtain ⟨-, still, -⟩ := first.kept before₁.orderly.lent of₁
  obtain ⟨live, kept, turns⟩ := second.kept (between.orderly after₁.orderly).lent of₂
  obtain ⟨distinct, below, fate⟩ := between.fate after₁.orderly after₁.distinct still
  -- a handle that the second call made is numbered above the first one
  have old (same : h.number = x.number) : m₂.before.handle? b = some x := by
    rcases turns.old_or_new kept with old | ⟨-, high, -⟩
    · exact old
    · omega
  constructor
  · intro same
    cases fate with
    | kept still untouched => exact ⟨distinct.apart a b h x still (old same) same, untouched⟩
    | lost never _ => exact absurd same.symm (never b x (old same))
  · rintro ⟨rfl, untouched⟩
    cases fate with
    | kept still _ =>
      rcases turns.old_or_new kept with old | ⟨lacked, -, -⟩
      · exact congrArg Handle.number (Option.some.inj (still.symm.trans old))
      · exact absurd (lacked.symm.trans still) nofun
    | lost _ why =>
      rcases why with ⟨m, hm, removes⟩ | ended
      · exact absurd removes (untouched m hm)
      · exact absurd (live.symm.trans ended) nofun

/-- What is kept is owed. -/
theorem Display.mem_owed_of_handle? (orderly : d.Orderly) (kept : d.handle? a = some h) :
    h.entry ∈ d.owed := by
  cases a with
  | scratch =>
    obtain ⟨gc, found, rfl⟩ := Option.map_eq_some_iff.mp kept
    simp [owed, found, Handle.entry]
  | shelved sh k =>
    obtain ⟨y, found, rfl⟩ := Option.map_eq_some_iff.mp kept
    have handle : y ∈ (sh.part.get d).handles :=
      (Cache.handles_erase (orderly.keyed sh) found).symm.subset List.mem_cons_self
    exact (d.owed_perm sh).symm.subset (List.mem_append_left _ (List.mem_map_of_mem handle))

/-- **A number that was given back** is never handed out again. -/
theorem History.unreturned {l r : List (Moment τ)} {m : Moment τ}
    (history : History Call.Own config (l ++ m :: r) d) (hands : m.Hands a h) :
    ∀ e ∈ m.before.backend.returned, e.number ≠ h.number := by
  intro e he same
  obtain ⟨before, ⟨_, of⟩, -, -⟩ := history.at_moment
  have numbers := (Balanced.of_history before).numbers
  obtain ⟨-, kept, turns⟩ := hands.kept before.orderly.lent of
  rcases turns.old_or_new kept with old | ⟨-, high, -⟩
  · have owed := Display.mem_owed_of_handle? before.orderly old
    have nodup := numbers.nodup_iff.mpr List.nodup_range'
    rw [List.map_append] at nodup
    exact (List.nodup_append.mp nodup).2.2 _ (List.mem_map_of_mem owed) _
      (List.mem_map_of_mem he) same.symm
  · have given : e.number ∈ (m.before.owed ++ m.before.backend.returned).map Released.number :=
      List.mem_map_of_mem (List.mem_append_right _ he)
    have := List.mem_range'_1.mp (numbers.mem_iff.mp given)
    omega

/-- A call returns one handle. -/
theorem Moment.Hands.unique {m : Moment τ} (hands : m.Hands a h) (hands' : m.Hands a x) :
    h = x := by
  obtain ⟨-, answer, run, given⟩ := hands
  obtain ⟨-, answer', run', given'⟩ := hands'
  obtain rfl := Outcome.done.inj (run.symm.trans run')
  exact Option.some.inj (given.symm.trans given')

/-- Nothing releases the scratch context before the display ends. -/
theorem not_drops_scratch (c : Call τ) : ¬ c.Drops .scratch := by
  cases c <;> simp [Call.Drops, Descriptor.shelf?]

/-- **There is one scratch context** in the life of a display. -/
theorem History.scratch_unique (history : History (fun _ => True) config t d) {m m' : Moment τ}
    (hm : m ∈ t) (hm' : m' ∈ t) (hands : m.Hands .scratch h) (hands' : m'.Hands .scratch x) :
    h.number = x.number := by
  have later {l r : List (Moment τ)} {m m' : Moment τ} {h x : Handle}
      (split : t = l ++ m :: r) (hm' : m' ∈ r) (hands : m.Hands .scratch h)
      (hands' : m'.Hands .scratch x) : h.number = x.number := by
    obtain ⟨mid, r', rfl⟩ := List.append_of_mem hm'
    exact ((split ▸ history).same_iff hands hands').mpr
      ⟨rfl, fun m _ removes => not_drops_scratch m.call removes.1⟩
  obtain ⟨l, r, split⟩ := List.append_of_mem hm
  have place := hm'
  rw [split, List.mem_append, List.mem_cons] at place
  rcases place with earlier | rfl | behind
  · obtain ⟨l', mid, rfl⟩ := List.append_of_mem earlier
    rw [List.append_assoc, List.cons_append] at split
    exact (later split (by simp) hands' hands).symm
  · rw [hands.unique hands']
  · exact later split behind hands hands'

theorem History.identified (history : History Call.Own config t d) :
    Identified config.dpi t where
  same l m₁ mid m₂ r a b h x split first second := by
    subst split
    exact (history.mono fun _ _ => trivial).same_iff first second
  fresh l m r a h split hands := by
    subst split
    exact history.unreturned hands
  scratch m hm m' hm' h x := (history.mono fun _ _ => trivial).scratch_unique hm hm'
  carries l m r a h split hands := by
    subst split
    obtain ⟨before, ⟨_, of⟩, after, -⟩ := history.at_moment
    obtain ⟨-, kept, -⟩ := hands.kept before.orderly.lent of
    exact (after.mono fun _ _ => trivial).carries kept

namespace Setting

variable {S : Setting σ τ} {s : σ}

/-- A call in a quiet setting goes on with the history of its display. -/
theorem Quiet.call_history (hS : S.Quiet) {allowed : Call τ → Prop}
    (history : History allowed config t (S.display.get s)) (hc : allowed c) :
    ∃ m : Moment τ, m.call = c ∧ m.outcome = (S.call c s).1 ∧
      History allowed config (t ++ [m]) (S.display.get (S.call c s).2) := by
  obtain ⟨opening, -, alone⟩ := hS.call_alone c s
  obtain ⟨outcome, after⟩ := Prod.mk.inj alone
  refine ⟨.of opening c (S.display.get s), rfl, outcome.symm, ?_⟩
  rw [after]
  exact history.append (.single hc opening _)

/-- A call for an image that returned a handle resolved it. -/
theorem resolveImage_of_call {i : Image} {y : NativeImage} {answer : Answer}
    (asked : c = .resolveImage i ∨ c = .image i) (run : (S.call c s).1 = .done answer)
    (given : answer.handle? = some (.shelved .images y)) :
    (S.resolveImage i s).1 = .done (.ok y) := by
  rcases asked with rfl | rfl <;> rw [call, Act.bind_pure_apply] at run <;>
    obtain ⟨r, found, rfl⟩ := Outcome.map_eq_done run
  · cases r <;> cases given
    exact found
  · unfold image? at found
    rw [Act.bind_apply] at found
    cases h : S.resolveImage i s with
    | mk o s' =>
      rw [h] at found
      cases o with
      | fault c => cases found
      | stalled => cases found
      | done r' =>
        cases r' with
        | ok y' =>
          cases found
          cases given
          rfl
        | error e =>
          -- the error is told to the log, and then there is no handle
          have told : ((S.note (.imageMissing i.uri e) >>= fun _ =>
            pure (none : Option NativeImage)) s').1 = .done r := found
          rw [Act.bind_pure_apply] at told
          obtain ⟨-, -, rfl⟩ := Outcome.map_eq_done told
          cases given

end Setting

/-- **Handles are identified** in every history in which the connection is closed by the display
alone, whatever calls are made and however they end. A call in a quiet setting goes on with the
history, and an image that it makes has the size of the picture that its own source delivered. -/
theorem handles_identified (config : HeadlessConfig) (t : List (Moment τ)) (d : Display τ)
    (h : History Call.Own config t d) :
    Identified config.dpi t ∧
      ∀ (σ : Type) (S : Setting σ τ) (s : σ), S.display.get s = d → S.Quiet →
        (∀ c, c.Own → ∃ m : Moment τ, m.call = c ∧ m.outcome = (S.call c s).1 ∧
          History Call.Own config (t ++ [m]) (S.display.get (S.call c s).2) ∧
          Identified config.dpi (t ++ [m])) ∧
        ∀ c i answer y, (c = .resolveImage i ∨ c = .image i) → (S.call c s).1 = .done answer →
          answer.handle? = some (.shelved .images y) →
          d.handle? (.shelved .images i.uri) = none →
          ∃ picture, S.Delivers i picture s ∧ y.width = picture.width ∧
            y.height = picture.height := by
  refine ⟨h.identified, ?_⟩
  rintro σ S s rfl hS
  refine ⟨fun c hc => ?_, fun c i answer y asked run given lacked => ?_⟩
  · obtain ⟨m, call, outcome, later⟩ := hS.call_history h hc
    exact ⟨m, call, outcome, later, later.identified⟩
  · refine hS.delivered h.orderly.lent (Setting.resolveImage_of_call asked run given) ?_
    exact Option.map_eq_none_iff.mp lacked

/-- Calls that find, lose and make anew: a color twice before and once after each of two releases,
and handles of the other kinds between them. -/
def reused : List (Call Nat) :=
  [.resolveColor .black, .resolveColor .black, .scratchGc, .releaseColor .black,
    .resolveColor .black, .releaseAllColors, .resolveFont (.plain "Sans" 12), .scratchGc,
    .resolveColor .black]

theorem handles_identified_reused :
    let d := left .nothing (.new 0 (.new .standard)) reused
    let S : Setting (Display Nat) Nat := .plain .empty fun _ => pure (.ok ())
    Identified HeadlessConfig.standard.dpi
        (moments .nothing (.new 0 (.new .standard)) reused) ∧
      d.held = [5, 4, 2] ∧ ∃ picture, S.Delivers dot picture d := by
  intro d S
  have quiet : S.Quiet := Setting.plain_quiet _ _
  have history : History Call.Own .standard
      (moments .nothing (.new 0 (.new .standard)) reused) d :=
    ⟨0, .moments _ _ (by simp [reused, Call.Own])⟩
  obtain ⟨identified, later⟩ := handles_identified .standard _ d history
  obtain ⟨y, made, -, -, -⟩ := quiet.recovers (history.mono fun _ _ => trivial) rfl rfl rfl dot
    ⟨1, 1, [7, 7, 7, 255]⟩ rfl ⟨by decide, by decide, _, _, rfl, rfl, by decide +kernel⟩
  obtain ⟨picture, delivers, -, -⟩ :=
    (later _ S d rfl quiet).2 (.resolveImage dot) dot _ y (.inl rfl) made rfl rfl
  exact ⟨identified, rfl, picture, delivers⟩

end DisplayEnv
