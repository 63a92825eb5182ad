import DisplayEnv.Proofs.Display.Apart
import DisplayEnv.Proofs.Display.Loops

/-!
# Events keep their order

An event is put in from the display's own thread, behind the queue, or sent by a proxy, into the
inbox. From there it moves by three routes: a dispatch and a count of what waits empty the inbox
into the queue, and a wait takes one event out of it. Dispatches take the front of the queue.

All of it is one line (`InLine`): what was dispatched, then the queue, then the inbox. An event that
is put in enters the line where the queue ends, one that is sent enters it at its end, and the
routes only move the borders. So the line holds every event once, and it is sorted by when they
came, but for sent events that were still in the inbox when another one was put in.

A history is any interleaving. Other threads act by `Call.send`, which may stand anywhere, and one
that comes while a wait is going on or an inbox is being emptied stands before it. A handler's calls
follow the dispatch that starts it.

* `events_in_order`: the line, at every moment of every history.
-/

namespace DisplayEnv

variable {τ : Type}

/-! ## What is put in and what is taken -/

/-- An event on its way: the position in the history at which it came, and by which way. -/
structure Sending (τ : Type) where
  serial : Nat
  proxy : Bool
  event : Event τ

/-- The event that a call puts in, when the call is at this position. -/
def Call.sending? (serial : Nat) : Call τ → Option (Sending τ)
  | .post e => some ⟨serial, false, e⟩
  | .send e => some ⟨serial, true, e⟩
  | _ => none

/-- The events that came in a history. -/
def sendings (t : List (Moment τ)) : List (Sending τ) :=
  t.zipIdx.filterMap fun m => m.1.call.sending? m.2

/-- The event that a call takes out of the queue. -/
def Moment.taken? (m : Moment τ) : Option (Event τ) :=
  match m.call with
  | .dispatch _ => m.before.backend.next.1
  | _ => none

/-- The events that were taken in a history, to be dispatched. -/
def taken (t : List (Moment τ)) : List (Event τ) := t.filterMap Moment.taken?

/-- What may stand before what: events in the order in which they came, and also an event that was
put in before a sent one that came earlier. -/
def Sending.Precedes (x y : Sending τ) : Prop :=
  x.serial < y.serial ∨ (x.proxy = false ∧ y.proxy = true)

/-- The line of the events that came by now: those that were taken, the queue and the inbox. Only
sent events are in the inbox. -/
structure InLine (t : List (Moment τ)) (b : Headless τ) (front back : List (Sending τ)) : Prop where
  all : (front ++ back).Perm (sendings t)
  sorted : (front ++ back).Pairwise Sending.Precedes
  taken : front.map (·.event) = taken t ++ b.queue
  waiting : back.map (·.event) = b.inbox
  sent : ∀ x ∈ back, x.proxy = true

/-- The calls that put events in, take them out or move them on. -/
def Call.OnEvents : Call τ → Prop
  | .post _ | .send _ | .pendingEvents | .dispatch _ | .sleep => True
  | _ => False

variable {d : Display τ} {t : List (Moment τ)} {m : Moment τ} {front back : List (Sending τ)}
  {opening : Opening}

/-! ## Longer histories -/

theorem sendings_concat (t : List (Moment τ)) (m : Moment τ) :
    sendings (t ++ [m]) = sendings t ++ (m.call.sending? t.length).toList := by
  rw [sendings, List.zipIdx_append, List.filterMap_append]
  simp only [List.zipIdx_singleton, Nat.zero_add]
  cases h : m.call.sending? t.length <;> simp [sendings, h]

theorem taken_concat (t : List (Moment τ)) (m : Moment τ) :
    taken (t ++ [m]) = taken t ++ m.taken?.toList := by
  rw [taken, List.filterMap_append]
  cases h : m.taken? <;> simp [taken, h]

/-- What came, came before now. -/
theorem serial_lt {x : Sending τ} (hx : x ∈ sendings t) : x.serial < t.length := by
  obtain ⟨⟨m, i⟩, hm, h⟩ := List.mem_filterMap.mp hx
  have hi : i < t.length := by
    have := (List.mem_zipIdx hm).2.1
    omega
  unfold Call.sending? at h
  split at h <;> cases h <;> exact hi

theorem InLine.serial_lt (h : InLine t d.backend front back) {x : Sending τ}
    (hx : x ∈ front ++ back) : x.serial < t.length :=
  DisplayEnv.serial_lt (h.all.mem_iff.mp hx)

/-! ## One call -/

/-- A call that only moves the borders of the line. -/
theorem InLine.moved {front' back' : List (Sending τ)} {b : Headless τ}
    (h : InLine t d.backend front back) (none : m.call.sending? t.length = none)
    (line : front' ++ back' = front ++ back)
    (front_eq : front'.map (·.event) = DisplayEnv.taken t ++ (m.taken?.toList ++ b.queue))
    (back_eq : back'.map (·.event) = b.inbox) (sent : ∀ x ∈ back', x.proxy = true) :
    InLine (t ++ [m]) b front' back' where
  all := by
    rw [line, sendings_concat, none, Option.toList_none, List.append_nil]
    exact h.all
  sorted := line ▸ h.sorted
  taken := by rw [front_eq, taken_concat, List.append_assoc]
  waiting := back_eq
  sent := sent

/-- A call that puts an event in, where the queue ends or at the end of the line. -/
theorem InLine.joined {front' back' : List (Sending τ)} {b : Headless τ} {x : Sending τ}
    (h : InLine t d.backend front back) (one : m.call.sending? t.length = some x)
    (nothing : m.taken? = none)
    (line : (front' ++ back').Perm ((front ++ back) ++ [x]))
    (sorted : (front' ++ back').Pairwise Sending.Precedes)
    (front_eq : front'.map (·.event) = DisplayEnv.taken t ++ b.queue)
    (back_eq : back'.map (·.event) = b.inbox) (sent : ∀ x ∈ back', x.proxy = true) :
    InLine (t ++ [m]) b front' back' where
  all := by
    rw [sendings_concat, one]
    exact line.trans (h.all.append_right _)
  sorted := sorted
  taken := by rw [front_eq, taken_concat, nothing, Option.toList_none, List.append_nil]
  waiting := back_eq
  sent := sent

/-- The line as it was before the newest event came. -/
theorem InLine.filter_eq_self (h : InLine t d.backend front back) {l : List (Sending τ)}
    (hl : ∀ x ∈ l, x ∈ front ++ back) : l.filter (·.serial < t.length) = l :=
  List.filter_eq_self.mpr fun x hx => decide_eq_true (h.serial_lt (hl x hx))

theorem InLine.post (h : InLine t d.backend front back) {e : Event τ} (hm : m.call = .post e) :
    ∃ front', InLine (t ++ [m]) (d.backend.post e) front' back ∧
      (front' ++ back).filter (·.serial < t.length) = front ++ back := by
  let x : Sending τ := ⟨t.length, false, e⟩
  refine ⟨front ++ [x], h.joined (x := x) (by rw [hm]; rfl) (by rw [Moment.taken?, hm]) ?_ ?_
    ?_ h.waiting h.sent, ?_⟩
  · rw [List.append_assoc, List.append_assoc]
    exact List.perm_append_comm.append_left front
  · rw [List.append_assoc]
    obtain ⟨hf, hb, hfb⟩ := List.pairwise_append.mp h.sorted
    refine List.pairwise_append.mpr ⟨hf, List.pairwise_cons.mpr ⟨fun y hy => ?_, hb⟩, ?_⟩
    · exact .inr ⟨rfl, h.sent y hy⟩
    · intro y hy z hz
      rcases List.mem_cons.mp hz with rfl | hz
      · exact .inl (h.serial_lt (List.mem_append_left _ hy))
      · exact hfb y hy z hz
  · rw [List.map_append, h.taken, List.append_assoc]
    rfl
  · rw [List.filter_append, List.filter_append, h.filter_eq_self fun y => List.mem_append_left _,
      h.filter_eq_self fun y => List.mem_append_right _]
    simp [x]

theorem InLine.send (h : InLine t d.backend front back) {e : Event τ} (hm : m.call = .send e) :
    ∃ back', InLine (t ++ [m]) (d.backend.send e) front back' ∧
      (front ++ back').filter (·.serial < t.length) = front ++ back := by
  let x : Sending τ := ⟨t.length, true, e⟩
  refine ⟨back ++ [x], h.joined (x := x) (by rw [hm]; rfl) (by rw [Moment.taken?, hm]) ?_ ?_
    h.taken ?_ ?_, ?_⟩
  · rw [List.append_assoc]
  · rw [← List.append_assoc]
    refine List.pairwise_append.mpr ⟨h.sorted, List.pairwise_singleton _ _, fun y hy z hz => ?_⟩
    obtain rfl := List.mem_singleton.mp hz
    exact .inl (h.serial_lt hy)
  · rw [List.map_append, h.waiting]
    rfl
  · exact List.forall_mem_append.mpr ⟨h.sent, List.forall_mem_singleton.mpr rfl⟩
  · rw [← List.append_assoc, List.filter_append, h.filter_eq_self fun y hy => hy]
    simp [x]

/-- The whole line is in the queue when the inbox was emptied into it. -/
theorem InLine.drained (h : InLine t d.backend front back) :
    (front ++ back).map (·.event) = DisplayEnv.taken t ++ d.backend.drain.queue := by
  rw [List.map_append, h.taken, h.waiting, List.append_assoc]
  rfl

theorem InLine.pendingEvents (h : InLine t d.backend front back) (hm : m.call = .pendingEvents) :
    InLine (t ++ [m]) d.backend.drain (front ++ back) [] :=
  h.moved (by rw [hm]; rfl) (List.append_nil _) (by rw [Moment.taken?, hm]; exact h.drained) rfl
    nofun

theorem InLine.dispatch (h : InLine t d.backend front back)
    {ending : Outcome (Except PlatformError Unit)} (hm : m.call = .dispatch ending)
    (before : m.before = d) : InLine (t ++ [m]) d.backend.next.2 (front ++ back) [] := by
  have taken : m.taken? = d.backend.next.1 := by rw [Moment.taken?, hm, before]
  refine h.moved (by rw [hm]; rfl) (List.append_nil _) ?_ ?_ nofun
  · rw [taken, h.drained]
    unfold Headless.next
    cases e : d.backend.drain.queue with
    | nil => exact congrArg _ e.symm
    | cons => rfl
  · unfold Headless.next
    cases d.backend.drain.queue <;> rfl

theorem InLine.sleep (h : InLine t d.backend front back) (hm : m.call = .sleep) :
    ∃ front' back', InLine (t ++ [m]) d.backend.sleep front' back' ∧
      front' ++ back' = front ++ back := by
  have stays : m.taken? = none := by rw [Moment.taken?, hm]
  have same : InLine (t ++ [m]) d.backend front back :=
    h.moved (by rw [hm]; rfl) rfl (by rw [stays]; exact h.taken) h.waiting h.sent
  unfold Headless.sleep
  split
  · rename_i empty
    split
    · exact ⟨front, back, same, rfl⟩
    · rename_i e rest hi
      -- the first event of the inbox becomes the last of the queue
      cases back with
      | nil =>
        have := h.waiting
        rw [hi] at this
        cases this
      | cons x back =>
        obtain ⟨he, hr⟩ := List.cons.inj (h.waiting.trans hi)
        have hq : d.backend.queue = [] := List.isEmpty_iff.mp empty
        refine ⟨front ++ [x], back, h.moved (by rw [hm]; rfl) (by simp) ?_ hr ?_, by simp⟩
        · rw [List.map_append, h.taken, hq, List.append_nil, stays]
          exact congrArg (fun e => DisplayEnv.taken t ++ [e]) he
        · exact fun y hy => h.sent y (List.mem_cons_of_mem _ hy)
  · exact ⟨front, back, same, rfl⟩

/-! ## The other calls -/

/-- The two lists of waiting events. -/
def Headless.events (b : Headless τ) : List (Event τ) × List (Event τ) := (b.queue, b.inbox)

theorem Headless.apart_events : Headless.Apart (@Headless.events τ) where
  allocate b b' n h := by
    obtain ⟨-, -, rfl⟩ := allocate_eq h
    rfl
  giveBack _ _ := rfl
  close b := by
    unfold close
    split <;> rfl

namespace Display

/-- **A call that is not about events leaves them alone.** -/
theorem after_events (d : Display τ) {c : Call τ} (hc : ¬ c.OnEvents) :
    (d.after opening c).backend.events = d.backend.events := by
  cases c with
  | createWindow | destroyWindow _ => rfl
  | _ => exact d.after_apart Headless.apart_events hc

theorem dispatched_events (d : Display τ) :
    d.dispatched.backend.events = d.backend.next.2.events := by
  unfold dispatched
  split <;> rfl

end Display

theorem InLine.of_events {b b' : Headless τ} (h : InLine t b front back)
    (e : b'.events = b.events) : InLine t b' front back := by
  obtain ⟨hq, hi⟩ := Prod.mk.inj e
  exact ⟨h.all, h.sorted, hq ▸ h.taken, hi ▸ h.waiting, h.sent⟩

/-- **Every call** keeps the line in order, and what was in it before in its place. -/
theorem InLine.step (h : InLine t d.backend front back) {c : Call τ}
    (after : (Moment.of opening c d).after = d.after opening c) :
    ∃ front' back', InLine (t ++ [.of opening c d]) (d.after opening c).backend front' back' ∧
      (front' ++ back').filter (·.serial < t.length) = front ++ back := by
  have all : (front ++ back).filter (·.serial < t.length) = front ++ back :=
    h.filter_eq_self fun x hx => hx
  by_cases hc : c.OnEvents
  · cases c with
    | post e =>
      obtain ⟨front', h', kept⟩ := h.post (m := .of opening (.post e) d) rfl
      exact ⟨front', back, h', kept⟩
    | send e =>
      obtain ⟨back', h', kept⟩ := h.send (m := .of opening (.send e) d) rfl
      exact ⟨front, back', h', kept⟩
    | pendingEvents =>
      exact ⟨_, [], h.pendingEvents rfl, by rw [List.append_nil, all]⟩
    | dispatch ending =>
      have h' := h.dispatch (m := .of opening (.dispatch ending) d) rfl rfl
      exact ⟨_, [], h'.of_events d.dispatched_events, by rw [List.append_nil, all]⟩
    | sleep =>
      obtain ⟨front', back', h', line⟩ := h.sleep (m := .of opening .sleep d) rfl
      exact ⟨front', back', h', by rw [line, all]⟩
    | _ => exact hc.elim
  · have silent : c.sending? t.length = none := by cases c <;> first | rfl | exact absurd trivial hc
    have stays : (Moment.of opening c d).taken? = none := by
      cases c <;> first | rfl | exact absurd trivial hc
    have same : InLine (t ++ [.of opening c d]) d.backend front back :=
      h.moved silent rfl (by rw [stays]; exact h.taken) h.waiting h.sent
    exact ⟨front, back, same.of_events (d.after_events hc), all⟩

/-! ## Every history -/

/-- The line at the end of a history, which at every earlier moment was the part of it that had come
by then. -/
theorem History.inLine {allowed : Call τ → Prop} {config : HeadlessConfig}
    (h : History allowed config t d) :
    ∃ front back, InLine t d.backend front back ∧ ∀ i (hi : i < t.length),
      ((front ++ back).filter (·.serial < i)).map (·.event) =
        taken (t.take i) ++ t[i].before.backend.pending := by
  refine h.invariant (P := fun t d => ∃ front back, InLine t d.backend front back ∧
    ∀ i (hi : i < t.length), ((front ++ back).filter (·.serial < i)).map (·.event) =
      taken (t.take i) ++ t[i].before.backend.pending) (fun id => ?_) ?_
  · exact ⟨[], [], ⟨.refl _, .nil, rfl, rfl, nofun⟩, nofun⟩
  · rintro t d c opening - - ⟨front, back, line, earlier⟩ after
    obtain ⟨front', back', line', kept⟩ := line.step after
    refine ⟨front', back', line', fun i hi => ?_⟩
    have cut : (front' ++ back').filter (·.serial < i) = (front ++ back).filter (·.serial < i) := by
      rw [← kept, List.filter_filter]
      refine List.filter_congr fun x _ => ?_
      rw [List.length_append, List.length_singleton] at hi
      rw [← Bool.decide_and, decide_eq_decide]
      omega
    rw [cut]
    by_cases old : i < t.length
    · rw [earlier i old, List.take_append_of_le_length (Nat.le_of_lt old),
        List.getElem_append_left old]
    · obtain rfl : i = t.length := by
        rw [List.length_append, List.length_singleton] at hi
        omega
      rw [line.filter_eq_self fun x hx => hx, line.drained, List.take_left',
        List.getElem_concat_length rfl]
      · rfl
      · rfl

/-- **No event is lost, doubled or out of order.** All events that came stand in one line, sorted by
`Precedes`; at every moment, what was taken, the queue and the inbox are the part of the line that
had come by then. So no event is taken more often than it came. A dispatch runs the task that it
takes, once, on a display without it, and however that ends, the history goes on behind the call. -/
theorem events_in_order (allowed : Call τ → Prop) (config : HeadlessConfig) (t : List (Moment τ))
    (d : Display τ) (h : History allowed config t d) :
    (∃ line : List (Sending τ), line.Perm (sendings t) ∧ line.Pairwise Sending.Precedes ∧
      line.map (·.event) = taken t ++ d.backend.pending ∧
      ∀ i (hi : i < t.length), (line.filter (·.serial < i)).map (·.event) =
        taken (t.take i) ++ t[i].before.backend.pending) ∧
    (∀ p : Event τ → Bool, (taken t).countP p ≤ (sendings t).countP fun x => p x.event) ∧
    ∀ (σ : Type) (S : Setting σ τ) (s : σ), S.display.get s = d →
      (S.display.Lawful → ∀ x, d.backend.next.1 = some (.task x) →
        (S.dispatchNext s).2 = (S.run x (S.afterNext s)).2 ∧
        S.display.get (S.afterNext s) = { d with backend := d.backend.next.2 }) ∧
      (S.Handled allowed → (∀ ending, allowed (.dispatch ending)) → ∃ ending opening t',
        History allowed config (t ++ .of opening (.dispatch ending) d :: t')
          (S.display.get (S.dispatchNext s).2)) := by
  obtain ⟨front, back, line, earlier⟩ := h.inLine
  have events : (front ++ back).map (·.event) = taken t ++ d.backend.pending := by
    rw [line.drained]
    rfl
  refine ⟨⟨front ++ back, line.all, line.sorted, events, earlier⟩, fun p => ?_, ?_⟩
  · have count := congrArg (List.countP p) events
    rw [List.countP_map, line.all.countP_eq, List.countP_append] at count
    exact Nat.le_of_add_right_le (Nat.le_of_eq count.symm)
  · rintro σ S s rfl
    refine ⟨fun lawful x hx => ⟨Setting.dispatchNext_task hx, lawful.get_set _ _⟩, ?_⟩
    intro hS hd
    obtain ⟨ending, opening, t', p⟩ := hS.dispatchNext_path hd s
    exact ⟨ending, opening, t', h.append p⟩

/-- Two sent events, of which a wait takes the first before a third one is put in. -/
def crossing : List (Call Nat) :=
  [.send (.task 2), .send .wake, .sleep, .post (.task 1), .dispatch (.fault .lentOut),
    .dispatch (.done (.ok ()))]

theorem events_in_order_crossing :
    taken (moments .nothing (.new 0 (.new .standard)) crossing) = [.task 2, .task 1] ∧
      ∃ line : List (Sending Nat),
        line.Perm (sendings (moments .nothing (.new 0 (.new .standard)) crossing)) ∧
        line.Pairwise Sending.Precedes ∧
        line.map (·.event) = [.task 2, .task 1, .wake] := by
  obtain ⟨line, all, sorted, events, -⟩ := (events_in_order (fun _ => True) .standard
    (moments .nothing (.new 0 (.new .standard)) crossing) _
    ⟨0, .moments _ _ fun _ _ => trivial⟩).1
  exact ⟨rfl, line, all, sorted, events⟩

end DisplayEnv
