/-!
# Actions that change a state and may be cut off

`Act σ α` is a computation over a state `σ`. It ends in one of three ways: `done` with a value,
`fault` when it was cut off by a panic (an arithmetic overflow, a store that is already lent out, a
handler that gave up), or `stalled` when its bound on steps ran out before it ended. A fault keeps
every change made to the state up to that point, and `attempt` turns it into a value
(`catch_unwind`); a stalled action stays stalled, because nothing can be said about what would have
come after it.

* `bind_apply`, `pure_apply`: sequencing, spelled out on a state.
* `attempt_apply`: what is caught and what is not.
* `Lens`: a part of a larger state, so that an action on the part runs on the whole.
-/

namespace DisplayEnv

/-- The operations whose result may leave its machine word. -/
inductive Arith where
  | add
  | sub
  | mul
  deriving DecidableEq, Repr

/-- Why a computation was cut off. -/
inductive Fault where
  /-- The result of an integer operation does not fit its word. -/
  | overflow (op : Arith)
  /-- A store was asked for a change while an entry of it was still being made. -/
  | lentOut
  /-- A store was asked for a reading while an entry of it was still being made. -/
  | lentOutForChange
  /-- Code outside the library gave up, with a text or with none. -/
  | raised (text : Option String)
  deriving DecidableEq, Repr

namespace Arith

/-- The word used for the operation in a fault's text. -/
def word : Arith → String
  | .add => "add"
  | .sub => "subtract"
  | .mul => "multiply"

end Arith

/-- The text that comes with a fault, if it comes with one. -/
def Fault.text? : Fault → Option String
  | .overflow op => some ("attempt to " ++ op.word ++ " with overflow")
  | .lentOut => some "RefCell already borrowed"
  | .lentOutForChange => some "RefCell already mutably borrowed"
  | .raised text => text

/-- `n` as a 64-bit count, or the overflow of the operation that produced it. -/
def fitWord (op : Arith) (n : Nat) : Except Fault Nat :=
  if n < 0x10000000000000000 then .ok n else .error (.overflow op)

/-- `n` as a 32-bit signed number, or the overflow of the operation that produced it. -/
def fitInt32 (op : Arith) (n : Int) : Except Fault Int32 :=
  if -0x80000000 ≤ n ∧ n < 0x80000000 then .ok (Int32.ofInt n) else .error (.overflow op)

/-- How an action ended. -/
inductive Outcome (α : Type) where
  | done (value : α)
  | fault (cause : Fault)
  | stalled
  deriving DecidableEq, Repr

/-- A computation on a state `σ` with a value in `α`. -/
def Act (σ α : Type) : Type := σ → Outcome α × σ

namespace Act

variable {σ α β : Type}

instance : Monad (Act σ) where
  pure a := fun s => (.done a, s)
  bind x f := fun s =>
    match x s with
    | (.done a, s') => f a s'
    | (.fault c, s') => (.fault c, s')
    | (.stalled, s') => (.stalled, s')

@[simp] theorem pure_apply (a : α) (s : σ) : (pure a : Act σ α) s = (.done a, s) := rfl

theorem bind_apply (x : Act σ α) (f : α → Act σ β) (s : σ) :
    (x >>= f) s =
      match x s with
      | (.done a, s') => f a s'
      | (.fault c, s') => (.fault c, s')
      | (.stalled, s') => (.stalled, s') := rfl

/-- End at once with a fault. -/
def fault (c : Fault) : Act σ α := fun s => (.fault c, s)

/-- End at once without an answer: the bound on steps ran out. -/
def stall : Act σ α := fun s => (.stalled, s)

/-- Read something off the state. -/
def view (f : σ → α) : Act σ α := fun s => (.done (f s), s)

/-- Change the state. -/
def change (f : σ → σ) : Act σ Unit := fun s => (.done (), f s)

/-- Change the state and answer something about the change. -/
def alter (f : σ → α × σ) : Act σ α := fun s => (.done (f s).1, (f s).2)

@[simp] theorem fault_apply (c : Fault) (s : σ) : (fault c : Act σ α) s = (.fault c, s) := rfl

@[simp] theorem stall_apply (s : σ) : (stall : Act σ α) s = (.stalled, s) := rfl

@[simp] theorem view_apply (f : σ → α) (s : σ) : view f s = (.done (f s), s) := rfl

@[simp] theorem change_apply (f : σ → σ) (s : σ) : change f s = (.done (), f s) := rfl

@[simp] theorem alter_apply (f : σ → α × σ) (s : σ) : alter f s = (.done (f s).1, (f s).2) := rfl

/-- The value of a checked computation, or its fault. -/
def ofExcept : Except Fault α → Act σ α
  | .ok a => pure a
  | .error c => fault c

/-- Run `x` and answer its fault, if it has one, as a value. -/
def attempt (x : Act σ α) : Act σ (Except Fault α) := fun s =>
  match x s with
  | (.done a, s') => (.done (.ok a), s')
  | (.fault c, s') => (.done (.error c), s')
  | (.stalled, s') => (.stalled, s')

theorem attempt_apply (x : Act σ α) (s : σ) :
    attempt x s =
      match x s with
      | (.done a, s') => (.done (.ok a), s')
      | (.fault c, s') => (.done (.error c), s')
      | (.stalled, s') => (.stalled, s') := rfl

/-- Run `x`, then `last`, whether `x` ended with a value or with a fault. -/
def ensuring (x : Act σ α) (last : Act σ Unit) : Act σ α := do
  match ← x.attempt with
  | .ok a => last; return a
  | .error c => last; fault c

/-- Run the actions in order and collect their values. -/
def each (f : α → Act σ β) : List α → Act σ (List β)
  | [] => pure []
  | a :: as => do
    let b ← f a
    let bs ← each f as
    return b :: bs

end Act

/-- A part `α` of a state `σ` that can be read and replaced. -/
structure Lens (σ α : Type) where
  get : σ → α
  set : α → σ → σ

namespace Lens

variable {σ α β : Type}

/-- The state as a part of itself. -/
def whole : Lens α α := ⟨id, fun a _ => a⟩

/-- A part of a part. -/
def comp (l : Lens σ α) (m : Lens α β) : Lens σ β :=
  ⟨fun s => m.get (l.get s), fun b s => l.set (m.set b (l.get s)) s⟩

/-- Replace the part by a function of it. -/
def modify (l : Lens σ α) (f : α → α) (s : σ) : σ := l.set (f (l.get s)) s

/-- Read something off the part. -/
def view (l : Lens σ α) (f : α → β) : Act σ β := Act.view fun s => f (l.get s)

/-- Change the part. -/
def change (l : Lens σ α) (f : α → α) : Act σ Unit := Act.change (l.modify f)

/-- Change the part and answer something about the change. -/
def alter (l : Lens σ α) (f : α → β × α) : Act σ β :=
  Act.alter fun s => ((f (l.get s)).1, l.set (f (l.get s)).2 s)

/-- Reading after writing gives what was written, and writing forgets what was there. -/
structure Lawful (l : Lens σ α) : Prop where
  get_set : ∀ a s, l.get (l.set a s) = a
  set_get : ∀ s, l.set (l.get s) s = s
  set_set : ∀ a b s, l.set a (l.set b s) = l.set a s

theorem lawful_whole : (whole : Lens α α).Lawful := ⟨fun _ _ => rfl, fun _ => rfl, fun _ _ _ => rfl⟩

theorem Lawful.comp {l : Lens σ α} {m : Lens α β} (hl : l.Lawful) (hm : m.Lawful) :
    (l.comp m).Lawful where
  get_set b s := by simp [Lens.comp, hl.get_set, hm.get_set]
  set_get s := by simp [Lens.comp, hl.set_get, hm.set_get]
  set_set a b s := by simp [Lens.comp, hl.get_set, hl.set_set, hm.set_set]

end Lens

end DisplayEnv
