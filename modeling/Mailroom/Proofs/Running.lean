import Mailroom.Round.Basic

/-!
# Running a computation

Operations of a session and pieces of work are the same kind of computation: they change a state
and may fail. `runFrom x s` is what comes of `x` from the state `s`. The lemmas here say it for each
way of putting computations together; later proofs use them and never open the monads.
-/

namespace Mailroom

/-- What comes of a computation from a state: its value or failure, and the state afterwards. -/
def runFrom {S α : Type} (x : ExceptT Failure (StateM S) α) (s : S) : Except Failure α × S :=
  x.run.run s

section

variable {S α β : Type}

@[simp] theorem runFrom_pure (a : α) (s : S) :
    runFrom (pure a : ExceptT Failure (StateM S) α) s = (.ok a, s) := rfl

@[simp] theorem runFrom_throw (f : Failure) (s : S) :
    runFrom (throw f : ExceptT Failure (StateM S) α) s = (.error f, s) := rfl

@[simp] theorem runFrom_get (s : S) :
    runFrom (get : ExceptT Failure (StateM S) S) s = (.ok s, s) := rfl

@[simp] theorem runFrom_set (s s' : S) :
    runFrom (set s' : ExceptT Failure (StateM S) PUnit) s = (.ok (), s') := rfl

@[simp] theorem runFrom_modify (f : S → S) (s : S) :
    runFrom (modify f : ExceptT Failure (StateM S) PUnit) s = (.ok (), f s) := rfl

@[simp] theorem runFrom_settle (x : ExceptT Failure (StateM S) α) (s : S) :
    runFrom (settle x) s = (.ok (runFrom x s).1, (runFrom x s).2) := rfl

/-- Two computations in a row: a failure of the first is the failure of both. -/
theorem runFrom_bind (x : ExceptT Failure (StateM S) α)
    (k : α → ExceptT Failure (StateM S) β) (s : S) :
    runFrom (x >>= k) s = match runFrom x s with
      | (.ok a, s') => runFrom (k a) s'
      | (.error f, s') => (.error f, s') := by
  unfold runFrom
  rw [ExceptT.run_bind, StateT.run_bind]
  rcases x.run.run s with ⟨_ | _, _⟩ <;> rfl

theorem runFrom_bind_ok {x : ExceptT Failure (StateM S) α} {s s' : S} {a : α}
    (h : runFrom x s = (.ok a, s')) (k : α → ExceptT Failure (StateM S) β) :
    runFrom (x >>= k) s = runFrom (k a) s' := by
  rw [runFrom_bind, h]

theorem runFrom_bind_error {x : ExceptT Failure (StateM S) α} {s s' : S} {f : Failure}
    (h : runFrom x s = (.error f, s')) (k : α → ExceptT Failure (StateM S) β) :
    runFrom (x >>= k) s = (.error f, s') := by
  rw [runFrom_bind, h]

end

namespace Work

variable {σ κ η α : Type}

@[simp] theorem runFrom_giveBack (r : Except Failure α) (b : Bench σ κ η) :
    runFrom (giveBack r) b = (r, b) := by
  cases r <;> rfl

@[simp] theorem runFrom_record (s : Step) (b : Bench σ κ η) :
    runFrom (record s) b = (.ok (), { b with steps := b.steps ++ [s] }) := rfl

/-- A call leaves the session as its operation leaves it, and records the call, the remarks and the
answer. -/
theorem runFrom_call (c : Session.Call) (shown : α → Session.Answer) (op : Session.Op σ α)
    (b : Bench σ κ η) :
    runFrom (call c shown op) b =
      ((runFrom op ⟨b.session, []⟩).1,
        { b with
          session := (runFrom op ⟨b.session, []⟩).2.state
          steps := b.steps ++ [Step.call c] ++
            (runFrom op ⟨b.session, []⟩).2.remarks.map (ofRemark b.about) ++
            [.answer (.of shown (runFrom op ⟨b.session, []⟩).1)] }) := by
  rw [call, runFrom_bind_ok (runFrom_record _ _), runFrom_bind_ok (runFrom_get _)]
  show runFrom (do
    set { b with
      session := (runFrom op ⟨b.session, []⟩).2.state
      steps := b.steps ++ [Step.call c] ++
        (runFrom op ⟨b.session, []⟩).2.remarks.map (ofRemark b.about) }
    record (.answer (.of shown (runFrom op ⟨b.session, []⟩).1))
    giveBack (runFrom op ⟨b.session, []⟩).1) _ = _
  rw [runFrom_bind_ok (runFrom_set _ _), runFrom_bind_ok (runFrom_record _ _), runFrom_giveBack]

/-- Work about a candidate ends as it does apart, with the old candidate back in place. -/
theorem runFrom_about (subject : Subject) (x : Work σ κ η α) (b : Bench σ κ η) :
    runFrom (about subject x) b =
      ((runFrom x { b with about := some subject }).1,
        { (runFrom x { b with about := some subject }).2 with about := b.about }) := by
  rw [about, runFrom_bind_ok (runFrom_get _), runFrom_bind_ok (runFrom_modify _ _),
    runFrom_bind_ok (runFrom_settle _ _), runFrom_bind_ok (runFrom_modify _ _), runFrom_giveBack]

/-- Handled work ends as it does apart, unless it ends in an ordinary failure. -/
theorem runFrom_handling (x : Work σ κ η α) (handler : Failure → Work σ κ η α)
    (b : Bench σ κ η) :
    runFrom (handling x handler) b = match runFrom x b with
      | (.ok a, b') => (.ok a, b')
      | (.error f, b') => if f.isFault then runFrom (handler f) b' else (.error f, b') := by
  rw [handling, runFrom_bind_ok (runFrom_settle _ _)]
  rcases runFrom x b with ⟨f | a, b'⟩
  · cases hf : f.isFault <;> simp [hf]
  · rfl

end Work

end Mailroom
