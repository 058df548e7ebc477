/-!
# Schedules

What a rehearsed session or server does next is kept in queues, one for each kind of call. A call
takes the head of its queue. An empty place lets one call pass without effect; a lasting entry
stays at the head for good.
-/

namespace Mailroom

/-- An entry of a queue. -/
structure Due (α : Type) where
  /-- What is due. -/
  value : α
  /-- Whether it stays at the head of its queue. -/
  lasting : Bool

/-- Queues by key. -/
abbrev Schedule (κ α : Type) := List (κ × List (Option (Due α)))

/-- Changing the entries of one key, by induction on the entries. -/
theorem lookup_map_entry {κ β : Type} [DecidableEq κ] (f : β → β) (key key' : κ)
    (entries : List (κ × β)) :
    (entries.map fun e => if e.1 = key then (e.1, f e.2) else e).lookup key' =
      if key' = key then (entries.lookup key').map f else entries.lookup key' := by
  induction entries with
  | nil => simp
  | cons e entries ih =>
    obtain ⟨k, x⟩ := e
    have hentry : (if k = key then (k, f x) else (k, x)) = (k, if k = key then f x else x) := by
      split <;> rfl
    rw [List.map_cons, hentry, List.lookup_cons, List.lookup_cons]
    by_cases hk : key' = k
    · subst hk
      by_cases hkey : key' = key <;> simp [hkey]
    · rw [beq_eq_false_iff_ne.mpr hk]
      exact ih

namespace Schedule

variable {κ α : Type}

/-- What the head of a queue makes due. -/
def dueOf : List (Option (Due α)) → Option α
  | some due :: _ => some due.value
  | none :: _ | [] => none

/-- A queue after its head was taken. -/
def restOf : List (Option (Due α)) → List (Option (Due α))
  | some due :: rest => if due.lasting then some due :: rest else rest
  | none :: rest => rest
  | [] => []

theorem mem_of_mem_restOf {q : List (Option (Due α))} {d : Option (Due α)} (h : d ∈ restOf q) :
    d ∈ q := by
  cases q with
  | nil => exact h
  | cons head rest =>
    cases head with
    | none => exact List.mem_cons_of_mem _ h
    | some due =>
      simp only [restOf] at h
      split at h
      · exact h
      · exact List.mem_cons_of_mem _ h

theorem mem_of_dueOf {q : List (Option (Due α))} {a : α} (h : dueOf q = some a) :
    ∃ d, some d ∈ q ∧ d.value = a := by
  cases q with
  | nil => cases h
  | cons head rest =>
    cases head with
    | none => cases h
    | some due =>
      cases h
      exact ⟨due, List.mem_cons_self, rfl⟩

variable [DecidableEq κ]

/-- What is due for a key, and the queues afterwards. A missing or exhausted queue has nothing
due. -/
def take (s : Schedule κ α) (key : κ) : Option α × Schedule κ α :=
  match s.lookup key with
  | some (some due :: rest) =>
    if due.lasting then (some due.value, s)
    else (some due.value, s.map fun q => if q.1 = key then (q.1, rest) else q)
  | some (none :: rest) => (none, s.map fun q => if q.1 = key then (q.1, rest) else q)
  | _ => (none, s)

/-- What is due is at the head of the queue. -/
theorem take_fst (s : Schedule κ α) (key : κ) : (s.take key).1 = (s.lookup key).bind dueOf := by
  unfold take
  cases s.lookup key with
  | none => rfl
  | some q =>
    cases q with
    | nil => rfl
    | cons head rest =>
      cases head with
      | none => rfl
      | some due =>
        dsimp only
        split <;> rfl

/-- Taking from one queue leaves the others alone. -/
theorem lookup_take (s : Schedule κ α) (key key' : κ) :
    (s.take key).2.lookup key' =
      if key' = key then (s.lookup key).map restOf else s.lookup key' := by
  have hsame {o} (ho : s.lookup key = o) (h : o.map restOf = o) :
      s.lookup key' = if key' = key then o.map restOf else s.lookup key' := by
    split
    · next hk => rw [h, hk, ho]
    · rfl
  have hmoved {q} (hq : s.lookup key = some q) :
      (s.map fun e => if e.1 = key then (e.1, restOf q) else e).lookup key' =
        if key' = key then some (restOf q) else s.lookup key' := by
    rw [lookup_map_entry (fun _ => restOf q) key key' s]
    split
    · next hk => rw [hk, hq, Option.map_some]
    · rfl
  unfold take
  cases ho : s.lookup key with
  | none => exact hsame ho rfl
  | some q =>
    cases q with
    | nil => exact hsame ho rfl
    | cons head rest =>
      cases head with
      | none => exact hmoved ho
      | some due =>
        cases hl : due.lasting with
        | true =>
          simp only [hl, if_true]
          exact hsame ho (by simp [restOf, hl])
        | false =>
          have hm := hmoved ho
          simp only [restOf, hl, Bool.false_eq_true, if_false] at hm
          simpa [hl, restOf] using hm

end Schedule

end Mailroom
