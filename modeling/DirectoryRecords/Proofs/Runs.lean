import DirectoryRecords.Error

/-!
# Runs — actions that may fail, one after the other

    An action on a state, a directory or a session, ends with an answer or an
    error and with the state it leaves in either case. Two actions in a row
    run one after the other as long as they succeed, and a caught error is
    handled in the state that the failed action left.
-/

namespace DirectoryRecords

variable {σ α β : Type}

/-- The second of two actions runs in the state that the first one leaves, if that one
    succeeds. -/
theorem bind_run (action : ExceptT Error (StateM σ) α) (next : α → ExceptT Error (StateM σ) β)
    (state : σ) :
    (action >>= next) state = match action state with
      | (.ok answer, after) => next answer after
      | (.error e, after) => (.error e, after) := by
  simp only [bind, ExceptT.bind, ExceptT.mk, StateT.bind]
  cases action state with
  | mk outcome after =>
      cases outcome with
      | ok answer => rfl
      | error e => rfl

/-- A caught error is handled in the state that the failed action leaves. -/
theorem tryCatch_run (action : ExceptT Error (StateM σ) α)
    (handle : Error → ExceptT Error (StateM σ) α) (state : σ) :
    (tryCatch action handle : ExceptT Error (StateM σ) α) state = match action state with
      | (.ok answer, after) => (.ok answer, after)
      | (.error e, after) => handle e after := by
  simp only [tryCatch, tryCatchThe, MonadExceptOf.tryCatch, ExceptT.tryCatch, ExceptT.mk, bind,
    StateT.bind]
  cases action state with
  | mk outcome after =>
      cases outcome with
      | ok answer => rfl
      | error e => rfl

/-- Two actions in a row succeed only if both do. -/
theorem eq_ok_of_bind {action : ExceptT Error (StateM σ) α}
    {next : α → ExceptT Error (StateM σ) β} {state after : σ} {result : β}
    (h : (action >>= next) state = (.ok result, after)) :
    ∃ answer middle, action state = (.ok answer, middle) ∧
      next answer middle = (.ok result, after) := by
  rw [bind_run] at h
  cases hrun : action state with
  | mk outcome middle =>
      rw [hrun] at h
      cases outcome with
      | ok answer => exact ⟨answer, middle, rfl, h⟩
      | error e => exact nomatch (congrArg Prod.fst h)

end DirectoryRecords
