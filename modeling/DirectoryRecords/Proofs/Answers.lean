import DirectoryRecords.Directory.Basic

/-!
# Answers — reading actions and the calls they leave behind

    An action that only reads sees a directory whose log grows while it runs.
    What it answers must not depend on the log, so it is described for a
    directory with any log at all: `Answers source action answer calls` says
    that the action succeeds there and only adds its calls at the end.

    Actions in a row answer in a row (`Answers.bind`), and an action for each
    element of a list answers element by element, the calls standing in the
    order of the list (`Answers.mapM`, by induction on the list).
-/

namespace DirectoryRecords.Directory

variable {α β : Type}

/-- The action succeeds on the directory whatever was logged before, and adds calls to the log. -/
def Answers (source : Directory) (action : Action α) (answer : α) (calls : List Call) : Prop :=
  ∀ earlier, action { source with calls := earlier }
    = (.ok answer, { source with calls := earlier ++ calls })

variable {source : Directory}

theorem Answers.run {action : Action α} {answer : α} {calls : List Call}
    (h : Answers source action answer calls) :
    action source = (.ok answer, { source with calls := source.calls ++ calls }) :=
  h source.calls

theorem answers_pure (answer : α) : Answers source (pure answer) answer [] := by
  intro earlier
  rw [List.append_nil]
  rfl

/-- An action that uses the answer of another one logs its calls after those. -/
theorem Answers.bind {action : Action α} {next : α → Action β} {answer : α} {result : β}
    {calls more : List Call} (h : Answers source action answer calls)
    (hnext : Answers source (next answer) result more) :
    Answers source (action >>= next) result (calls ++ more) := by
  intro earlier
  have hrun : (action >>= next) { source with calls := earlier }
      = next answer { source with calls := earlier ++ calls } := by
    show (match action { source with calls := earlier } with
      | (outcome, after) => ExceptT.bindCont next outcome after) = _
    rw [h earlier]
    rfl
  -- The second action finds the calls of the first one in the log.
  rw [hrun, hnext (earlier ++ calls), List.append_assoc]

/-- The answer of an action, changed by a function. -/
theorem Answers.map {action : Action α} {answer : α} {calls : List Call}
    (h : Answers source action answer calls) (f : α → β) :
    Answers source (do return f (← action)) (f answer) calls := by
  have hboth : Answers source (action >>= fun found => pure (f found)) (f answer) (calls ++ []) :=
    h.bind (answers_pure (f answer))
  rwa [List.append_nil] at hboth

/-- Actions for the elements of a list answer one by one and log their calls in this order. -/
theorem Answers.mapM {elements : List α} {action : α → Action β} {answer : α → β}
    {calls : α → List Call}
    (h : ∀ element ∈ elements, Answers source (action element) (answer element) (calls element)) :
    Answers source (elements.mapM action) (elements.map answer) (elements.flatMap calls) := by
  induction elements with
  | nil => exact answers_pure []
  | cons element rest ih =>
      have hfirst := h element List.mem_cons_self
      have hrest := ih fun e he => h e (List.mem_cons_of_mem element he)
      rw [List.mapM_cons]
      exact hfirst.bind (hrest.map (answer element :: ·))

end DirectoryRecords.Directory
