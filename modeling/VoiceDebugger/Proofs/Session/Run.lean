import VoiceDebugger.Session.Action

/-!
Running actions, and changes of a session that they do not notice.

An action runs in a session to an outcome and a session behind it. A change of the session passes
through an action if it makes no difference whether it comes before or behind the action: the action
neither reads nor writes what the change touches.
-/

namespace VoiceDebugger.Action

variable {α β : Type}

/-! ### Running -/

/-- What an action comes to in a session, and the session behind it. -/
def runIn (a : Action α) (s : Session) : Except Failure α × Session :=
  a.run.run s

@[simp]
theorem runIn_pure (x : α) (s : Session) : (pure x : Action α).runIn s = (.ok x, s) := rfl

@[simp]
theorem runIn_fail (f : Failure) (s : Session) : (fail f : Action α).runIn s = (.error f, s) := rfl

@[simp]
theorem runIn_get (s : Session) : (get : Action Session).runIn s = (.ok s, s) := rfl

@[simp]
theorem runIn_set (s t : Session) : (set t : Action Unit).runIn s = (.ok (), t) := rfl

@[simp]
theorem runIn_modify (g : Session → Session) (s : Session) :
    (modify g : Action Unit).runIn s = (.ok (), g s) := rfl

@[simp]
theorem runIn_attempt (a : Action α) (s : Session) :
    (attempt a).runIn s = (.ok (a.runIn s).1, (a.runIn s).2) := rfl

@[simp]
theorem runIn_ofOutcome (e : Except Failure α) (s : Session) : (ofOutcome e).runIn s = (e, s) := by
  cases e <;> rfl

theorem runIn_bind (a : Action α) (f : α → Action β) (s : Session) :
    (a >>= f).runIn s =
      match a.runIn s with
      | (.ok x, t) => (f x).runIn t
      | (.error e, t) => (.error e, t) := by
  simp only [runIn, ExceptT.run_bind, StateT.run_bind]
  change (match StateT.run (ExceptT.run a) s with | (x, t) => _) = _
  obtain ⟨outcome, t⟩ := StateT.run (ExceptT.run a) s
  cases outcome <;> rfl

theorem runIn_bind_ok {a : Action α} {x : α} {s t : Session} (ran : a.runIn s = (.ok x, t))
    (f : α → Action β) : (a >>= f).runIn s = (f x).runIn t := by
  rw [runIn_bind, ran]

theorem runIn_bind_error {a : Action α} {e : Failure} {s t : Session}
    (ran : a.runIn s = (.error e, t)) (f : α → Action β) : (a >>= f).runIn s = (.error e, t) := by
  rw [runIn_bind, ran]

/-- The session behind an action that ends by wrapping up its result is the one behind the
action. -/
theorem runIn_map_snd (a : Action α) (f : α → β) (s : Session) :
    ((do return f (← a)).runIn s).2 = (a.runIn s).2 := by
  rw [runIn_bind]
  obtain ⟨outcome | x, t⟩ := a.runIn s
  · rfl
  · rfl

/-! ### Printing -/

theorem runIn_say (line : String) (s : Session) :
    (say line).runIn s = (.ok (), { s with output := s.output ++ (line ++ "\n") }) := rfl

/-- Lines as they are printed. -/
def printedLines (lines : List String) : String :=
  String.join (lines.map (· ++ "\n"))

theorem printedLines_cons (line : String) (rest : List String) :
    printedLines (line :: rest) = line ++ "\n" ++ printedLines rest :=
  String.join_cons

theorem printedLines_append (first second : List String) :
    printedLines (first ++ second) = printedLines first ++ printedLines second := by
  rw [printedLines, List.map_append, String.join_append]
  rfl

theorem runIn_sayAll (lines : List String) (s : Session) :
    (sayAll lines).runIn s = (.ok (), { s with output := s.output ++ printedLines lines }) := by
  induction lines generalizing s with
  | nil =>
    change (Except.ok (), s) = (Except.ok (), { s with output := s.output ++ "" })
    rw [String.append_empty]
  | cons line rest ih =>
    rw [sayAll, runIn_bind_ok (runIn_say line s), ih, printedLines_cons]
    simp only [String.append_assoc]

/-! ### Changes that pass through -/

/-- A change of the session passes through an action. -/
def Passes (change : Session → Session) (a : Action α) : Prop :=
  ∀ s, a.runIn (change s) = ((a.runIn s).1, change (a.runIn s).2)

namespace Passes

variable {change : Session → Session}

theorem pure (x : α) : Passes change (Pure.pure x : Action α) := fun _ => rfl

theorem fail (f : Failure) : Passes change (Action.fail f : Action α) := fun _ => rfl

theorem ofOutcome (e : Except Failure α) : Passes change (Action.ofOutcome e) := by
  intro s
  simp only [runIn_ofOutcome]

theorem bind {a : Action α} {f : α → Action β} (first : Passes change a)
    (second : ∀ x, Passes change (f x)) : Passes change (a >>= f) := by
  intro s
  rw [runIn_bind, runIn_bind, first s]
  obtain ⟨outcome, t⟩ := a.runIn s
  cases outcome with
  | error e => rfl
  | ok x => exact second x t

theorem attempt {a : Action α} (inner : Passes change a) : Passes change (Action.attempt a) := by
  intro s
  simp only [runIn_attempt, inner s]

theorem modify {g : Session → Session} (swaps : ∀ s, g (change s) = change (g s)) :
    Passes change (modify g : Action Unit) := by
  intro s
  simp only [runIn_modify, swaps s]

/-- Reading the session is harmless where what follows does not read what was changed. -/
theorem getBind {f : Session → Action α}
    (next : ∀ s, (f (change s)).runIn (change s) = (((f s).runIn s).1, change ((f s).runIn s).2)) :
    Passes change (get >>= f) := by
  intro s
  rw [runIn_bind_ok (runIn_get _), runIn_bind_ok (runIn_get _), next s]

end Passes

end VoiceDebugger.Action
