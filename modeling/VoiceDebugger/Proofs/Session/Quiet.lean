import VoiceDebugger.Proofs.Session.Run

/-!
What actions leave as it was, and what they come to apart from what they print.

No action reads what was printed. So what an action comes to and what it leaves behind can be told
without it, and an action that prints and does nothing else leaves everything else as it was.
-/

namespace VoiceDebugger

/-- A session without what it has printed. -/
def Session.unprinted (s : Session) : Session :=
  { s with output := "", errors := "" }

/-- A session that has printed something else. -/
def Session.printing (s : Session) (output errors : String) : Session :=
  { s with output := output, errors := errors }

theorem Session.eq_printing {s t : Session} (same : t.unprinted = s.unprinted) :
    t = s.printing t.output t.errors := by
  cases s
  cases t
  simp only [unprinted, Session.mk.injEq] at same
  simp only [printing, Session.mk.injEq]
  simp [same]

namespace Action

variable {α β : Type}

/-! ### Quiet actions -/

/-- An action that may print and fail, and does nothing else. -/
def Quiet (a : Action α) : Prop :=
  ∀ s, (a.runIn s).2.unprinted = s.unprinted

namespace Quiet

theorem pure (x : α) : Quiet (Pure.pure x : Action α) := fun _ => rfl

theorem fail (f : Failure) : Quiet (Action.fail f : Action α) := fun _ => rfl

theorem get : Quiet (MonadState.get : Action Session) := fun _ => rfl

theorem ofOutcome (e : Except Failure α) : Quiet (Action.ofOutcome e) := fun s => by
  rw [runIn_ofOutcome]

theorem ofLoose (e : Except LooseFault α) : Quiet (Action.ofLoose e) := ofOutcome _

theorem bind {a : Action α} {f : α → Action β} (first : Quiet a) (second : ∀ x, Quiet (f x)) :
    Quiet (a >>= f) := by
  intro s
  have same := first s
  rw [runIn_bind]
  generalize a.runIn s = ran at same ⊢
  obtain ⟨outcome | x, t⟩ := ran
  · exact same
  · exact (second x t).trans same

theorem ite {c : Prop} [Decidable c] {a b : Action α} (yes : Quiet a) (no : Quiet b) :
    Quiet (if c then a else b) := by
  split
  · exact yes
  · exact no

end Quiet

theorem quiet_write (text : String) : Quiet (write text) := fun _ => rfl

theorem quiet_say (line : String) : Quiet (say line) := fun _ => rfl

theorem quiet_sayAll (lines : List String) : Quiet (sayAll lines) := by
  induction lines with
  | nil => exact .pure ()
  | cons line rest ih => exact .bind (quiet_say line) fun _ => ih

/-! ### Effects -/

/-- What an action comes to in a session, and the session behind it without what was printed. -/
def effectIn (a : Action α) (s : Session) : Except Failure α × Session :=
  ((a.runIn s).1, (a.runIn s).2.unprinted)

theorem effectIn_of_runIn {a : Action α} {s t : Session} {outcome : Except Failure α}
    (ran : a.runIn s = (outcome, t)) : a.effectIn s = (outcome, t.unprinted) := by
  rw [effectIn, ran]

theorem runIn_of_effectIn {a : Action α} {s t : Session} {outcome : Except Failure α}
    (effect : a.effectIn s = (outcome, t.unprinted)) :
    ∃ output errors, a.runIn s = (outcome, t.printing output errors) := by
  obtain ⟨same, left⟩ := Prod.mk.inj effect
  exact ⟨_, _, Prod.ext same (Session.eq_printing left)⟩

@[simp]
theorem effectIn_pure (x : α) (s : Session) :
    (pure x : Action α).effectIn s = (.ok x, s.unprinted) := rfl

@[simp]
theorem effectIn_fail (f : Failure) (s : Session) :
    (fail f : Action α).effectIn s = (.error f, s.unprinted) := rfl

@[simp]
theorem effectIn_ofOutcome (e : Except Failure α) (s : Session) :
    (ofOutcome e).effectIn s = (e, s.unprinted) := by
  rw [effectIn, runIn_ofOutcome]

theorem effectIn_attempt (a : Action α) (s : Session) :
    (attempt a).effectIn s = (.ok (a.effectIn s).1, (a.effectIn s).2) := rfl

/-- Behind an action that came to a value, the next one goes on, whatever was printed. -/
theorem effectIn_bind_ok {a : Action α} {f : α → Action β} {x : α} {s t : Session}
    {result : Except Failure β × Session} (first : a.effectIn s = (.ok x, t.unprinted))
    (next : ∀ output errors, (f x).effectIn (t.printing output errors) = result) :
    (a >>= f).effectIn s = result := by
  obtain ⟨output, errors, ran⟩ := runIn_of_effectIn first
  rw [effectIn, runIn_bind_ok ran]
  exact next output errors

theorem effectIn_bind_error {a : Action α} {f : α → Action β} {e : Failure} {s t : Session}
    (first : a.effectIn s = (.error e, t)) : (a >>= f).effectIn s = (.error e, t) := by
  obtain ⟨outcome, left⟩ := Prod.mk.inj first
  have ran : a.runIn s = (.error e, (a.runIn s).2) := Prod.ext outcome rfl
  rw [effectIn, runIn_bind_error ran]
  exact Prod.ext rfl left

theorem effectIn_write (text : String) (s : Session) :
    (write text).effectIn s = (.ok (), s.unprinted) := rfl

theorem effectIn_say (line : String) (s : Session) :
    (say line).effectIn s = (.ok (), s.unprinted) := rfl

theorem effectIn_sayAll (lines : List String) (s : Session) :
    (sayAll lines).effectIn s = (.ok (), s.unprinted) := by
  induction lines generalizing s with
  | nil => rfl
  | cons line rest ih => exact effectIn_bind_ok (effectIn_say line s) fun _ _ => ih _

/-- Up to what is printed, an action in a session comes down to another one in another session. -/
def Reaches (a : Action α) (s : Session) (b : Action α) (t : Session) : Prop :=
  ∃ output errors, a.runIn s = b.runIn (t.printing output errors)

theorem Reaches.bind {a : Action α} {f : α → Action β} {b : Action β} {x : α} {s t u : Session}
    (first : a.effectIn s = (.ok x, t.unprinted))
    (next : ∀ output errors, Reaches (f x) (t.printing output errors) b u) :
    Reaches (a >>= f) s b u := by
  obtain ⟨output, errors, ran⟩ := runIn_of_effectIn first
  obtain ⟨output', errors', later⟩ := next output errors
  exact ⟨output', errors', (runIn_bind_ok ran f).trans later⟩

/-! ### Moves -/

/-- Whatever an action comes to in a session, it leaves another one behind, up to what is
printed. -/
def Moves (a : Action α) (s t : Session) : Prop :=
  (a.effectIn s).2 = t.unprinted

namespace Moves

theorem of_effectIn {a : Action α} {outcome : Except Failure α} {s t : Session}
    (effect : a.effectIn s = (outcome, t.unprinted)) : Moves a s t :=
  congrArg Prod.snd effect

/-- Behind an action, quiet ones change nothing more. -/
theorem then_quiet {a : Action α} {f : α → Action β} {s t : Session} (first : Moves a s t)
    (next : ∀ x, Quiet (f x)) : Moves (a >>= f) s t := by
  have left : (a.runIn s).2.unprinted = t.unprinted := first
  rw [Moves, effectIn, runIn_bind]
  generalize a.runIn s = ran at left ⊢
  obtain ⟨failed | x, u⟩ := ran
  · exact left
  · exact (next x u).trans left

theorem bind {a : Action α} {f : α → Action β} {x : α} {s t u : Session}
    (first : a.effectIn s = (.ok x, t.unprinted))
    (next : ∀ output errors, Moves (f x) (t.printing output errors) u) : Moves (a >>= f) s u := by
  obtain ⟨output, errors, ran⟩ := runIn_of_effectIn first
  rw [Moves, effectIn, runIn_bind_ok ran]
  exact next output errors

theorem effectIn_attempt {a : Action α} {s t : Session} (inner : Moves a s t) :
    (Action.attempt a).effectIn s = (.ok (a.effectIn s).1, t.unprinted) := by
  rw [Action.effectIn_attempt, inner]

theorem attempt {a : Action α} {s t : Session} (inner : Moves a s t) :
    Moves (Action.attempt a) s t := inner

end Moves

/-! ### What holds of the values that actions come to -/

/-- A row of actions that comes to a value has come to one with the first of them. -/
theorem of_runIn_bind_eq_ok {a : Action α} {f : α → Action β} {y : β} {s u : Session}
    (ran : (a >>= f).runIn s = (.ok y, u)) :
    ∃ x t, a.runIn s = (.ok x, t) ∧ (f x).runIn t = (.ok y, u) := by
  rw [runIn_bind] at ran
  generalize a.runIn s = first at ran
  obtain ⟨failed | x, t⟩ := first
  · cases ran
  · exact ⟨x, t, rfl, ran⟩

/-- Where an action comes to a value in a session, whatever that has printed, something holds of the
value and the session behind it. -/
def Yields (a : Action α) (s : Session) (post : α → Session → Prop) : Prop :=
  ∀ output errors x t, a.runIn (s.printing output errors) = (.ok x, t) → post x t

namespace Yields

variable {a : Action α} {f : α → Action β} {s t : Session} {post : β → Session → Prop}

theorem of_pure {y : β} (holds : ∀ output errors, post y (s.printing output errors)) :
    Yields (Pure.pure y) s post := by
  rintro output errors _ _ ⟨⟩
  exact holds output errors

theorem bind {mid : α → Session → Prop} (first : Yields a s mid)
    (next : ∀ x t, mid x t → Yields (f x) t post) : Yields (a >>= f) s post := by
  intro output errors y u ran
  obtain ⟨x, t, went, later⟩ := of_runIn_bind_eq_ok ran
  exact next x t (first output errors x t went) t.output t.errors y u later

theorem mono {b : Action β} {mid : β → Session → Prop} (first : Yields b s mid)
    (weaker : ∀ y u, mid y u → post y u) : Yields b s post :=
  fun output errors y u ran => weaker y u (first output errors y u ran)

/-- The value of an action and the session behind it are known. -/
theorem of_ok {b : Action β} {y : β}
    (effect : ∀ output errors, b.effectIn (s.printing output errors) = (.ok y, t.unprinted))
    (holds : ∀ output errors, post y (t.printing output errors)) : Yields b s post := by
  intro output errors z u ran
  obtain ⟨output', errors', came⟩ := runIn_of_effectIn (effect output errors)
  obtain ⟨same, rfl⟩ := Prod.mk.inj (came.symm.trans ran)
  rw [← Except.ok.inj same]
  exact holds output' errors'

/-- The session behind an action is known. -/
theorem of_moves {b : Action β} (moves : ∀ output errors, Moves b (s.printing output errors) t)
    (holds : ∀ y output errors, post y (t.printing output errors)) : Yields b s post := by
  intro output errors y u ran
  have left : (b.runIn (s.printing output errors)).2.unprinted = t.unprinted := moves output errors
  rw [ran] at left
  have same : u = t.printing u.output u.errors := Session.eq_printing left
  rw [same]
  exact holds y _ _

/-- The first action comes to an outcome that is known. -/
theorem after {e : Except Failure α}
    (first : ∀ output errors, a.effectIn (s.printing output errors) = (e, t.unprinted))
    (next : ∀ x, e = .ok x → Yields (f x) t post) : Yields (a >>= f) s post := by
  intro output errors y u ran
  obtain ⟨x, v, went, later⟩ := of_runIn_bind_eq_ok ran
  obtain ⟨output', errors', came⟩ := runIn_of_effectIn (first output errors)
  obtain ⟨same, rfl⟩ := Prod.mk.inj (came.symm.trans went)
  exact next x same output' errors' y u later

theorem after_ok {x : α}
    (first : ∀ output errors, a.effectIn (s.printing output errors) = (.ok x, t.unprinted))
    (next : Yields (f x) t post) : Yields (a >>= f) s post :=
  after first fun _ same => Except.ok.inj same ▸ next

theorem after_error {e : Failure}
    (first : ∀ output errors, a.effectIn (s.printing output errors) = (.error e, t.unprinted)) :
    Yields (a >>= f) s post :=
  after first nofun

theorem quiet (first : Quiet a) (next : ∀ x, Yields (f x) s post) : Yields (a >>= f) s post := by
  intro output errors y u ran
  obtain ⟨x, t, went, later⟩ := of_runIn_bind_eq_ok ran
  have left := first (s.printing output errors)
  rw [went] at left
  have same : t = s.printing t.output t.errors := Session.eq_printing left
  rw [same] at later
  exact next x _ _ y u later

end Yields

end Action

end VoiceDebugger
