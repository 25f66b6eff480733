import VoiceDebugger.Intent.Basic
import VoiceDebugger.Proofs.Text.Code

/-!
The normal form of an intent.

The confidence of an intent that was accepted lies between zero and one. An intent with such a
confidence, written as a value, is accepted and comes back as it was.
-/

namespace VoiceDebugger

/-! ### Outcomes of checks -/

namespace Checked

variable {α β : Type}

theorem both_eq_good {a : Checked α} {b : Checked β} {x : α} {y : β} :
    a.both b = .good (x, y) ↔ a = .good x ∧ b = .good y := by
  cases a <;> cases b <;> simp [both]

theorem andThen_eq_good {a : Checked α} {f : α → Checked β} {y : β} :
    a.andThen f = .good y ↔ ∃ x, a = .good x ∧ f x = .good y := by
  cases a <;> simp [andThen]

theorem map_eq_good {a : Checked α} {f : α → β} {y : β} :
    a.map f = .good y ↔ ∃ x, a = .good x ∧ f x = y := by
  simp [map, andThen_eq_good]

theorem finish_eq_ok {a : Checked α} {model : String} {x : α} :
    a.finish model = .ok x ↔ a = .good x := by
  cases a <;> simp [finish]

end Checked

namespace Check

theorem required_eq_good {α : Type} {name : String} {check : Check α} {location : List String}
    {fields : List (CodeText × Json)} {x : α} :
    required name check location fields = .good x ↔
      ∃ v, Json.field? name fields = some v ∧ check (location ++ [name]) v = .good x := by
  rw [required]
  cases Json.field? name fields <;> simp [Checked.fault]

theorem notNull_eq_good {α : Type} {check : Check α} {location : List String} {v : Json} {x : α}
    (passed : notNull check location v = .good x) : check location v = .good x := by
  unfold notNull at passed
  split at passed
  · cases passed
  · exact passed

/-- A double that passed lies between the limits. -/
theorem between_bounds {low high : Float} {location : List String} {v : Json} {x : Float}
    (passed : between low high location v = .good x) : low ≤ x ∧ x ≤ high := by
  obtain ⟨y, -, tested⟩ := Checked.andThen_eq_good.mp passed
  split at tested
  · cases tested
  · next aboveLow =>
    split at tested
    · cases tested
    · next belowHigh =>
      obtain rfl := Checked.good.inj tested
      simp only [Bool.not_eq_true, Bool.not_eq_false', decide_eq_true_eq] at aboveLow belowHigh
      exact ⟨aboveLow, belowHigh⟩

theorem between_float {low high : Float} (location : List String) {x : Float} (aboveLow : low ≤ x)
    (belowHigh : x ≤ high) : between low high location (.float x) = .good x := by
  change (if (!decide (low ≤ x)) = true then _ else if (!decide (x ≤ high)) = true then _ else _) = _
  simp only [aboveLow, belowHigh, decide_true, Bool.not_true, Bool.false_eq_true, ↓reduceIte]

/-! ### Written fields -/

theorem orNull_text (location : List String) (o : Option CodeText) :
    orNull text location (Json.ofText? o) = .good o := by
  cases o <;> rfl

theorem orNull_language (location : List String) (o : Option Language) :
    orNull Check.language location (Json.ofString? (o.map (·.name))) = .good o := by
  rcases o with _ | language
  · rfl
  · cases language <;> rfl

theorem orNull_symbolScope (location : List String) (o : Option SymbolScope) :
    orNull symbolScope location (Json.ofString? (o.map (·.name))) = .good o := by
  rcases o with _ | scope
  · rfl
  · cases scope <;> rfl

theorem intentKind_name (location : List String) (kind : IntentKind) :
    intentKind location (.str kind.name) = .good kind := by
  cases kind <;> rfl

end Check

theorem textFields?_map (fields : List (CodeText × Json)) :
    textFields? (fields.map fun (k, v) => (.str k, v)) = some fields := by
  induction fields with
  | nil => rfl
  | cons entry fields ih => rw [List.map_cons, textFields?, ih]; rfl

theorem Check.entities_obj (location : List String) (fields : List (CodeText × Json)) :
    Check.entities location (.obj fields) = Entities.ofFields location fields := by
  rw [Check.entities, Check.mapping?]
  dsimp only
  rw [textFields?_map]

/-! ### Intents -/

theorem Check.entities_toJson (location : List String) (e : Entities) :
    Check.entities location e.toJson = .good e := by
  obtain ⟨file, symbol, language, scope, line, function, errorType⟩ := e
  rw [Entities.toJson, Check.entities_obj]
  refine Checked.map_eq_good.mpr
    ⟨(file, symbol, language, scope, line, function, errorType), ?_, rfl⟩
  simp only [Checked.both_eq_good]
  refine ⟨Check.orNull_text _ _, Check.orNull_text _ _, Check.orNull_language _ _,
    Check.orNull_symbolScope _ _, ?_, Check.orNull_text _ _, Check.orNull_text _ _⟩
  cases line <;> rfl

namespace Intent

/-- An intent is accepted in the form in which it is written, and comes back as it was. -/
theorem ofJson_toJson (i : Intent) (low : 0 ≤ i.confidence) (high : i.confidence ≤ 1) :
    Intent.ofJson i.toJson = .ok i := by
  refine Checked.finish_eq_ok.mpr (Checked.map_eq_good.mpr
    ⟨(i.kind, i.confidence, i.entities, i.followUp, i.rawText), ?_, rfl⟩)
  simp only [Checked.both_eq_good]
  exact ⟨Check.intentKind_name _ _, Check.between_float _ low high, Check.entities_toJson _ _, rfl,
    Check.orNull_text _ _⟩

theorem confidence_of_ofJson {v : Json} {i : Intent} (accepted : Intent.ofJson v = .ok i) :
    0 ≤ i.confidence ∧ i.confidence ≤ 1 := by
  unfold Intent.ofJson at accepted
  split at accepted
  · next fields =>
    obtain ⟨⟨kind, confidence, about, followUp, rawText⟩, checked, rfl⟩ :=
      Checked.map_eq_good.mp (Checked.finish_eq_ok.mp accepted)
    obtain ⟨-, checked⟩ := Checked.both_eq_good.mp checked
    obtain ⟨checked, -⟩ := Checked.both_eq_good.mp checked
    obtain ⟨v, -, passed⟩ := Check.required_eq_good.mp checked
    exact Check.between_bounds (Check.notNull_eq_good passed)
  · cases accepted

end Intent

end VoiceDebugger
