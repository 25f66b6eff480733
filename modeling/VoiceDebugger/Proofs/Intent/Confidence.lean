import VoiceDebugger.Intent.Detect
import VoiceDebugger.Proofs.Pattern.Surrounded

/-!
More words never make a sentence less clear.

The confidence in an intent is that of the greatest weight among the phrasings that a text has. A
longer text has the same phrasings and perhaps more, so its greatest weight is no smaller. Weights
are compared in place of confidences, which are doubles.
-/

namespace VoiceDebugger

/-- Whether a text has one of the phrasings. -/
def Phrasing.isIn (p : Phrasing) (text : List Char) : Bool :=
  p.patterns.any (·.occursIn text)

theorem Phrasing.score_eq (p : Phrasing) (text : List Char) :
    p.score text = if p.isIn text then some (confidenceOf p.weight.toFloat) else none := rfl

/-! ### The confidence of a weight -/

/-- The confidence of a text by the greatest weight of its phrasings; without any phrasing that is
zero. -/
def confidenceAt (weight : Nat) : Float :=
  if weight = 0 then 0.5 else confidenceOf weight.toFloat

/-- The weights that phrasings have. -/
def weightRange : List Nat := [1, 2, 3]

theorem weight_mem_range {p : Phrasing} (known : p ∈ phrasings) : p.weight ∈ weightRange := by
  have weights : phrasings.map (·.weight) = [3, 3, 2, 3, 2, 2, 2, 2, 2, 1] := rfl
  have within : [3, 3, 2, 3, 2, 2, 2, 2, 2, 1] ⊆ weightRange := by decide
  exact within (weights ▸ List.mem_map_of_mem known)

theorem confidenceAt_lt_iff :
    ∀ m ∈ weightRange, ∀ n ∈ weightRange, confidenceAt m < confidenceAt n ↔ m < n := by
  decide +kernel

theorem confidenceAt_mono :
    ∀ m ∈ 0 :: weightRange, ∀ n ∈ 0 :: weightRange, m ≤ n → confidenceAt m ≤ confidenceAt n := by
  decide +kernel

theorem confidenceAt_weight {weight : Nat} (known : weight ∈ weightRange) :
    confidenceAt weight = confidenceOf weight.toFloat := by
  have positive : weight ≠ 0 := by
    rintro rfl
    exact absurd known (by decide)
  rw [confidenceAt, if_neg positive]

/-! ### The greatest weight -/

/-- The greatest weight of those phrasings that a text has. -/
def topWeight (text : List Char) : List Phrasing → Nat
  | [] => 0
  | p :: rest => max (if p.isIn text then p.weight else 0) (topWeight text rest)

theorem topWeight_mem (text : List Char) (ps : List Phrasing) (known : ps ⊆ phrasings) :
    topWeight text ps ∈ 0 :: weightRange := by
  induction ps with
  | nil => exact List.mem_cons_self
  | cons p ps ih =>
    obtain ⟨first, others⟩ := List.cons_subset.mp known
    have own : (if p.isIn text then p.weight else 0) ∈ 0 :: weightRange := by
      split
      · exact List.mem_cons_of_mem _ (weight_mem_range first)
      · exact List.mem_cons_self
    rw [topWeight]
    rcases Nat.le_total (if p.isIn text then p.weight else 0) (topWeight text ps) with le | le
    · rw [Nat.max_eq_right le]
      exact ih others
    · rw [Nat.max_eq_left le]
      exact own

theorem topWeight_mono {text longer : List Char} (ps : List Phrasing)
    (more : ∀ p ∈ ps, p.isIn text = true → p.isIn longer = true) :
    topWeight text ps ≤ topWeight longer ps := by
  induction ps with
  | nil => exact Nat.le_refl _
  | cons p ps ih =>
    obtain ⟨first, others⟩ := List.forall_mem_cons.mp more
    have rest := ih others
    have own : (if p.isIn text then p.weight else 0) ≤ (if p.isIn longer then p.weight else 0) := by
      by_cases has : p.isIn text = true
      · have same : (if p.isIn text then p.weight else 0) = if p.isIn longer then p.weight else 0 := by
          rw [if_pos has, if_pos (first has)]
        exact Nat.le_of_eq same
      · rw [if_neg has]
        exact Nat.zero_le _
    rw [topWeight, topWeight]
    omega

/-- The best so far is one of a weight, or there is none yet. -/
inductive Leads : Option (IntentKind × Float) → Nat → Prop
  | none : Leads none 0
  | some (kind : IntentKind) {weight : Nat} (known : weight ∈ weightRange) :
    Leads (some (kind, confidenceAt weight)) weight

theorem leads_better {text : List Char} {p : Phrasing} {best : Option (IntentKind × Float)}
    {weight : Nat} (known : p ∈ phrasings) (before : Leads best weight) :
    Leads (better text best p) (max weight (if p.isIn text then p.weight else 0)) := by
  have ranged := weight_mem_range known
  rw [better, p.score_eq, ← confidenceAt_weight ranged]
  by_cases has : p.isIn text = true
  · simp only [has, ↓reduceIte]
    cases before with
    | none =>
      rw [Nat.max_eq_right (Nat.zero_le _)]
      exact .some _ ranged
    | @some kind weight old =>
      by_cases heavier : weight < p.weight
      · have wins := (confidenceAt_lt_iff _ old _ ranged).mpr heavier
        simp only [gt_iff_lt, wins, ↓reduceIte]
        rw [Nat.max_eq_right (Nat.le_of_lt heavier)]
        exact .some _ ranged
      · have loses : ¬ confidenceAt weight < confidenceAt p.weight :=
          fun wins => heavier ((confidenceAt_lt_iff _ old _ ranged).mp wins)
        simp only [gt_iff_lt, loses, ↓reduceIte]
        rw [Nat.max_eq_left (Nat.le_of_not_lt heavier)]
        exact .some _ old
  · simp only [has, ↓reduceIte, Bool.false_eq_true]
    rw [Nat.max_eq_left (Nat.zero_le _)]
    exact before

theorem leads_foldl_better (text : List Char) (ps : List Phrasing) (known : ps ⊆ phrasings)
    {best : Option (IntentKind × Float)} {weight : Nat} (before : Leads best weight) :
    Leads (ps.foldl (better text) best) (max weight (topWeight text ps)) := by
  induction ps generalizing best weight with
  | nil =>
    rw [topWeight, Nat.max_eq_left (Nat.zero_le _)]
    exact before
  | cons p ps ih =>
    obtain ⟨first, others⟩ := List.cons_subset.mp known
    rw [topWeight, ← Nat.max_assoc]
    exact ih others (leads_better first before)

/-- The confidence of a text is that of its greatest weight. -/
theorem confidence_detectIntent (text : List Char) :
    (detectIntent text).2 = confidenceAt (topWeight text phrasings) := by
  have best := leads_foldl_better text phrasings (List.Subset.refl _) .none
  rw [Nat.max_eq_right (Nat.zero_le _)] at best
  rw [detectIntent]
  generalize phrasings.foldl (better text) none = found at best
  generalize topWeight text phrasings = weight at best
  cases best with
  | none => rfl
  | some kind known => rfl

/-! ### Longer texts -/

/-- A text that stands between blanks keeps its phrasings. -/
theorem Phrasing.isIn_between (p : Phrasing) (front text back : List Char)
    (found : p.isIn text = true) : p.isIn (front ++ ' ' :: text ++ ' ' :: back) = true := by
  obtain ⟨q, member, occurs⟩ := List.any_eq_true.mp found
  refine List.any_eq_true.mpr ⟨q, member, ?_⟩
  have whole : front ++ ' ' :: text ++ ' ' :: back = (front ++ [' ']) ++ text ++ (' ' :: back) := by
    simp only [List.append_assoc, List.cons_append, List.nil_append]
  rw [whole]
  refine q.occursIn_surrounded ?_ rfl occurs
  rw [List.getLast?_append]
  rfl

/-- Words around a text take nothing away: the text keeps each phrasing that it has, with its score,
and its intent is no less sure. -/
theorem confidence_of_more_words (u t v : String) :
    (∀ p ∈ phrasings, ∀ score, p.score t.toList = some score →
      p.score (u ++ " " ++ t ++ " " ++ v).toList = some score) ∧
    (detectIntent t.toList).2 ≤ (detectIntent (u ++ " " ++ t ++ " " ++ v).toList).2 := by
  have whole : (u ++ " " ++ t ++ " " ++ v).toList =
      u.toList ++ ' ' :: t.toList ++ ' ' :: v.toList := by
    simp
  have more : ∀ p : Phrasing, p.isIn t.toList = true →
      p.isIn (u ++ " " ++ t ++ " " ++ v).toList = true := by
    intro p has
    rw [whole]
    exact p.isIn_between u.toList t.toList v.toList has
  constructor
  · intro p known score scored
    rw [p.score_eq] at scored ⊢
    by_cases has : p.isIn t.toList = true
    · rw [if_pos has] at scored
      rw [if_pos (more p has), scored]
    · rw [if_neg has] at scored
      cases scored
  · rw [confidence_detectIntent, confidence_detectIntent]
    refine confidenceAt_mono _ (topWeight_mem _ _ (List.Subset.refl _)) _
      (topWeight_mem _ _ (List.Subset.refl _)) ?_
    exact topWeight_mono phrasings fun p _ => more p

theorem confidence_of_more_words_runTests :
    runTestsPhrasing ∈ phrasings ∧
    runTestsPhrasing.score "run the tests".toList = some (confidenceOf 2) ∧
    runTestsPhrasing.score "now run the tests again".toList = some (confidenceOf 2) ∧
    (detectIntent "run the tests".toList).2 ≤ (detectIntent "now run the tests again".toList).2 := by
  have known : runTestsPhrasing ∈ phrasings := by simp [phrasings]
  have has : runTestsPhrasing.isIn "run the tests".toList = true := by decide +kernel
  have scored : runTestsPhrasing.score "run the tests".toList = some (confidenceOf 2) := by
    rw [Phrasing.score_eq, if_pos has]
    rfl
  have whole : "now" ++ " " ++ "run the tests" ++ " " ++ "again" = "now run the tests again" := by
    decide
  obtain ⟨keeps, rises⟩ := confidence_of_more_words "now" "run the tests" "again"
  rw [whole] at keeps rises
  exact ⟨known, scored, keeps runTestsPhrasing known _ scored, rises⟩

end VoiceDebugger
