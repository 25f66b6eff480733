import VoiceDebugger.Proofs.Intent.NormalForm
import VoiceDebugger.Proofs.Intent.Offline
import VoiceDebugger.Proofs.Number.Digits
import VoiceDebugger.Proofs.Pattern.Kept

/-!
A sentence always has a proper intent, unless it holds a number that is too long to be read.

An intent comes from a reply that was accepted or from the phrasing of the sentence. Of a phrasing
only the number of a line can go wrong: it is a run of digits of the sentence, and those are read up
to a limit.
-/

namespace VoiceDebugger

open VoiceDebugger.Action

/-! ### Numbers of lines -/

theorem keeping_linePatterns : ∀ p ∈ linePatterns, p.keeping = [Pattern.some1 .digit] := by
  decide

/-- What is taken for the number of a line is a run of digits in the text. -/
theorem digits_of_line {text : List Char} {s : String}
    (found : firstFound linePatterns text = some s) :
    s.toList <:+: text ∧ s.toList ≠ [] ∧ ∀ c ∈ s.toList, Text.isDecimal c = true := by
  obtain ⟨p, member, kept⟩ := List.exists_of_findSome?_eq_some found
  obtain ⟨within, q, keeps, reads⟩ := Pattern.firstKept?_reads kept
  rw [keeping_linePatterns p member, List.mem_singleton] at keeps
  subst keeps
  exact ⟨within, Pattern.reads_some1 reads⟩

theorem hasLongNumber_of_lineIn_error {text : List Char} {fault : Number.IntegerFault}
    (failed : lineIn text = .error fault) : HasLongNumber text := by
  rw [lineIn] at failed
  split at failed
  · cases failed
  · next s found =>
    obtain ⟨within, written, decimal⟩ := digits_of_line found
    rcases Number.readInt_decimal s written decimal with ⟨n, read⟩ | ⟨-, long⟩
    · rw [read] at failed
      cases failed
    · exact ⟨s.toList, within, long, decimal⟩

/-! ### Confidence -/

/-- A number between zero and one. -/
abbrev InUnit (x : Float) : Prop := 0 ≤ x ∧ x ≤ 1

theorem inUnit_confidenceOf {p : Phrasing} (known : p ∈ phrasings) :
    InUnit (confidenceOf p.weight.toFloat) := by
  have weights : phrasings.map (·.weight) = [3, 3, 2, 3, 2, 2, 2, 2, 2, 1] := rfl
  have bounded : ∀ weight ∈ [3, 3, 2, 3, 2, 2, 2, 2, 2, 1], InUnit (confidenceOf weight.toFloat) := by
    decide +kernel
  exact bounded p.weight (weights ▸ List.mem_map_of_mem known)

theorem inUnit_better {text : List Char} {p : Phrasing} {best : Option (IntentKind × Float)}
    (known : p ∈ phrasings) (before : ∀ found ∈ best, InUnit found.2) :
    ∀ found ∈ better text best p, InUnit found.2 := by
  unfold better Phrasing.score
  split
  · exact before
  · next c scored =>
    have bounded : InUnit c := by
      split at scored
      · exact Option.some.inj scored ▸ inUnit_confidenceOf known
      · cases scored
    split
    · rintro found ⟨⟩
      exact bounded
    · split
      · rintro found ⟨⟩
        exact bounded
      · exact before

theorem inUnit_foldl_better (text : List Char) (ps : List Phrasing) (known : ps ⊆ phrasings)
    (best : Option (IntentKind × Float)) (before : ∀ found ∈ best, InUnit found.2) :
    ∀ found ∈ ps.foldl (better text) best, InUnit found.2 := by
  induction ps generalizing best with
  | nil => exact before
  | cons p ps ih =>
    obtain ⟨first, others⟩ := List.cons_subset.mp known
    exact ih others _ (inUnit_better first before)

theorem inUnit_detectIntent (text : List Char) : InUnit (detectIntent text).2 := by
  have best := inUnit_foldl_better text phrasings (List.Subset.refl _) none (by simp)
  rw [detectIntent]
  cases found : phrasings.foldl (better text) none with
  | none => decide
  | some winner => exact best winner found

/-- A number that can be compared is a number. -/
theorem not_isNaN_of_le {x y : Float} (le : x ≤ y) : y.isNaN = false := by
  have compared : x.toModel.unpack.le y.toModel.unpack = true := of_decide_eq_true le
  change y.toModel.unpack.isNaN = false
  generalize x.toModel.unpack = a at compared
  generalize y.toModel.unpack = b at compared ⊢
  cases b with
  | notANumber => cases a <;> cases compared
  | _ => rfl

/-! ### Proper intents -/

/-- The value of an intent has words, numbers and a confidence as they should be, and it is accepted
as that intent. -/
structure ProperIntent (d : Json) : Prop where
  kind : ∃ kind : IntentKind, d.get? "intent" = some (.str kind.name)
  confidence : ∃ c, d.get? "confidence" = some (.float c) ∧ InUnit c ∧ c.isNaN = false
  about : ∃ about, d.get? "entities" = some about ∧
    (about.get? "language" = some .null ∨
      ∃ language : Language, about.get? "language" = some (.str language.name)) ∧
    (about.get? "scope" = some .null ∨
      ∃ scope : SymbolScope, about.get? "scope" = some (.str scope.name)) ∧
    (about.get? "line" = some .null ∨ ∃ n, about.get? "line" = some (.int n))
  accepted : ∃ i, Intent.ofJson d = .ok i ∧ i.toJson = d

theorem properIntent_toJson (i : Intent) (bounded : InUnit i.confidence) :
    ProperIntent i.toJson where
  kind := ⟨i.kind, rfl⟩
  confidence := ⟨i.confidence, rfl, bounded, not_isNaN_of_le bounded.1⟩
  about := by
    obtain ⟨_, _, ⟨_, _, language, scope, line, _, _⟩, _, _⟩ := i
    refine ⟨_, rfl, ?_, ?_, ?_⟩
    · cases language with
      | none => exact .inl rfl
      | some language => exact .inr ⟨language, rfl⟩
    · cases scope with
      | none => exact .inl rfl
      | some scope => exact .inr ⟨scope, rfl⟩
    · cases line with
      | none => exact .inl rfl
      | some n => exact .inr ⟨n, rfl⟩
  accepted := ⟨i, Intent.ofJson_toJson i bounded.1 bounded.2, rfl⟩

theorem inUnit_of_intentByPhrasing {text : String} {i : Intent}
    (given : intentByPhrasing text = .ok i) : InUnit i.confidence := by
  rw [intentByPhrasing] at given
  split at given
  · cases given
  · obtain rfl := Except.ok.inj given
    exact inUnit_detectIntent text.toList

theorem hasLongNumber_of_intentByPhrasing_error {text : String} {f : Failure}
    (failed : intentByPhrasing text = .error f) : HasLongNumber text.toList := by
  rw [intentByPhrasing] at failed
  split at failed
  · next fault missing =>
    rw [entitiesIn] at missing
    cases line : lineIn text.toList with
    | error fault => exact hasLongNumber_of_lineIn_error line
    | ok n =>
      rw [line] at missing
      cases missing
  · cases failed

theorem ChatReply.accepted_of_intent? {reply : ChatReply} {i : Intent}
    (stands : reply.intent? = some i) : ∃ v, Intent.ofJson v = .ok i := by
  unfold ChatReply.intent? at stands
  split at stands
  · obtain ⟨v, -, checked⟩ := Option.bind_eq_some_iff.mp stands
    refine ⟨v, ?_⟩
    cases outcome : Intent.ofJson v with
    | error f => simp [outcome, Except.toOption] at checked
    | ok j => simpa [outcome, Except.toOption] using checked
  · cases stands

/-- The intent of a sentence was accepted as a reply, or it is the one of the phrasing. -/
theorem parseIntent_outcome (text : String) (context : Json) (s : Session) :
    ((parseIntent text context).runIn s).1 = intentByPhrasing text ∨
      ∃ v i, Intent.ofJson v = .ok i ∧ ((parseIntent text context).runIn s).1 = .ok i := by
  cases key : s.hasKey with
  | false => exact .inl (by rw [runIn_parseIntent_keyless text context s key])
  | true =>
    obtain ⟨silent, served⟩ := runIn_parseIntent_keyed text context s key
    by_cases told : Tellable context
    · rw [(served told).1]
      cases replied : s.chats.head?.bind ChatReply.intent? with
      | none => exact .inl rfl
      | some i =>
        obtain ⟨reply, -, stands⟩ := Option.bind_eq_some_iff.mp replied
        obtain ⟨v, accepted⟩ := ChatReply.accepted_of_intent? stands
        exact .inr ⟨v, i, accepted, rfl⟩
    · exact .inl (silent told).1

theorem confidence_of_parseIntent {text : String} {context : Json} {s : Session} {i : Intent}
    (parsed : ((parseIntent text context).runIn s).1 = .ok i) :
    0 ≤ i.confidence ∧ i.confidence ≤ 1 := by
  rcases parseIntent_outcome text context s with phrasing | ⟨v, j, accepted, reply⟩
  · exact inUnit_of_intentByPhrasing (phrasing.symm.trans parsed)
  · obtain rfl := Except.ok.inj (reply.symm.trans parsed)
    exact Intent.confidence_of_ofJson accepted

/-- An intent that was parsed passes the check of intents as it is. -/
theorem checkedIntent_eq (text : String) (context : Json) :
    checkedIntent text context = parseIntent text context := by
  funext s
  change (checkedIntent text context).runIn s = (parseIntent text context).runIn s
  cases ran : (parseIntent text context).runIn s with
  | mk outcome t =>
    cases outcome with
    | error f => exact runIn_bind_error ran _
    | ok i =>
      obtain ⟨low, high⟩ := confidence_of_parseIntent (congrArg Prod.fst ran)
      rw [checkedIntent, runIn_bind_ok ran, Intent.ofJson_toJson i low high]
      rfl

/-- A sentence has a proper intent, with or without a chat model and whatever that replies, unless a
number in it is too long to be read. -/
theorem parseIntent_proper (text : String) (context : Json) (s : Session) :
    match ((parseIntent text context).runIn s).1 with
    | .ok i => ProperIntent i.toJson
    | .error _ => HasLongNumber text.toList := by
  cases outcome : ((parseIntent text context).runIn s).1 with
  | ok i => exact properIntent_toJson i (confidence_of_parseIntent outcome)
  | error f =>
    rcases parseIntent_outcome text context s with phrasing | ⟨v, i, accepted, reply⟩
    · exact hasLongNumber_of_intentByPhrasing_error (phrasing.symm.trans outcome)
    · rw [reply] at outcome
      cases outcome

end VoiceDebugger
