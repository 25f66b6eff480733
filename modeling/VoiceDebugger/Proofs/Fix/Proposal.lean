import VoiceDebugger.Proofs.Fix.Question

/-!
What a proposal to mend a file holds.

All proposals that the program words itself have their three texts. What a chat model replies is
passed on as it is, so that there the model decides.
-/

namespace VoiceDebugger

open VoiceDebugger.Action

/-- A value with the three texts of a proposal. -/
def IsProposal (v : Json) : Prop :=
  ∀ name ∈ ["diff", "rationale", "risk_level"], ∃ text, v.get? (.ofString name) = some (.str text)

theorem isProposal_proposal (diff rationale risk : String) :
    IsProposal (proposal diff rationale risk) := by
  intro name member
  simp only [List.mem_cons, List.not_mem_nil, or_false] at member
  rcases member with rfl | rfl | rfl
  · exact ⟨.ofString diff, rfl⟩
  · exact ⟨.ofString rationale, rfl⟩
  · exact ⟨.ofString risk, rfl⟩

/-! ### Replies -/

/-- The value that a reply of a chat model writes, if it writes one. -/
def ChatReply.value? : ChatReply → Option Json
  | .content (some written) => (Json.parseString written).toOption
  | _ => none

theorem chatValue_toOption (reply : Option ChatReply) :
    (chatValue reply).toOption = reply.bind ChatReply.value? := by
  cases reply with
  | none => rfl
  | some reply =>
    cases reply with
    | noChoice => rfl
    | broken m => rfl
    | content text =>
      cases text with
      | none => rfl
      | some written =>
        change ((Json.parseString written).mapError Failure.unreadable).toOption =
          (Json.parseString written).toOption
        cases Json.parseString written <;> rfl

/-- What is proposed has its three texts, unless it is a reply that lacks one. -/
theorem isProposal_proposedFor_iff (reply : Option ChatReply) :
    IsProposal (proposedFor (chatValue reply)) ↔
      ∀ w, reply.bind ChatReply.value? = some w → IsProposal w := by
  have replied := chatValue_toOption reply
  rw [← replied]
  cases chatValue reply with
  | error f =>
    have own : IsProposal (proposedFor (.error f)) := isProposal_proposal _ _ _
    exact ⟨fun _ w written => (by cases written), fun _ => own⟩
  | ok v =>
    constructor
    · intro whole w written
      rw [← Option.some.inj written]
      exact whole
    · intro whole
      exact whole v rfl

/-! ### Requests -/

/-- Whether a chat model is asked for a proposal: there is a key, and the question about the first
error of the file can be put. -/
def Session.Asks (s : Session) (file : String) : Prop :=
  s.hasKey = true ∧ ∃ fault rest q,
    (s.report file).errors = fault :: rest ∧ fixQuestion s.root file fault = .ok q

theorem chat_not_mem_checks (s : Session) (file : String) (q : ChatRequest) :
    .chat q ∉ s.checks file := by
  unfold Session.checks
  split
  · simp [styleCall, typingCall]
  · exact List.not_mem_nil

/-- Where no chat model is asked, the answer is one of the program's own proposals. -/
theorem runIn_answer_unasked {body : Json} {r : FixRequest}
    (accepted : FixRequest.ofJson body = .ok r) (arguments : List (CodeText × Json)) {s : Session}
    (never : ¬ s.Asks r.file.shown) :
    ∃ v, (Endpoint.fix.answer body arguments).runIn s = (.ok v, s.noting (s.checks r.file.shown)) ∧
      IsProposal v := by
  rw [runIn_answer_fix accepted]
  cases errors : (s.report r.file.shown).errors with
  | nil => exact ⟨nothingToFix, rfl, isProposal_proposal _ _ _⟩
  | cons fault rest =>
    dsimp only
    rw [runIn_generateFix]
    by_cases key : s.hasKey = true
    · have keyed : (s.noting (s.checks r.file.shown)).hasKey = true := key
      rw [if_pos keyed]
      cases question : fixQuestion s.root r.file.shown fault with
      | error f =>
        have failed :
            fixQuestion (s.noting (s.checks r.file.shown)).root r.file.shown fault = .error f :=
          question
        rw [failed]
        exact ⟨failedProposal f, rfl, isProposal_proposal _ _ _⟩
      | ok q => exact absurd ⟨key, fault, rest, q, errors, question⟩ never
    · have keyless : ¬ (s.noting (s.checks r.file.shown)).hasKey = true := key
      rw [if_neg keyless]
      exact ⟨keylessProposal, rfl, isProposal_proposal _ _ _⟩

/-- Every request that is accepted gets an answer. It has the three texts of a proposal if and only
if no chat model is asked, or none of its reply can be read, or what it replies has them. -/
theorem answer_proposal_iff {body : Json} {r : FixRequest}
    (accepted : FixRequest.ofJson body = .ok r) (arguments : List (CodeText × Json)) (s : Session) :
    ∃ v t made,
      (Endpoint.fix.answer body arguments).runIn s = (.ok v, t) ∧
      t.calls = s.calls ++ made ∧
      ((∃ q, .chat q ∈ made) ↔ s.Asks r.file.shown) ∧
      (IsProposal v ↔
        ∀ w, s.Asks r.file.shown → s.chats.head?.bind ChatReply.value? = some w →
          IsProposal w) := by
  by_cases asks : s.Asks r.file.shown
  · have ⟨key, fault, rest, q, errors, question⟩ := asks
    have answered := runIn_answer_asked accepted arguments key errors question
    refine ⟨_, _, s.checks r.file.shown ++ [.chat q], answered, ?_, ?_, ?_⟩
    · exact List.append_assoc _ _ _
    · exact iff_of_true ⟨q, List.mem_append_right _ List.mem_cons_self⟩ asks
    · rw [isProposal_proposedFor_iff]
      exact ⟨fun whole w _ => whole w, fun whole w => whole w asks⟩
  · obtain ⟨v, answered, own⟩ := runIn_answer_unasked accepted arguments asks
    have silent : ¬ ∃ q, .chat q ∈ s.checks r.file.shown := by
      rintro ⟨q, member⟩
      exact chat_not_mem_checks s r.file.shown q member
    refine ⟨v, _, s.checks r.file.shown, answered, rfl, iff_of_false silent asks, ?_⟩
    exact iff_of_true own fun _ asked => absurd asked asks

theorem asks_unansweredSession : unansweredSession.Asks "b.py" := by
  obtain ⟨rest, errors⟩ := errors_unansweredSession
  have opened : readBytes unansweredSession.root "b.py" = .ok [97, 13, 10, 98] := rfl
  have decoded : Text.decode [97, 13, 10, 98] = .ok "a\r\nb" := rfl
  have placed : secondLine.item.get? "line" = some (.int 2) := rfl
  obtain ⟨q, _, question, -⟩ :=
    fixQuestion_integer opened decoded placed (k := 2) rfl (by decide) (by decide)
  exact ⟨rfl, _, rest, q, errors, question⟩

/-- Nothing can be read of a reply that does not come, so the program words the proposal. -/
theorem answer_proposal_iff_unansweredSession :
    FixRequest.ofJson (fixBody "b.py") = .ok ⟨"b.py", none, ""⟩ ∧
    ∃ v t made,
      (Endpoint.fix.answer (fixBody "b.py") []).runIn unansweredSession = (.ok v, t) ∧
      t.calls = made ∧
      (∃ q, .chat q ∈ made) ∧
      IsProposal v := by
  have accepted : FixRequest.ofJson (fixBody "b.py") = .ok ⟨"b.py", none, ""⟩ := rfl
  obtain ⟨v, t, made, answered, calls, asked, whole⟩ :=
    answer_proposal_iff accepted [] unansweredSession
  refine ⟨accepted, v, t, made, answered, calls, asked.mpr asks_unansweredSession, whole.mpr ?_⟩
  intro w _ written
  cases written

/-- Two of the texts of a proposal. -/
def risklessValue : Json :=
  .obj [("diff", .str "d"), ("rationale", .str "r")]

/-- A session in which a chat model leaves the risk out. -/
def risklessSession : Session :=
  { unansweredSession with chats := [.content (some (risklessValue.indented 2 0))] }

theorem chatValue_risklessSession :
    chatValue risklessSession.chats.head? = .ok risklessValue := by
  have legible : Json.Legible risklessValue := by
    simp only [risklessValue, Json.Legible, Json.LegibleFields]
    decide
  change (Json.parseString (risklessValue.indented 2 0)).mapError Failure.unreadable = _
  rw [Json.parseString, Json.parse_indented 2 _ legible]
  rfl

/-- The reply is passed on without the risk. -/
theorem riskless_reply_passed_on :
    (∃ t, (Endpoint.fix.answer (fixBody "b.py") []).runIn risklessSession = (.ok risklessValue, t)) ∧
    ¬ IsProposal risklessValue := by
  constructor
  · have accepted : FixRequest.ofJson (fixBody "b.py") = .ok ⟨"b.py", none, ""⟩ := rfl
    have asks : risklessSession.Asks "b.py" := asks_unansweredSession
    obtain ⟨key, fault, rest, q, errors, question⟩ := asks
    have answered := runIn_answer_asked accepted [] key errors question
    rw [chatValue_risklessSession] at answered
    exact ⟨_, answered⟩
  · intro whole
    obtain ⟨risk, told⟩ := whole "risk_level" (by decide)
    cases told

end VoiceDebugger
