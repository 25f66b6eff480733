import Mathlib.Data.List.Induction
import VoiceDebugger.Proofs.Router.Reroute
import VoiceDebugger.Proofs.Text.Code

/-!
Intents that change code wait for a confirmation.

A table is what a history of registrations makes of the empty one, and the last registration for a
kind decides which handler an intent of that kind is handed to. Handlers may be anything that runs
in a session. Their calls are counted by routing with a way to call them that writes each call down;
routing is the same program for every way to call handlers.
-/

namespace VoiceDebugger

open VoiceDebugger.Action

deriving instance ReflBEq, LawfulBEq for IntentKind

namespace HandlerTable

variable {η : Type}

/-! ### Registrations -/

/-- The table after registrations, the first one first. -/
def registered (history : List (IntentKind × η)) : HandlerTable η :=
  history.foldl (fun r entry => r.register entry.1 entry.2) []

/-- The last handler that was registered for a kind. -/
def lastFor? (kind : IntentKind) (history : List (IntentKind × η)) : Option η :=
  (history.filter fun entry => entry.1 == kind).getLast?.map Prod.snd

theorem handler?_register (kind other : IntentKind) (h : η) (r : HandlerTable η) :
    (r.register kind h).handler? other = if kind = other then some h else r.handler? other := by
  induction r with
  | nil => simp [register, handler?]
  | cons entry rest ih =>
    rw [register]
    by_cases here : entry.1 = kind
    · subst here
      simp only [beq_self_eq_true, ↓reduceIte, handler?, beq_iff_eq]
      split <;> rfl
    · simp only [beq_iff_eq, here, ↓reduceIte, handler?, ih]
      by_cases found : entry.1 = other
      · have differ : kind ≠ other := fun same => here (found.trans same.symm)
        simp only [found, differ, ↓reduceIte]
      · simp only [found, ↓reduceIte]

/-- Each kind has the handler that was registered for it last. -/
theorem handler?_registered (kind : IntentKind) (history : List (IntentKind × η)) :
    (registered history).handler? kind = lastFor? kind history := by
  induction history using List.reverseRecOn with
  | nil => rfl
  | append_singleton front entry ih =>
    rw [registered] at ih ⊢
    rw [List.foldl_append, List.foldl_cons, List.foldl_nil, handler?_register, ih, lastFor?,
      lastFor?, List.filter_append]
    by_cases here : entry.1 = kind
    · simp [here]
    · simp [here]

/-! ### Calls -/

/-- Call a handler, and write down which one it is and what it is given. -/
def noting (answer : η → Entities → Action Json) (h : η) (about : Entities) :
    StateT (List (η × Entities)) Action (Except Failure Json) := do
  modify fun calls => calls ++ [(h, about)]
  StateT.lift (attempt (answer h about))

theorem runIn_noting (answer : η → Entities → Action Json) (h : η) (about : Entities)
    (calls : List (η × Entities)) (s : Session) :
    ((noting answer h about).run calls).runIn s =
      (.ok (((answer h about).runIn s).1, calls ++ [(h, about)]), ((answer h about).runIn s).2) :=
  rfl

/-- What the outcome of a handler is reported as. -/
def settled (kind : IntentKind) : Except Failure Json → RouteOutcome
  | .ok value => .answered kind value
  | .error f => .failed kind f

variable (answer : η → Entities → Action Json) (r : HandlerTable η) (i : Intent) (confirm : Bool)
  (s : Session)

/-- Routing an intent, with the calls that are made for it. -/
def routeNoted : Action (RouteOutcome × List (η × Entities)) :=
  (r.routeBy (noting answer) i confirm).run []

theorem route_unconfirmed (gated : (i.kind.isDestructive && confirm) = true) :
    (r.routeBy (fun h about => attempt (answer h about)) i confirm).runIn s =
        (.ok (.unconfirmed i.kind i.entities), s) ∧
      (r.routeNoted answer i confirm).runIn s =
        (.ok (.unconfirmed i.kind i.entities, []), s) := by
  rw [routeNoted, routeBy, routeBy, if_pos gated, if_pos gated]
  exact ⟨rfl, rfl⟩

theorem route_unhandled (open_ : (i.kind.isDestructive && confirm) = false)
    (missing : r.handler? i.kind = none) :
    (r.routeBy (fun h about => attempt (answer h about)) i confirm).runIn s =
        (.ok (.unhandled i.kind), s) ∧
      (r.routeNoted answer i confirm).runIn s = (.ok (.unhandled i.kind, []), s) := by
  rw [routeNoted, routeBy, routeBy, open_, missing]
  exact ⟨rfl, rfl⟩

theorem route_handled (h : η) (open_ : (i.kind.isDestructive && confirm) = false)
    (found : r.handler? i.kind = some h) :
    (r.routeBy (fun h about => attempt (answer h about)) i confirm).runIn s =
        (.ok (settled i.kind ((answer h i.entities).runIn s).1),
          ((answer h i.entities).runIn s).2) ∧
      (r.routeNoted answer i confirm).runIn s =
        (.ok (settled i.kind ((answer h i.entities).runIn s).1, [(h, i.entities)]),
          ((answer h i.entities).runIn s).2) := by
  rw [routeNoted, routeBy, routeBy, open_, found]
  constructor
  · simp only [Bool.false_eq_true, ↓reduceIte]
    rw [runIn_bind_ok (runIn_attempt _ _)]
    cases ((answer h i.entities).runIn s).1 <;> rfl
  · simp only [Bool.false_eq_true, ↓reduceIte, StateT.run_bind]
    rw [runIn_bind_ok (runIn_noting answer h i.entities [] s)]
    cases ((answer h i.entities).runIn s).1 <;> rfl

/-! ### What is answered -/

/-- The kinds of intents that change code. -/
def changing : List IntentKind :=
  [.applyFix, .renameSymbol, .formatFile]

theorem isDestructive_iff (kind : IntentKind) : kind.isDestructive = true ↔ kind ∈ changing := by
  cases kind <;> decide

theorem gated_iff : (i.kind.isDestructive && confirm) = true ↔ confirm = true ∧ i.kind ∈ changing := by
  rw [Bool.and_eq_true, isDestructive_iff, and_comm]

/-- The status of a reply is the word for the outcome. -/
theorem status_toJson (outcome : RouteOutcome) (word : String) :
    outcome.toJson.get? "status" = some (.str word) ↔ outcome.status = word := by
  have shown : outcome.toJson.get? "status" = some (.str outcome.status) := by
    cases outcome <;> rfl
  rw [shown, Option.some.injEq, Json.str.injEq, CodeText.ofString_inj]

/-- What routing an intent comes to where some handler, if any, was registered last for its kind:
what is replied, which handlers were called with what, and the session behind it. -/
structure Routed (last : Option η) (reply : Json) (calls : List (η × Entities)) (s' : Session) :
    Prop where
  /-- Exactly the intents that change code wait, where a confirmation is required. -/
  waits_iff : reply.get? "status" = some (.str "confirmation_required") ↔
    confirm = true ∧ i.kind ∈ changing
  /-- While an intent waits nothing is called, and nothing happens. -/
  waiting : confirm = true ∧ i.kind ∈ changing →
    calls = [] ∧ s' = s ∧ reply.get? "intent" = some (.str i.kind.name) ∧
      reply.get? "entities" = some i.entities.toJson
  unhandled : ¬ (confirm = true ∧ i.kind ∈ changing) → last = none →
    calls = [] ∧ s' = s ∧
      reply = .obj [
        ("status", .str "error"),
        ("message", .str s!"No handler registered for intent: {i.kind.name}")]
  /-- Any other intent is handed to the last handler of its kind, once, and nothing else happens. -/
  handled : ¬ (confirm = true ∧ i.kind ∈ changing) → ∀ h, last = some h →
    calls = [(h, i.entities)] ∧ s' = ((answer h i.entities).runIn s).2 ∧
      reply =
        match ((answer h i.entities).runIn s).1 with
        | .ok value =>
          .obj [("status", .str "success"), ("intent", .str i.kind.name), ("result", value)]
        | .error f =>
          .obj [("status", .str "error"), ("intent", .str i.kind.name), ("message", .str f.message)]

/-- Routing comes to that, and it is the same with the calls written down. -/
theorem routed :
    ∃ outcome calls s',
      (r.routeBy (fun h about => attempt (answer h about)) i confirm).runIn s = (.ok outcome, s') ∧
        (r.routeNoted answer i confirm).runIn s = (.ok (outcome, calls), s') ∧
        Routed answer i confirm s (r.handler? i.kind) outcome.toJson calls s' := by
  by_cases gated : confirm = true ∧ i.kind ∈ changing
  · obtain ⟨plain, noted⟩ := route_unconfirmed answer r i confirm s ((gated_iff i confirm).mpr gated)
    refine ⟨_, _, _, plain, noted, ?_⟩
    exact ⟨⟨fun _ => gated, fun _ => rfl⟩, fun _ => ⟨rfl, rfl, rfl, rfl⟩,
      fun other => absurd gated other, fun other => absurd gated other⟩
  · have open_ : (i.kind.isDestructive && confirm) = false :=
      Bool.eq_false_iff.mpr fun both => gated ((gated_iff i confirm).mp both)
    cases last : r.handler? i.kind with
    | none =>
      obtain ⟨plain, noted⟩ := route_unhandled answer r i confirm s open_ last
      refine ⟨_, _, _, plain, noted, ?_⟩
      refine ⟨⟨fun status => ?_, fun both => absurd both gated⟩, fun both => absurd both gated,
        fun _ _ => ⟨rfl, rfl, rfl⟩, fun _ _ found => by cases found⟩
      exact absurd ((status_toJson _ _).mp status) (by simp [RouteOutcome.status])
    | some h =>
      obtain ⟨plain, noted⟩ := route_handled answer r i confirm s h open_ last
      refine ⟨_, _, _, plain, noted, ?_⟩
      refine ⟨⟨fun status => ?_, fun both => absurd both gated⟩, fun both => absurd both gated,
        fun _ missing => (by cases missing), ?_⟩
      · rw [status_toJson] at status
        cases ran : ((answer h i.entities).runIn s).1 with
        | ok value =>
          rw [ran] at status
          exact absurd status (by simp [settled, RouteOutcome.status])
        | error f =>
          rw [ran] at status
          exact absurd status (by simp [settled, RouteOutcome.status])
      · rintro _ _ ⟨⟩
        refine ⟨rfl, rfl, ?_⟩
        cases ((answer h i.entities).runIn s).1 <;> rfl

variable {answer i s}

/-- A handler that is called, while confirmations are required, belongs to a kind that changes
nothing. -/
theorem Routed.called {last : Option η} {reply : Json} {calls : List (η × Entities)} {s' : Session}
    (routed : Routed answer i true s last reply calls s') (call : η × Entities)
    (made : call ∈ calls) : i.kind ∉ changing ∧ last = some call.1 := by
  by_cases gated : i.kind ∈ changing
  · rw [(routed.waiting ⟨rfl, gated⟩).1] at made
    cases made
  · have open_ : ¬ (true = true ∧ i.kind ∈ changing) := fun both => gated both.2
    cases last with
    | none =>
      rw [(routed.unhandled open_ rfl).1] at made
      cases made
    | some h =>
      rw [(routed.handled open_ h rfl).1, List.mem_singleton] at made
      exact ⟨gated, by rw [made]⟩

end HandlerTable

/-! ### The shared router -/

open HandlerTable (changing registered lastFor? Routed)

theorem Router.passes_route (r shared : Router) (i : Intent) (confirm : Bool) :
    Passes (rerouted shared) (r.route i confirm) := by
  unfold Router.route HandlerTable.routeBy
  split
  · exact .pure _
  · split
    · exact .pure _
    · refine .bind (.attempt (.answer shared _ _)) fun outcome => ?_
      cases outcome <;> exact .pure _

/-- Where a confirmation is required, the handlers of intents that change code make no
difference. -/
theorem Router.route_congr (r r' : Router) (i : Intent)
    (agree : ∀ kind, kind ∉ changing → r'.handler? kind = r.handler? kind) :
    r'.route i true = r.route i true := by
  rw [Router.route, Router.route, HandlerTable.routeBy, HandlerTable.routeBy]
  by_cases gated : i.kind ∈ changing
  · have waits := (HandlerTable.isDestructive_iff i.kind).mpr gated
    simp only [waits, Bool.and_self, ↓reduceIte]
  · rw [agree i.kind gated]

theorem answerRoute_rerouted (q : IntentRequest) (s : Session) (r : Router)
    (agree : ∀ kind, kind ∉ changing → r.handler? kind = s.router.handler? kind) :
    (answerRoute q).runIn (rerouted r s) =
      (((answerRoute q).runIn s).1, rerouted r ((answerRoute q).runIn s).2) := by
  have parsed := Passes.checkedIntent r q.text.shown q.contextValue s
  have kept := Passes.keeps_router (fun r => Passes.checkedIntent r q.text.shown q.contextValue) s
  unfold answerRoute
  generalize ran : (checkedIntent q.text.shown q.contextValue).runIn s = result at parsed kept
  obtain ⟨outcome, t⟩ := result
  cases outcome with
  | error f => rw [runIn_bind_error parsed, runIn_bind_error ran]
  | ok i =>
    -- Both go on with the router of their session, and for this intent the two are the same.
    have same := Router.route_congr t.router r i (by rw [kept]; exact agree)
    rw [runIn_bind_ok parsed, runIn_bind_ok ran, runIn_bind_ok (runIn_get _),
      runIn_bind_ok (runIn_get _)]
    change (r.route i true >>= fun outcome => pure outcome.toJson).runIn (rerouted r t) = _
    rw [same]
    exact Passes.bind (Router.passes_route t.router r i true) (fun _ => .pure _) t

/-- A request that is no sentence with a context is refused; any other one is answered. -/
theorem answer_route (body : Json) (arguments : List (CodeText × Json)) :
    Endpoint.route.answer body arguments =
      ofOutcome (IntentRequest.ofJson body) >>= fun q => guarded (answerRoute q) := rfl

theorem answer_route_rerouted (s : Session) (r : Router) (body : Json)
    (arguments : List (CodeText × Json))
    (agree : ∀ kind, kind ∉ changing → r.handler? kind = s.router.handler? kind) :
    (Endpoint.route.answer body arguments).runIn (rerouted r s) =
      (((Endpoint.route.answer body arguments).runIn s).1,
        rerouted r ((Endpoint.route.answer body arguments).runIn s).2) := by
  rw [answer_route]
  cases IntentRequest.ofJson body with
  | error f => rfl
  | ok q =>
    rw [runIn_bind_ok (runIn_ofOutcome _ _), runIn_bind_ok (runIn_ofOutcome _ _), guarded,
      runIn_bind_ok (runIn_attempt _ _), runIn_bind_ok (runIn_attempt _ _),
      answerRoute_rerouted q s r agree]
    cases ((answerRoute q).runIn s).1 <;> rfl

/-- Answering a sentence, with the calls of handlers that are made for it. -/
def answerRouteNoted (q : IntentRequest) : Action (Json × List (Handler × Entities)) := do
  let i ← checkedIntent q.text.shown q.contextValue
  let router := (← get).router
  let (outcome, calls) ← router.routeNoted (fun h about => h.answer about) i true
  return (outcome.toJson, calls)

/-- Answering a sentence is the same with the calls written down, and each call is of the handler of
a kind that changes nothing. -/
theorem runIn_answerRouteNoted (q : IntentRequest) (s : Session) :
    (answerRoute q).runIn s =
        (((answerRouteNoted q).runIn s).1.map Prod.fst, ((answerRouteNoted q).runIn s).2) ∧
      ∀ reply calls, ((answerRouteNoted q).runIn s).1 = .ok (reply, calls) →
        ∀ call ∈ calls, ∃ kind, kind ∉ changing ∧ s.router.handler? kind = some call.1 := by
  have kept := Passes.keeps_router (fun r => Passes.checkedIntent r q.text.shown q.contextValue) s
  unfold answerRoute answerRouteNoted
  generalize ran : (checkedIntent q.text.shown q.contextValue).runIn s = result at kept
  obtain ⟨outcome, t⟩ := result
  cases outcome with
  | error f =>
    rw [runIn_bind_error ran, runIn_bind_error ran]
    exact ⟨rfl, fun _ _ answered => by cases answered⟩
  | ok i =>
    obtain ⟨outcome, calls, s', plain, noted, routed⟩ :=
      HandlerTable.routed (fun (h : Handler) about => h.answer about) t.router i true t
    rw [runIn_bind_ok ran, runIn_bind_ok ran, runIn_bind_ok (runIn_get _),
      runIn_bind_ok (runIn_get _)]
    dsimp only at kept ⊢
    rw [Router.route, runIn_bind_ok plain, runIn_bind_ok noted, ← kept]
    refine ⟨rfl, ?_⟩
    rintro _ _ ⟨⟩ call made
    exact ⟨i.kind, routed.called call made⟩

/-- An intent that changes code reaches no handler before it is confirmed. Requests to route a
sentence never confirm: the handlers that are called for them belong to other kinds, and whatever is
registered for the kinds that change code makes no difference. -/
theorem changes_wait_for_confirmation :
    (∀ (η : Type) (answer : η → Entities → Action Json) (history : List (IntentKind × η))
      (i : Intent) (confirm : Bool) (s : Session),
      ∃ outcome calls s',
        ((registered history).routeBy (fun h about => attempt (answer h about)) i confirm).runIn s =
            (.ok outcome, s') ∧
          ((registered history).routeNoted answer i confirm).runIn s = (.ok (outcome, calls), s') ∧
          Routed answer i confirm s (lastFor? i.kind history) outcome.toJson calls s') ∧
    (∀ (r : Router) (i : Intent) (confirm : Bool) (s : Session),
      ((r.route i confirm).runIn s).2.router = s.router) ∧
    (∀ (q : IntentRequest) (s : Session),
      (answerRoute q).runIn s =
          (((answerRouteNoted q).runIn s).1.map Prod.fst, ((answerRouteNoted q).runIn s).2) ∧
        ∀ reply calls, ((answerRouteNoted q).runIn s).1 = .ok (reply, calls) →
          ∀ call ∈ calls, ∃ kind, kind ∉ changing ∧ s.router.handler? kind = some call.1) ∧
    (∀ (s : Session) (r : Router),
      (∀ kind, kind ∉ changing → r.handler? kind = s.router.handler? kind) →
      ∀ (body : Json) (arguments : List (CodeText × Json)),
        (Endpoint.route.answer body arguments).runIn (rerouted r s) =
          (((Endpoint.route.answer body arguments).runIn s).1,
            rerouted r ((Endpoint.route.answer body arguments).runIn s).2)) := by
  refine ⟨fun η answer history i confirm s => ?_, fun r i confirm s => ?_,
    runIn_answerRouteNoted, ?_⟩
  · rw [← HandlerTable.handler?_registered]
    exact HandlerTable.routed answer (registered history) i confirm s
  · exact Passes.keeps_router (fun shared => r.passes_route shared i confirm) s
  · intro s r agree body arguments
    exact answer_route_rerouted s r body arguments agree

/-- A session whose router only looks for errors. -/
def lookingOnly : Session where
  clock := { year := 2024, month := 1, day := 2 }
  router := [(.findErrors, .echo)]

/-- A handler for fixes that breaks down does not show, since a request cannot reach it. -/
theorem changes_wait_for_confirmation_failing :
    (∀ kind, kind ∉ changing →
      HandlerTable.handler? kind ((.applyFix, .failing "applied") :: lookingOnly.router) =
        lookingOnly.router.handler? kind) ∧
    (Endpoint.route.answer (.obj [("text", .str "apply the fix")]) []).runIn
        (rerouted ((.applyFix, .failing "applied") :: lookingOnly.router) lookingOnly) =
      (((Endpoint.route.answer (.obj [("text", .str "apply the fix")]) []).runIn lookingOnly).1,
        rerouted ((.applyFix, .failing "applied") :: lookingOnly.router)
          ((Endpoint.route.answer (.obj [("text", .str "apply the fix")]) []).runIn
            lookingOnly).2) := by
  have agree : ∀ kind, kind ∉ changing →
      HandlerTable.handler? kind ((.applyFix, .failing "applied") :: lookingOnly.router) =
        lookingOnly.router.handler? kind := by
    intro kind other
    rw [HandlerTable.handler?, if_neg]
    intro same
    exact other (by rw [← beq_iff_eq.mp same]; decide)
  exact ⟨agree, changes_wait_for_confirmation.2.2.2 _ _ agree _ _⟩

end VoiceDebugger
