import VoiceDebugger.Proofs.Recorder.Sound
import VoiceDebugger.Recorder.Simple

/-!
The simple recorder leaves no sound file and executes each command once.

What it asks of the world around it is a row of blocks: record, save, have the sound written down,
and execute what it came to if that is a text. Only a failure cuts a block short, and it is the last
one then. The file is saved before the part of the program that removes it, so a writer that fails
decides what is left of it.
-/

namespace VoiceDebugger.Recorder.Simple

open VoiceDebugger.Action

/-! ### What a block is made of -/

/-- The call that records. -/
def recordCall : Call :=
  .record (seconds * sampleRate)

/-- The call that saves a recording. -/
def writeCall (path : String) (samples : List Float) : Call :=
  .writeSound path samples.length sampleRate

/-- The call that has the saved sound written down. -/
def askCall (path : String) : Call :=
  .post (serverUrl ++ "/stt/file") (fileBody (.str path))

/-- The call that executes a text, if it is one. -/
def routeCalls (text : Json) : List Call :=
  if text.truthy then [.post (serverUrl ++ "/intent/route") (textBody text)] else []

/-- The block of calls for a recording that came to a text. -/
def block (path : String) (samples : List Float) (text : Json) : List Call :=
  [recordCall, writeCall path samples, askCall path] ++ routeCalls text

/-- The samples that a recording brings; there must be some. -/
def soundOf : Option RecordingReply → Except Failure (List Float)
  | some (.samples []) => .error .emptyRecording
  | reply => recorded reply

/-- The text that is typed, and the lines behind it. -/
def typedText : List String → Except Failure Json × List String
  | [] => (.error .noInput, [])
  | line :: rest => (.ok (.str (Text.strip line)), rest)

/-- The text that a sound comes to: what the service replies, or else what is typed. The lines that
were not needed are left. -/
def heard (reply : Option HttpReply) (lines : List String) : Except Failure Json × List String :=
  match reply.bind replyText? with
  | some text => (.ok text, lines)
  | none => typedText lines

/-! ### Single steps -/

theorem effectIn_recordSound (s : Session) :
    recordSound.effectIn s =
      (soundOf s.recordings.head?,
        { s with
          calls := s.calls ++ [recordCall]
          recordings := s.recordings.tail }.unprinted) := by
  refine effectIn_bind_ok (effectIn_sayAll _ s) fun output errors => ?_
  have ran : (record (seconds * sampleRate)).effectIn (s.printing output errors) =
      (recorded s.recordings.head?, { s with
        calls := s.calls ++ [recordCall]
        recordings := s.recordings.tail }.unprinted) :=
    effectIn_record _ _
  cases outcome : recorded s.recordings.head? with
  | error f =>
    have same : soundOf s.recordings.head? = .error f := by
      rw [← outcome]
      unfold soundOf
      split
      · rename_i empty
        rw [empty] at outcome
        cases outcome
      · rfl
    rw [same]
    exact effectIn_bind_error (outcome ▸ ran)
  | ok samples =>
    rw [outcome] at ran
    refine effectIn_bind_ok ran fun _ _ => ?_
    refine effectIn_bind_ok (effectIn_write _ _) fun _ _ => ?_
    refine effectIn_bind_ok (effectIn_say _ _) fun _ _ => ?_
    obtain reply : s.recordings.head? = some (.samples samples) := by
      unfold recorded at outcome
      split at outcome
      · cases outcome
      · rename_i found
        rw [found, Except.ok.inj outcome]
      · cases outcome
    rw [reply]
    cases samples with
    | nil => exact effectIn_bind_error (effectIn_peakOf_nil _)
    | cons x rest =>
      refine effectIn_bind_ok (effectIn_peakOf_cons x rest _) fun _ _ => ?_
      refine effectIn_bind_ok (effectIn_say _ _) fun _ _ => ?_
      dsimp only [Session.printing]
      split
      · exact effectIn_bind_ok (effectIn_say _ _) fun _ _ => rfl
      · rfl

/-- Asking for a line and taking it for the text. -/
theorem effectIn_askText (prompt : String) (next : String → Action Json)
    (taken : ∀ line s, (next line).effectIn s = (.ok (.str line), s.unprinted)) (s : Session) :
    (askTrimmed prompt >>= next).effectIn s =
      ((typedText s.inputs).1, { s with inputs := (typedText s.inputs).2 }.unprinted) := by
  cases typed : s.inputs with
  | nil =>
    have same : { s with inputs := [] } = s := by rw [← typed]
    refine (effectIn_bind_error (effectIn_askTrimmed_none prompt s typed)).trans ?_
    change _ = (Except.error Failure.noInput, { s with inputs := [] }.unprinted)
    rw [same]
  | cons line rest =>
    exact effectIn_bind_ok (effectIn_askTrimmed prompt line rest s typed) fun _ _ => taken _ _

theorem effectIn_typeInstead (s : Session) :
    typeInstead.effectIn s =
      ((typedText s.inputs).1, { s with inputs := (typedText s.inputs).2 }.unprinted) :=
  effectIn_bind_ok (effectIn_say _ s) fun _ _ => effectIn_askText _ _ (fun _ _ => rfl) _

/-- A session whose saved sound was sent to the service. -/
def asked (path : String) (s : Session) : Session :=
  { s with calls := s.calls ++ [askCall path], posts := s.posts.tail }

/-- Send the saved sound to the service and use what comes back. -/
def askService (path : String) : Action Json := do
  useAnswer (← post (serverUrl ++ "/stt/file") (fileBody (.str path)))

theorem effectIn_askService_answered (path : String) (s : Session) (r : Response)
    (came : answered s.posts.head? = .ok r) {result : Except Failure Json × Session}
    (next : ∀ output errors,
      (useAnswer r).effectIn ((asked path s).printing output errors) = result) :
    (askService path).effectIn s = result := by
  refine effectIn_bind_ok (t := asked path s) ?_ next
  rw [effectIn_post _ _ s, came]
  rfl

theorem effectIn_askService_unanswered (path : String) (s : Session) (f : Failure)
    (came : answered s.posts.head? = .error f) :
    (askService path).effectIn s = (.error f, (asked path s).unprinted) := by
  refine effectIn_bind_error ?_
  rw [effectIn_post _ _ s, came]
  rfl

/-- Where asking the service fails, the text is typed. -/
theorem effectIn_transcribeSaved_failed (path : String) (s t : Session) (f : Failure)
    (failed : (askService path).effectIn s = (.error f, t.unprinted)) :
    (transcribeSaved path).effectIn s =
      ((typedText t.inputs).1, { t with inputs := (typedText t.inputs).2 }.unprinted) := by
  have tried : (attempt (askService path)).effectIn s = (.ok (.error f), t.unprinted) := by
    rw [effectIn_attempt, failed]
  refine effectIn_bind_ok tried fun _ _ => ?_
  exact effectIn_bind_ok (effectIn_say _ _) fun _ _ => effectIn_typeInstead _

theorem effectIn_transcribeSaved_done (path : String) (s t : Session) (text : Json)
    (done : (askService path).effectIn s = (.ok text, t.unprinted)) :
    (transcribeSaved path).effectIn s = (.ok text, t.unprinted) := by
  have tried : (attempt (askService path)).effectIn s = (.ok (.ok text), t.unprinted) := by
    rw [effectIn_attempt, done]
  exact effectIn_bind_ok tried fun _ _ => rfl

theorem effectIn_useAnswer_text (s : Session) (r : Response) (good : (r.status == 200) = true)
    (text : Json) (sent : r.body.bind textField? = some text) :
    (useAnswer r).effectIn s = (.ok text, s.unprinted) := by
  obtain ⟨v, body, text?⟩ := Option.bind_eq_some_iff.mp sent
  rw [useAnswer, if_pos good, Response.value, body]
  refine effectIn_bind_ok (effectIn_ofOutcome _ s) fun _ _ => ?_
  rcases replyField_text v with ⟨text', same, read⟩ | ⟨none_, -⟩
  · rw [read, Option.some.inj (same.symm.trans text?)]
    refine effectIn_bind_ok (effectIn_pure text _) fun _ _ => ?_
    exact effectIn_bind_ok (effectIn_sayAll _ _) fun _ _ => rfl
  · rw [none_] at text?
    cases text?

theorem effectIn_useAnswer_strange (r : Response) (good : (r.status == 200) = true)
    (sent : r.body.bind textField? = none) :
    ∃ f, ∀ s, (useAnswer r).effectIn s = (.error f, s.unprinted) := by
  rw [useAnswer, if_pos good, Response.value]
  cases body : r.body with
  | none => exact ⟨.noValue, fun s => effectIn_bind_error (effectIn_ofOutcome _ s)⟩
  | some v =>
    rw [body, Option.bind_some] at sent
    rcases replyField_text v with ⟨text, same, -⟩ | ⟨-, f, read⟩
    · rw [same] at sent
      cases sent
    · refine ⟨f, fun s => effectIn_bind_ok (effectIn_ofOutcome _ s) fun _ _ => ?_⟩
      rw [read]
      exact effectIn_bind_error (effectIn_fail f _)

/-- An answer that is a fault is no text, so one is typed. -/
theorem effectIn_useAnswer_fault (s : Session) (r : Response) (bad : (r.status == 200) = false) :
    (useAnswer r).effectIn s =
      ((typedText s.inputs).1, { s with inputs := (typedText s.inputs).2 }.unprinted) := by
  rw [useAnswer, if_neg (by rw [bad]; decide)]
  split
  · refine effectIn_bind_ok (effectIn_sayAll _ s) fun _ _ => ?_
    refine effectIn_askText _ _ (fun line t => ?_) _
    exact effectIn_bind_ok (effectIn_say _ t) fun _ _ => rfl
  · exact effectIn_bind_ok (effectIn_say _ s) fun _ _ => effectIn_typeInstead _

/-- Asking the service comes to the text in its reply, or fails, or has a text typed. -/
theorem effectIn_askService (path : String) (s : Session) :
    (∃ text, s.posts.head?.bind replyText? = some text ∧
      (askService path).effectIn s = (.ok text, (asked path s).unprinted)) ∨
    s.posts.head?.bind replyText? = none ∧
      ((∃ f, (askService path).effectIn s = (.error f, (asked path s).unprinted)) ∨
        (askService path).effectIn s = ((typedText s.inputs).1,
          { asked path s with inputs := (typedText s.inputs).2 }.unprinted)) := by
  rcases answered_cases s.posts.head? with ⟨f, failed, no_text⟩ | ⟨r, came, reply⟩
  · exact .inr ⟨no_text, .inl ⟨f, effectIn_askService_unanswered path s f failed⟩⟩
  rw [reply]
  cases good : r.status == 200 with
  | true =>
    rw [if_pos rfl]
    cases sent : r.body.bind textField? with
    | some text =>
      exact .inl ⟨text, rfl, effectIn_askService_answered path s r came fun _ _ =>
        effectIn_useAnswer_text _ r good text sent⟩
    | none =>
      obtain ⟨f, failed⟩ := effectIn_useAnswer_strange r good sent
      exact .inr ⟨rfl, .inl ⟨f, effectIn_askService_answered path s r came fun _ _ => failed _⟩⟩
  | false =>
    refine .inr ⟨rfl, .inr ?_⟩
    exact effectIn_askService_answered path s r came fun output errors =>
      effectIn_useAnswer_fault ((asked path s).printing output errors) r good

/-- The saved sound is sent to the service once, and comes to what was heard. -/
theorem effectIn_transcribeSaved (path : String) (s : Session) :
    (transcribeSaved path).effectIn s =
      ((heard s.posts.head? s.inputs).1,
        { asked path s with inputs := (heard s.posts.head? s.inputs).2 }.unprinted) := by
  rw [heard]
  rcases effectIn_askService path s with ⟨text, reply, done⟩ | ⟨reply, ⟨f, failed⟩ | typed⟩
  · rw [reply]
    exact effectIn_transcribeSaved_done path s (asked path s) text done
  · rw [reply]
    exact effectIn_transcribeSaved_failed path s (asked path s) f failed
  · rw [reply]
    -- A line that is missing is asked for once more, with the same outcome.
    cases lines : s.inputs with
    | nil =>
      rw [lines] at typed
      exact effectIn_transcribeSaved_failed path s { asked path s with inputs := [] } .noInput typed
    | cons line rest =>
      rw [lines] at typed
      exact effectIn_transcribeSaved_done path s { asked path s with inputs := rest } _ typed

/-- The path that the recorder gives for its sound. -/
def soundPath (s : Session) : String :=
  absolutePath s.location soundFile

theorem effectIn_fullPath (s : Session) :
    (fullPath soundFile).effectIn s = (.ok (soundPath s), s.unprinted) := rfl

/-- Saving a recording and having it written down leaves no sound file, whatever it comes to. -/
theorem effectIn_saveAndTranscribe (samples : List Float) (s : Session)
    (absent : s.root.find? soundFile = none) {content : List UInt8}
    (done : written s.sounds.head? = .ok content) :
    (saveAndTranscribe samples).effectIn s =
      ((heard s.posts.head? s.inputs).1,
        { s with
          calls := s.calls ++ [writeCall (soundPath s) samples, askCall (soundPath s)]
          posts := s.posts.tail
          inputs := (heard s.posts.head? s.inputs).2
          sounds := s.sounds.tail }.unprinted) := by
  refine effectIn_bind_ok (effectIn_fullPath s) fun output errors => ?_
  have here : (s.printing output errors).root = withSound s.root none := rfl
  have saved := runIn_saveSound absent (soundPath s) samples (s.printing output errors) here done
  refine effectIn_bind_ok (effectIn_of_runIn saved) fun _ _ => ?_
  refine effectIn_bind_ok (effectIn_sayAll _ _) fun _ _ => ?_
  have tried := effectIn_attempt (transcribeSaved (soundPath s))
  simp only [effectIn_transcribeSaved] at tried
  refine effectIn_bind_ok (tried _) fun _ _ => ?_
  refine effectIn_bind_ok (effectIn_of_runIn (runIn_removeSound absent _ rfl)) fun _ _ => ?_
  rw [effectIn_ofOutcome]
  simp only [Session.printing, asked, List.append_assoc]
  rfl

/-- Where the recording cannot be saved, nothing more is done. -/
theorem effectIn_saveAndTranscribe_unsaved (samples : List Float) (s : Session)
    (absent : s.root.find? soundFile = none) {f : Failure}
    (failed : written s.sounds.head? = .error f) :
    (saveAndTranscribe samples).effectIn s =
      (.error f, { s with
        calls := s.calls ++ [writeCall (soundPath s) samples]
        sounds := s.sounds.tail
        root := withSound s.root (scrapOf s.sounds.head?) }.unprinted) := by
  refine effectIn_bind_ok (effectIn_fullPath s) fun output errors => ?_
  have here : (s.printing output errors).root = withSound s.root none := rfl
  have broken := effectIn_of_runIn
    (runIn_saveSound_failed absent (soundPath s) samples (s.printing output errors) here failed)
  rw [Option.or_none] at broken
  exact effectIn_bind_error broken

theorem quiet_showResult (result : Json) : Quiet (showResult result) := by
  refine .bind (quiet_say _) fun _ => ?_
  refine .bind (quiet_sayField _ _ _ _) fun _ => ?_
  refine .bind (quiet_sayField _ _ _ _) fun _ => ?_
  refine .bind (.ofLoose _) fun found => ?_
  split
  · refine .bind (quiet_say _) fun _ => ?_
    refine .bind (.ofLoose _) fun _ => ?_
    exact .bind (.ofLoose _) fun _ => quiet_say _
  · exact .pure ()

/-- A text is executed once, and what goes wrong with that is told. -/
theorem effectIn_execute (text : Json) (s : Session) :
    (execute text).effectIn s =
      (.ok (), { s with
        calls := s.calls ++ routeCalls text
        posts := s.posts.drop (routeCalls text).length }.unprinted) := by
  rw [execute, routeCalls]
  cases text.truthy with
  | false =>
    simp only [Bool.false_eq_true, ↓reduceIte, List.append_nil, List.length_nil, List.drop_zero]
    rfl
  | true =>
    simp only [↓reduceIte, List.length_singleton, List.drop_one]
    refine effectIn_bind_ok (effectIn_say _ s) fun output errors => ?_
    have left : Moves (do
        let r ← post (serverUrl ++ "/intent/route") (textBody text)
        if r.status == 200 then showResult (← ofOutcome r.value)
        else say s!"   ❌ Error: {r.status}") (s.printing output errors)
        { s with
          calls := s.calls ++ [.post (serverUrl ++ "/intent/route") (textBody text)]
          posts := s.posts.tail } :=
      .then_quiet (.of_effectIn (effectIn_post _ _ _)) fun r =>
        .ite (.bind (.ofOutcome _) quiet_showResult) (quiet_say _)
    refine effectIn_bind_ok left.effectIn_attempt fun _ _ => ?_
    split
    · rfl
    · rfl

/-! ### Turns -/

/-- What a run of the recorder is given: the path of its sound, the lines that are typed, what the
recordings bring, how they are written, and what the service replies. -/
structure Script where
  path : String
  lines : List String
  recordings : List RecordingReply
  sounds : List SoundReply
  replies : List HttpReply

/-- What is still to come in a session. -/
def script (s : Session) : Script :=
  ⟨soundPath s, s.inputs, s.recordings, s.sounds, s.posts⟩

/-- A line asks for a recording. -/
def Records (line : String) : Prop :=
  choiceOf line = "r" ∨ choiceOf line = ""

/-- A turn after which there is another one, with the calls that it makes. -/
inductive Turn : Script → List Call → Script → Prop
  | other {script line rest} (typed : script.lines = line :: rest) (stays : choiceOf line ≠ "q")
      (idle : ¬Records line) : Turn script [] { script with lines := rest }
  | command {script line rest samples content text} (typed : script.lines = line :: rest)
      (records : Records line) (sound : soundOf script.recordings.head? = .ok samples)
      (saved : written script.sounds.head? = .ok content)
      (understood : (heard script.replies.head? rest).1 = .ok text) :
      Turn script (block script.path samples text)
        { script with
          lines := (heard script.replies.head? rest).2
          recordings := script.recordings.tail
          sounds := script.sounds.tail
          replies := script.replies.tail.drop (routeCalls text).length }

/-- A row of turns, with the blocks of calls that they make. -/
inductive Turns : Script → List Call → Script → Prop
  | none (script) : Turns script [] script
  | more {a b c calls later} (turn : Turn a calls b) (rest : Turns b later c) :
      Turns a (calls ++ later) c

/-- How the last turn ends, with the calls that it makes and what is left of the sound file. It is
asked to end, or it fails: for want of a line, at the recording, at the writer, or for want of the
text that is typed instead. -/
inductive Ends (script : Script) :
    Except Failure Unit → List Call → Option (List UInt8) → Prop
  | quit {line rest} (typed : script.lines = line :: rest) (asked : choiceOf line = "q") :
      Ends script (.ok ()) [] none
  | unasked (empty : script.lines = []) : Ends script (.error .noInput) [] none
  | unrecorded {line rest f} (typed : script.lines = line :: rest) (records : Records line)
      (silent : soundOf script.recordings.head? = .error f) :
      Ends script (.error f) [recordCall] none
  | unsaved {line rest samples f} (typed : script.lines = line :: rest) (records : Records line)
      (sound : soundOf script.recordings.head? = .ok samples)
      (failed : written script.sounds.head? = .error f) :
      Ends script (.error f) [recordCall, writeCall script.path samples]
        (scrapOf script.sounds.head?)
  | unheard {line rest samples content f} (typed : script.lines = line :: rest)
      (records : Records line) (sound : soundOf script.recordings.head? = .ok samples)
      (saved : written script.sounds.head? = .ok content)
      (untold : (heard script.replies.head? rest).1 = .error f) :
      Ends script (.error f) [recordCall, writeCall script.path samples, askCall script.path] none

theorem length_heard_le (reply : Option HttpReply) (lines : List String) :
    (heard reply lines).2.length ≤ lines.length := by
  rw [heard]
  split
  · exact Nat.le_refl _
  · cases lines with
    | nil => exact Nat.le_refl _
    | cons line rest => exact Nat.le_succ _

/-- A turn takes a line. -/
theorem Turn.lines_lt {a b : Script} {calls : List Call} (turn : Turn a calls b) :
    b.lines.length < a.lines.length := by
  cases turn with
  | other typed stays idle =>
    rw [typed]
    exact Nat.lt_succ_self _
  | command typed records sound saved understood =>
    rw [typed]
    exact Nat.lt_succ_of_le (length_heard_le _ _)

theorem Turns.sounds_suffix {a b : Script} {calls : List Call} (turns : Turns a calls b) :
    b.sounds <:+ a.sounds := by
  induction turns with
  | none script => exact List.suffix_refl _
  | more turn rest ih =>
    cases turn with
    | other typed stays idle => exact ih
    | command typed records sound saved understood => exact ih.trans (List.tail_suffix _)

/-- The sound file is gone at the end where a writer that fails leaves none. -/
theorem Ends.scrap_eq_none {script : Script} {outcome : Except Failure Unit} {calls : List Call}
    {scrap : Option (List UInt8)} (ends : Ends script outcome calls scrap)
    (clean : ∀ reply ∈ script.sounds, reply.Clean) : scrap = none := by
  cases ends with
  | unsaved typed records sound failed =>
    cases queue : script.sounds with
    | nil => rfl
    | cons reply rest =>
      have leaves_none := clean reply (queue ▸ List.mem_cons_self)
      cases reply with
      | written content => rfl
      | broken message part => exact leaves_none
  | _ => rfl

/-- From one session to another, calls were made and nothing but the sound file has changed. -/
structure Tidy (s : Session) (calls : List Call) (scrap : Option (List UInt8)) (t : Session) :
    Prop where
  calls : t.calls = s.calls ++ calls
  root : t.root = withSound s.root scrap

theorem Tidy.trans {s t u : Session} {first second : List Call} {scrap : Option (List UInt8)}
    (before : Tidy s first none t) (after : Tidy t second scrap u) :
    Tidy s (first ++ second) scrap u where
  calls := by rw [after.calls, before.calls, List.append_assoc]
  root := by rw [after.root, before.root, withSound]

/-- Write a recording down and execute it. -/
def useSound (samples : List Float) : Action Bool := do
  let text ← saveAndTranscribe samples
  execute text
  return true

/-- Record a command and execute it. -/
def command : Action Bool := do
  useSound (← recordSound)

/-- A turn behind the choice that was typed. -/
def afterChoice (choice : String) : Action Bool := do
  if choice == "q" then
    say "\n👋 Goodbye!"
    return false
  else if choice == "r" || choice == "" then command
  else
    say "   Type 'r' to record or 'q' to quit"
    return true

theorem effectIn_turn_unasked (s : Session) (empty : s.inputs = []) :
    turn.effectIn s = (.error .noInput, s.unprinted) := by
  refine effectIn_bind_ok (effectIn_write _ s) fun _ _ => ?_
  exact effectIn_bind_error (effectIn_askChoice_none _ _ empty)

section

variable (s : Session) {line : String} {rest : List String} (typed : s.inputs = line :: rest)

include typed

theorem effectIn_turn_typed {result : Except Failure Bool × Session}
    (next : ∀ output errors,
      (afterChoice (choiceOf line)).effectIn ({ s with inputs := rest }.printing output errors) =
        result) :
    turn.effectIn s = result := by
  refine effectIn_bind_ok (effectIn_write _ s) fun _ _ => ?_
  exact effectIn_bind_ok (effectIn_askChoice _ line rest _ typed) next

theorem effectIn_turn_quit (asked : choiceOf line = "q") :
    turn.effectIn s = (.ok false, { s with inputs := rest }.unprinted) := by
  refine effectIn_turn_typed s typed fun _ _ => ?_
  rw [afterChoice, if_pos (beq_iff_eq.mpr asked)]
  exact effectIn_bind_ok (effectIn_say _ _) fun _ _ => rfl

theorem effectIn_turn_other (stays : choiceOf line ≠ "q") (idle : ¬Records line) :
    turn.effectIn s = (.ok true, { s with inputs := rest }.unprinted) := by
  refine effectIn_turn_typed s typed fun _ _ => ?_
  rw [afterChoice, if_neg (by rwa [beq_iff_eq]),
    if_neg (by rwa [Bool.or_eq_true, beq_iff_eq, beq_iff_eq])]
  exact effectIn_bind_ok (effectIn_say _ _) fun _ _ => rfl

theorem effectIn_turn_records (records : Records line) {result : Except Failure Bool × Session}
    (next : ∀ output errors,
      command.effectIn ({ s with inputs := rest }.printing output errors) = result) :
    turn.effectIn s = result := by
  refine effectIn_turn_typed s typed fun _ _ => ?_
  have stays : choiceOf line ≠ "q" := by
    rcases records with same | same <;> rw [same] <;> decide
  rw [afterChoice, if_neg (by rwa [beq_iff_eq]),
    if_pos (by rwa [Bool.or_eq_true, beq_iff_eq, beq_iff_eq])]
  exact next _ _

theorem effectIn_turn_unrecorded (records : Records line) {f : Failure}
    (silent : soundOf s.recordings.head? = .error f) :
    turn.effectIn s =
      (.error f, { s with
        inputs := rest
        calls := s.calls ++ [recordCall]
        recordings := s.recordings.tail }.unprinted) := by
  refine effectIn_turn_records s typed records fun output errors => ?_
  have brought := effectIn_recordSound ({ s with inputs := rest }.printing output errors)
  dsimp only [Session.printing] at brought ⊢
  rw [silent] at brought
  exact effectIn_bind_error brought

variable (records : Records line) {samples : List Float}
  (sound : soundOf s.recordings.head? = .ok samples) (absent : s.root.find? soundFile = none)

include records sound

/-- A turn that brings a sound comes down to what is done with that. -/
theorem effectIn_turn_sound {result : Except Failure Bool × Session}
    (next : ∀ output errors, (useSound samples).effectIn ({ s with
      inputs := rest
      calls := s.calls ++ [recordCall]
      recordings := s.recordings.tail }.printing output errors) = result) :
    turn.effectIn s = result := by
  refine effectIn_turn_records s typed records fun output errors => ?_
  have brought := effectIn_recordSound ({ s with inputs := rest }.printing output errors)
  dsimp only [Session.printing] at brought ⊢
  rw [sound] at brought
  exact effectIn_bind_ok brought next

include absent

/-- A recording that cannot be saved ends the recorder, and leaves what the writer leaves. -/
theorem effectIn_turn_unsaved {f : Failure} (failed : written s.sounds.head? = .error f) :
    turn.effectIn s =
      (.error f, { s with
        inputs := rest
        calls := s.calls ++ [recordCall, writeCall (soundPath s) samples]
        recordings := s.recordings.tail
        sounds := s.sounds.tail
        root := withSound s.root (scrapOf s.sounds.head?) }.unprinted) := by
  refine effectIn_turn_sound s typed records sound fun output errors => ?_
  have broken := effectIn_saveAndTranscribe_unsaved samples ({ s with
    inputs := rest
    calls := s.calls ++ [recordCall]
    recordings := s.recordings.tail }.printing output errors) absent failed
  dsimp only [Session.printing] at broken ⊢
  rw [List.append_assoc] at broken
  exact effectIn_bind_error broken

variable {content : List UInt8} (saved : written s.sounds.head? = .ok content)

include saved

theorem effectIn_turn_unheard {f : Failure} (untold : (heard s.posts.head? rest).1 = .error f) :
    turn.effectIn s =
      (.error f, { s with
        inputs := (heard s.posts.head? rest).2
        calls := s.calls ++ [recordCall, writeCall (soundPath s) samples, askCall (soundPath s)]
        recordings := s.recordings.tail
        sounds := s.sounds.tail
        posts := s.posts.tail }.unprinted) := by
  refine effectIn_turn_sound s typed records sound fun output errors => ?_
  have told := effectIn_saveAndTranscribe samples ({ s with
    inputs := rest
    calls := s.calls ++ [recordCall]
    recordings := s.recordings.tail }.printing output errors) absent saved
  dsimp only [Session.printing] at told ⊢
  rw [untold, List.append_assoc] at told
  exact effectIn_bind_error told

theorem effectIn_turn_command {text : Json}
    (understood : (heard s.posts.head? rest).1 = .ok text) :
    turn.effectIn s =
      (.ok true, { s with
        inputs := (heard s.posts.head? rest).2
        calls := s.calls ++ block (soundPath s) samples text
        recordings := s.recordings.tail
        sounds := s.sounds.tail
        posts := s.posts.tail.drop (routeCalls text).length }.unprinted) := by
  refine effectIn_turn_sound s typed records sound fun output errors => ?_
  have told := effectIn_saveAndTranscribe samples ({ s with
    inputs := rest
    calls := s.calls ++ [recordCall]
    recordings := s.recordings.tail }.printing output errors) absent saved
  dsimp only [Session.printing] at told ⊢
  rw [understood, List.append_assoc] at told
  refine effectIn_bind_ok told fun _ _ => ?_
  refine effectIn_bind_ok (effectIn_execute text _) fun _ _ => ?_
  dsimp only [Session.printing]
  rw [List.append_assoc]
  rfl

end

/-! ### Runs -/

/-- A turn goes on to the next one without a sound file, or ends the recorder. -/
theorem runIn_turn (s : Session) (absent : s.root.find? soundFile = none) :
    (∃ calls t, turn.runIn s = (.ok true, t) ∧
      Turn (script s) calls (script t) ∧ Tidy s calls none t) ∨
    ∃ outcome calls scrap t, turn.runIn s = (outcome.map fun _ => false, t) ∧
      Ends (script s) outcome calls scrap ∧ Tidy s calls scrap t := by
  have none_called : s.calls = s.calls ++ [] := (List.append_nil _).symm
  cases typed : s.inputs with
  | nil =>
    obtain ⟨_, _, ran⟩ := runIn_of_effectIn (effectIn_turn_unasked s typed)
    exact .inr ⟨.error .noInput, _, _, _, ran, .unasked typed, none_called, rfl⟩
  | cons line rest =>
    by_cases asked : choiceOf line = "q"
    · obtain ⟨_, _, ran⟩ := runIn_of_effectIn (effectIn_turn_quit s typed asked)
      exact .inr ⟨.ok (), _, _, _, ran, .quit typed asked, none_called, rfl⟩
    by_cases records : Records line
    · cases sound : soundOf s.recordings.head? with
      | error f =>
        obtain ⟨_, _, ran⟩ := runIn_of_effectIn (effectIn_turn_unrecorded s typed records sound)
        exact .inr ⟨.error f, _, _, _, ran, .unrecorded typed records sound, rfl, rfl⟩
      | ok samples =>
        cases saved : written s.sounds.head? with
        | error f =>
          obtain ⟨_, _, ran⟩ :=
            runIn_of_effectIn (effectIn_turn_unsaved s typed records sound absent saved)
          exact .inr ⟨.error f, _, _, _, ran, .unsaved typed records sound saved, rfl, rfl⟩
        | ok content =>
          cases came : (heard s.posts.head? rest).1 with
          | error f =>
            obtain ⟨_, _, ran⟩ :=
              runIn_of_effectIn (effectIn_turn_unheard s typed records sound absent saved came)
            exact .inr ⟨.error f, _, _, _, ran, .unheard typed records sound saved came, rfl, rfl⟩
          | ok text =>
            obtain ⟨_, _, ran⟩ :=
              runIn_of_effectIn (effectIn_turn_command s typed records sound absent saved came)
            exact .inl ⟨_, _, ran, .command typed records sound saved came, rfl, rfl⟩
    · obtain ⟨_, _, ran⟩ := runIn_of_effectIn (effectIn_turn_other s typed asked records)
      exact .inl ⟨_, _, ran, .other typed asked records, none_called, rfl⟩

/-- Turns are repeated until one ends the recorder; the bound on them is never met. -/
theorem runIn_turns (fuel : Nat) (s : Session) (enough : s.inputs.length < fuel)
    (absent : s.root.find? soundFile = none) :
    ∃ outcome whole left cut scrap t, (repeatSteps turn fuel).runIn s = (outcome, t) ∧
      Turns (script s) whole left ∧ Ends left outcome cut scrap ∧
      Tidy s (whole ++ cut) scrap t := by
  induction fuel generalizing s with
  | zero => exact absurd enough (Nat.not_lt_zero _)
  | succ fuel ih =>
    rw [repeatSteps]
    rcases runIn_turn s absent with
      ⟨calls, t, ran, turned, tidy⟩ | ⟨outcome, cut, scrap, t, ran, ends, tidy⟩
    · have fewer : t.inputs.length < fuel :=
        Nat.lt_of_lt_of_le turned.lines_lt (Nat.le_of_lt_succ enough)
      have still : t.root.find? soundFile = none := by rw [tidy.root, withSound, absent]
      obtain ⟨outcome, whole, left, cut, scrap, u, later, turns, ends, tidily⟩ := ih t fewer still
      refine ⟨outcome, calls ++ whole, left, cut, scrap, u, ?_, .more turned turns, ends, ?_⟩
      · rw [runIn_bind_ok ran, if_pos rfl, later]
      · rw [List.append_assoc]
        exact tidy.trans tidily
    · refine ⟨outcome, [], script s, cut, scrap, t, ?_, .none _, ends, tidy⟩
      cases outcome with
      | error f => rw [runIn_bind_error ran]
      | ok _ =>
        rw [runIn_bind_ok ran]
        rfl

theorem effectIn_run_refused (s : Session) (refused : statusOf s.gets.head? ≠ some true) :
    run.effectIn s = (.ok (), { s with gets := s.gets.tail }.unprinted) := by
  refine effectIn_bind_ok (effectIn_sayAll _ s) fun output errors => ?_
  refine effectIn_bind_ok (effectIn_serverStatus _) fun _ _ => ?_
  change statusOf (s.printing output errors).gets.head? ≠ some true at refused
  split
  · rfl
  · exact effectIn_sayAll _ _
  · contradiction

/-- Where the service is there, the recorder comes down to its turns. -/
theorem reaches_turns (s : Session) (ready : statusOf s.gets.head? = some true) :
    Reaches run s (repeatSteps turn (s.inputs.length + 1)) { s with gets := s.gets.tail } := by
  refine .bind (effectIn_sayAll _ s) fun _ _ => ?_
  refine .bind (effectIn_serverStatus _) fun _ _ => ?_
  dsimp only [Session.printing]
  rw [ready]
  refine .bind (effectIn_say _ _) fun _ _ => ?_
  refine .bind (effectIn_hasKey _) fun _ _ => ?_
  refine .bind (effectIn_say _ _) fun _ _ => ?_
  refine .bind (effectIn_sayAll _ _) fun _ _ => ?_
  exact ⟨_, _, rfl⟩

/-- A session in which one command is spoken and executed. -/
def oneCommand : Session where
  clock := { year := 2024, month := 1, day := 2 }
  gets := [.response 200 none ""]
  inputs := ["r", "q"]
  recordings := [.samples [0.5]]
  posts := [
    .response 200 (some (.obj [("text", .str "run tests")])) "",
    .response 200 (some .null) ""]
  sounds := [.written (Text.encode "RIFF")]

end VoiceDebugger.Recorder.Simple
