import VoiceDebugger.Proofs.Recorder.Turns

/-!
What the plain, the live and the advanced recorder leave behind.

They remove the sound file of a recording once its text was executed, and go on to the next turn
without that where there is no text. So a sound file is left exactly if the last recording that was
saved came to no text: a later one that comes to a text takes the file with it.
-/

namespace VoiceDebugger.Recorder

open VoiceDebugger.Action

/-! ### Runs -/

/-- Turns are repeated until one ends the recorder, so that the sound file is left as the texts
say. -/
theorem Kind.yields_turns (k : Kind) {root : Folder} (absent : root.find? soundFile = none)
    (whisper : Bool) (fuel : Nat) {kept : Option (List UInt8)} {s : Session}
    (enough : s.inputs.length < fuel) (here : s.root = withSound root kept) :
    Yields (repeatSteps (k.turn whisper) fuel) s fun _ t =>
      t.inputs.length < s.inputs.length ∧
        ∃ left, Leaves kept (k.textsIn whisper s) s.sounds left ∧ t.root = withSound root left := by
  induction fuel generalizing kept s with
  | zero => exact absurd enough (Nat.not_lt_zero _)
  | succ fuel ih =>
    refine .bind (k.yields_turn absent whisper here) fun more t ⟨fewer, kept', here', stepped⟩ => ?_
    cases more with
    | false => exact .of_pure fun _ _ => ⟨fewer, kept', stepped, here'⟩
    | true =>
      have enough' : t.inputs.length < fuel := Nat.lt_of_lt_of_le fewer (Nat.le_of_lt_succ enough)
      refine (ih enough' here').mono fun _ u ⟨fewer', left, leaves, ended⟩ => ?_
      exact ⟨Nat.lt_trans fewer' fewer, left, stepped left leaves, ended⟩

/-- How a run ends: before its turns, without a line taken, or behind them. -/
def Ended (k : Kind) (s t : Session) : Prop :=
  (t.inputs = s.inputs ∧ t.root = s.root) ∨
    (t.inputs.length < s.inputs.length ∧
      ∃ left, Leaves none (k.spoken s) s.sounds left ∧ t.root = withSound s.root left)

/-- A run that ends before its turns. -/
theorem Kind.yields_refused (k : Kind) {s t : Session} (same : t.root = s.root)
    (inputs : t.inputs = s.inputs) {a : Action Unit} (quiet : Quiet a) :
    Yields a t fun _ u => Ended k s u :=
  .of_moves (t := t) (fun _ _ => quiet _) fun _ _ _ => .inl ⟨inputs, same⟩

/-- The turns of a run, in a session that gives what is left to them. -/
theorem Kind.yields_ended (k : Kind) {s t : Session} (absent : s.root.find? soundFile = none)
    (same : t.root = s.root) (inputs : t.inputs = s.inputs) (sounds : t.sounds = s.sounds)
    (texts : k.textsIn s.hasKey t = k.spoken s) :
    Yields (repeatStep (k.turn s.hasKey)) t fun _ u => Ended k s u := by
  have here : t.root = withSound s.root none := same
  have turns := k.yields_turns absent s.hasKey (t.inputs.length + 1) (Nat.lt_succ_self _) here
  rw [texts, inputs, sounds] at turns
  intro output errors x u ran
  exact .inr (turns output errors x u (inputs ▸ ran))

/-- A run whose microphone works, behind the test of that. -/
theorem Kind.yields_tested (k : Kind) {s t : Session} (absent : s.root.find? soundFile = none)
    (same : t.root = s.root) {streams : List StreamReply}
    (kept : given t = (s.inputs, streams, s.posts, s.sounds)) (key : t.apiKey = s.apiKey)
    (texts : k.texts s.hasKey s.inputs streams s.posts = k.spoken s) (keyed : String)
    (keyless : List String) :
    Yields (do
      let whisper ← hasKey
      if whisper then say keyed else sayAll keyless
      repeatStep (k.turn whisper)) t fun _ u => Ended k s u := by
  obtain ⟨inputs, here, posts, sounds⟩ := given_eq_iff.mp kept
  have to_come : k.textsIn s.hasKey t = k.spoken s := by
    rw [Kind.textsIn, inputs, here, posts, texts]
  have turns := k.yields_ended absent same inputs sounds to_come
  rw [← hasKey_congr key] at turns
  refine .after_ok (x := t.hasKey) (t := t) (fun _ _ => effectIn_hasKey _) ?_
  split
  · exact .quiet (quiet_say _) fun _ => turns
  · exact .quiet (quiet_sayAll _) fun _ => turns

theorem Live.yields_run (s : Session) (absent : s.root.find? soundFile = none) :
    Yields Live.run s fun _ t => Ended .live s t := by
  refine .quiet (quiet_sayAll _) fun _ => ?_
  refine .after_ok (x := statusOf s.gets.head?) (t := { s with gets := s.gets.tail })
    (fun _ _ => effectIn_serverStatus _) ?_
  split
  · exact Kind.yields_refused .live rfl rfl (quiet_sayAll _)
  · exact Kind.yields_refused .live rfl rfl (quiet_sayAll _)
  · refine .quiet (quiet_say _) fun _ => ?_
    refine .after_ok (x := s.hasKey) (t := { s with gets := s.gets.tail })
      (fun _ _ => effectIn_hasKey _) ?_
    exact .quiet (quiet_say _) fun _ => Kind.yields_ended .live absent rfl rfl rfl rfl

theorem Plain.yields_run (s : Session) (absent : s.root.find? soundFile = none) :
    Yields Plain.run s fun _ t => Ended .plain s t := by
  refine .quiet (quiet_sayAll _) fun _ => ?_
  refine .after_ok (x := statusOf s.gets.head?) (t := { s with gets := s.gets.tail })
    (fun _ _ => effectIn_serverStatus _) ?_
  split
  · exact Kind.yields_refused .plain rfl rfl (quiet_sayAll _)
  · exact Kind.yields_refused .plain rfl rfl (quiet_sayAll _)
  · refine .quiet (quiet_say _) fun _ => ?_
    refine .bind (Plain.yields_testMicrophone _) fun works t tested => ?_
    obtain ⟨same, kept, key⟩ := tested
    cases works with
    | false => exact Kind.yields_refused .plain same (given_eq_iff.mp kept).1 (quiet_sayAll _)
    | true => exact Kind.yields_tested .plain absent same kept key rfl _ _

theorem Advanced.yields_run (s : Session) (absent : s.root.find? soundFile = none) :
    Yields Advanced.run s fun _ t => Ended .advanced s t := by
  refine .quiet (quiet_sayAll _) fun _ => ?_
  refine .after_ok (x := statusOf s.gets.head?) (t := { s with gets := s.gets.tail })
    (fun _ _ => effectIn_serverStatus _) ?_
  split
  · exact Kind.yields_refused .advanced rfl rfl (quiet_sayAll _)
  · exact Kind.yields_refused .advanced rfl rfl (quiet_sayAll _)
  · refine .quiet (quiet_say _) fun _ => .quiet Advanced.quiet_listDevices fun _ => ?_
    refine .bind (Advanced.yields_testMicrophone _) fun works t tested => ?_
    obtain ⟨same, kept, key⟩ := tested
    cases works with
    | false => exact Kind.yields_refused .advanced same (given_eq_iff.mp kept).1 (quiet_say _)
    | true => exact Kind.yields_tested .advanced absent same kept key rfl _ _

theorem Kind.yields_run (k : Kind) (s : Session) (absent : s.root.find? soundFile = none) :
    Yields k.run s fun _ t => Ended k s t := by
  cases k with
  | plain => exact Plain.yields_run s absent
  | live => exact Live.yields_run s absent
  | advanced => exact Advanced.yields_run s absent

/-- Where a run of one of these recorders returns, it took no line and left the workspace as it was,
or it was asked to end. Then the sound file is there exactly if the last recording that was saved
came to no text. It holds what was written for that recording, and nothing else in the workspace has
changed. -/
theorem sound_left_iff (k : Kind) (s t : Session) (absent : pathExists s.root soundFile = false)
    (returned : k.run.runIn s = (.ok (), t)) :
    (t.inputs = s.inputs ∧ t.root = s.root) ∨
      (t.inputs.length < s.inputs.length ∧
        (pathExists t.root soundFile = true ↔
          ∃ text, (k.spoken s).getLast? = some text ∧ text.truthy = false) ∧
        ∃ left, t.root = withSound s.root left ∧ ∀ content, left = some content →
          s.sounds[(k.spoken s).length - 1]? = some (.written content)) := by
  have nothing := find?_of_not_pathExists absent
  rcases k.yields_run s nothing s.output s.errors () t returned with
    ended | ⟨fewer, left, leaves, ended⟩
  · exact .inl ended
  · refine .inr ⟨fewer, ?_, left, ended, ?_⟩
    · rw [ended, pathExists_withSound nothing]
      rcases leaves.last with ⟨none_saved, rfl⟩ | ⟨text, content, same, -, rfl⟩
      · simp [none_saved]
      · rw [same, leftOf]
        cases truthy : text.truthy <;> simp [truthy]
    · rintro content rfl
      rcases leaves.last with ⟨-, nothing_left⟩ | ⟨text, bytes, -, reply, found⟩
      · cases nothing_left
      · rw [leftOf] at found
        split at found
        · cases found
        · cases found
          exact reply

/-! ### A sound file that is left -/

namespace Live

theorem effectIn_recordSound (duration : Int) (s : Session) {chunks : List (List Float)}
    {more : List StreamReply} (came : s.streams = .chunks chunks :: more) {x : Float}
    {xs : List Float} (samples : chunks.flatten = x :: xs) :
    (recordSound duration).effectIn s =
      (.ok (some (x :: xs)), { s with streams := more }.unprinted) := by
  refine effectIn_bind_ok (effectIn_sayAll _ s) fun output errors => ?_
  have brought : (listenShown duration).effectIn (s.printing output errors) =
      (.ok chunks, { s with streams := more }.unprinted) := by
    rw [effectIn_listenShown]
    simp only [Session.printing, came]
    rfl
  refine effectIn_bind_ok brought fun _ _ => effectIn_bind_ok (effectIn_say _ _) fun _ _ => ?_
  have some_chunk : chunks.isEmpty = false := by
    cases chunks with
    | nil => cases samples
    | cons chunk rest => rfl
  rw [some_chunk, if_neg Bool.false_ne_true, samples]
  refine effectIn_bind_ok (effectIn_peakOf_cons x xs _) fun _ _ => ?_
  dsimp only [Session.printing]
  split
  · exact effectIn_bind_ok (effectIn_say _ _) fun _ _ => rfl
  · split
    · exact effectIn_bind_ok (effectIn_say _ _) fun _ _ => rfl
    · exact effectIn_bind_ok (effectIn_say _ _) fun _ _ => rfl

theorem effectIn_turn_quit (whisper : Bool) (s : Session) {line : String} {rest : List String}
    (typed : s.inputs = line :: rest) (asked : choiceOf line = "q") :
    (turn whisper).effectIn s = (.ok false, { s with inputs := rest }.unprinted) := by
  refine effectIn_bind_ok (effectIn_sayAll _ s) fun _ _ => ?_
  refine effectIn_bind_ok (effectIn_askChoice _ line rest _ typed) fun _ _ => ?_
  rw [if_pos (beq_iff_eq.mpr asked)]
  exact effectIn_bind_ok (effectIn_say _ _) fun _ _ => rfl

/-- A session behind a sound that was written and left. -/
def leaving (s : Session) (samples : List Float) (content : List UInt8) : Session :=
  { s with
    calls := s.calls ++ [.writeSound (absolutePath s.location soundFile) samples.length sampleRate]
    root := withSound s.root (some content)
    sounds := s.sounds.tail }

theorem effectIn_save (samples : List Float) (s : Session) (absent : s.root.find? soundFile = none)
    {content : List UInt8} (done : written s.sounds.head? = .ok content) :
    (save samples soundFile).effectIn s =
      (.ok (absolutePath s.location soundFile), (leaving s samples content).unprinted) := by
  have full : (fullPath soundFile).effectIn s =
      (.ok (absolutePath s.location soundFile), s.unprinted) := rfl
  refine effectIn_bind_ok full fun output errors => ?_
  have here : (s.printing output errors).root = withSound s.root none := rfl
  have saved := effectIn_of_runIn (runIn_saveSound absent (absolutePath s.location soundFile)
    samples (s.printing output errors) here done)
  exact effectIn_bind_ok (t := leaving s samples content) saved fun _ _ => rfl

/-- A sound for which no text is typed is saved and left. -/
theorem effectIn_useSound_missed (samples : List Float) (s : Session)
    (absent : s.root.find? soundFile = none) {line : String} {rest : List String}
    (typed : s.inputs = line :: rest) (empty : Text.strip line = "") {content : List UInt8}
    (done : written s.sounds.head? = .ok content) :
    (useSound false samples).effectIn s =
      (.ok (), (leaving { s with inputs := rest } samples content).unprinted) := by
  refine effectIn_bind_ok (effectIn_save samples s absent done) fun output errors => ?_
  have told : (textOf false (absolutePath s.location soundFile)).effectIn
        ((leaving s samples content).printing output errors) =
      (.ok (.str (Text.strip line)),
        (leaving { s with inputs := rest } samples content).unprinted) := by
    refine effectIn_bind_ok (effectIn_say _ _) fun _ _ => ?_
    exact effectIn_bind_ok (effectIn_askTrimmed _ line rest _ typed) fun _ _ => rfl
  refine effectIn_bind_ok told fun _ _ => ?_
  rw [empty]
  rfl

/-- A turn in which a sound is saved and no text is typed for it leaves the sound file. -/
theorem effectIn_turn_missed (s : Session) (absent : s.root.find? soundFile = none)
    {line typed : String} {rest : List String} (lines : s.inputs = line :: typed :: rest)
    (records : choiceOf line ≠ "q") (empty : Text.strip typed = "") {chunks : List (List Float)}
    {more : List StreamReply} (came : s.streams = .chunks chunks :: more) {x : Float}
    {xs : List Float} (samples : chunks.flatten = x :: xs) {content : List UInt8}
    (done : written s.sounds.head? = .ok content) :
    (turn false).effectIn s =
      (.ok true,
        (leaving { s with inputs := rest, streams := more } (x :: xs) content).unprinted) := by
  refine effectIn_bind_ok (effectIn_sayAll _ s) fun _ _ => ?_
  refine effectIn_bind_ok (effectIn_askChoice _ line (typed :: rest) _ lines) fun output errors => ?_
  rw [if_neg (by rwa [beq_iff_eq])]
  have recorded := effectIn_recordSound seconds
    ({ s with inputs := typed :: rest }.printing output errors) came samples
  refine effectIn_bind_ok recorded fun output errors => ?_
  have missed := effectIn_useSound_missed (x :: xs)
    ({ s with inputs := typed :: rest, streams := more }.printing output errors)
    absent rfl empty done
  exact effectIn_bind_ok missed fun _ _ => rfl

theorem reaches_turns (s : Session) (ready : statusOf s.gets.head? = some true) :
    Reaches run s (repeatSteps (turn s.hasKey) (s.inputs.length + 1))
      { s with gets := s.gets.tail } := by
  refine .bind (effectIn_sayAll _ s) fun _ _ => ?_
  refine .bind (effectIn_serverStatus _) fun _ _ => ?_
  dsimp only [Session.printing]
  rw [ready]
  refine .bind (effectIn_say _ _) fun _ _ => ?_
  refine .bind (effectIn_hasKey _) fun _ _ => ?_
  refine .bind (effectIn_say _ _) fun _ _ => ?_
  exact ⟨_, _, rfl⟩

end Live

/-- What a sound writer puts at the start of a file. -/
def soundMark : List UInt8 := Text.encode "RIFF"

/-- A session with the live recorder in which something is recorded, no text is typed for it, and
the recorder is asked to end. -/
def muffled : Session where
  clock := { year := 2024, month := 1, day := 2 }
  gets := [.response 200 none ""]
  inputs := ["", "", "q"]
  streams := [.chunks [[0.5]]]
  sounds := [.written soundMark]

/-- The session behind it, up to what is printed. -/
def stillMuffled : Session :=
  Live.leaving { muffled with gets := [], inputs := [], streams := [] } [0.5] soundMark

theorem effectIn_muffled_turns (output errors : String) :
    (repeatSteps (Live.turn false) 4).effectIn ({ muffled with gets := [] }.printing output errors) =
      (.ok (), stillMuffled.unprinted) := by
  have absent : Folder.find? soundFile [] = none := rfl
  have lines : muffled.inputs = "" :: "" :: ["q"] := rfl
  have records : choiceOf "" ≠ "q" := by decide
  have empty : Text.strip "" = "" := by decide
  have came : muffled.streams = .chunks [[0.5]] :: [] := rfl
  have samples : [[(0.5 : Float)]].flatten = 0.5 :: [] := rfl
  have done : written muffled.sounds.head? = .ok soundMark := rfl
  have missed := Live.effectIn_turn_missed ({ muffled with gets := [] }.printing output errors)
    absent lines records empty came samples done
  refine effectIn_bind_ok (t := { stillMuffled with inputs := ["q"] }) missed fun output errors => ?_
  rw [if_pos rfl]
  have asked : choiceOf "q" = "q" := by decide
  have quit := Live.effectIn_turn_quit false
    ({ stillMuffled with inputs := ["q"] }.printing output errors) rfl asked
  exact effectIn_bind_ok (t := stillMuffled) quit fun _ _ => rfl

theorem runIn_muffled :
    ∃ output errors, Live.run.runIn muffled = (.ok (), stillMuffled.printing output errors) := by
  obtain ⟨output, errors, reached⟩ := Live.reaches_turns muffled rfl
  obtain ⟨output', errors', ran⟩ := runIn_of_effectIn (effectIn_muffled_turns output errors)
  exact ⟨output', errors', reached.trans ran⟩

theorem find?_muffled : muffled.root.find? soundFile = none := rfl

theorem not_pathExists_muffled : pathExists muffled.root soundFile = false :=
  pathExists_withSound find?_muffled none

/-- The recorder was asked to end, and the sound file is still there, with what was written. -/
theorem live_leaves_sound :
    pathExists muffled.root soundFile = false ∧ choiceOf "q" = "q" ∧
      ∃ t, Kind.live.run.runIn muffled = (.ok (), t) ∧ muffled.inputs = ["", "", "q"] ∧
        t.inputs = [] ∧ pathExists t.root soundFile = true ∧
        readBytes t.root soundFile = .ok soundMark := by
  obtain ⟨output, errors, ran⟩ := runIn_muffled
  exact ⟨not_pathExists_muffled, by decide, _, ran, rfl, rfl,
    pathExists_withSound find?_muffled (some soundMark),
    readBytes_withSound find?_muffled soundMark⟩

theorem sound_left_iff_muffled :
    pathExists muffled.root soundFile = false ∧
      ∃ t, Kind.live.run.runIn muffled = (.ok (), t) ∧ t.inputs.length < muffled.inputs.length ∧
        (pathExists t.root soundFile = true ↔
          ∃ text, (Kind.live.spoken muffled).getLast? = some text ∧ text.truthy = false) ∧
        ∃ left, t.root = withSound muffled.root left ∧ ∀ content, left = some content →
          muffled.sounds[(Kind.live.spoken muffled).length - 1]? = some (.written content) := by
  obtain ⟨output, errors, ran⟩ := runIn_muffled
  refine ⟨not_pathExists_muffled, _, ran, ?_⟩
  rcases sound_left_iff .live muffled _ not_pathExists_muffled ran with ⟨untaken, -⟩ | ended
  · cases untaken
  · exact ended

end VoiceDebugger.Recorder
