import VoiceDebugger.Proofs.Recorder.Spoken

/-!
The turns of the plain, the live and the advanced recorder, where they come to an end.

A turn saves a sound or none. A sound that it saves is removed once its text was executed, and left
where it came to no text.
-/

namespace VoiceDebugger.Recorder

open VoiceDebugger.Action

/-! ### Parts of a turn -/

/-- What a session still gives to a recorder: lines, streams, replies and outcomes of the writer. -/
def given (s : Session) :
    List String × List StreamReply × List HttpReply × List SoundReply :=
  (s.inputs, s.streams, s.posts, s.sounds)

theorem given_eq_iff {s : Session} {lines : List String} {streams : List StreamReply}
    {replies : List HttpReply} {sounds : List SoundReply} :
    given s = (lines, streams, replies, sounds) ↔
      s.inputs = lines ∧ s.streams = streams ∧ s.posts = replies ∧ s.sounds = sounds := by
  rw [given, Prod.mk.injEq, Prod.mk.injEq, Prod.mk.injEq]

/-- From one session to another, replies of the service were taken. -/
structure Took (n : Nat) (s t : Session) : Prop where
  root : t.root = s.root
  given : given t = (s.inputs, s.streams, s.posts.drop n, s.sounds)

theorem Took.trans {m n : Nat} {s t u : Session} (before : Took m s t) (after : Took n t u) :
    Took (m + n) s u := by
  refine ⟨after.root.trans before.root, ?_⟩
  obtain ⟨inputs, streams, posts, sounds⟩ := given_eq_iff.mp before.given
  rw [after.given, inputs, streams, posts, sounds, List.drop_drop]

/-- An action takes some replies of the service, unless it fails. -/
def Takes (n : Nat) {α : Type} (a : Action α) : Prop :=
  ∀ s, Yields a s fun _ t => Took n s t

theorem takes_exchange (path : String) (body : Json) {use : Json → Action Json}
    (quiet : ∀ v, Quiet (use v)) : Takes 1 (exchange path body use) :=
  fun s => .of_moves (t := sent path body s)
    (fun _ _ => .of_effectIn (effectIn_exchange path body quiet _))
    fun _ _ _ => ⟨rfl, by rw [List.drop_one]; rfl⟩

/-- A line is taken for the choice, unless there is none. -/
theorem yields_askChoice {prompt : String} {α : Type} {f : String → Action α} {s : Session}
    {post : α → Session → Prop}
    (next : ∀ line rest, s.inputs = line :: rest →
      Yields (f (choiceOf line)) { s with inputs := rest } post) :
    Yields (askChoice prompt >>= f) s post := by
  cases typed : s.inputs with
  | nil => exact .after_error (t := s) fun _ _ => effectIn_askChoice_none _ _ typed
  | cons line rest =>
    exact .after_ok (t := { s with inputs := rest })
      (fun _ _ => effectIn_askChoice _ line rest _ typed) (next line rest typed)

/-- A sound comes to the text that the service tells, or else to the line that is typed. -/
theorem yields_text (whisper : Bool) (path : Json) (prompt : String) {before asking : Action Unit}
    (sends : Quiet before) (asks : Quiet asking) (s : Session) :
    Yields (if whisper then do
        before
        transcribeAtServer path
      else do
        asking
        return .str (← askTrimmed prompt)) s fun text t =>
      t.root = s.root ∧ t.streams = s.streams ∧ t.sounds = s.sounds ∧
        heardIn whisper s.inputs s.posts = some (text, t.inputs, t.posts) := by
  cases whisper with
  | true =>
    exact .quiet sends fun _ => .of_ok (y := Kind.textFrom s.posts)
      (t := sent "/stt/file" (fileBody path) s)
      (fun _ _ => effectIn_transcribeAtServer path _) fun _ _ => ⟨rfl, rfl, rfl, rfl⟩
  | false =>
    refine .quiet asks fun _ => ?_
    cases typed : s.inputs with
    | nil => exact .after_error (t := s) fun _ _ => effectIn_askTrimmed_none _ _ typed
    | cons line rest =>
      exact .after_ok (t := { s with inputs := rest })
        (fun _ _ => effectIn_askTrimmed _ line rest _ typed)
        (.of_pure fun _ _ => ⟨rfl, rfl, rfl, rfl⟩)

theorem quiet_fullPath (path : String) : Quiet (fullPath path) :=
  .bind .get fun _ => .pure _

/-- A sound was saved and used in a session: what it comes to, and that its file is left where that
is no text. -/
def Used (k : Kind) (whisper : Bool) (root : Folder) (s t : Session) : Prop :=
  ∃ text content lines replies sounds,
    heardIn whisper s.inputs s.posts = some (text, lines, replies) ∧
    s.sounds = .written content :: sounds ∧ t.root = withSound root (leftOf text content) ∧
    given t = (lines, s.streams, replies.drop (k.requests text), sounds)

/-- A sound was saved with the next outcome of the writer. -/
structure Saved (root : Folder) (s : Session) (content : List UInt8) (t : Session) : Prop where
  root : t.root = withSound root (some content)
  given : given s = (t.inputs, t.streams, t.posts, .written content :: t.sounds)

/-- A sound that is written was told to be. -/
theorem sounds_of_written {sounds : List SoundReply} {content : List UInt8}
    (done : written sounds.head? = .ok content) : sounds = .written content :: sounds.tail := by
  cases sounds with
  | nil => cases done
  | cons reply rest =>
    cases reply with
    | broken message part => cases done
    | written bytes =>
      cases done
      rfl

section

variable {root : Folder} (absent : root.find? soundFile = none)

include absent

/-- A recorder goes on only where its sound was written. -/
theorem yields_saveSound {kept : Option (List UInt8)} {s : Session}
    (here : s.root = withSound root kept) (shown : String) (samples : List Float) :
    Yields (saveSound shown soundFile samples) s fun _ t => ∃ content, Saved root s content t := by
  intro output errors x t ran
  cases outcome : written s.sounds.head? with
  | ok content =>
    rw [runIn_saveSound absent shown samples (s.printing output errors) here outcome] at ran
    cases ran
    refine ⟨content, rfl, ?_⟩
    exact given_eq_iff.mpr ⟨rfl, rfl, rfl, sounds_of_written outcome⟩
  | error f =>
    rw [runIn_saveSound_failed absent shown samples (s.printing output errors) here outcome] at ran
    cases ran

/-- The plain and the live recorder go on with the full path of the sound. -/
theorem yields_saveFull {kept : Option (List UInt8)} {s : Session}
    (here : s.root = withSound root kept) (samples : List Float) :
    Yields (do
      let full ← fullPath soundFile
      saveSound full soundFile samples
      return full) s fun _ t => ∃ content, Saved root s content t := by
  refine .quiet (quiet_fullPath _) fun full => ?_
  refine .bind (yields_saveSound absent here full samples) fun _ t ⟨content, saved⟩ => ?_
  exact .of_pure fun _ _ => ⟨content, saved.root, saved.given⟩

theorem yields_removeSound {content : List UInt8} {s : Session}
    (here : s.root = withSound root (some content)) :
    Yields (removeSound soundFile) s fun _ t => t.root = root ∧ given t = given s := by
  intro output errors x t ran
  rw [runIn_removeSound absent (s.printing output errors) here] at ran
  cases ran
  exact ⟨rfl, rfl⟩

end

/-- A sound that is saved, with the text that it comes to. -/
structure Heard (whisper : Bool) (root : Folder) (s : Session) (content : List UInt8) (text : Json)
    (u : Session) : Prop where
  saved : u.root = withSound root (some content)
  sounds : s.sounds = .written content :: u.sounds
  streams : u.streams = s.streams
  heard : heardIn whisper s.inputs s.posts = some (text, u.inputs, u.posts)

section

variable {k : Kind} {whisper : Bool} {root : Folder} {s u v w : Session} {content : List UInt8}
  {text : Json} (heard : Heard whisper root s content text u)

include heard

theorem Heard.used_missed (falsy : text.truthy = false) : Used k whisper root s u := by
  refine ⟨text, content, _, _, _, heard.heard, heard.sounds, ?_, ?_⟩
  · rw [heard.saved, leftOf, falsy]
    rfl
  · rw [given, heard.streams, Kind.requests, falsy]
    rfl

theorem Heard.used_removed (truthy : text.truthy = true) (took : Took k.perText u v)
    (removed : w.root = root) (same : given w = given v) : Used k whisper root s w := by
  refine ⟨text, content, _, _, _, heard.heard, heard.sounds, ?_, ?_⟩
  · rw [removed, leftOf, truthy]
    rfl
  · rw [same, took.given, heard.streams, Kind.requests, truthy]
    rfl

/-- Without a text that is all; with one the recorder shows it, executes it and removes the file. -/
theorem Heard.yields_used (absent : root.find? soundFile = none) (missed : String)
    {shows : Action Unit} {executes : Action Json} (quiet : Quiet shows)
    (takes : Takes k.perText executes) :
    Yields (if !text.truthy then say missed
      else do
        shows
        let _ ← executes
        removeSound soundFile) u fun _ t => Used k whisper root s t := by
  cases truthy : text.truthy with
  | false =>
    exact .of_moves (t := u) (fun _ _ => quiet_say _ _) fun _ _ _ => heard.used_missed truthy
  | true =>
    refine .quiet quiet fun _ => .bind (takes u) fun _ v took => ?_
    refine (yields_removeSound absent (took.root.trans heard.saved)).mono fun _ w removed => ?_
    exact heard.used_removed truthy took removed.1 removed.2

end

/-- A sound is saved, its text is found, and the recorder goes on with that. -/
theorem yields_heard {save : Action String} {textOf : String → Action Json} {whisper : Bool}
    {root : Folder} {s : Session} {α : Type} {next : Json → Action α} {post : α → Session → Prop}
    (saves : Yields save s fun _ t => ∃ content, Saved root s content t)
    (finds : ∀ path t, Yields (textOf path) t fun text u =>
      u.root = t.root ∧ u.streams = t.streams ∧ u.sounds = t.sounds ∧
        heardIn whisper t.inputs t.posts = some (text, u.inputs, u.posts))
    (later : ∀ content text u, Heard whisper root s content text u → Yields (next text) u post) :
    Yields (save >>= fun path => textOf path >>= next) s post := by
  refine .bind saves fun path t ⟨content, saved⟩ => .bind (finds path t) fun text u found => ?_
  obtain ⟨inputs, streams, posts, sounds⟩ := given_eq_iff.mp saved.given
  obtain ⟨same, streams', sounds', heard⟩ := found
  refine later content text u ⟨same.trans saved.root, ?_, streams'.trans streams.symm, ?_⟩
  · rw [sounds, sounds']
  · rw [inputs, posts, heard]

/-! ### Turns -/

/-- What a turn does with the sound file, which holds `kept` before it. Behind the last turn it is
as all texts that were to come leave it; behind any other one they leave what they left before. -/
def Stepped (k : Kind) (whisper : Bool) (root : Folder) (kept : Option (List UInt8)) (s : Session)
    (more : Bool) (t : Session) : Prop :=
  t.inputs.length < s.inputs.length ∧
    ∃ kept', t.root = withSound root kept' ∧
      if more then
        ∀ left, Leaves kept' (k.textsIn whisper t) t.sounds left →
          Leaves kept (k.textsIn whisper s) s.sounds left
      else Leaves kept (k.textsIn whisper s) s.sounds kept'

section

variable {k : Kind} {root : Folder} {kept : Option (List UInt8)} {s t u : Session}
  (here : s.root = withSound root kept) {line : String} {rest : List String}
  (typed : s.inputs = line :: rest)

include here typed

theorem stepped_quit (whisper : Bool) (wished : k.wish (choiceOf line) = .quit)
    (same : t.root = s.root) (inputs : t.inputs = rest) : Stepped k whisper root kept s false t := by
  refine ⟨?_, kept, same.trans here, ?_⟩
  · rw [typed, inputs]
    exact Nat.lt_succ_self _
  · rw [if_neg Bool.false_ne_true, Kind.textsIn, typed, Kind.texts_quit wished]
    exact .nil kept _

/-- A turn that saves no sound. -/
theorem stepped_idle {whisper : Bool} (same : t.root = s.root) (inputs : t.inputs = rest)
    (sounds : t.sounds = s.sounds) (texts : k.textsIn whisper s = k.textsIn whisper t) :
    Stepped k whisper root kept s true t := by
  refine ⟨?_, kept, same.trans here, fun left leaves => ?_⟩
  · rw [typed, inputs]
    exact Nat.lt_succ_self _
  · rwa [texts, ← sounds]

omit here in
/-- A turn that saves and uses a sound. -/
theorem stepped_used {whisper : Bool} (wished : k.wish (choiceOf line) = .record)
    (brought : k.brings s.streams = true)
    (recorded : given t = (rest, k.streamsLeft s.streams, s.posts, s.sounds))
    (used : Used k whisper root t u) : Stepped k whisper root kept s true u := by
  obtain ⟨text, content, lines, replies, sounds, heard, written, gone, same⟩ := used
  obtain ⟨inputs, streams, posts, queue⟩ := given_eq_iff.mp recorded
  obtain ⟨inputs', streams', posts', queue'⟩ := given_eq_iff.mp same
  rw [inputs, posts] at heard
  refine ⟨?_, _, gone, fun left leaves => ?_⟩
  · rw [typed, inputs']
    exact Nat.lt_succ_of_le (length_heardIn_le heard)
  · rw [Kind.textsIn, typed, Kind.texts_heard wished brought heard, ← queue, written]
    rw [Kind.textsIn, inputs', streams', streams, posts', queue'] at leaves
    exact .cons kept leaves

end

/-- A recording took what it brings, and there is a sound where that is anything. -/
def Pictured (k : Kind) (s : Session) (sound : Option (List Float)) (t : Session) : Prop :=
  t.root = s.root ∧ given t = (s.inputs, k.streamsLeft s.streams, s.posts, s.sounds) ∧
    sound.isSome = k.brings s.streams

/-- The turn of a recorder with a picture of the sound, behind the choice. -/
theorem yields_pictured {k : Kind} {whisper : Bool} {root : Folder} {kept : Option (List UInt8)}
    {s : Session} (here : s.root = withSound root kept) {line : String} {rest : List String}
    (typed : s.inputs = line :: rest) (wished : k.wish (choiceOf line) = .record)
    {recording : Action (Option (List Float))} {use : List Float → Action Unit}
    (records : ∀ s, Yields recording s (Pictured k s))
    (uses : ∀ samples s, s.root = withSound root kept →
      Yields (use samples) s fun _ t => Used k whisper root s t) :
    Yields (do
      match ← recording with
      | none => return true
      | some samples =>
        use samples
        return true) { s with inputs := rest } (Stepped k whisper root kept s) := by
  refine .bind (records _) fun sound t recorded => ?_
  obtain ⟨same, recorded, brought⟩ := recorded
  cases sound with
  | none =>
    obtain ⟨inputs, streams, posts, sounds⟩ := given_eq_iff.mp recorded
    refine .of_pure fun _ _ => stepped_idle here typed same inputs sounds ?_
    change _ = k.texts whisper t.inputs t.streams t.posts
    rw [Kind.textsIn, typed, Kind.texts_silent wished brought.symm, inputs, streams, posts]
  | some samples =>
    refine .bind (uses samples t (same.trans here)) fun _ u used => .of_pure fun _ _ => ?_
    exact stepped_used typed wished brought.symm recorded used

/-- What the microphone brought, if the recorder listens to it. -/
theorem brings_of_listened {k : Kind} (listens : k ≠ .plain) {streams : List StreamReply}
    {chunks : List (List Float)} (came : listened streams.head? = .ok chunks) :
    k.brings streams = !chunks.isEmpty := by
  cases k with
  | plain => exact absurd rfl listens
  | _ =>
    cases streams with
    | nil =>
      cases came
      rfl
    | cons reply rest =>
      cases reply with
      | broken m => cases came
      | chunks chunks' =>
        cases came
        cases chunks <;> rfl

/-! ### The live recorder -/

namespace Live

theorem quiet_wordsOf (v : Json) : Quiet (wordsOf v) := by
  cases v with
  | str text => exact .pure _
  | _ => exact .fail _

theorem quiet_typeTranscript (text : Json) : Quiet (typeTranscript text) :=
  .bind (quiet_sayAll _) fun _ => .bind (quiet_write _) fun _ => .bind (quiet_wordsOf text) fun _ =>
    .bind (quiet_write _) fun _ => quiet_sayAll _

theorem quiet_showResult (result : Json) : Quiet (showResult result) := by
  refine .bind (quiet_say _) fun _ => .bind (quiet_sayField _ _ _ _) fun _ => ?_
  refine .bind (quiet_sayField _ _ _ _) fun _ => .bind (quiet_replyField _ _ _) fun value => ?_
  split
  · exact .bind (.pure ()) fun _ => .pure result
  · refine .bind (quiet_sayAll _) fun _ => .bind (quiet_sayField _ _ _ _) fun _ => ?_
    exact .bind (quiet_sayField _ _ _ _) fun _ => .bind (quiet_sayField _ _ _ _) fun _ => .pure _
  · split
    · exact .bind (quiet_say _) fun _ => .pure _
    · exact .pure _

theorem takes_execute (text : Json) : Takes 1 (execute text) :=
  fun s => .quiet (quiet_say _) fun _ => takes_exchange _ _ quiet_showResult s

theorem yields_useSound {root : Folder} (absent : root.find? soundFile = none)
    {kept : Option (List UInt8)} {s : Session} (here : s.root = withSound root kept)
    (whisper : Bool) (samples : List Float) :
    Yields (useSound whisper samples) s fun _ t => Used .live whisper root s t := by
  have saves : Yields (save samples soundFile) s fun _ t => ∃ content, Saved root s content t :=
    yields_saveFull absent here samples
  have finds (path : String) (t : Session) := yields_text whisper (.str path) "   > "
    (quiet_sayAll ["\n📤 Sending to Whisper API...", "   Processing audio..."])
    (quiet_say "\n📝 Mock mode - type your command:") t
  exact yields_heard saves finds fun _ text u heard =>
    heard.yields_used absent _ (quiet_typeTranscript text) (takes_execute text)

theorem yields_recordSound (duration : Int) (s : Session) :
    Yields (recordSound duration) s (Pictured .live s) := by
  refine .quiet (quiet_sayAll _) fun _ => ?_
  refine .after (t := { s with streams := s.streams.tail }) (e := listened s.streams.head?)
    (fun _ _ => effectIn_listenShown _ _) fun chunks came => ?_
  have brought := brings_of_listened (k := .live) nofun came
  refine .quiet (quiet_say _) fun _ => ?_
  cases chunks with
  | nil => exact .of_pure fun _ _ => ⟨rfl, rfl, brought.symm⟩
  | cons chunk rest =>
    refine .quiet (quiet_peakOf _) fun level => ?_
    have done : Yields (pure (some (chunk :: rest).flatten)) { s with streams := s.streams.tail }
        (Pictured .live s) := .of_pure fun _ _ => ⟨rfl, rfl, brought.symm⟩
    split
    · exact .quiet (quiet_say _) fun _ => done
    · split
      · exact .quiet (quiet_say _) fun _ => done
      · exact .quiet (quiet_say _) fun _ => done

theorem yields_turn {root : Folder} (absent : root.find? soundFile = none) (whisper : Bool)
    {kept : Option (List UInt8)} {s : Session} (here : s.root = withSound root kept) :
    Yields (turn whisper) s (Stepped .live whisper root kept s) := by
  refine .quiet (quiet_sayAll _) fun _ => yields_askChoice fun line rest typed => ?_
  by_cases quits : choiceOf line = "q"
  · rw [if_pos (beq_iff_eq.mpr quits)]
    have wished : Kind.wish .live (choiceOf line) = .quit := if_pos quits
    exact .quiet (quiet_say _) fun _ => .of_pure fun _ _ =>
      stepped_quit here typed whisper wished rfl rfl
  · rw [if_neg (by rwa [beq_iff_eq])]
    have wished : Kind.wish .live (choiceOf line) = .record := if_neg quits
    exact yields_pictured here typed wished (yields_recordSound seconds) fun samples t here =>
      yields_useSound absent here whisper samples

end Live

/-! ### The advanced recorder -/

namespace Advanced

theorem quiet_showResult (result : Json) : Quiet (showResult result) := by
  refine .bind (quiet_say _) fun _ => .bind (quiet_sayField _ _ _ _) fun _ => ?_
  refine .bind (quiet_sayField _ _ _ _) fun _ => .bind (quiet_replyField _ _ _) fun value => ?_
  split
  · exact .bind (.pure ()) fun _ => .pure result
  · exact .bind (quiet_sayAll _) fun _ => .pure _
  · split
    · exact .bind (quiet_say _) fun _ => .pure _
    · exact .pure _

theorem takes_execute (text : Json) : Takes 1 (execute text) :=
  fun s => .quiet (quiet_say _) fun _ => takes_exchange _ _ quiet_showResult s

theorem yields_useSound {root : Folder} (absent : root.find? soundFile = none)
    {kept : Option (List UInt8)} {s : Session} (here : s.root = withSound root kept)
    (whisper : Bool) (samples : List Float) :
    Yields (useSound whisper samples) s fun _ t => Used .advanced whisper root s t := by
  have saves : Yields (save samples soundFile) s fun _ t => ∃ content, Saved root s content t :=
    .bind (yields_saveSound absent here _ samples) fun _ t ⟨content, saved⟩ =>
      .quiet (quiet_say _) fun _ => .of_pure fun _ _ => ⟨content, saved.root, saved.given⟩
  have finds (path : String) (t : Session) := yields_text whisper (.str path) "   > "
    (quiet_say "\n📤 Sending to Whisper API...")
    (quiet_say "\n📝 Mock mode - type your command:") t
  exact yields_heard saves finds fun _ text u heard =>
    heard.yields_used absent _ (quiet_sayAll _) (takes_execute text)

theorem yields_recordSound (duration : Int) (s : Session) :
    Yields (recordSound duration) s (Pictured .advanced s) := by
  refine .quiet (quiet_sayAll _) fun _ => ?_
  refine .after (t := { s with streams := s.streams.tail }) (e := listened s.streams.head?)
    (fun _ _ => effectIn_listenShown _ _) fun chunks came => ?_
  have brought := brings_of_listened (k := .advanced) nofun came
  refine .quiet (quiet_say _) fun _ => ?_
  cases chunks with
  | nil => exact .quiet (quiet_say _) fun _ => .of_pure fun _ _ => ⟨rfl, rfl, brought.symm⟩
  | cons chunk rest =>
    refine .quiet (quiet_peakOf _) fun level => .quiet (quiet_sayAll _) fun _ => ?_
    have done : Yields (pure (some (chunk :: rest).flatten)) { s with streams := s.streams.tail }
        (Pictured .advanced s) := .of_pure fun _ _ => ⟨rfl, rfl, brought.symm⟩
    split
    · exact .quiet (quiet_say _) fun _ => done
    · split
      · exact .quiet (quiet_say _) fun _ => done
      · exact .quiet (quiet_say _) fun _ => done

theorem moves_tryMicrophone (s : Session) :
    Moves tryMicrophone s { s with streams := s.streams.tail } := by
  refine .then_quiet (.of_effectIn (effectIn_listenShown 0 s)) fun chunks => ?_
  refine .bind (quiet_say _) fun _ => ?_
  split
  · exact .bind (quiet_say _) fun _ => .pure _
  · refine .bind (quiet_peakOf _) fun level => ?_
    split
    · exact .bind (quiet_sayAll _) fun _ => .pure _
    · exact .bind (quiet_say _) fun _ => .pure _

/-- The test of the microphone takes a stream. -/
theorem yields_testMicrophone (s : Session) :
    Yields testMicrophone s fun _ t =>
      t.root = s.root ∧ given t = (s.inputs, s.streams.tail, s.posts, s.sounds) ∧
        t.apiKey = s.apiKey := by
  refine .quiet (quiet_sayAll _) fun _ => ?_
  refine .of_moves (t := { s with streams := s.streams.tail }) (fun output errors => ?_)
    fun _ _ _ => ⟨rfl, rfl, rfl⟩
  refine .then_quiet (moves_tryMicrophone (s.printing output errors)).attempt fun outcome => ?_
  cases outcome with
  | ok works => exact .pure _
  | error f => exact .bind (quiet_say _) fun _ => .pure _

theorem quiet_needed {α : Type} (name : String) (part : Option α) : Quiet (needed name part) := by
  cases part with
  | none => exact .fail _
  | some x => exact .pure x

theorem quiet_listFrom (number : Nat) (devices : List Device) : Quiet (listFrom number devices) := by
  induction devices generalizing number with
  | nil => exact .pure ()
  | cons d rest ih =>
    refine .bind (quiet_needed _ _) fun inputs => ?_
    split
    · refine .bind .get fun s => .bind (quiet_needed _ _) fun name => ?_
      exact .bind (quiet_say _) fun _ => .bind (quiet_say _) fun _ => ih _
    · exact ih _

theorem quiet_listDevices : Quiet listDevices :=
  .bind (quiet_say _) fun _ => .bind .get fun _ => quiet_listFrom _ _

theorem yields_turn {root : Folder} (absent : root.find? soundFile = none) (whisper : Bool)
    {kept : Option (List UInt8)} {s : Session} (here : s.root = withSound root kept) :
    Yields (turn whisper) s (Stepped .advanced whisper root kept s) := by
  refine .quiet (quiet_sayAll _) fun _ => yields_askChoice fun line rest typed => ?_
  by_cases quits : choiceOf line = "q"
  · rw [if_pos (beq_iff_eq.mpr quits)]
    have wished : Kind.wish .advanced (choiceOf line) = .quit := if_pos quits
    exact .quiet (quiet_say _) fun _ => .of_pure fun _ _ =>
      stepped_quit here typed whisper wished rfl rfl
  rw [if_neg (by rwa [beq_iff_eq])]
  by_cases tests : choiceOf line = "t"
  · rw [if_pos (beq_iff_eq.mpr tests)]
    have wished : Kind.wish .advanced (choiceOf line) = .test :=
      (if_neg quits).trans (if_pos tests)
    refine .bind (yields_testMicrophone _) fun _ t ⟨same, tested, _⟩ => .of_pure fun _ _ => ?_
    obtain ⟨inputs, streams, posts, sounds⟩ := given_eq_iff.mp tested
    refine stepped_idle here typed same inputs sounds ?_
    change _ = Kind.texts .advanced whisper t.inputs t.streams t.posts
    rw [Kind.textsIn, typed, Kind.texts_test wished, inputs, streams, posts]
  rw [if_neg (by rwa [beq_iff_eq])]
  by_cases lists : choiceOf line = "d"
  · rw [if_pos (beq_iff_eq.mpr lists)]
    have wished : Kind.wish .advanced (choiceOf line) = .list :=
      (if_neg quits).trans ((if_neg tests).trans (if_pos lists))
    refine .quiet quiet_listDevices fun _ => .of_pure fun _ _ => ?_
    refine stepped_idle here typed rfl rfl rfl ?_
    rw [Kind.textsIn, typed, Kind.texts_list wished]
    rfl
  rw [if_neg (by rwa [beq_iff_eq])]
  have wished : Kind.wish .advanced (choiceOf line) = .record :=
    (if_neg quits).trans ((if_neg tests).trans (if_neg lists))
  exact yields_pictured here typed wished (yields_recordSound seconds) fun samples t here =>
    yields_useSound absent here whisper samples

end Advanced

/-! ### The plain recorder -/

namespace Plain

theorem quiet_showIntent (intent : Json) : Quiet (showIntent intent) := by
  rw [showIntent]
  split
  · refine .bind (.ofLoose _) fun _ => .bind (quiet_say _) fun _ => ?_
    exact .bind (.ofLoose _) fun _ => quiet_say _
  · exact .pure _

theorem quiet_showResult (result : Json) : Quiet (showResult result) := by
  rw [showResult]
  split
  · refine .bind (quiet_say _) fun _ => .bind (quiet_sayField _ _ _ _) fun _ => ?_
    refine .bind (quiet_replyField _ _ _) fun value => ?_
    split
    · exact quiet_say _
    · exact .pure _
  · exact .pure _

theorem takes_parse (text : Json) : Takes 1 (parse text) :=
  fun s => .quiet (quiet_say _) fun _ => takes_exchange _ _ .pure s

theorem takes_execute (text : Json) : Takes 1 (execute text) :=
  fun s => .quiet (quiet_say _) fun _ => takes_exchange _ _ .pure s

/-- Save, write down and execute a recording. -/
def useSound (whisper : Bool) (samples : List Float) : Action Bool := do
  let path ← save samples soundFile
  let text ← textOf whisper path
  if !text.truthy then
    say "   ❌ No text received"
    return true
  else
    sayAll ["\n" ++ ruler, "  💬 TRANSCRIPTION", ruler, s!"\n  \"{text.display}\"\n", ruler]
    showIntent (← parse text)
    showResult (← execute text)
    removeSound soundFile
    return true

theorem yields_useSound {root : Folder} (absent : root.find? soundFile = none)
    {kept : Option (List UInt8)} {s : Session} (here : s.root = withSound root kept)
    (whisper : Bool) (samples : List Float) :
    Yields (useSound whisper samples) s fun more t =>
      more = true ∧ Used .plain whisper root s t := by
  have saves : Yields (save samples soundFile) s fun _ t => ∃ content, Saved root s content t :=
    yields_saveFull absent here samples
  have finds (path : String) (t : Session) := yields_text whisper (.str path) "   Type your command: "
    (quiet_say "\n📤 Sending to Whisper API...")
    (quiet_say "\n📝 Mock transcription (add API key for real Whisper)") t
  refine yields_heard saves finds fun _ text u heard => ?_
  cases truthy : text.truthy with
  | false =>
    exact .quiet (quiet_say _) fun _ => .of_pure fun _ _ => ⟨rfl, heard.used_missed truthy⟩
  | true =>
    refine .quiet (quiet_sayAll _) fun _ => ?_
    refine .bind (takes_parse text u) fun intent v parsed => ?_
    refine .quiet (quiet_showIntent intent) fun _ => ?_
    refine .bind (takes_execute text v) fun result w executed => ?_
    refine .quiet (quiet_showResult result) fun _ => ?_
    have took := parsed.trans executed
    refine .bind (yields_removeSound absent (took.root.trans heard.saved)) fun _ x removed => ?_
    exact .of_pure fun _ _ => ⟨rfl, heard.used_removed truthy took removed.1 removed.2⟩

theorem moves_recordSound (duration : Int) (s : Session) :
    Moves (recordSound duration) s { s with
      calls := s.calls ++ [.record (duration * sampleRate)]
      recordings := s.recordings.tail } := by
  refine .bind (effectIn_sayAll _ s) fun _ _ => .bind (effectIn_write _ _) fun _ _ => ?_
  refine .then_quiet (.of_effectIn (effectIn_record _ _)) fun samples => ?_
  refine .bind (quiet_write _) fun _ => .bind (quiet_say _) fun _ => ?_
  refine .bind (quiet_peakOf _) fun level => ?_
  split
  · exact .bind (quiet_say _) fun _ => .pure _
  · split
    · exact .bind (quiet_say _) fun _ => .pure _
    · exact .bind (quiet_say _) fun _ => .pure _

theorem yields_recordSound (duration : Int) (s : Session) :
    Yields (recordSound duration) s fun _ t => t.root = s.root ∧ given t = given s :=
  .of_moves
    (t := { s with
      calls := s.calls ++ [.record (duration * sampleRate)]
      recordings := s.recordings.tail })
    (fun output errors => moves_recordSound duration (s.printing output errors))
    fun _ _ _ => ⟨rfl, rfl⟩

theorem yields_turn {root : Folder} (absent : root.find? soundFile = none) (whisper : Bool)
    {kept : Option (List UInt8)} {s : Session} (here : s.root = withSound root kept) :
    Yields (turn whisper) s (Stepped .plain whisper root kept s) := by
  refine .quiet (quiet_sayAll _) fun _ => yields_askChoice fun line rest typed => ?_
  by_cases quits : choiceOf line = "q"
  · rw [if_pos (beq_iff_eq.mpr quits)]
    have wished : Kind.wish .plain (choiceOf line) = .quit := if_pos quits
    exact .quiet (quiet_say _) fun _ => .of_pure fun _ _ =>
      stepped_quit here typed whisper wished rfl rfl
  · rw [if_neg (by rwa [beq_iff_eq])]
    have wished : Kind.wish .plain (choiceOf line) = .record := if_neg quits
    refine .bind (yields_recordSound seconds _) fun samples t ⟨same, recorded⟩ => ?_
    have uses := yields_useSound absent (same.trans here) whisper samples
    refine uses.mono fun more u ⟨goes_on, used⟩ => ?_
    rw [goes_on]
    exact stepped_used typed wished rfl recorded used

theorem moves_tryMicrophone (s : Session) :
    Moves tryMicrophone s { s with
      calls := s.calls ++ [.record (2 * sampleRate)]
      recordings := s.recordings.tail } := by
  refine .then_quiet (.of_effectIn (effectIn_record _ s)) fun samples => ?_
  refine .bind (quiet_write _) fun _ => .bind (quiet_peakOf _) fun level => ?_
  refine .bind (quiet_sayAll _) fun _ => ?_
  split
  · exact .bind (quiet_sayAll _) fun _ => .pure _
  · exact .bind (quiet_say _) fun _ => .pure _

theorem yields_testMicrophone (s : Session) :
    Yields testMicrophone s fun _ t =>
      t.root = s.root ∧ given t = given s ∧ t.apiKey = s.apiKey := by
  refine .quiet (quiet_sayAll _) fun _ => ?_
  refine .of_moves
    (t := { s with
      calls := s.calls ++ [.record (2 * sampleRate)]
      recordings := s.recordings.tail }) (fun output errors => ?_)
    fun _ _ _ => ⟨rfl, rfl, rfl⟩
  refine .then_quiet (moves_tryMicrophone (s.printing output errors)).attempt fun outcome => ?_
  cases outcome with
  | ok works => exact .pure _
  | error f => exact .bind (quiet_sayAll _) fun _ => .pure _

end Plain

theorem Kind.yields_turn (k : Kind) {root : Folder} (absent : root.find? soundFile = none)
    (whisper : Bool) {kept : Option (List UInt8)} {s : Session}
    (here : s.root = withSound root kept) :
    Yields (k.turn whisper) s (Stepped k whisper root kept s) := by
  cases k with
  | plain => exact Plain.yields_turn absent whisper here
  | live => exact Live.yields_turn absent whisper here
  | advanced => exact Advanced.yields_turn absent whisper here

end VoiceDebugger.Recorder
