import VoiceDebugger.Proofs.Session.Quiet
import VoiceDebugger.Proofs.Workspace.Write
import VoiceDebugger.Recorder.Basic

/-!
What the recorders share, apart from what they print: the sound file, recordings, lines that are
typed and requests to the service.
-/

namespace VoiceDebugger

/-! ### A name of a folder -/

/-- Of two entries that are set for a name the last one counts. -/
theorem Folder.set_set (name : String) (first last : Entry) (f : Folder) :
    (f.set name first).set name last = f.set name last := by
  induction f with
  | nil => simp [Folder.set]
  | cons p rest ih =>
    rw [Folder.set, Folder.set]
    split
    · rename_i same
      rw [Folder.set, if_pos same]
    · rename_i differ
      split
      · rw [Folder.set, if_pos (beq_self_eq_true name)]
      · have known : (Folder.find? name (Folder.set name first rest)).isNone = false := by
          rw [Folder.find?_set]
          rfl
        rw [Folder.set, if_neg differ, known, Bool.and_false, if_neg Bool.false_ne_true, ih]

theorem Folder.erase_of_find?_eq_none (name : String) (f : Folder) (absent : f.find? name = none) :
    f.erase name = f := by
  induction f with
  | nil => rfl
  | cons p rest ih =>
    rw [Folder.find?] at absent
    split at absent
    · cases absent
    · rename_i differ
      rw [Folder.erase, List.filter_cons_of_pos (by simpa using differ)]
      exact congrArg (p :: ·) (ih absent)

/-- What was put under a new name is gone when the name is removed, and nothing else is. -/
theorem Folder.erase_set (name : String) (e : Entry) (f : Folder) (absent : f.find? name = none) :
    (f.set name e).erase name = f := by
  induction f with
  | nil => simp [Folder.set, Folder.erase]
  | cons p rest ih =>
    have whole := Folder.erase_of_find?_eq_none name (p :: rest) absent
    rw [Folder.find?] at absent
    split at absent
    · cases absent
    · rename_i differ
      rw [Folder.set, if_neg differ]
      split
      · rw [Folder.erase, List.filter_cons_of_neg (by simp)]
        exact whole
      · rw [Folder.erase, List.filter_cons_of_pos (by simpa using differ)]
        exact congrArg (p :: ·) (ih absent)

/-- A writer of sounds that fails leaves no file. -/
def SoundReply.Clean : SoundReply → Prop
  | .written _ => True
  | .broken _ part => part = none

namespace Recorder

open VoiceDebugger.Action

/-! ### The sound file -/

theorem isName_soundFile : IsName soundFile := by
  constructor <;> decide

theorem resolve_soundFile (root : Folder) :
    resolve root soundFile =
      match root.find? soundFile with
      | some e => .ok e
      | none => .error (.missing soundFile) := by
  have named := isName_soundFile
  rw [resolve_relative root soundFile named.relative, named.splitOn,
    follow_name _ _ _ _ _ named.skipped named.up, if_neg (Nat.not_lt.mpr named.short)]
  cases root.find? soundFile with
  | none => rfl
  | some e => exact follow_nil _ _ e

/-- A workspace with a sound file of some bytes beside what it holds, or without one. -/
def withSound (root : Folder) : Option (List UInt8) → Folder
  | some content => root.set soundFile (.file content)
  | none => root

/-- What a sound that is to be written comes to. -/
def written : Option SoundReply → Except Failure (List UInt8)
  | none => .error (unanswered "write")
  | some (.written content) => .ok content
  | some (.broken message _) => .error (.broken message)

/-- What is left of a sound that could not be written. -/
def scrapOf : Option SoundReply → Option (List UInt8)
  | some (.broken _ part) => part
  | _ => none

theorem runIn_note (c : Call) (s : Session) :
    (note c).runIn s = (.ok (), { s with calls := s.calls ++ [c] }) := rfl

theorem runIn_takeSound_nil {s : Session} (empty : s.sounds = []) :
    takeSound.runIn s = (.error (unanswered "write"), s) := by
  rw [takeSound, runIn_bind_ok (runIn_get _), empty]
  rfl

theorem runIn_takeSound_cons {s : Session} {reply : SoundReply} {rest : List SoundReply}
    (next : s.sounds = reply :: rest) :
    takeSound.runIn s = (.ok reply, { s with sounds := rest }) := by
  rw [takeSound, runIn_bind_ok (runIn_get _), next]
  rfl

section

variable {root : Folder} (absent : root.find? soundFile = none)

include absent

theorem find?_withSound (kept : Option (List UInt8)) :
    (withSound root kept).find? soundFile = kept.map Entry.file := by
  cases kept with
  | none => exact absent
  | some content => exact Folder.find?_set soundFile _ root

theorem pathExists_withSound (kept : Option (List UInt8)) :
    pathExists (withSound root kept) soundFile = kept.isSome := by
  rw [pathExists, resolve_soundFile, find?_withSound absent kept]
  cases kept <;> rfl

theorem readBytes_withSound (content : List UInt8) :
    readBytes (withSound root (some content)) soundFile = .ok content := by
  rw [readBytes, resolve_soundFile, find?_withSound absent]
  rfl

theorem writeFile_withSound (kept : Option (List UInt8)) (content : List UInt8) :
    writeFile (withSound root kept) soundFile content = .ok (withSound root (some content)) := by
  have place : placeOf soundFile = [soundFile] := by decide
  rw [writeFile, resolve_soundFile, find?_withSound absent kept, place]
  cases kept with
  | none => rfl
  | some old => exact congrArg Except.ok (Folder.set_set soundFile _ _ root)

theorem removeFile_withSound (content : List UInt8) :
    removeFile (withSound root (some content)) soundFile = .ok root := by
  have place : placeOf soundFile = [soundFile] := by decide
  rw [removeFile, resolve_soundFile, find?_withSound absent, place]
  exact congrArg Except.ok (Folder.erase_set soundFile _ root absent)

theorem runIn_putFile_withSound (kept : Option (List UInt8)) (content : List UInt8) (s : Session)
    (here : s.root = withSound root kept) :
    (putFile soundFile content).runIn s =
      (.ok (), { s with root := withSound root (some content) }) := by
  rw [putFile, runIn_bind_ok (runIn_get _), here, writeFile_withSound absent kept]
  rfl

theorem runIn_putSound {kept : Option (List UInt8)} {content : List UInt8} (s : Session)
    (here : s.root = withSound root kept) (done : written s.sounds.head? = .ok content) :
    (putSound soundFile).runIn s =
      (.ok (), { s with sounds := s.sounds.tail, root := withSound root (some content) }) := by
  cases queue : s.sounds with
  | nil =>
    rw [queue] at done
    cases done
  | cons reply rest =>
    rw [queue] at done
    rw [putSound, runIn_bind_ok (runIn_takeSound_cons queue)]
    cases reply with
    | broken message part => cases done
    | written bytes =>
      cases done
      exact runIn_putFile_withSound absent kept content _ here

theorem runIn_putSound_failed {kept : Option (List UInt8)} {f : Failure} (s : Session)
    (here : s.root = withSound root kept) (failed : written s.sounds.head? = .error f) :
    (putSound soundFile).runIn s =
      (.error f, { s with
        sounds := s.sounds.tail
        root := withSound root ((scrapOf s.sounds.head?).or kept) }) := by
  cases queue : s.sounds with
  | nil =>
    rw [queue] at failed
    cases failed
    rw [putSound, runIn_bind_error (runIn_takeSound_nil queue)]
    have same : { s with sounds := [], root := withSound root kept } = s := by rw [← queue, ← here]
    exact Prod.ext rfl same.symm
  | cons reply rest =>
    rw [queue] at failed
    rw [putSound, runIn_bind_ok (runIn_takeSound_cons queue)]
    cases reply with
    | written bytes => cases failed
    | broken message part =>
      cases failed
      cases part with
      | none =>
        have same : { s with sounds := rest, root := withSound root kept } =
            { s with sounds := rest } := by
          rw [← here]
        exact Prod.ext rfl same.symm
      | some bytes =>
        have put := runIn_putFile_withSound absent kept bytes { s with sounds := rest } here
        exact runIn_bind_ok put _

/-- A recording that is saved is noted, and leaves the bytes that are written for it. -/
theorem runIn_saveSound {kept : Option (List UInt8)} {content : List UInt8} (shown : String)
    (samples : List Float) (s : Session) (here : s.root = withSound root kept)
    (done : written s.sounds.head? = .ok content) :
    (saveSound shown soundFile samples).runIn s =
      (.ok (), { s with
        calls := s.calls ++ [.writeSound shown samples.length sampleRate]
        sounds := s.sounds.tail
        root := withSound root (some content) }) :=
  runIn_putSound absent { s with calls := s.calls ++ [_] } here done

/-- A recording that cannot be saved is noted, and leaves what was written of it. -/
theorem runIn_saveSound_failed {kept : Option (List UInt8)} {f : Failure} (shown : String)
    (samples : List Float) (s : Session) (here : s.root = withSound root kept)
    (failed : written s.sounds.head? = .error f) :
    (saveSound shown soundFile samples).runIn s =
      (.error f, { s with
        calls := s.calls ++ [.writeSound shown samples.length sampleRate]
        sounds := s.sounds.tail
        root := withSound root ((scrapOf s.sounds.head?).or kept) }) :=
  runIn_putSound_failed absent { s with calls := s.calls ++ [_] } here failed

/-- Removing a sound file that was saved leaves what was there before. -/
theorem runIn_removeSound {content : List UInt8} (s : Session)
    (here : s.root = withSound root (some content)) :
    (removeSound soundFile).runIn s = (.ok (), { s with root := root }) := by
  have asked : (exists? soundFile).runIn s = (.ok true, s) := by
    have there := pathExists_withSound absent (some content)
    rw [← here] at there
    rw [exists?, runIn_bind_ok (runIn_get _), there]
    rfl
  rw [removeSound, runIn_bind_ok asked, if_pos rfl, dropFile, runIn_bind_ok (runIn_get _), here,
    removeFile_withSound absent]
  rfl

end

/-- A sound file that does not exist is no entry of the workspace. -/
theorem find?_of_not_pathExists {root : Folder} (absent : pathExists root soundFile = false) :
    root.find? soundFile = none := by
  rw [pathExists, resolve_soundFile] at absent
  cases found : root.find? soundFile with
  | none => rfl
  | some e =>
    rw [found] at absent
    cases absent

/-! ### Devices and services -/

/-- What a recording of a fixed length comes to. -/
def recorded : Option RecordingReply → Except Failure (List Float)
  | none => .error (unanswered "rec")
  | some (.samples samples) => .ok samples
  | some (.broken m) => .error (.broken m)

theorem runIn_record (frames : Int) (s : Session) :
    (record frames).runIn s =
      (recorded s.recordings.head?,
        { s with calls := s.calls ++ [.record frames], recordings := s.recordings.tail }) := by
  rw [record, runIn_bind_ok (runIn_note _ s), runIn_bind_ok (runIn_get _)]
  dsimp only
  cases s.recordings with
  | nil => rfl
  | cons reply rest => cases reply <;> rfl

theorem effectIn_record (frames : Int) (s : Session) :
    (record frames).effectIn s =
      (recorded s.recordings.head?,
        { s with
          calls := s.calls ++ [Call.record frames]
          recordings := s.recordings.tail }.unprinted) :=
  effectIn_of_runIn (runIn_record frames s)

theorem effectIn_peakOf_nil (s : Session) :
    (peakOf []).effectIn s = (.error .emptyRecording, s.unprinted) := rfl

theorem effectIn_peakOf_cons (x : Float) (rest : List Float) (s : Session) :
    (peakOf (x :: rest)).effectIn s =
      (.ok ((rest.map Float.abs).foldl louder x.abs), s.unprinted) := rfl

theorem quiet_peakOf (samples : List Float) : Quiet (peakOf samples) := by
  cases samples with
  | nil => exact .fail _
  | cons x rest => exact .pure _

/-- What the microphone brings while it is open; without a reply that is nothing. -/
def listened : Option StreamReply → Except Failure (List (List Float))
  | none => .ok []
  | some (.chunks chunks) => .ok chunks
  | some (.broken m) => .error (.broken m)

theorem runIn_listen (s : Session) :
    Action.listen.runIn s = (listened s.streams.head?, { s with streams := s.streams.tail }) := by
  rw [Action.listen, runIn_bind_ok (runIn_get _)]
  cases ready : s.streams with
  | nil =>
    have same : { s with streams := [] } = s := by rw [← ready]
    exact Prod.ext rfl same.symm
  | cons reply rest => cases reply <;> rfl

theorem effectIn_showChunks (chunks : List (List Float)) (s : Session) :
    (showChunks chunks).effectIn s = (.ok (), s.unprinted) := by
  induction chunks generalizing s with
  | nil => rfl
  | cons chunk rest ih => exact effectIn_bind_ok (effectIn_write _ s) fun _ _ => ih _

theorem effectIn_listenShown (duration : Int) (s : Session) :
    (listenShown duration).effectIn s =
      (listened s.streams.head?, { s with streams := s.streams.tail }.unprinted) := by
  have came := effectIn_of_runIn (runIn_listen s)
  cases outcome : listened s.streams.head? with
  | error f =>
    rw [outcome] at came
    exact effectIn_bind_error came
  | ok chunks =>
    rw [outcome] at came
    refine effectIn_bind_ok came fun _ _ => ?_
    refine effectIn_bind_ok (effectIn_showChunks chunks _) fun _ _ => ?_
    exact effectIn_bind_ok (effectIn_write _ _) fun _ _ => rfl

/-- What a request comes to. -/
def answered : Option HttpReply → Except Failure Response
  | none => .error (unanswered "http")
  | some reply => responseOf reply

theorem runIn_post (url : String) (body : Json) (s : Session) :
    (post url body).runIn s =
      (answered s.posts.head?,
        { s with calls := s.calls ++ [.post url body], posts := s.posts.tail }) := by
  rw [post, runIn_bind_ok (runIn_note _ s), runIn_bind_ok (runIn_get _)]
  dsimp only
  cases s.posts with
  | nil => rfl
  | cons reply rest => cases reply <;> rfl

theorem effectIn_post (url : String) (body : Json) (s : Session) :
    (post url body).effectIn s =
      (answered s.posts.head?,
        { s with calls := s.calls ++ [Call.post url body], posts := s.posts.tail }.unprinted) :=
  effectIn_of_runIn (runIn_post url body s)

/-- Whether the service is there, by its reply. -/
def statusOf : Option HttpReply → Option Bool
  | some (.response status _ _) => some (status == 200)
  | _ => none

theorem runIn_serverStatus (s : Session) :
    serverStatus.runIn s = (.ok (statusOf s.gets.head?), { s with gets := s.gets.tail }) := by
  have asked : fetch.runIn s =
      ((match s.gets.head? with
        | none => .error (unanswered "http_get")
        | some reply => responseOf reply), { s with gets := s.gets.tail }) := by
    rw [fetch, runIn_bind_ok (runIn_get _)]
    cases ready : s.gets with
    | nil =>
      have same : { s with gets := [] } = s := by rw [← ready]
      exact Prod.ext rfl same.symm
    | cons reply rest => cases reply <;> rfl
  rw [serverStatus, runIn_bind_ok (runIn_attempt _ _), asked]
  cases s.gets.head? with
  | none => rfl
  | some reply => cases reply <;> rfl

theorem effectIn_serverStatus (s : Session) :
    serverStatus.effectIn s =
      (.ok (statusOf s.gets.head?), { s with gets := s.gets.tail }.unprinted) :=
  effectIn_of_runIn (runIn_serverStatus s)

theorem hasKey_congr {s t : Session} (same : t.apiKey = s.apiKey) : t.hasKey = s.hasKey := by
  rw [Session.hasKey, Session.hasKey, same]

theorem effectIn_hasKey (s : Session) : hasKey.effectIn s = (.ok s.hasKey, s.unprinted) := rfl

/-- The text in what the service sends. -/
def textField? : Json → Option Json
  | .obj fields => some ((Json.field? "text" fields).getD (.str ""))
  | _ => none

/-- The text in a reply of the service that writes sounds down. -/
def replyText? : HttpReply → Option Json
  | .response status body _ => if status == 200 then body.bind textField? else none
  | .broken _ => none

/-- Reading the text of what the service sends fails where there is none. -/
theorem replyField_text (v : Json) :
    (∃ text, textField? v = some text ∧ replyField v "text" (.str "") = pure text) ∨
      textField? v = none ∧ ∃ f, replyField v "text" (.str "") = fail f := by
  cases v with
  | obj fields => exact .inl ⟨_, rfl, rfl⟩
  | _ => exact .inr ⟨rfl, _, rfl⟩

/-- A request is not answered and brings no text, or it is answered and brings the text of the
answer, if that is no fault. -/
theorem answered_cases (reply : Option HttpReply) :
    (∃ f, answered reply = .error f ∧ reply.bind replyText? = none) ∨
      ∃ r, answered reply = .ok r ∧ reply.bind replyText? =
        if r.status == 200 then r.body.bind textField? else none := by
  cases reply with
  | none => exact .inl ⟨_, rfl, rfl⟩
  | some reply =>
    cases reply with
    | broken m => exact .inl ⟨_, rfl, rfl⟩
    | response status body text => exact .inr ⟨_, rfl, rfl⟩

/-- What an exchange makes of a response. -/
def useResponse (use : Json → Action Json) (r : Response) : Action Json := do
  if r.status == 200 then use (← ofOutcome r.value)
  else
    say s!"   ❌ API error: {r.status}"
    return .null

/-- The request of an exchange. -/
def request (path : String) (body : Json) (use : Json → Action Json) : Action Json := do
  useResponse use (← post (serverUrl ++ path) body)

/-- A session that has sent a request. -/
def sent (path : String) (body : Json) (s : Session) : Session :=
  { s with calls := s.calls ++ [.post (serverUrl ++ path) body], posts := s.posts.tail }

theorem moves_request (path : String) (body : Json) {use : Json → Action Json}
    (quiet : ∀ v, Quiet (use v)) (s : Session) :
    Moves (request path body use) s (sent path body s) :=
  .then_quiet (.of_effectIn (effectIn_post _ _ s)) fun _ =>
    .ite (.bind (.ofOutcome _) quiet) (.bind (quiet_say _) fun _ => .pure _)

/-- An exchange takes one reply, and comes to null where the request fails. -/
theorem effectIn_exchange (path : String) (body : Json) {use : Json → Action Json}
    (quiet : ∀ v, Quiet (use v)) (s : Session) :
    (exchange path body use).effectIn s =
      (.ok (((request path body use).effectIn s).1.toOption.getD .null),
        (sent path body s).unprinted) := by
  have tried := (moves_request path body quiet s).effectIn_attempt
  refine effectIn_bind_ok tried fun _ _ => ?_
  cases ((request path body use).effectIn s).1 with
  | ok v => rfl
  | error f => exact effectIn_bind_ok (effectIn_say _ _) fun _ _ => rfl

theorem quiet_replyField (v : Json) (name : String) (default : Json) :
    Quiet (replyField v name default) :=
  .ofLoose _

theorem quiet_sayField (label : String) (v : Json) (name : String) (default : Json) :
    Quiet (sayField label v name default) :=
  .bind (quiet_replyField _ _ _) fun _ => quiet_say _

theorem runIn_useResponse_text (r : Response) (s : Session) :
    ((useResponse (fun v => replyField v "text" (.str "")) r).runIn s).1.toOption.getD .null =
      (if r.status == 200 then r.body.bind textField? else none).getD .null := by
  rw [useResponse]
  split
  · rw [Response.value]
    cases r.body with
    | none => rfl
    | some v =>
      have value : (ofOutcome (Except.ok v)).runIn s = (.ok v, s) := rfl
      rw [Option.bind_some, runIn_bind_ok value]
      rcases replyField_text v with ⟨text, same, read⟩ | ⟨no_text, f, read⟩
      · rw [same, read]
        rfl
      · rw [no_text, read]
        rfl
  · rfl

/-- What the service makes of a sound file is the text in its reply, or null. -/
theorem effectIn_transcribeAtServer (path : Json) (s : Session) :
    (transcribeAtServer path).effectIn s =
      (.ok ((s.posts.head?.bind replyText?).getD .null),
        (sent "/stt/file" (fileBody path) s).unprinted) := by
  refine (effectIn_exchange "/stt/file" (fileBody path)
    (fun v => quiet_replyField v "text" (.str "")) s).trans ?_
  have posted := runIn_post (serverUrl ++ "/stt/file") (fileBody path) s
  rcases answered_cases s.posts.head? with ⟨f, failed, no_text⟩ | ⟨r, came, text⟩
  · rw [failed] at posted
    rw [no_text, effectIn, request, runIn_bind_error posted]
    rfl
  · rw [came] at posted
    rw [text, effectIn, request, runIn_bind_ok posted, runIn_useResponse_text]

/-! ### Lines that are typed -/

/-- The choice that a line stands for. -/
def choiceOf (line : String) : String :=
  Text.lower (Text.strip line)

theorem effectIn_ask_none (prompt : String) (s : Session) (empty : s.inputs = []) :
    (ask prompt).effectIn s = (.error .noInput, s.unprinted) := by
  refine effectIn_bind_ok (effectIn_write prompt s) fun output errors => ?_
  rw [effectIn, runIn_bind_ok (runIn_get _)]
  simp only [Session.printing, Session.unprinted, empty]
  rfl

theorem effectIn_ask (prompt line : String) (rest : List String) (s : Session)
    (typed : s.inputs = line :: rest) :
    (ask prompt).effectIn s = (.ok line, { s with inputs := rest }.unprinted) := by
  refine effectIn_bind_ok (effectIn_write prompt s) fun output errors => ?_
  rw [effectIn, runIn_bind_ok (runIn_get _)]
  simp only [Session.printing, typed]
  rfl

theorem effectIn_askTrimmed_none (prompt : String) (s : Session) (empty : s.inputs = []) :
    (askTrimmed prompt).effectIn s = (.error .noInput, s.unprinted) :=
  effectIn_bind_error (effectIn_ask_none prompt s empty)

theorem effectIn_askTrimmed (prompt line : String) (rest : List String) (s : Session)
    (typed : s.inputs = line :: rest) :
    (askTrimmed prompt).effectIn s = (.ok (Text.strip line), { s with inputs := rest }.unprinted) :=
  effectIn_bind_ok (effectIn_ask prompt line rest s typed) fun _ _ => rfl

theorem effectIn_askChoice_none (prompt : String) (s : Session) (empty : s.inputs = []) :
    (askChoice prompt).effectIn s = (.error .noInput, s.unprinted) :=
  effectIn_bind_error (effectIn_askTrimmed_none prompt s empty)

theorem effectIn_askChoice (prompt line : String) (rest : List String) (s : Session)
    (typed : s.inputs = line :: rest) :
    (askChoice prompt).effectIn s = (.ok (choiceOf line), { s with inputs := rest }.unprinted) :=
  effectIn_bind_ok (effectIn_askTrimmed prompt line rest s typed) fun _ _ => rfl

end Recorder

end VoiceDebugger
