import VoiceDebugger.Proofs.Session.Run
import VoiceDebugger.Proofs.Speech.Base64
import VoiceDebugger.Proofs.Text.Fold
import VoiceDebugger.Proofs.Text.Trim
import VoiceDebugger.Proofs.Workspace.Place
import VoiceDebugger.Speech

/-!
Sound on its way to the service.

Written bytes go into a temporary file with a number that no other file has. What is read of the
file and sent are those bytes, and the file is removed whatever the service replies, so that just
the files from before are left.
-/

namespace VoiceDebugger

open VoiceDebugger.Action

/-! ### Temporary files -/

theorem number_lt_freeNumber {files : List TemporaryFile} {f : TemporaryFile} (member : f ∈ files) :
    f.number < freeNumber files := by
  induction files with
  | nil => cases member
  | cons g files ih =>
    have next : freeNumber (g :: files) = max (g.number + 1) (freeNumber files) := rfl
    rw [next]
    cases member with
    | head => omega
    | tail _ later =>
      have := ih later
      omega

/-- The next file that is made in a session. -/
def Session.newFile (s : Session) (ending : String) (content : List UInt8) : TemporaryFile :=
  ⟨freeNumber s.temporary, ending, content⟩

theorem number_ne_newFile (s : Session) (ending : String) (content : List UInt8) :
    ∀ f ∈ s.temporary, f.number ≠ (s.newFile ending content).number := by
  intro f member
  have below := number_lt_freeNumber member
  exact Nat.ne_of_lt below

theorem find?_newFile (s : Session) (ending : String) (content : List UInt8) :
    (s.temporary ++ [s.newFile ending content]).find?
      (·.number == (s.newFile ending content).number) = some (s.newFile ending content) := by
  have others : s.temporary.find? (·.number == (s.newFile ending content).number) = none := by
    rw [List.find?_eq_none]
    intro f member
    simpa using number_ne_newFile s ending content f member
  rw [List.find?_append, others, Option.none_or]
  simp only [List.find?_cons, beq_self_eq_true]

theorem filter_newFile (s : Session) (ending : String) (content : List UInt8) :
    (s.temporary ++ [s.newFile ending content]).filter
      (·.number != (s.newFile ending content).number) = s.temporary := by
  have others : s.temporary.filter (·.number != (s.newFile ending content).number) =
      s.temporary := by
    rw [List.filter_eq_self]
    intro f member
    simpa using number_ne_newFile s ending content f member
  rw [List.filter_append, others, List.filter_cons_of_neg (by simp), List.filter_nil,
    List.append_nil]

/-! ### The name of a file with a format -/

theorem ascii_of_isAlphanum {c : Char} (known : c.isAlphanum = true) : c.toNat < 128 := by
  cases Bool.or_eq_true_iff.mp known with
  | inl letter => exact Text.ascii_of_isAlpha letter
  | inr digit =>
    have high : c.val ≤ '9'.val := of_decide_eq_true (Bool.and_eq_true_iff.mp digit).2
    exact Nat.lt_of_le_of_lt (UInt32.le_iff_toNat_le.mp high) (by decide)

/-- The ending of a name begins at its last dot. -/
theorem extensionOf_dotted (folder : String) {name : String} {c : Char} {front back : List Char}
    (named : name.toList = c :: front ++ '.' :: back) (shown : c ≠ '.') (noDot : '.' ∉ back)
    (noSlash : '/' ∉ name.toList) :
    extensionOf (folder ++ "/" ++ name) = String.ofList ('.' :: back) := by
  have body : name.toList.dropWhile (· == '.') = name.toList := by
    rw [named]
    exact List.dropWhile_cons_of_neg (by simpa using shown)
  have dotted : name.toList.contains '.' = true := by
    rw [List.contains_iff_mem, named]
    exact List.mem_append_right _ List.mem_cons_self
  have tail : name.toList.reverse.takeWhile (· != '.') = back.reverse := by
    have apart : ∀ d ∈ back.reverse, (d != '.') = true := by
      intro d member
      rw [bne_iff_ne]
      intro same
      exact noDot (same ▸ List.mem_reverse.mp member)
    rw [named, List.reverse_append, List.reverse_cons, List.append_assoc,
      List.takeWhile_append_of_pos apart, List.singleton_append,
      List.takeWhile_cons_of_neg Bool.false_ne_true, List.append_nil]
  rw [extensionOf, Text.splitOn_append, Text.splitOn_whole _ noSlash, List.getLast?_concat,
    Option.getD_some, body, if_pos dotted, tail, List.reverse_reverse]

theorem length_encode_of_ascii {cs : List Char} (ascii : ∀ c ∈ cs, c.toNat < 128) :
    (cs.flatMap Text.encodeChar).length = cs.length := by
  induction cs with
  | nil => rfl
  | cons c cs ih =>
    rw [List.forall_mem_cons] at ascii
    have single : (Text.encodeChar c).length = 1 := by
      rw [Text.encodeChar, if_pos ascii.1]
      rfl
    rw [List.flatMap_cons, List.length_append, single, ih ascii.2, List.length_cons]
    omega

theorem not_mem_padded (width n : Nat) {c : Char} (other : c.isDigit = false) :
    c ∉ Number.padded width n := by
  intro member
  have digit : c.isDigit = true := by
    cases List.mem_append.mp member with
    | inl filled =>
      rw [(List.mem_replicate.mp filled).2]
      rfl
    | inr written => exact Nat.isDigit_of_mem_toDigits (by decide) (by decide) written
  exact Bool.false_ne_true (other.symm.trans digit)

section Format

variable {format : String} (plain : ∀ c ∈ format.toList, c.isAlphanum = true) {f : TemporaryFile}
  (ended : f.ending = "." ++ format)

include plain

theorem not_mem_format {c : Char} (other : c.isAlphanum = false) : c ∉ format.toList := by
  intro member
  exact Bool.false_ne_true (other.symm.trans (plain c member))

include ended

theorem not_mem_ending {c : Char} (other : c.isAlphanum = false) (apart : c ≠ '.') :
    c ∉ f.ending.toList := by
  rw [ended, String.toList_append]
  intro member
  cases member with
  | head => exact apart rfl
  | tail _ later => exact not_mem_format plain other later

theorem fault?_of_format (short : format.length ≤ 100) : f.fault? = none := by
  have noNull : ¬ f.ending.toList.contains '\x00' = true := by
    rw [List.contains_iff_mem]
    exact not_mem_ending plain ended rfl (by decide)
  have noSlash : '/' ∉ f.ending.toList := not_mem_ending plain ended rfl (by decide)
  have ascii : ∀ c ∈ f.ending.toList, c.toNat < 128 := by
    rw [ended, String.toList_append]
    intro c member
    cases member with
    | head => decide
    | tail _ later => exact ascii_of_isAlphanum (plain c later)
  have bytes : (Text.encode f.ending).length = format.length + 1 := by
    rw [Text.encode, length_encode_of_ascii ascii, String.length_toList, ended, String.length_append,
      Nat.add_comm]
    rfl
  have fits : ¬ "tmp".length + madeUpChars + (Text.encode f.ending).length > maxNameBytes := by
    have made : "tmp".length + madeUpChars = 11 := rfl
    have most : maxNameBytes = 255 := rfl
    omega
  have unslashed : ¬ f.ending.toList.contains '/' = true := by
    rw [List.contains_iff_mem]
    exact noSlash
  rw [TemporaryFile.fault?, if_neg noNull, Text.splitOn_whole _ noSlash, List.head?_cons,
    Option.getD_some, if_neg fits, if_neg unslashed]

/-- The format is told by the ending of the name. -/
theorem extensionOf_of_format : extensionOf f.path = "." ++ format := by
  have named : f.name.toList =
      't' :: ('m' :: 'p' :: Number.padded madeUpChars f.number) ++ '.' :: format.toList := by
    rw [TemporaryFile.name, ended, String.toList_append, String.toList_append, String.toList_append,
      String.toList_ofList]
    simp
  have noDot : '.' ∉ format.toList := not_mem_format plain rfl
  have noSlash : '/' ∉ f.name.toList := by
    have number : '/' ∉ Number.padded madeUpChars f.number := not_mem_padded _ _ (by decide)
    have told : '/' ∉ format.toList := not_mem_format plain rfl
    rw [named]
    simp only [List.cons_append, List.mem_cons, List.mem_append, not_or]
    exact ⟨by decide, by decide, by decide, number, by decide, told⟩
  have folder : f.path = "/tmp" ++ "/" ++ f.name := rfl
  rw [folder, extensionOf_dotted "/tmp" named (by decide) noDot noSlash, ← String.toList_inj,
    String.toList_ofList, String.toList_append]
  rfl

end Format

/-! ### Running -/

/-- A session with one temporary file more. -/
def Session.holding (s : Session) (file : TemporaryFile) : Session :=
  { s with temporary := s.temporary ++ [file] }

/-- A session in which a sound file has been sent. -/
def Session.sending (s : Session) (r : TranscriptRequest) : Session :=
  { s with calls := s.calls ++ [.transcription r], transcripts := s.transcripts.tail }

/-- What comes of the next reply of the service. -/
def spoken : Option TranscriptReply → Except Failure String
  | some (.text (some text)) => .ok (Text.strip text)
  | some (.text none) => .error (.loose (.noMember Json.null.kindName "strip"))
  | some (.broken m) => .error (.broken m)
  | none => .error (unanswered "stt")

theorem runIn_thenAlways {α : Type} {a : Action α} {last : Action Unit} {outcome : Except Failure α}
    {s t u : Session} (ran : a.runIn s = (outcome, t)) (ended : last.runIn t = (.ok (), u)) :
    (thenAlways a last).runIn s = (outcome, u) := by
  rw [thenAlways, runIn_bind_ok (runIn_attempt _ _), ran, runIn_bind_ok ended, runIn_ofOutcome]

theorem runIn_makeTemporary {ending : String} {content : List UInt8} {s : Session}
    (fine : (s.newFile ending content).fault? = none) :
    (makeTemporary ending content).runIn s =
      (.ok (s.newFile ending content), s.holding (s.newFile ending content)) := by
  rw [makeTemporary, runIn_bind_ok (runIn_get _), ← Session.newFile]
  simp only [fine]
  rfl

/-- The bytes that a file was made with are read. -/
theorem runIn_readTemporary (ending : String) (content : List UInt8) (s : Session) :
    (readTemporary (s.newFile ending content)).runIn (s.holding (s.newFile ending content)) =
      (.ok content, s.holding (s.newFile ending content)) := by
  rw [readTemporary, runIn_bind_ok (runIn_get _)]
  simp only [Session.holding, find?_newFile]
  rfl

/-- Whatever was sent meanwhile, the files from before are left. -/
theorem runIn_dropTemporary (ending : String) (content : List UInt8) (r : TranscriptRequest)
    (s : Session) :
    (dropTemporary (s.newFile ending content)).runIn
      ((s.holding (s.newFile ending content)).sending r) = (.ok (), s.sending r) := by
  rw [dropTemporary, runIn_modify]
  simp only [Session.sending, Session.holding, filter_newFile]

theorem runIn_trimmedTranscript (r : TranscriptRequest) (s : Session) :
    (trimmedTranscript r).runIn s = (spoken s.transcripts.head?, s.sending r) := by
  obtain ⟨_, _, _, _, _, transcripts⟩ := s
  rcases transcripts with _ | ⟨(_ | _) | _, _⟩ <;> rfl

theorem runIn_sendTemporary (ending : String) (content : List UInt8) (s : Session) :
    (sendTemporary (s.newFile ending content)).runIn (s.holding (s.newFile ending content)) =
      (spoken s.transcripts.head?,
        (s.holding (s.newFile ending content)).sending
          { extension := extensionOf (s.newFile ending content).path, content := content }) := by
  rw [sendTemporary, runIn_bind_ok (runIn_readTemporary ending content s), runIn_trimmedTranscript]
  rfl

/-- Sound that can be read is sent as a file with those bytes and with its format for an ending. -/
theorem runIn_sendSound {content : List UInt8} {audio format : String}
    (read : Base64.decode audio.toList = .ok content) (short : format.length ≤ 100)
    (plain : ∀ c ∈ format.toList, c.isAlphanum = true) (s : Session) :
    (sendSound audio format).runIn s =
      (spoken s.transcripts.head?,
        s.sending { extension := "." ++ format, content := content }) := by
  have fine : (s.newFile ("." ++ format) content).fault? = none :=
    fault?_of_format plain rfl short
  have sent := runIn_sendTemporary ("." ++ format) content s
  rw [extensionOf_of_format plain rfl] at sent
  have dropped := runIn_dropTemporary ("." ++ format) content
    { extension := "." ++ format, content := content } s
  rw [sendSound, read]
  change (makeTemporary ("." ++ format) content >>= fun file =>
    thenAlways (sendTemporary file) (dropTemporary file)).runIn s = _
  rw [runIn_bind_ok (runIn_makeTemporary fine), runIn_thenAlways sent dropped]

theorem runIn_speechFailure {α : Type} {a : Action α} {outcome : Except Failure α} {s t : Session}
    (ran : a.runIn s = (outcome, t)) :
    (speechFailure a).runIn s = (outcome.mapError fun f => .speech f.message, t) := by
  rw [speechFailure, runIn_bind_ok (runIn_attempt _ _), ran]
  cases outcome <;> rfl

/-- Whatever noise stands between the characters of written bytes, just these bytes are sent, once,
with the format for an ending. The text that comes back is stripped, and a failure is told as one of
speech. Nothing else of the session changes, so that no temporary file is left. -/
theorem sound_sent_whole {content : List UInt8} {audio format : String}
    (written : Base64.Sprinkled (Base64.encode content) audio.toList) (short : format.length ≤ 100)
    (plain : ∀ c ∈ format.toList, c.isAlphanum = true) (s : Session) (keyed : s.hasKey = true) :
    ∃ outcome t,
      (transcribeSound audio format).runIn s = (outcome, t) ∧
      t = { s with
        calls := s.calls ++ [.transcription { extension := "." ++ format, content := content }],
        transcripts := s.transcripts.tail } ∧
      (∀ text, s.transcripts.head? = some (.text (some text)) →
        ∃ told, outcome = .ok told ∧ Text.Stripped text.toList told.toList) ∧
      (∀ m, s.transcripts.head? = some (.broken m) →
        ∃ f, outcome = .error f ∧ f.message = "STT error: " ++ m) ∧
      ((∀ text, s.transcripts.head? ≠ some (.text (some text))) →
        ∃ f m, outcome = .error f ∧ f.message = "STT error: " ++ m) := by
  have asked : (hasKey : Action Bool).runIn s = (.ok true, s) := by
    rw [← keyed]
    rfl
  have sent := runIn_speechFailure (runIn_sendSound (Base64.decode_sprinkled written) short plain s)
  rw [transcribeSound, runIn_bind_ok asked, if_pos rfl]
  refine ⟨_, _, sent, rfl, ?_, ?_, ?_⟩
  · intro text next
    rw [next]
    refine ⟨Text.strip text, rfl, ?_⟩
    rw [Text.strip, String.toList_ofList]
    exact Text.stripped_trim text.toList
  · intro m next
    rw [next]
    exact ⟨.speech m, rfl, rfl⟩
  · intro failed
    cases outcome : spoken s.transcripts.head? with
    | error f => exact ⟨_, f.message, rfl, rfl⟩
    | ok told =>
      unfold spoken at outcome
      split at outcome
      · next text next => exact absurd next (failed text)
      all_goals cases outcome

/-- A session with a temporary file from before, in which a text with blanks around it is told. -/
def spokenSession : Session where
  clock := { year := 2024, month := 1, day := 2 }
  apiKey := some "k"
  transcripts := [.text (some " a\n")]
  temporary := [⟨0, ".wav", [1]⟩]

theorem sound_sent_whole_spokenSession :
    Base64.Sprinkled (Base64.encode [102]) "Z g=\n=".toList ∧
    spokenSession.hasKey = true ∧
    ∃ told t,
      (transcribeSound "Z g=\n=" "wav").runIn spokenSession = (.ok told, t) ∧
      t.calls = [.transcription { extension := ".wav", content := [102] }] ∧
      t.temporary = [⟨0, ".wav", [1]⟩] ∧
      Text.Stripped " a\n".toList told.toList := by
  have written : Base64.Sprinkled (Base64.encode [102]) "Z g=\n=".toList :=
    .kept 'Z' (.noise (by decide) (by decide) (by decide) (.kept 'g' (.kept '='
      (.noise (by decide) (by decide) (by decide) (.kept '=' .nil)))))
  have keyed : spokenSession.hasKey = true := rfl
  have short : "wav".length ≤ 100 := by decide
  have plain : ∀ c ∈ "wav".toList, c.isAlphanum = true := List.all_eq_true.mp (by decide)
  obtain ⟨outcome, t, sent, rest, answered, -⟩ :=
    sound_sent_whole written short plain spokenSession keyed
  obtain ⟨told, spoke, stripped⟩ := answered " a\n" rfl
  subst spoke rest
  exact ⟨written, keyed, told, _, sent, rfl, rfl, stripped⟩

end VoiceDebugger
