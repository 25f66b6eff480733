import VoiceDebugger.Proofs.Recorder.Sound
import VoiceDebugger.Recorder.Advanced
import VoiceDebugger.Recorder.Live
import VoiceDebugger.Recorder.Plain

/-!
The texts that are spoken to the plain, the live and the advanced recorder in a run.

What a run is given decides them: the lines that are typed, the streams of the microphone and the
replies of the service. No recorder is run to find them.
-/

namespace VoiceDebugger.Recorder

open VoiceDebugger.Action

/-- The recorders that remove the sound file at the end of a turn. -/
inductive Kind where
  | plain
  | live
  | advanced

namespace Kind

/-- One turn. -/
def turn : Kind → Bool → Action Bool
  | plain => Plain.turn
  | live => Live.turn
  | advanced => Advanced.turn

/-- Run the recorder. -/
def run : Kind → Action Unit
  | plain => Plain.run
  | live => Live.run
  | advanced => Advanced.run

/-! ### The texts of a run -/

/-- What a choice asks for. -/
inductive Wish where
  | quit
  | test
  | list
  | record

/-- What a choice asks a recorder for. -/
def wish (k : Kind) (choice : String) : Wish :=
  if choice = "q" then .quit
  else
    match k with
    | advanced => if choice = "t" then .test else if choice = "d" then .list else .record
    | _ => .record

/-- Whether a recording brings any sound. One of a fixed length always does. -/
def brings : Kind → List StreamReply → Bool
  | plain, _ => true
  | _, .chunks (_ :: _) :: _ => true
  | _, _ => false

/-- The streams that a recording leaves. -/
def streamsLeft : Kind → List StreamReply → List StreamReply
  | plain, streams => streams
  | _, streams => streams.tail

/-- How many requests a recorder makes to execute a text. -/
def perText : Kind → Nat
  | plain => 2
  | _ => 1

/-- How many requests a recorder makes for what a sound came to. -/
def requests (k : Kind) (text : Json) : Nat :=
  if text.truthy then k.perText else 0

/-- What the service makes of a sound: the text in its reply, or null. -/
def textFrom (replies : List HttpReply) : Json :=
  (replies.head?.bind replyText?).getD .null

/-- The texts that the saved recordings of a run come to, one after the other. They are told by the
service, or else typed; `typing` says that the next line is such a text. -/
def textsFrom (k : Kind) (whisper : Bool) :
    Bool → List String → List StreamReply → List HttpReply → List Json
  | _, [], _, _ => []
  | true, typed :: rest, streams, replies =>
    let text := .str (Text.strip typed)
    text :: textsFrom k whisper false rest streams (replies.drop (k.requests text))
  | false, line :: rest, streams, replies =>
    match k.wish (choiceOf line) with
    | .quit => []
    | .test => textsFrom k whisper false rest streams.tail replies
    | .list => textsFrom k whisper false rest streams replies
    | .record =>
      let left := k.streamsLeft streams
      if !k.brings streams then textsFrom k whisper false rest left replies
      else if whisper then
        let text := textFrom replies
        text :: textsFrom k whisper false rest left (replies.tail.drop (k.requests text))
      else textsFrom k whisper true rest left replies

/-- The texts of a run that is at the start of a turn. -/
def texts (k : Kind) (whisper : Bool) (lines : List String) (streams : List StreamReply)
    (replies : List HttpReply) : List Json :=
  k.textsFrom whisper false lines streams replies

/-- The texts that are to come in a session. -/
def textsIn (k : Kind) (whisper : Bool) (s : Session) : List Json :=
  k.texts whisper s.inputs s.streams s.posts

/-- The texts that the saved recordings of a run come to. The advanced recorder takes the first
stream for the test of the microphone. -/
def spoken (k : Kind) (s : Session) : List Json :=
  let streams :=
    match k with
    | advanced => s.streams.tail
    | _ => s.streams
  k.texts s.hasKey s.inputs streams s.posts

end Kind

/-- What is left of a sound that came to a text. -/
def leftOf (text : Json) (content : List UInt8) : Option (List UInt8) :=
  if text.truthy then none else some content

/-- `Leaves kept texts sounds left` says that the sound file holds `left` behind recordings that
came to `texts`, if it held `kept` before them. Each of them was written with the next outcome in
`sounds`. -/
inductive Leaves : Option (List UInt8) → List Json → List SoundReply → Option (List UInt8) → Prop
  | nil (kept : Option (List UInt8)) (sounds : List SoundReply) : Leaves kept [] sounds kept
  | cons {text : Json} {texts : List Json} {content : List UInt8} {sounds : List SoundReply}
      {left : Option (List UInt8)} (kept : Option (List UInt8))
      (rest : Leaves (leftOf text content) texts sounds left) :
      Leaves kept (text :: texts) (.written content :: sounds) left

/-- The last recording decides what is left. -/
theorem Leaves.last {kept left : Option (List UInt8)} {texts : List Json} {sounds : List SoundReply}
    (leaves : Leaves kept texts sounds left) :
    texts = [] ∧ left = kept ∨
      ∃ text content, texts.getLast? = some text ∧
        sounds[texts.length - 1]? = some (.written content) ∧ left = leftOf text content := by
  induction leaves with
  | nil kept sounds => exact .inl ⟨rfl, rfl⟩
  | @cons text texts content sounds left kept rest ih =>
    right
    rcases ih with ⟨rfl, rfl⟩ | ⟨last, bytes, same, reply, found⟩
    · exact ⟨text, content, rfl, rfl, rfl⟩
    · refine ⟨last, bytes, ?_, ?_, found⟩
      · rw [List.getLast?_cons, same]
        rfl
      · cases texts with
        | nil => cases same
        | cons => exact reply

/-- What a saved sound comes to, with the lines and replies behind that. -/
def heardIn (whisper : Bool) (lines : List String) (replies : List HttpReply) :
    Option (Json × List String × List HttpReply) :=
  if whisper then some (Kind.textFrom replies, lines, replies.tail)
  else
    match lines with
    | [] => none
    | typed :: rest => some (.str (Text.strip typed), rest, replies)

theorem length_heardIn_le {whisper : Bool} {lines : List String} {replies : List HttpReply}
    {text : Json} {lines' : List String} {replies' : List HttpReply}
    (heard : heardIn whisper lines replies = some (text, lines', replies')) :
    lines'.length ≤ lines.length := by
  unfold heardIn at heard
  split at heard
  · cases heard
    exact Nat.le_refl _
  · split at heard
    · cases heard
    · cases heard
      exact Nat.le_succ _

namespace Kind

theorem texts_quit {k : Kind} {line : String} (wished : k.wish (choiceOf line) = .quit)
    (whisper : Bool) (rest : List String) (streams : List StreamReply) (replies : List HttpReply) :
    k.texts whisper (line :: rest) streams replies = [] := by
  rw [texts, textsFrom, wished]

theorem texts_test {k : Kind} {line : String} (wished : k.wish (choiceOf line) = .test)
    (whisper : Bool) (rest : List String) (streams : List StreamReply) (replies : List HttpReply) :
    k.texts whisper (line :: rest) streams replies = k.texts whisper rest streams.tail replies := by
  rw [texts, textsFrom, wished, texts]

theorem texts_list {k : Kind} {line : String} (wished : k.wish (choiceOf line) = .list)
    (whisper : Bool) (rest : List String) (streams : List StreamReply) (replies : List HttpReply) :
    k.texts whisper (line :: rest) streams replies = k.texts whisper rest streams replies := by
  rw [texts, textsFrom, wished, texts]

theorem texts_silent {k : Kind} {line : String} (wished : k.wish (choiceOf line) = .record)
    {streams : List StreamReply} (silent : k.brings streams = false) (whisper : Bool)
    (rest : List String) (replies : List HttpReply) :
    k.texts whisper (line :: rest) streams replies =
      k.texts whisper rest (k.streamsLeft streams) replies := by
  rw [texts, textsFrom, wished, silent]
  rfl

theorem texts_heard {k : Kind} {line : String} (wished : k.wish (choiceOf line) = .record)
    {streams : List StreamReply} (brought : k.brings streams = true) {whisper : Bool}
    {rest lines : List String} {replies replies' : List HttpReply} {text : Json}
    (heard : heardIn whisper rest replies = some (text, lines, replies')) :
    k.texts whisper (line :: rest) streams replies =
      text :: k.texts whisper lines (k.streamsLeft streams) (replies'.drop (k.requests text)) := by
  rw [texts, textsFrom, wished, brought]
  unfold heardIn at heard
  cases whisper with
  | true =>
    cases heard
    rfl
  | false =>
    cases rest with
    | nil => cases heard
    | cons typed rest =>
      cases heard
      rfl

end Kind

end VoiceDebugger.Recorder
