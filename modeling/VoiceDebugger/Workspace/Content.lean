import VoiceDebugger.Text.Lines
import VoiceDebugger.Text.Utf8

/-!
The text of a file: its bytes decoded, with one convention for line ends.
-/

namespace VoiceDebugger

def textOf (content : List UInt8) : Except Text.Utf8Fault (List Char) :=
  (Text.decode content).map fun s => Text.unifyNewlines s.toList

def linesOf (text : List Char) : List (List Char) :=
  let pieces := Text.splitAtChar '\n' text
  let full := pieces.dropLast.map (· ++ ['\n'])
  match pieces.getLast? with
  | some [] => full
  | some last => full ++ [last]
  | none => full

end VoiceDebugger
