import VoiceDebugger.Source.Token
import VoiceDebugger.Text.Lines
import VoiceDebugger.Text.Utf8

/-!
Columns as characters.

The grammar counts bytes; reports count characters of the line as the file holds it. Only the first
999 bytes of a line are looked at, without the mark of the byte order.
-/

namespace VoiceDebugger.Source

/-- How many bytes of a line are looked at. -/
def lineWindow : Nat := 999

/-- The characters of the first `limit` bytes; one that is cut counts as a replacement character. -/
def firstBytes : Nat → List Char → List Char
  | _, [] => []
  | 0, _ => []
  | limit + 1, c :: rest =>
    if Text.byteLength c ≤ limit + 1 then c :: firstBytes (limit + 1 - Text.byteLength c) rest
    else [Char.ofNat 0xFFFD]
termination_by _ cs => cs.length

/-- A line of a text, from one, with its line end. -/
def lineOf (text : List Char) (line : Nat) : List Char :=
  let lines := Text.splitAtChar '\n' text
  match lines[line - 1]? with
  | none => []
  | some cs =>
    let whole := if line < lines.length then cs ++ ['\n'] else cs
    let window := firstBytes lineWindow whole
    if line == 1 && window.head? == some (Char.ofNat 0xFEFF) then window.drop 1 else window

/-- The number of characters that the first `offset` bytes reach; behind the end there is one
more. -/
def reachedChars : Nat → List Char → Nat
  | 0, _ => 0
  | _ + 1, [] => 1
  | offset + 1, c :: rest => reachedChars (offset + 1 - Text.byteLength c) rest + 1
termination_by _ cs => cs.length

def Place.resolve (text : List Char) : Place → Int × Int
  | .exact line column => (line, column)
  | .bytes line offset => (line, reachedChars offset (lineOf text line))

end VoiceDebugger.Source
