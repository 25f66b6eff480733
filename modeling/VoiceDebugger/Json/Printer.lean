import VoiceDebugger.Json.Display

/-!
Writing values as ASCII text, on one line or indented.
-/

namespace VoiceDebugger.Json

def unitEscape (n : Nat) : List Char :=
  '\\' :: 'u' :: Text.hexDigits 4 n

/-- A code point inside a written text. Code points beyond the first plane become two units. -/
def writtenCode (p : Code) : List Char :=
  let n := p.val
  if n == 34 then ['\\', '"']
  else if n == 92 then ['\\', '\\']
  else if n == 10 then ['\\', 'n']
  else if n == 13 then ['\\', 'r']
  else if n == 9 then ['\\', 't']
  else if n == 8 then ['\\', 'b']
  else if n == 12 then ['\\', 'f']
  else if 32 ≤ n ∧ n < 127 then [Char.ofNat n]
  else if n < 0x10000 then unitEscape n
  else unitEscape (0xD800 + (n - 0x10000) / 1024) ++ unitEscape (0xDC00 + (n - 0x10000) % 1024)

def writtenText (t : CodeText) : String :=
  String.ofList ('"' :: t.codes.flatMap writtenCode ++ ['"'])

def writtenFloat (x : Float) : String :=
  match Number.parts x with
  | .nan => "NaN"
  | .infinite false => "Infinity"
  | .infinite true => "-Infinity"
  | .finite .. => Number.text x

mutual

def compact : Json → String
  | .null => "null"
  | .bool true => "true"
  | .bool false => "false"
  | .int n => intText n
  | .float x => writtenFloat x
  | .str s => writtenText s
  | .arr items => "[" ++ ", ".intercalate (compactItems items) ++ "]"
  | .obj fields => "\x7b" ++ ", ".intercalate (compactFields fields) ++ "\x7d"

/-- A list's items, each on one line. -/
def compactItems : List Json → List String
  | [] => []
  | v :: rest => compact v :: compactItems rest

/-- An object's fields, each on one line. -/
def compactFields : List (CodeText × Json) → List String
  | [] => []
  | (name, v) :: rest => (writtenText name ++ ": " ++ compact v) :: compactFields rest

end

/-- A line end and `n` spaces. -/
def lineBreak (n : Nat) : String :=
  "\n" ++ String.ofList (List.replicate n ' ')

mutual

/-- A value over several lines; `step` spaces are added at each depth, and `depth` stand before the
value's last line. -/
def indented (step depth : Nat) : Json → String
  | .null => "null"
  | .bool true => "true"
  | .bool false => "false"
  | .int n => intText n
  | .float x => writtenFloat x
  | .str s => writtenText s
  | .arr [] => "[]"
  | .arr (v :: rest) =>
    let inside := lineBreak (depth + step)
    "[" ++ inside ++
      ("," ++ inside).intercalate
        (indented step (depth + step) v :: indentedItems step (depth + step) rest) ++
      lineBreak depth ++ "]"
  | .obj [] => "\x7b\x7d"
  | .obj ((name, v) :: rest) =>
    let inside := lineBreak (depth + step)
    "\x7b" ++ inside ++
      ("," ++ inside).intercalate
        ((writtenText name ++ ": " ++ indented step (depth + step) v) ::
          indentedFields step (depth + step) rest) ++
      lineBreak depth ++ "\x7d"

/-- A list's items over several lines. -/
def indentedItems (step depth : Nat) : List Json → List String
  | [] => []
  | v :: rest => indented step depth v :: indentedItems step depth rest

/-- An object's fields over several lines. -/
def indentedFields (step depth : Nat) : List (CodeText × Json) → List String
  | [] => []
  | (name, v) :: rest =>
    (writtenText name ++ ": " ++ indented step depth v) :: indentedFields step depth rest

end

end VoiceDebugger.Json
