/-!
Line ends: one convention for all texts, and cutting a text into its lines.
-/

namespace VoiceDebugger.Text

/-- A carriage return, with or without a line feed behind it, becomes a line feed. -/
def unifyNewlines : List Char → List Char
  | [] => []
  | '\r' :: '\n' :: rest => '\n' :: unifyNewlines rest
  | '\r' :: rest => '\n' :: unifyNewlines rest
  | c :: rest => c :: unifyNewlines rest

/-- The pieces between separators; a text without one is one piece. -/
def splitAtChar (sep : Char) : List Char → List (List Char)
  | [] => [[]]
  | c :: rest =>
    if c == sep then [] :: splitAtChar sep rest
    else
      match splitAtChar sep rest with
      | [] => [[c]]
      | piece :: pieces => (c :: piece) :: pieces

/-- The pieces of a text between separators. -/
def splitOn (sep : Char) (s : String) : List String :=
  (splitAtChar sep s.toList).map String.ofList

/-- Whether `needle` stands anywhere in a text, be it of characters or of code points. -/
def occursIn {α : Type} [BEq α] (needle : List α) : List α → Bool
  | [] => needle.isEmpty
  | c :: rest => needle.isPrefixOf (c :: rest) || occursIn needle rest

/-- Whether one text stands anywhere in another. -/
def contains (haystack needle : String) : Bool :=
  occursIn needle.toList haystack.toList

end VoiceDebugger.Text
