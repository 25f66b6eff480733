import VoiceDebugger.Text.Blank
import VoiceDebugger.Text.Lines

/-!
Documentation texts without the indentation of the code around them.
-/

namespace VoiceDebugger.Documentation

/-- The distance between tab stops. -/
def tabWidth : Nat := 8

/-- Tabs become spaces up to the next tab stop; line ends begin anew. -/
def expandTabs (column : Nat) : List Char → List Char
  | [] => []
  | '\t' :: rest =>
    let n := tabWidth - column % tabWidth
    List.replicate n ' ' ++ expandTabs (column + n) rest
  | c :: rest => c :: expandTabs (if c == '\n' || c == '\r' then 0 else column + 1) rest

def indentOf (line : List Char) : Option Nat :=
  let content := Text.trimStart line
  if content.isEmpty then none else some (line.length - content.length)

/-- The least indentation of lines that are not blank. -/
def margin (lines : List (List Char)) : Option Nat :=
  (lines.filterMap indentOf).min?

/-- Lines without empty ones at both ends. -/
def dropEmptyEnds (lines : List (List Char)) : List (List Char) :=
  ((lines.dropWhile List.isEmpty).reverse.dropWhile List.isEmpty).reverse

/-- The text without the indentation that all its lines but the first share, and without empty lines
at its ends. -/
def clean (text : String) : String :=
  match Text.splitAtChar '\n' (expandTabs 0 text.toList) with
  | [] => ""
  | first :: rest =>
    let rest :=
      match margin rest with
      | some n => rest.map (List.drop n)
      | none => rest
    let lines := dropEmptyEnds (Text.trimStart first :: rest)
    "\n".intercalate (lines.map String.ofList)

end VoiceDebugger.Documentation
