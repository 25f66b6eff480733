import VoiceDebugger.Text.Blank
import VoiceDebugger.Text.Digit
import VoiceDebugger.Text.Word

/-!
Patterns over text.

A pattern has candidates at a place, in order of preference: the earlier alternative and the longer
run come first. Runs repeat a single character class, so candidates are found by recursion on the
pattern and on the text.
-/

namespace VoiceDebugger

/-- Classes of characters. -/
inductive CharClass where
  /-- One character. -/
  | only (c : Char)
  /-- A small letter in either case. -/
  | letter (c : Char)
  /-- Any small letter in either case. -/
  | anyLetter
  /-- Any small letter in either case, or an underscore. -/
  | anyLetterOrScore
  | wordChar
  | blank
  | digit
  /-- Any of some characters. -/
  | oneOf (cs : List Char)
  /-- Any but one character. -/
  | butNot (c : Char)
  deriving Repr, BEq, DecidableEq

/-- The small letter that a character stands for when case does not count, if any. Besides the
capital letters these are the Kelvin sign, both undotted and dotted forms of i, and the long s. -/
def smallLetter? (c : Char) : Option Char :=
  let n := c.toNat
  if 97 ≤ n && n ≤ 122 then some c
  else if 65 ≤ n && n ≤ 90 then some (Char.ofNat (n + 32))
  else if n == 0x130 || n == 0x131 then some 'i'
  else if n == 0x17F then some 's'
  else if n == 0x212A then some 'k'
  else none

def CharClass.contains : CharClass → Char → Bool
  | .only c, x => x == c
  | .letter c, x => smallLetter? x == some c
  | .anyLetter, x => (smallLetter? x).isSome
  | .anyLetterOrScore, x => (smallLetter? x).isSome || x == '_'
  | .wordChar, x => Text.isWordChar x
  | .blank, x => Text.isBlank x
  | .digit, x => Text.isDecimal x
  | .oneOf cs, x => cs.contains x
  | .butNot c, x => x != c

/-- A pattern. -/
inductive Pattern where
  /-- Matches without reading. -/
  | empty
  /-- One character of a class. -/
  | one (k : CharClass)
  /-- A run of a class, which may be empty. -/
  | many (k : CharClass)
  /-- The edge of a word. -/
  | edge
  | both (first second : Pattern)
  | either (first second : Pattern)
  /-- What the pattern reads is kept. -/
  | keep (p : Pattern)
  deriving Repr, BEq, DecidableEq

/-- A place in a text: how many characters stand before it, the last of them, those behind, and the
ranges kept so far. -/
structure Cursor where
  position : Nat
  before : Option Char
  rest : List Char
  kept : List (Nat × Nat)
  deriving Repr

namespace Cursor

def start (text : List Char) : Cursor :=
  ⟨0, none, text, []⟩

def atEdge (c : Cursor) : Bool :=
  c.before.any Text.isWordChar != c.rest.head?.any Text.isWordChar

/-- The cursors behind the runs of a class from here, the longest run first. `shorter` holds those
of shorter runs. -/
def runs (k : CharClass) (kept : List (Nat × Nat)) (shorter : List Cursor) (position : Nat)
    (before : Option Char) : List Char → List Cursor
  | [] => ⟨position, before, [], kept⟩ :: shorter
  | x :: rest =>
    let here : Cursor := ⟨position, before, x :: rest, kept⟩
    if k.contains x then runs k kept (here :: shorter) (position + 1) (some x) rest
    else here :: shorter

end Cursor

namespace Pattern

/-- The cursors behind the pattern's candidates, in order of preference. -/
def candidates : Pattern → Cursor → List Cursor
  | .empty, c => [c]
  | .one k, c =>
    match c.rest with
    | x :: rest => if k.contains x then [⟨c.position + 1, some x, rest, c.kept⟩] else []
    | [] => []
  | .many k, c => Cursor.runs k c.kept [] c.position c.before c.rest
  | .edge, c => if c.atEdge then [c] else []
  | .both p q, c => (candidates p c).flatMap (candidates q)
  | .either p q, c => candidates p c ++ candidates q c
  | .keep p, c =>
    (candidates p c).map fun d => { d with kept := d.kept ++ [(c.position, d.position)] }

/-- The preferred match at the leftmost place that has one: where it starts, and the cursor behind
it. -/
def searchFrom (p : Pattern) (position : Nat) (before : Option Char) :
    List Char → Option (Nat × Cursor)
  | [] =>
    (p.candidates ⟨position, before, [], []⟩).head?.map fun c => (position, c)
  | x :: rest =>
    match p.candidates ⟨position, before, x :: rest, []⟩ with
    | c :: _ => some (position, c)
    | [] => searchFrom p (position + 1) (some x) rest

def search (p : Pattern) (text : List Char) : Option (Nat × Cursor) :=
  searchFrom p 0 none text

def occursIn (p : Pattern) (text : List Char) : Bool :=
  (p.search text).isSome

def slice (text : List Char) (range : Nat × Nat) : List Char :=
  (text.drop range.1).take (range.2 - range.1)

/-- The first part that the leftmost match keeps. -/
def firstKept? (p : Pattern) (text : List Char) : Option String := do
  let (_, c) ← p.search text
  let range ← c.kept.head?
  return String.ofList (slice text range)

/-- The kept ranges of the matches from left to right, each behind the one before. A match reads at
least one character; `fuel` bounds their number. -/
def findAllFrom (p : Pattern) : Nat → Cursor → List (List (Nat × Nat))
  | 0, _ => []
  | fuel + 1, c =>
    match p.searchFrom c.position c.before c.rest with
    | none => []
    | some (_, d) => d.kept :: findAllFrom p fuel { d with kept := [] }

/-- What the matches keep, from left to right. -/
def findAll (p : Pattern) (text : List Char) : List (List String) :=
  (p.findAllFrom text.length (Cursor.start text)).map fun ranges =>
    ranges.map fun r => String.ofList (slice text r)

/-! ### Ways to write patterns -/

def all : List Pattern → Pattern
  | [] => .empty
  | [p] => p
  | p :: rest => .both p (all rest)

/-- The first of several patterns that fits. -/
def anyOf : List Pattern → Pattern
  | [] => .one (.oneOf [])
  | [p] => p
  | p :: rest => .either p (anyOf rest)

def maybe (p : Pattern) : Pattern :=
  .either p .empty

def some1 (k : CharClass) : Pattern :=
  .both (.one k) (.many k)

def gap : Pattern := some1 .blank

def gap? : Pattern := .many .blank

def word : Pattern := some1 .wordChar

/-- The pattern of a written character: a space is a run of blanks, letters match in either case. -/
def ofChar (c : Char) : Pattern :=
  if c == ' ' then gap
  else if 'a' ≤ c && c ≤ 'z' then .one (.letter c)
  else .one (.only c)

def phrase (s : String) : Pattern :=
  all (s.toList.map ofChar)

def phrases (ss : List String) : Pattern :=
  anyOf (ss.map phrase)

def phrases? (ss : List String) : Pattern :=
  maybe (phrases ss)

def exactly (s : String) : Pattern :=
  all (s.toList.map fun c => .one (.only c))

end Pattern

end VoiceDebugger
