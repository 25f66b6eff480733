import VoiceDebugger.Number.Text
import VoiceDebugger.Text.Utf8

/-!
Points in time in the international notation.

A date is written with or without hyphens, by month and day or by week and weekday. A time may
follow behind any one character, with or without colons, then a distance from universal time. Before
that distance a stray character is passed over, and after six digits of a second any number of them.
A null character ends a time.
-/

namespace VoiceDebugger

/-- A point in time: a date, a time of day, and its distance from universal time in microseconds if
it has one. -/
structure Timestamp where
  year : Nat
  month : Nat
  day : Nat
  hour : Nat := 0
  minute : Nat := 0
  second : Nat := 0
  microsecond : Nat := 0
  offset : Option Int := none
  deriving Repr, BEq, DecidableEq

namespace Timestamp

/-! ### Writing -/

/-- A number in at least some digits. -/
def digits (width n : Nat) : String :=
  String.ofList (Number.padded width n)

def fractionText (microsecond : Nat) : String :=
  if microsecond == 0 then "" else "." ++ digits 6 microsecond

/-- The distance from universal time. -/
def offsetText (offset : Int) : String :=
  let mark := if offset < 0 then "-" else "+"
  let micro := offset.natAbs
  let total := micro / 1000000
  let seconds := total % 60
  let tail :=
    if seconds == 0 && micro % 1000000 == 0 then ""
    else ":" ++ digits 2 seconds ++ fractionText (micro % 1000000)
  mark ++ digits 2 (total / 3600) ++ ":" ++ digits 2 (total / 60 % 60) ++ tail

def text (t : Timestamp) : String :=
  digits 4 t.year ++ "-" ++ digits 2 t.month ++ "-" ++ digits 2 t.day ++ "T" ++
    digits 2 t.hour ++ ":" ++ digits 2 t.minute ++ ":" ++ digits 2 t.second ++
    fractionText t.microsecond ++ ((t.offset.map offsetText).getD "")

/-! ### Reading -/

def isLeap (year : Nat) : Bool :=
  year % 4 == 0 && (year % 100 != 0 || year % 400 == 0)

def daysIn (year month : Nat) : Nat :=
  if month == 2 then if isLeap year then 29 else 28
  else if [4, 6, 9, 11].contains month then 30
  else 31

/-- The days before a year, from year one on. -/
def daysBeforeYear (year : Nat) : Nat :=
  let y := year - 1
  y * 365 + y / 4 - y / 100 + y / 400

/-- The day of the week of the first of January; Monday is zero. -/
def firstWeekday (year : Nat) : Nat :=
  daysBeforeYear year % 7

/-- The date that lies some days behind the first day of a month. -/
def dateFrom : Nat → Nat → Nat → Nat → Nat × Nat × Nat
  | 0, year, month, days => (year, month, days + 1)
  | fuel + 1, year, month, days =>
    if days < daysIn year month then (year, month, days + 1)
    else if month == 12 then dateFrom fuel (year + 1) 1 (days - daysIn year month)
    else dateFrom fuel year (month + 1) (days - daysIn year month)

/-- The date of a weekday in a week. The first week is the one that holds the first Thursday. -/
def ofWeek? (year week day : Nat) : Option (Nat × Nat × Nat) :=
  let first := firstWeekday year
  let long := first == 3 || (first == 2 && isLeap year)
  if year < 1 || week < 1 || week > 53 || (week == 53 && !long) || day < 1 || day > 7 then none
  else
    let days := (week - 1) * 7 + (day - 1)
    if first ≤ 3 then
      if days ≥ first then some (dateFrom 16 year 1 (days - first))
      else some (year - 1, 12, 31 + days + 1 - first)
    else some (dateFrom 16 year 1 (days + 7 - first))

def digit? (c : Char) : Option Nat :=
  if '0' ≤ c && c ≤ '9' then some (c.toNat - 48) else none

/-- A number of exactly some digits, and what follows. -/
def takeNumber : Nat → Nat → List Char → Option (Nat × List Char)
  | 0, n, cs => some (n, cs)
  | width + 1, n, c :: rest => (digit? c).bind fun d => takeNumber width (10 * n + d) rest
  | _, _, [] => none

def dateLength (cs : List Char) : Option Nat :=
  let length := cs.length
  let at_ (i : Nat) : Char := cs.getD i '\x00'
  if length < 7 then none
  else if length == 7 then some 7
  else if at_ 4 == '-' then
    if at_ 5 == 'W' then
      if length > 8 && at_ 8 == '-' then
        if length == 9 then none
        else if length > 10 && (digit? (at_ 10)).isSome then some 8
        else some 10
      else some 8
    else some 10
  else if at_ 4 == 'W' then
    let last := 7 + ((cs.drop 7).takeWhile fun c => (digit? c).isSome).length
    if last < 9 then some last else if last % 2 == 0 then some 7 else some 8
  else some 8

def skip (c : Char) : List Char → Option (List Char)
  | x :: rest => if x == c then some rest else none
  | [] => none

def readDate (cs : List Char) : Option (Nat × Nat × Nat) := do
  let (year, cs) ← takeNumber 4 0 cs
  let dashed := cs.head? == some '-'
  let cs := if dashed then cs.drop 1 else cs
  let between (cs : List Char) : Option (List Char) := if dashed then skip '-' cs else some cs
  if cs.head? == some 'W' then
    let (week, cs) ← takeNumber 2 0 (cs.drop 1)
    if cs.isEmpty then ofWeek? year week 1
    else
      let (day, _) ← takeNumber 1 0 (← between cs)
      ofWeek? year week day
  else
    let (month, cs) ← takeNumber 2 0 cs
    let (day, cs) ← takeNumber 2 0 (← between cs)
    if cs.isEmpty then some (year, month, day) else none

/-- Whether a time may end before some characters; `zoned` says that a distance from universal time
follows. -/
def mayEnd (zoned : Bool) (cs : List Char) : Bool :=
  zoned || cs.isEmpty || cs.head? == some '\x00'

/-- A single character that is passed over at the end of a time, where it may end. -/
def isStray (zoned : Bool) (c : Char) : Bool :=
  c.toNat < 128 && mayEnd zoned [c]

/-- A fraction of a second in microseconds; digits behind the sixth do not count. -/
def readFraction (zoned : Bool) (cs : List Char) : Option Nat := do
  let width := min 6 cs.length
  let (n, rest) ← takeNumber width 0 cs
  if mayEnd zoned (rest.dropWhile fun c => (digit? c).isSome) then
    some (n * Nat.pow 10 (6 - width))
  else none

/-- A time of day: hours, then perhaps minutes, seconds and a fraction. -/
def readClock (zoned : Bool) (cs : List Char) : Option (Nat × Nat × Nat × Nat) := do
  let (hour, cs) ← takeNumber 2 0 cs
  match cs with
  | [] => some (hour, 0, 0, 0)
  | [c] => if isStray zoned c then some (hour, 0, 0, 0) else none
  | c :: rest =>
    let colons := c == ':'
    if c == '.' || c == ',' then some (hour, 0, 0, ← readFraction zoned rest)
    else
      let (minute, cs) ← takeNumber 2 0 (if colons then rest else cs)
      match cs with
      | [] => some (hour, minute, 0, 0)
      | [c] => if isStray zoned c then some (hour, minute, 0, 0) else none
      | c :: rest =>
        if c == '.' || c == ',' then some (hour, minute, 0, ← readFraction zoned rest)
        else if colons && c != ':' then none
        else
          let (second, cs) ← takeNumber 2 0 (if colons then rest else cs)
          match cs with
          | [] => some (hour, minute, second, 0)
          | [c] => if isStray zoned c then some (hour, minute, second, 0) else none
          | c :: rest =>
            if c == '.' || c == ',' || (colons && c == ':') then
              some (hour, minute, second, ← readFraction zoned rest)
            else if colons then none
            else some (hour, minute, second, ← readFraction zoned cs)

/-- The distance from universal time that a tail names, in microseconds. -/
def readOffset : List Char → Option (Option Int)
  | [] => some none
  | c :: rest => do
    if c == 'Z' then if mayEnd false rest then some (some 0) else none
    else
      let (hour, minute, second, micro) ← readClock false rest
      let seconds := hour * 3600 + minute * 60 + second
      let total : Int := if seconds == 0 then 0 else seconds * 1000000 + micro
      if seconds * 1000000 + micro ≥ 86400 * 1000000 && seconds != 0 then none
      else some (some (if c == '-' then -total else total))

/-- Whether a character begins the distance from universal time. -/
def isZoneMark (c : Char) : Bool :=
  c == '+' || c == '-' || c == 'Z'

/-- Whether date and time exist. -/
def isReal (t : Timestamp) : Bool :=
  1 ≤ t.year && t.year ≤ 9999 && 1 ≤ t.month && t.month ≤ 12 && 1 ≤ t.day &&
    t.day ≤ daysIn t.year t.month && t.hour < 24 && t.minute < 60 && t.second < 60

def read? (s : String) : Option Timestamp := do
  let cs := s.toList
  let length ← dateLength cs
  let (year, month, day) ← readDate (cs.take length)
  let t : Timestamp ←
    if cs.length ≤ length then some { year := year, month := month, day := day }
    else
      let time := cs.drop (length + 1)
      let clock := time.takeWhile fun c => !isZoneMark c
      let zone := time.drop clock.length
      let (hour, minute, second, micro) ← readClock (!zone.isEmpty) clock
      let offset ← readOffset zone
      some ⟨year, month, day, hour, minute, second, micro, offset⟩
  if t.isReal then some t else none

end Timestamp

end VoiceDebugger
