import VoiceDebugger.Text.Compatibility
import VoiceDebugger.Text.Lines
import VoiceDebugger.Text.NameTable
import VoiceDebugger.Text.NameWords

/-!
Characters by name.

Most names stand in a table; Hangul syllables and unified ideographs follow a rule, and some
characters have further names.
-/

namespace VoiceDebugger.Text

/-- Further names of characters. -/
def nameAliases : List (String × Nat) := [
  ("NULL", 0x0), ("NUL", 0x0), ("START OF HEADING", 0x1), ("SOH", 0x1), ("START OF TEXT", 0x2),
  ("STX", 0x2), ("END OF TEXT", 0x3), ("ETX", 0x3), ("END OF TRANSMISSION", 0x4), ("EOT", 0x4),
  ("ENQUIRY", 0x5), ("ENQ", 0x5), ("ACKNOWLEDGE", 0x6), ("ACK", 0x6), ("ALERT", 0x7),
  ("BEL", 0x7), ("BACKSPACE", 0x8), ("BS", 0x8), ("CHARACTER TABULATION", 0x9),
  ("HORIZONTAL TABULATION", 0x9), ("HT", 0x9), ("TAB", 0x9), ("LINE FEED", 0xA),
  ("NEW LINE", 0xA), ("END OF LINE", 0xA), ("LF", 0xA), ("NL", 0xA), ("EOL", 0xA),
  ("LINE TABULATION", 0xB), ("VERTICAL TABULATION", 0xB), ("VT", 0xB), ("FORM FEED", 0xC),
  ("FF", 0xC), ("CARRIAGE RETURN", 0xD), ("CR", 0xD), ("SHIFT OUT", 0xE),
  ("LOCKING-SHIFT ONE", 0xE), ("SO", 0xE), ("SHIFT IN", 0xF), ("LOCKING-SHIFT ZERO", 0xF),
  ("SI", 0xF), ("DATA LINK ESCAPE", 0x10), ("DLE", 0x10), ("DEVICE CONTROL ONE", 0x11),
  ("DC1", 0x11), ("DEVICE CONTROL TWO", 0x12), ("DC2", 0x12), ("DEVICE CONTROL THREE", 0x13),
  ("DC3", 0x13), ("DEVICE CONTROL FOUR", 0x14), ("DC4", 0x14), ("NEGATIVE ACKNOWLEDGE", 0x15),
  ("NAK", 0x15), ("SYNCHRONOUS IDLE", 0x16), ("SYN", 0x16), ("END OF TRANSMISSION BLOCK", 0x17),
  ("ETB", 0x17), ("CANCEL", 0x18), ("CAN", 0x18), ("END OF MEDIUM", 0x19), ("EOM", 0x19),
  ("SUBSTITUTE", 0x1A), ("SUB", 0x1A), ("ESCAPE", 0x1B), ("ESC", 0x1B),
  ("INFORMATION SEPARATOR FOUR", 0x1C), ("FILE SEPARATOR", 0x1C), ("FS", 0x1C),
  ("INFORMATION SEPARATOR THREE", 0x1D), ("GROUP SEPARATOR", 0x1D), ("GS", 0x1D),
  ("INFORMATION SEPARATOR TWO", 0x1E), ("RECORD SEPARATOR", 0x1E), ("RS", 0x1E),
  ("INFORMATION SEPARATOR ONE", 0x1F), ("UNIT SEPARATOR", 0x1F), ("US", 0x1F), ("SP", 0x20),
  ("DELETE", 0x7F), ("DEL", 0x7F), ("PADDING CHARACTER", 0x80), ("PAD", 0x80),
  ("HIGH OCTET PRESET", 0x81), ("HOP", 0x81), ("BREAK PERMITTED HERE", 0x82), ("BPH", 0x82),
  ("NO BREAK HERE", 0x83), ("NBH", 0x83), ("INDEX", 0x84), ("IND", 0x84), ("NEXT LINE", 0x85),
  ("NEL", 0x85), ("START OF SELECTED AREA", 0x86), ("SSA", 0x86), ("END OF SELECTED AREA", 0x87),
  ("ESA", 0x87), ("CHARACTER TABULATION SET", 0x88), ("HORIZONTAL TABULATION SET", 0x88),
  ("HTS", 0x88), ("CHARACTER TABULATION WITH JUSTIFICATION", 0x89),
  ("HORIZONTAL TABULATION WITH JUSTIFICATION", 0x89), ("HTJ", 0x89),
  ("LINE TABULATION SET", 0x8A), ("VERTICAL TABULATION SET", 0x8A), ("VTS", 0x8A),
  ("PARTIAL LINE FORWARD", 0x8B), ("PARTIAL LINE DOWN", 0x8B), ("PLD", 0x8B),
  ("PARTIAL LINE BACKWARD", 0x8C), ("PARTIAL LINE UP", 0x8C), ("PLU", 0x8C),
  ("REVERSE LINE FEED", 0x8D), ("REVERSE INDEX", 0x8D), ("RI", 0x8D), ("SINGLE SHIFT TWO", 0x8E),
  ("SINGLE-SHIFT-2", 0x8E), ("SS2", 0x8E), ("SINGLE SHIFT THREE", 0x8F),
  ("SINGLE-SHIFT-3", 0x8F), ("SS3", 0x8F), ("DEVICE CONTROL STRING", 0x90), ("DCS", 0x90),
  ("PRIVATE USE ONE", 0x91), ("PRIVATE USE-1", 0x91), ("PU1", 0x91), ("PRIVATE USE TWO", 0x92),
  ("PRIVATE USE-2", 0x92), ("PU2", 0x92), ("SET TRANSMIT STATE", 0x93), ("STS", 0x93),
  ("CANCEL CHARACTER", 0x94), ("CCH", 0x94), ("MESSAGE WAITING", 0x95), ("MW", 0x95),
  ("START OF GUARDED AREA", 0x96), ("START OF PROTECTED AREA", 0x96), ("SPA", 0x96),
  ("END OF GUARDED AREA", 0x97), ("END OF PROTECTED AREA", 0x97), ("EPA", 0x97),
  ("START OF STRING", 0x98), ("SOS", 0x98), ("SINGLE GRAPHIC CHARACTER INTRODUCER", 0x99),
  ("SGC", 0x99), ("SINGLE CHARACTER INTRODUCER", 0x9A), ("SCI", 0x9A),
  ("CONTROL SEQUENCE INTRODUCER", 0x9B), ("CSI", 0x9B), ("STRING TERMINATOR", 0x9C),
  ("ST", 0x9C), ("OPERATING SYSTEM COMMAND", 0x9D), ("OSC", 0x9D), ("PRIVACY MESSAGE", 0x9E),
  ("PM", 0x9E), ("APPLICATION PROGRAM COMMAND", 0x9F), ("APC", 0x9F), ("NBSP", 0xA0),
  ("SHY", 0xAD), ("LATIN CAPITAL LETTER GHA", 0x1A2), ("LATIN SMALL LETTER GHA", 0x1A3),
  ("CGJ", 0x34F), ("ALM", 0x61C), ("SYRIAC SUBLINEAR COLON SKEWED LEFT", 0x709),
  ("KANNADA LETTER LLLA", 0xCDE), ("LAO LETTER FO FON", 0xE9D), ("LAO LETTER FO FAY", 0xE9F),
  ("LAO LETTER RO", 0xEA3), ("LAO LETTER LO", 0xEA5),
  ("TIBETAN MARK BKA- SHOG GI MGO RGYAN", 0xFD0), ("HANGUL JONGSEONG YESIEUNG-KIYEOK", 0x11EC),
  ("HANGUL JONGSEONG YESIEUNG-SSANGKIYEOK", 0x11ED), ("HANGUL JONGSEONG SSANGYESIEUNG", 0x11EE),
  ("HANGUL JONGSEONG YESIEUNG-KHIEUKH", 0x11EF), ("FVS1", 0x180B), ("FVS2", 0x180C),
  ("FVS3", 0x180D), ("MVS", 0x180E), ("FVS4", 0x180F), ("ZWSP", 0x200B), ("ZWNJ", 0x200C),
  ("ZWJ", 0x200D), ("LRM", 0x200E), ("RLM", 0x200F), ("LRE", 0x202A), ("RLE", 0x202B),
  ("PDF", 0x202C), ("LRO", 0x202D), ("RLO", 0x202E), ("NNBSP", 0x202F), ("MMSP", 0x205F),
  ("WJ", 0x2060), ("LRI", 0x2066), ("RLI", 0x2067), ("FSI", 0x2068), ("PDI", 0x2069),
  ("WEIERSTRASS ELLIPTIC FUNCTION", 0x2118), ("MICR ON US SYMBOL", 0x2448),
  ("MICR DASH SYMBOL", 0x2449),
  ("LEFTWARDS TRIANGLE-HEADED ARROW WITH DOUBLE VERTICAL STROKE", 0x2B7A),
  ("RIGHTWARDS TRIANGLE-HEADED ARROW WITH DOUBLE VERTICAL STROKE", 0x2B7C),
  ("YI SYLLABLE ITERATION MARK", 0xA015), ("MYANMAR LETTER KHAMTI LLA", 0xAA6E),
  ("PRESENTATION FORM FOR VERTICAL RIGHT WHITE LENTICULAR BRACKET", 0xFE18),
  ("BYTE ORDER MARK", 0xFEFF), ("BOM", 0xFEFF), ("ZWNBSP", 0xFEFF),
  ("CUNEIFORM SIGN NU11 TENU", 0x122D4), ("CUNEIFORM SIGN NU11 OVER NU11 BUR OVER BUR", 0x122D5),
  ("MEDEFAIDRIN CAPITAL LETTER H", 0x16E56), ("MEDEFAIDRIN CAPITAL LETTER NG", 0x16E57),
  ("MEDEFAIDRIN SMALL LETTER H", 0x16E76), ("MEDEFAIDRIN SMALL LETTER NG", 0x16E77),
  ("HENTAIGANA LETTER E-1", 0x1B001),
  ("BYZANTINE MUSICAL SYMBOL FTHORA SKLIRON CHROMA VASIS", 0x1D0C5)]

/-- The digits in which places in the list of words are written. -/
def placeDigits : List Char :=
  "ABCDEFGHIJKLMNOPQRSTUVWXYZabcdefghijklmnopqrstuvwxyz0123456789+-".toList

def placeDigit (n : Nat) : Char :=
  placeDigits.getD n 'A'

/-- A place in the list of words: two digits for the frequent words, three for the others. -/
def placeCode (n : Nat) : List Char :=
  if n < 3584 then [placeDigit (n / 64), placeDigit (n % 64)]
  else
    let m := n - 3584
    [placeDigit (56 + m / 4096), placeDigit (m / 64 % 64), placeDigit (m % 64)]

def placeValue (c : Char) : Nat :=
  placeDigits.idxOf c

/-- The entries of a list in which each one tells how many characters it has in common with the
entry before it, and how it goes on. -/
def unabridged (before : List Char) : List (List Char) → List (List Char)
  | [] => []
  | [] :: rest => [] :: unabridged [] rest
  | (shared :: others) :: rest =>
    let entry := before.take (placeValue shared) ++ others
    entry :: unabridged entry rest

/-- A name as the table writes it, in full; `none` if one of its words is in no name. -/
def nameCode? (name : List Char) : Option (List Char) :=
  let known := unabridged [] (nameWords.flatMap fun line => splitAtChar ' ' line.toList)
  ((splitAtChar ' ' name).mapM fun w => (known.findIdx? (· == w)).map placeCode).map List.flatten

/-- Look for a name in the runs of the table. `start` is read while `inStart`, `code` is the code
point of the name that is being read, and `read` its digits, last one first. -/
def findInTable (wanted : List Char) (inStart : Bool) (code : Nat) (read : List Char) :
    List Char → Option Nat
  | [] => none
  | ';' :: rest =>
    if !inStart && read == wanted then some code else findInTable wanted true 0 [] rest
  | ' ' :: shared :: rest =>
    if inStart then findInTable wanted false code [] rest
    else if read == wanted then some code
    else findInTable wanted false (code + 1) (read.drop (read.length - placeValue shared)) rest
  | c :: rest =>
    if inStart then findInTable wanted true (code * 16 + hexDigitValue c) [] rest
    else findInTable wanted false code (c :: read) rest

/-- The short names of the leading consonants, vowels and trailing consonants of Hangul. -/
def hangulParts : List String × List String × List String :=
  (["G", "GG", "N", "D", "DD", "R", "M", "B", "BB", "S", "SS", "", "J", "JJ", "C", "K", "T", "P",
    "H"],
   ["A", "AE", "YA", "YAE", "EO", "E", "YEO", "YE", "O", "WA", "WAE", "OE", "YO", "U", "WEO", "WE",
    "WI", "YU", "EU", "YI", "I"],
   ["", "G", "GG", "GS", "N", "NJ", "NH", "D", "L", "LG", "LM", "LB", "LS", "LT", "LP", "LH", "M",
    "B", "BS", "S", "SS", "NG", "J", "C", "K", "T", "P", "H"])

/-- The longest of the parts that stands at the front: its place, and what follows. -/
def longestPart (parts : List String) (cs : List Char) : Option (Nat × List Char) :=
  let fits := (parts.zipIdx.filter fun p => p.1.toList.isPrefixOf cs)
  (fits.foldl (fun best p =>
    match best with
    | some (q : String × Nat) => if q.1.length < p.1.length then some p else best
    | none => some p) none).map fun p => (p.2, cs.drop p.1.length)

def hangulSyllable? (cs : List Char) : Option Nat := do
  let (l, rest) ← longestPart hangulParts.1 cs
  let (v, rest) ← longestPart hangulParts.2.1 rest
  let (t, rest) ← longestPart hangulParts.2.2 rest
  if rest.isEmpty then some (0xAC00 + (l * 21 + v) * 28 + t) else none

/-- The code points of unified ideographs. -/
def isIdeograph (n : Nat) : Bool :=
  (0x3400 ≤ n && n ≤ 0x4DBF) || (0x4E00 ≤ n && n ≤ 0x9FFF) || (0x20000 ≤ n && n ≤ 0x2A6DF) ||
    (0x2A700 ≤ n && n ≤ 0x2B738) || (0x2B740 ≤ n && n ≤ 0x2B81D) ||
    (0x2B820 ≤ n && n ≤ 0x2CEA1) || (0x2CEB0 ≤ n && n ≤ 0x2EBE0) || (0x30000 ≤ n && n ≤ 0x3134A)

/-- The ideograph of four or five hexadecimal digits. -/
def ideograph? (cs : List Char) : Option Nat :=
  if (cs.length == 4 || cs.length == 5) && cs.all fun c => c.isDigit || ('A' ≤ c && c ≤ 'F') then
    let n := cs.foldl (fun n c => n * 16 + hexDigitValue c) 0
    if isIdeograph n then some n else none
  else none

def variationSelector? (cs : List Char) : Option Nat :=
  match cs with
  | 'V' :: 'S' :: ds =>
    if !ds.isEmpty && ds.length ≤ 3 && ds.head? != some '0' && ds.all Char.isDigit then
      let n := ds.foldl (fun n c => n * 10 + (c.toNat - 48)) 0
      if n ≤ 16 then some (0xFE00 + n - 1) else if n ≤ 256 then some (0xE0100 + n - 17) else none
    else none
  | _ => none

/-- The character of a name; letter case does not matter. -/
def charNamed? (name : String) : Option Char :=
  let cs := name.toList.map Char.toUpper
  let behind (start : String) : Option (List Char) :=
    if start.toList.isPrefixOf cs then some (cs.drop start.length) else none
  let byRule :=
    match behind "HANGUL SYLLABLE ", behind "CJK UNIFIED IDEOGRAPH-" with
    | some rest, _ => hangulSyllable? rest
    | _, some rest => ideograph? rest
    | none, none =>
      let further? := (nameAliases.find? fun (a : String × Nat) => a.1.toList == cs).map Prod.snd
      match further? <|> variationSelector? cs with
      | some n => some n
      | none =>
        match nameCode? cs with
        | some code => findInTable code.reverse true 0 [] (nameTable.flatMap String.toList)
        | none => none
  byRule.map Char.ofNat

end VoiceDebugger.Text
