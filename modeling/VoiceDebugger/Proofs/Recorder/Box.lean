import VoiceDebugger.Proofs.Session.Run
import VoiceDebugger.Proofs.Text.Words
import VoiceDebugger.Proofs.Workspace.Place
import VoiceDebugger.Recorder.Live

/-!
The box around a transcript.

The words of a transcript go into rows, in their order and without a loss. A row holds what fits
into it, or one word that fits into none; so the box is straight unless a word is longer than its
rows.
-/

namespace VoiceDebugger.Recorder.Live

open VoiceDebugger.Text VoiceDebugger.Action

/-! ### Lines of words -/

/-- A line of words: it is set in, and a space follows every word. -/
def lineOf (ws : List String) : String :=
  "  " ++ String.join (ws.map (· ++ " "))

theorem lineOf_nil : lineOf [] = "  " := by decide

theorem lineOf_concat (ws : List String) (w : String) :
    lineOf (ws ++ [w]) = lineOf ws ++ w ++ " " := by
  simp only [lineOf, List.map_append, String.join_append, List.map_cons, List.map_nil,
    String.join_cons, String.join_nil, String.append_empty, String.append_assoc]

theorem lineOf_singleton (w : String) : lineOf [w] = "  " ++ w ++ " " := by
  rw [← List.nil_append [w], lineOf_concat, lineOf_nil]

theorem length_word_le {w : String} {ws : List String} (member : w ∈ ws) :
    w.length + 3 ≤ (lineOf ws).length := by
  obtain ⟨before, behind, rfl⟩ := List.append_of_mem member
  simp only [lineOf, List.map_append, List.map_cons, String.join_append, String.join_cons,
    String.length_append]
  change _ ≤ 2 + (_ + (w.length + 1 + _))
  omega

theorem toList_lineOf (ws : List String) :
    (lineOf ws).toList = ' ' :: ' ' :: ws.flatMap fun w => w.toList ++ [' '] := by
  rw [lineOf, String.toList_append, String.toList_join, List.flatMap_map]
  simp only [String.toList_append]
  rfl

theorem isBlank_space : isBlank ' ' = true := by decide

theorem wordsFrom_spaced {ws : List String} (whole : ∀ w ∈ ws, OneWord w.toList) {back : List Char}
    (blank : ∀ c ∈ back, isBlank c = true) :
    wordsFrom [] ((ws.flatMap fun w => w.toList ++ [' ']) ++ back) = ws.map String.toList := by
  induction ws with
  | nil => exact (wordsFrom_eq_nil_iff back).mpr blank
  | cons w ws ih =>
    obtain ⟨first, others⟩ := List.forall_mem_cons.mp whole
    rw [List.flatMap_cons, List.append_assoc, List.append_assoc, List.singleton_append,
      wordsFrom_append_blank isBlank_space, wordsFrom_oneWord first, ih others, List.map_cons,
      List.singleton_append]

/-- The words of a line are read back from it, whatever blanks follow. -/
theorem words_lineOf_append {ws : List String} (whole : ∀ w ∈ ws, OneWord w.toList)
    {back : List Char} (blank : ∀ c ∈ back, isBlank c = true) :
    words (lineOf ws ++ String.ofList back) = ws := by
  have same : String.ofList ∘ String.toList = id := funext fun _ => String.ofList_toList
  rw [words, String.toList_append, String.toList_ofList, toList_lineOf, List.cons_append,
    List.cons_append, wordsFrom_cons_blank isBlank_space, wordsFrom_cons_blank isBlank_space,
    wordsFrom_spaced whole blank, List.map_map, same, List.map_id]

theorem words_padTo_lineOf (width : Nat) {ws : List String} (whole : ∀ w ∈ ws, OneWord w.toList) :
    words (padTo width (lineOf ws)) = ws := by
  apply words_lineOf_append whole
  intro c member
  rw [List.eq_of_mem_replicate member]
  exact isBlank_space

theorem strip_lineOf_isEmpty {ws : List String} (whole : ∀ w ∈ ws, OneWord w.toList) :
    (strip (lineOf ws)).isEmpty = ws.isEmpty := by
  have alone := words_lineOf_append whole (List.forall_mem_nil _)
  rw [String.ofList_nil, String.append_empty] at alone
  rw [strip_isEmpty, alone]

/-! ### Rows -/

/-- The words row by row, when some words stand in the row that is being filled. A row ends where
the next word has no room. -/
def packed (filling : List String) : List String → List (List String)
  | [] => if filling.isEmpty then [] else [filling]
  | w :: rest =>
    if (lineOf filling).length + w.length + 1 ≤ rowWidth then packed (filling ++ [w]) rest
    else filling :: packed [w] rest

/-- Filling rows with characters is filling them with words: the line is at each step that of the
words it has taken. -/
theorem rowsFrom_lineOf (filling rest : List String)
    (whole : ∀ w ∈ filling ++ rest, OneWord w.toList) :
    rowsFrom (lineOf filling) rest = (packed filling rest).map fun ws => row (lineOf ws) := by
  induction rest generalizing filling with
  | nil =>
    rw [List.append_nil] at whole
    rw [rowsFrom, packed, strip_lineOf_isEmpty whole]
    cases filling with
    | nil => rfl
    | cons w filling => rfl
  | cons w rest ih =>
    rw [rowsFrom, packed]
    split
    · rw [← lineOf_concat]
      exact ih _ (by rwa [List.append_assoc])
    · have others : ∀ v ∈ [w] ++ rest, OneWord v.toList :=
        fun v member => whole v (List.mem_append_right filling member)
      rw [← lineOf_singleton, ih [w] others, List.map_cons]

/-- The rows hold all words, in their order. -/
theorem flatten_packed (filling rest : List String) :
    (packed filling rest).flatten = filling ++ rest := by
  induction rest generalizing filling with
  | nil =>
    rw [packed, List.append_nil]
    split
    · next empty => rw [List.isEmpty_iff.mp empty, List.flatten_nil]
    · exact List.append_nil filling
  | cons w rest ih =>
    rw [packed]
    split
    · rw [ih, List.append_assoc]
      rfl
    · rw [List.flatten_cons, ih]
      rfl

theorem mem_of_mem_packed {filling rest ws : List String} {w : String}
    (placed : ws ∈ packed filling rest) (member : w ∈ ws) : w ∈ filling ++ rest := by
  rw [← flatten_packed]
  exact List.mem_flatten.mpr ⟨ws, placed, member⟩

-- A first word that does not fit behind the two spaces leaves an empty row above it.
example : packed [] [String.ofList (List.replicate 52 'a')] =
    [[], [String.ofList (List.replicate 52 'a')]] := by
  decide

/-- The words of a row fit into it, or there is just one. -/
def Fits (ws : List String) : Prop :=
  (lineOf ws).length ≤ rowWidth ∨ ∃ w, ws = [w]

/-- Whatever is put into a row keeps it fitting, and so do all rows that follow. -/
theorem fits_of_mem_packed {filling rest ws : List String} (fits : Fits filling)
    (member : ws ∈ packed filling rest) : Fits ws := by
  induction rest generalizing filling with
  | nil =>
    rw [packed] at member
    split at member
    · cases member
    · rwa [List.mem_singleton.mp member]
  | cons w rest ih =>
    rw [packed] at member
    split at member
    · next room =>
      have longer : Fits (filling ++ [w]) := by
        left
        rw [lineOf_concat, String.length_append, String.length_append]
        exact room
      exact ih longer member
    · rcases List.mem_cons.mp member with rfl | later
      · exact fits
      · exact ih (.inr ⟨w, rfl⟩) later

theorem length_row (line : String) : (row line).length = max 56 line.length + 4 := by
  have filler : (String.ofList (List.replicate (56 - line.length) ' ')).length =
      56 - line.length := by
    rw [String.length_ofList, List.length_replicate]
  rw [row, padTo, String.length_append, String.length_append, String.length_append, filler]
  change 2 + (line.length + (56 - line.length)) + 2 = _
  omega

/-- The rows are straight just if every word is short enough. -/
theorem straight_iff (ws : List String) :
    (∀ r ∈ (packed [] ws).map fun g => row (lineOf g), r.length = 60) ↔ ∀ w ∈ ws, w.length ≤ 53 := by
  rw [List.forall_mem_map]
  constructor
  · intro straight w member
    rw [← List.nil_append ws, ← flatten_packed, List.mem_flatten] at member
    obtain ⟨g, placed, inside⟩ := member
    have width := straight g placed
    -- The two spaces and the one behind the word leave it 53 of the 56 characters.
    have room := length_word_le inside
    rw [length_row] at width
    omega
  · intro short g placed
    have started : Fits [] := .inl (by decide)
    rw [length_row]
    rcases fits_of_mem_packed started placed with narrow | ⟨w, rfl⟩
    · rw [rowWidth] at narrow
      omega
    · have least := short w (mem_of_mem_packed placed (List.mem_singleton_self w))
      rw [lineOf_singleton, String.length_append, String.length_append]
      change max 56 (2 + w.length + 1) + 4 = 60
      omega

/-! ### The printed box -/

/-- The rows of a printed box: what stands between its first and its last empty row. -/
def bodyRows (printed : String) : List String :=
  let behind := ((splitOn '\n' printed).dropWhile (· != emptyRow)).tail
  (behind.reverse.dropWhile (· != emptyRow)).tail.reverse

theorem splitOn_printedLines (lines : List String) :
    splitOn '\n' (printedLines lines) = lines.flatMap (splitOn '\n') ++ [""] := by
  induction lines with
  | nil => decide
  | cons line rest ih =>
    rw [List.flatMap_cons, List.append_assoc, ← ih, printedLines_cons, splitOn, splitOn, splitOn,
      ← List.map_append, ← splitAtChar_append, String.toList_append, String.toList_append,
      List.append_assoc]
    rfl

theorem dropWhile_boxTop :
    (boxTop.flatMap (splitOn '\n')).dropWhile (· != emptyRow) = [emptyRow] := by
  decide

theorem dropWhile_boxBottom :
    (boxBottom.flatMap (splitOn '\n') ++ [""]).reverse.dropWhile (· != emptyRow) = [emptyRow] := by
  decide

theorem flatMap_splitOn {lines : List String} (flat : ∀ l ∈ lines, '\n' ∉ l.toList) :
    lines.flatMap (splitOn '\n') = lines := by
  induction lines with
  | nil => rfl
  | cons line rest ih =>
    obtain ⟨first, others⟩ := List.forall_mem_cons.mp flat
    rw [List.flatMap_cons, ih others, splitOn, splitAtChar_whole '\n' line.toList first,
      List.map_singleton, String.ofList_toList, List.singleton_append]

/-- The rows of a box are read back from what is printed. Some of them may be empty, too: the first
and the last empty row are those of the box itself. -/
theorem bodyRows_box {rows : List String} (flat : ∀ r ∈ rows, '\n' ∉ r.toList) :
    bodyRows (printedLines (boxTop ++ rows ++ boxBottom)) = rows := by
  rw [bodyRows, splitOn_printedLines, List.flatMap_append, List.flatMap_append,
    flatMap_splitOn flat, List.append_assoc, List.append_assoc, List.dropWhile_append,
    dropWhile_boxTop]
  change ((rows ++ (boxBottom.flatMap (splitOn '\n') ++ [""])).reverse.dropWhile
    (· != emptyRow)).tail.reverse = rows
  rw [List.reverse_append, List.dropWhile_append, dropWhile_boxBottom]
  exact List.reverse_reverse rows

theorem newline_not_mem_row {ws : List String} (whole : ∀ w ∈ ws, OneWord w.toList) :
    '\n' ∉ (row (lineOf ws)).toList := by
  have solid : ∀ w ∈ ws, '\n' ∉ w.toList :=
    fun w member inside => absurd ((whole w member).solid '\n' inside) (by decide)
  simpa [row, padTo, toList_lineOf, List.mem_replicate] using solid

theorem runIn_wordsOf (text : CodeText) (s : Session) :
    (wordsOf (.str text)).runIn s = (.ok (words text.shown), s) := rfl

theorem runIn_showTranscript (text : CodeText) (s : Session) :
    (showTranscript (.str text)).runIn s =
      (.ok (), { s with output :=
        s.output ++ printedLines (boxTop ++ rowsFrom "  " (words text.shown) ++ boxBottom) }) := by
  rw [showTranscript, runIn_bind_ok (runIn_sayAll boxTop s), runIn_bind_ok (runIn_wordsOf text _),
    runIn_bind_ok (runIn_sayAll _ _), runIn_sayAll]
  simp only [printedLines_append, String.append_assoc]

/-- A transcript is in its box as a whole, whatever it is: between the empty rows, the contents of
the rows hold its words in their order. All rows have the width of the box just if no word has more
than 53 characters. -/
theorem transcript_whole_in_box (text : CodeText) (s : Session) :
    ∃ (printed : String) (contents : List String),
      (showTranscript (.str text)).runIn s = (.ok (), { s with output := s.output ++ printed }) ∧
      printed = printedLines (boxTop ++ bodyRows printed ++ boxBottom) ∧
      bodyRows printed = contents.map (fun content => "║ " ++ content ++ " ║") ∧
      contents.flatMap words = words text.shown ∧
      ((∀ r ∈ bodyRows printed, r.length = 60) ↔ ∀ w ∈ words text.shown, w.length ≤ 53) := by
  have whole : ∀ ws ∈ packed [] (words text.shown), ∀ w ∈ ws, OneWord w.toList :=
    fun ws placed w member => oneWord_of_mem_words (mem_of_mem_packed placed member)
  have rows := rowsFrom_lineOf [] (words text.shown) fun w member => oneWord_of_mem_words member
  rw [lineOf_nil] at rows
  have body : bodyRows (printedLines (boxTop ++ rowsFrom "  " (words text.shown) ++ boxBottom)) =
      (packed [] (words text.shown)).map fun ws => row (lineOf ws) := by
    rw [rows]
    apply bodyRows_box
    rw [List.forall_mem_map]
    exact fun ws placed => newline_not_mem_row (whole ws placed)
  refine ⟨_, (packed [] (words text.shown)).map fun ws => padTo 56 (lineOf ws),
    runIn_showTranscript text s, ?_, ?_, ?_, ?_⟩
  · rw [body, rows]
  · rw [body, List.map_map]
    rfl
  · have readBack : (packed [] (words text.shown)).map (fun ws => words (padTo 56 (lineOf ws))) =
        packed [] (words text.shown) := by
      rw [List.map_congr_left fun ws placed => words_padTo_lineOf 56 (whole ws placed), List.map_id']
    rw [List.flatMap_map, List.flatMap_def, readBack, flatten_packed, List.nil_append]
  · rw [body]
    exact straight_iff _

end VoiceDebugger.Recorder.Live
