import VoiceDebugger.Intent.Extract
import VoiceDebugger.Proofs.Pattern.Seek
import VoiceDebugger.Proofs.Text.Pieces

/-!
Symbols in plain prose.

Where no phrasing asks for a symbol, names are looked for by how they are written. The pattern for
names with a capital inside does not tell the cases of letters apart, so it takes any word of three
letters, and of these the leftmost one.
-/

namespace VoiceDebugger

open Pattern Cursor

/-! ### The patterns for a name as it is written -/

/-- Letters, and at least three of them. -/
def threeLetters : Pattern :=
  all [some1 .anyLetter, .one .anyLetter, word]

/-- The pattern meant for a name with a capital inside. -/
def cappedName : Pattern :=
  all [.edge, .keep threeLetters, .edge]

def quotedName : Pattern :=
  all [quote, .keep word, quote]

def scoredName : Pattern :=
  all [.edge, .keep (all [some1 .anyLetter, .one (.only '_'), some1 .anyLetterOrScore]), .edge]

/-- The phrasings that ask for a symbol. -/
def symbolPhrasings : List Pattern :=
  symbolPatterns.take 7

theorem symbolPatterns_eq :
    symbolPatterns = symbolPhrasings ++ [quotedName, cappedName, scoredName] := rfl

/-- Whether a word is never taken for a symbol. -/
def isCommon (s : String) : Bool :=
  commonWords.contains (Text.lower s)

/-- The symbol that a pattern finds in a text. -/
def symbolBy (p : Pattern) (text : List Char) : Option String :=
  (p.firstKept? text).filter fun s => !isCommon s

theorem symbolIn_eq (text : List Char) :
    symbolIn text = symbolPatterns.findSome? fun p => symbolBy p text := by
  rw [symbolIn]
  congr 1
  funext p
  rw [symbolBy]
  cases p.firstKept? text with
  | none => rfl
  | some s =>
    simp only [Option.filter_some, isCommon]
    cases commonWords.contains (Text.lower s) <;> rfl

variable {text w tail : List Char} {c d : Cursor}

theorem symbolBy_of_not_occursIn {p : Pattern} (missing : p.occursIn text = false) :
    symbolBy p text = none := by
  rw [occursIn, Option.isSome_eq_false_iff, Option.isNone_iff_eq_none] at missing
  rw [symbolBy, firstKept?, missing]
  rfl

/-- What occurs in a text has been read from it. -/
theorem reads_of_occursIn {p : Pattern} (found : p.occursIn text = true) :
    ∃ read, p.Reads read ∧ read <:+: text := by
  obtain ⟨front, back, rfl, some⟩ := (occursIn_iff p text).mp found
  obtain ⟨d, member⟩ := List.exists_mem_of_ne_nil _ some
  obtain ⟨read, reads, moved⟩ := p.candidates_behind member
  refine ⟨read, reads, front, d.rest, ?_⟩
  rw [List.append_assoc, ← moved.rest]

theorem quotedName_missing (double : '"' ∉ text) (single : '\'' ∉ text) :
    quotedName.occursIn text = false := by
  by_contra found
  rw [Bool.not_eq_false] at found
  obtain ⟨read, ⟨_, more, rfl, ⟨x, rfl, holds⟩, -⟩, inside⟩ := reads_of_occursIn found
  have member : x ∈ text := inside.subset List.mem_cons_self
  rw [CharClass.contains, List.contains_iff_mem, List.mem_cons, List.mem_singleton] at holds
  rcases holds with rfl | rfl
  · exact double member
  · exact single member

theorem scoredName_missing (unscored : '_' ∉ text) : scoredName.occursIn text = false := by
  by_contra found
  rw [Bool.not_eq_false] at found
  obtain ⟨read, ⟨_, _, rfl, -, name, _, rfl, reads, -⟩, inside⟩ := reads_of_occursIn found
  obtain ⟨front, _, rfl, -, _, rest, rfl, ⟨x, rfl, holds⟩, -⟩ := reads
  rw [CharClass.contains, beq_iff_eq] at holds
  subst holds
  exact unscored (inside.subset (by simp))

/-! ### Words of three letters -/

theorem reads_threeLetters_iff (letters : ∀ x ∈ w, (smallLetter? x).isSome = true) :
    threeLetters.Reads w ↔ 3 ≤ w.length := by
  constructor
  · rintro ⟨front, _, rfl, first, _, last, rfl, ⟨y, rfl, -⟩, third⟩
    have one := List.length_pos_iff.mpr (reads_some1 first).1
    have other := List.length_pos_iff.mpr (reads_some1 third).1
    rw [List.length_append, List.length_append, List.length_singleton]
    omega
  · intro long
    obtain ⟨x, y, z, more, rfl⟩ : ∃ x y z more, w = x :: y :: z :: more := by
      rcases w with _ | ⟨x, _ | ⟨y, _ | ⟨z, more⟩⟩⟩
      · cases long
      · simp at long
      · simp at long
      · exact ⟨x, y, z, more, rfl⟩
    obtain ⟨first, second, rest⟩ : _ ∧ _ ∧ ∀ u ∈ z :: more, (smallLetter? u).isSome = true := by
      simpa only [List.forall_mem_cons] using letters
    have wordy : ∀ u ∈ z :: more, Text.isWordChar u = true := fun u member =>
      isWordChar_of_smallLetter? (rest u member)
    obtain ⟨third, others⟩ := List.forall_mem_cons.mp wordy
    exact ⟨[x], y :: z :: more, rfl, ⟨[x], [], rfl, ⟨x, rfl, first⟩, nofun⟩,
      [y], z :: more, rfl, ⟨y, rfl, second⟩, [z], more, rfl, ⟨z, rfl, third⟩, others⟩

/-- Edges on both sides leave the whole word only. -/
theorem cappedName_kept (here : c.AtWord w tail) (member : d ∈ cappedName.candidates c) :
    threeLetters.Reads w ∧ d.kept = c.kept ++ [(c.position, c.position + w.length)] := by
  obtain ⟨e, first, more⟩ := List.mem_flatMap.mp member
  obtain ⟨rfl, -⟩ := mem_edge_iff.mp first
  obtain ⟨f, kept, last⟩ := List.mem_flatMap.mp more
  obtain ⟨g, inside, rfl⟩ := List.mem_map.mp kept
  obtain ⟨rfl, edge⟩ := mem_edge_iff.mp last
  obtain ⟨read, reads, moved⟩ := threeLetters.candidates_behind inside
  have chars := threeLetters.reads_wordy (by decide) reads
  have written := threeLetters.reads_reading (by decide) reads
  have whole : e.AtWord read g.rest := ⟨moved.rest, chars, (moved.atEdge_iff written chars).mp edge⟩
  obtain rfl : read = w := whole.eq_takeWhile.trans here.eq_takeWhile.symm
  refine ⟨reads, ?_⟩
  rw [← moved.position, ← threeLetters.kept_of_keeping_nil (by decide) inside]

theorem cappedName_ne_nil (here : c.AtWord w tail) (apart : c.before.any Text.isWordChar = false)
    (reads : threeLetters.Reads w) : cappedName.candidates c ≠ [] := by
  have written := threeLetters.reads_reading (by decide) reads
  obtain ⟨g, inside, moved⟩ := candidates_of_reads threeLetters (by decide) reads here.rest
  have rest : g.rest = tail := (List.append_cancel_left (here.rest.symm.trans moved.rest)).symm
  have edge : g.atEdge = true := (moved.atEdge_iff written here.chars).mpr (rest ▸ here.apart)
  apply List.ne_nil_of_mem
  exact List.mem_flatMap.mpr ⟨c, mem_edge_iff.mpr ⟨rfl, here.atEdge written apart⟩,
    List.mem_flatMap.mpr ⟨_, List.mem_map_of_mem inside, mem_edge_iff.mpr ⟨rfl, edge⟩⟩⟩

/-- From the start of a text or the end of a word on, the first word of three letters is kept. -/
theorem keptFrom_cappedName (fresh : c.kept = []) (within : text.drop c.position = c.rest)
    (between : c.before.any Text.isWordChar = true → c.rest.head?.any Text.isWordChar = false)
    (plain : ∀ x ∈ c.rest, Text.isWordChar x = true → (smallLetter? x).isSome = true) :
    cappedName.keptFrom text c =
      (Text.wordRuns c.rest).find? fun run => decide (3 ≤ run.length) := by
  have starts : cappedName.startsWord = true := by decide
  induction size : c.rest.length using Nat.strongRecOn generalizing c with
  | ind size ih =>
  subst size
  have later : ∀ n, 0 < n → c.rest ≠ [] →
      ((c.skip n).before.any Text.isWordChar = true →
        (c.skip n).rest.head?.any Text.isWordChar = false) →
      cappedName.keptFrom text (c.skip n) =
        (Text.wordRuns (c.rest.drop n)).find? fun run => decide (3 ≤ run.length) := by
    intro n positive goesOn between
    refine ih (c.rest.drop n).length ?_ fresh ?_ between ?_ rfl
    · have := List.length_pos_iff.mpr goesOn
      rw [List.length_drop]
      omega
    · rw [skip_position, skip_rest, ← List.drop_drop, within]
    · exact fun x member => plain x (List.mem_of_mem_drop member)
  cases rest : c.rest with
  | nil =>
    rw [keptFrom, seek_end fresh (candidates_of_end starts rest) rest]
    rfl
  | cons x more =>
    have goesOn : c.rest ≠ [] := by
      rw [rest]
      exact List.cons_ne_nil x more
    by_cases word : Text.isWordChar x = true
    · -- The word that starts here is kept if it is long enough, and passed over if not.
      obtain ⟨w, tail, here, written⟩ : ∃ w tail, c.AtWord w tail ∧ w ≠ [] := by
        refine ⟨_, _, atWord_takeWhile c, ?_⟩
        rw [rest, List.takeWhile_cons, if_pos word]
        exact List.cons_ne_nil x _
      have apart : c.before.any Text.isWordChar = false := by
        by_contra inside
        have none := between (Bool.not_eq_false _ ▸ inside)
        rw [here.head_isWordChar written] at none
        cases none
      have letters : ∀ u ∈ w, (smallLetter? u).isSome = true := by
        intro u member
        exact plain u (here.rest ▸ List.mem_append_left tail member) (here.chars u member)
      rw [← rest, here.rest, Text.wordRuns_word_append written here.chars here.apart,
        List.find?_cons]
      by_cases long : 3 ≤ w.length
      · have some := cappedName_ne_nil here apart ((reads_threeLetters_iff letters).mpr long)
        obtain ⟨d, others, found⟩ := List.exists_cons_of_ne_nil some
        have kept := (cappedName_kept here (found ▸ List.mem_cons_self)).2
        rw [fresh, List.nil_append] at kept
        rw [decide_eq_true long]
        exact keptFrom_of_candidates fresh found ⟨c.position, tail, kept, within.trans here.rest⟩
      · have none : cappedName.candidates c = [] := by
          rw [List.eq_nil_iff_forall_not_mem]
          intro d member
          exact long ((reads_threeLetters_iff letters).mp (cappedName_kept here member).1)
        have behind : c.rest.drop w.length = tail := by rw [here.rest, List.drop_left]
        rw [decide_eq_false long, keptFrom, seek_past starts here fresh none, ← keptFrom,
          later w.length (List.length_pos_iff.mpr written) goesOn
            (fun _ => by rw [skip_rest, behind, here.apart]), behind]
    · rw [Bool.not_eq_true] at word
      have before : (c.skip 1).before.any Text.isWordChar = false := by
        rw [skip, rest]
        exact word
      rw [keptFrom, seek_apart starts fresh rest word, ← keptFrom, Text.wordRuns_cons_apart word,
        later 1 Nat.one_pos goesOn (fun word => by rw [before] at word; cases word), rest]
      rfl

/-! ### Prose -/

/-- Whether a text is made of small letters and spaces. -/
def isProse (text : List Char) : Bool :=
  text.all fun x => x == ' ' || ('a' ≤ x && x ≤ 'z')

theorem isProse_iff : isProse text = true ↔ ∀ x ∈ text, x = ' ' ∨ ('a' ≤ x ∧ x ≤ 'z') := by
  simp only [isProse, List.all_eq_true, Bool.or_eq_true, beq_iff_eq, Bool.and_eq_true,
    decide_eq_true_eq]

/-- The first word of three letters or more. -/
def firstLongWord (text : List Char) : Option String :=
  ((Text.wordRuns text).find? fun run => decide (3 ≤ run.length)).map String.ofList

theorem classes_of_small {x : Char} (small : 'a' ≤ x ∧ x ≤ 'z') :
    smallLetter? x = some x ∧ Text.lowerChar x = x ∧ x.toNat < 128 := by
  have low : x.toNat ≤ 122 := UInt32.le_iff_toNat_le.mp small.2
  have known := Text.of_ascii
    (fun x => 'a' ≤ x ∧ x ≤ 'z' → smallLetter? x = some x ∧ Text.lowerChar x = x)
    (by decide) (by omega : x.toNat < 128) small
  exact ⟨known.1, known.2, by omega⟩

/-- Small letters stay as they are in lower case. -/
theorem lowerFrom_small {cs : List Char} (small : ∀ x ∈ cs, 'a' ≤ x ∧ x ≤ 'z')
    (before : List Char) : Text.lowerFrom before cs = cs := by
  induction cs generalizing before with
  | nil => rfl
  | cons x cs ih =>
    obtain ⟨first, more⟩ := List.forall_mem_cons.mp small
    obtain ⟨-, same, low⟩ := classes_of_small first
    have dotted : (x.toNat == 0x130) = false := by
      rw [beq_eq_false_iff_ne]
      omega
    have sigma : (x.toNat == 0x3A3) = false := by
      rw [beq_eq_false_iff_ne]
      omega
    rw [Text.lowerFrom, ih more, same, dotted, sigma]
    rfl

theorem not_mem_of_prose {x : Char} (prose : isProse text = true)
    (other : x ≠ ' ' ∧ ¬ ('a' ≤ x ∧ x ≤ 'z')) : x ∉ text := by
  intro member
  rcases isProse_iff.mp prose x member with space | small
  · exact other.1 space
  · exact other.2 small

/-- Unasked, prose names its first long word, common or not. -/
theorem symbolIn_prose (prose : isProse text = true)
    (unasked : ∀ p ∈ symbolPhrasings, p.occursIn text = false) :
    symbolIn text = (firstLongWord text).filter fun s => !isCommon s := by
  have phrasings : symbolPhrasings.findSome? (fun p => symbolBy p text) = none := by
    rw [List.findSome?_eq_none_iff]
    exact fun p member => symbolBy_of_not_occursIn (unasked p member)
  have quoted := symbolBy_of_not_occursIn
    (quotedName_missing (not_mem_of_prose prose (by decide)) (not_mem_of_prose prose (by decide)))
  have scored := symbolBy_of_not_occursIn (scoredName_missing (not_mem_of_prose prose (by decide)))
  have capped : cappedName.firstKept? text = firstLongWord text := by
    rw [firstKept?_eq_keptFrom, keptFrom_cappedName rfl List.drop_zero (fun no => by cases no)]
    · rfl
    · intro x member word
      rcases isProse_iff.mp prose x member with rfl | small
      · revert word
        decide
      · rw [(classes_of_small small).1]
        rfl
  rw [symbolIn_eq, symbolPatterns_eq, List.findSome?_append, phrasings, Option.none_or,
    List.findSome?_cons, quoted, List.findSome?_cons, symbolBy, capped, List.findSome?_cons, scored,
    List.findSome?_nil]
  cases (firstLongWord text).filter fun s => !isCommon s <;> rfl

/-- The words of prose are in lower case. -/
theorem isCommon_of_prose (prose : isProse text = true) {s : String}
    (long : firstLongWord text = some s) : isCommon s = true ↔ s ∈ commonWords := by
  obtain ⟨run, found, rfl⟩ := Option.map_eq_some_iff.mp long
  obtain ⟨chars, inside⟩ := Text.of_mem_wordRuns (List.mem_of_find?_eq_some found)
  have small : ∀ x ∈ run, 'a' ≤ x ∧ x ≤ 'z' := by
    intro x member
    rcases isProse_iff.mp prose x (inside.subset member) with rfl | small
    · exact absurd (chars ' ' member) (by decide)
    · exact small
  rw [isCommon, List.contains_iff_mem, Text.lower, String.toList_ofList, lowerFrom_small small]

/-- Plain prose in which no phrasing asks for a symbol names none just if its first word of three
letters or more is common, or there is no such word. Any other such word is what it names. -/
theorem prose_names_iff (text : String) (prose : isProse text.toList = true)
    (unasked : ∀ p ∈ symbolPatterns.take 7, p.occursIn text.toList = false) :
    (symbolIn text.toList = none ↔
      ∀ s, firstLongWord text.toList = some s → s ∈ commonWords) ∧
    ∀ s, symbolIn text.toList = some s ↔
      firstLongWord text.toList = some s ∧ s ∉ commonWords := by
  rw [symbolIn_prose prose unasked]
  have common : ∀ s, firstLongWord text.toList = some s →
      ((!isCommon s) = true ↔ s ∉ commonWords) := by
    intro s long
    rw [Bool.not_eq_true', ← Bool.not_eq_true, isCommon_of_prose prose long]
  constructor
  · rw [Option.filter_eq_none_iff]
    constructor
    · intro none s long
      by_contra other
      exact none s long ((common s long).mpr other)
    · intro all s long other
      exact (common s long).mp other (all s long)
  · intro s
    rw [Option.filter_eq_some_iff]
    constructor
    · rintro ⟨long, other⟩
      exact ⟨long, (common s long).mp other⟩
    · rintro ⟨long, other⟩
      exact ⟨long, (common s long).mpr other⟩

theorem prose_names_iff_allWell :
    isProse "is all well now".toList = true ∧
    (∀ p ∈ symbolPatterns.take 7, p.occursIn "is all well now".toList = false) ∧
    symbolIn "is all well now".toList = none := by
  have prose : isProse "is all well now".toList = true := by decide +kernel
  have unasked : ∀ p ∈ symbolPatterns.take 7, p.occursIn "is all well now".toList = false := by
    decide +kernel
  have long : firstLongWord "is all well now".toList = some "all" := by decide +kernel
  refine ⟨prose, unasked, (prose_names_iff _ prose unasked).1.mpr ?_⟩
  intro s found
  obtain rfl : "all" = s := Option.some.inj (long.symm.trans found)
  decide

/-- An ordinary word of plain prose is taken for a symbol. -/
theorem prose_names_open :
    isProse "open it now".toList = true ∧
    (∀ p ∈ symbolPatterns.take 7, p.occursIn "open it now".toList = false) ∧
    symbolIn "open it now".toList = some "open" := by
  decide +kernel

end VoiceDebugger
