import VoiceDebugger.Proofs.Pattern.Surrounded
import VoiceDebugger.Proofs.Pattern.Wordy

/-!
Following a pattern along the words of a text.

Most patterns are written as an edge, a word out of a list, a gap, and so on. At the start of a word
each of these parts has candidates that can be listed, so that a pattern can be followed part by
part through a text of which only some words are known.
-/

namespace VoiceDebugger

namespace Cursor

variable {c d : Cursor} {w tail : List Char}

/-- The cursor behind the next characters. -/
def skip (n : Nat) (c : Cursor) : Cursor :=
  ⟨c.position + n, (c.rest.take n).getLast?.or c.before, c.rest.drop n, c.kept⟩

/-- The cursor behind the next characters, which are kept. -/
def keepNext (n : Nat) (c : Cursor) : Cursor :=
  { c.skip n with kept := c.kept ++ [(c.position, c.position + n)] }

@[simp] theorem skip_kept (n : Nat) (c : Cursor) : (c.skip n).kept = c.kept := rfl

@[simp] theorem skip_rest (n : Nat) (c : Cursor) : (c.skip n).rest = c.rest.drop n := rfl

@[simp] theorem skip_position (n : Nat) (c : Cursor) : (c.skip n).position = c.position + n := rfl

@[simp] theorem keepNext_rest (n : Nat) (c : Cursor) : (c.keepNext n).rest = c.rest.drop n := rfl

@[simp] theorem keepNext_position (n : Nat) (c : Cursor) :
    (c.keepNext n).position = c.position + n := rfl

@[simp] theorem keepNext_kept (n : Nat) (c : Cursor) :
    (c.keepNext n).kept = c.kept ++ [(c.position, c.position + n)] := rfl

@[simp] theorem skip_zero (c : Cursor) : c.skip 0 = c := rfl

theorem skip_skip (m n : Nat) (c : Cursor) : (c.skip m).skip n = c.skip (m + n) := by
  simp only [skip, List.drop_drop, List.take_add, List.getLast?_append, Option.or_assoc,
    Nat.add_assoc]

/-- The characters up to the next one that is in no word are known, and so is what follows. -/
structure AtWord (w tail : List Char) (c : Cursor) : Prop where
  rest : c.rest = w ++ tail
  chars : ∀ x ∈ w, Text.isWordChar x = true
  apart : tail.head?.any Text.isWordChar = false

theorem atWord_takeWhile (c : Cursor) :
    c.AtWord (c.rest.takeWhile Text.isWordChar) (c.rest.dropWhile Text.isWordChar) where
  rest := List.takeWhile_append_dropWhile.symm
  chars := List.all_eq_true.mp List.all_takeWhile
  apart := by
    have stops := List.head?_dropWhile_not Text.isWordChar c.rest
    cases first : (c.rest.dropWhile Text.isWordChar).head? with
    | none => rfl
    | some x => rwa [first] at stops

/-- The word is the longest one that starts here. -/
theorem AtWord.eq_takeWhile (here : c.AtWord w tail) : w = c.rest.takeWhile Text.isWordChar := by
  have none : tail.takeWhile Text.isWordChar = [] := by
    cases tail with
    | nil => rfl
    | cons x tail =>
      have stops : Text.isWordChar x = false := here.apart
      rw [List.takeWhile_cons, stops]
      rfl
  rw [here.rest, List.takeWhile_append_of_pos here.chars, none, List.append_nil]

/-- Behind a part of a word stands the rest of it. -/
theorem AtWord.skip (here : c.AtWord w tail) {n : Nat} (within : n ≤ w.length) :
    (c.skip n).AtWord (w.drop n) tail where
  rest := by rw [skip_rest, here.rest, List.drop_append_of_le_length within]
  chars x member := here.chars x (List.mem_of_mem_drop member)
  apart := here.apart

theorem AtWord.rest_ne_nil {x : Char} (here : c.AtWord (x :: w) tail) : c.rest ≠ [] := by
  rw [here.rest]
  exact List.cons_ne_nil x (w ++ tail)

/-- Behind the first character of a word is no start of another one. -/
theorem AtWord.skip_before {x : Char} (here : c.AtWord (x :: w) tail) :
    (c.skip 1).before.any Text.isWordChar = true := by
  rw [Cursor.skip, here.rest]
  exact here.chars x List.mem_cons_self

theorem AtWord.head_isWordChar (here : c.AtWord w tail) (written : w ≠ []) :
    c.rest.head?.any Text.isWordChar = true := by
  obtain ⟨x, w, rfl⟩ := List.exists_cons_of_ne_nil written
  rw [here.rest]
  exact here.chars x List.mem_cons_self

/-- A word starts at an edge if none goes on there. -/
theorem AtWord.atEdge (here : c.AtWord w tail) (written : w ≠ [])
    (apart : c.before.any Text.isWordChar = false) : c.atEdge = true := by
  rw [Cursor.atEdge, here.head_isWordChar written, apart]
  rfl

/-- Behind a word character is an edge just where no other one follows. -/
theorem Behind.atEdge_of_last {read : List Char} (moved : Behind c read d)
    (last : read.getLast?.any Text.isWordChar = true) :
    d.atEdge = true ↔ d.rest.head?.any Text.isWordChar = false := by
  have before : d.before.any Text.isWordChar = true := by
    rw [moved.before]
    cases final : read.getLast? with
    | none =>
      rw [final] at last
      cases last
    | some x =>
      rw [final] at last
      exact last
  rw [Cursor.atEdge, before, bne_iff_ne, ne_comm, ne_eq, Bool.not_eq_true]

/-- Behind some characters of a word is an edge just where the word ends. -/
theorem Behind.atEdge_iff (moved : Behind c w d) (written : w ≠ [])
    (chars : ∀ x ∈ w, Text.isWordChar x = true) :
    d.atEdge = true ↔ d.rest.head?.any Text.isWordChar = false := by
  apply moved.atEdge_of_last
  rw [List.getLast?_eq_some_getLast written]
  exact chars _ (List.getLast_mem written)

/-- What begins with a word character does not begin with a blank. -/
theorem head_not_blank {cs : List Char} (word : cs.head?.any Text.isWordChar = true) :
    cs.head?.any Text.isBlank = false := by
  cases cs with
  | nil => rfl
  | cons x cs =>
    rw [List.head?_cons, Option.any_some] at word ⊢
    by_contra blank
    rw [Bool.not_eq_false] at blank
    rw [Text.isWordChar_of_isBlank blank] at word
    cases word

theorem runs_of_stop {k : CharClass} {rest : List Char} (kept : List (Nat × Nat))
    (shorter : List Cursor) (position : Nat) (before : Option Char)
    (stops : rest.head?.any k.contains = false) :
    runs k kept shorter position before rest = ⟨position, before, rest, kept⟩ :: shorter := by
  cases rest with
  | nil => rfl
  | cons x rest =>
    rw [List.head?_cons, Option.any_some] at stops
    rw [runs, stops]
    rfl

/-- Where a run of a class ends, the longest one comes first, and behind each other one the class
goes on. -/
theorem runs_of_run {k : CharClass} {run tail : List Char} (kept : List (Nat × Nat))
    (shorter : List Cursor) (position : Nat) (before : Option Char)
    (all : ∀ x ∈ run, k.contains x = true) (ends : tail.head?.any k.contains = false) :
    ∃ others, runs k kept shorter position before (run ++ tail) =
        (⟨position, before, run ++ tail, kept⟩ : Cursor).skip run.length :: (others ++ shorter) ∧
      ∀ e ∈ others, e.rest.head?.any k.contains = true := by
  induction run generalizing shorter position before with
  | nil => exact ⟨[], runs_of_stop kept shorter position before ends, nofun⟩
  | cons x run ih =>
    obtain ⟨first, more⟩ := List.forall_mem_cons.mp all
    obtain ⟨others, listed, goesOn⟩ :=
      ih (⟨position, before, x :: (run ++ tail), kept⟩ :: shorter) (position + 1) (some x) more
    refine ⟨others ++ [⟨position, before, x :: (run ++ tail), kept⟩], ?_, ?_⟩
    · rw [List.cons_append, runs, if_pos first, listed, List.append_assoc, List.singleton_append]
      have step : (⟨position + 1, some x, run ++ tail, kept⟩ : Cursor) =
          (⟨position, before, x :: (run ++ tail), kept⟩ : Cursor).skip 1 := rfl
      rw [step, skip_skip, List.length_cons, Nat.add_comm 1]
    · intro e member
      rcases List.mem_append.mp member with member | member
      · exact goesOn e member
      · rw [List.mem_singleton.mp member]
        exact first

/-- Each part of a run is a run. -/
theorem runs_of_reads {k : CharClass} {kept : List (Nat × Nat)} {shorter : List Cursor}
    {position : Nat} {before : Option Char} {rest read tail : List Char}
    (all : ∀ x ∈ read, k.contains x = true) (here : rest = read ++ tail) :
    ∃ d ∈ runs k kept shorter position before rest,
      Behind ⟨position, before, rest, kept⟩ read d := by
  subst here
  induction read generalizing shorter position before with
  | nil => exact ⟨_, here_mem_runs k kept shorter position before tail, .refl _⟩
  | cons x read ih =>
    obtain ⟨first, more⟩ := List.forall_mem_cons.mp all
    rw [List.cons_append, runs, if_pos first]
    obtain ⟨d, found, moved⟩ := ih more
    have step : Behind ⟨position, before, x :: (read ++ tail), kept⟩ [x]
        ⟨position + 1, some x, read ++ tail, kept⟩ := ⟨rfl, rfl, rfl⟩
    exact ⟨d, found, step.trans moved⟩

/-- All that a cursor has kept is one place of a text, with some characters there. -/
def Keeps (text read : List Char) (d : Cursor) : Prop :=
  ∃ position tail, d.kept = [(position, position + read.length)] ∧
    text.drop position = read ++ tail

theorem Keeps.slice_eq {text read : List Char} (keeps : d.Keeps text read) :
    d.kept.head?.map (Pattern.slice text) = some read := by
  obtain ⟨position, tail, kept, here⟩ := keeps
  rw [kept, List.head?_cons, Option.map_some, Pattern.slice_of_drop here]

/-! ### Words with single spaces between them -/

/-- Words with a space before each. -/
def gapped (ws : List (List Char)) : List Char :=
  ws.flatMap fun w => ' ' :: w

theorem mem_gapped {ws : List (List Char)} {y : Char} (member : y ∈ gapped ws) :
    y = ' ' ∨ ∃ u ∈ ws, y ∈ u := by
  obtain ⟨u, listed, inside⟩ := List.mem_flatMap.mp member
  rcases List.mem_cons.mp inside with space | inside
  · exact .inl space
  · exact .inr ⟨u, listed, inside⟩

/-- A cursor stands in a text before a word or a part of one, and some more words end the text. -/
structure AtWords (text w : List Char) (ws : List (List Char)) (c : Cursor) : Prop where
  within : text.drop c.position = c.rest
  rest : c.rest = w ++ gapped ws
  chars : ∀ x ∈ w, Text.isWordChar x = true
  others : ∀ u ∈ ws, u ≠ [] ∧ ∀ x ∈ u, Text.isWordChar x = true

variable {text u : List Char} {ws : List (List Char)}

theorem AtWords.atWord (here : c.AtWords text w ws) : c.AtWord w (gapped ws) where
  rest := here.rest
  chars := here.chars
  apart := by cases ws <;> rfl

theorem AtWords.skip (here : c.AtWords text w ws) {n : Nat} (inside : n ≤ w.length) :
    (c.skip n).AtWords text (w.drop n) ws where
  within := by rw [skip_position, skip_rest, ← List.drop_drop, here.within]
  rest := (here.atWord.skip inside).rest
  chars := (here.atWord.skip inside).chars
  others := here.others

/-- Behind the word and the space stands the next word. -/
theorem AtWords.next (here : c.AtWords text w (u :: ws)) :
    (c.skip (w.length + 1)).AtWords text u ws where
  within := by rw [skip_position, skip_rest, ← List.drop_drop, here.within]
  rest := by
    rw [skip_rest, here.rest, ← List.drop_drop, List.drop_left]
    rfl
  chars := (here.others u List.mem_cons_self).2
  others v member := here.others v (List.mem_cons_of_mem u member)

theorem AtWords.behind_space (here : c.AtWords text [] (u :: ws)) :
    (c.skip 1).AtWords text u ws :=
  here.next

/-- The next word starts at an edge. -/
theorem AtWords.next_atEdge (here : c.AtWords text w (u :: ws)) :
    (c.skip (w.length + 1)).atEdge = true := by
  have before : (c.skip (w.length + 1)).before = some ' ' := by
    rw [Cursor.skip, here.rest, List.take_add, List.getLast?_append, List.drop_left]
    rfl
  refine here.next.atWord.atEdge (here.others u List.mem_cons_self).1 ?_
  rw [before]
  decide

/-- What is kept does not change where a cursor stands. -/
theorem AtWords.keepNext (here : c.AtWords text w ws) :
    (c.keepNext w.length).AtWords text [] ws where
  within := by rw [keepNext_position, keepNext_rest, ← List.drop_drop, here.within]
  rest := by rw [keepNext_rest, here.rest, List.drop_left, List.nil_append]
  chars := nofun
  others := here.others

theorem AtWords.keeps (here : c.AtWords text w ws) (fresh : c.kept = [])
    (kept : d.kept = (c.keepNext w.length).kept) : d.Keeps text w := by
  refine ⟨c.position, gapped ws, ?_, here.within.trans here.rest⟩
  rw [kept, keepNext_kept, fresh, List.nil_append]

/-- The next word is no gap. -/
theorem AtWords.rest_solid (here : c.AtWords text w ws) (written : w ≠ []) :
    c.rest.head?.any Text.isBlank = false :=
  head_not_blank (here.atWord.head_isWordChar written)

end Cursor

namespace Pattern

open Cursor

variable {c d : Cursor} {w tail : List Char} {ps : List Pattern}

/-! ### Parts one behind another -/

theorem candidates_all_cons (p : Pattern) (ps : List Pattern) (c : Cursor) :
    (all (p :: ps)).candidates c = (p.candidates c).flatMap (all ps).candidates := by
  cases ps with
  | nil => exact (List.flatMap_singleton' (p.candidates c)).symm
  | cons q ps => rfl

theorem candidates_anyOf (ps : List Pattern) (c : Cursor) :
    (anyOf ps).candidates c = ps.flatMap fun p => p.candidates c := by
  induction ps with
  | nil =>
    rw [anyOf, candidates]
    cases c.rest <;> rfl
  | cons p ps ih =>
    cases ps with
    | nil => rw [anyOf, List.flatMap_cons, List.flatMap_nil, List.append_nil]
    | cons q ps =>
      rw [List.flatMap_cons, ← ih]
      rfl

theorem candidates_one (k : CharClass) (c : Cursor) :
    (one k).candidates c = if c.rest.head?.any k.contains then [c.skip 1] else [] := by
  obtain ⟨position, before, rest, kept⟩ := c
  cases rest with
  | nil => rfl
  | cons x rest => rfl

theorem mem_edge_iff : d ∈ Pattern.edge.candidates c ↔ d = c ∧ c.atEdge = true := by
  rw [candidates]
  split
  · next edge => rw [List.mem_singleton, edge, eq_self, and_true]
  · next edge =>
    constructor
    · intro member
      cases member
    · rintro ⟨-, here⟩
      exact absurd here edge

/-! ### Words out of a list -/

/-- Whether a text begins with some small letters, in either case. -/
def spelled (letters cs : List Char) : Bool :=
  (letters.map some).isPrefixOf (cs.map smallLetter?)

theorem spelled_iff {letters cs : List Char} :
    spelled letters cs = true ↔ letters.map some <+: cs.map smallLetter? :=
  List.isPrefixOf_iff_prefix

theorem spelled_nil (cs : List Char) : spelled [] cs = true := List.isPrefixOf_nil_left

theorem spelled_cons {x y : Char} {letters cs : List Char} :
    spelled (x :: letters) (y :: cs) = (some x == smallLetter? y && spelled letters cs) := rfl

theorem length_le_of_spelled {letters cs : List Char} (here : spelled letters cs = true) :
    letters.length ≤ cs.length := by
  have fits := (spelled_iff.mp here).length_le
  rwa [List.length_map, List.length_map] at fits

/-- Whether a word is written in small letters only. -/
def isSmall (s : String) : Bool :=
  s.toList.all fun x => 'a' ≤ x && x ≤ 'z'

theorem ofChar_small {x : Char} (small : ('a' ≤ x && x ≤ 'z') = true) :
    ofChar x = one (.letter x) := by
  have space : (x == ' ') = false := by
    rw [beq_eq_false_iff_ne]
    rintro rfl
    revert small
    decide
  rw [ofChar, space, if_neg Bool.false_ne_true, if_pos small]

theorem contains_letter_small {x : Char} (small : ('a' ≤ x && x ≤ 'z') = true) :
    CharClass.contains (.letter x) x = true := by
  obtain ⟨low, high⟩ := Bool.and_eq_true_iff.mp small
  have low : 97 ≤ x.toNat := UInt32.le_iff_toNat_le.mp (of_decide_eq_true low)
  have high : x.toNat ≤ 122 := UInt32.le_iff_toNat_le.mp (of_decide_eq_true high)
  rw [CharClass.contains, smallLetter?]
  simp only [low, high, decide_true, Bool.and_self, ↓reduceIte, beq_self_eq_true]

theorem candidates_letters {letters : List Char}
    (small : ∀ x ∈ letters, ('a' ≤ x && x ≤ 'z') = true) (c : Cursor) :
    (all (letters.map ofChar)).candidates c =
      if spelled letters c.rest then [c.skip letters.length] else [] := by
  induction letters generalizing c with
  | nil => rfl
  | cons x letters ih =>
    obtain ⟨first, more⟩ := List.forall_mem_cons.mp small
    have letter := ofChar_small first
    rw [List.map_cons, candidates_all_cons, letter, candidates_one]
    obtain ⟨position, before, rest, kept⟩ := c
    cases rest with
    | nil => rfl
    | cons y rest =>
      rw [spelled_cons]
      by_cases same : smallLetter? y = some x
      · have head : CharClass.contains (.letter x) y = true := by
          rw [CharClass.contains, same, beq_self_eq_true]
        rw [List.head?_cons, Option.any_some, if_pos head, List.flatMap_singleton, ih more, same,
          beq_self_eq_true, Bool.true_and, skip_skip, List.length_cons, Nat.add_comm 1]
        rfl
      · have head : CharClass.contains (.letter x) y = false := by
          rw [CharClass.contains, beq_eq_false_iff_ne]
          exact same
        have other : (some x == smallLetter? y) = false := by
          rw [beq_eq_false_iff_ne]
          exact Ne.symm same
        rw [List.head?_cons, Option.any_some, head, other]
        rfl

theorem candidates_phrases {ss : List String} (small : ss.all isSmall = true) (c : Cursor) :
    (phrases ss).candidates c =
      (ss.filter (spelled ·.toList c.rest)).map fun s => c.skip s.toList.length := by
  rw [phrases, candidates_anyOf, List.flatMap_map]
  induction ss with
  | nil => rfl
  | cons s ss ih =>
    obtain ⟨first, more⟩ := Bool.and_eq_true_iff.mp small
    have known : (phrase s).candidates c =
        if spelled s.toList c.rest then [c.skip s.toList.length] else [] :=
      candidates_letters (List.all_eq_true.mp first) c
    rw [List.flatMap_cons, ih more, known, List.filter_cons]
    split <;> rfl

theorem reads_all_cons {p : Pattern} {front back : List Char} (first : p.Reads front)
    (others : (all ps).Reads back) : (all (p :: ps)).Reads (front ++ back) := by
  cases ps with
  | nil =>
    obtain rfl : back = [] := others
    rwa [List.append_nil]
  | cons q ps => exact ⟨front, back, rfl, first, others⟩

theorem reads_anyOf {p : Pattern} {read : List Char} (listed : p ∈ ps) (reads : p.Reads read) :
    (anyOf ps).Reads read := by
  induction ps with
  | nil => cases listed
  | cons q ps ih =>
    cases ps with
    | nil =>
      rw [List.mem_singleton.mp listed] at reads
      exact reads
    | cons r ps =>
      rcases List.mem_cons.mp listed with rfl | listed
      · exact .inl reads
      · exact .inr (ih listed)

theorem reads_letters {letters : List Char}
    (small : ∀ x ∈ letters, ('a' ≤ x && x ≤ 'z') = true) :
    (all (letters.map ofChar)).Reads letters := by
  induction letters with
  | nil => rfl
  | cons x letters ih =>
    obtain ⟨first, more⟩ := List.forall_mem_cons.mp small
    have head : (ofChar x).Reads [x] := by
      rw [ofChar_small first]
      exact ⟨x, rfl, contains_letter_small first⟩
    exact reads_all_cons head (ih more)

/-- Each of the words can be read as it is listed. -/
theorem reads_phrases {ss : List String} {s : String} (small : ss.all isSmall = true)
    (listed : s ∈ ss) : (phrases ss).Reads s.toList :=
  reads_anyOf (List.mem_map_of_mem listed)
    (reads_letters (List.all_eq_true.mp (List.all_eq_true.mp small s listed)))

/-- Letters are looked for within one word. -/
theorem spelled_append (letters : List Char) (apart : tail.head?.any Text.isWordChar = false) :
    spelled letters (w ++ tail) = spelled letters w := by
  induction letters generalizing w with
  | nil => rw [spelled_nil, spelled_nil]
  | cons x letters ih =>
    cases w with
    | cons y w => rw [List.cons_append, spelled_cons, spelled_cons, ih]
    | nil =>
      cases tail with
      | nil => rfl
      | cons y tail =>
        have other : (some x == smallLetter? y) = false := by
          rw [beq_eq_false_iff_ne]
          intro same
          have word := isWordChar_of_smallLetter? (same ▸ rfl : (smallLetter? y).isSome = true)
          rw [List.head?_cons, Option.any_some, word] at apart
          cases apart
        rw [List.nil_append, spelled_cons, other]
        rfl

/-! ### Following a pattern -/

theorem follow_edge (edge : c.atEdge = true) :
    (all (.edge :: ps)).candidates c = (all ps).candidates c := by
  rw [candidates_all_cons, candidates, if_pos edge, List.flatMap_singleton]

/-- One of some words is read where the word that stands there begins with it. -/
theorem follow_phrases {ss : List String} (small : ss.all isSmall = true)
    (here : c.AtWord w tail) :
    (all (phrases ss :: ps)).candidates c =
      (ss.filter (spelled ·.toList w)).flatMap fun s =>
        (all ps).candidates (c.skip s.toList.length) := by
  have within : ss.filter (spelled ·.toList c.rest) = ss.filter (spelled ·.toList w) := by
    apply List.filter_congr
    intro s _
    rw [here.rest, spelled_append s.toList here.apart]
  rw [candidates_all_cons, candidates_phrases small, within, List.flatMap_map]

/-- Words that need not be there are tried first. -/
theorem follow_phrases? {ss : List String} (small : ss.all isSmall = true)
    (here : c.AtWord w tail) :
    (all (phrases? ss :: ps)).candidates c =
      ((ss.filter (spelled ·.toList w)).flatMap fun s =>
        (all ps).candidates (c.skip s.toList.length)) ++ (all ps).candidates c := by
  rw [← follow_phrases small here, candidates_all_cons, candidates_all_cons, phrases?, maybe,
    candidates, candidates, List.flatMap_append, List.flatMap_singleton]

theorem candidates_many_of_stop {k : CharClass} (stops : c.rest.head?.any k.contains = false) :
    (many k).candidates c = [c] :=
  runs_of_stop c.kept [] c.position c.before stops

theorem follow_gap? (solid : c.rest.head?.any Text.isBlank = false) :
    (all (gap? :: ps)).candidates c = (all ps).candidates c := by
  have here : gap?.candidates c = [c] := candidates_many_of_stop (k := .blank) solid
  rw [candidates_all_cons, here, List.flatMap_singleton]

/-- A single space is read first, and then not. -/
theorem follow_gap?_space {text u : List Char} {ws : List (List Char)}
    (here : c.AtWords text [] (u :: ws)) :
    (all (gap? :: ps)).candidates c =
      (all ps).candidates (c.skip 1) ++ (all ps).candidates c := by
  have solid := here.behind_space.rest_solid (here.others u List.mem_cons_self).1
  have both : gap?.candidates c = [c.skip 1, c] := by
    have space : CharClass.contains .blank ' ' = true := by decide
    have rest := here.rest
    obtain ⟨position, before, _, kept⟩ := c
    obtain rfl := rest
    rw [gap?, candidates, gapped, List.flatMap_cons, List.nil_append, List.cons_append, runs,
      if_pos space]
    exact runs_of_stop (k := .blank) kept _ (position + 1) (some ' ') solid
  rw [candidates_all_cons, both, List.flatMap_cons, List.flatMap_singleton]

theorem follow_gap_solid (solid : c.rest.head?.any Text.isBlank = false) :
    (all (gap :: ps)).candidates c = [] := by
  have none : gap.candidates c = [] := by
    have stops : c.rest.head?.any (CharClass.contains .blank) = false := solid
    rw [gap, some1, candidates, candidates_one, stops]
    rfl
  rw [candidates_all_cons, none, List.flatMap_nil]

theorem follow_gap {text u : List Char} {ws : List (List Char)}
    (here : c.AtWords text [] (u :: ws)) :
    (all (gap :: ps)).candidates c = (all ps).candidates (c.skip 1) := by
  have one : gap.candidates c = [c.skip 1] := by
    have space : c.rest.head?.any (CharClass.contains .blank) = true := by
      rw [here.rest]
      exact (by decide : Text.isBlank ' ' = true)
    have solid := here.behind_space.rest_solid (here.others u List.mem_cons_self).1
    rw [gap, some1, candidates, candidates_one, if_pos space, List.flatMap_singleton]
    exact candidates_many_of_stop (k := .blank) solid
  rw [candidates_all_cons, one, List.flatMap_singleton]

theorem follow_word_apart (apart : c.rest.head?.any Text.isWordChar = false) :
    (all (.keep word :: ps)).candidates c = [] := by
  have none : (keep word).candidates c = [] := by
    have stops : c.rest.head?.any (CharClass.contains .wordChar) = false := apart
    rw [candidates, word, some1, candidates, candidates_one, stops]
    rfl
  rw [candidates_all_cons, none, List.flatMap_nil]

/-- A run that ends is read to its end first, and behind any other candidate it goes on. -/
theorem candidates_some1 {k : CharClass} {run : List Char} (written : run ≠ [])
    (chars : ∀ x ∈ run, k.contains x = true) (ends : tail.head?.any k.contains = false)
    (here : c.rest = run ++ tail) :
    ∃ others, (some1 k).candidates c = c.skip run.length :: others ∧
      ∀ e ∈ others, e.rest.head?.any k.contains = true := by
  obtain ⟨x, run, rfl⟩ := List.exists_cons_of_ne_nil written
  obtain ⟨first, more⟩ := List.forall_mem_cons.mp chars
  have rest : (c.skip 1).rest = run ++ tail := by
    rw [skip_rest, here]
    rfl
  obtain ⟨others, listed, goesOn⟩ :=
    runs_of_run c.kept [] (c.position + 1) (c.skip 1).before more ends
  refine ⟨others, ?_, goesOn⟩
  have holds : c.rest.head?.any k.contains = true := by
    rw [here]
    exact first
  rw [some1, candidates, candidates_one, if_pos holds, List.flatMap_singleton, candidates, rest]
  rw [List.append_nil] at listed
  refine listed.trans (congrArg (· :: others) ?_)
  rw [← rest]
  exact (skip_skip 1 run.length c).trans (congrArg (c.skip ·) (Nat.add_comm 1 run.length))

/-- A word that a gap must follow is read to its end. -/
theorem follow_word (here : c.AtWord w tail) (written : w ≠ []) :
    (all (.keep word :: gap :: ps)).candidates c =
      (all (gap :: ps)).candidates (c.keepNext w.length) := by
  obtain ⟨others, longest, goesOn⟩ :=
    candidates_some1 (k := .wordChar) written here.chars here.apart here.rest
  rw [candidates_all_cons, candidates, word, longest, List.map_cons, List.flatMap_cons]
  -- Behind a part of the word no gap can follow.
  have none : (others.map fun d => { d with kept := d.kept ++ [(c.position, d.position)] }).flatMap
      (all (gap :: ps)).candidates = [] := by
    rw [List.flatMap_eq_nil_iff]
    intro e member
    obtain ⟨d, other, rfl⟩ := List.mem_map.mp member
    exact follow_gap_solid (head_not_blank (goesOn d other))
  rw [none, List.append_nil]
  rfl

section

variable {text u : List Char} {ws : List (List Char)}

/-- The word before a gap is read if it is one of those asked for. -/
theorem follow_opening {ss : List String} {s : String} (small : ss.all isSmall = true)
    (here : c.AtWords text w (u :: ws)) (edge : c.atEdge = true)
    (only : ss.filter (spelled ·.toList w) = [s]) (whole : s.toList = w) :
    (all (.edge :: phrases ss :: gap :: ps)).candidates c =
      (all ps).candidates (c.skip (w.length + 1)) := by
  have behind : (c.skip w.length).AtWords text [] (u :: ws) := by
    have skipped := here.skip (Nat.le_refl w.length)
    rwa [List.drop_length] at skipped
  rw [follow_edge edge, follow_phrases small here.atWord, only, List.flatMap_singleton, whole,
    follow_gap behind, skip_skip]

theorem follow_opening_none {ss : List String} (small : ss.all isSmall = true)
    (here : c.AtWords text w ws) (none : ss.filter (spelled ·.toList w) = []) :
    (all (.edge :: phrases ss :: ps)).candidates c = [] := by
  by_cases edge : c.atEdge = true
  · rw [follow_edge edge, follow_phrases small here.atWord, none, List.flatMap_nil]
  · rw [candidates_all_cons, candidates, if_neg edge, List.flatMap_nil]

/-- A name is read to its end if more words follow. -/
theorem follow_name (here : c.AtWords text w (u :: ws)) (written : w ≠ []) :
    (all (gap? :: .keep word :: gap :: ps)).candidates c =
      (all ps).candidates ((c.keepNext w.length).skip 1) := by
  rw [follow_gap? (here.rest_solid written), follow_word here.atWord written,
    follow_gap here.keepNext]

/-- Where a name could stand, but there is a space, the next word is the name. -/
theorem follow_name_space (here : c.AtWords text [] (u :: ws)) :
    (all (gap? :: .keep word :: ps)).candidates c =
      (all (gap? :: .keep word :: ps)).candidates (c.skip 1) := by
  have solid := here.behind_space.rest_solid (here.others u List.mem_cons_self).1
  have space : c.rest.head?.any Text.isWordChar = false := by
    rw [here.rest]
    exact here.atWord.apart
  rw [follow_gap?_space here, follow_word_apart space, List.append_nil, follow_gap? solid]

/-- The last word is no name before a gap. -/
theorem follow_name_last (here : c.AtWords text w []) (written : w ≠ []) :
    (all (gap? :: .keep word :: gap :: ps)).candidates c = [] := by
  rw [follow_gap? (here.rest_solid written), follow_word here.atWord written]
  apply follow_gap_solid
  rw [keepNext_rest, here.rest, List.drop_left]
  rfl

/-- If nothing else is kept, the name is. -/
theorem keeps_name (here : c.AtWords text w (u :: ws)) (written : w ≠ []) (fresh : c.kept = [])
    (quiet : (all ps).keeping = [])
    (member : d ∈ (all (gap? :: .keep word :: gap :: ps)).candidates c) : d.Keeps text w := by
  rw [follow_name here written] at member
  have kept := (all ps).kept_of_keeping_nil quiet member
  rw [skip_kept] at kept
  exact here.keeps fresh kept

end

/-- Whether a pattern asks for no edge. -/
def isEdgeless : Pattern → Bool
  | .both p q | .either p q => p.isEdgeless && q.isEdgeless
  | .keep p => p.isEdgeless
  | .edge => false
  | .one _ | .many _ | .empty => true

/-- What such a pattern can read, it reads wherever it stands. -/
theorem candidates_of_reads (p : Pattern) (edgeless : p.isEdgeless = true) {read : List Char}
    (reads : p.Reads read) (here : c.rest = read ++ tail) :
    ∃ d ∈ p.candidates c, Behind c read d := by
  induction p generalizing c read tail with
  | empty =>
    obtain rfl : read = [] := reads
    exact ⟨c, List.mem_singleton_self c, .refl c⟩
  | one k =>
    obtain ⟨x, rfl, holds⟩ := reads
    refine ⟨c.skip 1, ?_, ?_, rfl, ?_⟩
    · rw [candidates_one, here, List.singleton_append, List.head?_cons, Option.any_some,
        if_pos holds]
      exact List.mem_singleton_self _
    · rw [skip_rest, here]
      rfl
    · rw [skip, here]
      rfl
  | many k => exact runs_of_reads reads here
  | edge => cases edgeless
  | both p q ihp ihq =>
    obtain ⟨edgelessp, edgelessq⟩ := Bool.and_eq_true_iff.mp edgeless
    obtain ⟨front, back, rfl, first, second⟩ := reads
    rw [List.append_assoc] at here
    obtain ⟨middle, found, moved⟩ := ihp edgelessp first here
    obtain ⟨d, last, behind⟩ := ihq edgelessq second (moved.rest_of here)
    exact ⟨d, List.mem_flatMap.mpr ⟨middle, found, last⟩, moved.trans behind⟩
  | either p q ihp ihq =>
    obtain ⟨edgelessp, edgelessq⟩ := Bool.and_eq_true_iff.mp edgeless
    rcases reads with reads | reads
    · obtain ⟨d, found, moved⟩ := ihp edgelessp reads here
      exact ⟨d, List.mem_append_left _ found, moved⟩
    · obtain ⟨d, found, moved⟩ := ihq edgelessq reads here
      exact ⟨d, List.mem_append_right _ found, moved⟩
  | keep p ih =>
    obtain ⟨d, found, moved⟩ := ih edgeless reads here
    exact ⟨_, List.mem_map_of_mem found, moved.rest, moved.position, moved.before⟩

end Pattern

end VoiceDebugger
