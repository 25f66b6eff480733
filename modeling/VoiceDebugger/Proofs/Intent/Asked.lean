import VoiceDebugger.Proofs.Intent.Prose

/-!
Sentences that ask where a symbol is modified or defined.

Two phrasings fit such a sentence. The first one can only keep a common word of it. The second one
lets a word stand before the name and does not ask for a gap behind that word, so it may take the
beginning of the name for it. Then the rest of the name is all that is heard.
-/

namespace VoiceDebugger

open Pattern Cursor

variable {text w u : List Char} {ws : List (List Char)} {c d : Cursor}

/-! ### The two phrasings -/

/-- A name and what is done with it, in the first phrasing. -/
def nameUsed : List Pattern :=
  [gap?, .keep word, gap, phrases ["defined", "declared", "used", "modified", "changed"]]

def findAsked : Pattern :=
  all (.edge :: phrases ["find", "show", "where", "locate"] :: gap ::
    phrases? ["is", "are", "the"] :: nameUsed)

/-- The words that may stand before the name in the second phrasing. -/
def leads : List String :=
  ["is", "are", "does"]

/-- What is done with a name, in the second phrasing. -/
def isUsed : List Pattern :=
  [phrases? ["get", "gets", "is"], gap?, phrases ["defined", "used", "modified", "set"]]

def whereAsked : Pattern :=
  all (.edge :: phrases ["where", "show"] :: gap :: phrases? leads :: gap? :: .keep word :: gap ::
    isUsed)

/-- The other phrasings. -/
def otherPhrasings : List Pattern :=
  (symbolPatterns.drop 2).take 5

theorem symbolPatterns_split :
    symbolPatterns = findAsked :: whereAsked ::
      (otherPhrasings ++ [quotedName, cappedName, scoredName]) := rfl

/-- The sentence that asks where something is done with a name. -/
def askedWhere (name verb : String) : String :=
  "find where " ++ name ++ " is " ++ verb

/-- The words of that sentence behind the first one. -/
def askedWords (name verb : List Char) : List (List Char) :=
  ["where".toList, name, "is".toList, verb]

theorem askedWhere_toList (name verb : String) :
    (askedWhere name verb).toList =
      "find".toList ++ gapped (askedWords name.toList verb.toList) := by
  rw [askedWhere, String.toList_append, String.toList_append, String.toList_append]
  simp [gapped, askedWords]

/-- What is asked about a name: the verbs that the sentences below end with. -/
def verbs : List String :=
  ["modified", "defined"]

variable {x : List Char} {verb : String}

/-- What holds of the words that are known, and of the name, holds of all words of the sentence. -/
theorem forall_asked {P : List Char → Prop} (listed : verb ∈ verbs)
    (closed : ∀ s ∈ "find" :: "where" :: "is" :: verbs, P s.toList) (name : P x) :
    ∀ u ∈ "find".toList :: askedWords x verb.toList, P u := by
  intro u member
  simp only [askedWords, List.mem_cons, List.not_mem_nil, or_false] at member
  rcases member with rfl | rfl | rfl | rfl | rfl
  · exact closed "find" (by decide)
  · exact closed "where" (by decide)
  · exact name
  · exact closed "is" (by decide)
  · exact closed verb (by simp [listed])

theorem atWords_start (written : x ≠ []) (chars : ∀ y ∈ x, Text.isWordChar y = true)
    (listed : verb ∈ verbs) (sentence : text = "find".toList ++ gapped (askedWords x verb.toList)) :
    (start text).AtWords text "find".toList (askedWords x verb.toList) := by
  have table : ∀ s ∈ "find" :: "where" :: "is" :: verbs,
      s.toList ≠ [] ∧ s.toList.all Text.isWordChar = true := by decide
  have words : ∀ u ∈ "find".toList :: askedWords x verb.toList,
      u ≠ [] ∧ ∀ y ∈ u, Text.isWordChar y = true := by
    refine forall_asked listed ?_ ⟨written, chars⟩
    intro s known
    exact ⟨(table s known).1, List.all_eq_true.mp (table s known).2⟩
  obtain ⟨first, others⟩ := List.forall_mem_cons.mp words
  exact ⟨rfl, sentence, first.2, others⟩

/-! ### The first phrasing keeps a common word -/

/-- A name in the first phrasing stands before a word of those that it asks for. -/
theorem mem_nameUsed (here : c.AtWords text w (u :: ws)) (written : w ≠ []) (fresh : c.kept = [])
    (member : d ∈ (all nameUsed).candidates c) :
    d.Keeps text w ∧
      ["defined", "declared", "used", "modified", "changed"].filter (spelled ·.toList u) ≠ [] := by
  refine ⟨keeps_name here written fresh (by decide) member, ?_⟩
  rw [nameUsed, follow_name here written,
    follow_phrases (by decide) here.keepNext.behind_space.atWord] at member
  obtain ⟨s, listed, -⟩ := List.mem_flatMap.mp member
  exact List.ne_nil_of_mem listed

/-- Behind a part of the name only the word behind it can be kept. -/
theorem keeps_is_behind {v : List Char} (here : c.AtWords text x ["is".toList, v])
    (fresh : c.kept = []) {n : Nat} (inside : n ≤ x.length)
    (member : d ∈ (all nameUsed).candidates (c.skip n)) : d.Keeps text "is".toList := by
  have behind := here.skip inside
  by_cases rest : x.drop n = []
  · rw [rest] at behind
    rw [nameUsed, follow_name_space behind] at member
    exact (mem_nameUsed behind.behind_space (by decide) fresh member).1
  · have other := (mem_nameUsed behind rest fresh member).2
    exact absurd (by decide) other

/-- Nor is there anything else to keep from there on. -/
theorem keeps_is {v : List Char} (here : c.AtWords text "is".toList [v]) (fresh : c.kept = [])
    (member : d ∈ (all (phrases? ["is", "are", "the"] :: nameUsed)).candidates c) :
    d.Keeps text "is".toList := by
  have only : ["is", "are", "the"].filter (spelled ·.toList "is".toList) = ["is"] := by decide
  rw [follow_phrases? (by decide) here.atWord, only, List.flatMap_singleton, List.mem_append]
    at member
  rcases member with member | member
  · have behind : (c.skip "is".toList.length).AtWords text [] [v] := here.skip (Nat.le_refl _)
    have written := (here.others v List.mem_cons_self).1
    rw [nameUsed, follow_name_space behind, follow_name_last behind.behind_space written] at member
    cases member
  · exact (mem_nameUsed here (by decide) fresh member).1

/-- The first phrasing finds one of two words, and never the name. -/
theorem findAsked_keeps (listed : verb ∈ verbs)
    (here : c.AtWords text "find".toList (askedWords x verb.toList)) (fresh : c.kept = [])
    (edge : c.atEdge = true) {found : Nat × Cursor} (matched : findAsked.seek c = some found) :
    found.2.Keeps text "where".toList ∨ found.2.Keeps text "is".toList := by
  have starts : findAsked.startsWord = true := by decide
  have closed : ∀ s ∈ "is" :: verbs,
      ["find", "show", "where", "locate"].filter (spelled ·.toList s.toList) = [] := by
    decide
  have second := here.next
  have third := second.next
  have fourth := third.next
  have last := fourth.next
  -- The phrasing may begin with each of the five words.
  rcases candidates_or_seek starts here fresh matched with member | matched
  · have none : ["is", "are", "the"].filter (spelled ·.toList "where".toList) = [] := by decide
    rw [findAsked, follow_opening (s := "find") (by decide) here edge (by decide) rfl,
      follow_phrases? (by decide) second.atWord, none, List.flatMap_nil, List.nil_append] at member
    exact .inl (mem_nameUsed second (by decide) fresh member).1
  rcases candidates_or_seek starts second fresh matched with member | matched
  · rw [findAsked,
      follow_opening (s := "where") (by decide) second here.next_atEdge (by decide) rfl,
      follow_phrases? (by decide) third.atWord, List.mem_append] at member
    rcases member with member | member
    · obtain ⟨s, lead, member⟩ := List.mem_flatMap.mp member
      have inside := length_le_of_spelled (List.mem_filter.mp lead).2
      exact .inr (keeps_is_behind third fresh inside member)
    · exact .inr (keeps_is_behind third fresh (Nat.zero_le _) member)
  rcases candidates_or_seek starts third fresh matched with member | matched
  · -- A name that is itself an opening is followed by a gap only if it ends there.
    rw [findAsked, follow_edge second.next_atEdge, follow_phrases (by decide) third.atWord]
      at member
    obtain ⟨s, opening, member⟩ := List.mem_flatMap.mp member
    have behind := third.skip (length_le_of_spelled (List.mem_filter.mp opening).2)
    by_cases rest : x.drop s.toList.length = []
    · rw [rest] at behind
      rw [follow_gap behind] at member
      exact .inr (keeps_is behind.behind_space fresh member)
    · rw [follow_gap_solid (behind.rest_solid rest)] at member
      cases member
  rcases candidates_or_seek starts fourth fresh matched with member | matched
  · rw [findAsked, follow_opening_none (by decide) fourth (closed "is" (by decide))] at member
    cases member
  · have member := candidates_of_seek_last starts last fresh matched
    rw [findAsked, follow_opening_none (by decide) last (closed verb (by simp [listed]))] at member
    cases member

/-! ### The second phrasing keeps what is heard of the name -/

/-- The word that a name begins with, if it may stand before a name. -/
def leadIn (x : List Char) : Option String :=
  leads.find? (spelled ·.toList x)

theorem spelled_of_leadIn {s : String} (lead : leadIn x = some s) :
    spelled s.toList x = true := by
  rw [leadIn] at lead
  simpa using List.find?_some lead

/-- What is heard of a name. -/
def heard (x : List Char) : List Char :=
  x.drop ((leadIn x).elim 0 (·.toList.length))

theorem heard_of_unled (unled : leadIn x = none) : heard x = x := by
  rw [heard, unled, Option.elim_none, List.drop_zero]

theorem heard_of_lead {s : String} (lead : leadIn x = some s) :
    heard x = x.drop s.toList.length := by
  rw [heard, lead, Option.elim_some]

theorem verb_read (listed : verb ∈ verbs) (here : c.AtWords text verb.toList ws) :
    (all [phrases ["defined", "used", "modified", "set"]]).candidates c ≠ [] := by
  have known : ∀ s ∈ verbs,
      s ∈ ["defined", "used", "modified", "set"].filter (spelled ·.toList s.toList) := by decide
  rw [follow_phrases (by decide) here.atWord]
  apply List.ne_nil_of_mem
  exact List.mem_flatMap.mpr ⟨verb, known verb listed, List.mem_singleton_self _⟩

/-- What the sentence says of the name is read, from either of its last words on. -/
theorem isUsed_read (listed : verb ∈ verbs)
    (here : c.AtWords text "is".toList [verb.toList]) : (all isUsed).candidates c ≠ [] := by
  have only : ["get", "gets", "is"].filter (spelled ·.toList "is".toList) = ["is"] := by decide
  have behind : (c.skip "is".toList.length).AtWords text [] [verb.toList] :=
    here.skip (Nat.le_refl _)
  rw [isUsed, follow_phrases? (by decide) here.atWord, only, List.flatMap_singleton,
    follow_gap?_space behind]
  apply List.append_ne_nil_of_left_ne_nil
  apply List.append_ne_nil_of_left_ne_nil
  exact verb_read listed behind.behind_space

theorem isUsed_read_last (listed : verb ∈ verbs) (written : verb.toList ≠ [])
    (here : c.AtWords text verb.toList []) : (all isUsed).candidates c ≠ [] := by
  rw [isUsed, follow_phrases? (by decide) here.atWord, follow_gap? (here.rest_solid written)]
  exact List.append_ne_nil_of_right_ne_nil _ (verb_read listed here)

/-- From a part of the name on, the rest of it is kept, or the next word if nothing is left. -/
theorem keeps_rest (listed : verb ∈ verbs)
    (here : c.AtWords text x ["is".toList, verb.toList]) (fresh : c.kept = []) {n : Nat}
    (inside : n ≤ x.length) :
    ∃ d more, (all (gap? :: .keep word :: gap :: isUsed)).candidates (c.skip n) = d :: more ∧
      d.Keeps text (if x.drop n = [] then "is".toList else x.drop n) := by
  have behind := here.skip inside
  by_cases rest : x.drop n = []
  · rw [rest] at behind
    have next := behind.behind_space
    have written := (here.others verb.toList (by simp)).1
    have some :
        (all (gap? :: .keep word :: gap :: isUsed)).candidates ((c.skip n).skip 1) ≠ [] := by
      rw [follow_name next (by decide)]
      exact isUsed_read_last listed written next.keepNext.behind_space
    obtain ⟨d, more, found⟩ := List.exists_cons_of_ne_nil some
    have keeps := keeps_name next (by decide) fresh (by decide) (found ▸ List.mem_cons_self)
    rw [if_pos rest, follow_name_space behind]
    exact ⟨d, more, found, keeps⟩
  · have some : (all (gap? :: .keep word :: gap :: isUsed)).candidates (c.skip n) ≠ [] := by
      rw [follow_name behind rest]
      exact isUsed_read listed behind.keepNext.behind_space
    obtain ⟨d, more, found⟩ := List.exists_cons_of_ne_nil some
    have keeps := keeps_name behind rest fresh (by decide) (found ▸ List.mem_cons_self)
    rw [if_neg rest]
    exact ⟨d, more, found, keeps⟩

theorem keptFrom_whereAsked (listed : verb ∈ verbs)
    (here : c.AtWords text "find".toList (askedWords x verb.toList)) (fresh : c.kept = []) :
    whereAsked.keptFrom text c = some (if heard x = [] then "is".toList else heard x) := by
  have starts : whereAsked.startsWord = true := by decide
  have second := here.next
  have third := second.next
  have none : whereAsked.candidates c = [] := follow_opening_none (by decide) here (by decide)
  have first : ∃ d more, whereAsked.candidates (c.skip ("find".toList.length + 1)) = d :: more ∧
      d.Keeps text (if heard x = [] then "is".toList else heard x) := by
    rw [whereAsked,
      follow_opening (s := "where") (by decide) second here.next_atEdge (by decide) rfl,
      follow_phrases? (by decide) third.atWord]
    cases lead : leadIn x with
    | none =>
      have unled : leads.filter (spelled ·.toList x) = [] := by
        rw [List.filter_eq_nil_iff]
        exact List.find?_eq_none.mp lead
      have whole := keeps_rest listed third fresh (Nat.zero_le x.length)
      rw [skip_zero, List.drop_zero] at whole
      rw [unled, List.flatMap_nil, List.nil_append, heard_of_unled lead]
      exact whole
    | some s =>
      have led : (leads.filter (spelled ·.toList x)).head? = some s := by
        rw [List.head?_filter]
        exact lead
      obtain ⟨others, split⟩ := List.head?_eq_some_iff.mp led
      have inside := length_le_of_spelled (spelled_of_leadIn lead)
      obtain ⟨d, more, found, keeps⟩ := keeps_rest listed third fresh inside
      rw [split, List.flatMap_cons, found, heard_of_lead lead]
      exact ⟨d, _, rfl, keeps⟩
  obtain ⟨d, more, found, keeps⟩ := first
  rw [keptFrom, seek_next_word starts here fresh none, ← keptFrom]
  exact keptFrom_of_candidates fresh found keeps

/-! ### The other patterns -/

theorem symbolBy_of_keptFrom {p : Pattern} (kept : p.keptFrom text (start text) = some w) :
    symbolBy p text = if isCommon (String.ofList w) then none else some (String.ofList w) := by
  rw [symbolBy, firstKept?_eq_keptFrom, kept, Option.map_some, Option.filter_some]
  cases isCommon (String.ofList w) <;> rfl

theorem symbolBy_of_seek {p : Pattern} (missing : p.seek (start text) = none) :
    symbolBy p text = none := by
  rw [symbolBy, firstKept?_eq_keptFrom, keptFrom, missing]
  rfl

theorem mem_lowerFrom_of_score {cs : List Char} (member : '_' ∈ cs) (before : List Char) :
    '_' ∈ Text.lowerFrom before cs := by
  induction cs generalizing before with
  | nil => cases member
  | cons y cs ih =>
    rcases List.mem_cons.mp member with rfl | member
    · exact List.mem_cons_self
    · have later := ih member (y :: before)
      rw [Text.lowerFrom]
      split
      · exact List.mem_cons_of_mem _ (List.mem_cons_of_mem _ later)
      · split
        · split
          · exact List.mem_cons_of_mem _ later
          · exact List.mem_cons_of_mem _ later
        · exact List.mem_cons_of_mem _ later

/-- A common word has no underscore. -/
theorem score_not_mem_of_isCommon (common : isCommon (String.ofList w) = true) : '_' ∉ w := by
  have unscored : ∀ s ∈ commonWords, '_' ∉ s.toList := by decide
  rw [isCommon, List.contains_iff_mem] at common
  have none := unscored _ common
  rw [Text.lower, String.toList_ofList, String.toList_ofList] at none
  exact fun member => none (mem_lowerFrom_of_score member [])

/-- The letters that open a word are no underscores. -/
theorem score_not_mem_take {letters cs : List Char} (here : spelled letters cs = true) :
    '_' ∉ cs.take letters.length := by
  induction letters generalizing cs with
  | nil => simp
  | cons x letters ih =>
    cases cs with
    | nil => simp
    | cons y cs =>
      obtain ⟨first, more⟩ := Bool.and_eq_true_iff.mp (spelled_cons ▸ here)
      rw [List.length_cons, List.take_succ_cons, List.mem_cons, not_or]
      refine ⟨?_, ih more⟩
      rintro rfl
      cases first

/-- A name that begins with a word which may stand before a name opens no other phrasing. -/
theorem otherPhrasings_apart {letters : List Char} {s : String} {p : Pattern}
    (lead : leadIn x = some s) (other : p ∈ otherPhrasings) (opening : letters ∈ p.openings) :
    spelled letters x = false := by
  have apart : ∀ p ∈ otherPhrasings, ∀ letters ∈ p.openings, ∀ s ∈ leads,
      (letters.map some).isPrefixOf (s.toList.map some) = false ∧
        (s.toList.map some).isPrefixOf (letters.map some) = false := by decide
  obtain ⟨longer, shorter⟩ := apart p other letters opening s (List.mem_of_find?_eq_some lead)
  by_contra spelt
  rw [Bool.not_eq_false] at spelt
  have led := spelled_iff.mp (spelled_of_leadIn lead)
  rcases List.prefix_or_prefix_of_prefix (spelled_iff.mp spelt) led with fits | fits
  · rw [List.isPrefixOf_iff_prefix.mpr fits] at longer
    cases longer
  · rw [List.isPrefixOf_iff_prefix.mpr fits] at shorter
    cases shorter

/-- A symbol, unless nothing is left of it or it is a common word. -/
def named (r : List Char) : Option String :=
  if r = [] ∨ isCommon (String.ofList r) = true then none else some (String.ofList r)

theorem symbolBy_findAsked (listed : verb ∈ verbs)
    (here : (start text).AtWords text "find".toList (askedWords x verb.toList)) :
    symbolBy findAsked text = none := by
  cases matched : findAsked.seek (start text) with
  | none => exact symbolBy_of_seek matched
  | some found =>
    rcases findAsked_keeps listed here rfl (here.atWord.atEdge (by decide) rfl) matched with
      keeps | keeps
    · rw [symbolBy_of_keptFrom (keptFrom_of_seek matched keeps), if_pos (by decide)]
    · rw [symbolBy_of_keptFrom (keptFrom_of_seek matched keeps), if_pos (by decide)]

theorem symbolBy_whereAsked (listed : verb ∈ verbs)
    (here : (start text).AtWords text "find".toList (askedWords x verb.toList)) :
    symbolBy whereAsked text = named (heard x) := by
  rw [symbolBy_of_keptFrom (keptFrom_whereAsked listed here rfl), named]
  by_cases rest : heard x = []
  · have common : isCommon (String.ofList "is".toList) = true := by decide
    rw [if_pos rest, if_pos common, if_pos (Or.inl rest)]
  · rw [if_neg rest]
    simp only [rest, false_or]

/-- What is heard of the name is the symbol, if it can be one. -/
theorem symbolIn_asked_of_named (listed : verb ∈ verbs)
    (here : (start text).AtWords text "find".toList (askedWords x verb.toList)) {s : String}
    (heardName : named (heard x) = some s) : symbolIn text = some s := by
  rw [symbolIn_eq, symbolPatterns_split, List.findSome?_cons, symbolBy_findAsked listed here,
    List.findSome?_cons, symbolBy_whereAsked listed here, heardName]

theorem otherPhrasings_missing (listed : verb ∈ verbs) {s : String} (lead : leadIn x = some s)
    (here : (start text).AtWords text "find".toList (askedWords x verb.toList)) :
    otherPhrasings.findSome? (fun p => symbolBy p text) = none := by
  have starts : ∀ p ∈ otherPhrasings, p.startsWord = true := by decide
  have closed : ∀ p ∈ otherPhrasings, ∀ s ∈ "find" :: "where" :: "is" :: verbs,
      ∀ letters ∈ p.openings, spelled letters s.toList = false := by decide
  rw [List.findSome?_eq_none_iff]
  intro p other
  apply symbolBy_of_seek
  apply seek_of_openings (starts p other) here rfl
  refine forall_asked listed (closed p other) ?_
  intro letters opening
  exact otherPhrasings_apart lead other opening

theorem quotedName_missing_asked
    (here : (start text).AtWords text "find".toList (askedWords x verb.toList)) :
    symbolBy quotedName text = none := by
  have solid : ∀ y, y ≠ ' ' → Text.isWordChar y = false → y ∉ text := by
    intro y space other member
    have word : Text.isWordChar y = true := by
      rw [show text = _ from here.rest] at member
      rcases List.mem_append.mp member with member | member
      · exact here.chars y member
      · rcases mem_gapped member with rfl | ⟨u, listed, inside⟩
        · exact absurd rfl space
        · exact (here.others u listed).2 y inside
    rw [other] at word
    cases word
  exact symbolBy_of_not_occursIn
    (quotedName_missing (solid '"' (by decide) (by decide)) (solid '\'' (by decide) (by decide)))

/-- Of the whole sentence, the pattern for capitals inside keeps the first word, a common one. -/
theorem cappedName_asked (here : (start text).AtWords text "find".toList ws) :
    symbolBy cappedName text = none := by
  have letters : ∀ y ∈ "find".toList, (smallLetter? y).isSome = true :=
    List.all_eq_true.mp (by decide)
  have some := cappedName_ne_nil here.atWord rfl ((reads_threeLetters_iff letters).mpr (by decide))
  obtain ⟨d, more, found⟩ := List.exists_cons_of_ne_nil some
  have kept := (cappedName_kept here.atWord (found ▸ List.mem_cons_self)).2
  rw [symbolBy_of_keptFrom (keptFrom_of_candidates rfl found (here.keeps rfl kept)),
    if_pos (by decide)]

theorem scoredName_missing_asked (listed : verb ∈ verbs) (unscored : '_' ∉ x)
    (here : (start text).AtWords text "find".toList (askedWords x verb.toList)) :
    symbolBy scoredName text = none := by
  have words : ∀ u ∈ "find".toList :: askedWords x verb.toList, '_' ∉ u :=
    forall_asked listed (by decide) unscored
  apply symbolBy_of_not_occursIn
  apply scoredName_missing
  intro member
  rw [show text = _ from here.rest] at member
  rcases List.mem_append.mp member with inside | member
  · exact words _ List.mem_cons_self inside
  · rcases mem_gapped member with space | ⟨u, among, inside⟩
    · cases space
    · exact words u (List.mem_cons_of_mem _ among) inside

/-- Nothing that is left of such a name has an underscore, unless it is heard. -/
theorem score_not_mem_of_lead {s : String} (lead : leadIn x = some s)
    (unheard : named (heard x) = none) : '_' ∉ x := by
  have behind : '_' ∉ x.drop s.toList.length := by
    rw [named, heard_of_lead lead] at unheard
    split at unheard
    · next left =>
      rcases left with none | common
      · rw [none]
        exact List.not_mem_nil
      · exact score_not_mem_of_isCommon common
    · cases unheard
  rw [← List.take_append_drop s.toList.length x, List.mem_append, not_or]
  exact ⟨score_not_mem_take (spelled_of_leadIn lead), behind⟩

/-- If a name begins with a word that may stand before it, no other pattern makes up for it. -/
theorem symbolIn_asked_of_lead (listed : verb ∈ verbs)
    (here : (start text).AtWords text "find".toList (askedWords x verb.toList)) {s : String}
    (lead : leadIn x = some s) : symbolIn text = named (heard x) := by
  cases heardName : named (heard x) with
  | some r => exact symbolIn_asked_of_named listed here heardName
  | none =>
    have unscored := score_not_mem_of_lead lead heardName
    rw [symbolIn_eq, symbolPatterns_split, List.findSome?_cons, symbolBy_findAsked listed here,
      List.findSome?_cons, symbolBy_whereAsked listed here, heardName, List.findSome?_append,
      otherPhrasings_missing listed lead here, Option.none_or, List.findSome?_cons,
      quotedName_missing_asked here, List.findSome?_cons, cappedName_asked here,
      List.findSome?_cons, scoredName_missing_asked listed unscored here, List.findSome?_nil]

/-! ### Names that are heard in full -/

/-- Whether a name is a letter with letters, digits and underscores behind it. -/
def isIdentifier (name : String) : Bool :=
  match name.toList with
  | [] => false
  | y :: ys => y.isAlpha && ys.all fun y => y.isAlphanum || y == '_'

theorem isWordChar_of_name {y : Char} (known : (y.isAlphanum || y == '_') = true) :
    Text.isWordChar y = true := by
  have low : y.toNat < 128 := by
    rw [Char.isAlphanum, Bool.or_eq_true, Bool.or_eq_true, beq_iff_eq] at known
    rcases known with (letter | digit) | rfl
    · exact Text.ascii_of_isAlpha letter
    · have high : y.val ≤ '9'.val := of_decide_eq_true (Bool.and_eq_true_iff.mp digit).2
      exact Nat.lt_of_le_of_lt (UInt32.le_iff_toNat_le.mp high) (by decide)
    · decide
  exact Text.of_ascii (fun y => (y.isAlphanum || y == '_') = true → Text.isWordChar y = true)
    (by decide) low known

theorem of_isIdentifier {name : String} (identifier : isIdentifier name = true) :
    name.toList ≠ [] ∧ ∀ y ∈ name.toList, Text.isWordChar y = true := by
  unfold isIdentifier at identifier
  split at identifier
  · cases identifier
  · next y ys whole =>
    obtain ⟨first, others⟩ := Bool.and_eq_true_iff.mp identifier
    rw [whole]
    refine ⟨List.cons_ne_nil y ys, List.forall_mem_cons.mpr ⟨isWordChar_of_name ?_, ?_⟩⟩
    · rw [Char.isAlphanum, first]
      rfl
    · exact fun y member => isWordChar_of_name (List.all_eq_true.mp others y member)

/-- A symbol is never a common word. -/
theorem not_isCommon_of_symbolIn {s : String} (found : symbolIn text = some s) :
    isCommon s = false := by
  rw [symbolIn_eq] at found
  obtain ⟨p, -, kept⟩ := List.exists_of_findSome?_eq_some found
  have other := (Option.filter_eq_some_iff.mp kept).2
  rwa [Bool.not_eq_true'] at other

theorem length_heard_lt {s : String} (lead : leadIn x = some s) :
    (heard x).length < x.length := by
  have written : ∀ s ∈ leads, 0 < s.toList.length := by decide
  have positive := written s (List.mem_of_find?_eq_some lead)
  have inside := length_le_of_spelled (spelled_of_leadIn lead)
  rw [heard_of_lead lead, List.length_drop]
  omega

/-- A sentence that asks where a name is modified or defined names it just if it is no common word
and does not begin with a word that may stand before the name. If it does, what follows that word is
taken for the name, and if this is nothing or a common word, no name is found. -/
theorem asked_names_iff (name verb : String) (identifier : isIdentifier name = true)
    (listed : verb ∈ ["modified", "defined"]) :
    (symbolIn (askedWhere name verb).toList = some name ↔
      Text.lower name ∉ commonWords ∧ leadIn name.toList = none) ∧
    ∀ lead, leadIn name.toList = some lead →
      symbolIn (askedWhere name verb).toList = named (name.toList.drop lead.toList.length) := by
  obtain ⟨written, chars⟩ := of_isIdentifier identifier
  have here := atWords_start written chars listed (askedWhere_toList name verb)
  refine ⟨⟨?_, ?_⟩, ?_⟩
  · intro found
    have other := not_isCommon_of_symbolIn found
    rw [isCommon, ← Bool.not_eq_true, List.contains_iff_mem] at other
    refine ⟨other, ?_⟩
    by_contra led
    obtain ⟨lead, known⟩ := Option.ne_none_iff_exists'.mp led
    rw [symbolIn_asked_of_lead listed here known, named] at found
    split at found
    · cases found
    · have shorter := length_heard_lt known
      have same := congrArg (·.toList.length) (Option.some.inj found)
      simp only [String.toList_ofList] at same
      omega
  · rintro ⟨other, unled⟩
    apply symbolIn_asked_of_named listed here
    rw [heard_of_unled unled, named, String.ofList_toList, if_neg]
    rw [isCommon, List.contains_iff_mem]
    exact not_or.mpr ⟨written, other⟩
  · intro lead known
    rw [← heard_of_lead known]
    exact symbolIn_asked_of_lead listed here known

theorem asked_names_iff_total :
    isIdentifier "total_2" = true ∧ "modified" ∈ ["modified", "defined"] ∧
    symbolIn (askedWhere "total_2" "modified").toList = some "total_2" := by
  have identifier : isIdentifier "total_2" = true := by decide
  have listed : "modified" ∈ ["modified", "defined"] := by decide
  exact ⟨identifier, listed,
    (asked_names_iff "total_2" "modified" identifier listed).1.mpr (by decide +kernel)⟩

/-- Asked where `isReady` is modified, only a part of the name is found. -/
theorem asked_names_part :
    isIdentifier "isReady" = true ∧ Text.lower "isReady" ∉ commonWords ∧
    symbolIn (askedWhere "isReady" "modified").toList = some "Ready" := by
  decide +kernel

end VoiceDebugger
