import VoiceDebugger.Proofs.Pattern.Fold
import VoiceDebugger.Proofs.Pattern.Follow

/-!
Searching a text word by word.

A pattern that begins with an edge and a letter matches at the starts of words only, and only words
that begin with its first letters. So a search goes from word to word.
-/

namespace VoiceDebugger.Pattern

open Cursor

variable {c d : Cursor} {w tail : List Char}

/-! ### How patterns begin -/

/-- Whether a pattern begins by reading a word character. -/
def opensWord : Pattern → Bool
  | .one k => k.isWordy
  | .both p _ => p.opensWord
  | .either p q => p.opensWord && q.opensWord
  | .keep p => p.opensWord
  | .many _ | .empty | .edge => false

/-- Letters with which a match of the pattern begins, one list for each way. -/
def openings : Pattern → List (List Char)
  | .one (.letter x) => [[x]]
  | .both (.one (.letter x)) q => q.openings.map (x :: ·)
  | .both .edge q => q.openings
  | .both p _ => p.openings
  | .either p q => p.openings ++ q.openings
  | .keep p => p.openings
  | _ => [[]]

/-- Whether a pattern begins at an edge and reads a word character there. -/
def startsWord : Pattern → Bool
  | .both .edge q => q.opensWord
  | _ => false

theorem head_of_opensWord (p : Pattern) (opens : p.opensWord = true)
    (member : d ∈ p.candidates c) : c.rest.head?.any Text.isWordChar = true := by
  induction p generalizing c d with
  | one k =>
    rw [candidates_one] at member
    split at member
    · next holds =>
      cases first : c.rest.head? with
      | none =>
        rw [first] at holds
        cases holds
      | some x =>
        rw [first] at holds
        exact CharClass.isWordChar_of_contains opens holds
    · cases member
  | both p q ihp _ =>
    obtain ⟨middle, first, -⟩ := List.mem_flatMap.mp member
    exact ihp opens first
  | either p q ihp ihq =>
    obtain ⟨opensp, opensq⟩ := Bool.and_eq_true_iff.mp opens
    rcases List.mem_append.mp member with member | member
    · exact ihp opensp member
    · exact ihq opensq member
  | keep p ih =>
    obtain ⟨last, inside, -⟩ := List.mem_map.mp member
    exact ih opens inside
  | many k => cases opens
  | empty => cases opens
  | edge => cases opens

theorem of_mem_letter {x : Char} (member : d ∈ (one (.letter x)).candidates c) :
    d = c.skip 1 ∧ ∃ y rest, c.rest = y :: rest ∧ smallLetter? y = some x := by
  rw [candidates_one] at member
  split at member
  · next holds =>
    refine ⟨List.mem_singleton.mp member, ?_⟩
    cases rest : c.rest with
    | nil =>
      rw [rest] at holds
      cases holds
    | cons y more =>
      rw [rest] at holds
      exact ⟨y, more, rfl, beq_iff_eq.mp holds⟩
  · cases member

theorem spelled_of_openings (p : Pattern) (member : d ∈ p.candidates c) :
    ∃ letters ∈ p.openings, spelled letters c.rest = true := by
  have always : ∀ cs, ∃ letters ∈ [[]], spelled letters cs = true :=
    fun cs => ⟨[], List.mem_singleton_self _, spelled_nil cs⟩
  induction p generalizing c d with
  | empty => exact always c.rest
  | one k =>
    cases k with
    | letter x =>
      obtain ⟨-, y, rest, here, same⟩ := of_mem_letter member
      refine ⟨[x], List.mem_singleton_self _, ?_⟩
      rw [here, spelled_cons, same, beq_self_eq_true, spelled_nil]
      rfl
    | _ => exact always c.rest
  | many k => exact always c.rest
  | edge => exact always c.rest
  | both p q ihp ihq =>
    obtain ⟨middle, first, second⟩ := List.mem_flatMap.mp member
    cases p with
    | one k =>
      cases k with
      | letter x =>
        obtain ⟨rfl, y, rest, here, same⟩ := of_mem_letter first
        obtain ⟨letters, listed, known⟩ := ihq second
        rw [skip_rest, here] at known
        refine ⟨x :: letters, List.mem_map_of_mem listed, ?_⟩
        rw [here, spelled_cons, same, beq_self_eq_true]
        exact known
      | _ => exact ihp first
    | edge =>
      obtain ⟨rfl, -⟩ := mem_edge_iff.mp first
      exact ihq second
    | _ => exact ihp first
  | either p q ihp ihq =>
    rcases List.mem_append.mp member with member | member
    · obtain ⟨letters, listed, known⟩ := ihp member
      exact ⟨letters, List.mem_append_left _ listed, known⟩
    · obtain ⟨letters, listed, known⟩ := ihq member
      exact ⟨letters, List.mem_append_right _ listed, known⟩
  | keep p ih =>
    obtain ⟨last, inside, -⟩ := List.mem_map.mp member
    exact ih inside

/-- Such a pattern has candidates at the start of a word only. -/
theorem start_of_startsWord {p : Pattern} (starts : p.startsWord = true)
    (member : d ∈ p.candidates c) :
    c.before.any Text.isWordChar = false ∧ c.rest.head?.any Text.isWordChar = true := by
  unfold startsWord at starts
  split at starts
  · next q =>
    rw [candidates, candidates] at member
    split at member
    · next edge =>
      rw [List.flatMap_singleton] at member
      have head := head_of_opensWord q starts member
      rw [Cursor.atEdge, head, bne_iff_ne, ne_eq, Bool.not_eq_true] at edge
      exact ⟨edge, head⟩
    · cases member
  · cases starts

/-! ### Searches -/

/-- The leftmost match from a cursor on. -/
def seek (p : Pattern) (c : Cursor) : Option (Nat × Cursor) :=
  p.searchFrom c.position c.before c.rest

theorem search_eq_seek (p : Pattern) (text : List Char) : p.search text = p.seek (start text) := rfl

variable {p : Pattern}

theorem seek_of_candidates {more : List Cursor} (fresh : c.kept = [])
    (found : p.candidates c = d :: more) : p.seek c = some (c.position, d) := by
  obtain ⟨position, before, rest, kept⟩ := c
  obtain rfl : kept = [] := fresh
  rw [seek]
  cases rest with
  | nil => rw [searchFrom, found]; rfl
  | cons x rest => rw [searchFrom, found]

theorem seek_next (fresh : c.kept = []) (none : p.candidates c = []) (goesOn : c.rest ≠ []) :
    p.seek c = p.seek (c.skip 1) := by
  obtain ⟨position, before, rest, kept⟩ := c
  obtain rfl : kept = [] := fresh
  cases rest with
  | nil => exact absurd rfl goesOn
  | cons x rest =>
    rw [seek, searchFrom, none]
    rfl

theorem seek_end (fresh : c.kept = []) (none : p.candidates c = []) (ends : c.rest = []) :
    p.seek c = .none := by
  obtain ⟨position, before, rest, kept⟩ := c
  obtain rfl : kept = [] := fresh
  obtain rfl : rest = [] := ends
  rw [seek, searchFrom, none]
  rfl

/-- A stretch of the text in which no match starts is passed over. -/
theorem seek_pass {lead more : List Char} (fresh : c.kept = []) (here : c.rest = lead ++ more)
    (none : ∀ n < lead.length, p.candidates (c.skip n) = []) :
    p.seek c = p.seek (c.skip lead.length) := by
  induction lead generalizing c with
  | nil => rfl
  | cons x lead ih =>
    have goesOn : c.rest ≠ [] := by
      rw [here]
      exact List.cons_ne_nil x (lead ++ more)
    have later : ∀ n < lead.length, p.candidates ((c.skip 1).skip n) = [] := by
      intro n within
      rw [skip_skip]
      exact none (1 + n) (by rw [List.length_cons]; omega)
    rw [seek_next fresh (none 0 (by simp)) goesOn,
      ih (c := c.skip 1) fresh (by rw [skip_rest, here]; rfl) later, skip_skip, List.length_cons,
      Nat.add_comm 1]

theorem candidates_of_end (starts : p.startsWord = true) (ends : c.rest = []) :
    p.candidates c = [] := by
  rw [List.eq_nil_iff_forall_not_mem]
  intro d member
  have head := (start_of_startsWord starts member).2
  rw [ends] at head
  cases head

/-- A pattern that starts words is not looked for between them. -/
theorem seek_apart (starts : p.startsWord = true) (fresh : c.kept = []) {x : Char}
    {more : List Char} (here : c.rest = x :: more) (apart : Text.isWordChar x = false) :
    p.seek c = p.seek (c.skip 1) := by
  apply seek_next fresh
  · rw [List.eq_nil_iff_forall_not_mem]
    intro d member
    have head := (start_of_startsWord starts member).2
    rw [here, List.head?_cons, Option.any_some, apart] at head
    cases head
  · rw [here]
    exact List.cons_ne_nil x more

/-- Nor is it looked for inside a word. -/
theorem seek_inside (starts : p.startsWord = true) (fresh : c.kept = [])
    (inside : c.before.any Text.isWordChar = true) (here : c.AtWord w tail) :
    p.seek c = p.seek (c.skip w.length) := by
  induction w generalizing c with
  | nil => rfl
  | cons x w ih =>
    have none : p.candidates c = [] := by
      rw [List.eq_nil_iff_forall_not_mem]
      intro d member
      rw [(start_of_startsWord starts member).1] at inside
      cases inside
    rw [seek_next fresh none here.rest_ne_nil,
      ih (c := c.skip 1) fresh here.skip_before (here.skip (n := 1) (by simp)), skip_skip,
      List.length_cons, Nat.add_comm 1]

/-- So a word at whose start it does not match is passed over. -/
theorem seek_past (starts : p.startsWord = true) (here : c.AtWord w tail) (fresh : c.kept = [])
    (none : p.candidates c = []) : p.seek c = p.seek (c.skip w.length) := by
  cases w with
  | nil => rfl
  | cons x w =>
    rw [seek_next fresh none here.rest_ne_nil,
      seek_inside (c := c.skip 1) starts fresh here.skip_before (here.skip (n := 1) (by simp)),
      skip_skip]
    exact congrArg (fun n => p.seek (c.skip n)) (Nat.add_comm 1 w.length)

variable {text u : List Char} {ws : List (List Char)}

theorem seek_next_word (starts : p.startsWord = true) (here : c.AtWords text w (u :: ws))
    (fresh : c.kept = []) (none : p.candidates c = []) :
    p.seek c = p.seek (c.skip (w.length + 1)) := by
  have rest : (c.skip w.length).rest = ' ' :: (u ++ gapped ws) := by
    rw [skip_rest, here.rest, List.drop_left]
    rfl
  rw [seek_past starts here.atWord fresh none,
    seek_apart (c := c.skip w.length) starts fresh rest (by decide), skip_skip]

/-- A match starts with the next word, or behind it. -/
theorem candidates_or_seek (starts : p.startsWord = true) (here : c.AtWords text w (u :: ws))
    (fresh : c.kept = []) {found : Nat × Cursor} (matched : p.seek c = some found) :
    found.2 ∈ p.candidates c ∨ p.seek (c.skip (w.length + 1)) = some found := by
  cases first : p.candidates c with
  | cons d others =>
    rw [seek_of_candidates fresh first] at matched
    obtain rfl := Option.some.inj matched
    exact .inl List.mem_cons_self
  | nil =>
    rw [seek_next_word starts here fresh first] at matched
    exact .inr matched

/-- Behind the last word there is no match. -/
theorem candidates_of_seek_last (starts : p.startsWord = true) (here : c.AtWords text w [])
    (fresh : c.kept = []) {found : Nat × Cursor} (matched : p.seek c = some found) :
    found.2 ∈ p.candidates c := by
  cases first : p.candidates c with
  | cons d others =>
    rw [seek_of_candidates fresh first] at matched
    obtain rfl := Option.some.inj matched
    exact List.mem_cons_self
  | nil =>
    have ends : (c.skip w.length).rest = [] := by
      rw [skip_rest, here.rest, List.drop_left]
      rfl
    rw [seek_past starts here.atWord fresh first,
      seek_end (c := c.skip w.length) fresh (candidates_of_end starts ends) ends] at matched
    cases matched

/-- A pattern is missing in a text if none of its words has one of the openings. -/
theorem seek_of_openings (starts : p.startsWord = true) (here : c.AtWords text w ws)
    (fresh : c.kept = [])
    (other : ∀ u ∈ w :: ws, ∀ letters ∈ p.openings, spelled letters u = false) :
    p.seek c = none := by
  have none : ∀ {e : Cursor} {u tail : List Char}, e.AtWord u tail → u ∈ w :: ws →
      p.candidates e = [] := by
    intro e u tail there listed
    rw [List.eq_nil_iff_forall_not_mem]
    intro d member
    obtain ⟨letters, opening, known⟩ := p.spelled_of_openings member
    rw [there.rest, spelled_append letters there.apart, other u listed letters opening] at known
    cases known
  induction ws generalizing c w with
  | nil =>
    by_contra found
    obtain ⟨found, matched⟩ := Option.ne_none_iff_exists'.mp found
    have member := candidates_of_seek_last starts here fresh matched
    rw [none here.atWord List.mem_cons_self] at member
    cases member
  | cons u ws ih =>
    rw [seek_next_word starts here fresh (none here.atWord List.mem_cons_self)]
    exact ih here.next fresh (fun v listed => other v (List.mem_cons_of_mem w listed))
      fun there listed => none there (List.mem_cons_of_mem w listed)

/-- What the leftmost match from a cursor on keeps first. -/
def keptFrom (p : Pattern) (text : List Char) (c : Cursor) : Option (List Char) :=
  ((p.seek c).bind fun found => found.2.kept.head?).map (slice text)

theorem firstKept?_eq_keptFrom (p : Pattern) (text : List Char) :
    p.firstKept? text = (p.keptFrom text (start text)).map String.ofList := by
  rw [p.firstKept?_eq, firstRange?, search_eq_seek, keptFrom, Option.map_map]
  rfl

/-- The preferred candidate at a cursor tells what is kept. -/
theorem keptFrom_of_candidates {more : List Cursor} (fresh : c.kept = [])
    (found : p.candidates c = d :: more) (keeps : d.Keeps text w) : p.keptFrom text c = some w := by
  rw [keptFrom, seek_of_candidates fresh found, Option.bind_some, keeps.slice_eq]

theorem keptFrom_of_seek {found : Nat × Cursor} (matched : p.seek c = some found)
    (keeps : found.2.Keeps text w) : p.keptFrom text c = some w := by
  rw [keptFrom, matched, Option.bind_some, keeps.slice_eq]

end VoiceDebugger.Pattern
