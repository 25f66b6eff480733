import Mathlib.Data.List.Forall2
import VoiceDebugger.Proofs.Pattern.Seek

/-!
All matches in a text, from left to right.

A pattern that is followed part by part reads what it prefers, as long as each part can go on where
the one before it has ended. A text in which such readings follow each other, with stretches between
them in which no match starts, has just these matches.

Of any text at all, each part that a match keeps was read by the part of the pattern that keeps it,
in the order in which these stand.
-/

namespace VoiceDebugger

namespace Cursor

variable {c d e : Cursor} {read front back tail : List Char}

theorem behind_skip (here : c.rest = read ++ tail) : Behind c read (c.skip read.length) where
  rest := by rw [skip_rest, here, List.drop_left]
  position := rfl
  before := by rw [skip, here, List.take_left]

/-- A cursor stands behind another one, with some characters between them, and has kept some parts
of the text since then. -/
structure ReadsTo (c : Cursor) (read : List Char) (parts : List (List Char)) (d : Cursor) : Prop
    extends Behind c read d where
  kept : ∃ ranges, d.kept = c.kept ++ ranges ∧ ∀ text : List Char,
    text.drop c.position = c.rest → ranges.map (Pattern.slice text) = parts

theorem ReadsTo.trans {first second : List (List Char)} (one : c.ReadsTo front first d)
    (other : d.ReadsTo back second e) : c.ReadsTo (front ++ back) (first ++ second) e where
  toBehind := one.toBehind.trans other.toBehind
  kept := by
    obtain ⟨ranges, kept, parts⟩ := one.kept
    obtain ⟨more, keptMore, partsMore⟩ := other.kept
    refine ⟨ranges ++ more, by rw [keptMore, kept, List.append_assoc], fun text within => ?_⟩
    rw [List.map_append, parts text within, partsMore text (one.toBehind.within within)]

theorem Behind.readsTo (moved : Behind c read d) (same : d.kept = c.kept) : c.ReadsTo read [] d where
  toBehind := moved
  kept := ⟨[], by rw [same, List.append_nil], fun _ _ => rfl⟩

end Cursor

namespace Pattern

open Cursor

variable {p : Pattern} {ps : List Pattern} {c d : Cursor} {read front back tail text : List Char}
  {parts more : List (List Char)}

/-! ### What is preferred -/

/-- Where some characters stand before others, the pattern prefers to read them, and keeps some
parts. -/
def Prefers (p : Pattern) (read tail : List Char) (parts : List (List Char)) : Prop :=
  ∀ c : Cursor, c.rest = read ++ tail →
    ∃ d others, p.candidates c = d :: others ∧ c.ReadsTo read parts d

theorem prefers_nil (tail : List Char) : (all []).Prefers [] tail [] :=
  fun c _ => ⟨c, [], rfl, (Behind.refl c).readsTo rfl⟩

/-- If the parts behind can go on where the first one prefers to end, they do. -/
theorem Prefers.cons (first : p.Prefers front (back ++ tail) parts)
    (others : (all ps).Prefers back tail more) :
    (all (p :: ps)).Prefers (front ++ back) tail (parts ++ more) := by
  intro c here
  rw [List.append_assoc] at here
  obtain ⟨d, further, found, reads⟩ := first c here
  obtain ⟨e, rest, foundNext, readsNext⟩ := others d (reads.toBehind.rest_of here)
  refine ⟨e, rest ++ further.flatMap (all ps).candidates, ?_, reads.trans readsNext⟩
  rw [candidates_all_cons, found, List.flatMap_cons, foundNext, List.cons_append]

theorem Prefers.single (only : p.Prefers read tail parts) : (all [p]).Prefers read tail parts :=
  only

theorem prefers_one {k : CharClass} {x : Char} (holds : k.contains x = true) (tail : List Char) :
    (one k).Prefers [x] tail [] := by
  intro c here
  refine ⟨c.skip 1, [], ?_, (behind_skip here).readsTo rfl⟩
  rw [candidates_one, here, List.singleton_append, List.head?_cons, Option.any_some, if_pos holds]

theorem prefers_exactly (s : String) (tail : List Char) : (exactly s).Prefers s.toList tail [] := by
  rw [exactly]
  induction s.toList with
  | nil => exact prefers_nil tail
  | cons x letters ih => exact (prefers_one (k := .only x) (beq_self_eq_true x) _).cons ih

/-- A run is read to its end. -/
theorem prefers_some1 {k : CharClass} (written : read ≠ [])
    (chars : ∀ x ∈ read, k.contains x = true) (ends : tail.head?.any k.contains = false) :
    (some1 k).Prefers read tail [] := by
  intro c here
  obtain ⟨others, found, -⟩ := candidates_some1 written chars ends here
  exact ⟨c.skip read.length, others, found, (behind_skip here).readsTo rfl⟩

theorem Prefers.keep (quiet : p.keeping = []) (inside : p.Prefers read tail parts) :
    (keep p).Prefers read tail [read] := by
  intro c here
  obtain ⟨d, others, found, reads⟩ := inside c here
  have same : d.kept = c.kept := p.kept_of_keeping_nil quiet (found ▸ List.mem_cons_self)
  refine ⟨{ d with kept := d.kept ++ [(c.position, d.position)] }, others.map _,
    by rw [candidates, found, List.map_cons], ⟨reads.rest, reads.position, reads.before⟩,
    [(c.position, d.position)], by rw [same], fun text within => ?_⟩
  rw [List.map_singleton, reads.position, slice_of_drop (within.trans reads.rest)]

/-- All that stands before a character is read, if that is what the pattern stops at. -/
theorem prefers_until {stop : Char} (written : read ≠ []) (apart : stop ∉ read) (tail : List Char) :
    (Pattern.keep (some1 (.butNot stop))).Prefers read (stop :: tail) [read] := by
  have chars : ∀ x ∈ read, CharClass.contains (.butNot stop) x = true := by
    intro x member
    rw [CharClass.contains, bne_iff_ne]
    rintro rfl
    exact apart member
  have ends : (stop :: tail).head?.any (CharClass.contains (.butNot stop)) = false :=
    bne_self_eq_false stop
  exact (prefers_some1 written chars ends).keep rfl

theorem prefers_digits (written : read ≠ []) (decimal : ∀ x ∈ read, Text.isDecimal x = true)
    (ends : tail.head?.any Text.isDecimal = false) :
    (Pattern.keep (some1 .digit)).Prefers read tail [read] :=
  (prefers_some1 (k := .digit) written decimal ends).keep rfl

/-! ### Where no match starts -/

/-- Where some characters stand, the pattern has no candidate. -/
def Misses (p : Pattern) (rest : List Char) : Prop :=
  ∀ c : Cursor, c.rest = rest → p.candidates c = []

theorem misses_of_reads {rest : List Char} (other : ∀ read, p.Reads read → ¬ read <+: rest) :
    p.Misses rest := by
  intro c here
  rw [List.eq_nil_iff_forall_not_mem]
  intro d member
  obtain ⟨read, reads, moved⟩ := p.candidates_behind member
  exact other read reads ⟨d.rest, by rw [← moved.rest, here]⟩

theorem reads_exactly {s : String} (reads : (exactly s).Reads read) : read = s.toList := by
  rw [exactly] at reads
  generalize s.toList = letters at reads ⊢
  induction letters generalizing read with
  | nil => exact reads
  | cons x letters ih =>
    cases letters with
    | nil =>
      obtain ⟨y, rfl, same⟩ := reads
      rw [beq_iff_eq.mp same]
    | cons y letters =>
      obtain ⟨_, back, rfl, ⟨z, rfl, same⟩, others⟩ := reads
      rw [ih others, beq_iff_eq.mp same]
      rfl

/-! ### All matches -/

/-- The matches in a text with the parts that they keep: stretches in which no match starts, and
behind each what is read there. -/
inductive Found (p : Pattern) : List Char → List (List (List Char)) → Prop
  | none {rest : List Char} (missing : ∀ back, back <:+ rest → p.Misses back) : Found p rest []
  | next {lead read tail : List Char} {parts : List (List Char)} {more : List (List (List Char))}
      (missing : ∀ n < lead.length, p.Misses (lead.drop n ++ (read ++ tail))) (written : read ≠ [])
      (preferred : p.Prefers read tail parts) (others : Found p tail more) :
      Found p (lead ++ (read ++ tail)) (parts :: more)

theorem findAllFrom_of_none {fuel : Nat} (missing : p.seek c = .none) :
    p.findAllFrom fuel c = [] := by
  cases fuel with
  | zero => rfl
  | succ fuel =>
    rw [findAllFrom, ← seek, missing]

theorem findAllFrom_of_some {fuel n : Nat} (found : p.seek c = some (n, d)) :
    p.findAllFrom (fuel + 1) c = d.kept :: p.findAllFrom fuel { d with kept := [] } := by
  rw [findAllFrom, ← seek, found]

theorem seek_of_missing {rest : List Char} (missing : ∀ back, back <:+ rest → p.Misses back)
    (fresh : c.kept = []) (here : c.rest = rest) : p.seek c = .none := by
  have whole : c.rest = rest ++ [] := by rw [here, List.append_nil]
  have ends : (c.skip rest.length).rest = [] := by rw [skip_rest, here, List.drop_length]
  rw [seek_pass fresh whole]
  · exact seek_end fresh (missing [] (List.nil_suffix) _ ends) ends
  · intro n _
    refine missing (rest.drop n) (List.drop_suffix n rest) _ ?_
    rw [skip_rest, here]

/-- The search goes on behind each match and finds the next one. -/
theorem findAllFrom_of_found {rest : List Char} {found : List (List (List Char))}
    (all : p.Found rest found) {fuel : Nat} (fresh : c.kept = [])
    (within : text.drop c.position = c.rest) (here : c.rest = rest) (enough : rest.length ≤ fuel) :
    (p.findAllFrom fuel c).map (·.map (slice text)) = found := by
  induction all generalizing c fuel with
  | none missing => rw [findAllFrom_of_none (seek_of_missing missing fresh here), List.map_nil]
  | @next lead read tail parts more missing written preferred others ih =>
    have behind : (c.skip lead.length).rest = read ++ tail := by
      rw [skip_rest, here, List.drop_left]
    obtain ⟨d, further, candidates, reads⟩ := preferred _ behind
    have passed : p.seek c = some (c.position + lead.length, d) := by
      rw [seek_pass fresh here]
      · exact seek_of_candidates fresh candidates
      · intro n before
        refine missing n before _ ?_
        rw [skip_rest, here, List.drop_append_of_le_length (Nat.le_of_lt before)]
    have standing : text.drop (c.skip lead.length).position = (c.skip lead.length).rest := by
      rw [skip_position, ← List.drop_drop, within, skip_rest]
    have size := List.length_pos_iff.mpr written
    rw [List.length_append, List.length_append] at enough
    obtain ⟨fuel, rfl⟩ := Nat.exists_eq_succ_of_ne_zero (by omega : fuel ≠ 0)
    obtain ⟨ranges, kept, slices⟩ := reads.kept
    rw [skip_kept, fresh, List.nil_append] at kept
    rw [Nat.succ_eq_add_one, findAllFrom_of_some passed, List.map_cons, kept, slices text standing]
    refine congrArg (parts :: ·) (ih rfl (reads.within standing) (reads.rest_of behind) ?_)
    omega

theorem findAll_of_found {found : List (List (List Char))} (all : p.Found text found) :
    p.findAll text = found.map (·.map String.ofList) := by
  have ranges := findAllFrom_of_found all (c := start text) rfl List.drop_zero rfl (Nat.le_refl _)
  rw [findAll, ← ranges, List.map_map]
  congr 1
  funext kept
  rw [Function.comp, List.map_map]
  rfl

/-! ### What is kept in any text -/

/-- Whether a pattern keeps its parts one behind the other, each in every match. -/
def keepsInOrder : Pattern → Bool
  | .both p q => p.keepsInOrder && q.keepsInOrder
  | .either p q => p.keeping.isEmpty && q.keeping.isEmpty
  | .keep p => p.keeping.isEmpty
  | .empty | .one _ | .many _ | .edge => true

/-- Since a cursor was at another one it has kept a range for each of some patterns, which has read
it. -/
def KeptInOrder (text : List Char) (keeping : List Pattern) (c d : Cursor) : Prop :=
  ∃ ranges, d.kept = c.kept ++ ranges ∧
    List.Forall₂ (fun q range => q.Reads (slice text range)) keeping ranges

theorem keptInOrder_of_quiet (p : Pattern) (quiet : p.keeping = []) (member : d ∈ p.candidates c) :
    KeptInOrder text p.keeping c d := by
  refine ⟨[], by rw [p.kept_of_keeping_nil quiet member, List.append_nil], ?_⟩
  rw [quiet]
  exact .nil

/-- Such a pattern keeps a range for each of its parts that keep, and that part has read it. -/
theorem kept_in_order (p : Pattern) (ordered : p.keepsInOrder = true)
    (within : text.drop c.position = c.rest) (member : d ∈ p.candidates c) :
    KeptInOrder text p.keeping c d := by
  induction p generalizing c d with
  | empty => exact keptInOrder_of_quiet .empty rfl member
  | one k => exact keptInOrder_of_quiet (.one k) rfl member
  | many k => exact keptInOrder_of_quiet (.many k) rfl member
  | edge => exact keptInOrder_of_quiet .edge rfl member
  | both p q ihp ihq =>
    obtain ⟨orderedp, orderedq⟩ := Bool.and_eq_true_iff.mp ordered
    obtain ⟨middle, first, second⟩ := List.mem_flatMap.mp member
    obtain ⟨read, -, moved⟩ := p.candidates_behind first
    obtain ⟨ranges, kept, reads⟩ := ihp orderedp within first
    obtain ⟨others, keptNext, readsNext⟩ := ihq orderedq (moved.within within) second
    refine ⟨ranges ++ others, ?_, List.rel_append reads readsNext⟩
    rw [keptNext, kept, List.append_assoc]
  | either p q =>
    obtain ⟨quietp, quietq⟩ := Bool.and_eq_true_iff.mp ordered
    refine keptInOrder_of_quiet (.either p q) ?_ member
    rw [keeping, List.isEmpty_iff.mp quietp, List.isEmpty_iff.mp quietq, List.append_nil]
  | keep p =>
    have quiet : p.keeping = [] := List.isEmpty_iff.mp ordered
    obtain ⟨last, inside, rfl⟩ := List.mem_map.mp member
    obtain ⟨read, reads, moved⟩ := p.candidates_behind inside
    refine ⟨[(c.position, last.position)], by rw [p.kept_of_keeping_nil quiet inside], ?_⟩
    rw [keeping, quiet, moved.position]
    exact .cons (by rw [slice_of_drop (within.trans moved.rest)]; exact reads) .nil

theorem findAllFrom_reads (ordered : p.keepsInOrder = true) {fuel : Nat}
    (within : text.drop c.position = c.rest) {ranges : List (Nat × Nat)}
    (listed : ranges ∈ p.findAllFrom fuel c) :
    List.Forall₂ (fun q range => q.Reads (slice text range)) p.keeping ranges := by
  induction fuel generalizing c with
  | zero => cases listed
  | succ fuel ih =>
    cases found : p.seek c with
    | none =>
      rw [findAllFrom_of_none found] at listed
      cases listed
    | some matched =>
      obtain ⟨n, d⟩ := matched
      rw [findAllFrom_of_some found] at listed
      obtain ⟨e, fresh, standing, member⟩ := exists_of_searchFrom within found
      obtain ⟨kept, same, reads⟩ := p.kept_in_order ordered standing member
      obtain ⟨read, -, moved⟩ := p.candidates_behind member
      rw [fresh, List.nil_append] at same
      rcases List.mem_cons.mp listed with rfl | listed
      · exact same ▸ reads
      · exact ih (c := { d with kept := [] }) (moved.within standing) listed

/-- What the matches in a text keep stands there, and the parts of the pattern that keep have read
it, one each. -/
theorem findAll_reads (ordered : p.keepsInOrder = true) {parts : List String}
    (listed : parts ∈ p.findAll text) :
    List.Forall₂ (fun q s => q.Reads s.toList ∧ s.toList <:+: text) p.keeping parts := by
  obtain ⟨ranges, found, rfl⟩ := List.mem_map.mp listed
  rw [List.forall₂_map_right_iff]
  refine (findAllFrom_reads ordered List.drop_zero found).imp fun q range reads => ?_
  rw [String.toList_ofList]
  exact ⟨reads, slice_inside text range⟩

end Pattern

end VoiceDebugger
