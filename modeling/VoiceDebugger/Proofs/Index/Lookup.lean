import VoiceDebugger.Index.Search
import VoiceDebugger.Proofs.Text.Pieces

/-!
What a search of an index returns.

Two loops, one inside the other, take records and are both left once there are enough. They come to
the first records of a list that does not depend on the limit, so a higher limit only adds to the
end, and a kind only leaves records out.
-/

namespace VoiceDebugger

namespace Index

/-- The records whose names hold a text, name by name and each in its place. -/
def found (i : Index) (query : CodeText) (kind : Option CodeText) : List Record :=
  (i.symbols.filter fun named => nameHolds query named.1).flatMap fun named =>
    named.2.filter (isOfKind kind)

/-- Where a search stands that has met some records and stops at the `n`-th. -/
def upTo (n : Nat) (met : List Record) : Except (List Record) (List Record) :=
  if met.length < n then .ok met else .error (met.take n)

theorem upTo_few {n : Nat} {met : List Record} (few : met.length < n) : upTo n met = .ok met :=
  if_pos few

theorem upTo_enough {n : Nat} {met : List Record} (enough : n ≤ met.length) :
    upTo n met = .error (met.take n) :=
  if_neg (Nat.not_lt.mpr enough)

/-- What is met after the end of a search does not count. -/
theorem upTo_append (n : Nat) (met more : List Record) (enough : n ≤ met.length) :
    upTo n (met ++ more) = .error (met.take n) := by
  have longer : n ≤ (met ++ more).length := by
    rw [List.length_append]
    omega
  rw [upTo_enough longer, List.take_append_of_le_length enough]

/-- A loop whose steps each meet some records meets those of all its steps. -/
theorem foldlM_upTo {α : Type} (n : Nat)
    (step : List Record → α → Except (List Record) (List Record)) (meets : α → List Record)
    (effect : ∀ met a, met.length < n → step met a = upTo n (met ++ meets a))
    (as : List α) (met : List Record) (few : met.length < n) :
    as.foldlM step met = upTo n (met ++ as.flatMap meets) := by
  induction as generalizing met with
  | nil =>
    rw [List.flatMap_nil, List.append_nil, upTo_few few]
    rfl
  | cons a rest ih =>
    rw [List.foldlM_cons, effect met a few, List.flatMap_cons, ← List.append_assoc]
    by_cases enough : n ≤ (met ++ meets a).length
    · rw [upTo_enough enough, upTo_append n _ _ enough]
      rfl
    · have fewer : (met ++ meets a).length < n := by omega
      rw [upTo_few fewer]
      exact ih _ fewer

section Loops

variable (query : CodeText) (kind : Option CodeText) (limit : Int)

/-- A record that is taken may be the last one asked for. A limit below one acts as one, for the
test comes after the record. -/
theorem takeRecord_eq (met : List Record) (r : Record) (few : met.length < (max limit 1).toNat) :
    takeRecord kind limit met r =
      upTo (max limit 1).toNat (met ++ [r].filter (isOfKind kind)) := by
  rw [takeRecord]
  cases ofKind : isOfKind kind r with
  | false => simp [ofKind, upTo_few few]
  | true =>
    have length : (met ++ [r]).length = met.length + 1 := List.length_append
    simp only [↓reduceIte, List.filter_cons, ofKind, List.filter_nil]
    split
    · next last =>
      have enough : (met ++ [r]).length = (max limit 1).toNat := by omega
      rw [upTo_enough (Nat.le_of_eq enough.symm), ← enough, List.take_length]
    · next notLast =>
      rw [upTo_few (by omega)]

theorem takeNamed_eq (met : List Record) (named : CodeText × List Record)
    (few : met.length < (max limit 1).toNat) :
    takeNamed query kind limit met named =
      upTo (max limit 1).toNat
        (met ++ if nameHolds query named.1 then named.2.filter (isOfKind kind) else []) := by
  rw [takeNamed]
  split
  · have kept : (named.2.flatMap fun r => [r].filter (isOfKind kind)) =
        named.2.filter (isOfKind kind) := by
      rw [← List.filter_flatMap]
      simp
    rw [foldlM_upTo _ _ _ (takeRecord_eq kind limit) named.2 met few, kept]
  · rw [List.append_nil, upTo_few few]

end Loops

theorem found_eq_flatMap (i : Index) (query : CodeText) (kind : Option CodeText) :
    i.found query kind = i.symbols.flatMap fun named =>
      if nameHolds query named.1 then named.2.filter (isOfKind kind) else [] := by
  rw [found]
  induction i.symbols with
  | nil => rfl
  | cons named rest ih =>
    rw [List.flatMap_cons, ← ih, List.filter_cons]
    split
    · rw [List.flatMap_cons]
    · rw [List.nil_append]

theorem search_eq_take (i : Index) (query : CodeText) (kind : Option CodeText) (limit : Int) :
    i.search query kind limit = (i.found query kind).take (max limit 1).toNat := by
  have start : ([] : List Record).length < (max limit 1).toNat := by
    rw [List.length_nil]
    omega
  have run := foldlM_upTo _ _ _ (takeNamed_eq query kind limit) i.symbols [] start
  rw [← found_eq_flatMap, List.nil_append] at run
  rw [search, run]
  by_cases enough : (max limit 1).toNat ≤ (i.found query kind).length
  · rw [upTo_enough enough]
  · have few : (i.found query kind).length < (max limit 1).toNat := by omega
    rw [upTo_few few, List.take_of_length_le (Nat.le_of_lt few)]

theorem isOfKind_none (r : Record) : isOfKind none r = true := rfl

theorem isOfKind_iff (kind : Option CodeText) (r : Record) :
    isOfKind kind r = true ↔
      kind = none ∨ kind = some ⟨[]⟩ ∨ ∃ k, kind = some k ∧ r.kind = .str k := by
  cases kind with
  | none => simp [isOfKind]
  | some k =>
    have empty : k.isEmpty = true ↔ k = ⟨[]⟩ := by
      rw [CodeText.isEmpty, List.isEmpty_iff, CodeText.mk.injEq]
    have equal : r.kind.same (.str k) = true ↔ r.kind = .str k := by
      cases r.kind <;> simp [Json.same, Json.integer?]
    rw [isOfKind, Bool.or_eq_true, empty, equal]
    simp

/-- A kind leaves records out of those found, and moves none. -/
theorem found_sublist (i : Index) (query : CodeText) (kind : Option CodeText) :
    (i.found query kind).Sublist (i.found query none) := by
  have all : ∀ records : List Record, records.filter (isOfKind none) = records :=
    fun records => List.filter_eq_self.mpr fun r _ => isOfKind_none r
  rw [found, found]
  induction i.symbols.filter fun named => nameHolds query named.1 with
  | nil => exact List.Sublist.refl _
  | cons named rest ih =>
    rw [List.flatMap_cons, List.flatMap_cons, all]
    exact List.filter_sublist.append ih

/-- A search returns the first records of those that match, at least one if there is one. A higher
limit returns the same records and then further ones. -/
theorem search_returns_first_matches (i : Index) (query : CodeText) (kind : Option CodeText) :
    (∀ limit : Int, i.search query kind limit = (i.found query kind).take (max limit 1).toNat) ∧
      (∀ (limit : Int) (more : Nat),
        i.search query kind limit <+: i.search query kind (limit + more)) ∧
      (i.found query kind).Sublist (i.found query none) ∧
      (∀ name, nameHolds query name = true ↔ query.lower.codes <:+: name.lower.codes) ∧
      ∀ r, isOfKind kind r = true ↔
        kind = none ∨ kind = some ⟨[]⟩ ∨ ∃ k, kind = some k ∧ r.kind = .str k := by
  refine ⟨search_eq_take i query kind, fun limit more => ?_, found_sublist i query kind,
    fun name => Text.occursIn_iff_infix _ _, isOfKind_iff kind⟩
  rw [search_eq_take, search_eq_take]
  have higher : (max limit 1).toNat ≤ (max (limit + more) 1).toNat := by omega
  exact List.take_prefix_take_left higher

end Index

end VoiceDebugger
