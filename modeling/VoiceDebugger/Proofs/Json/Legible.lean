import VoiceDebugger.Proofs.Json.NumberRoundTrip
import VoiceDebugger.Proofs.Json.TextRoundTrip

/-!
The values that can be read back once they are written, and what their written form looks like: how
it begins, how its parts are joined, and that it is made of plain characters only.
-/

namespace VoiceDebugger.Json

/-! ### Values that read back -/

mutual

/-- A value without doubles, whose texts hold no split pairs and whose objects name each field
once. -/
def Legible : Json → Prop
  | .float _ => False
  | .str t => t.Unpaired
  | .arr items => LegibleItems items
  | .obj fields => (fields.map Prod.fst).Nodup ∧ LegibleFields fields
  | _ => True

/-- Items that are all legible. -/
def LegibleItems : List Json → Prop
  | [] => True
  | v :: rest => Legible v ∧ LegibleItems rest

/-- Fields whose names and values are all legible. -/
def LegibleFields : List (CodeText × Json) → Prop
  | [] => True
  | (name, v) :: rest => name.Unpaired ∧ Legible v ∧ LegibleFields rest

end

mutual

/-- The number of digits of the first integer that has too many. -/
def overlong? : Json → Option Nat
  | .int n => excess? n
  | .arr items => overlongItems? items
  | .obj fields => overlongFields? fields
  | _ => none

/-- The same for the items of a list. -/
def overlongItems? : List Json → Option Nat
  | [] => none
  | v :: rest => (overlong? v).or (overlongItems? rest)

/-- The same for the fields of an object. -/
def overlongFields? : List (CodeText × Json) → Option Nat
  | [] => none
  | (_, v) :: rest => (overlong? v).or (overlongFields? rest)

end

/-! ### How a written value begins -/

/-- The first character of a written value: no space, and no bracket that closes. -/
theorem indented_front (step depth : Nat) (v : Json) (legible : Legible v) :
    ∃ c cs, (indented step depth v).toList = c :: cs ∧ isSpace c = false ∧ c ≠ ']' ∧
      c ≠ '\x7d' := by
  cases v with
  | null =>
    rw [indented]
    exact ⟨'n', "ull".toList, rfl, by decide⟩
  | bool b =>
    cases b with
    | false =>
      rw [indented]
      exact ⟨'f', "alse".toList, rfl, by decide⟩
    | true =>
      rw [indented]
      exact ⟨'t', "rue".toList, rfl, by decide⟩
  | int n =>
    obtain ⟨c, ds, front⟩ := List.exists_cons_of_ne_nil
      (show Number.digitChars n.natAbs ≠ [] from Nat.toDigits_ne_nil)
    have digit : c.isDigit = true := isDigit_of_mem_digitChars n.natAbs c (by rw [front]; simp)
    rw [indented, intText_toList, front]
    by_cases negative : n < 0
    · simp only [negative, ↓reduceIte, List.cons_append, List.nil_append]
      exact ⟨'-', _, rfl, by decide⟩
    · simp only [negative, ↓reduceIte, List.nil_append]
      refine ⟨c, ds, rfl, ?_, ?_, ?_⟩
      · apply Bool.eq_false_iff.mpr
        intro space
        simp only [isSpace, Bool.or_eq_true, beq_iff_eq] at space
        rcases space with ((rfl | rfl) | rfl) | rfl <;> cases digit
      · rintro rfl
        cases digit
      · rintro rfl
        cases digit
  | float x => cases legible
  | str t =>
    rw [indented, writtenText, String.toList_ofList, List.cons_append]
    exact ⟨'"', _, rfl, by decide⟩
  | arr items =>
    cases items with
    | nil =>
      rw [indented]
      exact ⟨'[', [']'], rfl, by decide⟩
    | cons w more =>
      simp only [indented, String.toList_append, List.append_assoc]
      exact ⟨'[', _, rfl, by decide⟩
  | obj fields =>
    cases fields with
    | nil =>
      rw [indented]
      exact ⟨'\x7b', ['\x7d'], rfl, by decide⟩
    | cons f more =>
      simp only [indented, String.toList_append, List.append_assoc]
      exact ⟨'\x7b', _, rfl, by decide⟩

/-! ### How lists and objects are joined -/

/-- The items of a list as they stand between its brackets. -/
def itemsText (step depth : Nat) (items : List Json) : List Char :=
  (("," ++ lineBreak depth).intercalate (indentedItems step depth items)).toList

theorem itemsText_single (step depth : Nat) (v : Json) :
    itemsText step depth [v] = (indented step depth v).toList := by
  simp only [itemsText, indentedItems, String.intercalate_singleton]

theorem itemsText_cons (step depth : Nat) (v w : Json) (more : List Json) :
    itemsText step depth (v :: w :: more) = (indented step depth v).toList ++
      (',' :: ((lineBreak depth).toList ++ itemsText step depth (w :: more))) := by
  simp only [itemsText, indentedItems, String.intercalate_cons_cons, String.toList_append,
    List.append_assoc]
  rfl

/-- The fields of an object as they stand between its braces. -/
def fieldsText (step depth : Nat) (fields : List (CodeText × Json)) : List Char :=
  (("," ++ lineBreak depth).intercalate (indentedFields step depth fields)).toList

theorem fieldsText_single (step depth : Nat) (name : CodeText) (v : Json) :
    fieldsText step depth [(name, v)] =
      (writtenText name).toList ++ (':' :: ' ' :: (indented step depth v).toList) := by
  simp only [fieldsText, indentedFields, String.intercalate_singleton, String.toList_append,
    List.append_assoc]
  rfl

theorem fieldsText_cons (step depth : Nat) (name : CodeText) (v : Json) (f : CodeText × Json)
    (more : List (CodeText × Json)) :
    fieldsText step depth ((name, v) :: f :: more) =
      (writtenText name).toList ++ (':' :: ' ' :: ((indented step depth v).toList ++
        (',' :: ((lineBreak depth).toList ++ fieldsText step depth (f :: more))))) := by
  simp only [fieldsText, indentedFields, String.intercalate_cons_cons, String.toList_append,
    List.append_assoc]
  rfl

theorem indented_list (step depth : Nat) (v : Json) (items : List Json) :
    (indented step depth (.arr (v :: items))).toList =
      '[' :: ((lineBreak (depth + step)).toList ++ (itemsText step (depth + step) (v :: items) ++
        ((lineBreak depth).toList ++ [']']))) := by
  simp only [indented, itemsText, indentedItems, String.toList_append, List.append_assoc]
  rfl

theorem indented_object (step depth : Nat) (f : CodeText × Json)
    (fields : List (CodeText × Json)) :
    (indented step depth (.obj (f :: fields))).toList =
      '\x7b' :: ((lineBreak (depth + step)).toList ++
        (fieldsText step (depth + step) (f :: fields) ++
          ((lineBreak depth).toList ++ ['\x7d']))) := by
  simp only [indented, fieldsText, indentedFields, String.toList_append, List.append_assoc]
  rfl

/-! ### Plain characters -/

/-- A line feed or a visible ASCII character. -/
def PlainChar (c : Char) : Prop :=
  c = '\n' ∨ 32 ≤ c.toNat ∧ c.toNat < 127

instance : DecidablePred PlainChar := fun c =>
  inferInstanceAs (Decidable (c = '\n' ∨ 32 ≤ c.toNat ∧ c.toNat < 127))

/-- A text of plain characters. -/
def PlainText (cs : List Char) : Prop :=
  ∀ c ∈ cs, PlainChar c

instance : DecidablePred PlainText := fun cs =>
  List.decidableBAll PlainChar cs

theorem plainText_append (cs ds : List Char) (first : PlainText cs) (second : PlainText ds) :
    PlainText (cs ++ ds) := by
  intro c mem
  rcases List.mem_append.mp mem with left | right
  · exact first c left
  · exact second c right

theorem plainText_cons (c : Char) (cs : List Char) (first : PlainChar c) (second : PlainText cs) :
    PlainText (c :: cs) := by
  intro d mem
  rcases List.mem_cons.mp mem with rfl | later
  · exact first
  · exact second d later

theorem plainText_nil : PlainText [] := by
  intro c mem
  cases mem

theorem plainText_lineBreak (n : Nat) : PlainText (lineBreak n).toList := by
  intro c mem
  simp only [lineBreak, String.toList_append, String.toList_ofList, List.mem_append] at mem
  rcases mem with feed | blank
  · exact Or.inl (by simpa using feed)
  · rw [List.eq_of_mem_replicate blank]
    exact Or.inr (by decide)

theorem plainText_digitChars (n : Nat) : PlainText (Number.digitChars n) := by
  intro c mem
  have digit := isDigit_of_mem_digitChars n c mem
  simp only [Char.isDigit, Bool.and_eq_true, decide_eq_true_eq] at digit
  refine Or.inr ?_
  have lower : 48 ≤ c.toNat := digit.1
  have upper : c.toNat ≤ 57 := digit.2
  omega

theorem plainText_unitEscape (n : Nat) (small : n < 0x10000) : PlainText (unitEscape n) := by
  have digit : ∀ d < 16, 32 ≤ d.digitChar.toNat ∧ d.digitChar.toNat < 127 := by decide
  rw [unitEscape, hexDigits_four n small]
  refine plainText_cons _ _ (Or.inr (by decide)) (plainText_cons _ _ (Or.inr (by decide)) ?_)
  refine plainText_cons _ _ (Or.inr (digit _ (by omega))) ?_
  refine plainText_cons _ _ (Or.inr (digit _ (by omega))) ?_
  refine plainText_cons _ _ (Or.inr (digit _ (by omega))) ?_
  exact plainText_cons _ _ (Or.inr (digit _ (by omega))) plainText_nil

theorem plainText_writtenCode (p : Code) : PlainText (writtenCode p) := by
  have form := writtenCode_form p
  generalize writtenCode p = written at form ⊢
  cases form with
  | letter c e unit known ascii =>
    exact plainText_cons _ _ (Or.inr (by decide)) (plainText_cons _ _ (Or.inr ascii) plainText_nil)
  | plain c quote escape ascii => exact plainText_cons _ _ (Or.inr ascii) plainText_nil
  | unit small => exact plainText_unitEscape p.val small
  | pair high low first second =>
    exact plainText_append _ _ (plainText_unitEscape high (by omega))
      (plainText_unitEscape low (by omega))

theorem plainText_writtenText (t : CodeText) : PlainText (writtenText t).toList := by
  rw [writtenText, String.toList_ofList]
  refine plainText_append _ _ (plainText_cons _ _ (Or.inr (by decide)) ?_)
    (plainText_cons _ _ (Or.inr (by decide)) plainText_nil)
  intro c mem
  obtain ⟨p, -, inside⟩ := List.mem_flatMap.mp mem
  exact plainText_writtenCode p c inside

theorem plainText_intText (n : Int) : PlainText (intText n).toList := by
  rw [intText_toList]
  refine plainText_append _ _ ?_ (plainText_digitChars n.natAbs)
  split
  · exact plainText_cons _ _ (Or.inr (by decide)) plainText_nil
  · exact plainText_nil

mutual

/-- Written values are made of plain characters. -/
theorem plainText_indented (step depth : Nat) :
    (v : Json) → Legible v → PlainText (indented step depth v).toList
  | .null, _ => by
    rw [indented]
    decide
  | .bool true, _ => by
    rw [indented]
    decide
  | .bool false, _ => by
    rw [indented]
    decide
  | .int n, _ => by
    rw [indented]
    exact plainText_intText n
  | .float x, legible => by
    cases legible
  | .str t, _ => by
    rw [indented]
    exact plainText_writtenText t
  | .arr [], _ => by
    rw [indented]
    decide
  | .arr (v :: items), legible => by
    rw [indented_list]
    refine plainText_cons _ _ (by decide) (plainText_append _ _ (plainText_lineBreak _) ?_)
    refine plainText_append _ _ (plainText_items step (depth + step) (v :: items) legible) ?_
    exact plainText_append _ _ (plainText_lineBreak depth) (by decide)
  | .obj [], _ => by
    rw [indented]
    decide
  | .obj (f :: fields), legible => by
    rw [indented_object]
    refine plainText_cons _ _ (by decide) (plainText_append _ _ (plainText_lineBreak _) ?_)
    refine plainText_append _ _ (plainText_fields step (depth + step) (f :: fields) legible.2) ?_
    exact plainText_append _ _ (plainText_lineBreak depth) (by decide)

/-- So are the items of a list between its brackets. -/
theorem plainText_items (step depth : Nat) :
    (items : List Json) → LegibleItems items → PlainText (itemsText step depth items)
  | [], _ => plainText_nil
  | [v], legible => by
    rw [itemsText_single]
    exact plainText_indented step depth v legible.1
  | v :: w :: more, legible => by
    rw [itemsText_cons]
    refine plainText_append _ _ (plainText_indented step depth v legible.1) ?_
    refine plainText_cons _ _ (by decide) (plainText_append _ _ (plainText_lineBreak depth) ?_)
    exact plainText_items step depth (w :: more) legible.2

/-- So are the fields of an object between its braces. -/
theorem plainText_fields (step depth : Nat) :
    (fields : List (CodeText × Json)) → LegibleFields fields →
      PlainText (fieldsText step depth fields)
  | [], _ => plainText_nil
  | [(name, v)], legible => by
    rw [fieldsText_single]
    refine plainText_append _ _ (plainText_writtenText name) ?_
    refine plainText_cons _ _ (by decide) (plainText_cons _ _ (by decide) ?_)
    exact plainText_indented step depth v legible.2.1
  | (name, v) :: f :: more, legible => by
    rw [fieldsText_cons]
    refine plainText_append _ _ (plainText_writtenText name) ?_
    refine plainText_cons _ _ (by decide) (plainText_cons _ _ (by decide) ?_)
    refine plainText_append _ _ (plainText_indented step depth v legible.2.1) ?_
    refine plainText_cons _ _ (by decide) (plainText_append _ _ (plainText_lineBreak depth) ?_)
    exact plainText_fields step depth (f :: more) legible.2.2

end

end VoiceDebugger.Json
