import VoiceDebugger.Proofs.Json.Legible

/-!
Reading back a written value.

A value without doubles, without names that come twice in an object and without pairs written as two
halves reads back as it is. The only way in which reading can fail is an integer with too many
digits.
-/

namespace VoiceDebugger.Json

/-! ### Between values -/

theorem skipSpace_lineBreak (n : Nat) (c : Char) (rest : List Char) (dense : isSpace c = false) :
    skipSpace ((lineBreak n).toList ++ c :: rest) = c :: rest := by
  have spaces : ∀ d ∈ (lineBreak n).toList, isSpace d = true := by
    intro d mem
    simp only [lineBreak, String.toList_append, String.toList_ofList, List.mem_append] at mem
    rcases mem with feed | blank
    · have equal : d = '\n' := by simpa using feed
      rw [equal]
      rfl
    · rw [List.eq_of_mem_replicate blank]
      rfl
  rw [skipSpace, List.dropWhile_append_of_pos spaces, List.dropWhile_cons, dense]
  rfl

theorem skipSpace_dense (c : Char) (rest : List Char) (dense : isSpace c = false) :
    skipSpace (c :: rest) = c :: rest := by
  rw [skipSpace, List.dropWhile_cons, dense]
  rfl

theorem endsNumber_lineBreak (n : Nat) (rest : List Char) :
    EndsNumber ((lineBreak n).toList ++ rest) := by
  rw [lineBreak, String.toList_append, List.append_assoc]
  exact endsNumber_cons '\n' _ (by decide)

/-! ### Leaves -/

theorem readWord_digit (c : Char) (cs : List Char) (digit : c.isDigit = true) :
    readWord (c :: cs) = none := by
  have apart : ∀ d : Char, d.isDigit = false → (d == c) = false := by
    intro d other
    apply beq_eq_false_iff_ne.mpr
    rintro rfl
    rw [digit] at other
    cases other
  simp [readWord, List.isPrefixOf, apart 'n' rfl, apart 't' rfl, apart 'f' rfl, apart 'N' rfl,
    apart 'I' rfl, apart '-' rfl]

theorem readWord_minus (c : Char) (cs : List Char) (digit : c.isDigit = true) :
    readWord ('-' :: c :: cs) = none := by
  have apart : ('I' == c) = false := by
    apply beq_eq_false_iff_ne.mpr
    rintro rfl
    cases digit
  simp [readWord, List.isPrefixOf, apart]

/-- An integer is read where no word, text, list or object begins. -/
theorem readValue_int (fuel : Nat) (n : Int) (rest : List Char) (ends : EndsNumber rest) :
    readValue (fuel + 1) ((intText n).toList ++ rest) = outcome (excess? n) (.int n, rest) := by
  have number := readNumber_intText n rest ends
  obtain ⟨c, ds, front⟩ := List.exists_cons_of_ne_nil
    (show Number.digitChars n.natAbs ≠ [] from Nat.toDigits_ne_nil)
  have digit : c.isDigit = true := isDigit_of_mem_digitChars n.natAbs c (by rw [front]; simp)
  rw [intText_toList, front] at number ⊢
  have settle : ∀ cs, readWord cs = none →
      readNumber cs = outcome (excess? n) (some (Json.int n, rest)) →
      (∀ tail, cs ≠ '"' :: tail) → (∀ tail, cs ≠ '\x7b' :: tail) → (∀ tail, cs ≠ '[' :: tail) →
      readValue (fuel + 1) cs = outcome (excess? n) (.int n, rest) := by
    intro cs word value quote brace bracket
    rw [readValue]
    · simp only [word, value]
      cases excess? n <;> rfl
    · exact quote
    · exact brace
    · exact bracket
  by_cases negative : n < 0
  · simp only [negative, ↓reduceIte, List.cons_append, List.nil_append] at number ⊢
    apply settle _ (readWord_minus c _ digit) number <;> simp
  · simp only [negative, ↓reduceIte, List.cons_append, List.nil_append] at number ⊢
    have apart : ∀ d tail, d.isDigit = false → c :: (ds ++ rest) ≠ d :: tail := by
      intro d tail other equal
      rw [(List.cons.inj equal).1, other] at digit
      cases digit
    exact settle _ (readWord_digit c _ digit) number (fun tail => apart '"' tail rfl)
      (fun tail => apart '\x7b' tail rfl) (fun tail => apart '[' tail rfl)

theorem readValue_str (fuel : Nat) (t : CodeText) (rest : List Char) (unpaired : t.Unpaired) :
    readValue (fuel + 1) ((writtenText t).toList ++ rest) = .ok (.str t, rest) := by
  simp only [writtenText, String.toList_ofList, List.cons_append, List.append_assoc,
    List.nil_append]
  rw [readValue, readText_written _ rest t.codes unpaired]
  rfl

/-! ### Lists and objects -/

theorem setField_new (name : CodeText) (v : Json) (done : List (CodeText × Json))
    (fresh : name ∉ done.map Prod.fst) : setField name v done = done ++ [(name, v)] := by
  induction done with
  | nil => rfl
  | cons f done ih =>
    simp only [List.map_cons, List.mem_cons, not_or] at fresh
    have apart : (f.1 == name) = false := beq_eq_false_iff_ne.mpr (Ne.symm fresh.1)
    rw [setField, apart, ih fresh.2]
    rfl

theorem fresh_of_nodup (done fields : List (CodeText × Json)) (name : CodeText) (v : Json)
    (distinct : ((done ++ (name, v) :: fields).map Prod.fst).Nodup) :
    name ∉ done.map Prod.fst := by
  rw [List.map_append, List.nodup_append] at distinct
  intro mem
  exact distinct.2.2 name mem name (by simp) rfl

theorem itemsText_front (step depth : Nat) (v : Json) (items : List Json) (legible : Legible v) :
    ∃ c cs, itemsText step depth (v :: items) = c :: cs ∧ isSpace c = false ∧ c ≠ ']' := by
  obtain ⟨c, cs, front, dense, bracket, -⟩ := indented_front step depth v legible
  cases items with
  | nil => exact ⟨c, cs, by rw [itemsText_single, front], dense, bracket⟩
  | cons w more =>
    rw [itemsText_cons, front]
    exact ⟨c, _, rfl, dense, bracket⟩

theorem fieldsText_front (step depth : Nat) (f : CodeText × Json) (fields : List (CodeText × Json)) :
    ∃ cs, fieldsText step depth (f :: fields) = '"' :: cs := by
  have quote : ∃ cs, (writtenText f.1).toList = '"' :: cs := by
    rw [writtenText, String.toList_ofList]
    exact ⟨_, rfl⟩
  obtain ⟨cs, front⟩ := quote
  cases fields with
  | nil => exact ⟨_, by rw [fieldsText_single, front]; rfl⟩
  | cons g more => exact ⟨_, by rw [fieldsText_cons, front]; rfl⟩

theorem readText_writtenText (start rest : List Char) (t : CodeText) (unpaired : t.Unpaired) :
    ∃ cs, (writtenText t).toList ++ rest = '"' :: cs ∧ readText start cs = .ok (t.codes, rest) := by
  refine ⟨t.codes.flatMap writtenCode ++ '"' :: rest, ?_, readText_written start rest _ unpaired⟩
  simp only [writtenText, String.toList_ofList, List.cons_append, List.append_assoc,
    List.nil_append]

/-- The last item of a list. -/
theorem readItems_last (fuel close : Nat) (v : Json) (excess : Option Nat) (cs rest : List Char)
    (value : readValue fuel cs = outcome excess (v, (lineBreak close).toList ++ ']' :: rest)) :
    readItems (fuel + 1) cs = outcome excess (.arr [v], rest) := by
  rw [readItems, value]
  cases excess with
  | some digits => rfl
  | none =>
    simp only [outcome, bind, Except.bind, skipSpace_lineBreak close ']' rest rfl]
    rfl

/-- An item that another one follows. -/
theorem readItems_next (fuel depth : Nat) (v : Json) (items : List Json)
    (excess others : Option Nat) (cs next rest : List Char)
    (dense : ∃ c more, next = c :: more ∧ isSpace c = false)
    (value : readValue fuel cs = outcome excess (v, ',' :: ((lineBreak depth).toList ++ next)))
    (more : readItems fuel next = outcome others (.arr items, rest)) :
    readItems (fuel + 1) cs = outcome (excess.or others) (.arr (v :: items), rest) := by
  obtain ⟨c, tail, rfl, apart⟩ := dense
  rw [readItems, value]
  cases excess with
  | some digits => rfl
  | none =>
    simp only [outcome, bind, Except.bind, skipSpace_dense ',' _ rfl,
      skipSpace_lineBreak depth c tail apart, more]
    cases others <;> rfl

theorem readFields_name (fuel : Nat) (done : List (CodeText × Json)) (name : CodeText)
    (cs : List Char) (unpaired : name.Unpaired)
    (dense : ∃ c more, cs = c :: more ∧ isSpace c = false) :
    readFields (fuel + 1) done ((writtenText name).toList ++ ':' :: ' ' :: cs) =
      (do
        let (value, afterValue) ← readValue fuel cs
        match skipSpace afterValue with
        | '\x7d' :: tail => return (.obj (setField name value done), tail)
        | ',' :: tail => readFields fuel (setField name value done) (skipSpace tail)
        | other => .error (.at .expectedComma other)) := by
  obtain ⟨c, more, rfl, apart⟩ := dense
  obtain ⟨body, front, text⟩ := readText_writtenText
    ((writtenText name).toList ++ ':' :: ' ' :: c :: more) (':' :: ' ' :: c :: more) name unpaired
  have space : skipSpace (' ' :: c :: more) = c :: more := by
    rw [skipSpace, List.dropWhile_cons, show isSpace ' ' = true from rfl]
    exact skipSpace_dense c more apart
  rw [front] at text ⊢
  have opened := readFields.eq_def (fuel + 1) done ('"' :: body)
  simp only [text, bind, Except.bind, skipSpace_dense ':' _ rfl, space] at opened
  exact opened

/-- The last field of an object. -/
theorem readFields_last (fuel close : Nat) (done : List (CodeText × Json)) (name : CodeText)
    (v : Json) (excess : Option Nat) (cs rest : List Char) (unpaired : name.Unpaired)
    (fresh : name ∉ done.map Prod.fst) (dense : ∃ c more, cs = c :: more ∧ isSpace c = false)
    (value : readValue fuel cs = outcome excess (v, (lineBreak close).toList ++ '\x7d' :: rest)) :
    readFields (fuel + 1) done ((writtenText name).toList ++ ':' :: ' ' :: cs) =
      outcome excess (.obj (done ++ [(name, v)]), rest) := by
  rw [readFields_name fuel done name cs unpaired dense, value]
  cases excess with
  | some digits => rfl
  | none =>
    simp only [outcome, bind, Except.bind, skipSpace_lineBreak close '\x7d' rest rfl,
      setField_new name v done fresh]
    rfl

/-- A field that another one follows. -/
theorem readFields_next (fuel depth : Nat) (done fields : List (CodeText × Json)) (name : CodeText)
    (v : Json) (excess others : Option Nat) (cs next rest : List Char) (unpaired : name.Unpaired)
    (fresh : name ∉ done.map Prod.fst) (dense : ∃ c more, cs = c :: more ∧ isSpace c = false)
    (denseNext : ∃ c more, next = c :: more ∧ isSpace c = false)
    (value : readValue fuel cs = outcome excess (v, ',' :: ((lineBreak depth).toList ++ next)))
    (more : readFields fuel (done ++ [(name, v)]) next = outcome others (.obj fields, rest)) :
    readFields (fuel + 1) done ((writtenText name).toList ++ ':' :: ' ' :: cs) =
      outcome (excess.or others) (.obj fields, rest) := by
  obtain ⟨c, tail, rfl, apart⟩ := denseNext
  rw [readFields_name fuel done name cs unpaired dense, value]
  cases excess with
  | some digits => rfl
  | none =>
    simp only [outcome, bind, Except.bind, skipSpace_dense ',' _ rfl,
      skipSpace_lineBreak depth c tail apart, setField_new name v done fresh, more]
    cases others <;> rfl

theorem readValue_list (fuel n : Nat) (cs : List Char)
    (front : ∃ c more, cs = c :: more ∧ isSpace c = false ∧ c ≠ ']') :
    readValue (fuel + 1) ('[' :: ((lineBreak n).toList ++ cs)) = readItems fuel cs := by
  obtain ⟨c, more, rfl, dense, bracket⟩ := front
  rw [readValue, skipSpace_lineBreak n c more dense]
  split
  · rename_i equal
    exact absurd (List.cons.inj equal).1 bracket
  · rfl

theorem readValue_object (fuel n : Nat) (cs : List Char) (front : ∃ more, cs = '"' :: more) :
    readValue (fuel + 1) ('\x7b' :: ((lineBreak n).toList ++ cs)) = readFields fuel [] cs := by
  obtain ⟨more, rfl⟩ := front
  rw [readValue, skipSpace_lineBreak n '"' more rfl]
  rfl

/-! ### Values -/

mutual

/-- A written value reads back, and what follows it is left. -/
theorem readValue_indented (step depth fuel : Nat) (rest : List Char) (ends : EndsNumber rest) :
    (v : Json) → Legible v → 2 * (indented step depth v).toList.length ≤ fuel →
    readValue fuel ((indented step depth v).toList ++ rest) = outcome (overlong? v) (v, rest) := by
  intro v legible enough
  obtain ⟨c, cs, front, -⟩ := indented_front step depth v legible
  have positive : 0 < (indented step depth v).toList.length := by simp [front]
  obtain ⟨fuel, rfl⟩ : ∃ less, fuel = less + 1 := ⟨fuel - 1, by omega⟩
  match v, legible with
  | .null, _ =>
    rw [indented]
    rfl
  | .bool true, _ =>
    rw [indented]
    rfl
  | .bool false, _ =>
    rw [indented]
    rfl
  | .int n, _ =>
    rw [indented, overlong?]
    exact readValue_int fuel n rest ends
  | .float x, legible => cases legible
  | .str t, legible =>
    rw [indented]
    exact readValue_str fuel t rest legible
  | .arr [], _ =>
    rw [indented]
    rfl
  | .arr (v :: items), legible =>
    obtain ⟨d, ds, begin_, dense, bracket⟩ :=
      itemsText_front step (depth + step) v items legible.1
    rw [indented_list] at enough ⊢
    simp only [List.length_cons, List.length_append] at enough
    simp only [List.cons_append, List.append_assoc, List.nil_append]
    rw [readValue_list fuel (depth + step) _ ⟨d, _, by rw [begin_]; rfl, dense, bracket⟩]
    exact readItems_indented step (depth + step) depth fuel rest (v :: items) legible (by simp)
      (by omega)
  | .obj [], _ =>
    rw [indented]
    rfl
  | .obj (f :: fields), legible =>
    obtain ⟨ds, begin_⟩ := fieldsText_front step (depth + step) f fields
    rw [indented_object] at enough ⊢
    simp only [List.length_cons, List.length_append] at enough
    simp only [List.cons_append, List.append_assoc, List.nil_append]
    rw [readValue_object fuel (depth + step) _ ⟨_, by rw [begin_]; rfl⟩]
    exact readFields_indented step (depth + step) depth fuel rest (f :: fields) [] legible.2
      legible.1 (by simp) (by omega)

/-- Written items read back up to the bracket that closes their list. -/
theorem readItems_indented (step depth close fuel : Nat) (rest : List Char) :
    (items : List Json) → LegibleItems items → items ≠ [] →
    2 * (itemsText step depth items).length + 1 ≤ fuel →
    readItems fuel (itemsText step depth items ++ ((lineBreak close).toList ++ ']' :: rest)) =
      outcome (overlongItems? items) (.arr items, rest)
  | [v], legible, _, enough => by
    obtain ⟨fuel, rfl⟩ : ∃ less, fuel = less + 1 := ⟨fuel - 1, by omega⟩
    rw [itemsText_single] at enough ⊢
    have value := readValue_indented step depth fuel ((lineBreak close).toList ++ ']' :: rest)
      (endsNumber_lineBreak close _) v legible.1 (by omega)
    rw [readItems_last fuel close v (overlong? v) _ rest value, overlongItems?, overlongItems?,
      Option.or_none]
  | v :: w :: more, legible, _, enough => by
    obtain ⟨fuel, rfl⟩ : ∃ less, fuel = less + 1 := ⟨fuel - 1, by omega⟩
    rw [itemsText_cons] at enough ⊢
    simp only [List.length_cons, List.length_append] at enough
    obtain ⟨d, ds, begin_, dense, -⟩ := itemsText_front step depth w more legible.2.1
    have items := readItems_indented step depth close fuel rest (w :: more) legible.2 (by simp)
      (by omega)
    have value := readValue_indented step depth fuel
      (',' :: ((lineBreak depth).toList ++ (itemsText step depth (w :: more) ++
        ((lineBreak close).toList ++ ']' :: rest))))
      (endsNumber_cons ',' _ (by decide)) v legible.1 (by omega)
    simp only [List.append_assoc, List.cons_append] at value ⊢
    exact readItems_next fuel depth v (w :: more) _ _ _ _ rest
      ⟨d, _, by rw [begin_]; rfl, dense⟩ value items

/-- Written fields read back up to the brace that closes their object. -/
theorem readFields_indented (step depth close fuel : Nat) (rest : List Char) :
    (fields : List (CodeText × Json)) → (done : List (CodeText × Json)) → LegibleFields fields →
    ((done ++ fields).map Prod.fst).Nodup → fields ≠ [] →
    2 * (fieldsText step depth fields).length + 1 ≤ fuel →
    readFields fuel done
        (fieldsText step depth fields ++ ((lineBreak close).toList ++ '\x7d' :: rest)) =
      outcome (overlongFields? fields) (.obj (done ++ fields), rest)
  | [(name, v)], done, legible, distinct, _, enough => by
    obtain ⟨fuel, rfl⟩ : ∃ less, fuel = less + 1 := ⟨fuel - 1, by omega⟩
    obtain ⟨unpaired, good, -⟩ := legible
    obtain ⟨c, cs, front, dense, -⟩ := indented_front step depth v good
    have fresh := fresh_of_nodup done [] name v distinct
    rw [fieldsText_single] at enough ⊢
    simp only [List.length_cons, List.length_append] at enough
    have value := readValue_indented step depth fuel ((lineBreak close).toList ++ '\x7d' :: rest)
      (endsNumber_lineBreak close _) v good (by omega)
    simp only [List.append_assoc, List.cons_append]
    rw [readFields_last fuel close done name v _ _ rest unpaired fresh
      ⟨c, _, by rw [front]; rfl, dense⟩ value, overlongFields?, overlongFields?, Option.or_none]
  | (name, v) :: f :: more, done, legible, distinct, _, enough => by
    obtain ⟨fuel, rfl⟩ : ∃ less, fuel = less + 1 := ⟨fuel - 1, by omega⟩
    obtain ⟨unpaired, good, others⟩ := legible
    obtain ⟨c, cs, front, dense, -⟩ := indented_front step depth v good
    obtain ⟨ds, begin_⟩ := fieldsText_front step depth f more
    have fresh := fresh_of_nodup done (f :: more) name v distinct
    rw [fieldsText_cons] at enough ⊢
    simp only [List.length_cons, List.length_append] at enough
    have fields := readFields_indented step depth close fuel rest (f :: more)
      (done ++ [(name, v)]) others (by simpa using distinct) (by simp) (by omega)
    have value := readValue_indented step depth fuel
      (',' :: ((lineBreak depth).toList ++ (fieldsText step depth (f :: more) ++
        ((lineBreak close).toList ++ '\x7d' :: rest))))
      (endsNumber_cons ',' _ (by decide)) v good (by omega)
    simp only [List.append_assoc, List.cons_append, List.nil_append] at value fields ⊢
    exact readFields_next fuel depth done _ name v _ _ _ _ rest unpaired fresh
      ⟨c, _, by rw [front]; rfl, dense⟩ ⟨'"', _, by rw [begin_]; rfl, rfl⟩ value fields

end

/-- What is written with indentation reads back, unless an integer has too many digits. -/
theorem parse_indented (step : Nat) (v : Json) (legible : Legible v) :
    parse (indented step 0 v).toList = outcome (overlong? v) v := by
  have value := readValue_indented step 0 (2 * (indented step 0 v).toList.length + 2) []
    endsNumber_nil v legible (by omega)
  obtain ⟨c, cs, front, dense, -⟩ := indented_front step 0 v legible
  rw [List.append_nil] at value
  have plain : PlainChar c := plainText_indented step 0 v legible c (by rw [front]; simp)
  have mark : (some c == some (Char.ofNat 0xFEFF)) = false := by
    apply beq_eq_false_iff_ne.mpr
    intro equal
    cases equal
    exact absurd plain (by decide)
  rw [front] at value ⊢
  simp only [parse, List.head?_cons, mark, skipSpace_dense c cs dense, value]
  cases overlong? v <;> rfl

end VoiceDebugger.Json
